import CrdToolset.Proofs.TypeGraph.PostOrder
import Mathlib.Data.List.Perm.Basic

/-!
# The positions of a schema in pre-order

All positions at and below a position, each with its depth, listed before those below it. This is the
order in which a walker comes to positions and claims their names; the types are finished in
post-order, which lists the same positions.
-/

namespace CrdToolset.Position

variable {p q c : Position} {depth : Nat} {a : Address}

/-- The positions at and below a position that lies at a depth, each with its own depth and before
those below it. -/
def preOrder (depth : Nat) (p : Position) : List (Nat × Position) :=
  (depth, p) :: p.children.attach.flatMap fun c => c.1.preOrder (depth + 1)
termination_by if p.children = [] then 0 else sizeOf p.schema + 1
decreasing_by exact measure_lt_of_mem_children c.2

/-- The pre-order lists the position itself first, then the positions below it, child after child
and one level deeper. -/
theorem preOrder_eq (depth : Nat) (p : Position) :
    p.preOrder depth = (depth, p) :: p.children.flatMap (preOrder (depth + 1)) := by
  rw [preOrder, List.flatMap_subtype (fun _ _ => rfl), List.unattach_attach]

/-- The pre-order of a position begins with the position itself, at the depth it is said to have. -/
theorem mem_preOrder_self (depth : Nat) (p : Position) : (depth, p) ∈ p.preOrder depth := by
  rw [preOrder_eq]
  exact List.mem_cons_self

/-- What is listed for a position directly below, one level deeper, is listed for the position as
well. -/
theorem mem_preOrder_of_below {x : Nat × Position} (hc : c ∈ p.children)
    (hx : x ∈ c.preOrder (depth + 1)) : x ∈ p.preOrder depth := by
  rw [preOrder_eq]
  exact List.mem_cons_of_mem _ (List.mem_flatMap.mpr ⟨c, hc, hx⟩)

/-- The pre-order for several positions goes on with the children of the first, and comes to the
others after everything below it. -/
theorem flatMap_preOrder_cons (depth : Nat) (p : Position) (rest : List Position) :
    (p :: rest).flatMap (preOrder depth) =
      (depth, p) :: (p.children.flatMap (preOrder (depth + 1)) ++
        rest.flatMap (preOrder depth)) := by
  rw [List.flatMap_cons, preOrder_eq, List.cons_append]

/-- The pre-order and the post-order of a position list the same positions, each as often. -/
theorem map_snd_preOrder_perm (depth : Nat) (p : Position) :
    ((p.preOrder depth).map Prod.snd).Perm p.postOrder := by
  induction p using postOrder.induct generalizing depth with
  | case1 p ih =>
    rw [preOrder_eq, postOrder_eq, List.map_cons, List.map_flatMap]
    refine .trans ?_ (List.perm_append_singleton _ _).symm
    exact .cons p (.flatMap_left _ fun c hc => ih ⟨c, hc⟩ (depth + 1))

/-- A position that is listed in pre-order, at whatever depth, is listed in post-order. -/
theorem mem_postOrder_of_mem_preOrder {x : Nat × Position} (h : x ∈ p.preOrder depth) :
    x.2 ∈ p.postOrder :=
  (map_snd_preOrder_perm depth p).mem_iff.mp (List.mem_map_of_mem h)

/-- An address leads to a position that lies as much deeper as the address has steps. -/
theorem mem_preOrder_of_at? (h : p.at? a = some q) : (depth + a.length, q) ∈ p.preOrder depth := by
  induction a generalizing p depth with
  | nil =>
    obtain rfl : p = q := by simpa [at?] using h
    exact mem_preOrder_self depth p
  | cons s rest ih =>
    obtain ⟨c, hc, hq⟩ := Option.bind_eq_some_iff.mp h
    have hdepth : depth + (rest.length + 1) = depth + 1 + rest.length := by omega
    rw [List.length_cons, hdepth]
    exact mem_preOrder_of_below (mem_children_of_child? hc) (ih hq)

end CrdToolset.Position
