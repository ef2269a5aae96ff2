import CrdToolset.Proofs.TypeGraph.Growth
import CrdToolset.Proofs.TypeGraph.PostOrder
import CrdToolset.Proofs.TypeGraph.Shape

/-!
# Visits of positions that are all new

Where no two positions at or below those visited have the same path, and none of the paths is known
yet, a successful visit never answers from the cache. It adds one type for each of the positions, in
post-order.
-/

namespace CrdToolset.Walker

variable {w v w' : Walker} {levels : Nat} {ps qs : List Position}
  {outcome : Except Fault (List Nat)}

/-- The type was made for the position: it refers to the types that the cache has for the positions
directly below. -/
def Made (w : Walker) (q : Position) (node : TypeNode) : Prop :=
  ∃ places, node = q.node places ∧ List.Forall₂ w.Cached q.children places

/-- What a type was made for stays true as the walker goes on, since nothing that it knows is
changed. -/
theorem Made.extends {q : Position} {node : TypeNode} (h : w.Made q node) (hext : w.Extends v) :
    v.Made q node := by
  obtain ⟨places, rfl, hplaces⟩ := h
  exact ⟨places, rfl, hplaces.imp fun _ _ => hext.cached _ _⟩

/-- Between the two walkers, one type has been made for each position of a list, in order, and
nothing else. -/
structure Gains (w v : Walker) (qs : List Position) : Prop where
  /-- There are as many new types as positions. -/
  size : v.graph.size = w.graph.size + qs.length
  /-- The type of each position is at the next place, and found there by the path of the position.
  -/
  made : ∀ (k : Nat) (q : Position), qs[k]? = some q →
    v.cache.lookup q.path = some (w.graph.size + k) ∧
      ∃ node, v.graph[w.graph.size + k]? = some node ∧ v.Made q node
  /-- No other path leads to a new type. -/
  others : ∀ path, (∀ q ∈ qs, q.path ≠ path) → v.cache.lookup path = w.cache.lookup path

/-- Claiming a name makes no type, so the graph gains nothing by it. -/
theorem gains_own (name owner : String) (w : Walker) : Gains w (w.own name owner) [] where
  size := by simp
  made k q hq := by simp at hq
  others path _ := by simp

/-- Adding the type of a position whose path is new makes just that type, if the positions directly
below have been made. -/
theorem gains_add {q : Position} {places : List Nat} (hnew : w.cache.lookup q.path = none)
    (hplaces : List.Forall₂ w.Cached q.children places) :
    Gains w (w.add q.path (q.node places)) [q] where
  size := Array.size_push ..
  made k r hr := by
    obtain ⟨rfl, rfl⟩ : k = 0 ∧ q = r := by
      cases k <;> simp_all
    refine ⟨lookup_add_self .., q.node places, by simp [add], places, rfl, ?_⟩
    exact hplaces.imp fun _ _ => (extends_add hnew _).cached _ _
  others path hpath := by
    rw [lookup_add, if_neg]
    exact fun h => hpath q (by simp) h.symm

/-- What a walker makes in two stretches, one after the other, it makes in the joint stretch, in the
same order. -/
theorem Gains.append (h : Gains w v qs) {rs : List Position} (h' : Gains v w' rs)
    (hext : v.Extends w') : Gains w w' (qs ++ rs) where
  size := by
    rw [h'.size, h.size, List.length_append]
    omega
  made k q hq := by
    rw [List.getElem?_append] at hq
    split at hq
    case isTrue =>
      obtain ⟨hcached, node, hnode, hmade⟩ := h.made k q hq
      exact ⟨hext.cached _ _ hcached, node, hext.node _ _ hnode, hmade.extends hext⟩
    case isFalse hk =>
      have hplace : v.graph.size + (k - qs.length) = w.graph.size + k := by
        rw [h.size]
        omega
      rw [← hplace]
      exact h'.made (k - qs.length) q hq
  others path hpath := by
    rw [h'.others path fun q hq => hpath q (List.mem_append_right _ hq)]
    exact h.others path fun q hq => hpath q (List.mem_append_left _ hq)

/-- Paths that are different from all those for which types were made are as new as before. -/
theorem Gains.not_cached (h : Gains w v qs) {rs : List Position}
    (hdisjoint : ((qs ++ rs).map Position.path).Nodup)
    (hnew : ∀ r ∈ rs, w.cache.lookup r.path = none) : ∀ r ∈ rs, v.cache.lookup r.path = none := by
  intro r hr
  rw [h.others r.path, hnew r hr]
  intro q hq
  rw [List.map_append, List.nodup_append] at hdisjoint
  exact hdisjoint.2.2 _ (List.mem_map_of_mem hq) _ (List.mem_map_of_mem hr)

/-- A successful visit of positions that are all new makes their types in post-order, one for each,
and no others. -/
theorem Visits.gains (h : Visits levels ps w outcome w') {places : List Nat}
    (hok : outcome = .ok places)
    (hnodup : ((ps.flatMap Position.postOrder).map Position.path).Nodup)
    (hnew : ∀ q ∈ ps.flatMap Position.postOrder, w.cache.lookup q.path = none) :
    Gains w w' (ps.flatMap Position.postOrder) := by
  induction h generalizing places with
  | nil => exact ⟨by simp, by simp, by simp⟩
  | refused => cases hok
  | @reused _ _ p _ _ _ _ _ hit =>
    have hfresh := hnew p (by simp [Position.mem_postOrder_self])
    simp [hit] at hfresh
  | abandoned => cases hok
  | @finished _ p rest w v _ below outcome fresh free hbelow hafter ihbelow ihafter =>
    obtain ⟨after, rfl, -⟩ := map_eq_ok_iff.mp hok
    -- The new types come in three stretches: below the position, its own, and the remaining ones.
    have hsplit : (p :: rest).flatMap Position.postOrder =
        p.children.flatMap Position.postOrder ++ ([p] ++ rest.flatMap Position.postOrder) := by
      rw [List.flatMap_cons, Position.postOrder_eq, List.append_assoc]
    rw [hsplit] at hnodup hnew ⊢
    have hnodup' := hnodup
    simp only [List.map_append, List.nodup_append] at hnodup'
    obtain ⟨hnodupBelow, ⟨_, hnodupAfter, _⟩, _⟩ := hnodup'
    have hgainsBelow : Gains w v (p.children.flatMap Position.postOrder) :=
      (gains_own p.name p.path w).append
        (ihbelow rfl hnodupBelow fun q hq => by simpa using hnew q (List.mem_append_left _ hq))
        hbelow.extends
    have hnewAfter := hgainsBelow.not_cached hnodup
      fun q hq => hnew q (List.mem_append_right _ hq)
    have hgainsSelf : Gains v (v.add p.path (p.node below)) [p] :=
      gains_add (hnewAfter p (by simp)) (hbelow.cached_places rfl)
    have hnewRest := hgainsSelf.not_cached (List.Nodup.of_append_right (by simpa using hnodup))
      fun q hq => hnewAfter q (List.mem_append_right _ hq)
    have hgainsRest := ihafter rfl hnodupAfter hnewRest
    exact hgainsBelow.append (hgainsSelf.append hgainsRest hafter.extends)
      ((extends_add (hnewAfter p (by simp)) _).trans hafter.extends)

end CrdToolset.Walker
