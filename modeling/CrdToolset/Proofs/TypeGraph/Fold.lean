import CrdToolset.TypeGraph.Basic
import Mathlib.Data.List.Induction

/-!
# Values computed in one pass

The pass over a type graph gives each type a value made from the values of the types before it. As
long as types refer to types before them only, this is the value made from the values of all types
that it refers to, so a computed value satisfies the equation by which it was meant to be computed.
-/

namespace CrdToolset

/-- Every type of a graph refers to types at earlier places only. So one pass from the front meets
each type after all it refers to. -/
def TypeGraph.Backward (g : TypeGraph) : Prop :=
  ∀ (place : Nat) (node : TypeNode), g[place]? = some node → ∀ i ∈ node.references, i < place

/-- The value that a step makes for a type depends on the values of the types that the type refers
to, and on no others. -/
def LooksAtReferences {α : Type} (f : Nat → TypeNode → (Nat → Option α) → α) : Prop :=
  ∀ (place : Nat) (node : TypeNode) (inner inner' : Nat → Option α),
    (∀ i ∈ node.references, inner i = inner' i) → f place node inner = f place node inner'

namespace TypeGraph

variable {α : Type} {g : TypeGraph} {node : TypeNode} {place : Nat}
  {f : Nat → TypeNode → (Nat → Option α) → α}

/-- What holds of no types, and of one type more whenever it holds, holds of all graphs. -/
theorem push_induction {motive : TypeGraph → Prop} (empty : motive #[])
    (push : ∀ (g : TypeGraph) (node : TypeNode), motive g → motive (g.push node))
    (g : TypeGraph) : motive g := by
  have htoArray (nodes : List TypeNode) : motive nodes.toArray := by
    induction nodes using List.reverseRecOn with
    | nil => exact empty
    | append_singleton nodes last ih => simpa using push nodes.toArray last ih
  simpa using htoArray g.toList

/-- With one more type in the graph, the pass gives one more value, made from the values that are
there already. -/
theorem fold_push (f : Nat → TypeNode → (Nat → Option α) → α) (g : TypeGraph) (node : TypeNode) :
    fold f (g.push node) = (fold f g).push (f (fold f g).size node fun i => (fold f g)[i]?) := by
  unfold fold
  rw [Array.foldl_push]

/-- The pass gives one value for each type of the graph, at the place of the type. -/
theorem size_fold (f : Nat → TypeNode → (Nat → Option α) → α) (g : TypeGraph) :
    (fold f g).size = g.size := by
  induction g using push_induction with
  | empty => rfl
  | push g last ih => rw [fold_push, Array.size_push, Array.size_push, ih]

/-- Without its last type a backward graph is still backward, as no earlier type refers to the
last. -/
theorem Backward.of_push (hg : Backward (g.push node)) : g.Backward := by
  intro place old hold
  have hlt : place < g.size := (Array.getElem?_eq_some_iff.mp hold).1
  refine hg place old ?_
  rw [Array.getElem?_push, if_neg (by omega), hold]

/-- Where types refer to types before them, every value is made from the values of the types that
its type refers to. -/
theorem getElem?_fold (hg : g.Backward) (hf : LooksAtReferences f) (h : g[place]? = some node) :
    (fold f g)[place]? = some (f place node fun i => (fold f g)[i]?) := by
  induction g using push_induction with
  | empty => simp at h
  | push g last ih =>
    have hsize := size_fold f g
    rw [fold_push]
    generalize hvalue : f (fold f g).size last (fun i => (fold f g)[i]?) = value
    -- One value more changes nothing for the references of a type, which lie before it.
    have hinner (i : Nat) (hi : i < g.size) :
        (fold f g)[i]? = ((fold f g).push value)[i]? := by
      rw [Array.getElem?_push, if_neg (by omega)]
    have hrefs := hg place node h
    rw [Array.getElem?_push] at h
    split at h
    case isTrue hlast =>
      obtain rfl := Option.some.inj h
      rw [Array.getElem?_push, if_pos (by omega), ← hvalue, hsize, ← hlast]
      refine congrArg some (hf _ _ _ _ fun i hi => ?_)
      have hlt := hrefs i hi
      rw [hlast, ← hsize, hvalue]
      exact hinner i (by omega)
    case isFalse =>
      have hlt : place < g.size := (Array.getElem?_eq_some_iff.mp h).1
      rw [← hinner place hlt, ih hg.of_push h]
      refine congrArg some (hf _ _ _ _ fun i hi => ?_)
      have hlt := hrefs i hi
      exact hinner i (by omega)

/-- The same equation for values that are looked up with a value for missing types, which is then
never used. -/
theorem getD_fold (hg : g.Backward) (hf : LooksAtReferences f) (h : g[place]? = some node)
    (missing : α) :
    ((fold f g)[place]?).getD missing =
      f place node fun i => some (((fold f g)[i]?).getD missing) := by
  rw [getElem?_fold hg hf h, Option.getD_some]
  refine hf _ _ _ _ fun i hi => ?_
  have hlt : i < (fold f g).size := by
    have := hg place node h i hi
    have := (Array.getElem?_eq_some_iff.mp h).1
    rw [size_fold]
    omega
  rw [Array.getElem?_eq_getElem hlt, Option.getD_some]

end TypeGraph

end CrdToolset
