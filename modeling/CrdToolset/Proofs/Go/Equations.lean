import CrdToolset.Go.Literal
import CrdToolset.Go.TypeExpr
import CrdToolset.Proofs.TypeGraph.Fold

/-!
# Equations for type expressions and literals

The type expressions and the literals of all types are computed in one pass over the graph. Where
types refer to types before them, both satisfy the recursion that is meant by it: the value of a type
is made from the values of the types that it refers to.
-/

namespace CrdToolset.Go

variable {g : TypeGraph} {node : TypeNode} {place : Nat}

/-- The type expression of a node is made from those of the types that it refers to, and it does not
look at others. -/
theorem looksAtReferences_typeExprFrom : LooksAtReferences typeExprFrom := by
  intro place node inner inner' h
  unfold typeExprFrom
  unfold TypeNode.references at h
  cases hshape : node.shape with
  | array element => simp_all
  | map value => cases value <;> simp_all
  | _ => rfl

/-- The type expression of a type is made by the shape of the type from the expressions of the types
that it refers to. This is the recursion that the pass over the graph stands for. -/
theorem typeExpr_eq (hg : g.Backward) (h : g[place]? = some node) :
    typeExpr g place = typeExprFrom place node fun i => some (typeExpr g i) :=
  TypeGraph.getD_fold hg looksAtReferences_typeExprFrom h .any

/-- A place at which the graph has no type has the type expression of values that may be
anything. -/
theorem typeExpr_of_none (h : g[place]? = none) : typeExpr g place = .any := by
  have hsize : g.size ≤ place := Array.getElem?_eq_none_iff.mp h
  have hmissing : (typeExprs g)[place]? = none :=
    Array.getElem?_eq_none (by rw [typeExprs, TypeGraph.size_fold]; exact hsize)
  rw [typeExpr, hmissing, Option.getD_none]

namespace Literal

/-- The literal of a node is made from those of the types that it refers to, and it does not look at
others. -/
theorem looksAtReferences_fromNode : LooksAtReferences fromNode := by
  intro place node inner inner' h
  unfold fromNode
  unfold TypeNode.references at h
  cases hshape : node.shape with
  | object properties =>
    have hinner : properties.map (fun p => (p.name, (inner p.type).getD {})) =
        properties.map fun p => (p.name, (inner' p.type).getD {}) := by
      refine List.map_congr_left fun p hp => ?_
      rw [h p.type (by simpa [hshape] using ⟨p, hp, rfl⟩)]
    simp only [hinner]
  | array element => simp_all
  | map value => cases value <;> simp_all
  | _ => rfl

/-- The literal of a type is made by the shape of the type from the literals of the types that it
refers to, as `typeExpr_eq` says it of type expressions. -/
theorem ofType_eq (hg : g.Backward) (h : g[place]? = some node) :
    ofType g place = fromNode place node fun i => some (ofType g i) :=
  TypeGraph.getD_fold hg looksAtReferences_fromNode h {}

end Literal

end CrdToolset.Go
