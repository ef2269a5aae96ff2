import CrdToolset.Go.Struct
import CrdToolset.Proofs.Go.Equations
import CrdToolset.Proofs.TypeGraph.ObjectTypes

/-!
# Names in type expressions

A type expression mentions the structs of the objects that its type leads to through lists and maps.
The fields of those structs mention the next ones. So the structs that are mentioned somewhere are
those of the objects at or below a type.
-/

namespace CrdToolset.Go

/-- The names of declared types that are mentioned in a type expression, under lists, maps and
pointers. -/
def TypeExpr.names : TypeExpr → List String
  | .primitive _ => []
  | .named name => [name]
  | .slice element => element.names
  | .map value => value.names
  | .pointer target => target.names
  | .any => []

variable {g : TypeGraph} {node : TypeNode} {place i : Nat} {name : String}

/-- The type expression of an object mentions one struct, the one that has the name of the
object. -/
theorem names_typeExpr_of_object (hg : g.Backward) (h : g[place]? = some node)
    (hform : node.form = .object) : (typeExpr g place).names = [node.name] := by
  rw [typeExpr_eq hg h, typeExprFrom, TypeNode.shape_eq_object hform]
  rfl

/-- The type expression of a type that is no object mentions the structs that the expressions of its
parts mention. -/
theorem names_typeExpr_of_not_object (hg : g.Backward) (h : g[place]? = some node)
    (hform : node.form ≠ .object) :
    (typeExpr g place).names = node.references.flatMap fun i => (typeExpr g i).names := by
  rw [typeExpr_eq hg h]
  unfold typeExprFrom TypeNode.references
  cases hshape : node.shape with
  | object => simp [TypeNode.form, hshape, Shape.form] at hform
  | map value => cases value <;> simp [TypeExpr.names]
  | _ => simp [TypeExpr.names]

/-- The type of a field mentions the structs that the type of its property mentions, whether it is a
pointer or not. -/
theorem names_fieldType (g : TypeGraph) (p : Property) :
    (fieldType g p).names = (typeExpr g p.type).names := by
  unfold fieldType
  split <;> rfl

/-- Every name that is mentioned is that of an object at or below the type. -/
theorem exists_of_mem_names (hg : g.Backward) (h : name ∈ (typeExpr g place).names) :
    ∃ i ∈ g.objectsAt place, g.nameAt i = name := by
  induction place using Nat.strongRecOn with
  | ind place ih =>
    cases hnode : g[place]? with
    | none => simp [typeExpr_of_none hnode, TypeExpr.names] at h
    | some node =>
      by_cases hform : node.form = .object
      · rw [names_typeExpr_of_object hg hnode hform, List.mem_singleton] at h
        refine ⟨place, (TypeGraph.mem_objectsAt hg hnode).mpr (.inl ⟨rfl, hform⟩), ?_⟩
        rw [TypeGraph.nameAt_of_getElem? hnode, h]
      · rw [names_typeExpr_of_not_object hg hnode hform] at h
        obtain ⟨j, hj, hname⟩ := List.mem_flatMap.mp h
        have hlt : j < place := hg place node hnode j hj
        obtain ⟨i, hi, hnameAt⟩ := ih j hlt hname
        exact ⟨i, (TypeGraph.mem_objectsAt hg hnode).mpr (.inr ⟨j, hj, hi⟩), hnameAt⟩

/-- Every object at or below a type is mentioned by the type or by a field of an object at or below
it. -/
theorem mem_names_or_exists_field (hg : g.Backward) (h : i ∈ g.objectsAt place) :
    g.nameAt i ∈ (typeExpr g place).names ∨
      ∃ j ∈ g.objectsAt place, ∃ owner, g[j]? = some owner ∧
        ∃ p ∈ owner.properties, g.nameAt i ∈ (fieldType g p).names := by
  induction place using Nat.strongRecOn with
  | ind place ih =>
    obtain ⟨node, hnode⟩ := TypeGraph.exists_of_mem_objectsAt h
    rcases (TypeGraph.mem_objectsAt hg hnode).mp h with ⟨rfl, hform⟩ | ⟨k, hk, hik⟩
    · left
      rw [names_typeExpr_of_object hg hnode hform, TypeGraph.nameAt_of_getElem? hnode]
      exact List.mem_singleton_self _
    · have hlt : k < place := hg place node hnode k hk
      rcases ih k hlt hik with hname | ⟨j, hj, owner, hfield⟩
      · by_cases hform : node.form = .object
        · right
          have hself := (TypeGraph.mem_objectsAt hg hnode).mpr (.inl ⟨rfl, hform⟩)
          obtain ⟨p, hp, rfl⟩ : ∃ p ∈ node.properties, p.type = k := by
            rw [TypeNode.references, TypeNode.shape_eq_object hform] at hk
            exact List.mem_map.mp hk
          refine ⟨place, hself, node, hnode, p, hp, ?_⟩
          rw [names_fieldType]
          exact hname
        · left
          rw [names_typeExpr_of_not_object hg hnode hform]
          exact List.mem_flatMap.mpr ⟨k, hk, hname⟩
      · right
        exact ⟨j, (TypeGraph.mem_objectsAt hg hnode).mpr (.inr ⟨k, hk, hj⟩), owner, hfield⟩

end CrdToolset.Go
