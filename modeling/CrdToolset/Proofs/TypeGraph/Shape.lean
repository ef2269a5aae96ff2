import CrdToolset.Proofs.Keyed
import CrdToolset.Proofs.TypeGraph.Visit

/-!
# The shape of a finished type

A walker makes the type of a position from the places of the types directly below. The shape has the
form of the schema, it refers to those places and to no others, and an object has one field for each
position directly below it.
-/

namespace CrdToolset.Walker

variable {p : Position} {places : List Nat} {e : Property}

/-- The fields of an object belong to the positions directly below it, each with the place of its
type. -/
theorem mem_fields_iff : e ∈ fields p places ↔ ∃ c place, (c, place) ∈ p.children.zip places ∧
    e = ⟨c.field, place, p.schema.required.contains c.field⟩ := by
  simp only [fields, List.mem_map, List.mem_mergeSort]
  constructor
  · rintro ⟨_, ⟨⟨c, place⟩, hzip, rfl⟩, rfl⟩
    exact ⟨c, place, hzip, rfl⟩
  · rintro ⟨c, place, hzip, rfl⟩
    exact ⟨_, ⟨(c, place), hzip, rfl⟩, rfl⟩

/-- There is one field for each position directly below, if each of them has a place. -/
theorem map_name_fields_perm (hlength : places.length = p.children.length) :
    ((fields p places).map Property.name).Perm (p.children.map Position.field) := by
  unfold fields
  refine (((List.mergeSort_perm ..).map Prod.snd).map Property.name).trans (.of_eq ?_)
  simp only [List.map_map]
  calc (p.children.zip places).map (Position.field ∘ Prod.fst)
      = ((p.children.zip places).map Prod.fst).map Position.field := by rw [List.map_map]
    _ = p.children.map Position.field := by rw [List.map_fst_zip (by omega)]

/-- The fields of an object in full, given the fields with the names of their types in the order of these
names. -/
theorem fields_eq_of_perm {named : List (String × Property)}
    (hperm : ((p.children.zip places).map fun (child, place) =>
      (child.name, (⟨child.field, place, p.schema.required.contains child.field⟩ : Property))).Perm
        named)
    (h : named.Pairwise fun a b => a.1 < b.1) : fields p places = named.map Prod.snd :=
  congrArg (List.map Prod.snd) (Keyed.sort_eq_of_perm hperm h)

/-- The type that is made for an object has the fields that are made from the places below, under
the name and the field of the position. -/
theorem node_of_object (hform : p.schema.form = .object) :
    p.node places = ⟨p.name, p.field, .object (fields p places), p.schema.constraints⟩ := by
  unfold Position.node shape
  rw [hform]

/-- The type of a position refers to the places of the positions directly below it and to no
others. -/
theorem references_node {i : Nat} (h : i ∈ (p.node places).references) : i ∈ places := by
  unfold TypeNode.references Position.node shape at h
  cases hform : p.schema.form <;> simp only [hform] at h
  case primitive => cases hkind : p.schema.primitive? <;> simp [hkind] at h
  case object =>
    obtain ⟨e, he, rfl⟩ := List.mem_map.mp h
    obtain ⟨c, place, hzip, rfl⟩ := mem_fields_iff.mp he
    exact (List.of_mem_zip hzip).2
  case array =>
    cases places with
    | nil => simp at h
    | cons place rest => simp_all
  case map =>
    cases places with
    | nil => simp at h
    | cons place rest => simp_all
  case unknown => simp at h

/-- A schema that is classified as a scalar describes one of the scalar types, so the walker is
never at a loss for it. -/
theorem exists_primitive_of_form {s : Schema} (h : s.form = .primitive) :
    ∃ kind, s.primitive? = some kind := by
  unfold Schema.form at h
  split at h
  case isTrue hsome => exact Option.isSome_iff_exists.mp hsome
  case isFalse =>
    repeat' split at h
    all_goals cases h

end CrdToolset.Walker
