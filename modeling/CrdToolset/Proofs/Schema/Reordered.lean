import CrdToolset.Proofs.Keyed
import CrdToolset.Proofs.Schema.Everywhere
import CrdToolset.Schema.Form

/-!
# Schemas written in another order

Two schemas say the same if they differ only in the order in which properties are written, and in
the order and the number of times in which the names of required properties are, at any level. They
have the same form, and the same properties in the same order once these are sorted.
-/

namespace CrdToolset

/-- What is said about unnamed properties is the same in both: they are allowed or not, or have
schemas that are related. -/
inductive Additional.Rel {σ : Type} (r : σ → σ → Prop) : Additional σ → Additional σ → Prop
  | allowed (yes : Bool) : Rel r (.allowed yes) (.allowed yes)
  | schema {s t : σ} (h : r s t) : Rel r (.schema s) (.schema t)

/-- The schemas differ only in how properties and the names of required properties are listed. Of
each property that is named, every schema in the one list is related to every schema in the other;
where a list names each property once, that is the one schema of the property. -/
inductive Schema.Reordered : Schema → Schema → Prop
  | intro {s t : Schema} (type : s.type = t.type) (format : s.format = t.format)
      (constraints : s.constraints = t.constraints)
      (keys : (s.properties.map Prod.fst).Perm (t.properties.map Prod.fst))
      (properties : ∀ name a b, (name, a) ∈ s.properties → (name, b) ∈ t.properties → Reordered a b)
      (required : ∀ name, name ∈ s.required ↔ name ∈ t.required)
      (items : Option.Rel Reordered s.items t.items)
      (additional : Option.Rel (Additional.Rel Reordered) s.additional t.additional) : Reordered s t

/-- The schemas are the same, or differ only in how properties and the names of required properties are
listed. Being the same is a case of its own, because a schema that names a property twice need not be
`Reordered` with respect to itself. -/
def Schema.SameUpToOrder (s t : Schema) : Prop := s = t ∨ s.Reordered t

namespace Schema

variable {s t : Schema}

/-- Options that are related are both present or both absent. -/
theorem isSome_eq_of_rel {α β : Type} {r : α → β → Prop} {a : Option α} {b : Option β}
    (h : Option.Rel r a b) : a.isSome = b.isSome := by
  cases h <;> rfl

/-- A schema without properties, elements and values is in another order than itself in the trivial
way. Missing elements are described by such a schema. -/
theorem Reordered.of_leaf (hproperties : s.properties = []) (hitems : s.items = none)
    (hadditional : s.additional = none) : s.Reordered s :=
  .intro rfl rfl rfl (.refl _) (by simp [hproperties]) (fun _ => Iff.rfl)
    (by rw [hitems]; exact .none) (by rw [hadditional]; exact .none)

namespace Reordered

/-- Schemas that differ in their order only say the same about single values. -/
theorem constraints_eq (h : s.Reordered t) : s.constraints = t.constraints := by
  cases h with
  | intro _ _ constraints => exact constraints

/-- Schemas that differ in their order only require the same properties, however often they name
them. -/
theorem contains_required_eq (h : s.Reordered t) (name : String) :
    s.required.contains name = t.required.contains name := by
  cases h with
  | intro _ _ _ _ _ required =>
    rw [Bool.eq_iff_iff, List.contains_iff_mem, List.contains_iff_mem]
    exact required name

/-- Schemas that differ in their order only stand for the same scalar type, if they stand for
one. -/
theorem primitive?_eq (h : s.Reordered t) : s.primitive? = t.primitive? := by
  cases h with
  | intro type format =>
    unfold primitive?
    rw [type, format]

/-- The elements of lists are described by both or by none of two schemas that differ in their order
only, and by schemas that differ in this way, too. -/
theorem items_rel (h : s.Reordered t) : Option.Rel Reordered s.items t.items := by
  cases h with
  | intro _ _ _ _ _ _ items => exact items

/-- The values of maps are described by both or by none of two schemas that differ in their order
only, and by schemas that differ in this way, too. -/
theorem additionalSchema_rel (h : s.Reordered t) :
    Option.Rel Reordered s.additionalSchema t.additionalSchema := by
  cases h with
  | intro _ _ _ _ _ _ _ additional =>
    unfold additionalSchema
    generalize s.additional = a, t.additional = b at additional ⊢
    cases additional with
    | none => exact .none
    | some h =>
      cases h with
      | allowed => exact .none
      | schema h => exact .some h

/-- Schemas that differ in their order only have the same names of properties once these are sorted,
with schemas that differ in this way, too. -/
theorem sortedProperties_rel (h : s.Reordered t) :
    List.Forall₂ (fun a b => a.1 = b.1 ∧ a.2.Reordered b.2)
      s.sortedProperties t.sortedProperties := by
  cases h with
  | intro _ _ _ keys properties => exact Keyed.forall₂_sort keys properties

/-- Schemas that differ in their order only have the same form, so the walker does the same with
both. -/
theorem form_eq (h : s.Reordered t) : s.form = t.form := by
  have hprimitive := h.primitive?_eq
  have hitems := isSome_eq_of_rel h.items_rel
  have hadditional := isSome_eq_of_rel h.additionalSchema_rel
  cases h with
  | intro type _ _ keys =>
    have hproperties : s.properties.isEmpty = t.properties.isEmpty := by
      have hlength : s.properties.length = t.properties.length := by simpa using keys.length_eq
      rw [Bool.eq_iff_iff, List.isEmpty_iff_length_eq_zero, List.isEmpty_iff_length_eq_zero,
        hlength]
    unfold form
    rw [hprimitive, type, hproperties, hitems, hadditional]

/-- A schema is related to itself, if it names each property once at every level. -/
theorem refl (h : s.KeysDistinct) : s.Reordered s := by
  induction h with
  | @intro s here _ _ _ ihproperties ihitems ihadditional =>
    refine .intro rfl rfl rfl (.refl _) ?properties (fun _ => Iff.rfl) ?items ?additional
    case properties =>
      intro name a b ha hb
      have hlookup := (Keyed.lookup_eq_some_iff_mem here).mpr ha
      obtain rfl : a = b := by simpa [hlookup] using (Keyed.lookup_eq_some_iff_mem here).mpr hb
      exact ihproperties _ ha
    case items =>
      cases hitems : s.items with
      | none => exact .none
      | some t => exact .some (ihitems t hitems)
    case additional =>
      cases hadditional : s.additional with
      | none => exact .none
      | some additional =>
        cases additional with
        | allowed yes => exact .some (.allowed yes)
        | schema t =>
          exact .some (.schema (ihadditional t (by simp [additionalSchema, hadditional])))

/-- Properties that are each named once can be written in any order, and the names of required
properties in any order and any number of times. -/
theorem of_perm (h : s.KeysDistinct) {properties : List (String × Schema)} {required : List String}
    (hproperties : s.properties.Perm properties)
    (hrequired : ∀ name, name ∈ s.required ↔ name ∈ required) :
    s.Reordered { s with properties, required } := by
  cases refl h with
  | intro type format constraints _ hrefl _ items additional =>
    refine .intro type format constraints (hproperties.map Prod.fst) ?_ hrequired items additional
    intro name a b ha hb
    exact hrefl name a b ha (hproperties.mem_iff.mpr hb)

end Reordered

end Schema

end CrdToolset
