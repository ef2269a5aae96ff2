import CrdToolset.Proofs.Schema.Reordered
import CrdToolset.TypeGraph.Walker

/-!
# Walks of schemas written in another order

Two positions whose schemas differ only in the order in which things are listed have the same
positions below them, up to that order. The walker takes the same steps at both, whether it succeeds
or fails.
-/

namespace CrdToolset

/-- Two positions agree but for the order in which properties and required names are listed in their
schemas. -/
structure Position.Reordered (p q : Position) : Prop where
  /-- The schemas differ in that order only. -/
  schema : p.schema.Reordered q.schema
  /-- The types have the same name. -/
  name : p.name = q.name
  /-- The same property leads to both. -/
  field : p.field = q.field
  /-- They have the same path. -/
  path : p.path = q.path

variable {p q : Position}

/-- The positions directly below two such positions agree one by one, since properties are visited
in the order of their names. -/
theorem Position.Reordered.children (h : p.Reordered q) :
    List.Forall₂ Position.Reordered p.children q.children := by
  unfold Position.children
  rw [← h.schema.form_eq]
  split
  case h_1 =>
    rw [List.forall₂_map_left_iff, List.forall₂_map_right_iff]
    refine h.schema.sortedProperties_rel.imp ?_
    rintro ⟨name, s⟩ ⟨_, t⟩ ⟨rfl, hst⟩
    exact ⟨hst, by simp [property, h.name], rfl, by simp [property, h.path]⟩
  case h_2 =>
    refine .cons ⟨?_, by simp [element, h.name], rfl, by simp [element, h.path]⟩ .nil
    have hitems := h.schema.items_rel
    simp only [element]
    generalize p.schema.items = a, q.schema.items = b at hitems ⊢
    cases hitems with
    | none => exact .of_leaf rfl rfl rfl
    | some hst => exact hst
  case h_3 =>
    have hadditional := h.schema.additionalSchema_rel
    generalize p.schema.additionalSchema = a, q.schema.additionalSchema = b at hadditional ⊢
    cases hadditional with
    | none => exact .nil
    | some hst => exact .cons ⟨hst, by simp [value, h.name], rfl, by simp [value, h.path]⟩ .nil
  case h_4 => exact .nil

section Lists

variable {α β γ : Type} {r : α → β → Prop} {l : List α} {l' : List β}

/-- A step that does not tell related values apart gives the same results for related lists. -/
theorem mapM_eq_of_forall₂ {m : Type → Type} [Monad m] [LawfulMonad m] {f : α → m γ} {g : β → m γ}
    (hfg : ∀ a b, r a b → f a = g b) (h : List.Forall₂ r l l') : l.mapM f = l'.mapM g := by
  induction h with
  | nil => rfl
  | cons hab _ ih => rw [List.mapM_cons, List.mapM_cons, hfg _ _ hab, ih]

/-- A function that does not tell related values apart gives the same results for related lists that
are paired with one list. -/
theorem map_zip_eq_of_forall₂ {δ : Type} {f : α × δ → γ} {g : β × δ → γ}
    (hfg : ∀ a b d, r a b → f (a, d) = g (b, d)) (h : List.Forall₂ r l l') (ds : List δ) :
    (l.zip ds).map f = (l'.zip ds).map g := by
  induction h generalizing ds with
  | nil => rfl
  | cons hab _ ih =>
    cases ds with
    | nil => rfl
    | cons d ds =>
      rw [List.zip_cons_cons, List.zip_cons_cons, List.map_cons, List.map_cons, hfg _ _ d hab, ih]

end Lists

namespace Walker

/-- The fields that are made of the same places are the same for both positions. -/
theorem fields_eq_of_reordered (h : p.Reordered q) (places : List Nat) :
    fields p places = fields q places := by
  unfold fields
  refine congrArg (fun named => (Keyed.sort named).map Prod.snd)
    (map_zip_eq_of_forall₂ ?_ h.children places)
  intro c d place hcd
  simp only [hcd.name, hcd.field, h.schema.contains_required_eq]

/-- The shape that is made of the same places is the same for both positions. -/
theorem shape_eq_of_reordered (h : p.Reordered q) (places : List Nat) :
    shape p places = shape q places := by
  unfold shape
  rw [h.schema.form_eq, h.schema.primitive?_eq, fields_eq_of_reordered h]

/-- The walker takes the same steps at both positions, whatever it knows before, and ends in the
same state. -/
theorem walk_eq_of_reordered (levels : Nat) (h : p.Reordered q) :
    walk levels p = walk levels q := by
  -- The schemas get smaller in lockstep, but the walk itself only counts levels.
  induction levels generalizing p q with
  | zero => simp only [walk, h.path]
  | succ levels ih =>
    have hreuse : reuse p = reuse q := by
      funext place
      unfold reuse
      rw [h.name, h.path, h.schema.form_eq]
    have hbelow : p.children.mapM (walk levels) = q.children.mapM (walk levels) :=
      mapM_eq_of_forall₂ (fun _ _ hcd => ih hcd) h.children
    have hshape : shape p = shape q := funext (shape_eq_of_reordered h)
    simp only [walk, hreuse, hbelow, hshape, h.name, h.path, h.field, h.schema.constraints_eq]

/-- The walker takes the same steps at a property, whichever of two schemas that say the same it has. -/
theorem walk_property_eq_of_sameUpToOrder {s t : Schema} (levels : Nat) (p : Position) (name : String)
    (h : s.SameUpToOrder t) :
    walk levels (p.property name s) = walk levels (p.property name t) := by
  rcases h with rfl | h
  · rfl
  · have hposition : (p.property name s).Reordered (p.property name t) := ⟨h, rfl, rfl, rfl⟩
    exact walk_eq_of_reordered levels hposition

/-- The analysis of a schema does not depend on the order in which things are listed in it, whether
it succeeds or fails. -/
theorem analyze_eq_of_reordered {s t : Schema} (h : s.Reordered t) (name field : String)
    (required : Bool) :
    analyze (some s) name field required = analyze (some t) name field required := by
  have hroot : Position.Reordered ⟨s, name, field, name⟩ ⟨t, name, field, name⟩ :=
    ⟨h, rfl, rfl, rfl⟩
  simp only [analyze, walk_eq_of_reordered _ hroot]

end Walker

end CrdToolset
