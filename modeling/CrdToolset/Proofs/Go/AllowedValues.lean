import CrdToolset.Proofs.Go.SameLiterals
import CrdToolset.Proofs.JsonText

/-!
# Allowed values with the same expression

The expression of an allowed value shows what the value is, but for one thing: a list or an object is
given by its JSON text, and so it has the expression of that text. Other values that differ have different
expressions.
-/

namespace CrdToolset.Go.Literal

variable {a b v : Json}

/-! ### Kinds of expressions -/

/-- The value is made of other values, as lists and objects are. A literal gives such a value by its
JSON text. -/
inductive Composite : Json → Prop
  /-- Lists are. -/
  | array (items : List Json) : Composite (.array items)
  /-- Objects are. -/
  | object (fields : List (String × Json)) : Composite (.object fields)

/-- The expression of a list or an object is the quoted form of its compact JSON text. -/
theorem Composite.valueExpr_eq (h : Composite v) : valueExpr v = quote v.toText := by
  cases h <;> rfl

/-- The kind of value that an expression shows: lists and objects are given as texts. -/
def shownKind : Json → Json.Kind
  | .array _ => .text
  | .object _ => .text
  | v => v.kind

/-- What kind of value an expression shows can be seen from its first character. -/
theorem kindOf?_valueExpr (v : Json) :
    (valueExpr v).toList.head?.bind Json.kindOf? = some (shownKind v) := by
  have hquote (s : String) : (quote s).toList.head?.bind Json.kindOf? = some .text := by
    rw [toList_quote]
    rfl
  have hcompact : v.toText.toList.head?.bind Json.kindOf? = some v.kind := by
    rw [Json.toText, String.toList_ofList, ← List.append_nil v.compact]
    exact v.kindOf?_compact []
  cases v with
  | null => rfl
  | text s => exact hquote s
  | array items => exact hquote _
  | object fields => exact hquote _
  | _ => exact hcompact

/-- An expression that shows a text is that of a text, or of a list or an object that is given by
one. -/
theorem text_or_composite (h : shownKind v = .text) : (∃ s, v = .text s) ∨ Composite v := by
  cases v with
  | text s => exact .inl ⟨s, rfl⟩
  | array items => exact .inr (.array items)
  | object fields => exact .inr (.object fields)
  | _ => cases h

/-- Only the null value has an expression that shows the null value. It is written with another word
than in JSON texts. -/
theorem eq_null (h : shownKind v = .null) : v = .null := by
  cases v with
  | null => rfl
  | _ => cases h

/-- Truth values and numbers have the same expression as in JSON texts, so they are told apart as
they are there. -/
theorem valueExpr_eq_toText (htext : shownKind v ≠ .text) (hnull : shownKind v ≠ .null) :
    valueExpr v = v.toText := by
  cases v with
  | null => exact absurd rfl hnull
  | text s => exact absurd rfl htext
  | array items => exact absurd rfl htext
  | object fields => exact absurd rfl htext
  | _ => rfl

/-! ### Values with the same expression -/

/-- The first value is a text, and the second a list or an object that has it as its JSON text. -/
structure IsTextOf (a b : Json) : Prop where
  /-- The second value is a list or an object. -/
  composite : Composite b
  /-- The first is its text. -/
  eq_text : a = .text b.toText

/-- A text and a list or an object that it is the JSON text of have the same expression. These are
the only different values that do. -/
theorem IsTextOf.valueExpr_eq (h : IsTextOf a b) : valueExpr a = valueExpr b := by
  rw [h.eq_text, h.composite.valueExpr_eq]
  rfl

/-- Values shown as texts are written as the same text only if they are equal or one is the text of the
other. -/
theorem eq_or_isTextOf (ha : shownKind a = .text) (hb : shownKind b = .text)
    (h : valueExpr a = valueExpr b) : a = b ∨ IsTextOf a b ∨ IsTextOf b a := by
  rcases text_or_composite ha with ⟨s, rfl⟩ | ha <;> rcases text_or_composite hb with ⟨t, rfl⟩ | hb
  · exact .inl (congrArg Json.text (quote_injective h))
  · exact .inr (.inl ⟨hb, congrArg Json.text (quote_injective (h.trans hb.valueExpr_eq))⟩)
  · exact .inr (.inr ⟨ha, congrArg Json.text (quote_injective (h.symm.trans ha.valueExpr_eq))⟩)
  · rw [ha.valueExpr_eq, hb.valueExpr_eq] at h
    exact .inl (Json.toText_injective (quote_injective h))

/-- Two values have the same expression if and only if they are equal, or one of them is a text and the
other a list or an object that has it as its JSON text. -/
theorem valueExpr_eq_iff (a b : Json) :
    valueExpr a = valueExpr b ↔ a = b ∨ IsTextOf a b ∨ IsTextOf b a := by
  constructor
  · intro h
    have hkind : shownKind a = shownKind b := by
      refine Option.some.inj ?_
      rw [← kindOf?_valueExpr, ← kindOf?_valueExpr, h]
    by_cases htext : shownKind a = .text
    · exact eq_or_isTextOf htext (hkind ▸ htext) h
    by_cases hnull : shownKind a = .null
    · exact .inl ((eq_null hnull).trans (eq_null (hkind ▸ hnull)).symm)
    · rw [valueExpr_eq_toText htext hnull,
        valueExpr_eq_toText (hkind ▸ htext) (hkind ▸ hnull)] at h
      exact .inl (Json.toText_injective h)
  · rintro (rfl | h | h)
    · rfl
    · exact h.valueExpr_eq
    · exact h.valueExpr_eq.symm

/-- The empty list and the text that shows it are different values with the same expression. -/
theorem valueExpr_empty_array :
    Json.array [] ≠ .text "[]" ∧ valueExpr (.array []) = valueExpr (.text "[]") := by
  refine ⟨by rintro ⟨⟩, ?_⟩
  have htext : (Json.array []).toText = "[]" := rfl
  exact congrArg quote htext

end CrdToolset.Go.Literal
