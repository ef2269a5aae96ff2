import CrdToolset.Proofs.Go.LiteralLayout
import Mathlib.Data.List.Forall2

/-!
# Schemas with the same literal

The literal of a schema shows what the schema says, whatever texts there are in it: two schemas have the
same literal only if they say the same, at every level. What cannot be seen is the spacing of a
description, and the difference of values and bounds that are written in the same way.
-/

namespace CrdToolset.Go

open Literal (valueExpr)

variable {α β : Type}

/-! ### Values -/

/-- Different JSON types have different names, so the type of a schema is known from its literal. -/
theorem JsonType.name_injective : Function.Injective JsonType.name := by
  intro t t' h
  cases t <;> cases t' <;> simp [JsonType.name] at h ⊢

/-- Different texts have different quoted forms, because a quoted text is read back as the text. -/
theorem quote_injective : Function.Injective quote := by
  intro s t h
  have happend : (quote s).toList ++ [] = (quote t).toList ++ [] := by rw [h]
  exact (quote_append_inj happend).1

/-- Different texts differ between the quotes of their quoted forms, which is where a value shows
them. -/
theorem ofList_flatMap_escape_injective :
    Function.Injective fun s : String => String.ofList (s.toList.flatMap escape) := by
  intro s t h
  refine quote_injective ?_
  rw [quote_eq_text, quote_eq_text]
  exact congrArg (fun body => "\"" ++ body ++ "\"") h

/-- Different natural numbers are written with different texts, so a length is known from its
literal. -/
theorem ofList_digitsOf_injective : Function.Injective fun n => String.ofList (Number.digitsOf n) :=
  fun _ _ h => Number.digitsOf_injective (String.ofList_injective h)

/-- Two lists of items that are not empty have the same text between the brackets exactly if they
have the same items. -/
theorem intercalate_eq_iff {f : α → String} (hf : ∀ x, Token (f x).toList) {xs ys : List α}
    (hxs : xs ≠ []) (hys : ys ≠ []) :
    ", ".intercalate (xs.map f) = ", ".intercalate (ys.map f) ↔ xs.map f = ys.map f := by
  have htokens : ∀ zs : List α, ∀ t ∈ (zs.map f).map String.toList, Token t := by
    intro zs t ht
    obtain ⟨text, htext, rfl⟩ := List.mem_map.mp ht
    obtain ⟨z, _, rfl⟩ := List.mem_map.mp htext
    exact hf z
  refine ⟨fun h => ?_, fun h => by rw [h]⟩
  have hsep : ", ".toList = [',', ' '] := by decide
  have hlists := congrArg (fun text : String => text.toList ++ ['\x7d']) h
  simp only [String.toList_intercalate, hsep] at hlists
  have htexts := intercalate_tokens_inj (htokens xs) (htokens ys) (by simpa using hxs)
    (by simpa using hys) hlists
  exact List.map_injective_iff.mpr (fun _ _ => String.toList_inj.mp) htexts

/-- The values of a kind show so much of what they stand for, and nothing else. Where there is nothing to
show, there is no value. -/
structure Value.Shows (value : α → Value) (empty : α → Bool) (shown : α → β) : Prop where
  /-- They begin in the same way. -/
  opening : ∀ x y, (value x).opening = (value y).opening
  /-- They end in the same way. -/
  closing : ∀ x y, (value x).closing = (value y).closing
  /-- Their insides are the same if what they show is the same. -/
  body : ∀ x y, empty x = false → empty y = false →
    ((value x).body = (value y).body ↔ shown x = shown y)
  /-- It can be seen that there is nothing to show. -/
  nothing : ∀ x y, empty x = true → (shown x = shown y ↔ empty y = true)

namespace Value

/-- The line of a JSON type shows the type: it is never absent, and no other type has the same
line. -/
theorem shows_jsonType : Shows jsonType (fun _ => false) id where
  opening _ _ := rfl
  closing _ _ := rfl
  body _ _ _ _ := JsonType.name_injective.eq_iff
  nothing _ _ h := by cases h

/-- The line of a text for readers shows its flattened form, and whether there is a text at all. -/
theorem shows_flattened : Shows flattened String.isEmpty fun s => (s.isEmpty, flatten s) where
  opening _ _ := rfl
  closing _ _ := rfl
  body s t hs ht := by simp [hs, ht, body]
  nothing s t hs := by
    obtain rfl := String.isEmpty_iff.mp hs
    refine ⟨fun h => (congrArg Prod.fst h).symm, fun ht => ?_⟩
    rw [String.isEmpty_iff.mp ht]

/-- The line of the allowed values shows their expressions in order. Values with the same expression
are not told apart. -/
theorem shows_values : Shows values List.isEmpty fun vs => vs.map valueExpr where
  opening _ _ := rfl
  closing _ _ := rfl
  body vs ws hvs hws :=
    intercalate_eq_iff token_valueExpr (List.isEmpty_eq_false_iff.mp hvs)
      (List.isEmpty_eq_false_iff.mp hws)
  nothing vs ws hvs := by
    rw [List.isEmpty_iff.mp hvs, List.isEmpty_iff, List.map_nil, eq_comm, List.map_eq_nil_iff]

/-- The line of a bound shows the text of the bound. Bounds that are written in the same way are not
told apart. -/
theorem shows_bound : Shows bound (fun _ => false) Number.Double.asBound where
  opening _ _ := rfl
  closing _ _ := rfl
  body _ _ _ _ := .rfl
  nothing _ _ h := by cases h

/-- The line of a length shows the length: it is never absent, and no other length has the same
line. -/
theorem shows_length : Shows length (fun _ => false) id where
  opening _ _ := rfl
  closing _ _ := rfl
  body _ _ _ _ := ofList_digitsOf_injective.eq_iff
  nothing _ _ h := by cases h

/-- The line of a text that is quoted shows the text. It is absent where the text is empty. -/
theorem shows_quoted : Shows quoted String.isEmpty id where
  opening _ _ := rfl
  closing _ _ := rfl
  body _ _ _ _ := ofList_flatMap_escape_injective.eq_iff
  nothing s t hs := by
    rw [String.isEmpty_iff.mp hs, String.isEmpty_iff]
    exact eq_comm

/-- The line of required names shows the names in order. It is absent where there are none. -/
theorem shows_names : Shows names List.isEmpty id where
  opening _ _ := rfl
  closing _ _ := rfl
  body ss ts hss hts := by
    have htexts := intercalate_eq_iff (f := quote) (fun s => .quoted s)
      (List.isEmpty_eq_false_iff.mp hss) (List.isEmpty_eq_false_iff.mp hts)
    exact htexts.trans (List.map_injective_iff.mpr quote_injective).eq_iff
  nothing ss ts hss := by
    rw [List.isEmpty_iff.mp hss, List.isEmpty_iff]
    exact eq_comm

namespace Shows

variable {value : α → Value} {empty : α → Bool} {shown : α → β}

/-- The leaves of two values that are written are the same exactly if the values show the same. -/
theorem inline_eq_iff (h : Shows value empty shown) {x y : α} (hx : empty x = false)
    (hy : empty y = false) :
    Tree.inline (value x).inline = .inline (value y).inline ↔ shown x = shown y := by
  rw [← h.body x y hx hy, Tree.inline.injEq, Inline.ext_iff]
  simp [Value.inline, text, h.opening x y, h.closing x y, String.toList_inj]

/-- The leaves of two values that may be absent are the same exactly if both are absent or both show
the same. -/
theorem option_eq_iff (h : Shows value (fun _ => false) shown) (o p : Option α) :
    (o.map fun x => Tree.inline (value x).inline) = (p.map fun x => .inline (value x).inline) ↔
      o.map shown = p.map shown := by
  cases o <;> cases p <;> simp [h.inline_eq_iff rfl rfl]

/-- The leaves of two values that are left out where they are empty are the same exactly if the
values show the same. -/
theorem unless_eq_iff (h : Shows value empty shown) (x y : α) :
    (if empty x then none else some (Tree.inline (value x).inline)) =
      (if empty y then none else some (.inline (value y).inline)) ↔ shown x = shown y := by
  cases hx : empty x with
  | true => cases hy : empty y <;> simp [h.nothing x y hx, hy]
  | false =>
    cases hy : empty y with
    | true => simpa [hx, eq_comm] using h.nothing y x hy
    | false => simp [h.inline_eq_iff hx hy]

end Shows

end Value

/-! ### Schemas -/

namespace Literal

/-- Two sets of constraints are written in the same way. They may differ in the spacing of the
description, and in values and bounds that have the same text. -/
structure WrittenAlike (c d : Constraints) : Prop where
  /-- The texts for readers are the same in their flattened form. -/
  description : flatten c.description = flatten d.description
  /-- Either both of them are there or neither. -/
  described : c.description.isEmpty = d.description.isEmpty
  /-- The values that are allowed are the same expressions. -/
  enum : c.enum.map valueExpr = d.enum.map valueExpr
  /-- The least numbers are the same texts. -/
  minimum : c.minimum.map Number.Double.asBound = d.minimum.map Number.Double.asBound
  /-- The greatest numbers are the same texts. -/
  maximum : c.maximum.map Number.Double.asBound = d.maximum.map Number.Double.asBound
  /-- The least lengths are equal. -/
  minLength : c.minLength = d.minLength
  /-- The greatest lengths are equal. -/
  maxLength : c.maxLength = d.maxLength
  /-- The regular expressions are equal. -/
  pattern : c.pattern = d.pattern

/-- Two literals say the same at every level: they have the same types, names and required names,
and constraints that are written alike. -/
inductive SaysSame : Literal → Literal → Prop
  | intro {l m : Literal} (type : l.type = m.type)
      (constraints : WrittenAlike l.constraints m.constraints)
      (names : l.properties.map Prod.fst = m.properties.map Prod.fst)
      (properties : List.Forall₂ SaysSame (l.properties.map Prod.snd) (m.properties.map Prod.snd))
      (required : l.required = m.required) (items : Option.Rel SaysSame l.items m.items)
      (additional : Option.Rel SaysSame l.additional m.additional) : SaysSame l m

variable {type type' : Option JsonType} {c d : Constraints} {properties properties' : List (Key × Tree)}
  {required required' : List String} {items items' additional additional' : Option Tree}

/-- The tables of two lists of properties are the same exactly if the elements are, where a list
without elements has no table. -/
theorem table_eq_iff :
    (if properties.isEmpty then none else some (Tree.composite .table properties)) =
      (if properties'.isEmpty then none else some (.composite .table properties')) ↔
      properties = properties' := by
  cases properties <;> cases properties' <;> simp

/-- The same is said under each keyword if the schemas are written alike and their parts are the same. -/
theorem said_eq_iff :
    said type c properties required items additional =
        said type' d properties' required' items' additional' ↔
      type = type' ∧ WrittenAlike c d ∧ properties = properties' ∧ required = required' ∧
        items = items' ∧ additional = additional' := by
  constructor
  · intro h
    have hunder : ∀ k, said type c properties required items additional k =
        said type' d properties' required' items' additional' k := congrFun h
    have htype := (Value.shows_jsonType.option_eq_iff _ _).mp (hunder .type)
    have hdescription := (Value.shows_flattened.unless_eq_iff _ _).mp (hunder .description)
    have hminLength := (Value.shows_length.option_eq_iff _ _).mp (hunder .minLength)
    have hmaxLength := (Value.shows_length.option_eq_iff _ _).mp (hunder .maxLength)
    simp only [Option.map_id, id_eq, Prod.mk.injEq] at htype hdescription hminLength hmaxLength
    exact ⟨htype, {
      description := hdescription.2
      described := hdescription.1
      enum := (Value.shows_values.unless_eq_iff _ _).mp (hunder .enum)
      minimum := (Value.shows_bound.option_eq_iff _ _).mp (hunder .minimum)
      maximum := (Value.shows_bound.option_eq_iff _ _).mp (hunder .maximum)
      minLength := hminLength
      maxLength := hmaxLength
      pattern := (Value.shows_quoted.unless_eq_iff _ _).mp (hunder .pattern) },
      table_eq_iff.mp (hunder .properties),
      (Value.shows_names.unless_eq_iff _ _).mp (hunder .required),
      hunder .items, hunder .additional⟩
  · rintro ⟨rfl, h, rfl, rfl, rfl, rfl⟩
    funext k
    cases k with
    | description =>
      exact (Value.shows_flattened.unless_eq_iff _ _).mpr (Prod.ext h.described h.description)
    | enum => exact (Value.shows_values.unless_eq_iff _ _).mpr h.enum
    | minimum => exact (Value.shows_bound.option_eq_iff _ _).mpr h.minimum
    | maximum => exact (Value.shows_bound.option_eq_iff _ _).mpr h.maximum
    | minLength => simp [said, h.minLength]
    | maxLength => simp [said, h.maxLength]
    | pattern => simp [said, h.pattern]
    | _ => rfl

/-- The elements of a schema show what is said under each keyword, since every element has its
keyword in front of it. -/
theorem elements_injective : Function.Injective elements := by
  have hmem : ∀ (f : Keyword → Option Tree) k t, (Key.keyword k, t) ∈ elements f ↔ f k = some t := by
    intro f k t
    simp [elements, entry, k.mem_all]
  intro f g h
  funext k
  refine Option.ext fun t => ?_
  rw [← hmem, ← hmem, h]

mutual

/-- Two literals have the same tree exactly if they say the same. The induction is on the first
literal, with its properties and its parts. -/
theorem tree_eq_iff : ∀ l m : Literal, l.tree = m.tree ↔ l.SaysSame m
  | ⟨type, c, properties, required, items, additional⟩,
    ⟨type', c', properties', required', items', additional'⟩ => by
    have hproperties := propertyElements_eq_iff properties properties'
    have hitems := partTree_eq_iff items items'
    have hadditional := partTree_eq_iff additional additional'
    rw [tree, tree, Tree.composite.injEq, elements_injective.eq_iff, said_eq_iff, hproperties, hitems,
      hadditional]
    constructor
    · rintro ⟨-, htype, hc, ⟨hnames, hschemas⟩, hrequired, hitems, hadditional⟩
      exact .intro htype hc hnames hschemas hrequired hitems hadditional
    · rintro ⟨htype, hc, hnames, hschemas, hrequired, hitems, hadditional⟩
      exact ⟨rfl, htype, hc, ⟨hnames, hschemas⟩, hrequired, hitems, hadditional⟩

/-- Properties have the same elements if they have the same names and their schemas say the same. -/
theorem propertyElements_eq_iff : ∀ properties properties' : List (String × Literal),
    propertyElements properties = propertyElements properties' ↔
      properties.map Prod.fst = properties'.map Prod.fst ∧
        List.Forall₂ SaysSame (properties.map Prod.snd) (properties'.map Prod.snd)
  | [], [] => by simp
  | [], (name, literal) :: rest => by simp [propertyElements]
  | (name, literal) :: rest, [] => by simp [propertyElements]
  | (name, literal) :: rest, (name', literal') :: rest' => by
    have hliteral := tree_eq_iff literal literal'
    have hrest := propertyElements_eq_iff rest rest'
    simp only [propertyElements, List.map_cons, List.forall₂_cons, List.cons.injEq, Prod.mk.injEq,
      Key.name.injEq, hliteral, hrest]
    tauto

/-- Parts have the same tree if both say the same, or if there are none. -/
theorem partTree_eq_iff : ∀ part part' : Option Literal,
    partTree part = partTree part' ↔ Option.Rel SaysSame part part'
  | none, none => by simp
  | none, some literal => by simp [partTree]
  | some literal, none => by simp [partTree]
  | some literal, some literal' => by
    have hliteral := tree_eq_iff literal literal'
    simp [partTree, hliteral]

end

/-- Two schemas have the same literal if and only if they say the same, whatever texts there are in
them. -/
theorem render_eq_iff (i : Nat) (l m : Literal) : render i l = render i m ↔ l.SaysSame m := by
  rw [← String.toList_inj, toList_render, toList_render, (Tree.text_injective i).eq_iff, tree_eq_iff]

end Literal

end CrdToolset.Go
