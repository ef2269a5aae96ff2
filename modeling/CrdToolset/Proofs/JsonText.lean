import CrdToolset.Json
import CrdToolset.Proofs.Go.Layout
import CrdToolset.Proofs.Number.ReadBack

/-!
# JSON values are told apart by their texts

The compact text of a value shows where it ends, at any depth: texts end with their closing quotes, lists
and objects with their brackets, and no number or keyword goes on with what may come after a value. So
different values have different texts.
-/

namespace CrdToolset

open Go (append_cons_inj_of_stop digitValue?_hexDigit)
open Text (hexDigit)

namespace Json

variable {α : Type} {a b : Json} {c d : Char} {s t : String} {x y : List Char}

/-! ### Quoted texts -/

/-- The character that is meant by a letter after a backslash in a JSON text, for the letters that
may stand there. -/
def unescaped? (c : Char) : Option Char :=
  if c = '"' ∨ c = '\\' then some c
  else if c = 'n' then some '\n'
  else if c = 'r' then some '\r'
  else if c = 't' then some '\t'
  else if c = 'b' then some (Char.ofNat 0x08)
  else if c = 'f' then some (Char.ofNat 0x0C)
  else none

/-- The first character of a quoted text, and what comes after it. There is none at the closing quote. -/
def readChar? : List Char → Option (Char × List Char)
  | '\\' :: 'u' :: '0' :: '0' :: high :: low :: rest =>
    (Number.digitValue? high).bind fun h => (Number.digitValue? low).map fun l =>
      (Char.ofNat (16 * h + l), rest)
  | '\\' :: c :: rest => (unescaped? c).map fun c => (c, rest)
  | '"' :: _ => none
  | c :: rest => some (c, rest)
  | [] => none

/-- A character in its quoted form is read back as that character, and reading stops where the form
ends. -/
theorem readChar?_escape_append (c : Char) (rest : List Char) :
    readChar? (escape c ++ rest) = some (c, rest) := by
  unfold escape
  split_ifs with hquote hbackslash hnewline hreturn htab hback hfeed hcontrol
  · subst hquote
    rfl
  · subst hbackslash
    rfl
  · subst hnewline
    rfl
  · subst hreturn
    rfl
  · subst htab
    rfl
  · rw [← Char.ofNat_toNat c, hback]
    rfl
  · rw [← Char.ofNat_toNat c, hfeed]
    rfl
  · simp [readChar?, digitValue?_hexDigit (show c.toNat / 16 < 16 by omega),
      digitValue?_hexDigit (show c.toNat % 16 < 16 by omega), Nat.div_add_mod]
  · simp [readChar?, hbackslash]

/-- Reading one character from a quoted text gives the first character of the text and leaves the
rest of it in quoted form, or finds the closing quote. -/
theorem readChar?_flatMap_escape (s rest : List Char) :
    readChar? (s.flatMap escape ++ '"' :: rest) =
      s.head?.map fun c => (c, s.tail.flatMap escape ++ '"' :: rest) := by
  cases s with
  | nil => rfl
  | cons c s =>
    rw [List.flatMap_cons, List.append_assoc, readChar?_escape_append]
    rfl

/-- Where a text ends can be seen from its quoted characters: two texts that agree up to and behind
their closing quotes are equal, and so is what follows. -/
theorem flatMap_escape_append_inj {s t : List Char}
    (h : s.flatMap escape ++ '"' :: x = t.flatMap escape ++ '"' :: y) : s = t ∧ x = y := by
  induction s generalizing t with
  | nil =>
    cases t with
    | nil => exact ⟨rfl, (List.cons.inj h).2⟩
    | cons e t =>
      have hread := congrArg readChar? h
      rw [readChar?_flatMap_escape, readChar?_flatMap_escape] at hread
      cases hread
  | cons e s ih =>
    have hread := congrArg readChar? h
    rw [readChar?_flatMap_escape, readChar?_flatMap_escape] at hread
    cases t with
    | nil => cases hread
    | cons f t =>
      obtain ⟨rfl, hrest⟩ := Prod.mk.inj (Option.some.inj hread)
      obtain ⟨rfl, rfl⟩ := ih hrest
      exact ⟨rfl, rfl⟩

/-- Where a quoted text ends can be seen from the text itself, so that what follows it may be
anything. -/
theorem quote_append_inj (h : quote s ++ x = quote t ++ y) : s = t ∧ x = y := by
  simp only [quote, List.cons_append, List.append_assoc, List.nil_append, List.cons.injEq,
    true_and] at h
  obtain ⟨hchars, hrest⟩ := flatMap_escape_append_inj h
  exact ⟨String.toList_inj.mp hchars, hrest⟩

/-! ### How a value begins -/

/-- What a value is, as far as the first character of its text shows: whole numbers and others begin
in the same way. -/
inductive Kind where
  /-- The null value. -/
  | null
  /-- One of the truth values. -/
  | bool (b : Bool)
  /-- A number of either sort. -/
  | number
  /-- A text. -/
  | text
  /-- A list. -/
  | array
  /-- Named values. -/
  | object

/-- The kind of a value, which forgets all but what its first character tells. -/
def kind : Json → Kind
  | .null => .null
  | .bool b => .bool b
  | .integer _ => .number
  | .float _ => .number
  | .text _ => .text
  | .array _ => .array
  | .object _ => .object

/-- The kind of the values whose texts begin with a character, if there are any. -/
def kindOf? (c : Char) : Option Kind :=
  if c = '-' ∨ c.isDigit = true then some .number
  else if c = 'n' then some .null
  else if c = 't' then some (.bool true)
  else if c = 'f' then some (.bool false)
  else if c = '"' then some .text
  else if c = '[' then some .array
  else if c = '\x7b' then some .object
  else none

/-- A text that begins with a minus sign or a digit begins as a number does, whatever follows it. -/
theorem kindOf?_of_beginsNumber {text : List Char} (h : Number.BeginsNumber text) (x : List Char) :
    (text ++ x).head?.bind kindOf? = some .number := by
  obtain ⟨c, hc, hbegins⟩ := h
  rw [List.head?_append, hc, Option.some_or, Option.bind_some, kindOf?, if_pos hbegins]

/-- The kind of a value can be read off the first character of its compact text. -/
theorem kindOf?_compact (a : Json) (x : List Char) : (a.compact ++ x).head?.bind kindOf? = some a.kind := by
  cases a with
  | bool b => cases b <;> rfl
  | integer n => exact kindOf?_of_beginsNumber (Number.beginsNumber_signedDigitsOf n) x
  | float x' => exact kindOf?_of_beginsNumber x'.beginsNumber_inJson x
  | _ => rfl

/-- Two values whose compact texts agree, up to what follows them, are of one kind, because they
have the same first character. -/
theorem kind_eq (h : a.compact ++ x = b.compact ++ y) : a.kind = b.kind := by
  have hkind := a.kindOf?_compact x
  rw [h, b.kindOf?_compact y] at hkind
  exact (Option.some.inj hkind).symm

/-! ### Where a value ends -/

/-- The character is one of those that may come after a value within a list or an object: a comma or
a closing bracket. -/
def EndsValue (c : Char) : Prop := c = ',' ∨ c = ']' ∨ c = '\x7d'

/-- The text of a value, with a character behind it that may come after a value, determines the value and
what comes after it. -/
def ShowsEnd (text : α → List Char) (a : α) : Prop :=
  ∀ b c d x y, EndsValue c → EndsValue d → text a ++ c :: x = text b ++ d :: y → a = b ∧ c = d ∧ x = y

/-- A list of items up to its closing bracket determines the items, if each of them shows its end and
begins in another way. -/
theorem intercalate_append_inj {text : α → List Char} {close : Char} (hclose : EndsValue close)
    (hcomma : close ≠ ',') (hbegin : ∀ a x y, text a ++ x ≠ close :: y) {items items' : List α}
    (hitems : ∀ a ∈ items, ShowsEnd text a)
    (h : [','].intercalate (items.map text) ++ close :: x =
      [','].intercalate (items'.map text) ++ close :: y) : items = items' ∧ x = y := by
  have hends : EndsValue ',' := .inl rfl
  have hcons (a b : α) (rest : List α) (z : List Char) :
      [','].intercalate ((a :: b :: rest).map text) ++ close :: z =
        text a ++ ',' :: ([','].intercalate ((b :: rest).map text) ++ close :: z) := by
    simp only [List.map_cons, List.intercalate_cons_cons, List.append_assoc, List.cons_append,
      List.nil_append]
  have hsingleton (a : α) (z : List Char) :
      [','].intercalate ([a].map text) ++ close :: z = text a ++ close :: z := by
    rw [List.map_singleton, List.intercalate_singleton]
  induction items generalizing items' with
  | nil =>
    match items' with
    | [] => exact ⟨rfl, (List.cons.inj h).2⟩
    | [a'] => exact absurd (hsingleton a' y ▸ h.symm) (hbegin a' _ _)
    | a' :: b' :: rest' => exact absurd (hcons a' b' rest' y ▸ h.symm) (hbegin a' _ _)
  | cons a rest ih =>
    obtain ⟨ha, hrest⟩ := List.forall_mem_cons.mp hitems
    match rest, items' with
    | [], [] => exact absurd (hsingleton a x ▸ h) (hbegin a _ _)
    | b :: rest, [] => exact absurd (hcons a b rest x ▸ h) (hbegin a _ _)
    | [], [a'] =>
      rw [hsingleton, hsingleton] at h
      obtain ⟨rfl, -, rfl⟩ := ha _ _ _ _ _ hclose hclose h
      exact ⟨rfl, rfl⟩
    | [], a' :: b' :: rest' =>
      rw [hsingleton, hcons] at h
      exact absurd (ha _ _ _ _ _ hclose hends h).2.1 hcomma
    | b :: rest, [a'] =>
      rw [hsingleton, hcons] at h
      exact absurd (ha _ _ _ _ _ hends hclose h).2.1.symm hcomma
    | b :: rest, a' :: b' :: rest' =>
      rw [hcons, hcons] at h
      obtain ⟨rfl, -, htail⟩ := ha _ _ _ _ _ hends hends h
      obtain ⟨heq, rfl⟩ := ih hrest htail
      exact ⟨congrArg _ heq, rfl⟩

/-- The compact text of a number of either sort consists of the characters of numbers, among which
there is none that ends a value. -/
theorem mem_numeralChars_of_kind (ha : a.kind = .number) (h : c ∈ a.compact) :
    c ∈ Number.numeralChars := by
  cases a with
  | integer n => exact Number.mem_numeralChars_of_mem_signedDigitsOf h
  | float z => exact Number.mem_numeralChars_of_mem_inJson h
  | _ => cases ha

/-- Two numbers with the same text are the same number. The text of a whole number is never that of
a number with a fraction or an exponent. -/
theorem number_eq (ha : a.kind = .number) (hb : b.kind = .number) (h : a.compact = b.compact) :
    a = b := by
  cases a with
  | integer n =>
    cases b with
    | integer m => exact congrArg integer (Number.signedDigitsOf_injective h)
    | float w => exact absurd h (Number.signedDigitsOf_ne_inJson n w)
    | _ => cases hb
  | float z =>
    cases b with
    | integer m => exact absurd h.symm (Number.signedDigitsOf_ne_inJson m z)
    | float w => exact congrArg float (Number.Finite.inJson_injective h)
    | _ => cases hb
  | _ => cases ha

/-- A number reaches up to the first character that no number has, so its text shows where it
ends. -/
theorem showsEnd_number (ha : a.kind = .number) : ShowsEnd compact a := by
  intro b c d x y hc hd h
  have hb : b.kind = .number := (kind_eq h).symm.trans ha
  have hstop : ∀ e ∈ Number.numeralChars, ¬EndsValue e := by
    simp [Number.numeralChars, EndsValue]
  obtain ⟨htext, hrest⟩ := append_cons_inj_of_stop
    (fun e he => hstop e (mem_numeralChars_of_kind ha he))
    (fun e he => hstop e (mem_numeralChars_of_kind hb he)) hc hd h
  exact ⟨number_eq ha hb htext, hrest⟩

/-- The text of a field in an object: its quoted name, a colon and the compact text of its value. -/
def fieldText (field : String × Json) : List Char := quote field.1 ++ ':' :: field.2.compact

/-- The texts of the items of a list are the compact texts of its values, one by one. -/
theorem compactItems_eq_map (items : List Json) : compactItems items = items.map compact := by
  induction items with
  | nil => rfl
  | cons value rest ih => rw [compactItems, ih, List.map_cons]

/-- The texts of the fields of an object are made of their quoted names and the compact texts of
their values, one by one. -/
theorem compactFields_eq_map (fields : List (String × Json)) :
    compactFields fields = fields.map fieldText := by
  induction fields with
  | nil => rfl
  | cons field rest ih => rw [compactFields, ih, List.map_cons, fieldText]

/-- No value begins with a closing bracket, so a list that has a value where another one ends is a
different text. -/
theorem compact_append_ne_bracket (a : Json) (x y : List Char) : a.compact ++ x ≠ ']' :: y := by
  intro h
  have hkind := a.kindOf?_compact x
  rw [h] at hkind
  cases hkind

/-- No field begins with a closing brace, so an object that has a field where another one ends is a
different text. -/
theorem fieldText_append_ne_brace (field : String × Json) (x y : List Char) :
    fieldText field ++ x ≠ '\x7d' :: y := by
  rintro ⟨⟩

mutual

/-- The compact text of a value shows where it ends, at any depth: two values whose texts agree up
to what may come after a value are the same value. This and the next two follow the constructors
together. -/
theorem showsEnd_compact : ∀ a : Json, ShowsEnd compact a
  | .null => by
    intro b c d x y _ _ h
    cases b with
    | null => exact ⟨rfl, List.cons.inj (List.append_cancel_left h)⟩
    | _ => cases kind_eq h
  | .bool b => by
    intro b' c d x y _ _ h
    cases b' with
    | bool b' =>
      cases kind_eq h
      exact ⟨rfl, List.cons.inj (List.append_cancel_left h)⟩
    | _ => cases kind_eq h
  | .integer n => showsEnd_number rfl
  | .float z => showsEnd_number rfl
  | .text s => by
    intro b c d x y _ _ h
    cases b with
    | text t =>
      obtain ⟨rfl, hrest⟩ := quote_append_inj h
      exact ⟨rfl, List.cons.inj hrest⟩
    | _ => cases kind_eq h
  | .array items => by
    have hitems := showsEnd_items items
    intro b c d x y _ _ h
    cases b with
    | array items' =>
      simp only [compact, compactItems_eq_map, List.cons_append, List.append_assoc, List.nil_append,
        List.cons.injEq, true_and] at h
      obtain ⟨rfl, hrest⟩ := intercalate_append_inj (.inr (.inl rfl)) (by decide)
        compact_append_ne_bracket hitems h
      exact ⟨rfl, List.cons.inj hrest⟩
    | _ => cases kind_eq h
  | .object fields => by
    have hfields := showsEnd_fields fields
    intro b c d x y _ _ h
    cases b with
    | object fields' =>
      simp only [compact, compactFields_eq_map, List.cons_append, List.append_assoc, List.nil_append,
        List.cons.injEq, true_and] at h
      obtain ⟨rfl, hrest⟩ := intercalate_append_inj (.inr (.inr rfl)) (by decide)
        fieldText_append_ne_brace hfields h
      exact ⟨rfl, List.cons.inj hrest⟩
    | _ => cases kind_eq h

/-- The values of a list all show where they end; with commas between them the list does so, too. -/
theorem showsEnd_items : ∀ items : List Json, ∀ a ∈ items, ShowsEnd compact a
  | [] => by simp
  | a :: rest => List.forall_mem_cons.mpr ⟨showsEnd_compact a, showsEnd_items rest⟩

/-- The fields of an object all show where they end, since their names and their values do. -/
theorem showsEnd_fields : ∀ fields : List (String × Json), ∀ field ∈ fields, ShowsEnd fieldText field
  | [] => by simp
  | (name, a) :: rest => by
    have ha := showsEnd_compact a
    refine List.forall_mem_cons.mpr ⟨?_, showsEnd_fields rest⟩
    rintro ⟨name', a'⟩ c d x y hc hd h
    simp only [fieldText, List.append_assoc] at h
    obtain ⟨rfl, hvalue⟩ := quote_append_inj h
    obtain ⟨rfl, hrest⟩ := ha a' c d x y hc hd (List.cons.inj hvalue).2
    exact ⟨rfl, hrest⟩

end

/-- Different values have different compact texts. An allowed value is therefore known from the text
that stands for it in a literal. -/
theorem toText_injective : Function.Injective toText := by
  intro a b h
  have hcomma : EndsValue ',' := .inl rfl
  have happend : a.compact ++ ',' :: [] = b.compact ++ ',' :: [] := by
    rw [String.ofList_injective h]
  exact (a.showsEnd_compact b ',' ',' [] [] hcomma hcomma happend).1

end Json

end CrdToolset
