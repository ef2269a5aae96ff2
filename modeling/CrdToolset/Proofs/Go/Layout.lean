import CrdToolset.Go.Literal
import CrdToolset.Proofs.Go.StringLiteral
import CrdToolset.Proofs.Number.Characters
import Mathlib.Data.List.Nodup

/-!
# The layout of composite literals

The literals of generated code form trees: a composite literal has an element on each of its lines, and
anything else stands on one line. The text of a tree determines the tree, even where more text follows,
and laying it out further in only adds tabs after its line breaks.
-/

namespace CrdToolset.Go

variable {c d : Char} {n i : Nat} {x y t u : List Char} {ts us : List (List Char)}

/-! ### Where a text ends -/

/-- Texts without a stop are equal if they are the same up to the first stop. -/
theorem append_cons_inj_of_stop {stop : Char → Prop} (ht : ∀ e ∈ t, ¬stop e) (hu : ∀ e ∈ u, ¬stop e)
    (hc : stop c) (hd : stop d) (h : t ++ c :: x = u ++ d :: y) : t = u ∧ c = d ∧ x = y := by
  induction t generalizing u with
  | nil =>
    cases u with
    | nil => exact ⟨rfl, List.cons.inj h⟩
    | cons e u => exact absurd ((List.cons.inj h).1 ▸ hc) (hu e List.mem_cons_self)
  | cons e t ih =>
    cases u with
    | nil => exact absurd ((List.cons.inj h).1 ▸ hd) (ht e List.mem_cons_self)
    | cons f u =>
      obtain ⟨rfl, hrest⟩ := List.cons.inj h
      obtain ⟨rfl, hstop⟩ := ih (List.forall_mem_cons.mp ht).2 (List.forall_mem_cons.mp hu).2 hrest
      exact ⟨rfl, hstop⟩

/-- An item of a list on one line shows where it ends: it is quoted, or none of its characters has a
meaning in the list. -/
inductive Token : List Char → Prop
  /-- Quoted texts. -/
  | quoted (s : String) : Token (quote s).toList
  /-- Names and numbers. -/
  | bare {text : List Char} (h : ∀ c ∈ text, c ≠ '"' ∧ c ≠ ',' ∧ c ≠ '\x7d' ∧ c ≠ '\n') : Token text

/-- The character comes after an item of a list that stands on one line: a comma before the next
item, or the bracket after the last. -/
def EndsItem (c : Char) : Prop := c = ',' ∨ c = '\x7d'

/-- The character that ends an item is no quote, so a quoted text does not end in the middle where
an item does. -/
theorem EndsItem.ne_quote (h : EndsItem c) : c ≠ '"' := by
  rintro rfl
  rcases h with h | h <;> simp at h

/-- An item of a list has no line break in it, be it a quoted text or a plain one. -/
theorem Token.not_mem_newline (h : Token t) : '\n' ∉ t := by
  cases h with
  | quoted s => exact oneLine_quote s
  | bare h =>
    intro hmem
    exact (h _ hmem).2.2.2 rfl

/-- A text is an item of a list if none of its characters is a quote, a comma, a brace or a line
break. For fixed texts this is computed. -/
theorem Token.of_all {text : List Char}
    (h : text.all (fun c => c ≠ '"' ∧ c ≠ ',' ∧ c ≠ '\x7d' ∧ c ≠ '\n') = true) : Token text :=
  .bare fun c hc => of_decide_eq_true (List.all_eq_true.mp h c hc)

/-- A number is an item of a list, since none of the characters of numbers ends an item. -/
theorem Token.of_numeralChars {text : List Char} (h : ∀ c ∈ text, c ∈ Number.numeralChars) :
    Token text := by
  refine .of_all (List.all_eq_true.mpr fun c hc => ?_)
  have hplain : Number.numeralChars.all
      (fun c => c ≠ '"' ∧ c ≠ ',' ∧ c ≠ '\x7d' ∧ c ≠ '\n') = true := by decide
  exact List.all_eq_true.mp hplain c (h c hc)

/-- A quoted text and one without a quote are never equal, whatever follows the first and whichever
character that is no quote follows the second. -/
theorem quote_append_ne {s : String} (hu : ∀ c ∈ u, c ≠ '"') (hd : d ≠ '"') :
    (quote s).toList ++ x ≠ u ++ d :: y := by
  intro h
  rw [toList_quote, List.cons_append] at h
  cases u with
  | nil => exact hd (List.cons.inj h).1.symm
  | cons e u => exact hu e List.mem_cons_self (List.cons.inj h).1.symm

/-- Where an item ends can be seen from the item itself: two texts that begin with an item and the
character after it agree in the item, in that character and in the rest. -/
theorem Token.append_inj (ht : Token t) (hu : Token u) (hc : EndsItem c) (hd : EndsItem d)
    (h : t ++ c :: x = u ++ d :: y) : t = u ∧ c = d ∧ x = y := by
  cases ht with
  | quoted s =>
    cases hu with
    | quoted s' =>
      obtain ⟨rfl, hrest⟩ := quote_append_inj h
      exact ⟨rfl, List.cons.inj hrest⟩
    | bare hu => exact absurd h (quote_append_ne (fun c hc => (hu c hc).1) hd.ne_quote)
  | bare ht =>
    cases hu with
    | quoted s => exact absurd h.symm (quote_append_ne (fun c hc => (ht c hc).1) hc.ne_quote)
    | bare hu =>
      have hstop : ∀ text : List Char, (∀ c ∈ text, c ≠ '"' ∧ c ≠ ',' ∧ c ≠ '\x7d' ∧ c ≠ '\n') →
          ∀ e ∈ text, ¬EndsItem e := by
        rintro text htext e he (rfl | rfl)
        · exact (htext _ he).2.1 rfl
        · exact (htext _ he).2.2.1 rfl
      exact append_cons_inj_of_stop (hstop t ht) (hstop u hu) hc hd h

/-- A list of items determines its items, as it stands between its brackets on one line. Each item
shows where it ends, and so does the last one. -/
theorem intercalate_tokens_inj (hts : ∀ t ∈ ts, Token t) (hus : ∀ u ∈ us, Token u) (htne : ts ≠ [])
    (hune : us ≠ [])
    (h : [',', ' '].intercalate ts ++ '\x7d' :: x = [',', ' '].intercalate us ++ '\x7d' :: y) :
    ts = us := by
  induction ts generalizing us with
  | nil => exact absurd rfl htne
  | cons t ts ih =>
    obtain ⟨u, us, rfl⟩ := List.exists_cons_of_ne_nil hune
    obtain ⟨ht, hrestts⟩ := List.forall_mem_cons.mp hts
    obtain ⟨hu, hrestus⟩ := List.forall_mem_cons.mp hus
    have hcomma : EndsItem ',' := .inl rfl
    have hbracket : EndsItem '\x7d' := .inr rfl
    cases ts with
    | nil =>
      cases us with
      | nil =>
        simp only [List.intercalate_singleton] at h
        rw [(ht.append_inj hu hbracket hbracket h).1]
      | cons v us =>
        simp only [List.intercalate_singleton, List.intercalate_cons_cons, List.append_assoc,
          List.cons_append] at h
        exact absurd (ht.append_inj hu hbracket hcomma h).2.1 (by decide)
    | cons v ts =>
      cases us with
      | nil =>
        simp only [List.intercalate_singleton, List.intercalate_cons_cons, List.append_assoc,
          List.cons_append] at h
        exact absurd (ht.append_inj hu hcomma hbracket h).2.1 (by decide)
      | cons w us =>
        simp only [List.intercalate_cons_cons, List.append_assoc, List.cons_append,
          List.nil_append] at h
        obtain ⟨rfl, _, hrest⟩ := ht.append_inj hu hcomma hcomma h
        rw [ih hrestts hrestus (by simp) (by simp) (List.cons.inj hrest).2]

/-! ### Trees of lines -/

/-- The composite literals that have an element on each line: schemas, and tables of schemas. -/
inductive Composite where
  /-- A schema. -/
  | schema
  /-- Schemas by the names of properties. -/
  | table
  deriving DecidableEq

/-- The type of a composite literal, as it stands in front of its braces. -/
def Composite.text : Composite → List Char
  | .schema => "&jsonschema.Schema".toList
  | .table => "map[string]*jsonschema.Schema".toList

/-- The things that a schema may say about values, each at most once. There is one field of the
schema literal for each. -/
inductive Keyword where
  | type
  | description
  | enum
  | minimum
  | maximum
  | minLength
  | maxLength
  | pattern
  | properties
  | required
  | items
  | additional
  deriving DecidableEq

/-- The name of the field of a schema literal that says what stands under a keyword. -/
def Keyword.field : Keyword → String
  | .type => "Type"
  | .description => "Description"
  | .enum => "Enum"
  | .minimum => "Minimum"
  | .maximum => "Maximum"
  | .minLength => "MinLength"
  | .maxLength => "MaxLength"
  | .pattern => "Pattern"
  | .properties => "Properties"
  | .required => "Required"
  | .items => "Items"
  | .additional => "AdditionalProperties"

/-- The keywords in the order in which their fields are written in a schema literal. -/
def Keyword.all : List Keyword := [
  .type, .description, .enum, .minimum, .maximum, .minLength, .maxLength, .pattern, .properties,
  .required, .items, .additional]

/-- Every keyword is in the list of all, so what a schema says is said under a keyword of that
list. -/
theorem Keyword.mem_all (k : Keyword) : k ∈ Keyword.all := by cases k <;> decide

/-- What stands in front of the value of an element: the field for a keyword in a schema, or the
quoted name of a property in a table. -/
inductive Key where
  /-- The field for a keyword. -/
  | keyword (k : Keyword)
  /-- The quoted name of a property. -/
  | name (s : String)

/-- The text of a key, as it stands in front of the colon of its element. -/
def Key.text : Key → List Char
  | .keyword k => k.field.toList
  | .name s => (quote s).toList

/-- A value that stands on one line as a whole and is told from a composite literal of several lines
by its first character. -/
@[ext]
structure Inline where
  /-- Its text. -/
  text : List Char
  /-- There is no line break in it. -/
  not_mem_newline : '\n' ∉ text
  /-- It does not begin like a composite literal. -/
  start : ∀ type : Composite, text.head? ≠ type.text.head?

/-- A value as generated code lays it out: on one line, or with an element on each line between
braces. -/
inductive Tree where
  /-- A value on one line. -/
  | inline (value : Inline)
  /-- A composite literal, with its elements and their keys. -/
  | composite (type : Composite) (elements : List (Key × Tree))

mutual

/-- The text of a tree. Its first line stands where it is put, and its inner lines stand one tab
further in than `indent`. -/
def Tree.text (indent : Nat) : Tree → List Char
  | .inline value => value.text
  | .composite type elements =>
    if elements.isEmpty then type.text ++ ['\x7b', '\x7d']
    else type.text ++ '\x7b' :: '\n' :: (Tree.elementsText (indent + 1) elements ++
      List.replicate indent '\t' ++ ['\x7d'])

/-- The lines of the elements of a composite literal, each with a comma and a line break behind
it. -/
def Tree.elementsText (indent : Nat) : List (Key × Tree) → List Char
  | [] => []
  | (key, value) :: rest =>
    List.replicate indent '\t' ++ key.text ++ ':' :: ' ' :: Tree.text indent value ++
      ',' :: '\n' :: Tree.elementsText indent rest

end

/-- The lines of two rows of elements, one after the other, are those of the elements together. -/
theorem Tree.elementsText_append (i : Nat) (xs ys : List (Key × Tree)) :
    Tree.elementsText i (xs ++ ys) = Tree.elementsText i xs ++ Tree.elementsText i ys := by
  induction xs with
  | nil => rfl
  | cons e xs ih =>
    obtain ⟨key, value⟩ := e
    simp [Tree.elementsText, ih]

/-! ### Further in -/

/-- The text with the given number of tabs put after each of its line breaks, as when a literal is
laid out further in. -/
def shifted (n : Nat) (text : List Char) : List Char :=
  text.flatMap fun c => if c = '\n' then '\n' :: List.replicate n '\t' else [c]

@[simp] theorem shifted_nil (n : Nat) : shifted n [] = [] := rfl

@[simp] theorem shifted_append (n : Nat) (x y : List Char) :
    shifted n (x ++ y) = shifted n x ++ shifted n y := List.flatMap_append

@[simp] theorem shifted_newline_cons (n : Nat) (x : List Char) :
    shifted n ('\n' :: x) = '\n' :: (List.replicate n '\t' ++ shifted n x) := rfl

/-- A text without line breaks stays as it is when the lines after its first are shifted. -/
theorem shifted_eq_self (h : '\n' ∉ x) : shifted n x = x := by
  induction x with
  | nil => rfl
  | cons c x ih =>
    rw [List.mem_cons, not_or] at h
    rw [shifted, List.flatMap_cons, if_neg (Ne.symm h.1)]
    exact congrArg (c :: ·) (ih h.2)

@[simp] theorem shifted_cons (h : c ≠ '\n') : shifted n (c :: x) = c :: shifted n x := by
  rw [shifted, List.flatMap_cons, if_neg h]
  rfl

@[simp] theorem shifted_tabs (n i : Nat) :
    shifted n (List.replicate i '\t') = List.replicate i '\t' :=
  shifted_eq_self fun h => absurd (List.eq_of_mem_replicate h) (by decide)

@[simp] theorem shifted_composite (n : Nat) (type : Composite) :
    shifted n type.text = type.text :=
  shifted_eq_self (by cases type <;> decide)

/-- Tabs that are put in front of other tabs come to the sum of both, which is how deep a shifted
line stands. -/
theorem tabs_append_tabs (n i : Nat) (x : List Char) :
    List.replicate n '\t' ++ (List.replicate i '\t' ++ x) = List.replicate (n + i) '\t' ++ x := by
  rw [← List.append_assoc, List.replicate_append_replicate]

/-- The key of an element has no line break in it, also if the name of the property that it quotes
has one. -/
theorem Key.not_mem_newline (k : Key) : '\n' ∉ k.text := by
  cases k with
  | keyword k => cases k <;> decide
  | name s => exact oneLine_quote s

mutual

/-- A tree that is laid out further in has more tabs after its line breaks. -/
theorem Tree.shifted_text (n i : Nat) : ∀ e : Tree, shifted n (e.text i) = e.text (n + i)
  | .inline value => by
    rw [Tree.text, Tree.text, shifted_eq_self value.not_mem_newline]
  | .composite type elements => by
    have helements := Tree.shifted_elementsText n (i + 1) elements
    rw [Tree.text, Tree.text]
    split
    · simp
    · -- The tabs in front of the elements come out in front of the closing bracket.
      have hinner : List.replicate n '\t' ++ (shifted n (Tree.elementsText (i + 1) elements) ++
          (List.replicate i '\t' ++ ['\x7d'])) =
          Tree.elementsText (n + i + 1) elements ++ (List.replicate (n + i) '\t' ++ ['\x7d']) := by
        rw [← List.append_assoc, helements, List.append_assoc, tabs_append_tabs, Nat.add_assoc]
      simp [hinner]

/-- The same for the lines of elements, the first of which is not after a line break. -/
theorem Tree.shifted_elementsText (n i : Nat) : ∀ es : List (Key × Tree),
    List.replicate n '\t' ++ shifted n (Tree.elementsText i es) =
      Tree.elementsText (n + i) es ++ List.replicate n '\t'
  | [] => by simp [Tree.elementsText]
  | (key, value) :: rest => by
    have hkey : shifted n key.text = key.text := shifted_eq_self key.not_mem_newline
    have hvalue := Tree.shifted_text n i value
    have hrest := Tree.shifted_elementsText n i rest
    simp [Tree.elementsText, hkey, hvalue, hrest, tabs_append_tabs]

end

/-! ### Line breaks -/

mutual

/-- How many line breaks a tree has: one for each element, and one before the elements. -/
def Tree.lineBreaks : Tree → Nat
  | .inline _ => 0
  | .composite _ elements => if elements.isEmpty then 0 else Tree.elementBreaks elements + 1

/-- How many line breaks the elements of a composite literal have: those in their values, and the
one behind each element. -/
def Tree.elementBreaks : List (Key × Tree) → Nat
  | [] => 0
  | (_, value) :: rest => value.lineBreaks + 1 + Tree.elementBreaks rest

end

/-- Two rows of elements, one after the other, have the line breaks of both. -/
theorem Tree.elementBreaks_append (xs ys : List (Key × Tree)) :
    Tree.elementBreaks (xs ++ ys) = Tree.elementBreaks xs + Tree.elementBreaks ys := by
  induction xs with
  | nil => simp [Tree.elementBreaks]
  | cons e xs ih =>
    obtain ⟨key, value⟩ := e
    simp [Tree.elementBreaks, ih, Nat.add_assoc]

/-- Elements have no line breaks only if there are none of them, as there is a line break behind
each element. -/
theorem Tree.elementBreaks_eq_zero {es : List (Key × Tree)} : Tree.elementBreaks es = 0 ↔ es = [] := by
  cases es with
  | nil => simp [Tree.elementBreaks]
  | cons e es =>
    obtain ⟨key, value⟩ := e
    simp [Tree.elementBreaks]

mutual

/-- The text of a tree has as many line breaks as `lineBreaks` counts, wherever it stands; no text
inside it brings one of its own. -/
theorem Tree.count_text (i : Nat) : ∀ e : Tree, (e.text i).count '\n' = e.lineBreaks
  | .inline value => List.count_eq_zero.mpr value.not_mem_newline
  | .composite type elements => by
    have helements := Tree.count_elementsText (i + 1) elements
    have htype : type.text.count '\n' = 0 := by cases type <;> decide
    rw [Tree.text, Tree.lineBreaks]
    split
    · simp [htype]
    · simp [htype, helements, List.count_replicate]

/-- The lines of elements have as many line breaks as `elementBreaks` counts, wherever they
stand. -/
theorem Tree.count_elementsText (i : Nat) : ∀ es : List (Key × Tree),
    (Tree.elementsText i es).count '\n' = Tree.elementBreaks es
  | [] => rfl
  | (key, value) :: rest => by
    have hkey := List.count_eq_zero.mpr key.not_mem_newline
    have hvalue := Tree.count_text i value
    have hrest := Tree.count_elementsText i rest
    simp [Tree.elementsText, Tree.elementBreaks, hkey, hvalue, hrest, List.count_replicate]
    omega

end

/-! ### Reading trees -/

/-- The first character of a type tells it from others, and from an item of a list. -/
theorem Composite.exists_text_eq_cons (type : Composite) :
    ∃ rest, type.text = (if type = .schema then '&' else 'm') :: rest := by
  cases type with
  | schema => exact ⟨"jsonschema.Schema".toList, by decide⟩
  | table => exact ⟨"ap[string]*jsonschema.Schema".toList, by decide⟩

/-- The first character of a composite literal, which tells a schema from a table and either of them
from a value on one line. -/
theorem Composite.head?_text (type : Composite) :
    type.text.head? = some (if type = .schema then '&' else 'm') := by
  obtain ⟨rest, htext⟩ := type.exists_text_eq_cons
  rw [htext, List.head?_cons]

/-- The type of a composite literal ends at the opening bracket, so it is known from the text
whatever stands in the brackets. -/
theorem Composite.append_inj {type type' : Composite}
    (h : type.text ++ '\x7b' :: x = type'.text ++ '\x7b' :: y) : type = type' ∧ x = y := by
  have htype : type = type' := by
    obtain ⟨rest, htext⟩ := type.exists_text_eq_cons
    obtain ⟨rest', htext'⟩ := type'.exists_text_eq_cons
    rw [htext, htext'] at h
    have hfirst := (List.cons.inj h).1
    cases type <;> cases type' <;> simp at hfirst ⊢
  subst htype
  exact ⟨rfl, by simpa using h⟩

/-- A value on one line does not begin with the type of a composite literal. -/
theorem Inline.append_ne (value : Inline) (type : Composite) :
    value.text ++ ',' :: x ≠ type.text ++ y := by
  intro h
  have hstart := value.start type
  obtain ⟨rest, htext⟩ := type.exists_text_eq_cons
  rw [htext] at h hstart
  cases hvalue : value.text with
  | nil =>
    rw [hvalue] at h
    have hfirst := (List.cons.inj h).1
    cases type <;> simp at hfirst
  | cons c text =>
    rw [hvalue] at h hstart
    exact hstart (congrArg some (List.cons.inj h).1)

/-- The fields for keywords have no colon and no quote in them, so they end at the first colon and
are not taken for quoted names. -/
theorem Keyword.of_mem_field (k : Keyword) (h : c ∈ k.field.toList) : c ≠ ':' ∧ c ≠ '"' := by
  have hall : k.field.toList.all (fun c => c ≠ ':' ∧ c ≠ '"') = true := by cases k <;> decide
  exact of_decide_eq_true (List.all_eq_true.mp hall c h)

/-- Different keywords have different fields, so the keyword of an element is known from its
line. -/
theorem Keyword.field_injective : Function.Injective Keyword.field := by
  have hnodup : (Keyword.all.map Keyword.field).Nodup := by decide
  intro k k' h
  exact List.inj_on_of_nodup_map hnodup k.mem_all k'.mem_all h

/-- The key of an element ends at its colon, so it is known from the line whatever the value behind
it is. -/
theorem Key.append_inj {k k' : Key} (h : k.text ++ ':' :: x = k'.text ++ ':' :: y) : k = k' ∧ x = y := by
  have hquote : ∀ (k : Keyword) (s : String) (x y : List Char),
      (quote s).toList ++ x ≠ k.field.toList ++ ':' :: y :=
    fun k s x y => quote_append_ne (fun c hc => (k.of_mem_field hc).2) (by decide)
  cases k with
  | keyword k =>
    cases k' with
    | keyword k' =>
      have hcolon : ∀ k : Keyword, ∀ c ∈ k.field.toList, ¬c = ':' :=
        fun k c hc => (k.of_mem_field hc).1
      obtain ⟨hfield, _, hrest⟩ := append_cons_inj_of_stop (hcolon k) (hcolon k') rfl rfl h
      rw [Keyword.field_injective (String.toList_inj.mp hfield)]
      exact ⟨rfl, hrest⟩
    | name s => exact absurd h.symm (hquote k s _ _)
  | name s =>
    cases k' with
    | keyword k' => exact absurd h (hquote k' s _ _)
    | name s' =>
      obtain ⟨rfl, hrest⟩ := quote_append_inj h
      exact ⟨rfl, (List.cons.inj hrest).2⟩

mutual

/-- A tree can be read off the lines it stands on: if two texts begin with trees that stand equally
far in and have a comma and a line break behind them, the trees are the same, and so is the rest. -/
theorem Tree.text_append_inj (i : Nat) : ∀ (e e' : Tree) (x y : List Char),
    e.text i ++ ',' :: '\n' :: x = e'.text i ++ ',' :: '\n' :: y → e = e' ∧ x = y
  | .inline value, .inline value', x, y, h => by
    have hline : ∀ v : Inline, ∀ c ∈ v.text ++ [','], ¬c = '\n' := by
      rintro v c hc rfl
      rcases List.mem_append.mp hc with hc | hc
      · exact v.not_mem_newline hc
      · simp at hc
    rw [Tree.text, Tree.text, List.append_cons, List.append_cons value'.text] at h
    obtain ⟨htext, _, hrest⟩ := append_cons_inj_of_stop (hline value) (hline value') rfl rfl h
    rw [Inline.ext (List.append_cancel_right htext)]
    exact ⟨rfl, hrest⟩
  | .inline value, .composite type elements, x, y, h => by
    rw [Tree.text, Tree.text] at h
    split at h
    · exact absurd (h.trans (List.append_assoc ..)) (value.append_ne type)
    · exact absurd (h.trans (List.append_assoc ..)) (value.append_ne type)
  | .composite type elements, .inline value, x, y, h => by
    rw [Tree.text, Tree.text] at h
    split at h
    · exact absurd (h.symm.trans (List.append_assoc ..)) (value.append_ne type)
    · exact absurd (h.symm.trans (List.append_assoc ..)) (value.append_ne type)
  | .composite type elements, .composite type' elements', x, y, h => by
    have helements := Tree.elementsText_append_inj i elements elements'
    rw [Tree.text, Tree.text] at h
    split_ifs at h with hnil hnil' hnil'
    all_goals simp only [List.append_assoc, List.cons_append, List.nil_append] at h
    all_goals obtain ⟨rfl, hrest⟩ := Composite.append_inj h
    · rw [List.isEmpty_iff.mp hnil, List.isEmpty_iff.mp hnil']
      simpa using hrest
    · simp at hrest
    · simp at hrest
    · obtain ⟨rfl, hafter⟩ := helements _ _ (List.cons.inj hrest).2
      simpa using hafter

/-- Elements can be read off their lines: where two composite literals have the same lines up to the
closing bracket, they have the same elements, and the rest is the same. -/
theorem Tree.elementsText_append_inj (i : Nat) : ∀ (es es' : List (Key × Tree)) (x y : List Char),
    Tree.elementsText (i + 1) es ++ (List.replicate i '\t' ++ '\x7d' :: x) =
      Tree.elementsText (i + 1) es' ++ (List.replicate i '\t' ++ '\x7d' :: y) → es = es' ∧ x = y
  | [], [], x, y, h => by
    simpa [Tree.elementsText] using h
  | [], (key, value) :: rest, x, y, h => by
    -- The line of an element has one more tab than that of the bracket.
    simp [Tree.elementsText, List.replicate_succ'] at h
  | (key, value) :: rest, [], x, y, h => by
    simp [Tree.elementsText, List.replicate_succ'] at h
  | (key, value) :: rest, (key', value') :: rest', x, y, h => by
    have hvalue := Tree.text_append_inj (i + 1) value value'
    have hrest := Tree.elementsText_append_inj i rest rest'
    simp only [Tree.elementsText, List.append_assoc, List.cons_append, List.append_cancel_left_eq] at h
    obtain ⟨rfl, hafter⟩ := Key.append_inj h
    obtain ⟨rfl, hlines⟩ := hvalue _ _ (List.cons.inj hafter).2
    obtain ⟨rfl, hend⟩ := hrest _ _ hlines
    exact ⟨rfl, hend⟩

end

/-- The text of a tree determines the tree, however far in it stands. Literals are compared by their
trees from here on. -/
theorem Tree.text_injective (i : Nat) : Function.Injective (Tree.text i) := by
  intro e e' h
  exact (Tree.text_append_inj i e e' [] [] (by rw [h])).1

end CrdToolset.Go
