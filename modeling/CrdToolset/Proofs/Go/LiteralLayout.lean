import CrdToolset.Proofs.Go.Layout
import CrdToolset.Proofs.Text.Pieces

/-!
# The layout of schema literals

The literal of a schema is a tree of lines that has one element for each keyword under which the schema
says something. Every value on one of these lines is on that line as a whole, whatever the texts in the
schema are. So the literal can be laid out further in by tabs after its line breaks, and the number of its
line breaks depends only on what the schema says something about.
-/

namespace CrdToolset.Go

open Literal (valueExpr)

variable {s : String} {i : Nat}

/-! ### Values on one line -/

/-- A flattened text is on one line, because every line break of the text has become a space. -/
theorem oneLine_flatten (s : String) : OneLine (flatten s) := by
  intro h
  rw [flatten, String.toList_ofList] at h
  obtain hsep | ⟨part, hpart, hmem⟩ := mem_of_mem_intercalate h
  · exact absurd hsep (by decide)
  · have hflat := Text.mem_of_mem_pieces _ part (List.mem_of_mem_filter hpart) hmem
    obtain ⟨d, _, hd⟩ := List.mem_flatMap.mp hflat
    unfold flattenChar at hd
    split_ifs at hd with hbackslash hquote hblank hreturn
    · simp at hd
    · simp at hd
    · simp at hd
    · cases hd
    · exact hblank (.inl (List.mem_singleton.mp hd).symm)

/-- The expression of an allowed value is one item of a list: it is a quoted text, or has no
character that ends an item. -/
theorem token_valueExpr (v : Json) : Token (valueExpr v).toList := by
  cases v with
  | null => exact .of_all (by decide)
  | bool b => cases b <;> exact .of_all (by decide)
  | integer n =>
    have htext : (valueExpr (.integer n)).toList = Number.signedDigitsOf n := String.toList_ofList
    rw [htext]
    exact .of_numeralChars fun c hc => Number.mem_numeralChars_of_mem_signedDigitsOf hc
  | float x =>
    have htext : (valueExpr (.float x)).toList = x.inJson := String.toList_ofList
    rw [htext]
    exact .of_numeralChars fun c hc => Number.mem_numeralChars_of_mem_inJson hc
  | text s => exact .quoted s
  | array items => exact .quoted _
  | object fields => exact .quoted _

/-- The expression of an allowed value is on one line, whatever texts there are in the value. -/
theorem oneLine_valueExpr (v : Json) : OneLine (valueExpr v) := (token_valueExpr v).not_mem_newline

/-- A value that stands on one line of a schema literal, by what it says. -/
inductive Value where
  /-- A JSON type. -/
  | jsonType (t : JsonType)
  /-- A text for readers. -/
  | flattened (s : String)
  /-- Values that are allowed. -/
  | values (vs : List Json)
  /-- A bound of a range. -/
  | bound (x : Number.Double)
  /-- A length. -/
  | length (n : Nat)
  /-- A text. -/
  | quoted (s : String)
  /-- Names of properties. -/
  | names (texts : List String)

/-- What stands in front of the inside of a value. It depends on nothing but the sort of the
value. -/
def Value.opening : Value → String
  | .jsonType _ => "\""
  | .flattened _ => "\""
  | .values _ => "[]any\x7b"
  | .bound _ => "jsonschema.Ptr(float64("
  | .length _ => "jsonschema.Ptr("
  | .quoted _ => "\""
  | .names _ => "[]string\x7b"

/-- The inside of a value: all that depends on what the value says. -/
def Value.body : Value → String
  | .jsonType t => t.name
  | .flattened s => flatten s
  | .values vs => ", ".intercalate (vs.map valueExpr)
  | .bound x => x.asBound
  | .length n => String.ofList (Number.digitsOf n)
  | .quoted s => String.ofList (s.toList.flatMap escape)
  | .names texts => ", ".intercalate (texts.map quote)

/-- What stands behind the inside of a value. It depends on nothing but the sort of the value. -/
def Value.closing : Value → String
  | .jsonType _ => "\""
  | .flattened _ => "\""
  | .values _ => "\x7d"
  | .bound _ => "))"
  | .length _ => ")"
  | .quoted _ => "\""
  | .names _ => "\x7d"

/-- The text of a value, as it stands behind the field of its keyword. -/
def Value.text (v : Value) : String := v.opening ++ v.body ++ v.closing

/-- The quoted form of a text is the text of a value that quotes it. -/
theorem quote_eq_text (s : String) : quote s = (Value.quoted s).text := by
  rw [← String.toList_inj, toList_quote]
  simp [Value.text, Value.opening, Value.body, Value.closing]

/-- A text of the characters of numbers is on one line, as a line break is none of them. -/
theorem oneLine_of_numeralChars (h : ∀ c ∈ s.toList, c ∈ Number.numeralChars) : OneLine s :=
  (Token.of_numeralChars h).not_mem_newline

/-- The inside of a value is on one line, whatever texts and values it shows. -/
theorem Value.oneLine_body (v : Value) : OneLine v.body := by
  cases v with
  | jsonType t => cases t <;> decide
  | flattened s => exact oneLine_flatten s
  | values vs =>
    exact oneLine_intercalate (by decide) (List.forall_mem_map.mpr fun v _ => oneLine_valueExpr v)
  | bound x => exact oneLine_of_numeralChars fun _ => Number.mem_numeralChars_of_mem_asBound
  | length n =>
    refine oneLine_of_numeralChars fun c hc => ?_
    rw [Value.body, String.toList_ofList] at hc
    exact Number.mem_numeralChars_of_mem_digitsOf hc
  | quoted s =>
    have hquote := oneLine_quote s
    rw [quote_eq_text, Value.text, oneLine_append, oneLine_append] at hquote
    exact hquote.1.2
  | names texts =>
    exact oneLine_intercalate (by decide) (List.forall_mem_map.mpr fun s _ => oneLine_quote s)

/-- The text of a value is on one line, and so the value can be put on a line of a literal. -/
theorem Value.oneLine_text (v : Value) : OneLine v.text := by
  have hopening : OneLine v.opening := by cases v <;> simp only [Value.opening] <;> decide
  have hclosing : OneLine v.closing := by cases v <;> simp only [Value.closing] <;> decide
  rw [Value.text, oneLine_append, oneLine_append]
  exact ⟨⟨hopening, v.oneLine_body⟩, hclosing⟩

/-- The text of a value begins with a quote, a bracket or the name of a function, and so never like
a composite literal of several lines. -/
theorem Value.head?_text (v : Value) :
    v.text.toList.head? = some '"' ∨ v.text.toList.head? = some '[' ∨
      v.text.toList.head? = some 'j' := by
  cases v <;> simp [Value.text, Value.opening]

/-- The value as a leaf of a tree: its text is on one line and does not begin like a composite
literal. -/
def Value.inline (v : Value) : Inline where
  text := v.text.toList
  not_mem_newline := v.oneLine_text
  start type := by
    rw [Composite.head?_text]
    rcases v.head?_text with h | h | h <;> rw [h] <;> cases type <;> decide

/-! ### The tree of a literal -/

/-- What a schema says under each keyword, if anything, given the trees of its parts. -/
def said (type : Option JsonType) (c : Constraints) (properties : List (Key × Tree))
    (required : List String) (items additional : Option Tree) : Keyword → Option Tree
  | .type => type.map fun t => .inline (Value.jsonType t).inline
  | .description =>
    if c.description.isEmpty then none else some (.inline (Value.flattened c.description).inline)
  | .enum => if c.enum.isEmpty then none else some (.inline (Value.values c.enum).inline)
  | .minimum => c.minimum.map fun x => .inline (Value.bound x).inline
  | .maximum => c.maximum.map fun x => .inline (Value.bound x).inline
  | .minLength => c.minLength.map fun n => .inline (Value.length n).inline
  | .maxLength => c.maxLength.map fun n => .inline (Value.length n).inline
  | .pattern => if c.pattern.isEmpty then none else some (.inline (Value.quoted c.pattern).inline)
  | .properties => if properties.isEmpty then none else some (.composite .table properties)
  | .required => if required.isEmpty then none else some (.inline (Value.names required).inline)
  | .items => items
  | .additional => additional

/-- The element for a keyword, if something is said under it, and no element otherwise. -/
def entry (k : Keyword) (value : Option Tree) : List (Key × Tree) :=
  value.toList.map fun t => (.keyword k, t)

/-- The elements of a schema, in the order of the keywords, given what is said under each of
them. -/
def elements (said : Keyword → Option Tree) : List (Key × Tree) :=
  Keyword.all.flatMap fun k => entry k (said k)

namespace Literal

mutual

/-- The tree of lines that a schema literal is laid out in. -/
def tree : Literal → Tree
  | ⟨type, constraints, properties, required, items, additional⟩ =>
    .composite .schema <| elements <|
      said type constraints (propertyElements properties) required (partTree items)
        (partTree additional)

/-- The elements of a table of properties: for each property its name and the tree of its
literal. -/
def propertyElements : List (String × Literal) → List (Key × Tree)
  | [] => []
  | (name, literal) :: rest => (.name name, literal.tree) :: propertyElements rest

/-- The tree of a part that may be absent, such as the literal of the items of a list. -/
def partTree : Option Literal → Option Tree
  | none => none
  | some literal => some literal.tree

end

end Literal

/-! ### The text of the tree -/

/-- The text of lines with a line break behind each of them. Literals are made of lines, and trees
of texts with line breaks in them. -/
def broken (lines : List String) : List Char := lines.flatMap fun line => line.toList ++ ['\n']

@[simp] theorem broken_nil : broken [] = [] := rfl

@[simp] theorem broken_append (xs ys : List String) : broken (xs ++ ys) = broken xs ++ broken ys :=
  List.flatMap_append

/-- The lines of a schema are those of its keywords one after the other, where a keyword under which
nothing is said has none. -/
theorem elementsText_elements (i : Nat) (said : Keyword → Option Tree) :
    Tree.elementsText i (elements said) =
      Keyword.all.flatMap fun k => Tree.elementsText i (entry k (said k)) := by
  rw [elements]
  induction Keyword.all with
  | nil => rfl
  | cons k ks ih => rw [List.flatMap_cons, Tree.elementsText_append, ih, List.flatMap_cons]

/-- Lines with a line break behind each of them are the joined lines with one line break at the end,
if there are any. -/
theorem broken_eq_intercalate {lines : List String} (hne : lines ≠ []) :
    broken lines = ("\n".intercalate lines ++ "\n").toList := by
  have hsep : "\n".toList = ['\n'] := by decide
  rw [String.toList_append, String.toList_intercalate, hsep, broken]
  induction lines with
  | nil => exact absurd rfl hne
  | cons line lines ih =>
    cases lines with
    | nil => simp
    | cons second lines =>
      have hrest := ih (List.cons_ne_nil second lines)
      rw [List.flatMap_cons, hrest]
      simp

/-- A line is that of an element if it has the key and the value of the element in it. -/
theorem broken_singleton {k : Keyword} {t : Tree} {line : String}
    (h : line.toList = k.field.toList ++ ':' :: ' ' :: t.text i ++ [',']) :
    broken [Literal.tabs i ++ line] = Tree.elementsText i (entry k (some t)) := by
  simp [broken, entry, Tree.elementsText, Key.text, Literal.tabs, h]

/-- The line that is written for a value under a keyword is the line of the element that has the
value for a leaf. -/
theorem broken_value (i : Nat) (k : Keyword) (v : Value) {line : String}
    (h : line = k.field ++ ": " ++ v.text ++ ",") :
    broken [Literal.tabs i ++ line] = Tree.elementsText i (entry k (some (.inline v.inline))) := by
  refine broken_singleton ?_
  rw [h]
  simp [Tree.text, Value.inline]

/-- For a value that may be absent there is the line of its element or none, just as there is an
element or none. -/
theorem broken_option (i : Nat) (k : Keyword) {α : Type} (value : α → Value) {line : α → String}
    (o : Option α) (h : ∀ x, line x = k.field ++ ": " ++ (value x).text ++ ",") :
    broken ((o.toList.map line).map (Literal.tabs i ++ ·)) =
      Tree.elementsText i (entry k (o.map fun x => .inline (value x).inline)) := by
  cases o with
  | none => rfl
  | some x => exact broken_value i k (value x) (h x)

/-- For a value that is written unless it is empty there is the line of its element or none, just as
there is an element or none. -/
theorem broken_unless (i : Nat) (k : Keyword) (v : Value) {line : String} (empty : Bool)
    (h : line = k.field ++ ": " ++ v.text ++ ",") :
    broken ((if empty then [] else [line]).map (Literal.tabs i ++ ·)) =
      Tree.elementsText i (entry k (if empty then none else some (.inline v.inline))) := by
  cases empty with
  | true => rfl
  | false => exact broken_value i k v h

/-- A literal as a whole is the text of a tree if the lines in it are those of the elements. -/
theorem toList_enclose {lines : List String} {es : List (Key × Tree)}
    (h : broken lines = Tree.elementsText (i + 1) es) :
    (Literal.enclose i lines).toList = (Tree.composite .schema es).text i := by
  have hempty : lines = [] ↔ es = [] := by
    cases lines <;> cases es <;> simp [broken, Tree.elementsText] at h ⊢
  have htype : Composite.schema.text = "&jsonschema.Schema".toList := rfl
  rw [Literal.enclose, Tree.text, htype]
  by_cases hnil : lines = []
  · rw [if_pos (List.isEmpty_iff.mpr hnil), if_pos (List.isEmpty_iff.mpr (hempty.mp hnil))]
    decide
  · rw [if_neg (mt List.isEmpty_iff.mp hnil), if_neg (mt List.isEmpty_iff.mp (mt hempty.mpr hnil)),
      ← h, broken_eq_intercalate hnil]
    simp [Literal.tabs]

namespace Literal

/-- The line that says the JSON type of a schema is that of the element under the keyword for it. -/
theorem broken_typeLine (i : Nat) (type : Option JsonType) :
    broken ((type.toList.map fun t => "Type: \"" ++ t.name ++ "\",").map (tabs i ++ ·)) =
      Tree.elementsText i (entry .type (type.map fun t => .inline (Value.jsonType t).inline)) := by
  refine broken_option i .type .jsonType type fun t => ?_
  simp [← String.toList_inj, Keyword.field, Value.text, Value.opening, Value.body, Value.closing]

/-- The lines that say what holds of single values are those of the elements under the seven
keywords for constraints. -/
theorem broken_constraintLines (i : Nat) (type : Option JsonType) (c : Constraints)
    (properties : List (Key × Tree)) (required : List String) (items additional : Option Tree) :
    broken ((constraintLines c).map (tabs i ++ ·)) =
      [Keyword.description, .enum, .minimum, .maximum, .minLength, .maxLength, .pattern].flatMap
        fun k => Tree.elementsText i (entry k (said type c properties required items additional k)) := by
  unfold constraintLines
  simp only [List.map_append, broken_append, List.flatMap_cons, List.flatMap_nil, List.append_nil,
    List.append_assoc, said]
  rw [broken_unless i .description (.flattened c.description),
    broken_unless i .enum (.values c.enum),
    broken_option i .minimum .bound, broken_option i .maximum .bound,
    broken_option i .minLength .length, broken_option i .maxLength .length,
    broken_unless i .pattern (.quoted c.pattern)]
  -- The texts of the lines are left to compare.
  case h =>
    rw [quote_eq_text]
    simp [Keyword.field]
  all_goals
    intros
    simp [← String.toList_inj, Keyword.field, Value.text, Value.opening, Value.body, Value.closing]

/-- The line that lists the required names, if there are any, is that of the element under the
keyword for them. -/
theorem broken_requiredLine (i : Nat) (required : List String) :
    broken (if required.isEmpty then []
      else [tabs i ++ "Required: []string\x7b" ++ ", ".intercalate (required.map quote) ++ "\x7d,"]) =
      Tree.elementsText i (entry .required
        (if required.isEmpty then none else some (.inline (Value.names required).inline))) := by
  have hline : "Required: []string\x7b" ++ ", ".intercalate (required.map quote) ++ "\x7d," =
      Keyword.required.field ++ ": " ++ (Value.names required).text ++ "," := by
    simp [← String.toList_inj, Keyword.field, Value.text, Value.opening, Value.body, Value.closing]
  rw [← broken_unless i .required (.names required) _ hline]
  cases required.isEmpty <;> simp [String.append_assoc]

/-- The lines of the table of properties, with its brackets, are those of the element under the
keyword for it, if the lines between the brackets are those of the elements of the table. -/
theorem broken_propertyLines (i : Nat) {entries : List (String × Literal)} {lines : List String}
    (h : broken lines = Tree.elementsText (i + 1) (propertyElements entries)) :
    broken (if entries.isEmpty then []
      else [tabs i ++ "Properties: map[string]*jsonschema.Schema\x7b"] ++ lines ++
        [tabs i ++ "\x7d,"]) =
      Tree.elementsText i (entry .properties
        (if (propertyElements entries).isEmpty then none
        else some (.composite .table (propertyElements entries)))) := by
  have htype : Composite.table.text = "map[string]*jsonschema.Schema".toList := rfl
  cases entries with
  | nil => rfl
  | cons e entries =>
    rw [if_neg (by simp), if_neg (by simp [propertyElements]), broken_append, broken_append, h]
    simp [broken, entry, Tree.elementsText, Tree.text, propertyElements, Key.text, Keyword.field,
      htype, tabs]

mutual

/-- The text that is written for a literal is the text of its tree, at every depth. All that is
known of the layout of trees holds of literals by this. -/
theorem toList_render (i : Nat) : ∀ l : Literal, (render i l).toList = l.tree.text i
  | ⟨type, constraints, properties, required, items, additional⟩ => by
    have hproperties := broken_renderProperties (i + 2) properties
    have hitems := broken_renderOption (i + 1) .items "Items: " rfl items
    have hadditional :=
      broken_renderOption (i + 1) .additional "AdditionalProperties: " rfl additional
    have hconstraints := broken_constraintLines (i + 1) type constraints
      (propertyElements properties) required (partTree items) (partTree additional)
    rw [render, tree]
    refine toList_enclose ?_
    rw [elementsText_elements, broken_append, broken_append, broken_append, broken_append,
      List.map_append, broken_append, hitems, hadditional, hconstraints, broken_typeLine,
      broken_requiredLine, broken_propertyLines _ hproperties]
    simp [Keyword.all, said]

/-- The lines that are written for properties are those of the elements of their table. -/
theorem broken_renderProperties (i : Nat) : ∀ properties : List (String × Literal),
    broken (renderProperties i properties) = Tree.elementsText i (propertyElements properties)
  | [] => by simp [renderProperties, propertyElements, Tree.elementsText]
  | (name, literal) :: rest => by
    have hliteral := toList_render i literal
    have hrest := broken_renderProperties i rest
    rw [broken] at hrest
    simp [renderProperties, propertyElements, Tree.elementsText, broken, Key.text, tabs, hliteral,
      hrest]

/-- The lines that are written for a part that may be absent are those of the element under its
keyword. -/
theorem broken_renderOption (i : Nat) (k : Keyword) (label : String)
    (hlabel : label = k.field ++ ": ") : ∀ part : Option Literal,
    broken (renderOption i label part) = Tree.elementsText i (entry k (partTree part))
  | none => by simp [renderOption, partTree, entry, Tree.elementsText]
  | some literal => by
    have hliteral := toList_render i literal
    rw [renderOption, partTree, hlabel]
    simp [broken, entry, Tree.elementsText, Key.text, tabs, hliteral]

end

/-! ### Line breaks -/

mutual

/-- How many line breaks the literal of a schema has. There is one after each thing that the schema says,
two more where it has properties, and one at the beginning if it says anything. -/
def lineBreaks : Literal → Nat
  | ⟨type, c, properties, required, items, additional⟩ =>
    let single := [type.isSome, !c.description.isEmpty, !c.enum.isEmpty, c.minimum.isSome,
      c.maximum.isSome, c.minLength.isSome, c.maxLength.isSome, !c.pattern.isEmpty,
      !required.isEmpty].count true
    let inner := if properties.isEmpty then 0 else propertyBreaks properties + 2
    let all := single + inner + partBreaks items + partBreaks additional
    if all = 0 then 0 else all + 1

/-- How many line breaks the entries of a table of properties have: those in their literals, and the
one behind each. -/
def propertyBreaks : List (String × Literal) → Nat
  | [] => 0
  | (_, literal) :: rest => literal.lineBreaks + 1 + propertyBreaks rest

/-- How many line breaks the entry of a part that may be absent has: none, or those in its literal
and the one behind it. -/
def partBreaks : Option Literal → Nat
  | none => 0
  | some literal => literal.lineBreaks + 1

end

/-- A composite literal has one line break more than its elements, the one behind the opening
bracket, unless it has no elements. -/
theorem lineBreaks_composite {es : List (Key × Tree)} {n : Nat} (h : Tree.elementBreaks es = n) :
    (Tree.composite .schema es).lineBreaks = if n = 0 then 0 else n + 1 := by
  subst h
  simp only [Tree.lineBreaks, List.isEmpty_iff, Tree.elementBreaks_eq_zero]

/-- A value on one line that may be absent has the one line break behind its element, if it is
there. -/
theorem elementBreaks_option {α : Type} (k : Keyword) (value : α → Value) (o : Option α) :
    Tree.elementBreaks (entry k (o.map fun x => .inline (value x).inline)) =
      if o.isSome then 1 else 0 := by
  cases o <;> rfl

/-- A value on one line that is written unless it is empty has the one line break behind its
element, if it is there. -/
theorem elementBreaks_unless (k : Keyword) (v : Value) (empty : Bool) :
    Tree.elementBreaks (entry k (if empty then none else some (.inline v.inline))) =
      if !empty then 1 else 0 := by
  cases empty <;> rfl

/-- A table of properties has two line breaks more than its entries: the one behind its opening
bracket and the one behind its element. Without entries there is no table. -/
theorem elementBreaks_table {properties : List (String × Literal)}
    (h : Tree.elementBreaks (propertyElements properties) = propertyBreaks properties) :
    Tree.elementBreaks (entry .properties (if (propertyElements properties).isEmpty then none
      else some (.composite .table (propertyElements properties)))) =
      if properties.isEmpty then 0 else propertyBreaks properties + 2 := by
  cases properties with
  | nil => rfl
  | cons p properties =>
    rw [← h]
    simp [propertyElements, entry, Tree.elementBreaks, Tree.lineBreaks]

mutual

/-- The tree of a literal has as many line breaks as `lineBreaks` counts from what the literal
says. -/
theorem lineBreaks_tree : ∀ l : Literal, l.tree.lineBreaks = l.lineBreaks
  | ⟨type, c, properties, required, items, additional⟩ => by
    have hproperties := elementBreaks_propertyElements properties
    have hitems := elementBreaks_partTree .items items
    have hadditional := elementBreaks_partTree .additional additional
    have htable := elementBreaks_table hproperties
    rw [tree, lineBreaks]
    refine lineBreaks_composite ?_
    simp only [elements, Keyword.all, List.flatMap_cons, List.flatMap_nil, Tree.elementBreaks_append, said,
      elementBreaks_option, elementBreaks_unless, hitems, hadditional, htable, Tree.elementBreaks,
      List.count_cons, List.count_nil, beq_true, Nat.zero_add, Nat.add_zero]
    ac_rfl

/-- The elements of a table of properties have as many line breaks as `propertyBreaks` counts. -/
theorem elementBreaks_propertyElements : ∀ properties : List (String × Literal),
    Tree.elementBreaks (propertyElements properties) = propertyBreaks properties
  | [] => rfl
  | (name, literal) :: rest => by
    have hliteral := lineBreaks_tree literal
    have hrest := elementBreaks_propertyElements rest
    rw [propertyElements, Tree.elementBreaks, hliteral, hrest, propertyBreaks]

/-- The element of a part that may be absent has as many line breaks as `partBreaks` counts. -/
theorem elementBreaks_partTree (k : Keyword) : ∀ part : Option Literal,
    Tree.elementBreaks (entry k (partTree part)) = partBreaks part
  | none => rfl
  | some literal => by
    have hliteral := lineBreaks_tree literal
    simp [partTree, entry, Tree.elementBreaks, partBreaks, hliteral]

end

/-! ### Further in -/

/-- The text with the given number of tabs put after each of its line breaks. -/
def shift (n : Nat) (text : String) : String := String.ofList (shifted n text.toList)

/-- A literal that stands further in is the literal at the margin with tabs after its line breaks. No text
in the schema brings in a line break: they are counted from what the schema says something about, and all
texts are written on one line. -/
theorem render_eq_shift (i : Nat) (l : Literal) :
    render i l = shift i (render 0 l) ∧ (render i l).toList.count '\n' = l.lineBreaks ∧
      ∀ (s : String) (v : Json), OneLine (flatten s) ∧ OneLine (quote s) ∧ OneLine (valueExpr v) := by
  refine ⟨?_, ?_, fun s v => ⟨oneLine_flatten s, oneLine_quote s, oneLine_valueExpr v⟩⟩
  · rw [← String.toList_inj, shift, String.toList_ofList, toList_render, toList_render,
      Tree.shifted_text, Nat.add_zero]
  · rw [toList_render, Tree.count_text, lineBreaks_tree]

end Literal

end CrdToolset.Go
