import CrdToolset.Proofs.Go.StringLiteral
import Mathlib.Data.List.DropRight

/-!
# Flattened texts as literals

A text is flattened in another order than a reader would expect: escapes are put in first, and spaces
are joined afterwards. Joining spaces tears no escape apart, so a flattened text between quotes is one
literal whatever the text was. It stands for the tidy form of the text, which is said here without
escapes and without cutting the text into stretches.
-/

namespace CrdToolset.Go

open Text (stretches)

/-! ### The tidy form of a text -/

/-- A text with spaces in place of its line breaks and tabs, and without its carriage returns. These
are the replacements that are no escapes. -/
def spaced (text : List Char) : List Char :=
  (text.filter (· ≠ '\r')).map fun c => if c = '\n' ∨ c = '\t' then ' ' else c

/-- A text with a single space in place of each run of spaces, also at its ends. -/
def squeeze : List Char → List Char
  | [] => []
  | c :: rest => if c = ' ' ∧ rest.head? = some ' ' then squeeze rest else c :: squeeze rest

/-- A text without the spaces at its two ends. -/
def trim (text : List Char) : List Char := (text.rdropWhile (· == ' ')).dropWhile (· == ' ')

/-- What readers get to see of a text: one line, with single spaces, and none at the ends. -/
def tidy (text : String) : String := String.ofList (trim (squeeze (spaced text.toList)))

/-! ### Reading a literal with few escapes -/

/-- The characters of a literal whose first quote has been read, and what comes after the literal. Only
backslashes and quotes are escaped, by a backslash before them, and a quote without one ends the
literal. Line breaks, carriage returns and tabs may not stand in it; all else stands for itself. -/
def readPlain? : List Char → Option (List Char × List Char)
  | [] => none
  | '"' :: rest => some ([], rest)
  | '\\' :: c :: rest =>
    if c = '\\' ∨ c = '"' then (readPlain? rest).map fun (text, after) => (c :: text, after) else none
  | c :: rest =>
    if c = '\\' ∨ c = '\n' ∨ c = '\r' ∨ c = '\t' then none
    else (readPlain? rest).map fun (text, after) => (c :: text, after)

/-- The text that a literal stands for, if it is one literal with no other escapes than those of
backslashes and quotes. -/
def unquotePlain? (literal : String) : Option String :=
  match literal.toList with
  | '"' :: body =>
    match readPlain? body with
    | some (text, []) => some (String.ofList text)
    | _ => none
  | _ => none

/-- How one character stands in a literal with few escapes: a backslash or a quote after one more
backslash, and any other character as it is. -/
def protect (c : Char) : List Char := if c = '\\' ∨ c = '"' then ['\\', c] else [c]

/-- The character is no line break, carriage return or tab, which a literal of this kind may not
have in it. -/
def Steady (c : Char) : Prop := c ≠ '\n' ∧ c ≠ '\r' ∧ c ≠ '\t'

variable {s : String} {c : Char} {text cs : List Char}

/-- A protected character is read back as the character, and reading goes on behind it. -/
theorem readPlain?_protect_append (hc : Steady c) (rest : List Char) :
    readPlain? (protect c ++ rest) =
      (readPlain? rest).map fun (text, after) => (c :: text, after) := by
  obtain ⟨hnewline, hreturn, htab⟩ := hc
  unfold protect
  by_cases hbackslash : c = '\\'
  · subst hbackslash
    simp [readPlain?]
  by_cases hquote : c = '"'
  · subst hquote
    simp [readPlain?]
  simp [readPlain?, hbackslash, hquote, hnewline, hreturn, htab]

/-- A protected text with a quote behind it is read back as the text, and reading stops at that
quote, whatever comes after it. -/
theorem readPlain?_flatMap_protect (htext : ∀ c ∈ text, Steady c) (rest : List Char) :
    readPlain? (text.flatMap protect ++ '"' :: rest) = some (text, rest) := by
  induction text with
  | nil => rfl
  | cons c text ih =>
    obtain ⟨hc, htext⟩ := List.forall_mem_cons.mp htext
    rw [List.flatMap_cons, List.append_assoc, readPlain?_protect_append hc, ih htext]
    rfl

/-! ### Spaces -/

/-- Dropping characters from the end of a text with one more character in front: this character goes
too if it is of the kind and nothing is left behind it. -/
theorem rdropWhile_cons (p : Char → Bool) (c : Char) (cs : List Char) :
    (c :: cs).rdropWhile p =
      if cs.rdropWhile p = [] ∧ p c = true then [] else c :: cs.rdropWhile p := by
  have hdrop : (c :: cs).rdropWhile p =
      (if (cs.reverse.dropWhile p).isEmpty then [c].dropWhile p
        else cs.reverse.dropWhile p ++ [c]).reverse := by
    rw [List.rdropWhile, List.reverse_cons, List.dropWhile_append]
  have hrest : cs.rdropWhile p = (cs.reverse.dropWhile p).reverse := rfl
  rw [hdrop, hrest]
  by_cases hempty : cs.reverse.dropWhile p = []
  · by_cases hc : p c = true <;> simp [hempty, hc]
  · simp [hempty]

/-- The stretches of a text between its spaces, with one space between each and the next. This is
what flattening does after the escapes are in. -/
def joined (cs : List Char) : List Char := [' '].intercalate (stretches (· == ' ') cs)

/-- Joining gives the empty text exactly if there are no stretches, because none of them is
empty. -/
theorem joined_eq_nil_iff : joined cs = [] ↔ stretches (· == ' ') cs = [] := by
  unfold joined
  constructor
  · intro h
    cases hcut : stretches (· == ' ') cs with
    | nil => rfl
    | cons u us =>
      have hne : u ≠ [] := (Text.of_mem_stretches (hcut ▸ List.mem_cons_self)).1
      rw [hcut] at h
      cases us with
      | nil => exact absurd (by simpa using h) hne
      | cons v us => simp [List.intercalate_cons_cons] at h
  · intro h
    rw [h]
    rfl

/-- Joined stretches do not begin with a space, so there is nothing to trim in front of them. -/
theorem dropWhile_joined (cs : List Char) : (joined cs).dropWhile (· == ' ') = joined cs := by
  unfold joined
  cases hcut : stretches (· == ' ') cs with
  | nil => rfl
  | cons u us =>
    obtain ⟨hne, hother⟩ := Text.of_mem_stretches (hcut ▸ List.mem_cons_self)
    obtain ⟨c, u, rfl⟩ := List.exists_cons_of_ne_nil hne
    have hc : (c == ' ') = false := hother c List.mem_cons_self
    have hfirst : ∃ rest, [' '].intercalate ((c :: u) :: us) = c :: rest := by
      cases us with
      | nil => exact ⟨u, by simp⟩
      | cons v us => exact ⟨_, by rw [List.intercalate_cons_cons]; rfl⟩
    obtain ⟨rest, hrest⟩ := hfirst
    rw [hrest, List.dropWhile_cons_of_neg (by simp [hc])]

/-- A space in front of a text does not change what is joined from its stretches. -/
theorem joined_space_cons (cs : List Char) : joined (' ' :: cs) = joined cs := by
  rw [joined, Text.stretches_cons_of_sep (by rfl), joined]

/-- A character that is no space comes before what is joined, with a space where one was. -/
theorem joined_cons (hc : c ≠ ' ') (cs : List Char) :
    joined (c :: cs) =
      c :: if cs.head? = some ' ' ∧ joined cs ≠ [] then ' ' :: joined cs else joined cs := by
  have hsep : (c == ' ') = false := by simpa using hc
  cases cs with
  | nil => simp [joined, Text.stretches, Text.pieces, hc]
  | cons d cs =>
    by_cases hd : d = ' '
    · subst hd
      have hcut : stretches (· == ' ') (c :: ' ' :: cs) = [c] :: stretches (· == ' ') cs :=
        Text.stretches_cons_cons_of_sep hsep rfl
      rw [joined_space_cons]
      simp only [List.head?_cons, true_and, ne_eq, joined_eq_nil_iff]
      rw [joined, hcut, joined]
      cases stretches (· == ' ') cs with
      | nil => rfl
      | cons u us => simp [List.intercalate_cons_cons]
    · have hsep' : (d == ' ') = false := by simpa using hd
      obtain ⟨u, us, hcut, hlonger⟩ := Text.exists_stretches_cons (· == ' ') hsep hsep' cs
      rw [if_neg (by simp [hd]), joined, joined, hcut, hlonger]
      cases us with
      | nil => simp
      | cons v us => simp [List.intercalate_cons_cons]

/-- Without spaces at its end, a squeezed text is what is joined from its stretches, with a space in
front where one was. -/
theorem rdropWhile_squeeze (cs : List Char) :
    (squeeze cs).rdropWhile (· == ' ') =
      if cs.head? = some ' ' ∧ joined cs ≠ [] then ' ' :: joined cs else joined cs := by
  induction cs with
  | nil => rfl
  | cons c cs ih =>
    rw [squeeze]
    by_cases hc : c = ' '
    · subst hc
      by_cases hnext : cs.head? = some ' '
      · rw [if_pos ⟨rfl, hnext⟩, ih, joined_space_cons]
        simp [hnext]
      · have hrest : (squeeze cs).rdropWhile (· == ' ') = joined cs := by
          rw [ih, if_neg fun h => hnext h.1]
        rw [if_neg fun h => hnext h.2, rdropWhile_cons, hrest, joined_space_cons]
        by_cases hnil : joined cs = []
        · simp [hnil]
        · simp [hnil]
    · have hsep : (c == ' ') = false := by simpa using hc
      rw [if_neg fun h => hc h.1, rdropWhile_cons, if_neg (by simp [hsep]), ih, ← joined_cons hc]
      simp [hc]

/-- Squeezing a text and trimming it gives the same as joining its stretches with one space between
them. The right end is `rdropWhile_squeeze`, and the left one is trimmed afterwards. -/
theorem trim_squeeze (cs : List Char) : trim (squeeze cs) = joined cs := by
  rw [trim, rdropWhile_squeeze]
  split
  case isTrue => rw [List.dropWhile_cons_of_pos (by rfl), dropWhile_joined]
  case isFalse => exact dropWhile_joined cs

/-! ### One pass and five replacements -/

/-- A text in which every occurrence of one character gives way to the same new characters, which are
not looked at again. -/
def replaceChar (old : Char) (new text : List Char) : List Char :=
  text.flatMap fun c => if c = old then new else [c]

/-- The five replacements that flattening stands for, one after the other. Backslashes come first, so
that the backslash that is put before a quote is not doubled afterwards. -/
def replaced (text : List Char) : List Char :=
  replaceChar '\t' [' '] (replaceChar '\r' [] (replaceChar '\n' [' ']
    (replaceChar '"' ['\\', '"'] (replaceChar '\\' ['\\', '\\'] text))))

/-- What holds of the five characters that flattening changes, with what they become, and of every other
character as it is, holds of every character with what it becomes. -/
theorem forall_flattenChar {P : Char → List Char → Prop} (backslash : P '\\' ['\\', '\\'])
    (quote : P '"' ['\\', '"']) (newline : P '\n' [' ']) (tab : P '\t' [' ']) (carriage : P '\r' [])
    (other : ∀ c, c ∉ ['\\', '"', '\n', '\t', '\r'] → P c [c]) (c : Char) : P c (flattenChar c) := by
  unfold flattenChar
  split_ifs with hbackslash hquote hspace hreturn
  · exact hbackslash ▸ backslash
  · exact hquote ▸ quote
  · rcases hspace with rfl | rfl
    · exact newline
    · exact tab
  · exact hreturn ▸ carriage
  · exact other c (by simp [hbackslash, hquote, hreturn, not_or.mp hspace])

/-- One character is flattened to what the five replacements make of it: no replacement brings in a
character that a later one replaces. -/
theorem flattenChar_eq_replaced (c : Char) : flattenChar c = replaced [c] := by
  refine forall_flattenChar (P := fun c text => text = replaced [c]) rfl rfl rfl rfl rfl ?_ c
  intro c hc
  simp only [List.mem_cons, List.not_mem_nil, or_false, not_or] at hc
  simp [replaced, replaceChar, hc]

/-- The one pass of `flattenChar` over a text has the same result as the five replacements of `replaced`,
each of which goes over the result of the one before it. -/
theorem flatMap_flattenChar_eq_replaced (text : List Char) :
    text.flatMap flattenChar = replaced text := by
  have hpass : replaced text = text.flatMap fun c => replaced [c] := by
    simp only [replaced, replaceChar, List.flatMap_assoc, List.flatMap_singleton]
  rw [hpass]
  exact List.flatMap_congr fun c _ => flattenChar_eq_replaced c

/-- Flattening a text is replacing characters in it five times, cutting the result at its spaces, leaving
out the pieces with nothing in them, and putting one space between the others. -/
theorem flatten_eq_replaced (s : String) :
    flatten s = String.ofList ([' '].intercalate
      ((Text.pieces (· == ' ') (replaced s.toList)).filter fun piece => !piece.isEmpty)) := by
  rw [flatten, flatMap_flattenChar_eq_replaced, stretches]

/-! ### Flattening -/

/-- A character is flattened by making a space of it, leaving it out or protecting it. -/
theorem flatMap_flattenChar (text : List Char) :
    text.flatMap flattenChar = (spaced text).flatMap protect := by
  induction text with
  | nil => rfl
  | cons c text ih =>
    have hchar : flattenChar c = (spaced [c]).flatMap protect := by
      refine forall_flattenChar (P := fun c text => text = (spaced [c]).flatMap protect)
        rfl rfl rfl rfl rfl ?_ c
      intro c hc
      simp only [List.mem_cons, List.not_mem_nil, or_false, not_or] at hc
      simp [spaced, protect, hc]
    have hcons : spaced (c :: text) = spaced [c] ++ spaced text := by
      rw [spaced, spaced, spaced, ← List.map_append, ← List.filter_append, List.singleton_append]
    rw [List.flatMap_cons, ih, hcons, List.flatMap_append, hchar]

/-- Cutting a protected text at its spaces gives the protected stretches of the text, since
protecting leaves spaces as they are and brings no others. -/
theorem stretches_flatMap_protect (cs : List Char) :
    stretches (· == ' ') (cs.flatMap protect) =
      (stretches (· == ' ') cs).map (List.flatMap protect) := by
  have hspace : ∀ c : Char, (c == ' ') = true → protect c = [c] := by
    intro c hc
    obtain rfl : c = ' ' := by simpa using hc
    rfl
  have hother : ∀ c : Char, (c == ' ') = false → ∀ d ∈ protect c, (d == ' ') = false := by
    intro c hc d hd
    unfold protect at hd
    split at hd
    case isTrue =>
      rcases List.mem_pair.mp hd with rfl | rfl
      · rfl
      · exact hc
    case isFalse =>
      obtain rfl := List.mem_singleton.mp hd
      exact hc
  have hne : ∀ c : Char, protect c ≠ [] := by
    intro c
    unfold protect
    split <;> simp
  exact Text.stretches_flatMap hspace hother hne cs

/-- Joining protected stretches with spaces is the same as protecting the joined text, since a space
is protected as itself. -/
theorem intercalate_map_flatMap_protect (words : List (List Char)) :
    [' '].intercalate (words.map (List.flatMap protect)) =
      ([' '].intercalate words).flatMap protect := by
  have hspace : protect ' ' = [' '] := rfl
  induction words with
  | nil => rfl
  | cons u words ih =>
    cases words with
    | nil => simp
    | cons v words =>
      rw [List.map_cons] at ih
      rw [List.map_cons, List.map_cons, List.intercalate_cons_cons, ih,
        List.intercalate_cons_cons, List.flatMap_append, List.flatMap_append,
        List.flatMap_singleton, hspace]

/-- The characters of a flattened text are those of the tidy form of the text, each of them
protected. So flattening is understood without cutting and joining. -/
theorem toList_flatten (s : String) : (flatten s).toList = (tidy s).toList.flatMap protect := by
  rw [flatten, tidy, String.toList_ofList, String.toList_ofList, trim_squeeze, flatMap_flattenChar,
    stretches_flatMap_protect, intercalate_map_flatMap_protect, joined]

/-- Squeezing a text leaves some of its spaces out, and nothing that was not in the text is in the
result. -/
theorem squeeze_sublist (cs : List Char) : (squeeze cs).Sublist cs := by
  induction cs with
  | nil => exact .slnil
  | cons c cs ih =>
    rw [squeeze]
    split
    case isTrue => exact ih.cons c
    case isFalse => exact ih.cons_cons c

/-- The tidy form of a text has no line breaks, carriage returns or tabs, so a literal may have all
its characters in it. -/
theorem steady_of_mem_tidy (s : String) : ∀ c ∈ (tidy s).toList, Steady c := by
  have hspaced : ∀ c ∈ spaced s.toList, Steady c := by
    intro c hc
    obtain ⟨d, hd, rfl⟩ := List.mem_map.mp hc
    have hreturn : d ≠ '\r' := by simpa using (List.mem_filter.mp hd).2
    split
    case isTrue => exact ⟨by decide, by decide, by decide⟩
    case isFalse h =>
      rw [not_or] at h
      exact ⟨h.1, hreturn, h.2⟩
  intro c hc
  rw [tidy, String.toList_ofList, trim] at hc
  have hsqueezed : c ∈ squeeze (spaced s.toList) :=
    (List.rdropWhile_prefix _ _).subset ((List.dropWhile_sublist _).subset hc)
  exact hspaced c ((squeeze_sublist _).subset hsqueezed)

/-- A flattened text between quotes is one literal with no other escapes than those of backslashes and
quotes, and it stands for the tidy form of the text. -/
theorem unquotePlain?_flatten (s : String) :
    unquotePlain? ("\"" ++ flatten s ++ "\"") = some (tidy s) := by
  have hbody : ("\"" ++ flatten s ++ "\"").toList =
      '"' :: ((tidy s).toList.flatMap protect ++ ['"']) := by
    simp [toList_flatten]
  rw [unquotePlain?, hbody]
  simp only [readPlain?_flatMap_protect (steady_of_mem_tidy s), String.ofList_toList]

example : unquotePlain? ("\"" ++ flatten " a \\\r\"\n\tb" ++ "\"") = some "a \\\" b" := by
  decide

end CrdToolset.Go
