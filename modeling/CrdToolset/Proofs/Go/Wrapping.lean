import CrdToolset.Go.Struct
import CrdToolset.Proofs.Text.Pieces
import Mathlib.Data.List.Chain

/-!
# Wrapped comments

The words of a comment are divided into lines from the left, and every line takes as many words as fit.
That is the only division in which no line with several words is too wide, and no line could have taken
the first word of the next one.
-/

namespace CrdToolset.Go

/-- The number of bytes in the comment line with the given words, the slashes in front of it
counted. -/
def lineWidth (line : List String) : Nat := (commentLine line).utf8ByteSize

/-- With the first word of the next line, the line would be wider than it may be. So no line ends
before it has to. -/
def Full (width : Nat) (line next : List String) : Prop :=
  ∀ word ∈ next.head?, width < lineWidth (line ++ [word])

/-- The lines divide the words, and every line takes as many of them as the width allows. -/
structure Wraps (width : Nat) (words : List String) (lines : List (List String)) : Prop where
  /-- The words are on the lines in their order. -/
  flatten : lines.flatten = words
  /-- There is a word on every line. -/
  nonempty : ∀ line ∈ lines, line ≠ []
  /-- A line with several words is not too wide. -/
  fits : ∀ line ∈ lines, 2 ≤ line.length → lineWidth line ≤ width
  /-- No line has room for the first word of the next line. -/
  full : lines.IsChain (Full width)

variable {width : Nat} {text word : String} {line begun words : List String}
  {lines lines' : List (List String)}

/-! ### Widths of lines -/

/-- More words make a line wider by their bytes and by the space in front of each. -/
theorem lineWidth_append (line more : List String) :
    lineWidth (line ++ more) =
      lineWidth line + (String.join (more.map fun word => " " ++ word)).utf8ByteSize := by
  simp only [lineWidth, commentLine, List.map_append, String.join_append,
    String.utf8ByteSize_append]
  omega

/-- One more word makes a line wider by its bytes and by the space in front of it. -/
theorem lineWidth_concat (line : List String) (word : String) :
    lineWidth (line ++ [word]) = lineWidth line + 1 + word.utf8ByteSize := by
  have hspace : (" " : String).utf8ByteSize = 1 := by decide
  simp only [lineWidth_append, List.map_singleton, String.join_cons, String.join_nil,
    String.append_empty, String.utf8ByteSize_append, hspace]
  omega

/-- A line with a single word has the bytes of the word and three more, for the slashes and a
space. -/
theorem lineWidth_singleton (word : String) : lineWidth [word] = 3 + word.utf8ByteSize := by
  have hslashes : lineWidth [] = 2 := by decide
  have h := lineWidth_concat [] word
  rw [List.nil_append, hslashes] at h
  omega

/-! ### Lines as they are filled -/

/-- No words are divided into no lines, whatever the width is. -/
theorem wraps_nil (width : Nat) : Wraps width [] [] :=
  ⟨rfl, by simp, by simp, .nil⟩

/-- A line that has been begun can stand alone, unless it has several words and is too wide. -/
theorem wraps_singleton (hne : begun ≠ []) (hfits : 2 ≤ begun.length → lineWidth begun ≤ width) :
    Wraps width begun [begun] :=
  ⟨by simp, by simpa using hne, by simpa using hfits, .singleton _⟩

/-- A line that has been begun can stand before others if it has no room for their first word. -/
theorem Wraps.cons (h : Wraps width (word :: words) lines) (hne : begun ≠ [])
    (hfits : 2 ≤ begun.length → lineWidth begun ≤ width)
    (hroom : width < lineWidth (begun ++ [word])) :
    Wraps width (begun ++ word :: words) (begun :: lines) := by
  refine ⟨?flatten, ?nonempty, ?fits, ?full⟩
  case flatten => rw [List.flatten_cons, h.flatten]
  case nonempty => exact List.forall_mem_cons.mpr ⟨hne, h.nonempty⟩
  case fits => exact List.forall_mem_cons.mpr ⟨hfits, h.fits⟩
  case full =>
    refine List.isChain_cons.mpr ⟨?_, h.full⟩
    intro next hnext first hfirst
    obtain ⟨rest, rfl⟩ : ∃ rest, lines = next :: rest := by
      cases lines with
      | nil => cases hnext
      | cons line rest => exact ⟨rest, by simpa using hnext⟩
    obtain ⟨others, rfl⟩ : ∃ others, next = first :: others := by
      cases next with
      | nil => cases hfirst
      | cons head others => exact ⟨others, by simpa using hfirst⟩
    have hword : first = word := by simpa using congrArg List.head? h.flatten
    rwa [hword]

/-- Filling a line that has been begun divides its words and all that come after them. -/
theorem wraps_fill (words : List String) (hne : begun ≠ [])
    (hfits : 2 ≤ begun.length → lineWidth begun ≤ width) :
    Wraps width (begun ++ words)
      ((begun ++ (fill width (lineWidth begun) words).1) ::
        (fill width (lineWidth begun) words).2) := by
  induction words generalizing begun with
  | nil => simpa [fill] using wraps_singleton hne hfits
  | cons word words ih =>
    have hlonger := lineWidth_concat begun word
    rw [fill]
    by_cases hroom : lineWidth begun + 1 + word.utf8ByteSize ≤ width
    · have hmore : Wraps width ((begun ++ [word]) ++ words) _ :=
        ih (by simp) fun _ => by omega
      rw [if_pos hroom]
      simpa [hlonger] using hmore
    · have hnext : Wraps width ([word] ++ words) _ := ih (by simp) (by simp)
      rw [if_neg hroom, List.append_nil, ← lineWidth_singleton]
      exact hnext.cons hne hfits (by omega)

/-- Dividing words with `breakLines` meets the demands of `Wraps`: it keeps the words, and every
line is filled as far as the width allows. -/
theorem wraps_breakLines (width : Nat) (words : List String) :
    Wraps width words (breakLines width words) := by
  cases words with
  | nil => exact wraps_nil width
  | cons word words =>
    have h : Wraps width ([word] ++ words) _ := wraps_fill words (by simp) (by simp)
    rw [breakLines, ← lineWidth_singleton]
    exact h

/-! ### There is no other division -/

/-- The lines after the first one divide the words after those of the first line. -/
theorem Wraps.tail (h : Wraps width words (line :: lines)) : Wraps width lines.flatten lines :=
  ⟨rfl, fun l hl => h.nonempty l (List.mem_cons_of_mem _ hl),
    fun l hl => h.fits l (List.mem_cons_of_mem _ hl), h.full.of_cons⟩

/-- The first line of one division cannot be the beginning of the first line of another one, because
the longer of them fits and the shorter would not be full. -/
theorem Wraps.not_shorter {first more : List String}
    (h : Wraps width words (line :: lines)) (h' : Wraps width words (first :: lines'))
    (hmore : first = line ++ more) : more = [] := by
  by_contra hne
  have hrest : lines.flatten = more ++ lines'.flatten := by
    have hwords : line ++ lines.flatten = line ++ (more ++ lines'.flatten) := by
      rw [← List.append_assoc, ← hmore, ← List.flatten_cons, ← List.flatten_cons, h.flatten,
        h'.flatten]
    exact List.append_cancel_left hwords
  obtain ⟨word, others, rfl⟩ := List.exists_cons_of_ne_nil hne
  -- The line stops before a word that the longer line has taken.
  cases lines with
  | nil => simp at hrest
  | cons next lines =>
    obtain ⟨head, tail, rfl⟩ :=
      List.exists_cons_of_ne_nil (h.nonempty next (by simp))
    have hhead : head = word := by simpa using congrArg List.head? hrest
    have hroom : width < lineWidth (line ++ [head]) :=
      (List.isChain_cons_cons.mp h.full).1 head rfl
    have hlength : 2 ≤ first.length := by
      have hline : line ≠ [] := h.nonempty line List.mem_cons_self
      have := List.length_pos_iff.mpr hline
      simp only [hmore, List.length_append, List.length_cons]
      omega
    have hfits : lineWidth first ≤ width := h'.fits first List.mem_cons_self hlength
    have hwider : lineWidth (line ++ [word]) ≤ lineWidth first := by
      have hsplit : first = (line ++ [word]) ++ others := by simp [hmore]
      rw [hsplit, lineWidth_append (line ++ [word])]
      omega
    rw [hhead] at hroom
    omega

/-- Words can be divided into lines that are full and not too wide in one way only, by induction on
the lines. -/
theorem Wraps.unique (h : Wraps width words lines) (h' : Wraps width words lines') :
    lines = lines' := by
  have hnil {lines : List (List String)} (h : Wraps width [] lines) : lines = [] := by
    cases lines with
    | nil => rfl
    | cons line lines =>
      have hline : line = [] := (List.append_eq_nil_iff.mp h.flatten).1
      exact absurd hline (h.nonempty line List.mem_cons_self)
  induction lines generalizing words lines' with
  | nil =>
    obtain rfl : [] = words := h.flatten
    exact (hnil h').symm
  | cons line lines ih =>
    cases lines' with
    | nil =>
      obtain rfl : [] = words := h'.flatten
      exact hnil h
    | cons first lines' =>
      have hwords : line ++ lines.flatten = first ++ lines'.flatten := by
        rw [← List.flatten_cons, ← List.flatten_cons, h.flatten, h'.flatten]
      have hfirst : line = first := by
        rcases List.append_eq_append_iff.mp hwords with ⟨more, hmore, _⟩ | ⟨more, hmore, _⟩
        · rw [hmore, h.not_shorter h' hmore, List.append_nil]
        · rw [hmore, h'.not_shorter h hmore, List.append_nil]
      subst hfirst
      have hrest : lines.flatten = lines'.flatten := List.append_cancel_left hwords
      rw [ih h.tail (hrest ▸ h'.tail)]

/-- The lines that `breakLines` makes are the only division of the words that meets the demands of
`Wraps`. -/
theorem wraps_iff : Wraps width words lines ↔ lines = breakLines width words := by
  constructor
  · intro h
    exact h.unique (wraps_breakLines width words)
  · rintro rfl
    exact wraps_breakLines width words

/-! ### Comments -/

/-- The words of a text are not empty and have no blanks in them, so there is one space between any
two of them in a line. -/
theorem of_mem_words (h : word ∈ Text.words text) :
    word ≠ "" ∧ ∀ c ∈ word.toList, Text.isBlank c = false := by
  obtain ⟨cs, hcs, rfl⟩ := List.mem_map.mp h
  obtain ⟨hne, hblank⟩ := Text.of_mem_stretches hcs
  rw [String.toList_ofList]
  refine ⟨fun hempty => hne ?_, hblank⟩
  rw [← String.toList_ofList (l := cs), hempty]
  rfl

/-- The only blanks in a comment line are spaces, so a comment line has no line break in it and
stays a comment. -/
theorem eq_space_of_mem_comment {comment : String} (h : comment ∈ Go.comment width text) {c : Char}
    (hc : c ∈ comment.toList) (hblank : Text.isBlank c = true) : c = ' ' := by
  obtain ⟨line, hline, rfl⟩ := List.mem_map.mp h
  rw [commentLine, String.toList_append, List.mem_append, String.toList_join, List.mem_flatMap] at hc
  rcases hc with hslash | ⟨part, hpart, hc⟩
  · obtain rfl : c = '/' := by simpa using hslash
    exact absurd hblank (by decide)
  · obtain ⟨word, hword, rfl⟩ := List.mem_map.mp hpart
    have hmem : word ∈ Text.words text := by
      rw [← (wraps_breakLines width (Text.words text)).flatten]
      exact List.mem_flatten.mpr ⟨line, hline, hword⟩
    rw [String.toList_append, List.mem_append] at hc
    rcases hc with hspace | hc
    · simpa using hspace
    · simp [(of_mem_words hmem).2 c hc] at hblank

/-- There are no comment lines exactly when the text has no words, as when it is empty or consists
of blanks. -/
theorem comment_eq_nil_iff : comment width text = [] ↔ Text.words text = [] := by
  have h := (wraps_breakLines width (Text.words text))
  rw [comment, List.map_eq_nil_iff]
  constructor
  · intro hnil
    rw [← h.flatten, hnil]
    rfl
  · intro hnil
    rw [hnil]
    rfl

/-- Every comment line begins with two slashes and a space. So it is known as a comment from its
first characters. -/
theorem exists_eq_slashes_append {comment : String} (h : comment ∈ Go.comment width text) :
    ∃ rest, comment = "// " ++ rest := by
  obtain ⟨line, hline, rfl⟩ := List.mem_map.mp h
  have hne : line ≠ [] := (wraps_breakLines width (Text.words text)).nonempty line hline
  obtain ⟨word, words, rfl⟩ := List.exists_cons_of_ne_nil hne
  refine ⟨word ++ String.join (words.map fun word => " " ++ word), ?_⟩
  rw [commentLine, List.map_cons, String.join_cons, ← String.append_assoc, ← String.append_assoc,
    ← String.append_assoc]
  rfl

/-- A line of the comment above a struct is a line of the comment for some text. Lines of comments
are known as such by this. -/
theorem exists_mem_comment_of_struct {g : TypeGraph} {comments : Bool} {node : TypeNode}
    {comment : String} (h : comment ∈ (Struct.ofNode g comments node).comment) :
    ∃ width text, comment ∈ Go.comment width text := by
  unfold Struct.ofNode at h
  dsimp only at h
  split at h
  case isTrue => exact ⟨_, _, h⟩
  case isFalse => cases h

/-- A line of the comment above a field is a line of the comment for some text, which is the
description of a property. -/
theorem exists_mem_comment_of_field {g : TypeGraph} {comments : Bool} {p : Property}
    {comment : String} (h : comment ∈ (Field.ofProperty g comments p).comment) :
    ∃ width text, comment ∈ Go.comment width text := by
  unfold Field.ofProperty at h
  dsimp only at h
  split at h
  case isTrue => exact ⟨_, _, h⟩
  case isFalse => cases h

/-- A comment has the words of the text, each after one space, on lines that begin with slashes. Every
line takes as many words as the width allows, there is no other way to divide them, and nothing else
in a line is blank. -/
theorem comment_wraps (width : Nat) (text : String) (lines : List String) :
    (comment width text = lines ↔
      ∃ division, Wraps width (Text.words text) division ∧ lines = division.map commentLine) ∧
    (∀ word ∈ Text.words text, word ≠ "" ∧ ∀ c ∈ word.toList, Text.isBlank c = false) ∧
    (∀ line ∈ comment width text, ∀ c ∈ line.toList, Text.isBlank c = true → c = ' ') ∧
    (comment width text = [] ↔ Text.words text = []) := by
  refine ⟨?_, fun word hword => of_mem_words hword,
    fun line hline c hc => eq_space_of_mem_comment hline hc, comment_eq_nil_iff⟩
  constructor
  · rintro rfl
    exact ⟨_, wraps_breakLines width (Text.words text), rfl⟩
  · rintro ⟨division, hdivision, rfl⟩
    rw [wraps_iff.mp hdivision, comment]

example : comment 10 "one two  three-hundred\nfour" =
    ["// one two", "// three-hundred", "// four"] := by decide

end CrdToolset.Go
