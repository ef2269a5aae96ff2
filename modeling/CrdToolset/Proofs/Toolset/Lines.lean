import CrdToolset.Proofs.Naming.Words
import CrdToolset.Toolset.Lines

/-!
# Texts on one line

A file is written line by line. If none of the lines has a line break in it, they are the lines that
a reader of the file finds. Texts that come from a definition may have line breaks, so this has to
be asked of them.
-/

namespace CrdToolset

/-- The text has no line break in it, so it is a single line wherever it is put on one. -/
def OneLine (text : String) : Prop := '\n' ∉ text.toList

instance : DecidablePred OneLine := fun _ => inferInstanceAs (Decidable (_ ∉ _))

variable {x y : String} {lines : List String}

/-- Two texts in a row are on one line if both are. -/
@[simp] theorem oneLine_append : OneLine (x ++ y) ↔ OneLine x ∧ OneLine y := by
  simp [OneLine]

/-- The lines that a reader finds in a text; after a line break at the end there is an empty one. -/
def linesOf (text : String) : List String :=
  (Text.pieces (· == '\n') text.toList).map String.ofList

/-- One more text at the end of others is joined to them by one more separator, if there are
others. -/
theorem intercalate_concat {α : Type} {texts : List (List α)} (sep text : List α)
    (hne : texts ≠ []) :
    sep.intercalate (texts ++ [text]) = sep.intercalate texts ++ sep ++ text := by
  induction texts with
  | nil => exact absurd rfl hne
  | cons first texts ih =>
    cases texts with
    | nil => simp
    | cons second texts =>
      have hrest := ih (List.cons_ne_nil second texts)
      rw [List.cons_append] at hrest
      rw [List.cons_append, List.cons_append, List.intercalate_cons_cons, hrest,
        List.intercalate_cons_cons]
      simp only [List.append_assoc]

/-- A character of joined texts is a character of one of the texts or of the separator. -/
theorem mem_of_mem_intercalate {α : Type} {sep : List α} {parts : List (List α)} {c : α}
    (h : c ∈ sep.intercalate parts) : c ∈ sep ∨ ∃ part ∈ parts, c ∈ part := by
  induction parts with
  | nil => cases h
  | cons part parts ih =>
    cases parts with
    | nil =>
      rw [List.intercalate_singleton] at h
      exact .inr ⟨part, List.mem_cons_self, h⟩
    | cons second parts =>
      rw [List.intercalate_cons_cons, List.mem_append, List.mem_append] at h
      rcases h with (h | h) | h
      · exact .inr ⟨part, List.mem_cons_self, h⟩
      · exact .inl h
      · obtain hsep | ⟨other, hother, hc⟩ := ih h
        · exact .inl hsep
        · exact .inr ⟨other, List.mem_cons_of_mem _ hother, hc⟩

/-- Texts on one line stay on one line when they are joined with a separator that is on one line,
too. -/
theorem oneLine_intercalate {sep : String} {texts : List String} (hsep : OneLine sep)
    (h : ∀ text ∈ texts, OneLine text) : OneLine (sep.intercalate texts) := by
  intro hmem
  rw [String.toList_intercalate] at hmem
  obtain hin | ⟨part, hpart, hin⟩ := mem_of_mem_intercalate hmem
  · exact hsep hin
  · obtain ⟨text, htext, rfl⟩ := List.mem_map.mp hpart
    exact h text htext hin

/-- A reader finds the lines within each of those that a file was written from, and an empty one after
the last. -/
theorem linesOf_fileText (hne : lines ≠ []) :
    linesOf (Toolset.fileText lines) = lines.flatMap linesOf ++ [""] := by
  have htext : (Toolset.fileText lines).toList =
      ['\n'].intercalate (lines.map String.toList ++ [[]]) := by
    rw [intercalate_concat _ _ (by simpa using hne), List.append_nil, Toolset.fileText,
      String.toList_append, String.toList_intercalate]
    rfl
  rw [linesOf, htext, Text.pieces_intercalate rfl (by simp), List.flatMap_append,
    List.map_append, List.flatMap_map, List.map_flatMap]
  rfl

/-- A text without line breaks is the only line in it. -/
theorem OneLine.linesOf_eq (h : OneLine x) : linesOf x = [x] := by
  have hbreak : ∀ c ∈ x.toList, (c == '\n') = false := by
    intro c hc
    rw [beq_eq_false_iff_ne]
    rintro rfl
    exact h hc
  rw [linesOf, Text.pieces_eq_singleton hbreak]
  simp

/-- Cutting each of several single lines into lines gives the lines back as they are. -/
theorem flatMap_linesOf (h : ∀ line ∈ lines, OneLine line) : lines.flatMap linesOf = lines := by
  induction lines with
  | nil => rfl
  | cons line lines ih =>
    obtain ⟨hline, hlines⟩ := List.forall_mem_cons.mp h
    rw [List.flatMap_cons, hline.linesOf_eq, ih hlines, List.singleton_append]

/-- A name that begins its words with capitals is on one line, whatever it is made from. -/
theorem oneLine_pascal (name : String) : OneLine (Naming.pascal name) := by
  intro h
  have := Naming.not_separator_of_mem_pascal name _ h
  revert this
  decide

end CrdToolset
