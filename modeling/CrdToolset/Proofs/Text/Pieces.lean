import CrdToolset.Text.Pieces

/-!
# Cutting and joining

A text that is joined from parts with separators between them is cut into these parts again, if no
part has a separator in it. This is what lets words be found again in names and in comments that
were made from them.
-/

namespace CrdToolset.Text

variable {sep : Char → Bool} {s : Char} {u X p : List Char} {ps words : List (List Char)}

/-- Cutting a text gives at least one piece, also if the text is empty. -/
theorem exists_pieces (sep : Char → Bool) (cs : List Char) : ∃ p ps, pieces sep cs = p :: ps := by
  induction cs with
  | nil => exact ⟨[], [], rfl⟩
  | cons c cs ih =>
    obtain ⟨p, ps, h⟩ := ih
    by_cases hc : sep c = true
    · exact ⟨[], pieces sep cs, by simp [pieces, hc]⟩
    · exact ⟨c :: p, ps, by simp [pieces, hc, h]⟩

/-- Characters that do not separate, put in front of a text, belong to the first piece of it. -/
theorem pieces_append (hu : ∀ d ∈ u, sep d = false) (h : pieces sep X = p :: ps) :
    pieces sep (u ++ X) = (u ++ p) :: ps := by
  induction u with
  | nil => exact h
  | cons c u ih =>
    obtain ⟨hc, hu⟩ := List.forall_mem_cons.mp hu
    simp [pieces, hc, ih hu]

/-- A text without separators is one piece, which is the text itself. -/
theorem pieces_eq_singleton (hu : ∀ d ∈ u, sep d = false) : pieces sep u = [u] := by
  have hnil : pieces sep [] = [[]] := rfl
  simpa using pieces_append hu hnil

/-- A separator in a text ends the pieces before it, and those after it are cut as if they stood
alone. -/
theorem pieces_append_cons (hs : sep s = true) (u X : List Char) :
    pieces sep (u ++ s :: X) = pieces sep u ++ pieces sep X := by
  induction u with
  | nil => simp [pieces, hs]
  | cons c u ih =>
    obtain ⟨p, ps, hu⟩ := exists_pieces sep u
    rw [hu] at ih
    by_cases hc : sep c = true
    · simp [pieces, hc, ih, hu]
    · simp [pieces, hc, ih, hu]

/-- No piece of a text has a separator in it. -/
theorem not_sep_of_mem_pieces (X : List Char) : ∀ p ∈ pieces sep X, ∀ d ∈ p, sep d = false := by
  induction X with
  | nil => simp [pieces]
  | cons c X ih =>
    rw [pieces]
    split
    case isTrue => simpa using ih
    case isFalse hc =>
      obtain ⟨p, ps, h⟩ := exists_pieces sep X
      rw [h] at ih ⊢
      simpa [hc] using ih

/-- The characters of the pieces of a text are characters of the text. -/
theorem mem_of_mem_pieces {d : Char} (X : List Char) : ∀ p ∈ pieces sep X, d ∈ p → d ∈ X := by
  induction X with
  | nil => simp [pieces]
  | cons c X ih =>
    obtain ⟨p, ps, h⟩ := exists_pieces sep X
    rw [pieces]
    rw [h] at ih ⊢
    obtain ⟨hp, hps⟩ := List.forall_mem_cons.mp ih
    split
    case isTrue =>
      exact List.forall_mem_cons.mpr ⟨by simp, fun q hq hd => List.mem_cons_of_mem _ (ih q hq hd)⟩
    case isFalse =>
      refine List.forall_mem_cons.mpr ⟨fun hd => ?_, fun q hq hd => List.mem_cons_of_mem _ (hps q hq hd)⟩
      exact (List.mem_cons.mp hd).elim (by rintro rfl; simp) fun hd => List.mem_cons_of_mem _ (hp hd)

/-- A text that is joined from words with separators between them is cut into the pieces of each of
the words, one word after the other. -/
theorem pieces_intercalate (hs : sep s = true) (hne : words ≠ []) :
    pieces sep ([s].intercalate words) = words.flatMap (pieces sep) := by
  induction words with
  | nil => exact absurd rfl hne
  | cons w words ih =>
    cases words with
    | nil => simp
    | cons v words =>
      rw [List.intercalate_cons_cons, List.append_assoc, List.singleton_append,
        pieces_append_cons hs, ih (by simp)]
      rfl

/-- Words without separators are not cut, so that cutting each of them gives the words back. -/
theorem flatMap_pieces (hwords : ∀ w ∈ words, ∀ d ∈ w, sep d = false) :
    words.flatMap (pieces sep) = words := by
  induction words with
  | nil => rfl
  | cons w words ih =>
    obtain ⟨hw, hwords⟩ := List.forall_mem_cons.mp hwords
    rw [List.flatMap_cons, pieces_eq_singleton hw, ih hwords, List.singleton_append]

/-- Words that are joined with separators between them are found again as the stretches of the text,
if none is empty or has a separator in it. -/
theorem stretches_intercalate (hs : sep s = true) (hne : ∀ w ∈ words, w ≠ [])
    (hwords : ∀ w ∈ words, ∀ d ∈ w, sep d = false) :
    stretches sep ([s].intercalate words) = words := by
  by_cases hnil : words = []
  · subst hnil
    rfl
  · rw [stretches, pieces_intercalate hs hnil, flatMap_pieces hwords, List.filter_eq_self]
    intro w hw
    simpa using hne w hw

/-- A stretch of a text is not empty and has no separator in it. -/
theorem of_mem_stretches (h : u ∈ stretches sep X) : u ≠ [] ∧ ∀ d ∈ u, sep d = false := by
  obtain ⟨hmem, hne⟩ := List.mem_filter.mp h
  exact ⟨by simpa using hne, not_sep_of_mem_pieces X u hmem⟩

/-! ### Stretches, character by character -/

variable {c d : Char} {cs : List Char} {f : Char → List Char}

/-- A separator in front of a text is in no stretch and changes none. -/
theorem stretches_cons_of_sep (hc : sep c = true) : stretches sep (c :: cs) = stretches sep cs := by
  simp [stretches, pieces, hc]

/-- A character in front of a separator is a stretch of its own, and what follows is cut as if it
stood alone. -/
theorem stretches_cons_cons_of_sep (hc : sep c = false) (hd : sep d = true) :
    stretches sep (c :: d :: cs) = [c] :: stretches sep cs := by
  simp [stretches, pieces, hc, hd]

/-- A character in front of another that does not separate belongs to the same stretch, so there is
a first stretch that it makes longer. -/
theorem exists_stretches_cons (sep : Char → Bool) (hc : sep c = false) (hd : sep d = false)
    (cs : List Char) :
    ∃ u us, stretches sep (d :: cs) = u :: us ∧ stretches sep (c :: d :: cs) = (c :: u) :: us := by
  obtain ⟨p, ps, h⟩ := exists_pieces sep cs
  refine ⟨d :: p, ps.filter fun piece => !piece.isEmpty, ?_, ?_⟩
  · simp [stretches, pieces, hd, h]
  · simp [stretches, pieces, hc, hd, h]

/-- Where every character is rewritten on its own and separators stay as they are, the parts are
rewritten one by one. -/
theorem pieces_flatMap (hsep : ∀ c, sep c = true → f c = [c])
    (hother : ∀ c, sep c = false → ∀ d ∈ f c, sep d = false) (cs : List Char) :
    pieces sep (cs.flatMap f) = (pieces sep cs).map (List.flatMap f) := by
  induction cs with
  | nil => rfl
  | cons c cs ih =>
    rw [List.flatMap_cons, pieces]
    by_cases hc : sep c = true
    · rw [hsep c hc, List.singleton_append, pieces, if_pos hc, if_pos hc, ih]
      rfl
    · obtain ⟨p, ps, h⟩ := exists_pieces sep cs
      rw [h, List.map_cons] at ih
      rw [if_neg hc, h, pieces_append (hother c (by simpa using hc)) ih]
      rfl

/-- If in addition no character is rewritten to nothing, the stretches are rewritten one by one. -/
theorem stretches_flatMap (hsep : ∀ c, sep c = true → f c = [c])
    (hother : ∀ c, sep c = false → ∀ d ∈ f c, sep d = false) (hne : ∀ c, f c ≠ [])
    (cs : List Char) :
    stretches sep (cs.flatMap f) = (stretches sep cs).map (List.flatMap f) := by
  have hempty (piece : List Char) : (piece.flatMap f).isEmpty = piece.isEmpty := by
    cases piece with
    | nil => rfl
    | cons c piece =>
      obtain ⟨d, rest, h⟩ := List.exists_cons_of_ne_nil (hne c)
      simp [h]
  unfold stretches
  rw [pieces_flatMap hsep hother, List.filter_map]
  congr 1
  refine List.filter_congr fun piece _ => ?_
  simp only [Function.comp_apply, hempty]

end CrdToolset.Text
