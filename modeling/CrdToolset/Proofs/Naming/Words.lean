import CrdToolset.Proofs.Naming.Humps
import CrdToolset.Proofs.Text.Letters

/-!
# The words of a name and their small letters

The words of a name are what the name consists of besides its separators, and every word but the
first of a stretch begins with a capital. Putting a character into another case makes no separator
of it, and a word in small letters stays as it is when it is put into small letters again.
-/

namespace CrdToolset.Naming

open Text

variable {c d e : Char} {cs u w X : List Char} {words : List (List Char)}

/-! ### Separators -/

/-- The code points of the characters that separate words: a hyphen, an underscore, a full stop and
all blanks. -/
def separators : List Nat := [0x2D, 0x5F, 0x2E] ++ blanks

/-- Every separator has its code point in the list of them, so that sets of code points can be
compared. -/
theorem mem_separators (h : isSeparator c = true) : c.toNat ∈ separators := by
  simp only [isSeparator, Bool.or_eq_true, beq_iff_eq] at h
  rcases h with ((rfl | rfl) | rfl) | h
  · decide
  · decide
  · decide
  · exact List.mem_append_right _ (mem_blanks h)

/-- What is in a list that shares no bit with the separators is none of them. -/
theorem not_separator_of_bits {points : List Nat} (h : bits points &&& bits separators = 0)
    (hc : c.toNat ∈ points) : isSeparator c = false :=
  Bool.eq_false_iff.mpr fun hsep => not_mem_of_bits h hc (mem_separators hsep)

/-- A small form has no separator in it, unless it is that of a separator. -/
theorem not_separator_of_mem_small (hc : isSeparator c = false) (h : d ∈ small c) :
    isSeparator d = false := by
  rcases small_eq_self_or_mem c with hself | hmem
  · rw [hself, List.mem_singleton] at h
    rwa [h]
  · exact not_separator_of_bits (by decide +kernel) (hmem d h)

/-- The capital form of a character that is no separator is no separator either, so capitalising
does not cut a word. -/
theorem not_separator_capital (hc : isSeparator c = false) : isSeparator (capital c) = false := by
  rcases capital_eq_self_or_mem c with hself | hmem
  · rwa [hself]
  · exact not_separator_of_bits (by decide +kernel) hmem

/-! ### Words -/

/-- Nothing is lost when a stretch without separators is cut into words: one after the other they
are the stretch. -/
theorem flatten_humps (cs : List Char) : (humps cs).flatten = cs := by
  induction cs with
  | nil => rfl
  | cons c cs ih =>
    cases cs with
    | nil => rfl
    | cons d rest =>
      obtain ⟨more, words, h⟩ := exists_humps_cons d rest
      rw [humps]
      split
      case isTrue => rw [List.flatten_cons, ih]; rfl
      case isFalse => rw [h] at ih ⊢; simpa using ih

/-- Every word of a stretch but the first begins with a capital, because it was cut off before
one. -/
theorem exists_capital_of_mem_tail_humps (cs : List Char) :
    ∀ w ∈ (humps cs).tail, ∃ c rest, w = c :: rest ∧ isCapital c = true := by
  induction cs with
  | nil => simp [humps]
  | cons c cs ih =>
    cases cs with
    | nil => simp [humps]
    | cons d rest =>
      obtain ⟨more, words, h⟩ := exists_humps_cons d rest
      rw [humps]
      split
      case isTrue hbreak =>
        have hd : isCapital d = true := by
          rw [breaksBetween, Bool.and_eq_true] at hbreak
          exact hbreak.1
        rw [h] at ih ⊢
        rintro w (_ | ⟨_, hw⟩)
        · exact ⟨d, more, rfl, hd⟩
        · exact ih w hw
      case isFalse =>
        rw [h] at ih ⊢
        exact ih

/-- No word that is cut out of a stretch is empty. -/
theorem ne_nil_of_mem_humps (h : w ∈ humps cs) : w ≠ [] := by
  cases cs with
  | nil => simp [humps] at h
  | cons c cs =>
    have htail := exists_capital_of_mem_tail_humps (c :: cs)
    obtain ⟨more, words, hwords⟩ := exists_humps_cons c cs
    rw [hwords] at h htail
    rcases List.mem_cons.mp h with rfl | hw
    · simp
    · obtain ⟨d, rest, rfl, _⟩ := htail w hw
      simp

/-- A word of a name is not empty and has no separator in it, wherever in the name it stands. -/
theorem of_mem_split (h : w ∈ split X) : w ≠ [] ∧ ∀ d ∈ w, isSeparator d = false := by
  obtain ⟨u, hu, hw⟩ := List.mem_flatMap.mp h
  refine ⟨ne_nil_of_mem_humps hw, fun d hd => (of_mem_stretches hu).2 d ?_⟩
  rw [← flatten_humps u]
  exact List.mem_flatten.mpr ⟨w, hw, hd⟩

/-- The characters of the words of a name are characters of the name. -/
theorem mem_of_mem_split (h : w ∈ split X) (hd : d ∈ w) : d ∈ X := by
  obtain ⟨u, hu, hw⟩ := List.mem_flatMap.mp h
  refine mem_of_mem_pieces X u (List.mem_filter.mp hu).1 ?_
  rw [← flatten_humps u]
  exact List.mem_flatten.mpr ⟨w, hw, hd⟩

/-- A name without separators is a single stretch, and is cut at its capitals only. -/
theorem split_of_not_separator (hX : ∀ d ∈ X, isSeparator d = false) : split X = humps X := by
  cases X with
  | nil => rfl
  | cons c X =>
    have hnil : pieces isSeparator [] = [[]] := rfl
    simpa using split_append (List.cons_ne_nil c X) hX hnil

/-- Words that are joined with a separator between them are found again, and each is cut at its own
capitals. -/
theorem split_intercalate (hs : isSeparator c = true)
    (hwords : ∀ w ∈ words, w ≠ [] ∧ ∀ d ∈ w, isSeparator d = false) :
    split ([c].intercalate words) = words.flatMap humps := by
  rw [split, stretches_intercalate hs (fun w hw => (hwords w hw).1) fun w hw => (hwords w hw).2]

/-! ### Small letters -/

/-- A text without characters that have a small form of their own is in small letters. -/
theorem lower_eq_self (h : ∀ d ∈ u, small d = [d]) : lower u = u := by
  rw [lower_eq_flatMap_small, flatMap_small_eq_self h]
  rintro d hd rfl
  exact absurd (h _ hd) (by decide)

/-- A character of a text in small letters is in the small form of a character of the text, or is
one of the two small forms of the capital sigma. -/
theorem exists_of_mem_lowerFrom {before : List Char} (h : d ∈ lowerFrom before u) :
    (∃ c ∈ u, d ∈ small c) ∨ d = 'ς' ∨ d = 'σ' := by
  induction u generalizing before with
  | nil => cases h
  | cons c u ih =>
    rw [lowerFrom, List.mem_append] at h
    rcases h with h | h
    · split at h
      case isTrue =>
        split at h
        · exact .inr (.inl (List.mem_singleton.mp h))
        · exact .inr (.inr (List.mem_singleton.mp h))
      case isFalse => exact .inl ⟨c, List.mem_cons_self, h⟩
    · rcases ih h with ⟨e, he, hd⟩ | hsigma
      · exact .inl ⟨e, List.mem_cons_of_mem _ he, hd⟩
      · exact .inr hsigma

/-- No character of a text in small letters has a small form of its own. -/
theorem small_of_mem_lower (h : d ∈ lower u) : small d = [d] := by
  rcases exists_of_mem_lowerFrom h with ⟨c, _, hd⟩ | rfl | rfl
  · exact small_of_mem_small hd
  · decide
  · decide

/-- Putting a text without separators into small letters brings no separators into it. -/
theorem not_separator_of_mem_lower (hu : ∀ c ∈ u, isSeparator c = false) (h : d ∈ lower u) :
    isSeparator d = false := by
  rcases exists_of_mem_lowerFrom h with ⟨c, hc, hd⟩ | rfl | rfl
  · exact not_separator_of_mem_small (hu c hc) hd
  · decide
  · decide

/-- Putting a text into small letters a second time changes nothing, although some small forms
consist of several characters. -/
theorem lower_lower (u : List Char) : lower (lower u) = lower u :=
  lower_eq_self fun _ => small_of_mem_lower

/-- A text that is not empty is not empty in small letters, so no word is lost. -/
theorem lower_ne_nil (h : u ≠ []) : lower u ≠ [] := by
  cases u with
  | nil => exact absurd rfl h
  | cons c u =>
    rw [lower, lowerFrom]
    split
    case isTrue => simp
    case isFalse => simp [small_ne_nil]

/-! ### Joined names -/

/-- What is made of a word has no separator in it, if the word has none. Such a change does not cut
words. -/
def KeepsTogether (f : List Char → List Char) : Prop :=
  ∀ w, (∀ d ∈ w, isSeparator d = false) → ∀ d ∈ f w, isSeparator d = false

/-- Putting a word into small letters brings no separator into it. -/
theorem keepsTogether_lower : KeepsTogether lower := fun _ hw _ => not_separator_of_mem_lower hw

/-- Capitalising a word brings no separator into it. -/
theorem keepsTogether_capitalize : KeepsTogether capitalize := by
  intro w hw
  cases w with
  | nil => simp [capitalize]
  | cons c cs =>
    obtain ⟨hc, hcs⟩ := List.forall_mem_cons.mp hw
    refine List.forall_mem_cons.mpr ⟨not_separator_capital hc, fun d hd => ?_⟩
    obtain ⟨e, he, hd⟩ := List.mem_flatMap.mp hd
    exact not_separator_of_mem_small (hcs e he) hd

/-- Joining words behind a last piece brings no separators, if neither the piece nor the words have
any. -/
theorem not_separator_of_mem_joinAfter {last : List Char}
    (hlast : ∀ d ∈ last, isSeparator d = false)
    (hwords : ∀ w ∈ words, ∀ d ∈ w, isSeparator d = false) :
    ∀ d ∈ joinAfter last words, isSeparator d = false := by
  induction words generalizing last with
  | nil => exact hlast
  | cons w words ih =>
    obtain ⟨hw, hwords⟩ := List.forall_mem_cons.mp hwords
    rw [joinAfter]
    split
    case isTrue =>
      exact ih (List.forall_mem_append.mpr ⟨hlast, keepsTogether_lower w hw⟩) hwords
    case isFalse =>
      exact List.forall_mem_append.mpr ⟨hlast, ih (keepsTogether_capitalize w hw) hwords⟩

/-- A name that marks its words by capitals has no separators in it, however the first word is
treated. -/
theorem not_separator_of_mem_joinHumps {first : List Char → List Char}
    (hfirst : KeepsTogether first) (hwords : ∀ w ∈ words, ∀ d ∈ w, isSeparator d = false) :
    ∀ d ∈ joinHumps first words, isSeparator d = false := by
  cases words with
  | nil => simp [joinHumps]
  | cons w words =>
    obtain ⟨hw, hwords⟩ := List.forall_mem_cons.mp hwords
    exact not_separator_of_mem_joinAfter (hfirst w hw) hwords

/-- A name in which all words begin with capitals has no separators in it, and so no line breaks and
no quotes. -/
theorem not_separator_of_mem_pascal (name : String) :
    ∀ d ∈ (pascal name).toList, isSeparator d = false := by
  rw [pascal, Case.convert, String.toList_ofList]
  exact not_separator_of_mem_joinHumps keepsTogether_capitalize fun w hw => (of_mem_split hw).2

end CrdToolset.Naming
