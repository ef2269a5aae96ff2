import CrdToolset.Naming.Case
import CrdToolset.Proofs.Text.Pieces

/-!
# Names that begin with a word

Where a name begins with a word in which no character but the first is a capital, the word survives
when the name is put into a case that marks words by capitals: it is not cut, and a capital after it
begins the next word. What comes after the word is then treated as if it stood alone.
-/

namespace CrdToolset.Naming

open Text (isCapital small capital lower lowerFrom pieces stretches exists_pieces pieces_append)

/-- A character that may follow the first one of a word: it does not begin or separate words, and
stays as it is in small letters. -/
def Inner (d : Char) : Prop := isCapital d = false ∧ isSeparator d = false ∧ small d = [d]

instance : DecidablePred Inner := fun _ => inferInstanceAs (Decidable (_ ∧ _ ∧ _))

/-- A word of at least two characters in which none but the first can begin a word. The capital
sigma is no first character, since its small form depends on what surrounds it. -/
inductive IsHump : List Char → Prop
  | intro {c : Char} {cs : List Char} (first : isSeparator c = false) (notSigma : c ≠ 'Σ')
      (more : cs ≠ []) (inner : ∀ d ∈ cs, Inner d) : IsHump (c :: cs)

variable {c d : Char} {cs u v X : List Char}

/-- A character within a word is not the capital sigma, because that has a small form of its own. -/
theorem Inner.ne_sigma (h : Inner d) : d ≠ 'Σ' := by
  rintro rfl
  exact absurd h.2.2 (by decide)

/-- Whether a fixed text is a word of this kind can be computed from its characters. -/
theorem isHump_of_all (first : isSeparator c = false) (notSigma : c ≠ 'Σ') (more : cs ≠ [])
    (inner : cs.all (Inner ·) = true) : IsHump (c :: cs) :=
  .intro first notSigma more fun d hd => of_decide_eq_true (List.all_eq_true.mp inner d hd)

/-- No character of a word separates words, neither the first nor those within. -/
theorem IsHump.not_separator (h : IsHump u) : ∀ d ∈ u, isSeparator d = false := by
  cases h with
  | intro first _ _ inner =>
    intro d hd
    rcases List.mem_cons.mp hd with rfl | hd
    · exact first
    · exact (inner d hd).2.1

/-- A word of this kind is not empty, so it is not lost when names are cut into words. -/
theorem IsHump.ne_nil (h : IsHump u) : u ≠ [] := by
  cases h
  simp

/-! ### Cutting -/

/-- What begins with characters that do not separate is cut into the words of the first part and
those of the other parts. -/
theorem split_append {p : List Char} {ps : List (List Char)} (hne : u ≠ [])
    (hu : ∀ d ∈ u, isSeparator d = false) (h : pieces isSeparator X = p :: ps) :
    split (u ++ X) = humps (u ++ p) ++ (ps.filter fun piece => !piece.isEmpty).flatMap humps := by
  rw [split, stretches, pieces_append hu h, List.filter_cons_of_pos (by simp [hne]),
    List.flatMap_cons]

/-- The first word of a stretch begins where the stretch begins, and there is a first word if there
is a character. -/
theorem exists_humps_cons (c : Char) (cs : List Char) :
    ∃ rest words, humps (c :: cs) = (c :: rest) :: words := by
  induction cs generalizing c with
  | nil => exact ⟨[], [], rfl⟩
  | cons d cs ih =>
    rw [humps]
    split
    · exact ⟨[], humps (d :: cs), rfl⟩
    · obtain ⟨rest, words, h⟩ := ih d
      exact ⟨d :: rest, words, by rw [h]; rfl⟩

/-- Before a character that is not a capital nothing is cut: the character in front of it belongs to
the same word. -/
theorem humps_cons_cons (hd : isCapital d = false) :
    humps (c :: d :: cs) = (humps (d :: cs)).modifyHead (c :: ·) := by
  rw [humps, breaksBetween, hd]
  rfl

/-- The first character of a stretch and the characters after it that are no capitals all belong to
the first word. -/
theorem exists_humps_append (hcs : ∀ d ∈ cs, isCapital d = false) :
    ∃ rest words, humps (c :: (cs ++ X)) = (c :: (cs ++ rest)) :: words := by
  induction cs generalizing c with
  | nil => exact exists_humps_cons c X
  | cons d cs ih =>
    obtain ⟨hd, hcs⟩ := List.forall_mem_cons.mp hcs
    obtain ⟨rest, words, h⟩ := ih hcs
    refine ⟨rest, words, ?_⟩
    rw [List.cons_append, humps_cons_cons hd, h]
    rfl

/-- A capital after characters that are no capitals ends the word of these and begins the next
one. -/
theorem humps_append_capital (hc : isCapital c = false) (hcs : ∀ d ∈ cs, isCapital d = false)
    (hd : isCapital d = true) : humps (c :: (cs ++ d :: X)) = (c :: cs) :: humps (d :: X) := by
  induction cs generalizing c with
  | nil =>
    rw [List.nil_append, humps, breaksBetween, hc, hd]
    rfl
  | cons e cs ih =>
    obtain ⟨he, hcs⟩ := List.forall_mem_cons.mp hcs
    rw [List.cons_append, humps_cons_cons he, ih he hcs]
    rfl

/-- The first word of a name begins with the word that the name begins with. -/
theorem IsHump.exists_split (h : IsHump u) (X : List Char) :
    ∃ rest words, split (u ++ X) = (u ++ rest) :: words := by
  obtain ⟨p, ps, hX⟩ := exists_pieces isSeparator X
  rw [split_append h.ne_nil h.not_separator hX]
  cases h with
  | intro _ _ _ inner =>
    obtain ⟨rest, words, hwords⟩ := exists_humps_append (X := p) fun d hd => (inner d hd).1
    exact ⟨rest, _, by rw [List.cons_append, hwords]; rfl⟩

/-- Where a capital follows the word that a name begins with, the word is cut off as a whole, and
the rest is cut as if it stood alone. -/
theorem IsHump.split_capital (h : IsHump u) (hd : isCapital d = true)
    (hsep : isSeparator d = false) : split (u ++ d :: X) = u :: split (d :: X) := by
  obtain ⟨p, ps, hX⟩ := exists_pieces isSeparator X
  have hX' : pieces isSeparator (d :: X) = (d :: p) :: ps :=
    pieces_append (u := [d]) (by simpa using hsep) hX
  rw [split_append h.ne_nil h.not_separator hX']
  have halone : split (d :: X) =
      humps (d :: p) ++ (ps.filter fun piece => !piece.isEmpty).flatMap humps :=
    split_append (u := [d]) (by simp) (by simpa using hsep) hX
  rw [halone]
  cases h with
  | @intro c cs _ _ more inner =>
    cases cs with
    | nil => exact absurd rfl more
    | cons e cs =>
      obtain ⟨he, hcs⟩ := List.forall_mem_cons.mp inner
      rw [List.cons_append, List.cons_append, humps_cons_cons he.1,
        humps_append_capital he.1 (fun d hd => (hcs d hd).1) hd]
      rfl

/-! ### Joining -/

/-- What is joined behind a first piece begins with that piece, whatever words follow. -/
theorem exists_joinAfter (last : List Char) (words : List (List Char)) :
    ∃ rest, joinAfter last words = last ++ rest := by
  induction words generalizing last with
  | nil => exact ⟨[], by simp [joinAfter]⟩
  | cons word words ih =>
    rw [joinAfter]
    split
    · obtain ⟨rest, h⟩ := ih (last ++ lower word)
      exact ⟨lower word ++ rest, by rw [h, List.append_assoc]⟩
    · exact ⟨_, rfl⟩

/-- Where a word is treated on its own, a name that begins with it begins with what becomes of
it. -/
theorem IsHump.exists_joinHumps (h : IsHump u) {first : List Char → List Char}
    (hfirst : ∀ rest, ∃ rest', first (u ++ rest) = v ++ rest') (X : List Char) :
    ∃ Z, joinHumps first (split (u ++ X)) = v ++ Z := by
  obtain ⟨rest, words, hsplit⟩ := h.exists_split X
  obtain ⟨rest', hrest'⟩ := hfirst rest
  obtain ⟨Z, hZ⟩ := exists_joinAfter (first (u ++ rest)) words
  refine ⟨rest' ++ Z, ?_⟩
  rw [hsplit, joinHumps, hZ, hrest', List.append_assoc]

/-- A word after which a capital stands is treated on its own, and so is what begins with the
capital. -/
theorem IsHump.joinHumps_capital (h : IsHump u) {first : List Char → List Char}
    (hlast : (first u).getLast?.any isCapital = false) (hd : isCapital d = true)
    (hsep : isSeparator d = false) :
    joinHumps first (split (u ++ d :: X)) =
      first u ++ joinHumps capitalize (split (d :: X)) := by
  obtain ⟨p, ps, hX⟩ := exists_pieces isSeparator X
  have hsplit : split (d :: X) =
      humps (d :: p) ++ (ps.filter fun piece => !piece.isEmpty).flatMap humps :=
    split_append (u := [d]) (by simp) (by simpa using hsep) hX
  obtain ⟨rest, words, hwords⟩ := exists_humps_cons d p
  rw [h.split_capital hd hsep, hsplit, hwords, List.cons_append, joinHumps, joinAfter, melts, hlast]
  rfl

/-! ### The two cases that mark words by capitals -/

/-- Characters without a small form of their own stay as they are when each is put into its small
form. -/
theorem flatMap_small_eq_self (h : ∀ d ∈ u, small d = [d]) : u.flatMap small = u := by
  induction u with
  | nil => rfl
  | cons d u ih =>
    obtain ⟨hd, hu⟩ := List.forall_mem_cons.mp h
    rw [List.flatMap_cons, hd, ih hu]
    rfl

/-- The characters within a word stay as they are when each is put into its small form. -/
theorem flatMap_small_of_inner (h : ∀ d ∈ cs, Inner d) : cs.flatMap small = cs :=
  flatMap_small_eq_self fun d hd => (h d hd).2.2

/-- Only the first character of a word becomes a capital, and what comes after it is put into small
letters. -/
theorem capitalize_append (h : ∀ d ∈ cs, Inner d) (rest : List Char) :
    capitalize (c :: cs ++ rest) = capital c :: cs ++ rest.flatMap small := by
  rw [List.cons_append, capitalize, List.flatMap_append, flatMap_small_of_inner h]
  rfl

/-- Capitalising a word changes only its first character, because the others are small already. -/
theorem capitalize_word (h : ∀ d ∈ cs, Inner d) : capitalize (c :: cs) = capital c :: cs := by
  simpa using capitalize_append h []

/-- Characters other than the capital sigma become small on their own, whatever stands before and
behind them. -/
theorem exists_lowerFrom_append (hu : ∀ d ∈ u, d ≠ 'Σ') (before rest : List Char) :
    ∃ rest', lowerFrom before (u ++ rest) = u.flatMap small ++ rest' := by
  induction u generalizing before with
  | nil => exact ⟨_, rfl⟩
  | cons d u ih =>
    obtain ⟨hd, hu⟩ := List.forall_mem_cons.mp hu
    obtain ⟨rest', h⟩ := ih hu (d :: before)
    refine ⟨rest', ?_⟩
    rw [List.cons_append, lowerFrom, if_neg hd, h, List.flatMap_cons, List.append_assoc]

/-- A text without the capital sigma is put into small letters by the small form of each of its
characters. -/
theorem lower_eq_flatMap_small (hu : ∀ d ∈ u, d ≠ 'Σ') : lower u = u.flatMap small := by
  have hlower (before : List Char) : lowerFrom before u = u.flatMap small := by
    induction u generalizing before with
    | nil => rfl
    | cons d u ih =>
      obtain ⟨hd, hu⟩ := List.forall_mem_cons.mp hu
      rw [lowerFrom, if_neg hd, ih hu, List.flatMap_cons]
  exact hlower []

/-- No character of a word is the capital sigma, so the word is put into small letters character by
character. -/
theorem IsHump.ne_sigma (h : IsHump u) : ∀ d ∈ u, d ≠ 'Σ' := by
  cases h with
  | intro _ notSigma _ inner =>
    intro d hd
    rcases List.mem_cons.mp hd with rfl | hd
    · exact notSigma
    · exact (inner d hd).ne_sigma

/-- A text that ends with characters from within a word does not end with a capital, so a capital
behind it begins a word. -/
theorem getLast?_any_isCapital (front : List Char) (hne : cs ≠ []) (h : ∀ d ∈ cs, Inner d) :
    (front ++ cs).getLast?.any isCapital = false := by
  have hlast : (front ++ cs).getLast? = some (cs.getLast hne) := by
    rw [List.getLast?_append, List.getLast?_eq_some_getLast hne]
    rfl
  rw [hlast]
  exact (h _ (List.getLast_mem hne)).1

section

variable (h : IsHump u)
include h

/-- A name that begins with a word, put into the case that capitalises all words, begins with the
word after a capital. -/
theorem IsHump.exists_pascal (X : List Char) :
    ∃ Z, Case.pascal.join (split (u ++ X)) = capitalize u ++ Z := by
  refine h.exists_joinHumps (fun rest => ?_) X
  cases h with
  | intro _ _ _ inner =>
    refine ⟨rest.flatMap small, ?_⟩
    rw [capitalize_append inner, capitalize_word inner]

/-- What begins with a capital after a word is treated as if it stood alone. -/
theorem IsHump.pascal_capital (hd : isCapital d = true) (hsep : isSeparator d = false) :
    Case.pascal.join (split (u ++ d :: X)) =
      capitalize u ++ Case.pascal.join (split (d :: X)) := by
  refine h.joinHumps_capital ?_ hd hsep
  cases h with
  | intro _ _ more inner =>
    rw [capitalize_word inner]
    exact getLast?_any_isCapital [_] more inner

/-- A name that begins with a word, put into the case that leaves the first word small, begins with
the word in small letters. -/
theorem IsHump.exists_camel (X : List Char) :
    ∃ Z, Case.camel.join (split (u ++ X)) = lower u ++ Z := by
  refine h.exists_joinHumps (fun rest => ?_) X
  rw [lower_eq_flatMap_small h.ne_sigma]
  exact exists_lowerFrom_append h.ne_sigma [] rest

/-- After a word in small letters, what begins with a capital is treated as if it stood alone, and
keeps its capital. -/
theorem IsHump.camel_capital (hd : isCapital d = true) (hsep : isSeparator d = false) :
    Case.camel.join (split (u ++ d :: X)) = lower u ++ Case.pascal.join (split (d :: X)) := by
  refine h.joinHumps_capital ?_ hd hsep
  rw [lower_eq_flatMap_small h.ne_sigma]
  cases h with
  | intro _ _ more inner =>
    rw [List.flatMap_cons, flatMap_small_of_inner inner]
    exact getLast?_any_isCapital _ more inner

end

end CrdToolset.Naming
