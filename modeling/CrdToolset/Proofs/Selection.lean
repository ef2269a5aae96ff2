import CrdToolset.Proofs.Operation
import Mathlib.Data.List.Induction

/-!
# Which selections are accepted

The letters of a selection are read from the left, and the first one that stands for no operation or
stood there before ends the reading. A selection is accepted exactly if it has letters and none of
them is at fault, and it then selects what its letters stand for, in their order.
-/

namespace CrdToolset.Operation

/-- The letters that stand for operations: those of creating, reading, updating and deleting. -/
def alphabet : List Char := ['c', 'r', 'u', 'd']

/-- The operations that a letter selects, in canonical order. There are two of them for the letter
of reading. -/
def selectedBy (c : Char) : List Operation := all.filter fun operation => operation.letter = c

/-- Nothing is wrong with letters: each stands for operations, and none stands there twice. -/
structure Legal (letters : List Char) : Prop where
  /-- Each letter stands for operations. -/
  known : ∀ c ∈ letters, c ∈ alphabet
  /-- No letter stands there twice. -/
  nodup : letters.Nodup

/-- What is wrong with a letter that comes after others: it stands for no operation, or it is one of
the letters before it. -/
inductive Offends (earlier : List Char) (c : Char) : Fault → Prop
  | unknown (notLetter : c ∉ alphabet) : Offends earlier c (.unknownLetter c)
  | repeated (before : c ∈ earlier) : Offends earlier c (.repeatedLetter c)

/-- The fault is that of the leftmost letter with which something is wrong; all letters before it
are in order. -/
def FirstOffence (letters : List Char) (fault : Fault) : Prop :=
  ∃ earlier c later, letters = earlier ++ c :: later ∧ Legal earlier ∧ Offends earlier c fault

variable {c : Char} {text : String} {letters earlier later seen : List Char} {fault : Fault}
  {operations : List Operation}

/-! ### Single letters -/

/-- Every letter of the alphabet stands for operations, namely for those that have it for their
letter. -/
theorem ofLetter?_of_mem (h : c ∈ alphabet) : ofLetter? c = some (selectedBy c) := by
  simp only [alphabet, List.mem_cons, List.not_mem_nil, or_false] at h
  rcases h with rfl | rfl | rfl | rfl <;> rfl

/-- A character outside the alphabet stands for no operation, and a selection that has it is
refused. -/
theorem ofLetter?_of_not_mem (h : c ∉ alphabet) : ofLetter? c = none := by
  simp only [alphabet, List.mem_cons, List.not_mem_nil, or_false, not_or] at h
  obtain ⟨hcreate, hread, hupdate, hdelete⟩ := h
  rw [ofLetter?, if_neg hcreate, if_neg hread, if_neg hupdate, if_neg hdelete]

/-- Where nothing is wrong with letters that were not seen before, the first can be read, and then
nothing is wrong with the others and they were not seen before either. -/
theorem Legal.of_cons (h : Legal (c :: letters)) (hnew : ∀ d ∈ c :: letters, d ∉ seen) :
    c ∈ alphabet ∧ c ∉ seen ∧ Legal letters ∧ ∀ d ∈ letters, d ∉ c :: seen := by
  obtain ⟨hc, hknown⟩ := List.forall_mem_cons.mp h.known
  obtain ⟨hother, hnodup⟩ := List.nodup_cons.mp h.nodup
  obtain ⟨hcnew, hletters⟩ := List.forall_mem_cons.mp hnew
  refine ⟨hc, hcnew, ⟨hknown, hnodup⟩, fun d hd hmem => ?_⟩
  rcases List.mem_cons.mp hmem with rfl | hmem
  · exact hother hd
  · exact hletters d hd hmem

/-- A letter that stands for operations may come after others, if it is none of them. -/
theorem Legal.concat (h : Legal letters) (hknown : c ∈ alphabet) (hnew : c ∉ letters) :
    Legal (letters ++ [c]) where
  known := List.forall_mem_append.mpr ⟨h.known, by simpa using hknown⟩
  nodup := List.nodup_append'.mpr ⟨h.nodup, List.nodup_singleton c, by simpa using hnew⟩

/-- A letter with which something is wrong stays at fault if more letters come before it. -/
theorem Offends.mono {more : List Char} (h : Offends earlier c fault)
    (hmore : ∀ d ∈ earlier, d ∈ more) : Offends more c fault := by
  cases h with
  | unknown notLetter => exact .unknown notLetter
  | repeated before => exact .repeated (hmore c before)

/-! ### Reading letters -/

section

variable {selected : List Operation} (hselected : ∀ operation ∈ selected, operation.letter ∈ seen)
include hselected

/-- What is selected by the letters that were seen, and by one more, is selected by those letters. -/
theorem letter_mem_of_mem_append :
    ∀ operation ∈ selected ++ selectedBy c, operation.letter ∈ c :: seen := by
  intro operation hmem
  rcases List.mem_append.mp hmem with hmem | hmem
  · exact List.mem_cons_of_mem _ (hselected operation hmem)
  · have hletter : operation.letter = c := by simpa using (List.mem_filter.mp hmem).2
    exact hletter ▸ List.mem_cons_self

/-- A letter of the alphabet that was not seen puts all operations that it selects behind those that are
selected already. -/
theorem expandAfter_cons (hknown : c ∈ alphabet) (hnew : c ∉ seen) :
    expandAfter seen selected (c :: letters) =
      expandAfter (c :: seen) (selected ++ selectedBy c) letters := by
  have hcontains : ¬seen.contains c = true := by rwa [List.contains_iff_mem]
  have hletter := ofLetter?_of_mem hknown
  rw [expandAfter, hletter]
  simp only
  rw [if_neg hcontains, addNew_eq_append_of_ofLetter? hletter hnew hselected]

/-- Letters with which nothing is wrong, and which were not seen, are read as what they stand for. -/
theorem expandAfter_of_legal (h : Legal letters) (hnew : ∀ c ∈ letters, c ∉ seen) :
    expandAfter seen selected letters = .ok (selected ++ letters.flatMap selectedBy) := by
  induction letters generalizing seen selected with
  | nil => simp [expandAfter]
  | cons c letters ih =>
    obtain ⟨hknown, hc, hrest, hafter⟩ := h.of_cons hnew
    rw [expandAfter_cons hselected hknown hc, ih (letter_mem_of_mem_append hselected) hrest hafter,
      List.flatMap_cons, List.append_assoc]

/-- Letters are read up to the first one at fault, and its fault is the outcome. -/
theorem expandAfter_of_offends (hseen : ∀ d ∈ seen, d ∈ alphabet) (hearlier : Legal earlier)
    (hnew : ∀ d ∈ earlier, d ∉ seen) (h : Offends (earlier ++ seen) c fault) :
    expandAfter seen selected (earlier ++ c :: later) = .error fault := by
  induction earlier generalizing seen selected with
  | nil =>
    cases h with
    | unknown notLetter => rw [List.nil_append, expandAfter, ofLetter?_of_not_mem notLetter]
    | repeated before =>
      have hcontains : seen.contains c = true := List.contains_iff_mem.mpr before
      rw [List.nil_append, expandAfter, ofLetter?_of_mem (hseen c before)]
      simp only
      rw [if_pos hcontains]
  | cons d earlier ih =>
    obtain ⟨hknown, hd, hrest, hafter⟩ := hearlier.of_cons hnew
    have hoffends : Offends (earlier ++ d :: seen) c fault := h.mono (by simp [or_left_comm])
    rw [List.cons_append, expandAfter_cons hselected hknown hd]
    exact ih (letter_mem_of_mem_append hselected) (List.forall_mem_cons.mpr ⟨hknown, hseen⟩) hrest
      hafter hoffends

end

/-- Something is wrong with letters exactly if there is a leftmost one at fault. -/
theorem legal_or_exists_firstOffence (letters : List Char) :
    Legal letters ∨ ∃ fault, FirstOffence letters fault := by
  induction letters using List.reverseRecOn with
  | nil => exact .inl ⟨by simp, by simp⟩
  | append_singleton letters c ih =>
    rcases ih with hlegal | ⟨fault, earlier, d, later, rfl, hearlier, hd⟩
    · by_cases hknown : c ∈ alphabet
      · by_cases hbefore : c ∈ letters
        · exact .inr ⟨_, letters, c, [], rfl, hlegal, .repeated hbefore⟩
        · exact .inl (hlegal.concat hknown hbefore)
      · exact .inr ⟨_, letters, c, [], rfl, hlegal, .unknown hknown⟩
    · exact .inr ⟨fault, earlier, d, later ++ [c], by simp, hearlier, hd⟩

/-! ### Selections -/

/-- The empty text selects nothing and is refused with a fault of its own. -/
theorem expand_empty : expand "" = .error .noOperations := rfl

/-- A text that is not empty is read letter by letter from the left, with nothing seen and nothing
selected before. -/
theorem expand_of_ne_empty (h : text ≠ "") : expand text = expandAfter [] [] text.toList := by
  have hempty : ¬text.isEmpty = true := by rwa [String.isEmpty_iff]
  rw [expand, if_neg hempty]

/-- A text with which nothing is wrong is accepted, if it is not empty. It selects the operations of
its letters, in the order of the letters. -/
theorem Legal.expand_eq (h : Legal text.toList) (hne : text ≠ "") :
    expand text = .ok (text.toList.flatMap selectedBy) := by
  rw [expand_of_ne_empty hne]
  exact expandAfter_of_legal (by simp) h fun _ _ => List.not_mem_nil

/-- A text with a letter at fault is refused, and what is reported is the fault of the leftmost such
letter. -/
theorem FirstOffence.expand_eq (h : FirstOffence text.toList fault) :
    expand text = .error fault := by
  obtain ⟨earlier, c, later, htext, hearlier, hc⟩ := h
  have hne : text ≠ "" := by
    rintro rfl
    simp at htext
  have hoffends : Offends (earlier ++ []) c fault := by rwa [List.append_nil]
  rw [expand_of_ne_empty hne, htext]
  exact expandAfter_of_offends (by simp) (by simp) hearlier (fun _ _ => List.not_mem_nil) hoffends

/-- What is accepted has letters with which nothing is wrong, and selects what they stand for. -/
theorem of_expand_eq_ok (h : expand text = .ok operations) :
    text ≠ "" ∧ Legal text.toList ∧ operations = text.toList.flatMap selectedBy := by
  have hne : text ≠ "" := by
    rintro rfl
    cases h
  rcases legal_or_exists_firstOffence text.toList with hlegal | ⟨fault, hfault⟩
  · rw [hlegal.expand_eq hne] at h
    exact ⟨hne, hlegal, (Except.ok.inj h).symm⟩
  · rw [hfault.expand_eq] at h
    cases h

/-- A text that is refused is empty or has a leftmost letter at fault, and the fault that is
reported says which. -/
theorem of_expand_eq_error (h : expand text = .error fault) :
    text = "" ∧ fault = .noOperations ∨ FirstOffence text.toList fault := by
  by_cases hne : text = ""
  · subst hne
    exact .inl ⟨rfl, (Except.error.inj h).symm⟩
  · rcases legal_or_exists_firstOffence text.toList with hlegal | ⟨other, hother⟩
    · rw [hlegal.expand_eq hne] at h
      cases h
    · rw [hother.expand_eq] at h
      exact .inr (Except.error.inj h ▸ hother)

/-- A selection is accepted exactly if it is not empty and nothing is wrong with its letters, and
then selects what they stand for, each operation once. A refused selection is empty, or its leftmost
letter at fault decides what is reported. -/
theorem expand_iff (text : String) :
    (∀ operations, expand text = .ok operations ↔
      text ≠ "" ∧ Legal text.toList ∧ operations = text.toList.flatMap selectedBy) ∧
    (∀ fault, expand text = .error fault ↔
      text = "" ∧ fault = .noOperations ∨ FirstOffence text.toList fault) ∧
    ∀ operations, expand text = .ok operations → operations.Nodup := by
  refine ⟨fun operations => ⟨of_expand_eq_ok, ?_⟩, fun fault => ⟨of_expand_eq_error, ?_⟩, ?_⟩
  · rintro ⟨hne, hlegal, rfl⟩
    exact hlegal.expand_eq hne
  · rintro (⟨rfl, rfl⟩ | hfirst)
    · exact expand_empty
    · exact hfirst.expand_eq
  · intro operations h
    have hselect : select (some text) = .ok operations := h
    exact nodup_of_select hselect

/-- Letters select in their order, where reading is done in two ways, and a letter that comes again
is at fault before one that is unknown. -/
theorem expand_deletingAndReading :
    expand "dr" = .ok [.delete, .get, .list] ∧ [Operation.delete, .get, .list].Nodup ∧
      expand "ccx" = .error (.repeatedLetter 'c') := by
  refine ⟨rfl, (expand_iff "dr").2.2 _ rfl, ((expand_iff "ccx").2.1 _).mpr (.inr ?_)⟩
  exact ⟨['c'], 'c', ['x'], rfl, ⟨by simp [alphabet], by simp⟩, .repeated List.mem_cons_self⟩

end CrdToolset.Operation
