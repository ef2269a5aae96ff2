import CrdToolset.Operation
import Mathlib.Data.List.Nodup

/-!
# Selections of operations

A selection that is accepted selects each operation once. Two things see to it: an operation that is
selected already is passed over, and no letter is accepted twice. Every letter stands for operations that no
other letter stands for, so the first of the two never has anything to do.
-/

namespace CrdToolset.Operation

/-- The letter that selects an operation. Getting and listing share the letter of reading. -/
def letter : Operation → Char
  | .create => 'c'
  | .get => 'r'
  | .list => 'r'
  | .update => 'u'
  | .delete => 'd'

variable {c : Char} {letters seen : List Char} {operations selected : List Operation}

/-- The operations that a letter stands for are different from each other, and all of them are selected by
this letter. -/
theorem nodup_of_ofLetter? (h : ofLetter? c = some operations) :
    operations.Nodup ∧ ∀ operation ∈ operations, operation.letter = c := by
  unfold ofLetter? at h
  repeat' split at h
  all_goals cases h
  all_goals subst_vars
  all_goals decide

/-- Adding operations to a selection never makes one of them stand there twice, since one that is selected
already is passed over. -/
theorem nodup_addNew (h : selected.Nodup) : (addNew selected operations).Nodup := by
  induction operations generalizing selected with
  | nil => exact h
  | cons operation rest ih =>
    rw [addNew]
    split
    case isTrue => exact ih h
    case isFalse hnew =>
      rw [List.contains_iff_mem] at hnew
      exact ih (List.nodup_append'.mpr ⟨h, List.nodup_singleton _, by simpa using hnew⟩)

/-- Where the operations are new and different from each other, none of them is passed over: all are put
behind the others in their order. -/
theorem addNew_eq_append (hnew : ∀ operation ∈ operations, operation ∉ selected)
    (hnodup : operations.Nodup) : addNew selected operations = selected ++ operations := by
  induction operations generalizing selected with
  | nil => simp [addNew]
  | cons operation rest ih =>
    obtain ⟨hfirst, hrest⟩ := List.forall_mem_cons.mp hnew
    obtain ⟨hother, hnodup⟩ := List.nodup_cons.mp hnodup
    have hcontains : ¬selected.contains operation = true := by rwa [List.contains_iff_mem]
    have hafter : ∀ next ∈ rest, next ∉ selected ++ [operation] := by
      intro next hnext hmem
      rcases List.mem_append.mp hmem with hmem | hmem
      · exact hrest next hnext hmem
      · exact hother (List.mem_singleton.mp hmem ▸ hnext)
    rw [addNew, if_neg hcontains, ih hafter hnodup, List.append_assoc, List.singleton_append]

/-- The check for operations that are selected already never finds one while the letters of a selection are
read: a letter that was not seen stands for operations that none of the letters before it stands for. -/
theorem addNew_eq_append_of_ofLetter? (h : ofLetter? c = some operations) (hc : c ∉ seen)
    (hselected : ∀ operation ∈ selected, operation.letter ∈ seen) :
    addNew selected operations = selected ++ operations := by
  obtain ⟨hnodup, hletter⟩ := nodup_of_ofLetter? h
  refine addNew_eq_append (fun operation hmem hbefore => hc ?_) hnodup
  exact hletter operation hmem ▸ hselected operation hbefore

/-- If the operations that are selected so far are different, those that are selected after all
letters are different, too. -/
theorem nodup_of_expandAfter (h : expandAfter seen selected letters = .ok operations)
    (hselected : selected.Nodup) : operations.Nodup := by
  induction letters generalizing seen selected with
  | nil => exact Except.ok.inj h ▸ hselected
  | cons c letters ih =>
    unfold expandAfter at h
    split at h
    case h_1 => cases h
    case h_2 =>
      split at h
      case isTrue => cases h
      case isFalse => exact ih h (nodup_addNew hselected)

/-- A selection that is accepted selects no operation twice, whether its letters were given or left
to the default. -/
theorem nodup_of_select {selection : Option String} (h : select selection = .ok operations) :
    operations.Nodup := by
  cases selection with
  | none =>
    obtain rfl := Except.ok.inj h
    decide
  | some text =>
    change expand text = _ at h
    unfold expand at h
    split at h
    · cases h
    · exact nodup_of_expandAfter h List.nodup_nil

end CrdToolset.Operation
