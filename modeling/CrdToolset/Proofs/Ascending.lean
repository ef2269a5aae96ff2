import CrdToolset.Schema.Basic
import Mathlib.Data.List.Nodup

/-!
# Texts in strictly increasing order

The names of required properties are put in order and listed once each. The list that comes out is
the only one in strictly increasing order with the same members, so two ways to make such a list
need only be compared by their members.
-/

namespace CrdToolset

/-- The texts of a list are in strictly increasing order, so that none of them is listed twice. Such
a list is fixed by its members. -/
def Ascending (l : List String) : Prop := l.Pairwise (· < ·)

variable {l l' : List String} {a : String}

/-- Lists in strictly increasing order are the same if they have the same members. -/
theorem Ascending.eq_of_mem_iff (h : Ascending l) (h' : Ascending l')
    (hmem : ∀ a, a ∈ l ↔ a ∈ l') : l = l' := by
  have hnodup {l : List String} (h : Ascending l) : l.Nodup :=
    h.imp fun {a b} (hlt : a < b) => by
      rintro rfl
      exact String.lt_irrefl a hlt
  refine ((List.perm_ext_iff_of_nodup (hnodup h) (hnodup h')).mpr hmem).eq_of_pairwise ?_ h h'
  intro a b _ _ hab hba
  exact absurd (String.lt_trans hab hba) (String.lt_irrefl a)

/-- Dropping repetitions from a list keeps its members: of equal neighbours one is left. -/
theorem mem_dropRepeats : a ∈ dropRepeats l ↔ a ∈ l := by
  fun_induction dropRepeats l with
  | case1 => rfl
  | case2 => rfl
  | case3 a rest ih => simp [ih]
  | case4 a b rest hne ih => simp [ih]

/-- Where equal texts are neighbours, what is left after repetitions have been removed is in
strictly increasing order. -/
theorem ascending_dropRepeats (h : l.Pairwise (· ≤ ·)) : Ascending (dropRepeats l) := by
  fun_induction dropRepeats l with
  | case1 => exact .nil
  | case2 => exact List.pairwise_singleton ..
  | case3 a rest ih => exact ih h.of_cons
  | case4 a b rest hne ih =>
    refine List.pairwise_cons.mpr ⟨fun c hc => ?_, ih h.of_cons⟩
    have hbc : b ≤ c := by
      rcases List.mem_cons.mp (mem_dropRepeats.mp hc) with rfl | hc
      · exact String.le_refl _
      · exact List.rel_of_pairwise_cons h.of_cons hc
    have hab : a ≤ b := List.rel_of_pairwise_cons h List.mem_cons_self
    refine Std.lt_of_le_of_ne (String.le_trans hab hbc) ?_
    rintro rfl
    exact hne (String.le_antisymm hab hbc)

/-- A list that is sorted and then freed of repetitions is in strictly increasing order. Sorting
brings equal texts together, and `dropRepeats` leaves one of each. -/
theorem ascending_dropRepeats_mergeSort (l : List String) :
    Ascending (dropRepeats (l.mergeSort fun a b => a ≤ b)) := by
  refine ascending_dropRepeats ?_
  have h : (l.mergeSort fun a b => a ≤ b).Pairwise fun a b => decide (a ≤ b) = true :=
    List.pairwise_mergeSort
      (fun a b c hab hbc => by
        simpa using String.le_trans (by simpa using hab) (by simpa using hbc))
      (fun a b => by simpa using String.le_total a b) l
  simpa using h

/-- Sorting a list and dropping its repetitions keeps its members. With
`ascending_dropRepeats_mergeSort` this fixes the list of required names in a literal. -/
theorem mem_dropRepeats_mergeSort :
    a ∈ dropRepeats (l.mergeSort fun a b => a ≤ b) ↔ a ∈ l := by
  rw [mem_dropRepeats, List.mem_mergeSort]

end CrdToolset
