import Mathlib.Data.List.Nodup
import Mathlib.Data.List.Forall2

/-!
# Lists of named things

Properties, whether of a schema, of a type or of a literal, are lists of pairs of a name and a
value. Where each name occurs once, looking a name up is the same as membership, and sorting by name
gives a list that does not depend on the order in which the pairs were written.
-/

namespace CrdToolset.Keyed

variable {β γ : Type}

/-- Pairs in increasing order of their names; the order that the whole library sorts by. -/
abbrev sort (l : List (String × β)) : List (String × β) := l.mergeSort fun a b => a.1 ≤ b.1

/-- Sorting a list of pairs by their names puts the names in increasing order, with equal names next
to each other. -/
theorem pairwise_sort (l : List (String × β)) : (sort l).Pairwise fun a b => a.1 ≤ b.1 := by
  have h : (sort l).Pairwise fun a b => decide (a.1 ≤ b.1) = true :=
    List.pairwise_mergeSort
      (fun a b c hab hbc => by
        simpa using String.le_trans (by simpa using hab) (by simpa using hbc))
      (fun a b => by simpa using String.le_total a.1 b.1) l
  simpa using h

/-- Sorting a list of pairs leaves the names in it as they are, up to their order and with their
repetitions. -/
theorem map_fst_sort_perm (l : List (String × β)) : ((sort l).map Prod.fst).Perm (l.map Prod.fst) :=
  (List.mergeSort_perm l _).map Prod.fst

/-- Sorting a list of pairs in which each name occurs once puts the names in strictly increasing
order. -/
theorem pairwise_lt_sort {l : List (String × β)} (h : (l.map Prod.fst).Nodup) :
    (sort l).Pairwise fun a b => a.1 < b.1 := by
  have hnodup : (sort l).Pairwise fun a b => a.1 ≠ b.1 :=
    List.pairwise_map.mp ((map_fst_sort_perm l).nodup_iff.mpr h)
  exact ((pairwise_sort l).and hnodup).imp fun hab => Std.lt_of_le_of_ne hab.1 hab.2

/-- A list of pairs whose names are in increasing order already stays as it is when it is sorted. -/
theorem sort_of_pairwise {l : List (String × β)} (h : l.Pairwise fun a b => a.1 ≤ b.1) :
    sort l = l := List.mergeSort_of_pairwise (by simpa using h)

/-- A list whose names are in strictly increasing order is what every list with the same pairs becomes when
it is sorted. -/
theorem sort_eq_of_perm {l l' : List (String × β)} (hperm : l.Perm l')
    (h : l'.Pairwise fun a b => a.1 < b.1) : sort l = l' := by
  have hle : l'.Pairwise fun a b => a.1 ≤ b.1 := h.imp Std.le_of_lt
  have hnodup : (l'.map Prod.fst).Nodup :=
    List.pairwise_map.mpr (h.imp Std.ne_of_lt)
  refine ((List.mergeSort_perm l _).trans hperm).eq_of_pairwise ?_ (pairwise_sort l) hle
  intro a b ha hb hab hba
  have ha' : a ∈ l' := hperm.mem_iff.mp (List.mem_mergeSort.mp ha)
  exact List.inj_on_of_nodup_map hnodup ha' hb (String.le_antisymm hab hba)

/-- Where each name occurs once, a name leads to the value beside it and to no other. -/
theorem lookup_eq_some_iff_mem {l : List (String × β)} (h : (l.map Prod.fst).Nodup) {name : String}
    {b : β} : l.lookup name = some b ↔ (name, b) ∈ l := by
  induction l with
  | nil => simp
  | cons entry rest ih =>
    obtain ⟨key, u⟩ := entry
    rw [List.map_cons, List.nodup_cons] at h
    by_cases hname : name = key
    · subst hname
      have hrest : (name, b) ∉ rest := fun hmem => h.1 (List.mem_map.mpr ⟨_, hmem, rfl⟩)
      simp [hrest, eq_comm]
    · have hkey : (name == key) = false := by simpa using hname
      rw [List.lookup_cons, hkey, ih h.2]
      simp [hname]

/-- Lists with the same names agree position by position after sorting: the same name, with a value
from either list. -/
theorem forall₂_sort {l : List (String × β)} {l' : List (String × γ)} {R : β → γ → Prop}
    (hkeys : (l.map Prod.fst).Perm (l'.map Prod.fst))
    (hR : ∀ name b c, (name, b) ∈ l → (name, c) ∈ l' → R b c) :
    List.Forall₂ (fun a c => a.1 = c.1 ∧ R a.2 c.2) (sort l) (sort l') := by
  have hperm : ((sort l).map Prod.fst).Perm ((sort l').map Prod.fst) :=
    (map_fst_sort_perm l).trans (hkeys.trans (map_fst_sort_perm l').symm)
  have heq : (sort l).map Prod.fst = (sort l').map Prod.fst :=
    hperm.eq_of_pairwise (fun _ _ _ _ => String.le_antisymm)
      (List.pairwise_map.mpr (pairwise_sort l)) (List.pairwise_map.mpr (pairwise_sort l'))
  rw [List.forall₂_iff_zip]
  refine ⟨by simpa using congrArg List.length heq, ?_⟩
  intro a c hmem
  have hname : a.1 = c.1 := by
    have h : List.Forall₂ Eq ((sort l).map Prod.fst) ((sort l').map Prod.fst) := by
      rw [List.forall₂_eq_eq_eq, heq]
    rw [List.forall₂_map_left_iff, List.forall₂_map_right_iff] at h
    exact (List.forall₂_iff_zip.mp h).2 hmem
  obtain ⟨ha, hc⟩ := List.of_mem_zip hmem
  refine ⟨hname, hR a.1 a.2 c.2 (List.mem_mergeSort.mp ha) ?_⟩
  rw [hname]
  exact List.mem_mergeSort.mp hc

/-- Sorting values by a key and making pairs of them gives the same list as making pairs first, if
the pairs have the keys for names. -/
theorem map_mergeSort_eq_sort {α : Type} {xs : List α} {key : α → String} {f : α → String × β}
    (h : ∀ x ∈ xs, key x = (f x).1) :
    (xs.mergeSort fun x y => key x ≤ key y).map f = sort (xs.map f) :=
  List.map_mergeSort fun x hx y hy => by rw [h x hx, h y hy]

/-- Two lists that have the same names and related values position by position still have them after
both have been sorted. -/
theorem forall₂_sort_of_forall₂ {l : List (String × β)} {l' : List (String × γ)}
    {R : β → γ → Prop} (h : List.Forall₂ (fun a c => a.1 = c.1 ∧ R a.2 c.2) l l') :
    List.Forall₂ (fun a c => a.1 = c.1 ∧ R a.2 c.2) (sort l) (sort l') := by
  obtain ⟨hlength, hzip⟩ := List.forall₂_iff_zip.mp h
  -- Both lists are read off one list of pairs, which is sorted by the names that the two share.
  have hleft : ((l.zip l').mergeSort fun x y => x.1.1 ≤ y.1.1).map Prod.fst = sort l := by
    rw [map_mergeSort_eq_sort fun _ _ => rfl, List.map_fst_zip (by omega)]
  have hright : ((l.zip l').mergeSort fun x y => x.1.1 ≤ y.1.1).map Prod.snd = sort l' := by
    rw [map_mergeSort_eq_sort fun _ hx => (hzip hx).1, List.map_snd_zip (by omega)]
  rw [← hleft, ← hright, List.forall₂_map_left_iff, List.forall₂_map_right_iff, List.forall₂_same]
  exact fun x hx => hzip (List.mem_mergeSort.mp hx)

end CrdToolset.Keyed
