import Mathlib.Data.List.Nodup

/-!
# First occurrences

Members of a list are listed where they come first. What has been listed before can be carried along
instead of being removed afterwards, and then lists that follow each other can be treated one by
one.
-/

namespace CrdToolset

variable {α : Type} [BEq α] [LawfulBEq α]

/-- The members of a list that are not known yet, each where it comes first. -/
def firstsIn (known : List α) : List α → List α
  | [] => []
  | a :: l => if known.contains a then firstsIn known l else a :: firstsIn (a :: known) l

variable {known known' l l' : List α} {a : α}

/-- A member that is known already is passed over: the list is treated as if it began with the next
one. -/
theorem firstsIn_cons_of_mem (h : a ∈ known) : firstsIn known (a :: l) = firstsIn known l := by
  rw [firstsIn, if_pos (List.contains_iff_mem.mpr h)]

/-- A member that is not known is listed, and it counts as known for the rest of the list. -/
theorem firstsIn_cons_of_not_mem (h : a ∉ known) :
    firstsIn known (a :: l) = a :: firstsIn (a :: known) l := by
  rw [firstsIn, if_neg (by rwa [List.contains_iff_mem])]

/-- What is listed depends on which members were known before, but not on the order or the number of
times in which they became known. -/
theorem firstsIn_congr (h : ∀ a, a ∈ known ↔ a ∈ known') :
    firstsIn known l = firstsIn known' l := by
  induction l generalizing known known' with
  | nil => rfl
  | cons a l ih =>
    by_cases ha : a ∈ known
    · rw [firstsIn_cons_of_mem ha, firstsIn_cons_of_mem ((h a).mp ha), ih h]
    · have ha' : a ∉ known' := fun hmem => ha ((h a).mpr hmem)
      rw [firstsIn_cons_of_not_mem ha, firstsIn_cons_of_not_mem ha']
      refine congrArg (a :: ·) (ih fun b => ?_)
      rw [List.mem_cons, List.mem_cons, h b]

/-- The function `firstsIn` lists those members of a list that were not known before, and no
others. -/
theorem mem_firstsIn : a ∈ firstsIn known l ↔ a ∈ l ∧ a ∉ known := by
  induction l generalizing known with
  | nil => simp [firstsIn]
  | cons b l ih =>
    by_cases hb : b ∈ known
    · rw [firstsIn_cons_of_mem hb, ih, List.mem_cons]
      constructor
      · rintro ⟨ha, hnew⟩
        exact ⟨.inr ha, hnew⟩
      · rintro ⟨rfl | ha, hnew⟩
        · exact absurd hb hnew
        · exact ⟨ha, hnew⟩
    · rw [firstsIn_cons_of_not_mem hb, List.mem_cons, ih, List.mem_cons, List.mem_cons]
      by_cases hab : a = b
      · simp [hab, hb]
      · simp [hab]

/-- No member is listed twice by `firstsIn`, however often it is in the list, because it is known
after its first occurrence. -/
theorem nodup_firstsIn : (firstsIn known l).Nodup := by
  induction l generalizing known with
  | nil => exact List.nodup_nil
  | cons a l ih =>
    by_cases ha : a ∈ known
    · rw [firstsIn_cons_of_mem ha]
      exact ih
    · rw [firstsIn_cons_of_not_mem ha]
      refine List.nodup_cons.mpr ⟨fun hmem => ?_, ih⟩
      exact (mem_firstsIn.mp hmem).2 List.mem_cons_self

/-- Where all members of a list are known before, nothing of it is listed. -/
theorem firstsIn_eq_nil (h : ∀ a ∈ l, a ∈ known) : firstsIn known l = [] := by
  rw [List.eq_nil_iff_forall_not_mem]
  intro a ha
  obtain ⟨hmem, hnew⟩ := mem_firstsIn.mp ha
  exact hnew (h a hmem)

/-- Two lists that follow each other can be treated one by one: what the first has brought counts as
known for the second. -/
theorem firstsIn_append :
    firstsIn known (l ++ l') = firstsIn known l ++ firstsIn (l ++ known) l' := by
  induction l generalizing known with
  | nil => rfl
  | cons a l ih =>
    rw [List.cons_append]
    by_cases ha : a ∈ known
    · rw [firstsIn_cons_of_mem ha, firstsIn_cons_of_mem ha, ih]
      congr 1
      refine firstsIn_congr fun b => ?_
      have : b = a → b ∈ known := fun h => h ▸ ha
      simp only [List.cons_append, List.mem_cons, List.mem_append]
      tauto
    · rw [firstsIn_cons_of_not_mem ha, firstsIn_cons_of_not_mem ha, ih, List.cons_append]
      congr 2
      refine firstsIn_congr fun b => ?_
      simp only [List.cons_append, List.mem_cons, List.mem_append]
      tauto

/-- Listing first occurrences a second time changes nothing, if all that was known the first time is
known again. -/
theorem firstsIn_firstsIn (h : ∀ a ∈ known', a ∈ known) :
    firstsIn known (firstsIn known' l) = firstsIn known l := by
  induction l generalizing known known' with
  | nil => rfl
  | cons a l ih =>
    by_cases ha' : a ∈ known'
    · rw [firstsIn_cons_of_mem ha', firstsIn_cons_of_mem (h a ha'), ih h]
    · rw [firstsIn_cons_of_not_mem ha']
      by_cases ha : a ∈ known
      · rw [firstsIn_cons_of_mem ha, firstsIn_cons_of_mem ha]
        refine ih fun b hb => ?_
        rcases List.mem_cons.mp hb with rfl | hb
        · exact ha
        · exact h b hb
      · rw [firstsIn_cons_of_not_mem ha, firstsIn_cons_of_not_mem ha]
        refine congrArg (a :: ·) (ih fun b hb => ?_)
        rcases List.mem_cons.mp hb with rfl | hb
        · exact List.mem_cons_self
        · exact List.mem_cons_of_mem a (h b hb)

/-- Removing duplicates from a list is listing first occurrences with nothing known before. This
leads from the library function to one that is easy to follow through a traversal. -/
theorem eraseDups_eq_firstsIn (l : List α) : l.eraseDups = firstsIn [] l := by
  have hloop (l known : List α) :
      List.eraseDupsBy.loop (· == ·) l known = known.reverse ++ firstsIn known l := by
    induction l generalizing known with
    | nil => simp [List.eraseDupsBy.loop, firstsIn]
    | cons a l ih =>
      have hany : (known.any fun b => a == b) = known.contains a := by
        rw [Bool.eq_iff_iff, List.contains_iff_mem, List.any_eq_true]
        simp
      rw [List.eraseDupsBy.loop, hany, firstsIn]
      cases known.contains a with
      | true => exact ih known
      | false => simp [ih]
  exact hloop l []

end CrdToolset
