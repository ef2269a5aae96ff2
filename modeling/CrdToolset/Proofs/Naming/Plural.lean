import CrdToolset.Naming.Plural
import CrdToolset.Proofs.Naming.Carries
import Mathlib.Data.List.Find

/-!
# Plurals of names that begin with a word

The rules for plurals look at the last three characters of a noun and change at most two of them. So
the plural passes on a word at the beginning, as long as no noun of the list begins with the word
and no rule takes anything off that ends like it.
-/

namespace CrdToolset.Naming

variable {rule : SuffixRule} {word before : List Char} {u w : String}

/-- Whether a rule fits depends on the ending of a word and the character before it. -/
theorem SuffixRule.fits_append (before : List Char) (h : rule.suffix.length < word.length) :
    rule.fits (before ++ word) = rule.fits word := by
  have hsuffix : rule.suffix.isSuffixOf (before ++ word) = rule.suffix.isSuffixOf word := by
    rw [Bool.eq_iff_iff, List.isSuffixOf_iff_suffix, List.isSuffixOf_iff_suffix]
    constructor
    · intro hlong
      exact List.suffix_of_suffix_length_le hlong (List.suffix_append before word) (by omega)
    · intro hshort
      exact hshort.trans (List.suffix_append before word)
  have htake : (before ++ word).take ((before ++ word).length - rule.suffix.length) =
      before ++ word.take (word.length - rule.suffix.length) := by
    rw [List.length_append, Nat.add_sub_assoc (by omega), List.take_length_add_append]
  have hne : word.take (word.length - rule.suffix.length) ≠ [] := by
    rw [Ne, List.take_eq_nil_iff]
    rintro (hzero | rfl)
    · omega
    · simp at h
  unfold fits
  rw [hsuffix, htake, List.getLast?_append, List.getLast?_eq_some_getLast hne]
  rfl

/-- What a rule takes off is taken off the end of a word, so characters in front of the word stay
where they are. -/
theorem SuffixRule.apply_append (before : List Char) (h : rule.drop ≤ word.length) :
    rule.apply (before ++ word) = before ++ rule.apply word := by
  unfold apply
  rw [List.length_append, Nat.add_sub_assoc h, List.take_length_add_append, List.append_assoc]

/-- Every rule for plurals is for at most two characters, and takes off no others. -/
theorem length_of_mem_pluralRules : ∀ rule ∈ pluralRules,
    rule.suffix.length ≤ 2 ∧ rule.drop ≤ rule.suffix.length := by decide

/-- The rules do the same to a word of at least three characters, whatever stands before it. -/
theorem applyFirst_append (before : List Char) (h : 3 ≤ word.length) :
    applyFirst pluralRules (before ++ word) = (applyFirst pluralRules word).map (before ++ ·) := by
  have hfits : ∀ rule ∈ pluralRules, rule.fits ((before ++ word).map Char.toLower) =
      rule.fits (word.map Char.toLower) := by
    intro rule hrule
    have hlength := (length_of_mem_pluralRules rule hrule).1
    rw [List.map_append, SuffixRule.fits_append _ (by rw [List.length_map]; omega)]
  have happly : ∀ rule ∈ pluralRules, rule.apply (before ++ word) = before ++ rule.apply word := by
    intro rule hrule
    obtain ⟨hlength, hdrop⟩ := length_of_mem_pluralRules rule hrule
    exact SuffixRule.apply_append before (by omega)
  unfold applyFirst
  rw [List.find?_congr hfits]
  cases hfound : pluralRules.find? fun rule => rule.fits (word.map Char.toLower) with
  | none => rfl
  | some rule => exact congrArg some (happly rule (List.mem_of_find?_eq_some hfound))

/-- A word that the plural leaves alone at the beginning of a noun: no fixed plural begins with it,
and no ending that a rule takes off can reach into it. -/
structure LeftAlone (u : String) : Prop where
  /-- It is longer than the endings of the rules. -/
  length : 3 ≤ u.toList.length
  /-- No noun of the list begins with it. -/
  notFixed : ∀ noun ∈ fixedPlurals, ¬u.toList.map Char.toLower <+: noun.toList
  /-- No rule that takes something off is for an ending with its last character. -/
  last : ∀ c ∈ (u.toList.map Char.toLower).getLast?, ∀ rule ∈ pluralRules, 0 < rule.drop →
    c ∉ rule.suffix

/-- The plural of a noun that begins with such a word is formed by the rules, and not looked up. -/
theorem LeftAlone.pluralize_append (h : LeftAlone u) (x : String) :
    pluralize (u ++ x) = String.ofList
      ((applyFirst pluralRules (u.toList ++ x.toList)).getD (u.toList ++ x.toList ++ ['s'])) := by
  have hfixed :
      fixedPlurals.contains (String.ofList ((u ++ x).toList.map Char.toLower)) = false := by
    rw [Bool.eq_false_iff, Ne, List.contains_iff_mem]
    intro hmem
    refine h.notFixed _ hmem ?_
    rw [String.toList_ofList, String.toList_append, List.map_append]
    exact List.prefix_append ..
  have hempty : (u ++ x).toList.isEmpty = false := by
    have hlength := h.length
    rw [List.isEmpty_eq_false_iff, String.toList_append]
    intro hnil
    rw [List.append_eq_nil_iff] at hnil
    simp [hnil.1] at hlength
  rw [pluralize, hfixed, hempty, String.toList_append]
  rfl

/-- A rule that fits a noun takes nothing off the word that it begins with. -/
theorem LeftAlone.drop_le (h : LeftAlone u) (hrule : rule ∈ pluralRules)
    (hfits : rule.fits ((u.toList ++ word).map Char.toLower) = true) : rule.drop ≤ word.length := by
  by_contra hlong
  have hlast := h.last
  have hlength := (length_of_mem_pluralRules rule hrule).2
  have hne : u.toList.map Char.toLower ≠ [] := by
    have := h.length
    rw [Ne, List.map_eq_nil_iff]
    intro hnil
    simp [hnil] at this
  rw [List.getLast?_eq_some_getLast hne] at hlast
  refine hlast _ rfl rule hrule (by omega) ?_
  -- The ending is longer than what comes after the word, so it contains the end of the word.
  have hsuffix : rule.suffix <:+ u.toList.map Char.toLower ++ word.map Char.toLower := by
    rw [← List.map_append]
    exact List.isSuffixOf_iff_suffix.mp (Bool.and_eq_true_iff.mp hfits).1
  have hend : (u.toList.map Char.toLower).getLast hne :: word.map Char.toLower <:+
      u.toList.map Char.toLower ++ word.map Char.toLower := by
    refine ⟨(u.toList.map Char.toLower).dropLast, ?_⟩
    rw [List.append_cons, List.dropLast_concat_getLast]
  have hshort : (u.toList.map Char.toLower).getLast hne :: word.map Char.toLower <:+ rule.suffix :=
    List.suffix_of_suffix_length_le hend hsuffix (by simp; omega)
  exact hshort.subset List.mem_cons_self

/-- The plural passes on a word that it leaves alone, and what follows the word is changed as if it
stood alone. -/
theorem LeftAlone.passes_pluralize (hu : LeftAlone u) (hw : LeftAlone w) :
    Passes pluralize u u w where
  start x := by
    rw [hu.pluralize_append]
    cases hfound : applyFirst pluralRules (u.toList ++ x.toList) with
    | none =>
      refine ⟨String.ofList (x.toList ++ ['s']), ?_⟩
      rw [Option.getD_none, List.append_assoc, String.ofList_append, String.ofList_toList]
    | some plural =>
      obtain ⟨rule, hrule, rfl⟩ := Option.map_eq_some_iff.mp hfound
      have hfits : rule.fits ((u.toList ++ x.toList).map Char.toLower) = true := by
        simpa using List.find?_some hrule
      have hdrop := hu.drop_le (List.mem_of_find?_eq_some hrule) hfits
      refine ⟨String.ofList (rule.apply x.toList), ?_⟩
      rw [Option.getD_some, SuffixRule.apply_append _ hdrop, String.ofList_append,
        String.ofList_toList]
  step x := by
    have hlength : 3 ≤ (w.toList ++ x.toList).length := by
      have := hw.length
      rw [List.length_append]
      omega
    rw [hu.pluralize_append, hw.pluralize_append, String.toList_append, applyFirst_append _ hlength]
    cases applyFirst pluralRules (w.toList ++ x.toList) with
    | none =>
      rw [Option.map_none, Option.getD_none, Option.getD_none, List.append_assoc u.toList,
        String.ofList_append, String.ofList_toList]
    | some plural =>
      rw [Option.map_some, Option.getD_some, Option.getD_some, String.ofList_append,
        String.ofList_toList]

end CrdToolset.Naming
