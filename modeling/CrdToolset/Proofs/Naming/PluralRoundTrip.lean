import CrdToolset.Naming.Plural
import Mathlib.Data.List.Basic

/-!
# Nouns that come back from their plural

The rules look at the end of a word, so words are read from their ends here. There are five ways to form
a plural, and the rules for singulars undo each of them as far as its ending tells where it came from:
`-ves` may stem from `-f` or from `-fe`, and `-es` may have been there before the `s` was added.
-/

namespace CrdToolset.Naming

variable {rule : SuffixRule} {rules : List SuffixRule} {word plural : List Char} {c : Char}

/-! ### Reading from the end -/

/-- The rule fits a word that is given from its end, so that the ending of the rule is found at the
beginning of the list. -/
def SuffixRule.fitsFromEnd (rule : SuffixRule) (word : List Char) : Bool :=
  rule.suffix.reverse.isPrefixOf word && rule.before (word.drop rule.suffix.length).head?

/-- What the rule makes of a word that is given from its end: the new ending takes the place of what
is dropped. -/
def SuffixRule.applyFromEnd (rule : SuffixRule) (word : List Char) : List Char :=
  rule.ending.reverse ++ word.drop rule.drop

/-- A word that is given from its end, changed by the first rule that fits it. -/
def applyFromEnd (default : List Char → List Char) : List SuffixRule → List Char → List Char
  | [], word => default word
  | rule :: rules, word =>
    if rule.fitsFromEnd word then rule.applyFromEnd word else applyFromEnd default rules word

/-- A rule fits a word exactly if it fits the word given from its end, as `fitsFromEnd` has it. -/
theorem SuffixRule.fits_reverse (rule : SuffixRule) (word : List Char) :
    rule.fits word.reverse = rule.fitsFromEnd word := by
  have hsuffix : rule.suffix.isSuffixOf word.reverse = rule.suffix.reverse.isPrefixOf word := by
    rw [List.isSuffixOf, List.reverse_reverse]
  unfold fits fitsFromEnd
  rw [hsuffix, List.length_reverse, List.take_reverse, List.getLast?_reverse]
  by_cases hlength : rule.suffix.length ≤ word.length
  · rw [Nat.sub_sub_self hlength]
  · have hlong : rule.suffix.reverse.isPrefixOf word = false := by
      rw [Bool.eq_false_iff, Ne, List.isPrefixOf_iff_prefix]
      intro hprefix
      have := hprefix.length_le
      rw [List.length_reverse] at this
      omega
    rw [hlong, Bool.false_and, Bool.false_and]

/-- A rule makes the same of a word as of the word given from its end, if there is enough to
drop. -/
theorem SuffixRule.apply_reverse (h : rule.drop ≤ word.length) :
    rule.apply word.reverse = (rule.applyFromEnd word).reverse := by
  unfold apply applyFromEnd
  rw [List.length_reverse, List.take_reverse, Nat.sub_sub_self h, List.reverse_append,
    List.reverse_reverse]

/-- A word that a rule fits is at least as long as the ending of the rule, so there is enough to
drop. -/
theorem SuffixRule.length_le_of_fitsFromEnd (h : rule.fitsFromEnd word = true) :
    rule.suffix.length ≤ word.length := by
  have hprefix := List.isPrefixOf_iff_prefix.mp (Bool.and_eq_true_iff.mp h).1
  simpa using hprefix.length_le

/-- The first rule that fits a word in small letters does the same from both ends. -/
theorem applyFirst_reverse (default : List Char → List Char)
    (hdrop : ∀ rule ∈ rules, rule.drop ≤ rule.suffix.length)
    (hsmall : word.map Char.toLower = word) :
    (applyFirst rules word.reverse).getD (default word).reverse =
      (applyFromEnd default rules word).reverse := by
  induction rules with
  | nil => rfl
  | cons rule rules ih =>
    obtain ⟨hrule, hrules⟩ := List.forall_mem_cons.mp hdrop
    have hfits : rule.fits (word.reverse.map Char.toLower) = rule.fitsFromEnd word := by
      rw [List.map_reverse, hsmall, SuffixRule.fits_reverse]
    rw [applyFirst, List.find?_cons, hfits, applyFromEnd]
    cases hcase : rule.fitsFromEnd word with
    | true =>
      have hlength := SuffixRule.length_le_of_fitsFromEnd hcase
      rw [Option.map_some, Option.getD_some, if_pos rfl, SuffixRule.apply_reverse (by omega)]
    | false => exact ih hrules

/-- The plural that the rules form of a word, both given from their ends. -/
def pluralFromEnd (word : List Char) : List Char := applyFromEnd ('s' :: ·) pluralRules word

/-- The singular that the rules form of a word, both given from their ends. -/
def singularFromEnd (word : List Char) : List Char := applyFromEnd id singularRules word

/-- The rules for plurals one after the other, for a word that is given from its end: each looks at
one or two characters. -/
theorem pluralFromEnd_cons (c : Char) (word : List Char) :
    pluralFromEnd (c :: word) =
      if 's' = c then 's' :: 'e' :: c :: word
      else if 'x' = c then 's' :: 'e' :: c :: word
      else if 'z' = c then 's' :: 'e' :: c :: word
      else if 'h' = c ∧ ['c'] <+: word then 's' :: 'e' :: c :: word
      else if 'h' = c ∧ ['s'] <+: word then 's' :: 'e' :: c :: word
      else if 'y' = c ∧ word.head?.any isVowel then 's' :: c :: word
      else if 'y' = c ∧ word.head?.any (fun d => d.isAlpha && !isVowel d) then 's' :: 'e' :: 'i' :: word
      else if 'f' = c ∧ word.head?.any Char.isAlpha then 's' :: 'e' :: 'v' :: word
      else if ('e' = c ∧ ['f'] <+: word) ∧ word[1]?.any Char.isAlpha then 's' :: 'e' :: 'v' :: word.tail
      else 's' :: c :: word := by
  simp [pluralFromEnd, pluralRules, applyFromEnd, SuffixRule.fitsFromEnd, SuffixRule.applyFromEnd,
    anything]

/-- The rules for singulars, for a word with an `s` at its end that is given from there. -/
theorem singularFromEnd_cons_s (word : List Char) :
    singularFromEnd ('s' :: word) =
      if ['e', 'i'] <+: word then 'y' :: word.drop 2
      else if ['e', 'v', 'i'] <+: word then 'e' :: 'f' :: word.drop 2
      else if ['e', 'v'] <+: word then 'f' :: word.drop 2
      else if ['e', 's'] <+: word then word.tail
      else if ['e', 'x'] <+: word then word.tail
      else if ['e', 'z'] <+: word then word.tail
      else if ['e', 'h', 'c'] <+: word then word.tail
      else if ['e', 'h', 's'] <+: word then word.tail
      else if word.head? = some 's' then 's' :: word
      else word := by
  simp [singularFromEnd, singularRules, applyFromEnd, SuffixRule.fitsFromEnd,
    SuffixRule.applyFromEnd, anything]

/-- The ways to form a plural, the word and its plural given from their ends. -/
inductive FormsPlural : List Char → List Char → Prop
  /-- A word that ends in a hiss takes `es`. -/
  | hiss {c : Char} {rest : List Char} (h : c = 's' ∨ c = 'x' ∨ c = 'z') :
    FormsPlural (c :: rest) ('s' :: 'e' :: c :: rest)
  /-- So does one that ends in `ch` or `sh`. -/
  | hush {c : Char} {rest : List Char} (h : c = 'c' ∨ c = 's') :
    FormsPlural ('h' :: c :: rest) ('s' :: 'e' :: 'h' :: c :: rest)
  /-- A `y` becomes `ies`. -/
  | y {rest : List Char} : FormsPlural ('y' :: rest) ('s' :: 'e' :: 'i' :: rest)
  /-- An `f` becomes `ves`. -/
  | f {c : Char} {rest : List Char} : FormsPlural ('f' :: c :: rest) ('s' :: 'e' :: 'v' :: c :: rest)
  /-- So does `fe`. -/
  | fe {c : Char} {rest : List Char} :
    FormsPlural ('e' :: 'f' :: c :: rest) ('s' :: 'e' :: 'v' :: c :: rest)
  /-- Other words take an `s`. -/
  | regular {word : List Char} (hs : word.head? ≠ some 's') (hf : ∀ c rest, word ≠ 'f' :: c :: rest)
      (hfe : ∀ c rest, word ≠ 'e' :: 'f' :: c :: rest) : FormsPlural word ('s' :: word)

/-- A small letter of ASCII is a letter, which is what the rules ask of the character before some
endings. -/
theorem isAlpha_of_isLower {c : Char} (h : c.isLower = true) : c.isAlpha = true :=
  Bool.or_eq_true_iff.mpr (.inr h)

/-- The plural of a word in small letters is formed in one of these ways. -/
theorem formsPlural_pluralFromEnd (hne : word ≠ []) (hlower : ∀ c ∈ word, c.isLower = true) :
    FormsPlural word (pluralFromEnd word) := by
  obtain ⟨c, word, rfl⟩ := List.exists_cons_of_ne_nil hne
  have halpha : ∀ d ∈ word, d.isAlpha = true := fun d hd =>
    isAlpha_of_isLower (hlower d (List.mem_cons_of_mem _ hd))
  rw [pluralFromEnd_cons]
  split_ifs with hs hx hz hch hsh hvowel hy hf hfe
  · exact .hiss (.inl hs.symm)
  · exact .hiss (.inr (.inl hx.symm))
  · exact .hiss (.inr (.inr hz.symm))
  · obtain ⟨rfl, rest, rfl⟩ := hch
    exact .hush (.inl rfl)
  · obtain ⟨rfl, rest, rfl⟩ := hsh
    exact .hush (.inr rfl)
  · obtain ⟨rfl, _⟩ := hvowel
    exact .regular (by simp) (by simp) (by simp)
  · obtain ⟨rfl, _⟩ := hy
    exact .y
  · obtain ⟨rfl, hbefore⟩ := hf
    cases word with
    | nil => cases hbefore
    | cons d rest => exact .f
  · obtain ⟨⟨rfl, rest, rfl⟩, hbefore⟩ := hfe
    cases rest with
    | nil => cases hbefore
    | cons d rest => exact .fe
  · -- A letter before the end would have let one of the last two rules fit.
    refine .regular (fun h => hs (Option.some.inj h).symm) ?_ ?_
    · rintro d rest ⟨rfl, rfl⟩
      exact hf ⟨rfl, halpha d List.mem_cons_self⟩
    · rintro d rest ⟨rfl, rfl⟩
      exact hfe ⟨⟨rfl, _, rfl⟩, halpha d (by simp)⟩

/-! ### Endings that mislead -/

/-- Endings of nouns whose plural reads like that of another noun, so that the singular of it may be
the other one. -/
def misleadingEndings : List (List Char) := [
  ['i', 'e'], ['v', 'e'], ['s', 'e'], ['x', 'e'], ['z', 'e'], ['c', 'h', 'e'], ['s', 'h', 'e'], ['i', 'f']]

/-- The noun has one of these endings, or `fe` after a letter other than `i`. -/
def Misleads (noun : List Char) : Prop :=
  (∃ ending ∈ misleadingEndings, ending <:+ noun) ∨
    ∃ c : Char, c.isAlpha = true ∧ c ≠ 'i' ∧ [c, 'f', 'e'] <:+ noun

/-- The endings that mislead, for a noun that is given from its end, where they are beginnings. -/
theorem misleads_reverse_iff : Misleads word.reverse ↔
    ((['e', 'i'] <+: word ∨ ['e', 'v'] <+: word ∨ ['e', 's'] <+: word ∨ ['e', 'x'] <+: word ∨
      ['e', 'z'] <+: word ∨ ['e', 'h', 'c'] <+: word ∨ ['e', 'h', 's'] <+: word ∨ ['f', 'i'] <+: word) ∨
    ∃ c : Char, c.isAlpha = true ∧ c ≠ 'i' ∧ ['e', 'f', c] <+: word) := by
  have hsuffix : ∀ ending : List Char, ending <:+ word.reverse ↔ ending.reverse <+: word := by
    intro ending
    rw [← List.reverse_prefix, List.reverse_reverse]
  simp [Misleads, misleadingEndings, hsuffix]

/-- The singular undoes a plural exactly if the ending of the noun does not mislead. Each way to
form a plural is one case. -/
theorem FormsPlural.singularFromEnd_eq_iff (h : FormsPlural word plural)
    (hlower : ∀ c ∈ word, c.isLower = true) :
    singularFromEnd plural = word ↔ ¬Misleads word.reverse := by
  rw [misleads_reverse_iff]
  cases h with
  | hiss h => rcases h with rfl | rfl | rfl <;> simp [singularFromEnd_cons_s]
  | hush h => rcases h with rfl | rfl <;> simp [singularFromEnd_cons_s]
  | y => simp [singularFromEnd_cons_s]
  | @f c rest =>
    -- The singular is taken for that of `-ife` where an `i` comes before.
    by_cases hi : c = 'i'
    · subst hi
      simp [singularFromEnd_cons_s]
    · simp [singularFromEnd_cons_s, Ne.symm hi]
  | @fe c rest =>
    have halpha : c.isAlpha = true := isAlpha_of_isLower (hlower c (by simp))
    by_cases hi : c = 'i'
    · subst hi
      simp [singularFromEnd_cons_s]
    · simp [singularFromEnd_cons_s, hi, Ne.symm hi, halpha]
  | regular hs hf hfe =>
    rw [singularFromEnd_cons_s]
    split_ifs with hie hive hve hse hxe hze hche hshe
    case neg =>
      have hif : ¬['f', 'i'] <+: word := by
        rintro ⟨rest, rfl⟩
        exact hf _ _ rfl
      have hfe' : ∀ c, ¬['e', 'f', c] <+: word := by
        rintro c ⟨rest, rfl⟩
        exact hfe _ _ rfl
      simp [hie, hve, hse, hxe, hze, hche, hshe, hif, hfe']
    -- Otherwise the word has one of the endings that mislead, and the rule for it fits.
    all_goals
      obtain ⟨rest, rfl⟩ := ‹_ <+: word›
      simp

/-! ### Whole nouns -/

/-- A word in small letters is its own form for comparison with the fixed plurals. -/
theorem map_toLower_eq_self (hlower : ∀ c ∈ word, c.isLower = true) :
    word.map Char.toLower = word := by
  refine (List.map_congr_left fun c hc => ?_).trans (List.map_id word)
  have hfirst : 'a'.val ≤ c.val := of_decide_eq_true (Bool.and_eq_true_iff.mp (hlower c hc)).1
  exact dif_neg fun hcapital => absurd (UInt32.le_trans hfirst hcapital.2) (by decide)

/-- The plural of a word in small letters is in small letters, so the rules for singulars can be
read from its end. -/
theorem FormsPlural.isLower (h : FormsPlural word plural) (hlower : ∀ c ∈ word, c.isLower = true) :
    ∀ c ∈ plural, c.isLower = true := by
  have hs : 's'.isLower = true := by decide
  have he : 'e'.isLower = true := by decide
  have hv : 'v'.isLower = true := by decide
  have hi : 'i'.isLower = true := by decide
  cases h <;> simp_all

/-- The plural of a noun in small letters that is not in the fixed table is formed by the rules from
its end. -/
theorem pluralize_eq {noun : String} (hne : noun ≠ "")
    (hlower : ∀ c ∈ noun.toList, c.isLower = true) (hfixed : noun ∉ fixedPlurals) :
    pluralize noun = String.ofList (pluralFromEnd noun.toList.reverse).reverse := by
  have hsmall := map_toLower_eq_self hlower
  have hdrop : ∀ rule ∈ pluralRules, rule.drop ≤ rule.suffix.length := by decide
  have hsmall' : noun.toList.reverse.map Char.toLower = noun.toList.reverse := by
    rw [List.map_reverse, hsmall]
  have hrules := applyFirst_reverse ('s' :: ·) hdrop hsmall'
  rw [List.reverse_reverse, List.reverse_cons, List.reverse_reverse] at hrules
  have hnoun : (noun.toList.isEmpty ||
      fixedPlurals.contains (String.ofList (noun.toList.map Char.toLower))) = false := by
    rw [hsmall, String.ofList_toList]
    simpa using ⟨hne, hfixed⟩
  rw [pluralize, hnoun, pluralFromEnd, ← hrules]
  rfl

/-- The singular of a noun in small letters is formed by the rules from its end, as no table is
looked at. -/
theorem singularize_ofList_reverse (hlower : ∀ c ∈ word, c.isLower = true) :
    singularize (String.ofList word.reverse) = String.ofList (singularFromEnd word).reverse := by
  have hdrop : ∀ rule ∈ singularRules, rule.drop ≤ rule.suffix.length := by decide
  rw [singularize, String.toList_ofList, singularFromEnd,
    ← applyFirst_reverse id hdrop (map_toLower_eq_self hlower), id_eq]

/-- The plural of a noun in small letters that is no plural by itself goes back to the noun exactly if
its ending does not mislead. -/
theorem singularize_pluralize_eq_iff {noun : String} (hne : noun ≠ "")
    (hlower : ∀ c ∈ noun.toList, c.isLower = true) (hfixed : noun ∉ fixedPlurals) :
    singularize (pluralize noun) = noun ↔ ¬Misleads noun.toList := by
  have hlower' : ∀ c ∈ noun.toList.reverse, c.isLower = true := by simpa using hlower
  have hplural := formsPlural_pluralFromEnd (by simpa using hne) hlower'
  rw [pluralize_eq hne hlower hfixed, singularize_ofList_reverse (hplural.isLower hlower'),
    ← String.toList_inj, String.toList_ofList, List.reverse_eq_iff,
    hplural.singularFromEnd_eq_iff hlower', List.reverse_reverse]

/-- A knife comes back from its plural; a cafe is mistaken for the singular of `caves`. -/
theorem singularize_pluralize_knife_cafe :
    singularize (pluralize "knife") = "knife" ∧ singularize (pluralize "cafe") ≠ "cafe" := by
  have hknife : ¬Misleads "knife".toList := by
    rw [show "knife".toList = ['e', 'f', 'i', 'n', 'k'].reverse by decide, misleads_reverse_iff]
    rintro (hending | ⟨c, _, hi, hprefix⟩)
    · exact absurd hending (by decide)
    · exact hi (by simpa using hprefix)
  have hcafe : Misleads "cafe".toList := .inr ⟨'a', by decide, by decide, by decide⟩
  have hknifeLower : ∀ c ∈ "knife".toList, c.isLower = true := List.all_eq_true.mp (by decide)
  have hcafeLower : ∀ c ∈ "cafe".toList, c.isLower = true := List.all_eq_true.mp (by decide)
  exact ⟨(singularize_pluralize_eq_iff (by decide) hknifeLower (by decide)).mpr hknife,
    fun h => (singularize_pluralize_eq_iff (by decide) hcafeLower (by decide)).mp h hcafe⟩

end CrdToolset.Naming
