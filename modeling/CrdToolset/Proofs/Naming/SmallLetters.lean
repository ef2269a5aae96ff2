import CrdToolset.Proofs.Naming.Idempotence
import Mathlib.Data.List.Basic

/-!
# Names that come from small letters

A name in small letters with separators has lost its capitals but none of its words. No case looks
at more than the words, and each writes a word in the same way with capitals as without them.
Converting such a name therefore gives the same as converting the name that it was made from, as far
as letters have one small form and one capital form; those of ASCII do.
-/

namespace CrdToolset.Naming

open Text

variable {sep : Char} {last w : List Char} {words : List (List Char)} {name : String}

/-! ### Joining words in small letters -/

/-- Words are joined in the same way from their small letters, if each is capitalised in the same
way from them. -/
theorem joinAfter_map_lower (h : ∀ w ∈ words, capitalize (lower w) = capitalize w) :
    joinAfter last (words.map lower) = joinAfter last words := by
  induction words generalizing last with
  | nil => rfl
  | cons w words ih =>
    obtain ⟨hw, hrest⟩ := List.forall_mem_cons.mp h
    rw [List.map_cons, joinAfter, joinAfter, hw, lower_lower]
    by_cases hmelts : melts last (capitalize w) = true
    · rw [if_pos hmelts, if_pos hmelts]
      exact ih hrest
    · rw [if_neg hmelts, if_neg hmelts, ih hrest]

/-- A name that marks its words by capitals is the same from the small letters of the words, if the
first of them is treated in the same way too. -/
theorem joinHumps_map_lower {first : List Char → List Char}
    (hfirst : ∀ w ∈ words, first (lower w) = first w)
    (h : ∀ w ∈ words, capitalize (lower w) = capitalize w) :
    joinHumps first (words.map lower) = joinHumps first words := by
  cases words with
  | nil => rfl
  | cons w words =>
    obtain ⟨hw, _⟩ := List.forall_mem_cons.mp hfirst
    obtain ⟨_, hrest⟩ := List.forall_mem_cons.mp h
    rw [List.map_cons, joinHumps, joinHumps, hw, joinAfter_map_lower hrest]

/-- A name that marks its words by separators is the same from the small letters of the words. -/
theorem joinLower_map_lower (sep : Char) (words : List (List Char)) :
    joinLower sep (words.map lower) = joinLower sep words := by
  have hlower : lower ∘ lower = lower := funext lower_lower
  rw [joinLower, joinLower, List.map_map, hlower]

/-- In every case a name is the same from the small letters of its words, if each word is
capitalised in the same way from them. -/
theorem Case.join_map_lower (case : Case)
    (h : ∀ w ∈ words, capitalize (lower w) = capitalize w) :
    case.join (words.map lower) = case.join words := by
  cases case with
  | camel => exact joinHumps_map_lower (fun w _ => lower_lower w) h
  | pascal => exact joinHumps_map_lower h h
  | snake => exact joinLower_map_lower '_' words
  | kebab => exact joinLower_map_lower '-' words

/-! ### Finding the words again -/

/-- The words of a name in small letters are the small letters of the words that it was joined from,
if none of them is cut. -/
theorem split_joinLower_of_uncut (hs : isSeparator sep = true)
    (hwords : ∀ w ∈ words, w ≠ [] ∧ ∀ d ∈ w, isSeparator d = false)
    (huncut : ∀ w ∈ words, humps (lower w) = [lower w]) :
    split (joinLower sep words) = words.map lower := by
  have hne : ∀ w ∈ words.map lower, w ≠ [] := by
    intro w hw
    obtain ⟨v, hv, rfl⟩ := List.mem_map.mp hw
    exact lower_ne_nil (hwords v hv).1
  rw [split_joinLower hs hwords, flatMap_humps_eq_self_iff hne]
  exact List.forall_mem_map.mpr huncut

/-- The small letters of a name say all that a case asks for, if none of the words is cut in small
letters and each is capitalised in the same way from them. -/
theorem Case.convert_convert_of_uncut (case : Case) {lowered : Case}
    (hlowered : lowered ∈ [Case.snake, Case.kebab])
    (huncut : ∀ w ∈ split name.toList, humps (lower w) = [lower w])
    (hcapitalize : ∀ w ∈ split name.toList, capitalize (lower w) = capitalize w) :
    case.convert (lowered.convert name) = case.convert name := by
  have hsplit : split (lowered.join (split name.toList)) = (split name.toList).map lower := by
    rcases List.mem_pair.mp hlowered with rfl | rfl
    · exact split_joinLower_of_uncut (by decide) (fun w => of_mem_split) huncut
    · exact split_joinLower_of_uncut (by decide) (fun w => of_mem_split) huncut
  rw [Case.convert, Case.convert, Case.convert, String.toList_ofList, hsplit,
    case.join_map_lower hcapitalize]

/-! ### Names of ASCII characters -/

/-- An ASCII word is capitalised in the same way from its small letters. -/
theorem capitalize_lower_of_ascii (h : ∀ c ∈ w, c.toNat < 0x80) :
    capitalize (lower w) = capitalize w := by
  have hsigma : ∀ c ∈ w, c ≠ 'Σ' := by
    rintro c hc rfl
    exact absurd (h _ hc) (by decide)
  rw [lower_eq_flatMap_small hsigma]
  cases w with
  | nil => rfl
  | cons c cs =>
    obtain ⟨hc, _⟩ := List.forall_mem_cons.mp h
    have hsmall : small c = [c.toLower] := if_pos hc
    have hcapital : capital c.toLower = capital c :=
      of_lt_ascii (P := fun c => capital c.toLower = capital c) (by decide +kernel) hc
    rw [List.flatMap_cons, hsmall, List.singleton_append, capitalize, capitalize, hcapital,
      flatMap_small_eq_self fun _ => small_of_mem_flatMap_small]

/-- Putting an ASCII name into small letters with separators loses nothing that any case asks
for. -/
theorem Case.convert_convert_lowered (case : Case) {lowered : Case}
    (hlowered : lowered ∈ [Case.snake, Case.kebab])
    (hname : ∀ c ∈ name.toList, c.toNat < 0x80) :
    case.convert (lowered.convert name) = case.convert name := by
  have hwords : ∀ w ∈ split name.toList, w ≠ [] ∧ ∀ c ∈ w, c.toNat < 0x80 := fun w hw =>
    ⟨(of_mem_split hw).1, fun c hc => hname c (mem_of_mem_split hw hc)⟩
  refine case.convert_convert_of_uncut hlowered (Case.snake.keeps_of_ascii hwords) fun w hw => ?_
  exact capitalize_lower_of_ascii (hwords w hw).2

/-- A name with a run of capitals, and with words of one letter that are joined to others, keeps its
words in small letters. -/
theorem pascal_snake_serverName :
    (∀ c ∈ "HTTPServer a_b".toList, c.toNat < 0x80) ∧
      snake "HTTPServer a_b" = "http_server_a_b" ∧
      pascal (snake "HTTPServer a_b") = pascal "HTTPServer a_b" ∧
      pascal "HTTPServer a_b" = "HttpServerAb" := by
  have hascii : ∀ c ∈ "HTTPServer a_b".toList, c.toNat < 0x80 := by simp
  exact ⟨hascii, by decide +kernel,
    Case.pascal.convert_convert_lowered List.mem_cons_self hascii, by decide +kernel⟩

end CrdToolset.Naming
