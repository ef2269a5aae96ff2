import CrdToolset.Text.Blank
import CrdToolset.Text.Letter
import Mathlib.Data.Nat.Bitwise

/-!
# Capital and small forms

The tables of letters fit together: the small form of a character has no other small form, a capital
letter is its own capital form, and neither form is a blank. For comparison a set of code points is
written as a number with a bit for each of them, so that two sets have nothing in common where the
numbers share no bit.
-/

namespace CrdToolset.Text

variable {c d : Char} {n : Nat} {a b : List Nat}

/-! ### Sets of code points -/

/-- A set of code points as a number, with a bit for each of them. Whether two sets have anything in
common is then one operation on numbers. -/
def bits (points : List Nat) : Nat := points.foldr (fun n rest => 1 <<< n ||| rest) 0

/-- In the number for a list of code points, the bits that are set are those of the code points in
the list. -/
theorem testBit_bits : (bits a).testBit n = true ↔ n ∈ a := by
  induction a with
  | nil => simp [bits]
  | cons m a ih =>
    rw [bits, List.foldr_cons, ← bits, Nat.testBit_or, Bool.or_eq_true, ih, Nat.one_shiftLeft,
      Nat.testBit_two_pow, List.mem_cons, decide_eq_true_eq, eq_comm]

/-- If the numbers for two lists of code points share no bit, no code point is in both lists. -/
theorem not_mem_of_bits (h : bits a &&& bits b = 0) (hn : n ∈ a) : n ∉ b := by
  intro hb
  have hbit : (bits a &&& bits b).testBit n = true := by
    rw [Nat.testBit_and, testBit_bits.mpr hn, testBit_bits.mpr hb]
    rfl
  rw [h, Nat.zero_testBit] at hbit
  cases hbit

/-- The code points that a run of a table covers, listed one by one. -/
def Run.points (r : Run) : List Nat :=
  (List.range ((r.last - r.first) / r.step + 1)).map (r.first + r.step * ·)

/-- A code point that a run covers is among those that `Run.points` lists. -/
theorem Run.mem_points {r : Run} (h : r.covers n = true) : n ∈ r.points := by
  simp only [covers, Bool.and_eq_true, decide_eq_true_eq, beq_iff_eq] at h
  obtain ⟨⟨hfirst, hlast⟩, hstep⟩ := h
  refine List.mem_map.mpr ⟨(n - r.first) / r.step, ?_, ?_⟩
  · have : (n - r.first) / r.step ≤ (r.last - r.first) / r.step := Nat.div_le_div_right (by omega)
    exact List.mem_range.mpr (by omega)
  · rw [Nat.mul_div_cancel' (Nat.dvd_of_mod_eq_zero hstep)]
    omega

/-- A character on one of several runs has its code point among those that the runs list. -/
theorem mem_points_of_onRuns {runs : List Run} (h : onRuns runs c = true) :
    c.toNat ∈ runs.flatMap Run.points := by
  obtain ⟨r, hr, hcovers⟩ := List.any_eq_true.mp h
  exact List.mem_flatMap.mpr ⟨r, hr, Run.mem_points hcovers⟩

/-- The code points that a shift of a table moves those of its run to. -/
def Shift.images (s : Shift) : List Nat :=
  s.run.points.map fun (n : Nat) => (n + s.distance).toNat

/-- A character whose code point is on none of the runs stays where it is when it is shifted by a
table. -/
theorem shiftBy_eq_self {shifts : List Shift} (h : c.toNat ∉ shifts.flatMap fun s => s.run.points) :
    shiftBy shifts c = c := by
  unfold shiftBy
  split
  case h_1 s hs =>
    have hcovers : s.run.covers c.toNat = true := by simpa using List.find?_some hs
    exact absurd (List.mem_flatMap.mpr ⟨s, List.mem_of_find?_eq_some hs, Run.mem_points hcovers⟩) h
  case h_2 => rfl

/-- A character that is moved comes to one of the code points that shifts move to, or to the first of
all, where that is no character. -/
theorem shiftBy_eq_self_or_mem (shifts : List Shift) (c : Char) :
    shiftBy shifts c = c ∨ (shiftBy shifts c).toNat ∈ 0 :: shifts.flatMap Shift.images := by
  unfold shiftBy
  split
  case h_1 s hs =>
    have hcovers : s.run.covers c.toNat = true := by simpa using List.find?_some hs
    right
    by_cases hvalid : (c.toNat + s.distance).toNat.isValidChar
    · have hchar : Char.ofNat (c.toNat + s.distance).toNat = Char.ofNatAux _ hvalid := dif_pos hvalid
      rw [hchar]
      refine List.mem_cons_of_mem _ (List.mem_flatMap.mpr ⟨s, List.mem_of_find?_eq_some hs, ?_⟩)
      exact List.mem_map.mpr ⟨c.toNat, Run.mem_points hcovers, rfl⟩
    · have hnone : Char.ofNat (c.toNat + s.distance).toNat = '\x00' := dif_neg hvalid
      rw [hnone]
      exact List.mem_cons_self
  case h_2 => exact .inl rfl

/-- What is to hold of all characters of ASCII can be checked code point by code point, as there are
only 128 of them. -/
theorem of_lt_ascii {P : Char → Prop} (h : ∀ n < 0x80, P (Char.ofNat n)) (hc : c.toNat < 0x80) :
    P c := by
  simpa using h c.toNat hc

/-- The forms of the characters of ASCII: capital letters and small letters stand in a row each, and only
they have another form. -/
theorem forms_of_lt_ascii (hc : c.toNat < 0x80) :
    (c.isUpper = true → c.toNat ∈ List.range' 0x41 26) ∧
      (c.isLower = true → c.toNat ∈ List.range' 0x61 26) ∧
      (c.toLower = c ∨ c.toNat ∈ List.range' 0x41 26 ∧ c.toLower.toNat ∈ List.range' 0x61 26) ∧
      (c.toUpper = c ∨ c.toNat ∈ List.range' 0x61 26 ∧ c.toUpper.toNat ∈ List.range' 0x41 26) :=
  of_lt_ascii (P := fun c => (c.isUpper = true → c.toNat ∈ List.range' 0x41 26) ∧
    (c.isLower = true → c.toNat ∈ List.range' 0x61 26) ∧
    (c.toLower = c ∨ c.toNat ∈ List.range' 0x41 26 ∧ c.toLower.toNat ∈ List.range' 0x61 26) ∧
    (c.toUpper = c ∨ c.toNat ∈ List.range' 0x61 26 ∧ c.toUpper.toNat ∈ List.range' 0x41 26))
    (by decide +kernel) hc

/-! ### Letters and what becomes of them -/

/-- The code points of the capital letters: those of ASCII and those on the runs of the table. -/
def capitals : List Nat := List.range' 0x41 26 ++ capitalRuns.flatMap Run.points

/-- The code points of the small letters: those of ASCII and those on the runs of the table. -/
def smalls : List Nat := List.range' 0x61 26 ++ smallRuns.flatMap Run.points

/-- The code points of the characters that have a small form of their own, by which they differ from
it. -/
def lowered : List Nat :=
  List.range' 0x41 26 ++ 0x130 :: toSmallShifts.flatMap fun s => s.run.points

/-- The code points that small forms consist of where they are not the characters themselves. -/
def loweredTo : List Nat :=
  List.range' 0x61 26 ++ 0x307 :: 0 :: toSmallShifts.flatMap Shift.images

/-- The code points of the characters that have a capital form of their own, by which they differ
from it. -/
def raised : List Nat := List.range' 0x61 26 ++ toCapitalShifts.flatMap fun s => s.run.points

/-- The code points of the capital forms of characters that are not their own capital forms. -/
def raisedTo : List Nat := List.range' 0x41 26 ++ 0 :: toCapitalShifts.flatMap Shift.images

/-- The code points of the characters that are blank, which end words and lines. -/
def blanks : List Nat :=
  List.range' 0x9 5 ++ [0x20, 0x85, 0xA0, 0x1680] ++ List.range' 0x2000 11 ++
    [0x2028, 0x2029, 0x202F, 0x205F, 0x3000]

/-- Every capital letter has its code point in the list of them. -/
theorem mem_capitals (h : isCapital c = true) : c.toNat ∈ capitals := by
  unfold isCapital at h
  split at h
  case isTrue hascii => exact List.mem_append_left _ ((forms_of_lt_ascii hascii).1 h)
  case isFalse => exact List.mem_append_right _ (mem_points_of_onRuns h)

/-- Every small letter has its code point in the list of them. -/
theorem mem_smalls (h : isSmall c = true) : c.toNat ∈ smalls := by
  unfold isSmall at h
  split at h
  case isTrue hascii => exact List.mem_append_left _ ((forms_of_lt_ascii hascii).2.1 h)
  case isFalse => exact List.mem_append_right _ (mem_points_of_onRuns h)

/-- A character whose code point is not in the list of `lowered` is its own small form. -/
theorem small_eq_self_of_not_mem (h : c.toNat ∉ lowered) : small c = [c] := by
  simp only [lowered, List.mem_append, List.mem_cons, not_or] at h
  unfold small
  split
  case isTrue hascii =>
    rw [(forms_of_lt_ascii hascii).2.2.1.resolve_right fun hcapital => h.1 hcapital.1]
  case isFalse => rw [if_neg h.2.1, shiftBy_eq_self h.2.2]

/-- A character without a small form of its own stays, and the small form of another one consists of
characters in the list. -/
theorem small_eq_self_or_mem (c : Char) :
    small c = [c] ∨ ∀ d ∈ small c, d.toNat ∈ loweredTo := by
  unfold small loweredTo
  split
  case isTrue hascii =>
    rcases (forms_of_lt_ascii hascii).2.2.1 with h | ⟨_, h⟩
    · exact .inl (by rw [h])
    · right
      rintro d hd
      obtain rfl := List.mem_singleton.mp hd
      exact List.mem_append_left _ h
  case isFalse =>
    split
    case isTrue =>
      right
      simp
    case isFalse =>
      rcases shiftBy_eq_self_or_mem toSmallShifts c with h | h
      · exact .inl (by rw [h])
      · right
        rintro d hd
        obtain rfl := List.mem_singleton.mp hd
        exact List.mem_append_right _ (List.mem_cons_of_mem _ h)

/-- A character whose code point is not in the list of `raised` is its own capital form. -/
theorem capital_eq_self_of_not_mem (h : c.toNat ∉ raised) : capital c = c := by
  simp only [raised, List.mem_append, not_or] at h
  unfold capital
  split
  case isTrue hascii =>
    exact (forms_of_lt_ascii hascii).2.2.2.resolve_right fun hsmall => h.1 hsmall.1
  case isFalse => exact shiftBy_eq_self h.2

/-- A character is its own capital form, or the code point of its capital form is in the list of
`raisedTo`. -/
theorem capital_eq_self_or_mem (c : Char) : capital c = c ∨ (capital c).toNat ∈ raisedTo := by
  unfold capital raisedTo
  split
  case isTrue hascii =>
    exact (forms_of_lt_ascii hascii).2.2.2.imp_right fun hform => List.mem_append_left _ hform.2
  case isFalse =>
    exact (shiftBy_eq_self_or_mem toCapitalShifts c).imp_right (List.mem_append_right _)

/-- Every blank character has its code point in the list of them. -/
theorem mem_blanks (h : isBlank c = true) : c.toNat ∈ blanks := by
  simp only [isBlank, Bool.or_eq_true, Bool.and_eq_true, decide_eq_true_eq, beq_iff_eq] at h
  simp only [blanks, List.mem_append, List.mem_range'_1, List.mem_cons, List.not_mem_nil, or_false]
  omega

/-! ### What the tables have in common -/

/-- Small forms have no small form of their own, capital letters and capital forms no capital form, and no
letter is both small and capital. -/
theorem bits_apart :
    bits loweredTo &&& bits lowered = 0 ∧ bits capitals &&& bits raised = 0 ∧
      bits raisedTo &&& bits raised = 0 ∧ bits smalls &&& bits capitals = 0 := by
  decide +kernel

/-- A character in the small form of another has no other small form, so small forms are final. -/
theorem small_of_mem_small (h : d ∈ small c) : small d = [d] := by
  rcases small_eq_self_or_mem c with hself | hmem
  · rw [hself, List.mem_singleton] at h
    rwa [h]
  · exact small_eq_self_of_not_mem (not_mem_of_bits bits_apart.1 (hmem d h))

/-- A capital letter is its own capital form, so capitalising it changes nothing. -/
theorem capital_of_isCapital (h : isCapital c = true) : capital c = c :=
  capital_eq_self_of_not_mem (not_mem_of_bits bits_apart.2.1 (mem_capitals h))

/-- The capital form of a character is its own capital form, also where it is no capital letter. -/
theorem capital_capital (c : Char) : capital (capital c) = capital c := by
  rcases capital_eq_self_or_mem c with hself | hmem
  · rw [hself, hself]
  · exact capital_eq_self_of_not_mem (not_mem_of_bits bits_apart.2.2.1 hmem)

/-- A small letter is no capital letter, so a word does not begin with one. -/
theorem isCapital_of_isSmall (h : isSmall c = true) : isCapital c = false := by
  have hnot : c.toNat ∉ capitals := not_mem_of_bits bits_apart.2.2.2 (mem_smalls h)
  exact Bool.eq_false_iff.mpr fun hcapital => hnot (mem_capitals hcapital)

/-- The small form of a character is at least one character, so none is lost. -/
theorem small_ne_nil (c : Char) : small c ≠ [] := by
  unfold small
  split
  · simp
  · split <;> simp

end CrdToolset.Text
