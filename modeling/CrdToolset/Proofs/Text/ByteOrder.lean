import Mathlib.Algebra.Group.Nat.Defs
import Mathlib.Data.List.Basic

/-!
# The order of bytes

Texts are compared character by character, by code points. Where they are stored in UTF-8 they are
compared by their bytes, and this gives the same order: the bytes of a character come before those
of a later character, whatever follows them.
-/

namespace CrdToolset.Text

/-- The bytes of a text in UTF-8, which is how texts are compared where they are stored as bytes. -/
def bytesOf (text : String) : List UInt8 := text.toUTF8.data.toList

variable {s t : String} {c d : Char} {m n : Nat}

/-- The bytes of a text are those of its characters, one after the other. -/
theorem bytesOf_eq (s : String) : bytesOf s = s.toList.flatMap String.utf8EncodeChar := by
  have hbytes : s.toUTF8 = (s.toList.flatMap String.utf8EncodeChar).toByteArray := by
    rw [String.toUTF8_eq_toByteArray, ← String.utf8Encode_toList]
    rfl
  rw [bytesOf, hbytes]
  simp

/-! ### Bytes of one character -/

/-- A number in bytes that carry six bits each, after a first byte for what is left. The first byte is
marked by what is added to it. -/
def sextets (mark : Nat) : Nat → Nat → List UInt8
  | 0, n => [UInt8.ofNat (mark + n)]
  | more + 1, n => sextets mark more (n / 64) ++ [UInt8.ofNat (n % 64 + 128)]

/-- How many bytes with six bits a code point needs, and the mark of the byte before them. -/
def division (n : Nat) : Nat × Nat :=
  if n ≤ 0x7F then (0, 0) else if n ≤ 0x7FF then (192, 1) else if n ≤ 0xFFFF then (224, 2) else (240, 3)

/-- Numbers below 256 are in the same order as the bytes that stand for them. -/
theorem ofNat_lt (h : m < n) (hn : n < 256) : UInt8.ofNat m < UInt8.ofNat n := by
  rw [UInt8.lt_iff_toNat_lt, UInt8.toNat_ofNat', UInt8.toNat_ofNat']
  omega

/-- Of two numbers in the same count of bytes, the lower one has the lower bytes, whatever follows
them. The first byte at which they differ decides. -/
theorem sextets_append_lt {mark more : Nat} (h : m < n) (hn : mark + n / 64 ^ more < 256)
    (x y : List UInt8) : sextets mark more m ++ x < sextets mark more n ++ y := by
  induction more generalizing m n x y with
  | zero =>
    have hbyte : UInt8.ofNat (mark + m) < UInt8.ofNat (mark + n) := by
      apply ofNat_lt
      · omega
      · simpa using hn
    exact List.cons_lt_cons_iff.mpr (.inl hbyte)
  | succ more ih =>
    rw [sextets, sextets, List.append_assoc, List.append_assoc]
    by_cases hrest : m / 64 < n / 64
    · have hn' : mark + n / 64 / 64 ^ more < 256 := by
        rwa [Nat.div_div_eq_div_mul, ← Nat.pow_succ']
      exact ih hrest hn' _ _
    · have hsame : m / 64 = n / 64 := by omega
      have hbyte : UInt8.ofNat (m % 64 + 128) < UInt8.ofNat (n % 64 + 128) := by
        apply ofNat_lt <;> omega
      rw [hsame]
      exact List.append_left_lt (List.cons_lt_cons_iff.mpr (.inl hbyte))

/-- The first byte holds what is left when the bits of the others are taken away. -/
theorem exists_sextets_eq_cons (mark more n : Nat) :
    ∃ rest, sextets mark more n = UInt8.ofNat (mark + n / 64 ^ more) :: rest := by
  induction more generalizing n with
  | zero => exact ⟨[], by simp [sextets]⟩
  | succ more ih =>
    obtain ⟨rest, hrest⟩ := ih (n / 64)
    refine ⟨rest ++ [UInt8.ofNat (n % 64 + 128)], ?_⟩
    rw [sextets, hrest, Nat.div_div_eq_div_mul, ← Nat.pow_succ', List.cons_append]

/-- The first byte of a code point, with its mark, fits into eight bits, since code points end where
they do. -/
theorem lead_lt (hn : n < 0x110000) : (division n).1 + n / 64 ^ (division n).2 < 256 := by
  unfold division
  split_ifs <;> simp only [Nat.reducePow] <;> omega

/-- A code point that needs more bytes than another has a later first byte, because the marks are in
this order. -/
theorem lead_lt_lead (h : m < n) (hne : division m ≠ division n) :
    (division m).1 + m / 64 ^ (division m).2 < (division n).1 + n / 64 ^ (division n).2 := by
  unfold division at hne ⊢
  split_ifs at hne ⊢
  all_goals first
    | exact absurd rfl hne
    | simp only [Nat.reducePow]
      omega

/-- The code point of a character lies below the end of all code points. -/
theorem toNat_lt (c : Char) : c.toNat < 0x110000 := by
  have hvalid := c.valid
  unfold UInt32.isValidChar Nat.isValidChar at hvalid
  unfold Char.toNat
  omega

/-- The bytes of a character are its code point, divided into as many bytes as this needs. The
library says it with bit masks, and here it is said with division. -/
theorem utf8EncodeChar_eq (c : Char) :
    String.utf8EncodeChar c = sextets (division c.toNat).1 (division c.toNat).2 c.toNat := by
  have hmax := toNat_lt c
  have hval : c.val.toNat = c.toNat := rfl
  have htwo : c.toNat / 64 / 64 = c.toNat / 4096 := by omega
  have hthree : c.toNat / 4096 / 64 = c.toNat / 262144 := by omega
  unfold String.utf8EncodeChar division
  simp only [hval]
  split_ifs
  · simp [sextets]
  · have hlead : c.toNat / 64 % 32 = c.toNat / 64 := by omega
    simp [sextets, hlead, Nat.add_comm]
  · have hlead : c.toNat / 4096 % 16 = c.toNat / 4096 := by omega
    simp [sextets, htwo, hlead, Nat.add_comm]
  · have hlead : c.toNat / 262144 % 8 = c.toNat / 262144 := by omega
    simp [sextets, htwo, hthree, hlead, Nat.add_comm]

/-- The bytes of a character come before those of a later character, whatever follows them. -/
theorem utf8EncodeChar_append_lt (h : c < d) (x y : List UInt8) :
    String.utf8EncodeChar c ++ x < String.utf8EncodeChar d ++ y := by
  have hlt : c.toNat < d.toNat := h
  have hlead := lead_lt (toNat_lt d)
  rw [utf8EncodeChar_eq, utf8EncodeChar_eq]
  by_cases hsame : division c.toNat = division d.toNat
  · rw [hsame]
    exact sextets_append_lt hlt hlead x y
  · obtain ⟨u, hu⟩ := exists_sextets_eq_cons (division c.toNat).1 (division c.toNat).2 c.toNat
    obtain ⟨v, hv⟩ := exists_sextets_eq_cons (division d.toNat).1 (division d.toNat).2 d.toNat
    have hbyte := ofNat_lt (lead_lt_lead hlt hsame) hlead
    rw [hu, hv]
    exact List.cons_lt_cons_iff.mpr (.inl hbyte)

/-! ### Bytes of texts -/

/-- A text that comes earlier character by character comes earlier byte by byte. The induction
follows the comparison of the characters. -/
theorem flatMap_utf8EncodeChar_lt {cs ds : List Char} (h : cs < ds) :
    cs.flatMap String.utf8EncodeChar < ds.flatMap String.utf8EncodeChar := by
  induction h with
  | @nil d ds =>
    obtain ⟨rest, hrest⟩ := exists_sextets_eq_cons (division d.toNat).1 (division d.toNat).2 d.toNat
    rw [List.flatMap_cons, utf8EncodeChar_eq, hrest]
    exact .nil
  | rel hlt => exact utf8EncodeChar_append_lt hlt _ _
  | cons _ ih => exact List.append_left_lt ih

/-- Comparing texts by their characters is the same as comparing them by their bytes. So names are
sorted in the same order either way. -/
theorem bytesOf_lt_iff : bytesOf s < bytesOf t ↔ s < t := by
  have hforward {s t : String} (h : s < t) : bytesOf s < bytesOf t := by
    rw [bytesOf_eq, bytesOf_eq]
    exact flatMap_utf8EncodeChar_lt (String.lt_iff.mp h)
  constructor
  · intro h
    by_contra hnot
    by_cases heq : t = s
    · subst heq
      exact List.lt_irrefl _ h
    · have hlt : t < s := Std.lt_of_le_of_ne (String.not_lt.mp hnot) heq
      exact List.lt_asymm h (hforward hlt)
  · exact hforward

end CrdToolset.Text
