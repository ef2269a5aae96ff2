import CrdToolset.Go.Quoted
import CrdToolset.Number.Digits
import CrdToolset.Proofs.Toolset.Lines
import Mathlib.Data.List.Basic

/-!
# Reading Go string literals

An interpreted string literal is read from the left: an escape stands for one byte, and any other
character for its own bytes, until a quote ends the literal. A quoted text is read back as the text, and
so it does not matter what comes after it.
-/

namespace CrdToolset.Go

open Text (hexDigit)

/-- The byte that a backslash and one character after it stand for, if they are an escape of this
short sort. -/
def escapedByte? (c : Char) : Option UInt8 :=
  if c = '\\' then some 0x5C
  else if c = '"' then some 0x22
  else if c = 'n' then some 0x0A
  else if c = 'r' then some 0x0D
  else if c = 't' then some 0x09
  else none

/-- The byte that two hexadecimal digits stand for, if both of them are digits. -/
def hexByte? (high low : Char) : Option UInt8 :=
  (Number.digitValue? high).bind fun h => (Number.digitValue? low).map fun l => UInt8.ofNat (16 * h + l)

/-- The character is no control character of ASCII. Quoted texts have no others in them. -/
def Printable (c : Char) : Prop := 0x20 ≤ c.toNat ∧ c.toNat ≠ 0x7F

instance : DecidablePred Printable := fun _ => inferInstanceAs (Decidable (_ ∧ _))

/-- The character may stand in a literal for itself: it is no quote, no backslash and no control
character. -/
def StandsAlone (c : Char) : Prop := c ≠ '"' ∧ c ≠ '\\' ∧ Printable c

instance : DecidablePred StandsAlone := fun _ => inferInstanceAs (Decidable (_ ∧ _))

/-- The bytes of a literal whose first quote has been read, and what comes after the literal. There is
none if a character may not stand in a literal, an escape is unknown or the second quote is missing. -/
def readBody? : List Char → Option (List UInt8 × List Char)
  | [] => none
  | '"' :: rest => some ([], rest)
  | '\\' :: 'x' :: high :: low :: rest =>
    (hexByte? high low).bind fun byte => (readBody? rest).map fun (bytes, after) => (byte :: bytes, after)
  | '\\' :: c :: rest =>
    (escapedByte? c).bind fun byte => (readBody? rest).map fun (bytes, after) => (byte :: bytes, after)
  | c :: rest =>
    if StandsAlone c then
      (readBody? rest).map fun (bytes, after) => (String.utf8EncodeChar c ++ bytes, after)
    else none

/-- The text that a literal stands for, if it is one literal and its bytes are a text. -/
def unquote? (literal : String) : Option String :=
  match literal.toList with
  | '"' :: body =>
    match readBody? body with
    | some (bytes, []) => String.fromUTF8? bytes.toByteArray
    | _ => none
  | _ => none

variable {s t : String} {c : Char} {rest x y : List Char} {n : Nat}

/-- The hexadecimal digit of a number below sixteen is read back as that number. -/
theorem digitValue?_hexDigit (h : n < 16) : Number.digitValue? (hexDigit n) = some n := by
  revert n
  decide

/-- The two hexadecimal digits that a byte is written with are read back as the byte. -/
theorem hexByte?_hexDigit (h : n < 256) :
    hexByte? (hexDigit (n / 16)) (hexDigit (n % 16)) = some (UInt8.ofNat n) := by
  rw [hexByte?, digitValue?_hexDigit (by omega), Option.bind_some, digitValue?_hexDigit (by omega),
    Option.map_some, Nat.div_add_mod]

/-- A character of ASCII is one byte, which is its code point. Escapes for bytes are meant for
these. -/
theorem utf8EncodeChar_of_lt (h : c.toNat < 0x80) : String.utf8EncodeChar c = [UInt8.ofNat c.toNat] :=
  if_pos (Nat.le_of_lt_succ h)

/-- A character in its quoted form is read back as the bytes of the character, and reading goes on
behind the form. -/
theorem readBody?_escape_append (c : Char) (rest : List Char) :
    readBody? (escape c ++ rest) =
      (readBody? rest).map fun (bytes, after) => (String.utf8EncodeChar c ++ bytes, after) := by
  unfold escape
  split_ifs with hbackslash hquote hnewline hreturn htab hcontrol
  · subst hbackslash
    simp [readBody?, escapedByte?, utf8EncodeChar_of_lt]
  · subst hquote
    simp [readBody?, escapedByte?, utf8EncodeChar_of_lt]
  · subst hnewline
    simp [readBody?, escapedByte?, utf8EncodeChar_of_lt]
  · subst hreturn
    simp [readBody?, escapedByte?, utf8EncodeChar_of_lt]
  · subst htab
    simp [readBody?, escapedByte?, utf8EncodeChar_of_lt]
  · have hbyte : c.toNat < 0x80 := by omega
    simp [readBody?, hexByte?_hexDigit (show c.toNat < 256 by omega), utf8EncodeChar_of_lt hbyte]
  · have halone : StandsAlone c := ⟨hquote, hbackslash, by omega, by omega⟩
    simp [readBody?, hbackslash, halone]

/-- A quoted text is read as the bytes of the text, whatever comes after it. -/
theorem readBody?_flatMap_escape (text rest : List Char) :
    readBody? (text.flatMap escape ++ '"' :: rest) = some (text.flatMap String.utf8EncodeChar, rest) := by
  induction text with
  | nil => rfl
  | cons c text ih =>
    rw [List.flatMap_cons, List.append_assoc, readBody?_escape_append, ih]
    rfl

/-- The characters of a quoted text are the quoted forms of its characters, with a quote before and
behind them. -/
theorem toList_quote (s : String) : (quote s).toList = '"' :: (s.toList.flatMap escape ++ ['"']) := by
  rw [quote, String.toList_ofList, List.cons_append]

/-- Texts with the same bytes are equal. Reading a literal gives bytes, and this leads back from
them to the text. -/
theorem eq_of_flatMap_utf8EncodeChar
    (h : s.toList.flatMap String.utf8EncodeChar = t.toList.flatMap String.utf8EncodeChar) : s = t := by
  have hbytes : s.toList.utf8Encode = t.toList.utf8Encode := congrArg List.toByteArray h
  rwa [String.utf8Encode_toList, String.utf8Encode_toList, String.toByteArray_inj] at hbytes

/-- Where a quoted text ends can be seen from the text itself: if two texts begin with quoted ones,
these agree, and so does what follows them. -/
theorem quote_append_inj (h : (quote s).toList ++ x = (quote t).toList ++ y) : s = t ∧ x = y := by
  simp only [toList_quote, List.cons_append, List.append_assoc, List.nil_append, List.cons.injEq,
    true_and] at h
  have hread := congrArg readBody? h
  rw [readBody?_flatMap_escape, readBody?_flatMap_escape, Option.some.injEq, Prod.mk.injEq] at hread
  exact ⟨eq_of_flatMap_utf8EncodeChar hread.1, hread.2⟩

/-- A hexadecimal digit is no control character, so the escape of a byte has none in it. -/
theorem printable_hexDigit (h : n < 16) : Printable (hexDigit n) := by
  revert n
  decide

/-- The quoted form of a character has no control character in it, also where the character is
one. -/
theorem printable_of_mem_escape {d : Char} (h : d ∈ escape c) : Printable d := by
  have hpair : ∀ letter : Char, Printable letter → d ∈ ['\\', letter] → Printable d := by
    intro letter hletter hd
    rcases List.mem_pair.mp hd with rfl | rfl
    · decide
    · exact hletter
  unfold escape at h
  split_ifs at h with hbackslash hquote hnewline hreturn htab hcontrol
  · exact hpair _ (by decide) h
  · exact hpair _ (by decide) h
  · exact hpair _ (by decide) h
  · exact hpair _ (by decide) h
  · exact hpair _ (by decide) h
  · simp only [List.mem_cons, List.not_mem_nil, or_false] at h
    rcases h with rfl | rfl | rfl | rfl
    · decide
    · decide
    · exact printable_hexDigit (by omega)
    · exact printable_hexDigit (by omega)
  · obtain rfl := List.mem_singleton.mp h
    exact ⟨by omega, by omega⟩

/-- A quoted text has no control character in it, whatever the text has. This is what a literal may
hold. -/
theorem printable_of_mem_quote (h : c ∈ (quote s).toList) : Printable c := by
  rw [toList_quote, List.mem_cons, List.mem_append, List.mem_flatMap, List.mem_singleton] at h
  rcases h with rfl | ⟨d, _, hc⟩ | rfl
  · decide
  · exact printable_of_mem_escape hc
  · decide

/-- A quoted text is on one line, because its line breaks are escaped. -/
theorem oneLine_quote (s : String) : OneLine (quote s) := by
  intro h
  have := (printable_of_mem_quote h).1
  revert this
  decide

/-- A quoted text is one literal, has no character in it that does not print, and stands for the
text. -/
theorem unquote?_quote (s : String) :
    unquote? (quote s) = some s ∧ ∀ c ∈ (quote s).toList, Printable c := by
  refine ⟨?_, fun c hc => printable_of_mem_quote hc⟩
  have hbytes : (s.toList.flatMap String.utf8EncodeChar).toByteArray = s.toByteArray :=
    String.utf8Encode_toList
  rw [unquote?, toList_quote]
  simp only [readBody?_flatMap_escape]
  rw [hbytes, String.fromUTF8?, dif_pos s.isValidUTF8]
  rfl

end CrdToolset.Go
