import CrdToolset.Proofs.Go.Flattened
import CrdToolset.Proofs.Text.ByteOrder

/-!
# Texts pasted between quotes

An interpreted string literal is read here by the whole grammar of the language: a character stands
for its own bytes, an escape for a byte or for a character, and the first quote that is no part of
an escape ends the literal. A text that is put between quotes as it is stands for itself exactly if
it has no quote, no backslash and no line break, since every escape takes more bytes than it stands
for. A flattened text always stands for its tidy form.
-/

namespace CrdToolset.Go

open Number (readDigits?)

/-! ### The grammar of literals -/

/-- The byte that a backslash and one character stand for, by the whole list of such escapes. -/
def letterByte? (c : Char) : Option UInt8 :=
  if c = 'a' then some 0x07
  else if c = 'b' then some 0x08
  else if c = 'v' then some 0x0B
  else if c = 'f' then some 0x0C
  else escapedByte? c

/-- The number that as many digits as are asked for stand for, and what comes after them. -/
def takeNumber? (base count : Nat) (cs : List Char) : Option (Nat × List Char) :=
  if count ≤ cs.length then (readDigits? base (cs.take count)).map fun n => (n, cs.drop count)
  else none

/-- The byte that the next digits of an escape stand for, and what comes after them. A number that
is too large for a byte is refused. -/
def takeByte? (base count : Nat) (cs : List Char) : Option (List UInt8 × List Char) :=
  (takeNumber? base count cs).bind fun (n, after) =>
    if n < 256 then some ([UInt8.ofNat n], after) else none

/-- The bytes of the character that is given by its digits, and what comes after them. -/
def takeCharacter? (count : Nat) (cs : List Char) : Option (List UInt8 × List Char) :=
  (takeNumber? 16 count cs).bind fun (n, after) =>
    if n.isValidChar then some (String.utf8EncodeChar (Char.ofNat n), after) else none

/-- The bytes that an escape stands for whose backslash has been read, and what comes after it. -/
def readEscape? : List Char → Option (List UInt8 × List Char)
  | [] => none
  | c :: rest =>
    if c = 'x' then takeByte? 16 2 rest
    else if c = 'u' then takeCharacter? 4 rest
    else if c = 'U' then takeCharacter? 8 rest
    else match letterByte? c with
      | some byte => some ([byte], rest)
      | none => takeByte? 8 3 (c :: rest)

/-- The character stands for itself in a literal: it is no quote, no backslash and no line break. -/
def Ordinary (c : Char) : Prop := c ≠ '"' ∧ c ≠ '\\' ∧ c ≠ '\n'

instance : DecidablePred Ordinary := fun _ => inferInstanceAs (Decidable (_ ∧ _))

/-- A literal whose first quote has been read, the bytes that it stands for, and what comes after
it. -/
inductive Reads : List Char → List UInt8 → List Char → Prop
  | close (after : List Char) : Reads ('"' :: after) [] after
  | char {c : Char} {cs after : List Char} {bytes : List UInt8} (ordinary : Ordinary c)
      (more : Reads cs bytes after) : Reads (c :: cs) (String.utf8EncodeChar c ++ bytes) after
  | escape {cs rest after : List Char} {first bytes : List UInt8}
      (escaped : readEscape? cs = some (first, rest)) (more : Reads rest bytes after) :
      Reads ('\\' :: cs) (first ++ bytes) after

variable {c : Char} {cs rest after after' text : List Char} {bytes bytes' : List UInt8}
  {base count : Nat}

/-- Where a literal ends and which bytes it stands for is settled by its text, so that a text can be
said to stand for something. -/
theorem Reads.unique (h : Reads cs bytes after) (h' : Reads cs bytes' after') :
    bytes = bytes' ∧ after = after' := by
  induction h generalizing bytes' with
  | close =>
    cases h' with
    | close => exact ⟨rfl, rfl⟩
    | char ordinary => exact absurd rfl ordinary.1
  | char ordinary _ ih =>
    cases h' with
    | close => exact absurd rfl ordinary.1
    | char _ more =>
      obtain ⟨rfl, rfl⟩ := ih more
      exact ⟨rfl, rfl⟩
    | escape => exact absurd rfl ordinary.2.1
  | escape escaped _ ih =>
    cases h' with
    | char ordinary => exact absurd rfl ordinary.2.1
    | escape escaped' more =>
      obtain ⟨rfl, rfl⟩ := Prod.mk.inj (Option.some.inj (escaped.symm.trans escaped'))
      obtain ⟨rfl, rfl⟩ := ih more
      exact ⟨rfl, rfl⟩

/-! ### Sizes -/

/-- The number of bytes that a text has. Escapes are compared by it with what they stand for. -/
def size (cs : List Char) : Nat := (cs.flatMap String.utf8EncodeChar).length

/-- One more character adds its bytes. -/
@[simp] theorem size_cons (c : Char) (cs : List Char) : size (c :: cs) = c.utf8Size + size cs := by
  rw [size, List.flatMap_cons, List.length_append, String.length_utf8EncodeChar, size]

/-- Two texts in a row have the bytes of both. -/
@[simp] theorem size_append (cs rest : List Char) : size (cs ++ rest) = size cs + size rest := by
  rw [size, List.flatMap_append, List.length_append, size, size]

/-- A text has at least as many bytes as characters. -/
theorem length_le_size (cs : List Char) : cs.length ≤ size cs := by
  induction cs with
  | nil => exact Nat.zero_le _
  | cons c cs ih =>
    have hpos := c.utf8Size_pos
    rw [List.length_cons, size_cons]
    omega

/-- Taking the digits of an escape leaves a text that is shorter by at least a byte for each
digit. -/
theorem size_of_takeNumber? {n : Nat} (h : takeNumber? base count cs = some (n, after)) :
    count + size after ≤ size cs := by
  unfold takeNumber? at h
  split at h
  case isTrue hcount =>
    obtain ⟨_, _, hpair⟩ := Option.map_eq_some_iff.mp h
    obtain ⟨_, rfl⟩ := Prod.mk.inj hpair
    have htake := length_le_size (cs.take count)
    have hsize := size_append (cs.take count) (cs.drop count)
    rw [List.take_append_drop] at hsize
    rw [List.length_take_of_le hcount] at htake
    omega
  case isFalse => cases h

/-- An escape for a byte stands for no more bytes than its digits are, and there is at least one
digit. -/
theorem size_of_takeByte? (hcount : 1 ≤ count) (h : takeByte? base count cs = some (bytes, after)) :
    bytes.length + size after ≤ size cs := by
  obtain ⟨⟨n, rest⟩, hnumber, hbyte⟩ := Option.bind_eq_some_iff.mp h
  have hsize := size_of_takeNumber? hnumber
  dsimp only at hbyte
  split at hbyte
  case isTrue =>
    obtain ⟨rfl, rfl⟩ := Prod.mk.inj (Option.some.inj hbyte)
    rw [List.length_singleton]
    omega
  case isFalse => cases hbyte

/-- An escape for a character stands for no more bytes than its digits are: a character has at most
four bytes, and there are at least four digits. -/
theorem size_of_takeCharacter? (hcount : 4 ≤ count)
    (h : takeCharacter? count cs = some (bytes, after)) : bytes.length + size after ≤ size cs := by
  obtain ⟨⟨n, rest⟩, hnumber, hbyte⟩ := Option.bind_eq_some_iff.mp h
  have hsize := size_of_takeNumber? hnumber
  dsimp only at hbyte
  split at hbyte
  case isTrue =>
    obtain ⟨rfl, rfl⟩ := Prod.mk.inj (Option.some.inj hbyte)
    have hfour := (Char.ofNat n).utf8Size_le_four
    rw [String.length_utf8EncodeChar]
    omega
  case isFalse => cases hbyte

/-- An escape stands for no more bytes than come after its backslash. With the backslash it is
longer than what it stands for. -/
theorem size_of_readEscape? (h : readEscape? cs = some (bytes, after)) :
    bytes.length + size after ≤ size cs := by
  cases cs with
  | nil => cases h
  | cons c rest =>
    have hpos := c.utf8Size_pos
    rw [readEscape?] at h
    rw [size_cons]
    split_ifs at h
    · have := size_of_takeByte? (by decide) h
      omega
    · have := size_of_takeCharacter? (by decide) h
      omega
    · have := size_of_takeCharacter? (by decide) h
      omega
    · split at h
      · obtain ⟨rfl, rfl⟩ := Prod.mk.inj (Option.some.inj h)
        rw [List.length_singleton]
        omega
      · have := size_of_takeByte? (by decide) h
        rwa [size_cons] at this

/-- A literal stands for fewer bytes than there are in its text, the closing quote counted. A text
with an escape in it is too short to stand for itself. -/
theorem Reads.size_lt (h : Reads cs bytes after) : bytes.length + size after < size cs := by
  induction h with
  | close after =>
    rw [size_cons, List.length_nil]
    have := Char.utf8Size_pos '"'
    omega
  | char _ _ ih =>
    rw [size_cons, List.length_append, String.length_utf8EncodeChar]
    omega
  | escape escaped _ ih =>
    have hescape := size_of_readEscape? escaped
    rw [size_cons, List.length_append]
    omega

/-! ### Texts that stand for themselves, and protected ones -/

/-- A text without quotes, backslashes and line breaks, put between quotes as it is, stands for its
own bytes. -/
theorem reads_of_ordinary (h : ∀ c ∈ text, Ordinary c) (after : List Char) :
    Reads (text ++ '"' :: after) (text.flatMap String.utf8EncodeChar) after := by
  induction text with
  | nil => exact .close after
  | cons c text ih =>
    obtain ⟨hc, htext⟩ := List.forall_mem_cons.mp h
    exact .char hc (ih htext)

/-- What a literal begins with: the quote that ends it, a character that stands for itself, or an
escape, which takes more bytes than it stands for. -/
theorem Reads.of_cons (h : Reads (c :: cs) bytes after) :
    c = '"' ∧ bytes = [] ∨
      Ordinary c ∧ (∃ more, bytes = String.utf8EncodeChar c ++ more ∧ Reads cs more after) ∨
      c = '\\' ∧ bytes.length + size after < size cs := by
  cases h with
  | close => exact .inl ⟨rfl, rfl⟩
  | char ordinary more => exact .inr (.inl ⟨ordinary, _, rfl, more⟩)
  | escape escaped more =>
    have hescape := size_of_readEscape? escaped
    have hmore := more.size_lt
    rw [List.length_append]
    exact .inr (.inr ⟨rfl, by omega⟩)

/-- A text between quotes is read as itself exactly if it has no quote, no backslash and no line
break. -/
theorem reads_self_iff :
    Reads (text ++ '"' :: after) (text.flatMap String.utf8EncodeChar) after ↔
      ∀ c ∈ text, Ordinary c := by
  refine ⟨fun h => ?_, fun h => reads_of_ordinary h after⟩
  induction text with
  | nil => simp
  | cons c text ih =>
    rw [List.flatMap_cons, List.cons_append] at h
    have hpos := c.utf8Size_pos
    rcases h.of_cons with ⟨_, hnil⟩ | ⟨hc, more, hbytes, hmore⟩ | ⟨_, hshort⟩
    · have hlength := congrArg List.length hnil
      rw [List.length_append, String.length_utf8EncodeChar, List.length_nil] at hlength
      omega
    · obtain rfl := List.append_cancel_left hbytes
      exact List.forall_mem_cons.mpr ⟨hc, ih hmore⟩
    · rw [List.length_append, String.length_utf8EncodeChar, ← size, size_append,
        size_cons] at hshort
      have hquote : Char.utf8Size '"' = 1 := rfl
      omega

/-- What the reader of few escapes finds in a literal is what the literal stands for by the whole
grammar. -/
theorem Reads.of_readPlain? (h : readPlain? cs = some (text, after)) :
    Reads cs (text.flatMap String.utf8EncodeChar) after := by
  induction cs using readPlain?.induct generalizing text with
  | case1 => cases h
  | case2 rest =>
    obtain ⟨rfl, rfl⟩ := Prod.mk.inj (Option.some.inj h)
    exact .close rest
  | case3 c rest hc ih =>
    simp only [readPlain?, if_pos hc] at h
    obtain ⟨⟨more, _⟩, hmore, hpair⟩ := Option.map_eq_some_iff.mp h
    obtain ⟨rfl, rfl⟩ := Prod.mk.inj hpair
    rcases hc with rfl | rfl
    · exact .escape rfl (ih hmore)
    · exact .escape rfl (ih hmore)
  | case4 c rest hc =>
    simp only [readPlain?, if_neg hc] at h
    cases h
  | case5 c rest hquote hbackslash hc =>
    simp only [readPlain?, if_pos hc] at h
    cases h
  | case6 c rest hquote hbackslash hc ih =>
    simp only [readPlain?, if_neg hc] at h
    obtain ⟨⟨more, _⟩, hmore, hpair⟩ := Option.map_eq_some_iff.mp h
    obtain ⟨rfl, rfl⟩ := Prod.mk.inj hpair
    rw [not_or, not_or] at hc
    exact .char ⟨hquote, hc.1, hc.2.1⟩ (ih hmore)

/-- A protected text between quotes stands for the bytes of the text by the whole grammar, too. -/
theorem reads_flatMap_protect (htext : ∀ c ∈ text, Steady c) (after : List Char) :
    Reads (text.flatMap protect ++ '"' :: after) (text.flatMap String.utf8EncodeChar) after :=
  .of_readPlain? (readPlain?_flatMap_protect htext after)

end CrdToolset.Go
