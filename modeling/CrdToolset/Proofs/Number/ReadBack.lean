import CrdToolset.Number.Layout
import CrdToolset.Proofs.Number.Characters
import CrdToolset.Proofs.Number.Shortest

/-!
# Numbers are told apart by their texts

A number in a JSON text is read back as the number, in whichever way its digits are laid out. So finite
numbers have different texts, whole numbers have different texts, and the text of a finite number, which
shows a fraction or an exponent, is not that of a whole number.
-/

namespace CrdToolset.Number

variable {c : Char} {negative : Bool} {d : Decimal} {text whole part rest : List Char}

/-! ### Digits -/

/-- The text consists of decimal digits and nothing else. It may be empty. -/
def AllDigits (text : List Char) : Prop := ∀ c ∈ text, c.isDigit = true

/-- The digits that a natural number is written with are decimal digits. -/
theorem allDigits_digitsOf (n : Nat) : AllDigits (digitsOf n) := by
  have hdigit : ∀ m < 10, (digit m).isDigit = true := by decide
  induction n using digitsOf.induct with
  | case1 n hlt =>
    rw [digitsOf, if_pos hlt]
    exact List.forall_mem_singleton.mpr (hdigit n hlt)
  | case2 n hge ih =>
    rw [digitsOf, if_neg hge]
    exact List.forall_mem_append.mpr
      ⟨ih, List.forall_mem_singleton.mpr (hdigit _ (Nat.mod_lt n (by decide)))⟩

/-- A row of zeros, such as the layout of a decimal puts around its digits, consists of decimal
digits. -/
theorem allDigits_zeros (count : Nat) : AllDigits (List.replicate count '0') := by
  intro c hc
  rw [List.eq_of_mem_replicate hc]
  rfl

/-- A natural number is written with at least one digit, also if it is zero. -/
theorem digitsOf_ne_nil (n : Nat) : digitsOf n ≠ [] := by
  rw [digitsOf]
  split <;> simp

/-- Zeros that are put after the digits of a number multiply its value by ten each. -/
theorem wholeValue_append_replicate (whole : List Char) (count : Nat) :
    wholeValue (whole ++ List.replicate count '0') = wholeValue whole * 10 ^ count := by
  induction count with
  | zero => rw [List.replicate_zero, List.append_nil, Nat.pow_zero, Nat.mul_one]
  | succ count ih =>
    rw [wholeValue] at ih
    rw [List.replicate_succ', ← List.append_assoc, wholeValue, List.foldl_append, ih, List.foldl_cons,
      List.foldl_nil, Nat.pow_succ, ← Nat.mul_assoc]
    rfl

/-- Zeros that are put before the digits of a number leave its value as it is. -/
theorem wholeValue_replicate_append (count : Nat) (whole : List Char) :
    wholeValue (List.replicate count '0' ++ whole) = wholeValue whole := by
  induction count with
  | zero => rfl
  | succ count ih => exact ih

/-! ### Reading -/

/-- The text does not begin with a decimal digit, so a row of digits in front of it ends where it
begins. -/
def NoDigit (rest : List Char) : Prop := ∀ c ∈ rest.head?, c.isDigit = false

/-- The empty text does not begin with a digit, so digits at the end of a text are read as a
whole. -/
theorem noDigit_nil : NoDigit [] := by
  rintro _ ⟨⟩

/-- A text whose first character is no digit ends the row of digits in front of it. -/
theorem noDigit_cons (h : c.isDigit = false) (rest : List Char) : NoDigit (c :: rest) := by
  rintro _ ⟨⟩
  exact h

/-- Taking digits from a text gets the whole row of digits at its beginning, if what follows does
not begin with one more. -/
theorem takeWhile_digits_append (h : AllDigits whole) (hrest : NoDigit rest) :
    (whole ++ rest).takeWhile Char.isDigit = whole := by
  rw [List.takeWhile_append_of_pos h]
  cases rest with
  | nil => exact List.append_nil whole
  | cons c rest => rw [List.takeWhile_cons_of_neg (by simp [hrest c rfl]), List.append_nil]

/-- Dropping digits from a text leaves what follows the row of digits at its beginning, if that does
not begin with one more. -/
theorem dropWhile_digits_append (h : AllDigits whole) (hrest : NoDigit rest) :
    (whole ++ rest).dropWhile Char.isDigit = rest := by
  rw [List.dropWhile_append_of_pos h]
  cases rest with
  | nil => rfl
  | cons c rest => rw [List.dropWhile_cons_of_neg (by simp [hrest c rfl])]

/-- A row of digits without a point after it is read as a whole number, to which the exponent behind
the digits applies. -/
theorem readMagnitude?_whole (negative : Bool) (hwhole : AllDigits whole) (hne : whole ≠ [])
    (hrest : NoDigit rest) (hpoint : '.' ∉ rest.head?) :
    readMagnitude? negative (whole ++ rest) =
      (readExponent? rest).map fun e => .ofDecimal negative (wholeValue whole) e := by
  have hempty : whole.isEmpty = false := List.isEmpty_eq_false_iff.mpr hne
  rw [readMagnitude?, takeWhile_digits_append hwhole hrest, dropWhile_digits_append hwhole hrest]
  dsimp only
  split
  · exact absurd rfl hpoint
  · simp [hempty]

/-- A row of digits with a point and more digits after it is read as the number that all digits form
together, with an exponent that is lower by the digits after the point. -/
theorem readMagnitude?_point (negative : Bool) (hwhole : AllDigits whole) (hne : whole ≠ [])
    (hpart : AllDigits part) (hrest : NoDigit rest) :
    readMagnitude? negative (whole ++ '.' :: (part ++ rest)) =
      (readExponent? rest).map fun e =>
        .ofDecimal negative (wholeValue (whole ++ part)) (e - part.length) := by
  have hpoint : NoDigit ('.' :: (part ++ rest)) := noDigit_cons rfl _
  have hempty : whole.isEmpty = false := List.isEmpty_eq_false_iff.mpr hne
  rw [readMagnitude?, takeWhile_digits_append hwhole hpoint, dropWhile_digits_append hwhole hpoint]
  simp [takeWhile_digits_append hpart hrest, dropWhile_digits_append hpart hrest, hempty]

/-! ### Layouts -/

/-- The text begins with a decimal digit, as the layouts of numbers without a sign do. -/
def BeginsWithDigit (text : List Char) : Prop := ∃ c ∈ text.head?, c.isDigit = true

/-- A text that begins with a row of digits begins with a digit, unless the row is empty. -/
theorem beginsWithDigit_append (h : AllDigits whole) (hne : whole ≠ []) :
    BeginsWithDigit (whole ++ rest) := by
  obtain ⟨c, whole, rfl⟩ := List.exists_cons_of_ne_nil hne
  exact ⟨c, rfl, h c List.mem_cons_self⟩

/-- The text stands for a decimal, as texts without a sign do in JSON. -/
structure Decimal.IsText (d : Decimal) (text : List Char) : Prop where
  /-- It begins with a digit. -/
  begins : BeginsWithDigit text
  /-- It shows a fraction or an exponent. -/
  shows : ∃ c ∈ text, c.isDigit = false
  /-- It is read as the decimal. -/
  reads : ∀ negative, readMagnitude? negative text = some (.ofDecimal negative d.digits d.exponent)

/-- Digits before and after a point are a text of a decimal of the same value. -/
theorem Decimal.isText_point (hwhole : AllDigits whole) (hne : whole ≠ []) (hpart : AllDigits part)
    (hvalue : (wholeValue (whole ++ part) : ℚ) * 10 ^ (-(part.length : Int)) = d.value) :
    d.IsText (whole ++ '.' :: part) := by
  refine ⟨beginsWithDigit_append hwhole hne, ⟨'.', by simp, rfl⟩, fun negative => ?_⟩
  have hread := readMagnitude?_point negative hwhole hne hpart noDigit_nil
  rw [List.append_nil, readExponent?, Option.map_some, Int.zero_sub] at hread
  rw [hread, ofDecimal_congr hvalue]

/-- A decimal without a fraction is written as its digits with zeros behind them, and the point and
the zero that are put after these change nothing about its value. -/
theorem Decimal.isText_positional_append (h : 0 ≤ d.exponent) :
    d.IsText (d.positional ++ ['.', '0']) := by
  obtain ⟨e, he⟩ := Int.eq_ofNat_of_zero_le h
  have htext : d.positional = digitsOf d.digits ++ List.replicate e '0' := by
    simp [positional, he]
  have hdigits : AllDigits (digitsOf d.digits ++ List.replicate e '0') :=
    List.forall_mem_append.mpr ⟨allDigits_digitsOf _, allDigits_zeros e⟩
  have hne : digitsOf d.digits ++ List.replicate e '0' ≠ [] :=
    List.append_ne_nil_of_left_ne_nil (digitsOf_ne_nil _) _
  rw [htext]
  refine isText_point hdigits hne (allDigits_zeros 1) ?_
  rw [← List.replicate_one, wholeValue_append_replicate, wholeValue_append_replicate,
    wholeValue_digitsOf]
  simp [value, he]

/-- Digits with a point among them, and zeros before them where there are too few. -/
theorem Decimal.isText_positional (h : d.exponent < 0) : d.IsText d.positional := by
  obtain ⟨places, hplaces⟩ : ∃ places, places = (-d.exponent).toNat := ⟨_, rfl⟩
  obtain ⟨padded, hpadded⟩ : ∃ padded, padded =
      List.replicate (places + 1 - (digitsOf d.digits).length) '0' ++ digitsOf d.digits := ⟨_, rfl⟩
  have htext : d.positional =
      padded.take (padded.length - places) ++ '.' :: padded.drop (padded.length - places) := by
    rw [positional, if_neg (by omega), hpadded, hplaces]
  have hlength : places + 1 ≤ padded.length := by
    rw [hpadded, List.length_append, List.length_replicate]
    omega
  have hdigits : AllDigits padded :=
    hpadded ▸ List.forall_mem_append.mpr ⟨allDigits_zeros _, allDigits_digitsOf _⟩
  have hne : padded.take (padded.length - places) ≠ [] := by
    refine List.ne_nil_of_length_pos ?_
    rw [List.length_take]
    omega
  have hexponent : -((padded.drop (padded.length - places)).length : Int) = d.exponent := by
    rw [List.length_drop]
    omega
  rw [htext]
  refine isText_point (fun c hc => hdigits c (List.mem_of_mem_take hc)) hne
    (fun c hc => hdigits c (List.mem_of_mem_drop hc)) ?_
  rw [List.take_append_drop, hexponent, hpadded, wholeValue_replicate_append, wholeValue_digitsOf, value]

/-- An exponent that is written with its sign after the letter is read back as that exponent. -/
theorem readExponent?_sign (exponent : Int) :
    readExponent? ('e' :: (if exponent < 0 then '-' else '+') :: digitsOf exponent.natAbs) =
      some exponent := by
  have hall : (digitsOf exponent.natAbs).all Char.isDigit = true :=
    List.all_eq_true.mpr (allDigits_digitsOf _)
  have hempty : (digitsOf exponent.natAbs).isEmpty = false :=
    List.isEmpty_eq_false_iff.mpr (digitsOf_ne_nil _)
  split
  case isTrue h =>
    simp [readExponent?, takeSign, hall, hempty, wholeValue_digitsOf, -Nat.cast_natAbs]
    omega
  case isFalse h =>
    simp [readExponent?, takeSign, hall, hempty, wholeValue_digitsOf, -Nat.cast_natAbs]
    omega

/-- The layout with one digit before the point and an exponent is read back as the decimal that it
lays out. -/
theorem Decimal.isText_scientific (d : Decimal) : d.IsText d.scientific := by
  obtain ⟨c, ds, hds⟩ := List.exists_cons_of_ne_nil (digitsOf_ne_nil d.digits)
  have hdigits : AllDigits (c :: ds) := hds ▸ allDigits_digitsOf d.digits
  obtain ⟨hc, hpart⟩ := List.forall_mem_cons.mp hdigits
  have hwhole : AllDigits [c] := List.forall_mem_singleton.mpr hc
  obtain ⟨exponent, hexponent⟩ : ∃ exponent : Int, exponent = d.exponent + ds.length := ⟨_, rfl⟩
  obtain ⟨rest, hrest⟩ : ∃ rest, rest =
    'e' :: (if exponent < 0 then '-' else '+') :: digitsOf exponent.natAbs := ⟨_, rfl⟩
  have hread : readExponent? rest = some exponent := hrest ▸ readExponent?_sign exponent
  have hnoDigit : NoDigit rest := hrest ▸ noDigit_cons rfl _
  have hvalue : wholeValue (c :: ds) = d.digits := by rw [← hds, wholeValue_digitsOf]
  have htext : d.scientific = [c] ++ ((if ds = [] then [] else '.' :: ds) ++ rest) := by
    simp [scientific, hds, hrest, hexponent]
  rw [htext]
  refine ⟨beginsWithDigit_append hwhole (by simp), ⟨'e', by simp [hrest], rfl⟩, fun negative => ?_⟩
  split
  case isTrue h =>
    subst h
    have hpoint : '.' ∉ rest.head? := by
      rw [hrest]
      rintro ⟨⟩
    rw [List.nil_append, readMagnitude?_whole negative hwhole (by simp) hnoDigit hpoint, hread,
      Option.map_some, hvalue, hexponent, List.length_nil, Nat.cast_zero, Int.add_zero]
  case isFalse h =>
    refine (readMagnitude?_point negative hwhole (by simp) hpart hnoDigit).trans ?_
    rw [hread, Option.map_some, List.singleton_append, hvalue, hexponent, Int.add_sub_cancel]

/-! ### Finite numbers -/

/-- Nothing is taken off a text that begins with a digit when its sign is looked for. -/
theorem takeSign_of_beginsWithDigit (h : BeginsWithDigit text) : takeSign text = (false, text) := by
  obtain ⟨c, hc, hdigit⟩ := h
  unfold takeSign
  split
  · obtain rfl := Option.mem_some.mp hc
    cases hdigit
  · obtain rfl := Option.mem_some.mp hc
    cases hdigit
  · rfl

/-- The sign of a number is taken off the digits behind it, whether there is a minus sign or
none. -/
theorem takeSign_sign_append (h : BeginsWithDigit text) :
    takeSign (sign negative ++ text) = (negative, text) := by
  cases negative with
  | false => exact takeSign_of_beginsWithDigit h
  | true => rfl

/-- A text that begins with a digit is not taken for one of the names of numbers that are not
finite, in small letters or others. -/
theorem ofList_map_toLower_ne (h : BeginsWithDigit text) (name : String)
    (hname : NoDigit name.toList) : String.ofList (text.map Char.toLower) ≠ name := by
  rintro rfl
  obtain ⟨c, hc, hdigit⟩ := h
  have hlower : c.toLower = c := by
    simp only [Char.isDigit, Bool.and_eq_true, decide_eq_true_eq] at hdigit
    exact dif_neg fun hupper => absurd (UInt32.le_trans hupper.1 hdigit.2) (by decide)
  rw [String.toList_ofList, NoDigit, List.head?_map, hc, Option.map_some, hlower] at hname
  rw [hname c rfl] at hdigit
  cases hdigit

/-- A text of a decimal with a sign in front is read as a number. -/
theorem Decimal.IsText.read?_sign_append (h : d.IsText text) :
    Double.read? (sign negative ++ text) = some (.ofDecimal negative d.digits d.exponent) := by
  have hinf := ofList_map_toLower_ne h.begins "inf" (noDigit_cons rfl _)
  have hinfinity := ofList_map_toLower_ne h.begins "infinity" (noDigit_cons rfl _)
  have hnan := ofList_map_toLower_ne h.begins "nan" (noDigit_cons rfl _)
  rw [Double.read?, takeSign_sign_append h.begins]
  simp only [hinf, hinfinity, hnan, or_self, if_false, h.reads]

/-- The text of a finite number in JSON is its sign and a layout of its shortest decimal. The three
layouts differ in how they show the exponent. -/
theorem Finite.exists_inJson_eq (x : Finite) :
    ∃ text, x.inJson = sign x.negative ++ text ∧ (x.shortest .toEven).IsText text := by
  refine ⟨_, rfl, ?_⟩
  split
  · split
    · exact Decimal.isText_positional_append ‹_›
    · rw [List.append_nil]
      exact Decimal.isText_positional (by omega)
  · exact Decimal.isText_scientific _

/-- A finite number is read back from its text in JSON, since its shortest decimal is nearer to it
than to any other number. -/
theorem Finite.read?_inJson (x : Finite) : Double.read? x.inJson = some (.finite x) := by
  obtain ⟨text, htext, h⟩ := x.exists_inJson_eq
  rw [htext, h.read?_sign_append, ofDecimal_shortest]

/-- Different finite numbers have different texts in JSON, because each text is read back as its
number. -/
theorem Finite.inJson_injective : Function.Injective Finite.inJson := by
  intro x y h
  have hread := congrArg Double.read? h
  rwa [x.read?_inJson, y.read?_inJson, Option.some.injEq, Double.finite.injEq] at hread

/-! ### Whole numbers -/

/-- The digits of a natural number begin with a digit, whatever number it is. -/
theorem beginsWithDigit_digitsOf (n : Nat) : BeginsWithDigit (digitsOf n) := by
  rw [← List.append_nil (digitsOf n)]
  exact beginsWithDigit_append (allDigits_digitsOf n) (digitsOf_ne_nil n)

/-- A whole number is written as the digits of its magnitude, with a minus sign in front of them if
it is negative. -/
theorem signedDigitsOf_eq (n : Int) : signedDigitsOf n = sign (n < 0) ++ digitsOf n.natAbs := by
  unfold signedDigitsOf sign
  split <;> simp_all

/-- Different whole numbers are written in different ways, as their signs or their digits differ. -/
theorem signedDigitsOf_injective : Function.Injective signedDigitsOf := by
  intro m n h
  have hsign := congrArg takeSign h
  rw [signedDigitsOf_eq, signedDigitsOf_eq, takeSign_sign_append (beginsWithDigit_digitsOf _),
    takeSign_sign_append (beginsWithDigit_digitsOf _), Prod.mk.injEq, decide_eq_decide,
    digitsOf_injective.eq_iff] at hsign
  omega

/-- A whole number is not written like a finite number of the double format. -/
theorem signedDigitsOf_ne_inJson (n : Int) (x : Finite) : signedDigitsOf n ≠ x.inJson := by
  intro h
  obtain ⟨text, htext, htextOf⟩ := x.exists_inJson_eq
  have hsign := congrArg takeSign h
  rw [htext, signedDigitsOf_eq, takeSign_sign_append (beginsWithDigit_digitsOf _),
    takeSign_sign_append htextOf.begins, Prod.mk.injEq] at hsign
  obtain ⟨c, hc, hother⟩ := htextOf.shows
  rw [← hsign.2] at hc
  rw [allDigits_digitsOf _ c hc] at hother
  cases hother

/-! ### How numbers begin -/

/-- The text begins as numbers do, with a minus sign or a decimal digit. -/
def BeginsNumber (text : List Char) : Prop := ∃ c ∈ text.head?, c = '-' ∨ c.isDigit = true

/-- A text that begins with a digit may have a sign in front of it. -/
theorem BeginsWithDigit.beginsNumber (h : BeginsWithDigit text) (negative : Bool) :
    BeginsNumber (sign negative ++ text) := by
  cases negative with
  | false =>
    obtain ⟨c, hc, hdigit⟩ := h
    exact ⟨c, hc, .inr hdigit⟩
  | true => exact ⟨'-', rfl, .inl rfl⟩

/-- The text of a whole number begins with a minus sign or a digit, which no other kind of value
does. -/
theorem beginsNumber_signedDigitsOf (n : Int) : BeginsNumber (signedDigitsOf n) :=
  signedDigitsOf_eq n ▸ (beginsWithDigit_digitsOf _).beginsNumber _

/-- The text of a finite number in JSON begins with a minus sign or a digit, which no other kind of
value does. -/
theorem Finite.beginsNumber_inJson (x : Finite) : BeginsNumber x.inJson := by
  obtain ⟨text, htext, h⟩ := x.exists_inJson_eq
  exact htext ▸ h.begins.beginsNumber _

end CrdToolset.Number
