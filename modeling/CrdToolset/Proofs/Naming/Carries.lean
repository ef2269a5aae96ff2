import CrdToolset.Proofs.Naming.Humps

/-!
# Changes of names that pass a word on

The names of methods are made by putting a word in front of the kind, after the kind has been put
into another case. If the kind begins with the word itself, the change passes the word on, and so it
does as often as the kind repeats the word. It follows that no such name begins with the kind: the
kind would have to repeat the word without an end.
-/

namespace CrdToolset.Naming

open Text (isCapital lower)

/-- A change of names passes on the word at the beginning of a name as a word `v`; and if the word
`w` comes next, what begins with that is changed as if it stood alone. -/
structure Passes (f : String → String) (u v w : String) : Prop where
  /-- The word at the beginning becomes the other word. -/
  start : ∀ x, ∃ z, f (u ++ x) = v ++ z
  /-- What begins with the next word stands alone. -/
  step : ∀ x, f (u ++ (w ++ x)) = v ++ f (w ++ x)

/-- A change of names keeps a word as often as a name repeats it at its beginning. -/
abbrev Carries (f : String → String) (w : String) : Prop := Passes f w w w

variable {f g : String → String} {u v w x y t : String}

/-- The change that leaves every name as it is passes each word on as itself. -/
theorem passes_id (u w : String) : Passes id u u w := ⟨fun x => ⟨x, rfl⟩, fun _ => rfl⟩

/-- One change after the other passes on what the first makes of a word as what the second makes of
that. -/
theorem Passes.comp (hg : Passes g v x w) (hf : Passes f u v w) (hw : Carries f w) :
    Passes (g ∘ f) u x w where
  start a := by
    obtain ⟨z, hz⟩ := hf.start a
    obtain ⟨z', hz'⟩ := hg.start z
    exact ⟨z', by rw [Function.comp_apply, hz, hz']⟩
  step a := by
    obtain ⟨z, hz⟩ := hw.start a
    rw [Function.comp_apply, hf.step, hz, hg.step, ← hz]
    rfl

/-! ### No name begins with what it was made from -/

/-- What begins with a word and goes on with something that is not in the word reaches beyond the
word. -/
theorem exists_append_of_append_eq (hy : ∀ c ∈ y.toList.head?, c ∉ w.toList)
    (h : x ++ y = w ++ t) : ∃ x', x = w ++ x' := by
  have hlist : x.toList ++ y.toList = w.toList ++ t.toList := by
    rw [← String.toList_append, h, String.toList_append]
  rcases List.append_eq_append_iff.mp hlist with ⟨rest, hw, hyt⟩ | ⟨rest, hx, _⟩
  · cases rest with
    | nil =>
      refine ⟨"", ?_⟩
      rw [← String.toList_inj, String.append_empty, hw, List.append_nil]
    | cons c rest =>
      have hmem : c ∈ w.toList := by simp [hw]
      exact absurd hmem (hy c (by simp [hyt]))
  · refine ⟨String.ofList rest, ?_⟩
    rw [← String.toList_inj, hx]
    simp

/-- What a change that carries a word makes of the word and a name is not the beginning of the name,
nor of the name with something behind it that is not in the word. -/
theorem Carries.append_ne (h : Carries f w) (hw : w ≠ "")
    (hy : ∀ c ∈ y.toList.head?, c ∉ w.toList) (x t : String) : x ++ y ≠ f (w ++ x) ++ t := by
  induction hlength : x.length using Nat.strongRecOn generalizing x with
  | ind n ih =>
    intro heq
    obtain ⟨z, hz⟩ := h.start x
    obtain ⟨x', rfl⟩ := exists_append_of_append_eq (t := z ++ t) hy
      (by rw [heq, hz, String.append_assoc])
    have hshorter : x'.length < n := by
      have hpos : 0 < w.length := by
        rw [Nat.pos_iff_ne_zero]
        intro hzero
        exact hw (by simpa using hzero)
      rw [String.length_append] at hlength
      omega
    refine ih x'.length hshorter x' rfl ?_
    rw [h.step, String.append_assoc, String.append_assoc, String.append_right_inj] at heq
    exact heq

/-- The same where the first word is passed on as the word that is carried. -/
theorem Passes.append_ne (h : Passes f u w w) (hcarries : Carries f w) (hw : w ≠ "")
    (hy : ∀ c ∈ y.toList.head?, c ∉ w.toList) (x t : String) : x ++ y ≠ f (u ++ x) ++ t := by
  intro heq
  obtain ⟨z, hz⟩ := h.start x
  obtain ⟨x', rfl⟩ := exists_append_of_append_eq (t := z ++ t) hy
    (by rw [heq, hz, String.append_assoc])
  rw [h.step, String.append_assoc, String.append_assoc, String.append_right_inj] at heq
  exact hcarries.append_ne hw hy x' t heq

/-- A word in front of a changed name is not the beginning of the name, nor of the name with
something behind it that is not in the word. -/
theorem Carries.append_ne_append (h : Carries f w) (hw : w ≠ "")
    (hy : ∀ c ∈ y.toList.head?, c ∉ w.toList) (k t : String) : k ++ y ≠ w ++ f k ++ t := by
  intro heq
  rw [String.append_assoc] at heq
  obtain ⟨x, rfl⟩ := exists_append_of_append_eq hy heq
  rw [String.append_assoc, String.append_right_inj] at heq
  exact h.append_ne hw hy x t heq

/-! ### The cases that mark words by capitals -/

/-- A word that begins with a capital and has no other capital in it. It is kept by every change
that marks words by capitals. -/
structure Capitalized (w : String) : Prop where
  /-- It is a word. -/
  hump : IsHump w.toList
  /-- Its first character is a capital. -/
  capital : w.toList.head?.any isCapital = true

/-- A name that begins with a capitalized word begins with a capital, which separates no words. -/
theorem Capitalized.exists_cons_append (h : Capitalized w) (x : String) : ∃ d rest,
    (w ++ x).toList = d :: rest ∧ isCapital d = true ∧ isSeparator d = false := by
  obtain ⟨hump, capital⟩ := h
  rw [String.toList_append]
  generalize w.toList = cs at hump capital
  cases hump with
  | @intro c cs first => exact ⟨c, cs ++ x.toList, rfl, by simpa using capital, first⟩

/-- A capitalized word is not empty, since it has at least its capital and one more character. -/
theorem Capitalized.ne_empty (h : Capitalized w) : w ≠ "" := by
  rintro rfl
  exact h.hump.ne_nil rfl

/-- Putting a name into the case of types passes a word on with a capital. -/
theorem passes_pascal (hu : IsHump u.toList) (hv : capitalize u.toList = v.toList)
    (hw : Capitalized w) : Passes pascal u v w where
  start x := by
    obtain ⟨z, hz⟩ := hu.exists_pascal x.toList
    refine ⟨String.ofList z, ?_⟩
    rw [pascal, Case.convert, String.toList_append, hz, hv, String.ofList_append,
      String.ofList_toList]
  step x := by
    obtain ⟨d, rest, hwx, hcapital, hsep⟩ := hw.exists_cons_append x
    rw [pascal, Case.convert, String.toList_append, hwx, hu.pascal_capital hcapital hsep, hv,
      String.ofList_append, String.ofList_toList, pascal, Case.convert, hwx]

/-- The variable that is named after a method begins with the first word of the method in small
letters. -/
theorem exists_camel (hw : Capitalized w) (hu : lower w.toList = u.toList) (x : String) :
    ∃ z, camel (w ++ x) = u ++ z := by
  obtain ⟨z, hz⟩ := hw.hump.exists_camel x.toList
  refine ⟨String.ofList z, ?_⟩
  rw [camel, Case.convert, String.toList_append, hz, hu, String.ofList_append, String.ofList_toList]

/-- After the first word in small letters, a capitalized word is put into the case of types. -/
theorem camel_append (hw : Capitalized w) (hu : lower w.toList = u.toList) (x : String) :
    camel (w ++ (w ++ x)) = u ++ pascal (w ++ x) := by
  obtain ⟨d, rest, hwx, hcapital, hsep⟩ := hw.exists_cons_append x
  rw [camel, Case.convert, String.toList_append, hwx, hw.hump.camel_capital hcapital hsep, hu,
    String.ofList_append, String.ofList_toList, pascal, Case.convert, hwx]

/-- A variable for a method is not the beginning of the name that the method was made from, nor of
the name with something behind it that is not in the first word. -/
theorem Passes.append_ne_camel (hf : Passes f u w w) (hcarries : Carries f w)
    (hw : Capitalized w) (hu : lower w.toList = u.toList) (hword : capitalize w.toList = w.toList)
    (hy : ∀ c ∈ y.toList.head?, c ∉ w.toList) (hy' : ∀ c ∈ y.toList.head?, c ∉ u.toList)
    (k t : String) : k ++ y ≠ camel (w ++ f k) ++ t := by
  intro heq
  have hpascal : Carries pascal w := passes_pascal hw.hump hword hw
  obtain ⟨z, hz⟩ := exists_camel hw hu (f k)
  rw [hz, String.append_assoc] at heq
  obtain ⟨x, rfl⟩ := exists_append_of_append_eq hy' heq
  obtain ⟨z', hz'⟩ := hf.start x
  have hrest : z = pascal (f (u ++ x)) := by
    rw [hz', camel_append hw hu, String.append_right_inj, ← hz'] at hz
    exact hz.symm
  rw [hrest, String.append_assoc, String.append_right_inj] at heq
  exact (hpascal.comp hf hcarries).append_ne (hpascal.comp hcarries hcarries) hw.ne_empty hy x t heq

end CrdToolset.Naming
