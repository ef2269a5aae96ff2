import CrdToolset.Proofs.Naming.Words

/-!
# Names that are put into the same case twice

A second conversion to the same case finds other words than the first one where a letter is a capital
in one sense only. `ᾈ` has a small form but is no capital letter, so it does not begin a word where
the first conversion put it; `𝐀` is a capital letter without a small form, so it begins a word within
what the first conversion took for small letters. Where no such letter is in the way the second
conversion changes nothing, and a third one never does.
-/

namespace CrdToolset.Naming

open Text

variable {c d : Char} {cs more u w X : List Char} {words ws : List (List Char)}
  {first : List Char → List Char}

/-! ### Cases that mark words by separators -/

/-- Where a word ends before the last character of a text, it does so before any other one. -/
theorem breaksBetween_of_none (h : breaksBetween c d none = true) (next : Option Char) :
    breaksBetween c d next = true := by
  simp only [breaksBetween, Option.any_none, Bool.or_false, Bool.and_eq_true] at h ⊢
  exact ⟨h.1, by rw [h.2, Bool.true_or]⟩

/-- A word that was cut out of a stretch is not cut again: it has no border within it. -/
theorem humps_of_mem_humps (h : w ∈ humps X) : humps w = [w] := by
  induction X generalizing w with
  | nil => simp [humps] at h
  | cons c X ih =>
    cases X with
    | nil =>
      obtain rfl : w = [c] := by simpa [humps] using h
      rfl
    | cons d rest =>
      obtain ⟨more, words, hd⟩ := exists_humps_cons d rest
      rw [humps] at h
      split at h
      case isTrue =>
        rcases List.mem_cons.mp h with rfl | hw
        · rfl
        · exact ih hw
      case isFalse hbreak =>
        have hflatten := flatten_humps (d :: rest)
        rw [hd] at h ih hflatten
        rcases List.mem_cons.mp h with rfl | hw
        · have hmore : humps (d :: more) = [d :: more] := ih List.mem_cons_self
          -- Where the word ends there is no next character, which could only have made a cut.
          have huncut : breaksBetween c d more.head? ≠ true := by
            obtain rfl : more ++ words.flatten = rest := by simpa using hflatten
            cases more with
            | nil => exact fun hnone => hbreak (breaksBetween_of_none hnone _)
            | cons e more => exact hbreak
          simp only
          rw [humps, if_neg huncut, hmore]
          rfl
        · exact ih (List.mem_cons_of_mem _ hw)

/-- Cutting each of several words gives the same words back exactly if none of them is cut. -/
theorem flatMap_humps_eq_self_iff (hne : ∀ w ∈ ws, w ≠ []) :
    ws.flatMap humps = ws ↔ ∀ w ∈ ws, humps w = [w] := by
  induction ws with
  | nil => simp
  | cons w ws ih =>
    obtain ⟨hw, hws⟩ := List.forall_mem_cons.mp hne
    rw [List.forall_mem_cons, ← ih hws, List.flatMap_cons]
    constructor
    · intro h
      obtain ⟨c, cs, rfl⟩ := List.exists_cons_of_ne_nil hw
      obtain ⟨more, words, hwords⟩ := exists_humps_cons c cs
      have hflatten := flatten_humps (c :: cs)
      rw [hwords, List.cons_append, List.cons.injEq] at h
      obtain ⟨hfirst, hrest⟩ := h
      rw [hwords, hfirst, List.flatten_cons, List.append_right_eq_self,
        List.flatten_eq_nil_iff] at hflatten
      have hnil : words = [] := List.eq_nil_iff_forall_not_mem.mpr fun v hv =>
        ne_nil_of_mem_humps (hwords ▸ List.mem_cons_of_mem _ hv) (hflatten v hv)
      subst hnil
      exact ⟨by rw [hwords, hfirst], hrest⟩
    · rintro ⟨h, hrest⟩
      rw [h, hrest, List.singleton_append]

/-- A word that is cut out of a text in small letters stays as it is when it is put into small
letters again. -/
theorem lower_of_mem_humps_lower (h : w ∈ humps (lower u)) : lower w = w := by
  refine lower_eq_self fun d hd => small_of_mem_lower (u := u) ?_
  rw [← flatten_humps (lower u)]
  exact List.mem_flatten.mpr ⟨w, h, hd⟩

section

variable {sep : Char} (hs : isSeparator sep = true)
  (hwords : ∀ w ∈ words, w ≠ [] ∧ ∀ d ∈ w, isSeparator d = false)
include hs hwords

/-- Words that are joined in small letters with a separator are found again, but each may be cut
once more, at characters that are still capitals. -/
theorem split_joinLower : split (joinLower sep words) = (words.map lower).flatMap humps := by
  refine split_intercalate hs fun w hw => ?_
  obtain ⟨v, hv, rfl⟩ := List.mem_map.mp hw
  exact ⟨lower_ne_nil (hwords v hv).1, fun d => not_separator_of_mem_lower (hwords v hv).2⟩

/-- Words in small letters are joined to the same name again exactly if none of them is cut. -/
theorem joinLower_split_joinLower_iff :
    joinLower sep (split (joinLower sep words)) = joinLower sep words ↔
      ∀ w ∈ words, humps (lower w) = [lower w] := by
  have hlower : ∀ w ∈ words.map lower, w ≠ [] ∧ ∀ d ∈ w, isSeparator d = false := by
    intro w hw
    obtain ⟨v, hv, rfl⟩ := List.mem_map.mp hw
    exact ⟨lower_ne_nil (hwords v hv).1, fun d => not_separator_of_mem_lower (hwords v hv).2⟩
  have hpieces : ∀ w ∈ split (joinLower sep words), lower w = w := by
    intro w hw
    rw [split_joinLower hs hwords] at hw
    obtain ⟨u, hu, hw⟩ := List.mem_flatMap.mp hw
    obtain ⟨v, _, rfl⟩ := List.mem_map.mp hu
    exact lower_of_mem_humps_lower hw
  have hjoin : joinLower sep (split (joinLower sep words)) =
      [sep].intercalate (split (joinLower sep words)) := by
    conv_lhs => rw [joinLower, List.map_congr_left hpieces, List.map_id']
  rw [hjoin, ← List.forall_mem_map (P := fun w => humps w = [w]),
    ← flatMap_humps_eq_self_iff fun w hw => (hlower w hw).1, ← split_joinLower hs hwords]
  constructor
  · intro h
    have hstretches := congrArg (stretches isSeparator) h
    rw [stretches_intercalate hs (fun w hw => (of_mem_split hw).1) fun w hw => (of_mem_split hw).2,
      joinLower, stretches_intercalate hs (fun w hw => (hlower w hw).1) fun w hw => (hlower w hw).2]
      at hstretches
    exact hstretches
  · intro h
    rw [h, joinLower]

end

/-! ### Cases that mark words by capitals -/

/-- As a capital the character becomes one that has a small form but is no capital letter. -/
def Titled (c : Char) : Prop := isCapital (capital c) = false ∧ small (capital c) ≠ [capital c]

instance : DecidablePred Titled := fun _ => inferInstanceAs (Decidable (_ ∧ _))

/-- Of the characters that follow the given one, each begins a word or has no small form of its
own. -/
def Settled (c : Char) : List Char → Prop
  | [] => True
  | d :: rest => (breaksBetween c d rest.head? = true ∨ small d = [d]) ∧ Settled d rest

/-- In a settled text, no character of the first word but the first has a small form of its own. -/
theorem Settled.small_of_mem (hX : Settled c X) (h : humps (c :: X) = (c :: more) :: words) :
    ∀ d ∈ more, small d = [d] := by
  induction X generalizing c more words with
  | nil =>
    obtain ⟨rfl, _⟩ : [] = more ∧ [] = words := by simpa [humps] using h
    simp
  | cons d X ih =>
    obtain ⟨hd, hX⟩ := hX
    obtain ⟨rest, tail, htail⟩ := exists_humps_cons d X
    rw [humps] at h
    split at h
    case isTrue =>
      obtain ⟨rfl, _⟩ : [] = more ∧ humps (d :: X) = words := by simpa using h
      simp
    case isFalse hbreak =>
      rw [htail] at h
      obtain ⟨rfl, _⟩ : d :: rest = more ∧ tail = words := by simpa using h
      exact List.forall_mem_cons.mpr ⟨hd.resolve_left hbreak, ih hX htail⟩

/-- Every character begins a word, as a capital, or has no small form of its own. -/
theorem Settled.of_mem (hX : Settled c X) : ∀ d ∈ X, isCapital d = true ∨ small d = [d] := by
  induction X generalizing c with
  | nil => simp
  | cons d X ih =>
    refine List.forall_mem_cons.mpr ⟨hX.1.imp_left fun h => ?_, ih hX.2⟩
    rw [breaksBetween, Bool.and_eq_true] at h
    exact h.1

/-- A text whose characters have no small form of their own is settled, whatever character comes
before it. -/
theorem settled_of_small (hu : ∀ e ∈ u, small e = [e]) : Settled c u := by
  induction u generalizing c with
  | nil => trivial
  | cons e u ih =>
    obtain ⟨he, hu⟩ := List.forall_mem_cons.mp hu
    exact ⟨.inr he, ih hu⟩

/-- A settled text stays so behind characters without a small form of their own, if its own first
character begins a word or has no small form either. -/
theorem Settled.append (hu : ∀ e ∈ u, small e = [e])
    (hd : breaksBetween ((c :: u).getLast (List.cons_ne_nil c u)) d X.head? = true ∨ small d = [d])
    (hX : Settled d X) : Settled c (u ++ d :: X) := by
  induction u generalizing c with
  | nil => exact ⟨hd, hX⟩
  | cons e u ih =>
    obtain ⟨he, hu⟩ := List.forall_mem_cons.mp hu
    exact ⟨.inr he, ih hu (by simpa using hd)⟩

/-- What follows the first character of a capitalised word has no small form of its own. -/
theorem small_of_mem_flatMap_small (h : d ∈ cs.flatMap small) : small d = [d] := by
  obtain ⟨_, _, hd⟩ := List.mem_flatMap.mp h
  exact small_of_mem_small hd

/-- A word that begins with a capital letter and has no other character with a small form of its own
is capitalised already. -/
theorem capitalize_eq_self (hc : isCapital c = true) (hcs : ∀ d ∈ cs, small d = [d]) :
    capitalize (c :: cs) = c :: cs := by
  rw [capitalize, capital_of_isCapital hc, flatMap_small_eq_self hcs]

/-- A word that was cut off at a capital is told from the one before it by its capitalised form, so
joining does not put it into small letters. -/
theorem not_melts (hbreak : breaksBetween c d X.head? = true)
    (h : humps (d :: X) = (d :: more) :: words) : melts (u ++ [c]) (d :: more) = false := by
  rw [breaksBetween, Bool.and_eq_true, Bool.or_eq_true] at hbreak
  rcases hbreak.2 with hc | hsmall
  · have hc : isCapital c = false := by simpa using hc
    simp [melts, hc]
  · cases X with
    | nil => simp at hsmall
    | cons e X =>
      have he : isSmall e = true := by simpa using hsmall
      obtain ⟨rest, tail, htail⟩ := exists_humps_cons e X
      rw [humps_cons_cons (isCapital_of_isSmall he), htail] at h
      obtain ⟨rfl, _⟩ : e :: rest = more ∧ tail = words := by simpa using h
      simp [melts, he]

/-- A capital that does not melt into the text before it is found again as the beginning of a
word. -/
theorem breaksBetween_of_not_melts (h : ¬melts (u ++ [c]) (d :: more) = true)
    (hd : isCapital d = true) (X : List Char) :
    breaksBetween c d (more ++ X).head? = true := by
  cases hc : isCapital c with
  | false => simp [breaksBetween, hc, hd]
  | true =>
    cases more with
    | nil => simp [melts, hc, hd] at h
    | cons e more =>
      have he : isSmall e = true := by simpa [melts, hc, hd] using h
      simp [breaksBetween, hd, he]

/-- The words of a settled text are joined to the same text again, since each of them is capitalised
already. -/
theorem Settled.joinAfter_humps (hX : Settled c X) (h : humps (c :: X) = w :: ws)
    (pre : List Char) : joinAfter (pre ++ w) ws = pre ++ c :: X := by
  induction X generalizing c pre w ws with
  | nil =>
    obtain ⟨rfl, rfl⟩ : [c] = w ∧ [] = ws := by simpa [humps] using h
    rfl
  | cons d X ih =>
    obtain ⟨more, tail, htail⟩ := exists_humps_cons d X
    rw [humps, htail] at h
    split at h
    case isTrue hbreak =>
      obtain ⟨rfl, rfl⟩ : [c] = w ∧ (d :: more) :: tail = ws := by simpa using h
      have hd : isCapital d = true := by
        rw [breaksBetween, Bool.and_eq_true] at hbreak
        exact hbreak.1
      have hword := capitalize_eq_self hd (hX.2.small_of_mem htail)
      have hrest : joinAfter (d :: more) tail = d :: X := ih hX.2 htail []
      rw [joinAfter, hword, if_neg (by simp [not_melts hbreak htail]), hrest, List.append_assoc]
      rfl
    case isFalse =>
      obtain ⟨rfl, rfl⟩ : c :: d :: more = w ∧ tail = ws := by simpa using h
      simpa using ih hX.2 htail (pre ++ [c])

/-- Joining words none of which begins with a titled character gives a settled text, if the piece in
front has no small forms after its first character. -/
theorem exists_settled_joinAfter (hu : ∀ e ∈ u, small e = [e])
    (hwords : ∀ w ∈ words, w ≠ [] ∧ ∀ a ∈ w.head?, ¬Titled a) :
    ∃ X, joinAfter (c :: u) words = c :: X ∧ Settled c X := by
  induction words generalizing c u with
  | nil => exact ⟨u, rfl, settled_of_small hu⟩
  | cons w words ih =>
    obtain ⟨⟨hne, hw⟩, hrest⟩ := List.forall_mem_cons.mp hwords
    obtain ⟨a, as, rfl⟩ := List.exists_cons_of_ne_nil hne
    rw [joinAfter]
    split
    case isTrue =>
      refine ih (fun e he => ?_) hrest
      exact (List.mem_append.mp he).elim (hu e) small_of_mem_lower
    case isFalse hmelts =>
      obtain ⟨X, hX, hsettled⟩ := ih (c := capital a) (fun _ => small_of_mem_flatMap_small) hrest
      obtain ⟨Z, hZ⟩ := exists_joinAfter (capital a :: as.flatMap small) words
      obtain rfl : as.flatMap small ++ Z = X := by simpa using hZ.symm.trans hX
      refine ⟨u ++ capital a :: (as.flatMap small ++ Z), by rw [capitalize, hX]; rfl,
        .append hu ?_ hsettled⟩
      cases ha : isCapital (capital a) with
      | false => exact .inr (by_contra fun hsmall => hw a rfl ⟨ha, hsmall⟩)
      | true =>
        rw [← List.dropLast_concat_getLast (List.cons_ne_nil c u)] at hmelts
        exact .inl (breaksBetween_of_not_melts hmelts ha Z)

/-- A word that begins with a character whose capital form is no capital letter keeps this form in
the joined name, so it can be found there. -/
theorem exists_joinAfter_of_mem (hw : c :: cs ∈ words) (hc : isCapital (capital c) = false) :
    ∃ rest, joinAfter u words = u ++ rest ∧ capital c ∈ rest := by
  induction words generalizing u with
  | nil => cases hw
  | cons v words ih =>
    rw [joinAfter]
    split
    case isTrue hmelts =>
      rcases List.mem_cons.mp hw with rfl | hw
      · simp [melts, capitalize, hc] at hmelts
      · obtain ⟨rest, h, hmem⟩ := ih (u := u ++ lower v) hw
        exact ⟨lower v ++ rest, by rw [h, List.append_assoc], List.mem_append_right _ hmem⟩
    case isFalse =>
      rcases List.mem_cons.mp hw with rfl | hw
      · obtain ⟨rest, h⟩ := exists_joinAfter (capitalize (c :: cs)) words
        exact ⟨_, rfl, by rw [h]; exact List.mem_append_left _ List.mem_cons_self⟩
      · obtain ⟨rest, h, hmem⟩ := ih (u := capitalize v) hw
        exact ⟨_, rfl, by rw [h]; exact List.mem_append_right _ hmem⟩

/-- How the first word of a name is treated: it keeps one character in front of others that have no
small form of their own, and is treated the same way once more. -/
structure TreatsFirst (first : List Char → List Char) : Prop where
  shape (c : Char) (cs : List Char) : ∃ d more, first (c :: cs) = d :: more ∧
    (∀ e ∈ more, small e = [e]) ∧
    ∀ u, (∀ e ∈ u, small e = [e]) → first (d :: u) = d :: u
  not_separator : KeepsTogether first

/-- Capitalising is a way to treat the first word of a name, as the case does that capitalises all
words. -/
theorem treatsFirst_capitalize : TreatsFirst capitalize where
  shape c cs := ⟨capital c, cs.flatMap small, rfl, fun _ => small_of_mem_flatMap_small,
    fun u hu => by rw [capitalize, capital_capital, flatMap_small_eq_self hu]⟩
  not_separator := keepsTogether_capitalize

/-- Putting into small letters is a way to treat the first word of a name, as the case does that
leaves it small. -/
theorem treatsFirst_lower : TreatsFirst lower where
  shape c cs := by
    obtain ⟨d, more, h⟩ := List.exists_cons_of_ne_nil (lower_ne_nil (List.cons_ne_nil c cs))
    have hsmall : ∀ e ∈ d :: more, small e = [e] := h ▸ fun _ => small_of_mem_lower
    obtain ⟨hd, hmore⟩ := List.forall_mem_cons.mp hsmall
    exact ⟨d, more, h, hmore, fun u hu => lower_eq_self (List.forall_mem_cons.mpr ⟨hd, hu⟩)⟩
  not_separator := keepsTogether_lower

/-- No word after the first of a name without separators begins with a titled character. -/
theorem not_titled_of_mem_tail_humps (X : List Char) :
    ∀ w ∈ (humps X).tail, w ≠ [] ∧ ∀ c ∈ w.head?, ¬Titled c := by
  intro w hw
  obtain ⟨c, cs, rfl, hc⟩ := exists_capital_of_mem_tail_humps X w hw
  refine ⟨List.cons_ne_nil c cs, fun d hd htitled => ?_⟩
  obtain rfl : c = d := by simpa using hd
  rw [Titled, capital_of_isCapital hc, hc] at htitled
  exact absurd htitled.1 (by simp)

/-- Capitalised words are joined to the same name again exactly if none but the first begins with a
titled character. -/
theorem joinHumps_split_joinHumps_iff (hfirst : TreatsFirst first)
    (hwords : ∀ w ∈ words, w ≠ [] ∧ ∀ d ∈ w, isSeparator d = false) :
    joinHumps first (split (joinHumps first words)) = joinHumps first words ↔
      ∀ w ∈ words.tail, ∀ c ∈ w.head?, ¬Titled c := by
  cases words with
  | nil => simp [joinHumps, split_of_not_separator, humps]
  | cons w words =>
    obtain ⟨⟨hne, _⟩, hrest⟩ := List.forall_mem_cons.mp hwords
    obtain ⟨a, as, rfl⟩ := List.exists_cons_of_ne_nil hne
    obtain ⟨c, u, hcu, hu, hfix⟩ := hfirst.shape a as
    obtain ⟨Z, hZ⟩ := exists_joinAfter (c :: u) words
    obtain ⟨more, ws, hws⟩ := exists_humps_cons c (u ++ Z)
    rw [split_of_not_separator
        (not_separator_of_mem_joinHumps hfirst.not_separator fun w hw => (hwords w hw).2),
      joinHumps, hcu, hZ, List.cons_append, hws, joinHumps, List.tail_cons]
    constructor
    · -- The second name is settled, and so is the first one if they are the same.
      intro hagain w hw b hb htitled
      obtain ⟨d, more', hd, hmore', _⟩ := hfirst.shape c more
      have htail := not_titled_of_mem_tail_humps (c :: (u ++ Z))
      rw [hws, List.tail_cons] at htail
      obtain ⟨X, hX, hsettled⟩ := exists_settled_joinAfter (c := d) hmore' htail
      rw [hd, hX, List.cons.injEq] at hagain
      obtain ⟨rfl, rfl⟩ := hagain
      obtain ⟨bs, rfl⟩ : ∃ bs, w = b :: bs := List.head?_eq_some_iff.mp hb
      obtain ⟨Y, hY, hmem⟩ := exists_joinAfter_of_mem (u := d :: u) hw htitled.1
      obtain rfl : Y = Z := List.append_cancel_left (hY.symm.trans hZ)
      rcases hsettled.of_mem _ (List.mem_append_right _ hmem) with hcapital | hsmall
      · exact absurd hcapital (by simp [htitled.1])
      · exact htitled.2 hsmall
    · intro hnot
      obtain ⟨X, hX, hsettled⟩ :=
        exists_settled_joinAfter (c := c) hu fun w hw => ⟨(hrest w hw).1, hnot w hw⟩
      obtain rfl : u ++ Z = X := by simpa using hZ.symm.trans hX
      rw [hfix more (hsettled.small_of_mem hws)]
      exact hsettled.joinAfter_humps hws []

/-! ### All cases -/

/-- What a case asks of the words of a name, so that they are found again in the name that it makes
of them. -/
def Case.Keeps : Case → List (List Char) → Prop
  | .camel, words | .pascal, words => ∀ w ∈ words.tail, ∀ c ∈ w.head?, ¬Titled c
  | .snake, words | .kebab, words => ∀ w ∈ words, humps (lower w) = [lower w]

/-- A word is kept whole in small letters if none of these is a capital letter. -/
theorem humps_of_not_capital (hne : u ≠ []) (hu : ∀ d ∈ u, isCapital d = false) :
    humps u = [u] := by
  induction u with
  | nil => exact absurd rfl hne
  | cons c u ih =>
    cases u with
    | nil => rfl
    | cons d u =>
      obtain ⟨_, hrest⟩ := List.forall_mem_cons.mp hu
      rw [humps_cons_cons (hrest d List.mem_cons_self), ih (List.cons_ne_nil d u) hrest]
      rfl

/-- Every case keeps words of ASCII characters, whose capitals all have small forms and the other
way round. -/
theorem Case.keeps_of_ascii (case : Case) (hwords : ∀ w ∈ words, w ≠ [] ∧ ∀ c ∈ w, c.toNat < 0x80) :
    case.Keeps words := by
  have htitled : ∀ w ∈ words.tail, ∀ c ∈ w.head?, ¬Titled c := by
    intro w hw c hc
    have hascii : c.toNat < 0x80 := (hwords w (List.mem_of_mem_tail hw)).2 c (List.mem_of_head? hc)
    exact of_lt_ascii (P := fun c => ¬Titled c) (by decide +kernel) hascii
  have hlower : ∀ w ∈ words, humps (lower w) = [lower w] := by
    intro w hw
    obtain ⟨hne, hascii⟩ := hwords w hw
    refine humps_of_not_capital (lower_ne_nil hne) fun d hd => ?_
    rcases exists_of_mem_lowerFrom hd with ⟨c, hc, hd⟩ | rfl | rfl
    · have hsmall : small c = [c.toLower] := if_pos (hascii c hc)
      obtain rfl : d = c.toLower := by simpa [hsmall] using hd
      exact of_lt_ascii (P := fun c => isCapital c.toLower = false) (by decide +kernel) (hascii c hc)
    · decide
    · decide
  cases case with
  | camel => exact htitled
  | pascal => exact htitled
  | snake => exact hlower
  | kebab => exact hlower

/-- Joining the words of a name, and those of what that gives, comes to the same exactly if the case
keeps the words. -/
theorem Case.join_split_join_iff (case : Case)
    (hwords : ∀ w ∈ words, w ≠ [] ∧ ∀ d ∈ w, isSeparator d = false) :
    case.join (split (case.join words)) = case.join words ↔ case.Keeps words := by
  cases case with
  | camel => exact joinHumps_split_joinHumps_iff treatsFirst_lower hwords
  | pascal => exact joinHumps_split_joinHumps_iff treatsFirst_capitalize hwords
  | snake => exact joinLower_split_joinLower_iff (by decide) hwords
  | kebab => exact joinLower_split_joinLower_iff (by decide) hwords

/-- Converting a name a second time changes nothing exactly if the case keeps the words of the
name. -/
theorem Case.convert_convert_iff (case : Case) (name : String) :
    case.convert (case.convert name) = case.convert name ↔ case.Keeps (split name.toList) := by
  rw [← case.join_split_join_iff fun w => of_mem_split, Case.convert, Case.convert,
    String.toList_ofList, String.ofList_inj]

/-- A letter with a small form that is no capital letter, and one that is a capital letter without a
small form: names that are converted to something else the second time. -/
theorem Case.convert_convert_ne_letters :
    (∀ case ∈ [Case.camel, Case.pascal],
      case.convert (case.convert "a ᾈ") ≠ case.convert "a ᾈ") ∧
    ∀ case ∈ [Case.snake, Case.kebab], case.convert (case.convert "X𝐀") ≠ case.convert "X𝐀" := by
  decide +kernel

/-- Converting an ASCII name to the same case a second time changes nothing, in each of the four
cases. -/
theorem Case.convert_convert_of_ascii (case : Case) {name : String}
    (h : ∀ c ∈ name.toList, c.toNat < 0x80) :
    case.convert (case.convert name) = case.convert name := by
  have hwords : ∀ w ∈ split name.toList, w ≠ [] ∧ ∀ c ∈ w, c.toNat < 0x80 := fun w hw =>
    ⟨(of_mem_split hw).1, fun c hc => h c (mem_of_mem_split hw hc)⟩
  have hjoin := (case.join_split_join_iff fun w => of_mem_split).mpr (case.keeps_of_ascii hwords)
  rw [Case.convert, Case.convert, String.toList_ofList, hjoin]

/-- Once a name has been converted, it has only words that its case keeps: what a case does not keep
is gone after one conversion. -/
theorem Case.keeps_split_convert (case : Case) (name : String) :
    case.Keeps (split (case.convert name).toList) := by
  have hhumps {first : List Char → List Char} (hfirst : TreatsFirst first) :
      ∀ w ∈ (split (joinHumps first (split name.toList))).tail, ∀ c ∈ w.head?, ¬Titled c := by
    rw [split_of_not_separator
      (not_separator_of_mem_joinHumps hfirst.not_separator fun w hw => (of_mem_split hw).2)]
    exact fun w hw => (not_titled_of_mem_tail_humps _ w hw).2
  have hlower {sep : Char} (hs : isSeparator sep = true) :
      ∀ w ∈ split (joinLower sep (split name.toList)), humps (lower w) = [lower w] := by
    intro w hw
    rw [split_joinLower hs fun w => of_mem_split] at hw
    obtain ⟨u, hu, hw⟩ := List.mem_flatMap.mp hw
    obtain ⟨v, _, rfl⟩ := List.mem_map.mp hu
    rw [lower_of_mem_humps_lower hw, humps_of_mem_humps hw]
  rw [Case.convert, String.toList_ofList]
  cases case with
  | camel => exact hhumps treatsFirst_lower
  | pascal => exact hhumps treatsFirst_capitalize
  | snake => exact hlower (by decide)
  | kebab => exact hlower (by decide)

/-- Converting a name to the same case a third time changes nothing, so one more conversion always
settles what the first has left. -/
theorem Case.convert_convert_convert (case : Case) (name : String) :
    case.convert (case.convert (case.convert name)) = case.convert (case.convert name) := by
  have h := (case.join_split_join_iff fun w => of_mem_split).mpr (case.keeps_split_convert name)
  rw [Case.convert, Case.convert, String.toList_ofList, h]

end CrdToolset.Naming
