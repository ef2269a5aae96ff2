import CrdToolset.Proofs.Naming.Words

/-!
# Where the words of a name end

The words of a name are its characters without the separators, cut into pieces. Where the cuts are can
be seen from the characters on both sides: where a separator stands, before a capital that follows
anything but a capital, and before a capital that a small letter follows. The words are the only way to
cut the name at these places.
-/

namespace CrdToolset.Naming

open Text

variable {c d e p : Char} {u v w X front between after name : List Char}
  {words words' : List (List Char)}

/-- The characters of a name that do not separate words, in order. The words of the name are cut out
of these. -/
def letters (name : List Char) : List Char := name.filter fun c => !isSeparator c

/-- The words at the beginning of a list make up the given characters, so that one of them ends where
the characters end. -/
def Ends (words : List (List Char)) (u : List Char) : Prop := ∃ ws, ws <+: words ∧ ws.flatten = u

/-- What makes a border between the words of a name: something that stands between two characters, or a
capital behind another character or in front of a small letter. -/
def Border (before : Char) (between : List Char) (c : Char) (after : List Char) : Prop :=
  between ≠ [] ∨ isCapital c = true ∧
    (isCapital before = false ∨ ∃ d ∈ after.head?, isSeparator d = false ∧ isSmall d = true)

/-- The words are the pieces of a name between its borders. Together the fields leave one list of
words for a name, as `Segments.unique` says. -/
structure Segments (name : List Char) (words : List (List Char)) : Prop where
  /-- No word is empty or has a separator in it. -/
  word : ∀ w ∈ words, w ≠ [] ∧ ∀ d ∈ w, isSeparator d = false
  /-- The words are the name without its separators. -/
  flatten : words.flatten = letters name
  /-- Between two characters with nothing but separators between them, a word ends exactly if there is
  a border. -/
  ends_iff : ∀ front before between c after, name = front ++ before :: (between ++ c :: after) →
    isSeparator before = false → (∀ d ∈ between, isSeparator d = true) → isSeparator c = false →
    (Ends words (letters (front ++ [before])) ↔ Border before between c after)

/-! ### Ends of words -/

/-- A word that ends in a list of words is the first one or ends behind it. -/
theorem ends_cons_iff (hu : u ≠ []) : Ends (w :: words) u ↔ ∃ v, u = w ++ v ∧ Ends words v := by
  constructor
  · rintro ⟨ws, hprefix, rfl⟩
    rcases List.prefix_cons_iff.mp hprefix with rfl | ⟨ws, rfl, hws⟩
    · exact absurd rfl hu
    · exact ⟨ws.flatten, List.flatten_cons, ws, hws, rfl⟩
  · rintro ⟨v, rfl, ws, hws, rfl⟩
    exact ⟨w :: ws, List.prefix_cons_iff.mpr (.inr ⟨ws, rfl, hws⟩), List.flatten_cons⟩

/-- No word ends before the first one begins: the empty list of words comes before any other. -/
theorem ends_nil (words : List (List Char)) : Ends words [] := ⟨[], List.nil_prefix, rfl⟩

/-- What ends behind the first word ends among all words with the first one in front. -/
theorem ends_cons_append_iff (hu : u ≠ []) : Ends (w :: words) (w ++ u) ↔ Ends words u := by
  rw [ends_cons_iff (by simp [hu])]
  simp

/-- Of two ways to cut the same characters, with the same places where a word ends, the first words are
not longer one than the other. -/
theorem length_le_of_ends (hflatten : (w :: words).flatten = (v :: words').flatten) (hw : w ≠ [])
    (hends : ∀ u x, u ≠ [] → x ≠ [] → (w :: words).flatten = u ++ x → Ends (w :: words) u →
      Ends (v :: words') u) : v.length ≤ w.length := by
  by_contra hlt
  have hrest : words.flatten ≠ [] := by
    intro hnil
    have hlength := congrArg List.length hflatten
    simp only [List.flatten_cons, hnil, List.append_nil, List.length_append] at hlength
    omega
  have hfirst : Ends (w :: words) w := (ends_cons_iff hw).mpr ⟨[], by simp, ends_nil words⟩
  obtain ⟨x, hx, _⟩ := (ends_cons_iff hw).mp (hends w _ hw hrest List.flatten_cons hfirst)
  have hlength := congrArg List.length hx
  rw [List.length_append] at hlength
  omega

/-- Characters are cut into the same words if the words end at the same places. -/
theorem eq_of_ends_iff (hflatten : words.flatten = words'.flatten) (hne : ∀ w ∈ words, w ≠ [])
    (hne' : ∀ w ∈ words', w ≠ [])
    (hends : ∀ u x, u ≠ [] → x ≠ [] → words.flatten = u ++ x → (Ends words u ↔ Ends words' u)) :
    words = words' := by
  induction words generalizing words' with
  | nil =>
    cases words' with
    | nil => rfl
    | cons v words' =>
      obtain ⟨hv, _⟩ := List.forall_mem_cons.mp hne'
      simp [hv] at hflatten
  | cons w words ih =>
    obtain ⟨hw, hwords⟩ := List.forall_mem_cons.mp hne
    cases words' with
    | nil => simp [hw] at hflatten
    | cons v words' =>
      obtain ⟨hv, hwords'⟩ := List.forall_mem_cons.mp hne'
      have hvw : v.length ≤ w.length :=
        length_le_of_ends hflatten hw fun u x hu hx h => (hends u x hu hx h).mp
      have hwv : w.length ≤ v.length :=
        length_le_of_ends hflatten.symm hv fun u x hu hx h =>
          (hends u x hu hx (hflatten.trans h)).mpr
      have happend : w ++ words.flatten = v ++ words'.flatten := by simpa using hflatten
      obtain ⟨rfl, hrest⟩ := List.append_inj happend (by omega)
      rw [ih hrest hwords hwords' fun u x hu hx h => ?_]
      rw [← ends_cons_append_iff (w := w) hu, ← ends_cons_append_iff (w := w) hu]
      exact hends (w ++ u) x (by simp [hu]) hx (by rw [List.flatten_cons, h, List.append_assoc])

/-! ### Words, character by character -/

/-- A separator in front of a name is in no word and takes no part in how the name is cut. -/
theorem split_cons_of_separator (hc : isSeparator c = true) : split (c :: X) = split X := by
  rw [split, stretches_cons_of_sep hc, split]

/-- A character in front of a separator is a word of its own, and what follows is cut as if it stood
alone. -/
theorem split_cons_cons_of_separator (hc : isSeparator c = false) (hd : isSeparator d = true) :
    split (c :: d :: X) = [c] :: split X := by
  rw [split, stretches_cons_cons_of_sep hc hd, List.flatMap_cons, split]
  rfl

/-- The first part of a text begins with the character that the text begins with, if that does not
separate. -/
theorem head?_of_pieces {part : List Char} {parts : List (List Char)}
    (h : pieces isSeparator X = part :: parts) :
    part.head? = X.head?.filter fun d => !isSeparator d := by
  cases X with
  | nil =>
    obtain ⟨rfl, _⟩ := List.cons.inj h
    rfl
  | cons d X =>
    obtain ⟨more, others, hX⟩ := exists_pieces isSeparator X
    rw [pieces, hX] at h
    cases hd : isSeparator d with
    | true =>
      rw [if_pos hd] at h
      obtain ⟨rfl, _⟩ := List.cons.inj h
      simp [Option.filter, hd]
    | false =>
      rw [if_neg (by simp [hd])] at h
      obtain ⟨rfl, _⟩ := List.cons.inj h
      simp [Option.filter, hd]

/-- A character in front of another is a word if there is a border between the two, and otherwise
belongs to the first word. -/
theorem split_cons_cons (hc : isSeparator c = false) (hd : isSeparator d = false) :
    split (c :: d :: X) =
      if breaksBetween c d (X.head?.filter fun e => !isSeparator e) then [c] :: split (d :: X)
      else (split (d :: X)).modifyHead (c :: ·) := by
  obtain ⟨part, parts, hX⟩ := exists_pieces isSeparator X
  have hone := split_append (List.cons_ne_nil d []) (by simpa using hd) hX
  have htwo := split_append (List.cons_ne_nil c [d]) (by simp [hc, hd]) hX
  simp only [List.cons_append, List.nil_append] at hone htwo
  obtain ⟨rest, others, hwords⟩ := exists_humps_cons d part
  rw [htwo, hone, ← head?_of_pieces hX, humps, hwords]
  split
  · rfl
  · rfl

/-- One more character in front is a word of its own or belongs to the first word. -/
theorem split_cons_cases (hc : isSeparator c = false) (X : List Char) :
    split (c :: X) = [c] :: split X ∨
      ∃ w ws, split X = w :: ws ∧ split (c :: X) = (c :: w) :: ws := by
  cases X with
  | nil => exact .inl (split_of_not_separator (by simpa using hc))
  | cons d X =>
    cases hd : isSeparator d with
    | true =>
      left
      rw [split_cons_cons_of_separator hc hd, split_cons_of_separator hd]
    | false =>
      rw [split_cons_cons hc hd]
      split
      case isTrue => exact .inl rfl
      case isFalse =>
        right
        obtain ⟨part, parts, hX⟩ := exists_pieces isSeparator X
        obtain ⟨rest, others, hwords⟩ := exists_humps_cons d part
        have hone := split_append (List.cons_ne_nil d []) (by simpa using hd) hX
        rw [List.singleton_append, List.singleton_append, hwords] at hone
        rw [hone]
        exact ⟨_, _, rfl, rfl⟩

/-- What ends in a name ends in the name with one more character in front. -/
theorem ends_split_cons_iff (hc : isSeparator c = false) (hu : u ≠ []) :
    Ends (split (c :: X)) (c :: u) ↔ Ends (split X) u := by
  rcases split_cons_cases hc X with hsplit | ⟨w, ws, hX, hsplit⟩
  · rw [hsplit, ends_cons_iff (List.cons_ne_nil c u)]
    simp
  · rw [hsplit, hX, ends_cons_iff (List.cons_ne_nil c u), ends_cons_iff hu]
    simp

/-! ### Borders -/

/-- The first character of a name ends a word exactly if a border follows it. The separators between
it and the next character are passed over. -/
theorem ends_split_singleton_iff (hp : isSeparator p = false)
    (hbetween : ∀ d ∈ between, isSeparator d = true) (hc : isSeparator c = false) :
    Ends (split (p :: (between ++ c :: after))) [p] ↔ Border p between c after := by
  have hends (words : List (List Char)) : Ends ([p] :: words) [p] :=
    (ends_cons_iff (List.cons_ne_nil p [])).mpr ⟨[], rfl, ends_nil words⟩
  cases between with
  | cons s between =>
    rw [List.cons_append, split_cons_cons_of_separator hp (hbetween s List.mem_cons_self)]
    exact iff_of_true (hends _) (.inl (List.cons_ne_nil s between))
  | nil =>
    have hborder : Border p [] c after ↔
        breaksBetween p c (after.head?.filter fun d => !isSeparator d) = true := by
      simp [Border, breaksBetween, Option.any_eq_true]
    rw [List.nil_append, split_cons_cons hp hc, hborder]
    split
    case isTrue hbreak => exact iff_of_true (hends _) hbreak
    case isFalse hbreak =>
      rcases split_cons_cases hc after with hafter | ⟨w, ws, _, hafter⟩ <;>
        simp [hafter, ends_cons_iff, hbreak]

/-- In the words of a name a word ends exactly where there is a border. -/
theorem ends_split_iff (hp : isSeparator p = false)
    (hbetween : ∀ d ∈ between, isSeparator d = true) (hc : isSeparator c = false)
    (front : List Char) :
    Ends (split (front ++ p :: (between ++ c :: after))) (letters (front ++ [p])) ↔
      Border p between c after := by
  induction front with
  | nil =>
    have hletters : letters ([] ++ [p]) = [p] := by simp [letters, hp]
    rw [hletters]
    exact ends_split_singleton_iff hp hbetween hc
  | cons d front ih =>
    have hne : letters (front ++ [p]) ≠ [] := by simp [letters, hp]
    cases hd : isSeparator d with
    | true =>
      have hletters : letters (d :: front ++ [p]) = letters (front ++ [p]) := by simp [letters, hd]
      rw [hletters, List.cons_append, split_cons_of_separator hd, ih]
    | false =>
      have hletters : letters (d :: front ++ [p]) = d :: letters (front ++ [p]) := by
        simp [letters, hd]
      rw [hletters, List.cons_append, ends_split_cons_iff hd hne, ih]

/-- The words of a name, one after the other, are the name without its separators. Nothing else is
lost, and nothing is added. -/
theorem flatten_split (name : List Char) : (split name).flatten = letters name := by
  induction name with
  | nil => rfl
  | cons c name ih =>
    cases hc : isSeparator c with
    | true =>
      rw [split_cons_of_separator hc, ih]
      simp [letters, hc]
    | false =>
      have hletters : letters (c :: name) = c :: letters name := by simp [letters, hc]
      rcases split_cons_cases hc name with hsplit | ⟨w, ws, hname, hsplit⟩
      · rw [hsplit, hletters, List.flatten_cons, ih]
        rfl
      · rw [hname] at ih
        rw [hsplit, hletters, ← ih]
        rfl

/-- The words that `split` finds are the pieces of the name between its borders, for every name. -/
theorem segments_split (name : List Char) : Segments name (split name) where
  word _ := of_mem_split
  flatten := flatten_split name
  ends_iff := by
    rintro front before between c after rfl hbefore hbetween hc
    exact ends_split_iff hbefore hbetween hc front

/-- The places between two characters of a name are those between two of its letters. -/
theorem exists_place (hu : u ≠ []) (hv : v ≠ []) (h : letters name = u ++ v) :
    ∃ front before between c after, name = front ++ before :: (between ++ c :: after) ∧
      isSeparator before = false ∧ (∀ d ∈ between, isSeparator d = true) ∧
      isSeparator c = false ∧ letters (front ++ [before]) = u := by
  obtain ⟨c, x, rfl⟩ := List.exists_cons_of_ne_nil hv
  rw [← List.dropLast_concat_getLast hu, List.append_assoc, List.singleton_append] at h
  obtain ⟨first, rest, rfl, hfirst, hrest⟩ := List.filter_eq_append_iff.mp h
  obtain ⟨more, tail, rfl, hmore, hbefore, htail⟩ := List.filter_eq_cons_iff.mp hrest
  obtain ⟨between, after, rfl, hbetween, hc, _⟩ := List.filter_eq_cons_iff.mp htail
  have hlast : isSeparator (u.getLast hu) = false := by simpa using hbefore
  have hnone : more.filter (fun d => !isSeparator d) = [] := List.filter_eq_nil_iff.mpr hmore
  refine ⟨first ++ more, u.getLast hu, between, c, after, by simp, hlast, by simpa using hbetween,
    by simpa using hc, ?_⟩
  calc letters (first ++ more ++ [u.getLast hu])
      = u.dropLast ++ [] ++ [u.getLast hu] := by simp [letters, hfirst, hnone, hlast]
    _ = u := by rw [List.append_nil, List.dropLast_concat_getLast]

/-- A name has only one list of words that are the pieces between its borders: two lists of words
that end at the same places are the same. -/
theorem Segments.unique (h : Segments name words) (h' : Segments name words') : words = words' := by
  refine eq_of_ends_iff (h.flatten.trans h'.flatten.symm) (fun w hw => (h.word w hw).1)
    (fun w hw => (h'.word w hw).1) fun u x hu hx hux => ?_
  obtain ⟨front, before, between, c, after, hname, hbefore, hbetween, hc, rfl⟩ :=
    exists_place hu hx (h.flatten.symm.trans hux)
  rw [h.ends_iff front before between c after hname hbefore hbetween hc,
    h'.ends_iff front before between c after hname hbefore hbetween hc]

/-- Texts are the words of a name exactly if they are the pieces of the name between its borders. -/
theorem splitWords_eq_iff (name : String) (words : List String) :
    splitWords name = words ↔ Segments name.toList (words.map String.toList) := by
  have htexts : (splitWords name).map String.toList = split name.toList := by
    simp [splitWords, Function.comp_def]
  constructor
  · rintro rfl
    rw [htexts]
    exact segments_split name.toList
  · intro h
    have hwords := (segments_split name.toList).unique h
    rw [← htexts] at hwords
    exact (List.map_inj_right fun _ _ => String.toList_inj.mp).mp hwords

end CrdToolset.Naming
