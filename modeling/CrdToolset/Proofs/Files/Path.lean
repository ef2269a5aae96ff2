import CrdToolset.Files.Find
import CrdToolset.Proofs.Text.Pieces
import Mathlib.Data.List.Basic

/-!
# The names in a path

A path that is joined from a directory and names below it ends with these names, whatever the directory
is called. So paths below one directory are told apart by their names, and the last name tells which of
them have the extension of a YAML text.
-/

namespace CrdToolset.Path

open Text (pieces pieces_append_cons pieces_intercalate flatMap_pieces pieces_eq_singleton
  exists_pieces)

/-- The step of a path leads away from where it is taken: an empty step and a single full stop do
not. -/
def leads (step : String) : Bool := step != "" && step != "."

/-- What a directory may call its entries: a name is one step of a path, and leads to the entry. -/
def IsName (name : String) : Prop := leads name = true ∧ '/' ∉ name.toList

instance : DecidablePred IsName := fun _ => inferInstanceAs (Decidable (_ ∧ _))

/-- The steps that a path is compared by: the first, which is empty in a path that starts at the root,
and those of the others that lead anywhere. -/
def components (path : String) : List String :=
  if path = "" then []
  else
    match segments path with
    | [] => []
    | first :: rest => first :: rest.filter leads

/-- The name ends in one of the extensions of YAML texts, with something in front of it. -/
def NamesYaml (name : String) : Prop :=
  ∃ stem, stem ≠ "" ∧ (name = stem ++ ".yaml" ∨ name = stem ++ ".yml")

variable {dir name ext stem : String} {names names' : List String}

/-! ### Steps -/

/-- Names that are joined with slashes between them are found again when the path is cut at its
slashes, if none of them has a slash in it. -/
theorem segments_intercalate (hne : names ≠ []) (h : ∀ name ∈ names, '/' ∉ name.toList) :
    segments ("/".intercalate names) = names := by
  have hsep : "/".toList = ['/'] := by decide
  have hparts : ∀ part ∈ names.map String.toList, ∀ c ∈ part, (c == '/') = false := by
    intro part hpart c hc
    obtain ⟨name, hname, rfl⟩ := List.mem_map.mp hpart
    refine beq_eq_false_iff_ne.mpr ?_
    rintro rfl
    exact h name hname hc
  have hpieces : pieces (· == '/') (['/'].intercalate (names.map String.toList)) =
      names.map String.toList := by
    rw [pieces_intercalate (by rfl) (by simpa using hne), flatMap_pieces hparts]
  rw [segments, String.toList_intercalate, hsep, hpieces]
  simp [Function.comp_def]

/-- A path with a slash in it is cut into the steps before the slash and the steps after it,
whatever the two parts are. -/
theorem segments_append_slash (front rest : String) :
    segments (front ++ "/" ++ rest) = segments front ++ segments rest := by
  have htext : (front ++ "/" ++ rest).toList = front.toList ++ '/' :: rest.toList := by simp
  have hpieces : pieces (· == '/') (front.toList ++ '/' :: rest.toList) =
      pieces (· == '/') front.toList ++ pieces (· == '/') rest.toList :=
    pieces_append_cons (by rfl) _ _
  rw [segments, htext, hpieces, List.map_append, segments, segments]

/-- Whether a directory is written with a slash at its end can be seen from its characters. Joining
puts a slash after it only if it is not. -/
theorem endsWith_slash_iff : dir.endsWith "/" = true ↔ "/".toList <:+ dir.toList := by
  rw [String.endsWith_eq_endsWith_toSlice, String.Slice.endsWith_string_iff, String.copy_toSlice]

/-- A path below a directory has the names that lead to it behind steps that the directory settles. -/
theorem exists_segments_join (dir : String) :
    ∃ front, ∀ names, names ≠ [] → (∀ name ∈ names, '/' ∉ name.toList) →
      segments (join dir names) = front ++ names := by
  by_cases hempty : dir = ""
  · refine ⟨[], fun names hne h => ?_⟩
    simpa [join, hne, hempty] using segments_intercalate hne h
  by_cases hslash : dir.endsWith "/" = true
  · obtain ⟨front, hfront⟩ := endsWith_slash_iff.mp hslash
    have hdir : dir = String.ofList front ++ "/" := by
      rw [← String.toList_inj, ← hfront]
      simp
    refine ⟨segments (String.ofList front), fun names hne h => ?_⟩
    have hjoin : join dir names = dir ++ "/".intercalate names := by simp [join, hne, hslash]
    rw [hjoin, hdir, segments_append_slash, segments_intercalate hne h]
  · refine ⟨segments dir, fun names hne h => ?_⟩
    have hjoin : join dir names = dir ++ "/" ++ "/".intercalate names := by
      simp [join, hne, hempty, hslash]
    rw [hjoin, segments_append_slash, segments_intercalate hne h]

/-- The last of the names that lead to a path is the name of what is there; where there are none, it is
that of the directory. -/
theorem fileName_join (h : ∀ name ∈ names, IsName name) :
    fileName (join dir names) = names.getLast?.getD (fileName dir) := by
  by_cases hne : names = []
  · subst hne
    rfl
  · obtain ⟨front, hfront⟩ := exists_segments_join dir
    rw [fileName, hfront names hne fun name hname => (h name hname).2, List.getLast?_append,
      List.getLast?_eq_some_getLast hne]
    rfl

/-- A path below a directory is compared by the names that lead to it, behind components that the
directory settles. -/
theorem exists_components_join (dir : String) :
    ∃ front, ∀ names, names ≠ [] → (∀ name ∈ names, IsName name) →
      components (join dir names) = front ++ names := by
  obtain ⟨front, hfront⟩ := exists_segments_join dir
  have hkept {names : List String} (h : ∀ name ∈ names, IsName name) : names.filter leads = names :=
    List.filter_eq_self.mpr fun name hname => (h name hname).1
  refine ⟨front.take 1 ++ (front.drop 1).filter leads, fun names hne h => ?_⟩
  have hsegments := hfront names hne fun name hname => (h name hname).2
  have hpath : join dir names ≠ "" := by
    intro hempty
    have hone : segments "" = [""] := rfl
    rw [hempty, hone] at hsegments
    have hmem : names.getLast hne ∈ [""] := by
      rw [hsegments]
      exact List.mem_append_right _ (List.getLast_mem hne)
    have hleads := (h _ (List.getLast_mem hne)).1
    rw [List.mem_singleton.mp hmem] at hleads
    cases hleads
  rw [components, if_neg hpath, hsegments]
  cases front with
  | nil =>
    obtain ⟨name, rest, rfl⟩ := List.exists_cons_of_ne_nil hne
    obtain ⟨_, hrest⟩ := List.forall_mem_cons.mp h
    simp [hkept hrest]
  | cons first front => simp [List.filter_append, hkept h]

/-- Below one directory, different names lead to different paths. So a file is told from the others
by its path. -/
theorem join_injective (h : ∀ name ∈ names, IsName name) (h' : ∀ name ∈ names', IsName name)
    (hne : names ≠ []) (hne' : names' ≠ []) (heq : join dir names = join dir names') :
    names = names' := by
  obtain ⟨front, hfront⟩ := exists_components_join dir
  have hcomponents := hfront names hne h
  rw [heq, hfront names' hne' h'] at hcomponents
  exact (List.append_cancel_left hcomponents).symm

/-! ### The order of paths -/

/-- Names stand at most at the place of others if these do not come first as lists of texts. -/
theorem atMost_iff : atMost names names' = true ↔ ¬names' < names := by
  fun_induction atMost names names' with
  | case1 names' => simp [List.not_lt_nil]
  | case2 => simp [List.nil_lt_cons]
  | case3 as b bs ih => simp [ih]
  | case4 a as b bs hne =>
    rw [decide_eq_true_iff, List.cons_lt_cons_iff, not_or, String.not_lt]
    refine ⟨fun hlt => ⟨?_, fun h => hne h.1.symm⟩, fun h => Std.lt_of_le_of_ne h.1 hne⟩
    exact String.not_lt.mp fun hlt' => String.lt_irrefl a (String.lt_trans hlt hlt')

/-- Lists of names are put in order, and if they are different each comes before the next. -/
theorem pairwise_mergeSort {l : List (List String)} (h : l.Nodup) :
    (l.mergeSort atMost).Pairwise (· < ·) := by
  have hsorted : (l.mergeSort atMost).Pairwise fun names names' => atMost names names' = true := by
    refine List.pairwise_mergeSort (fun a b c hab hbc => ?_) (fun a b => ?_) l
    · rw [atMost_iff, List.not_lt] at hab hbc ⊢
      exact List.le_trans hab hbc
    · rw [Bool.or_eq_true, atMost_iff, atMost_iff, List.not_lt, List.not_lt]
      exact List.le_total a b
  have hnodup : (l.mergeSort atMost).Nodup := (List.mergeSort_perm l atMost).nodup_iff.mpr h
  refine (hsorted.and hnodup).imp fun {names names'} hboth => ?_
  obtain ⟨hle, hne⟩ := hboth
  by_contra hlt
  exact hne (List.le_antisymm (List.not_lt.mp (atMost_iff.mp hle)) (List.not_lt.mp hlt))

/-! ### Extensions -/

/-- A file name without a full stop has no extension, and so it is not that of a YAML text. -/
theorem extension?_of_not_mem (h : '.' ∉ name.toList) : extension? name = none := by
  have hpieces : pieces (· == '.') name.toList = [name.toList] := by
    refine pieces_eq_singleton fun c hc => beq_eq_false_iff_ne.mpr ?_
    rintro rfl
    exact h hc
  simp [extension?, hpieces]

/-- If cutting a text at its separators leaves it in one piece, that piece is the text itself. -/
theorem eq_of_pieces_eq_singleton {sep : Char → Bool} {X p : List Char}
    (h : pieces sep X = [p]) : p = X := by
  induction X generalizing p with
  | nil => exact (List.singleton_inj.mp h).symm
  | cons c X ih =>
    obtain ⟨q, qs, hX⟩ := exists_pieces sep X
    rw [pieces, hX] at h
    split at h
    case isTrue => simp at h
    case isFalse =>
      obtain ⟨rfl, rfl⟩ := List.cons.inj h
      rw [ih hX]

/-- What stands behind the last full stop is the extension, if something stands in front of it. -/
theorem extension?_append (h : '.' ∉ ext.toList) :
    extension? (stem ++ "." ++ ext) = if stem = "" then none else some ext := by
  have htext : (stem ++ "." ++ ext).toList = stem.toList ++ '.' :: ext.toList := by simp
  have hext : pieces (· == '.') ext.toList = [ext.toList] := by
    refine pieces_eq_singleton fun c hc => beq_eq_false_iff_ne.mpr ?_
    rintro rfl
    exact h hc
  have hpieces : pieces (· == '.') (stem.toList ++ '.' :: ext.toList) =
      pieces (· == '.') stem.toList ++ [ext.toList] := by
    rw [pieces_append_cons (by rfl), hext]
  simp only [extension?, htext, hpieces, List.reverse_append, List.reverse_singleton,
    List.singleton_append]
  obtain ⟨first, others, hstem⟩ := exists_pieces (· == '.') stem.toList
  rcases List.eq_nil_or_concat' others with rfl | ⟨more, last, rfl⟩
  · have hfirst := eq_of_pieces_eq_singleton hstem
    simp [hstem, hfirst]
  · have hne : stem ≠ "" := by
      rintro rfl
      simp [pieces] at hstem
    simp [hstem, hne]

/-- A full stop in a name is in front of what looks like an extension. -/
theorem exists_eq_append (h : '.' ∈ name.toList) :
    ∃ stem ext, name = stem ++ "." ++ ext ∧ '.' ∉ ext.toList := by
  obtain ⟨back, front, htext, hback⟩ := List.eq_append_cons_of_mem (List.mem_reverse.mpr h)
  refine ⟨String.ofList front.reverse, String.ofList back.reverse, ?_, by simpa using hback⟩
  rw [← String.toList_inj, ← List.reverse_inj, htext]
  simp

/-- A name is that of a YAML text if it has one of the two extensions. -/
theorem isYamlName_iff : isYamlName name = true ↔ NamesYaml name := by
  have hyaml (stem : String) : stem ++ ".yaml" = stem ++ "." ++ "yaml" := by
    rw [String.append_assoc]
    rfl
  have hyml (stem : String) : stem ++ ".yml" = stem ++ "." ++ "yml" := by
    rw [String.append_assoc]
    rfl
  rw [isYamlName, Bool.or_eq_true, beq_iff_eq, beq_iff_eq]
  constructor
  · intro h
    by_cases hstop : '.' ∈ name.toList
    · obtain ⟨stem, ext, rfl, hext⟩ := exists_eq_append hstop
      rw [extension?_append hext] at h
      by_cases hstem : stem = ""
      · simp [hstem] at h
      · rw [if_neg hstem, Option.some.injEq, Option.some.injEq] at h
        rcases h with rfl | rfl
        · exact ⟨stem, hstem, .inl (hyaml stem).symm⟩
        · exact ⟨stem, hstem, .inr (hyml stem).symm⟩
    · simp [extension?_of_not_mem hstop] at h
  · rintro ⟨stem, hstem, rfl | rfl⟩
    · left
      rw [hyaml, extension?_append (by decide), if_neg hstem]
    · right
      rw [hyml, extension?_append (by decide), if_neg hstem]

end CrdToolset.Path
