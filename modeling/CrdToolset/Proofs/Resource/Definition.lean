import CrdToolset.Proofs.Outcome
import CrdToolset.Resource.Basic
import Mathlib.Data.List.Basic

/-!
# What a document defines

A document is looked at in a fixed order, and the first thing that is wrong with it is reported. If
nothing is, it defines a resource that copies its names and lists its versions. The name of the
stored version and the schema come from one and the same version.
-/

namespace CrdToolset

/-- The version at a place is the one that is stored: the first that says so or, where none does,
the first of all. -/
inductive Definition.StoredAt (d : Definition) : Nat → Version → Prop
  | flagged {i : Nat} {v : Version} (place : d.versions[i]? = some v) (storage : v.storage = true)
      (least : ∀ j < i, ∀ u, d.versions[j]? = some u → u.storage = false) : StoredAt d i v
  | first {v : Version} (place : d.versions[0]? = some v)
      (unflagged : ∀ u ∈ d.versions, u.storage = false) : StoredAt d 0 v

/-- What may be wrong with a document and how it is reported, in the order of precedence. -/
def Definition.problems (d : Definition) : List (Prop × Fault) := [
  (d.documentKind ≠ "CustomResourceDefinition", .notDefinition d.documentKind),
  (d.kind = "", .missingIdentity "kind"),
  (d.plural = "", .missingIdentity "plural name"),
  (d.versions = [], .noVersions),
  (∃ v ∈ d.versions, v.name = "", .missingIdentity "version name")]

/-- The fault is the one that belongs to the first of the problems which are there. The problems are
listed in the order in which a document is examined. -/
def FirstProblem (problems : List (Prop × Fault)) (fault : Fault) : Prop :=
  ∃ earlier problem later, problems = earlier ++ (problem, fault) :: later ∧
    (∀ p ∈ earlier, ¬p.1) ∧ problem

/-- The resource says what the document says: its names and its scope are copied, its versions are
listed, and one of them is the stored version with its schema. -/
structure Definition.Declares (d : Definition) (r : Resource) : Prop where
  /-- The name is that of the document. -/
  name : r.name = d.name
  /-- The group is copied. -/
  group : r.group = d.group
  /-- The kind is copied. -/
  kind : r.kind = d.kind
  /-- The plural is copied. -/
  plural : r.plural = d.plural
  /-- The singular is copied. -/
  singular : r.singular = d.singular
  /-- The abbreviations are copied. -/
  shortNames : r.shortNames = d.shortNames
  /-- The kind of a list is the one that is given, if any. -/
  listKind : d.listKind ≠ "" → r.listKind = d.listKind
  /-- Where none is given, the kind of a list is made from the kind. -/
  defaultListKind : d.listKind = "" → r.listKind = d.kind ++ "List"
  /-- The scope is the one that is written. -/
  scope : r.scope = Scope.ofText d.scope
  /-- All versions are named, in order. -/
  versions : r.versions = d.versions.map Version.name
  /-- The served versions are named, in order. -/
  servedVersions : r.servedVersions = (d.versions.filter Version.served).map Version.name
  /-- The name of the stored version and the schema are those of one version. -/
  stored : ∃ i v, d.StoredAt i v ∧ r.storageVersion = v.name ∧ r.schema = v.schema

variable {d : Definition} {r : Resource} {v : Version} {fault : Fault} {p : Prop} {f : Fault}
  {problems : List (Prop × Fault)}

/-! ### The stored version -/

/-- The version that is found as the stored one is the version at the place that `StoredAt`
describes, and there is only one such place. -/
theorem Definition.stored?_eq_some_iff : d.stored? = some v ↔ ∃ i, d.StoredAt i v := by
  rw [stored?, Option.or_eq_some_iff, List.find?_eq_some_iff_getElem, List.find?_eq_none]
  constructor
  · rintro (⟨hstorage, i, hi, rfl, hleast⟩ | ⟨hnone, hhead⟩)
    · refine ⟨i, .flagged (List.getElem?_eq_getElem hi) hstorage fun j hj u hu => ?_⟩
      obtain ⟨hlength, rfl⟩ := List.getElem?_eq_some_iff.mp hu
      simpa using hleast j hj
    · rw [List.head?_eq_getElem?] at hhead
      exact ⟨0, .first hhead fun u hu => by simpa using hnone u hu⟩
  · rintro ⟨i, hstored⟩
    cases hstored with
    | flagged place storage least =>
      obtain ⟨hi, rfl⟩ := List.getElem?_eq_some_iff.mp place
      refine .inl ⟨storage, i, hi, rfl, fun j hj => ?_⟩
      have hj' : j < d.versions.length := by omega
      simp [least j hj _ (List.getElem?_eq_getElem hj')]
    | first place unflagged =>
      exact .inr ⟨fun u hu => by simp [unflagged u hu], by rwa [List.head?_eq_getElem?]⟩

/-- A document with versions always has a stored one: where none is marked, the first version takes
its place. -/
theorem Definition.exists_stored? (h : d.versions ≠ []) : ∃ v, d.stored? = some v := by
  obtain ⟨first, others, hversions⟩ := List.exists_cons_of_ne_nil h
  unfold stored?
  rw [hversions, List.head?_cons]
  cases (first :: others).find? Version.storage with
  | none => exact ⟨first, rfl⟩
  | some v => exact ⟨v, rfl⟩

/-- A document with a version declares one resource and no other, the one that is made by copying
from it. -/
theorem Definition.declares_iff (h : d.versions ≠ []) : d.Declares r ↔ r = d.declared := by
  obtain ⟨v, hv⟩ := d.exists_stored? h
  constructor
  · intro hr
    obtain ⟨i, u, hu, hversion, hschema⟩ := hr.stored
    obtain rfl : u = v := Option.some.inj ((d.stored?_eq_some_iff.mpr ⟨i, hu⟩).symm.trans hv)
    have hlist : r.listKind = if d.listKind.isEmpty then d.kind ++ "List" else d.listKind := by
      by_cases hempty : d.listKind = ""
      · rw [hr.defaultListKind hempty, hempty]
        rfl
      · rw [hr.listKind hempty, if_neg (by simpa using hempty)]
    cases r
    rw [declared, Resource.mk.injEq, hv]
    exact ⟨hr.name, hr.group, hr.kind, hr.plural, hr.singular, hr.shortNames, hlist, hr.scope,
      hr.versions, hr.servedVersions, hversion, hschema⟩
  · rintro rfl
    obtain ⟨i, hi⟩ := d.stored?_eq_some_iff.mp hv
    exact {
      name := rfl
      group := rfl
      kind := rfl
      plural := rfl
      singular := rfl
      shortNames := rfl
      listKind := fun hgiven => if_neg (by simpa using hgiven)
      defaultListKind := fun hopen => if_pos (by simpa using hopen)
      scope := rfl
      versions := rfl
      servedVersions := rfl
      stored := ⟨i, v, hi, by rw [declared, hv]; rfl, by rw [declared, hv]; rfl⟩ }

/-! ### Problems -/

/-- In an empty list of problems there is no first one, so nothing is reported. -/
theorem firstProblem_nil : ¬FirstProblem [] fault := by
  rintro ⟨earlier, problem, later, h, _⟩
  simp at h

/-- The first problem of a list is the one in front, if it is there, and otherwise the first one of
the rest. -/
theorem firstProblem_cons :
    FirstProblem ((p, f) :: problems) fault ↔ p ∧ fault = f ∨ ¬p ∧ FirstProblem problems fault := by
  constructor
  · rintro ⟨earlier, problem, later, h, hearlier, hproblem⟩
    cases earlier with
    | nil =>
      obtain ⟨⟨rfl, rfl⟩, rfl⟩ : (p = problem ∧ f = fault) ∧ problems = later := by simpa using h
      exact .inl ⟨hproblem, rfl⟩
    | cons q earlier =>
      obtain ⟨rfl, rfl⟩ : (p, f) = q ∧ problems = earlier ++ (problem, fault) :: later := by
        simpa using h
      obtain ⟨hp, hrest⟩ := List.forall_mem_cons.mp hearlier
      exact .inr ⟨hp, earlier, problem, later, rfl, hrest, hproblem⟩
  · rintro (⟨hp, rfl⟩ | ⟨hp, earlier, problem, later, rfl, hearlier, hproblem⟩)
    · exact ⟨[], p, problems, rfl, by simp, hp⟩
    · exact ⟨(p, f) :: earlier, problem, later, rfl, List.forall_mem_cons.mpr ⟨hp, hearlier⟩,
        hproblem⟩

/-- If one of the problems in a list is there, then there is a first one, and it has a fault to
report. -/
theorem exists_firstProblem (h : ∃ q ∈ problems, q.1) : ∃ fault, FirstProblem problems fault := by
  induction problems with
  | nil => simp at h
  | cons q problems ih =>
    by_cases hq : q.1
    · exact ⟨q.2, firstProblem_cons.mpr (.inl ⟨hq, rfl⟩)⟩
    · obtain ⟨fault, hfault⟩ := ih (by simpa [hq] using h)
      exact ⟨fault, firstProblem_cons.mpr (.inr ⟨hq, hfault⟩)⟩

/-- A check in front of others fails with its own fault if there is its problem, and otherwise as
the others do. -/
theorem ite_eq_error_iff {α : Type} [Decidable p] {rest : Except Fault α} :
    (if p then .error f else rest) = .error fault ↔ p ∧ fault = f ∨ ¬p ∧ rest = .error fault := by
  by_cases hp : p
  · simp [hp, eq_comm]
  · simp [hp]

/-- The identity of what a document declares is refused for the first problem after that of the kind
of the document. -/
theorem checkIdentity_declared_eq_error_iff :
    d.declared.checkIdentity = .error fault ↔ FirstProblem d.problems.tail fault := by
  have hversions : d.declared.versions.isEmpty = true ↔ d.versions = [] := by
    rw [Definition.declared, List.isEmpty_iff, List.map_eq_nil_iff]
  have hnames : d.declared.versions.any String.isEmpty = true ↔ ∃ v ∈ d.versions, v.name = "" := by
    simp [Definition.declared]
  rw [Resource.checkIdentity, Definition.problems, List.tail_cons]
  simp only [firstProblem_cons, firstProblem_nil, ite_eq_error_iff, hversions, hnames,
    String.isEmpty_iff]
  simp [Definition.declared]

/-- A document is refused exactly for the first of its problems, and with the fault that belongs to
it. -/
theorem Resource.ofDefinition_eq_error_iff :
    Resource.ofDefinition d = .error fault ↔ FirstProblem d.problems fault := by
  rw [ofDefinition, ← ite_not, ite_eq_error_iff, map_eq_error_iff,
    checkIdentity_declared_eq_error_iff, ← firstProblem_cons]
  rfl

/-- The resource that is made of a definition is the one that the definition declares. -/
theorem Resource.eq_declared_of_ofDefinition (h : Resource.ofDefinition d = .ok r) :
    r = d.declared := by
  unfold Resource.ofDefinition at h
  split at h
  · obtain ⟨_, _, hdeclared⟩ := map_eq_ok_iff.mp h
    exact hdeclared.symm
  · cases h

/-- A document is accepted exactly if it has none of the problems, and it then gives the resource
that it declares. Being without versions is one of the problems. -/
theorem Resource.ofDefinition_eq_ok_iff :
    Resource.ofDefinition d = .ok r ↔ (∀ q ∈ d.problems, ¬q.1) ∧ d.Declares r := by
  have hne (hclear : ∀ q ∈ d.problems, ¬q.1) : d.versions ≠ [] :=
    hclear (d.versions = [], .noVersions) (by simp [Definition.problems])
  constructor
  · intro h
    have hclear : ∀ q ∈ d.problems, ¬q.1 := by
      by_contra hproblem
      obtain ⟨fault, hfault⟩ := exists_firstProblem (by simpa using hproblem)
      rw [ofDefinition_eq_error_iff.mpr hfault] at h
      cases h
    exact ⟨hclear, (Definition.declares_iff (hne hclear)).mpr (eq_declared_of_ofDefinition h)⟩
  · rintro ⟨hclear, hr⟩
    cases hresult : Resource.ofDefinition d with
    | error fault =>
      obtain ⟨earlier, problem, later, h, _, hproblem⟩ := ofDefinition_eq_error_iff.mp hresult
      exact absurd hproblem (hclear (problem, fault) (by rw [h]; simp))
    | ok other =>
      have hother := eq_declared_of_ofDefinition hresult
      rw [hother, (Definition.declares_iff (hne hclear)).mp hr]

/-- A document is refused exactly if it has a problem, for the first one, and otherwise defines
exactly the resource that it declares. -/
theorem Resource.ofDefinition_iff (d : Definition) :
    (∀ fault, Resource.ofDefinition d = .error fault ↔ FirstProblem d.problems fault) ∧
      ∀ r, Resource.ofDefinition d = .ok r ↔ (∀ q ∈ d.problems, ¬q.1) ∧ d.Declares r :=
  ⟨fun _ => ofDefinition_eq_error_iff, fun _ => ofDefinition_eq_ok_iff⟩

end CrdToolset
