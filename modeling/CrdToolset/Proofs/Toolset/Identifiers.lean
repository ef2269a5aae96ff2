import CrdToolset.Proofs.Operation
import CrdToolset.Proofs.Toolset.Closed
import CrdToolset.Proofs.Toolset.Declarations
import CrdToolset.Proofs.Toolset.ToolNames
import CrdToolset.Proofs.TypeGraph.ObjectNames
import Mathlib.Data.List.Infix

/-!
# Identifiers of a package

The files of a toolset make up one package, so no two of them may declare the same identifier. Names
are made in many ways: some are fixed, some are derived from the kind, and the kind itself and the
kind of lists are chosen by the author of the definition. Only a few choices lead to an identifier
that is declared twice, and they are exactly those where a chosen name is also one of the others.
-/

namespace CrdToolset

namespace Toolset

/-- The identifiers that every package declares, whatever the resource is: the constants and the
functions for common use. -/
def fixedNames : List String :=
  constantNames ++ ["deepCopyJSON", "jsonResult", "textResult", "Documentation"]

/-- The types of the toolset and of the client, and the functions that make them. -/
def typeNames (t : Toolset) : List String :=
  [t.toolsetType, "New" ++ t.toolsetType, t.clientType, "New" ++ t.clientType]

/-- The identifiers that are made from the kind by putting words around it, apart from the names of
structs. -/
def derivedNames (t : Toolset) : List String :=
  t.typeNames ++ t.tools.map Tool.inputType ++ t.tools.map Tool.schemaVar

/-- The names that the author of a definition chooses are different from each other and from the
names that the package has anyway. -/
structure NamesApart (t : Toolset) : Prop where
  /-- The kind is not one of the fixed names. -/
  kind : t.resource.kind ∉ fixedNames
  /-- The kind of lists is another one. The analysis has seen to that, unless the kind is the name
  under which it sets the kind of lists aside. -/
  kinds : t.resource.kind = TypeModel.listOwner → t.resource.listKind ≠ t.resource.kind
  /-- The kind of lists is not one of the fixed names. -/
  listKind : t.resource.listKind ∉ fixedNames
  /-- The kind of lists is not one of the names that are derived from the kind. -/
  derived : t.resource.listKind ∉ t.derivedNames

/-! ### Names that are told apart by their endings -/

/-- The last two characters of a name, the last one first. They tell the derived names from one
another. -/
def ending (name : String) : List Char := name.toList.reverse.take 2

/-- A name that ends with a text of two characters or more has the ending of that text, whatever
comes before it. -/
theorem ending_append {tail : String} (h : 2 ≤ tail.toList.length) (front : String) :
    ending (front ++ tail) = ending tail := by
  unfold ending
  rw [String.toList_append, List.reverse_append, List.take_append_of_le_length]
  rwa [List.length_reverse]

variable {m : TypeModel} {r : Resource} {request : Request} {s : Schema} {w : Walker}
  {name y : String}

/-- The names for the types of the inputs end alike, with the last letters of the word for an
input. -/
theorem ending_of_mem_inputTypes (h : name ∈ (Toolset.of m r request).tools.map Tool.inputType) :
    ending name = ['t', 'u'] := by
  obtain ⟨tool, htool, rfl⟩ := List.mem_map.mp h
  obtain ⟨operation, _, rfl⟩ := List.mem_map.mp htool
  rw [Tool.inputType_of, ending_append (by decide)]
  decide

/-- The names of the variables for schemas end alike, with the last letters of the word for a
schema. -/
theorem ending_of_mem_schemaVars (h : name ∈ (Toolset.of m r request).tools.map Tool.schemaVar) :
    ending name = ['a', 'm'] := by
  obtain ⟨tool, htool, rfl⟩ := List.mem_map.mp h
  obtain ⟨operation, _, rfl⟩ := List.mem_map.mp htool
  rw [Tool.schemaVar_of, ending_append (by decide)]
  decide

/-- The names of the toolset and of the client have endings that no other derived names have. -/
theorem ending_of_mem_typeNames (h : name ∈ (Toolset.of m r request).typeNames) :
    ending name = ['t', 'e'] ∨ ending name = ['t', 'n'] := by
  have htoolset (front : String) : ending (front ++ "Toolset") = ['t', 'e'] := by
    rw [ending_append (by decide)]
    decide
  have hclient (front : String) : ending (front ++ "Client") = ['t', 'n'] := by
    rw [ending_append (by decide)]
    decide
  simp only [typeNames, Toolset.of, List.mem_cons, List.not_mem_nil, or_false] at h
  rw [← String.append_assoc, ← String.append_assoc] at h
  rcases h with rfl | rfl | rfl | rfl
  · exact .inl (htoolset _)
  · exact .inl (htoolset _)
  · exact .inr (hclient _)
  · exact .inr (hclient _)

/-- The names of the toolset and of the client are different, as their endings are. -/
theorem nodup_typeNames : (Toolset.of m r request).typeNames.Nodup := by
  have hnew (name : String) : "New" ++ name ≠ name := by
    intro h
    have hlength := congrArg String.length h
    rw [String.length_append] at hlength
    have : "New".length = 3 := rfl
    omega
  have htails (front front' : String) : front ++ "Toolset" ≠ front' ++ "Client" := by
    intro h
    have hending := congrArg ending h
    rw [ending_append (by decide), ending_append (by decide)] at hending
    revert hending
    decide
  have htypes : (Toolset.of m r request).typeNames = [r.kind ++ "Toolset",
      "New" ++ (r.kind ++ "Toolset"), r.kind ++ "Client", "New" ++ (r.kind ++ "Client")] := rfl
  have hfirst := htails r.kind ("New" ++ r.kind)
  have hsecond := htails ("New" ++ r.kind) r.kind
  have hthird := htails ("New" ++ r.kind) ("New" ++ r.kind)
  rw [String.append_assoc] at hfirst hsecond hthird
  rw [String.append_assoc] at hthird
  rw [htypes]
  simp only [List.nodup_cons, List.mem_cons, List.not_mem_nil, or_false, not_or, not_false_eq_true,
    List.nodup_nil, and_true]
  exact ⟨⟨(hnew _).symm, htails _ _, hfirst⟩, ⟨hsecond, hthird⟩, (hnew _).symm⟩

/-- The types of inputs and the variables of schemas end differently from the other derived
names. -/
theorem ending_of_mem_toolNames
    (h : name ∈ (Toolset.of m r request).tools.map Tool.inputType ++
      (Toolset.of m r request).tools.map Tool.schemaVar) :
    ending name = ['t', 'u'] ∨ ending name = ['a', 'm'] :=
  (List.mem_append.mp h).imp ending_of_mem_inputTypes ending_of_mem_schemaVars

/-- The derived names are all different, if each operation is selected once. Names of one sort
differ in the operation, and names of two sorts in their endings. -/
theorem nodup_derivedNames (hselect : request.operations.Nodup) :
    (Toolset.of m r request).derivedNames.Nodup := by
  have hinputs : ((Toolset.of m r request).tools.map Tool.inputType).Nodup :=
    Tool.nodup_inputTypes hselect
  have hvars : ((Toolset.of m r request).tools.map Tool.schemaVar).Nodup :=
    Tool.nodup_schemaVars hselect
  unfold derivedNames
  rw [List.append_assoc, List.nodup_append, List.nodup_append]
  refine ⟨nodup_typeNames, ⟨hinputs, hvars, ?_⟩, ?_⟩
  · rintro a ha b hb rfl
    have hinput := ending_of_mem_inputTypes ha
    rw [ending_of_mem_schemaVars hb] at hinput
    revert hinput
    decide
  · rintro a ha b hb rfl
    have htool := ending_of_mem_toolNames hb
    rcases ending_of_mem_typeNames ha with htype | htype
    · rw [htype] at htool
      revert htool
      decide
    · rw [htype] at htool
      revert htool
      decide

/-- The endings of the derived names, one for each sort of them. -/
def derivedEndings : List (List Char) := [['t', 'e'], ['t', 'n'], ['t', 'u'], ['a', 'm']]

/-- Every derived name has one of the endings that are listed. -/
theorem ending_of_mem_derivedNames (h : name ∈ (Toolset.of m r request).derivedNames) :
    ending name ∈ derivedEndings := by
  unfold derivedNames at h
  rw [List.append_assoc] at h
  rcases List.mem_append.mp h with htype | htool
  · rcases ending_of_mem_typeNames htype with hending | hending <;> simp [hending, derivedEndings]
  · rcases ending_of_mem_toolNames htool with hending | hending <;> simp [hending, derivedEndings]

/-- No derived name is one of the fixed names, because none of these has an ending of that sort. -/
theorem not_mem_fixedNames_of_mem_derivedNames (h : name ∈ (Toolset.of m r request).derivedNames) :
    name ∉ fixedNames := by
  have hfixed : ∀ name ∈ fixedNames, ending name ∉ derivedEndings := by decide
  exact fun hmem => hfixed name hmem (ending_of_mem_derivedNames h)

/-! ### Names that begin with the kind -/

/-- The kind, alone or with something behind it that begins with a capital S, is not one of the
derived names. -/
theorem kind_append_not_mem_derivedNames (hy : ∀ c ∈ y.toList.head?, c = 'S') :
    r.kind ++ y ∉ (Toolset.of m r request).derivedNames := by
  have hcarries : Naming.Carries id "New" := Naming.passes_id "New" "New"
  have hnew (tail : String) : r.kind ++ y ≠ "New" ++ (r.kind ++ tail) := by
    rw [← String.append_assoc]
    refine hcarries.append_ne_append (by decide) (fun c hc => ?_) r.kind tail
    rw [hy c hc]
    decide
  have htail {tail : String} {c : Char} (htail : c ∈ tail.toList.head?) (hc : c ≠ 'S') :
      r.kind ++ y ≠ r.kind ++ tail := by
    intro h
    rw [String.append_right_inj] at h
    exact hc (hy c (h ▸ htail))
  intro hmem
  unfold derivedNames at hmem
  rcases List.mem_append.mp hmem with hmem | hvar
  · rcases List.mem_append.mp hmem with htype | hinput
    · simp only [typeNames, Toolset.of, List.mem_cons, List.not_mem_nil, or_false] at htype
      rcases htype with h | h | h | h
      · exact htail (c := 'T') (by decide) (by decide) h
      · exact hnew _ h
      · exact htail (c := 'C') (by decide) (by decide) h
      · exact hnew _ h
    · obtain ⟨tool, htool, h⟩ := List.mem_map.mp hinput
      obtain ⟨operation, _, rfl⟩ := List.mem_map.mp htool
      exact Tool.kind_append_ne_inputType hy h.symm
  · obtain ⟨tool, htool, h⟩ := List.mem_map.mp hvar
    obtain ⟨operation, _, rfl⟩ := List.mem_map.mp htool
    exact Tool.kind_append_ne_schemaVar hy h.symm

/-- The kind is not one of the derived names, though these are made from it and a kind may repeat
the words that they are made with. -/
theorem kind_not_mem_derivedNames : r.kind ∉ (Toolset.of m r request).derivedNames := by
  simpa using kind_append_not_mem_derivedNames (m := m) (r := r) (y := "") (by simp)

end Toolset

namespace TypeModel.OfWalk

variable {r : Resource} {m : TypeModel} {s : Schema} {w : Walker} (h : OfWalk r s w m)
include h

/-- The name of a struct is the kind with something behind it that begins with `Sp` or `St`. -/
theorem exists_eq_kind_append (request : Request) {name : String}
    (hname : name ∈ (Toolset.of m r request).structNames) :
    ∃ y, name = r.kind ++ y ∧ (['S', 'p'] <+: y.toList ∨ ['S', 't'] <+: y.toList) := by
  rw [h.structNames_eq] at hname
  obtain ⟨i, hi, rfl⟩ := List.mem_map.mp hname
  obtain ⟨j, hj, hij⟩ := mem_objectTypes.mp hi
  have hbelow {stem rest : String} (hlast : (r.kind ++ stem).toList.getLast? ≠ some 's')
      (hpart : m.graph.nameAt j = r.kind ++ stem ++ rest) :
      ∃ rest, m.graph.nameAt i = r.kind ++ (stem ++ rest) := by
    obtain ⟨rest, hrest⟩ :=
      h.built.exists_nameAt_of_mem_objectsAt h.backward hlast hij ⟨rest, hpart⟩
    exact ⟨rest, by rw [hrest, String.append_assoc]⟩
  rcases List.mem_append.mp hj with hspec | hstatus
  · obtain ⟨_, node, hnode, hpart⟩ := h.of_part? (h.spec ▸ Option.mem_toList.mp hspec)
    have hpascal : Naming.pascal "spec" = "Spec" ++ "" := by decide
    rw [← TypeGraph.nameAt_of_getElem? hnode, hpascal, ← String.append_assoc] at hpart
    obtain ⟨rest, hname⟩ := hbelow (by simp) hpart
    exact ⟨_, hname, .inl ⟨['e', 'c'] ++ rest.toList, by simp⟩⟩
  · obtain ⟨_, node, hnode, hpart⟩ := h.of_part? (h.status ▸ Option.mem_toList.mp hstatus)
    have hpascal : Naming.pascal "status" = "Statu" ++ "s" := by decide
    rw [← TypeGraph.nameAt_of_getElem? hnode, hpascal, ← String.append_assoc] at hpart
    obtain ⟨rest, hname⟩ := hbelow (by simp) hpart
    exact ⟨_, hname, .inr ⟨['a', 't', 'u'] ++ rest.toList, by simp⟩⟩

/-- The name of a struct is neither a fixed nor a derived name: it is the kind with something behind
it that begins with `Sp` or `St`. -/
theorem not_mem_of_mem_structNames (request : Request) {name : String}
    (hname : name ∈ (Toolset.of m r request).structNames) :
    name ∉ Toolset.fixedNames ++ (Toolset.of m r request).derivedNames := by
  obtain ⟨y, rfl, hy⟩ := h.exists_eq_kind_append request hname
  rw [List.mem_append, not_or]
  constructor
  · -- No fixed name contains the two letters.
    have hfixed : ∀ name ∈ Toolset.fixedNames, ∀ tail ∈ name.toList.tails,
        ¬['S', 'p'] <+: tail ∧ ¬['S', 't'] <+: tail := by decide
    intro hmem
    have htail : y.toList ∈ (r.kind ++ y).toList.tails := by
      rw [List.mem_tails, String.toList_append]
      exact List.suffix_append ..
    obtain ⟨hspec, hstatus⟩ := hfixed _ hmem _ htail
    exact hy.elim hspec hstatus
  · refine Toolset.kind_append_not_mem_derivedNames fun c hc => ?_
    rcases hy with ⟨rest, hy⟩ | ⟨rest, hy⟩ <;> simpa [← hy, eq_comm] using hc

end TypeModel.OfWalk

namespace Toolset

variable {r : Resource} {m : TypeModel} {request : Request}

/-- The identifiers of a package up to their order: the kind and the kind of lists, which the
definition chooses, and then all that are made. -/
theorem identifiers_perm (t : Toolset) : t.identifiers.Perm
    (t.resource.kind :: t.resource.listKind ::
      (t.structNames ++ (fixedNames ++ t.derivedNames))) := by
  rw [List.perm_iff_count]
  intro name
  simp only [identifiers, Artifact.all, declared, derivedNames, typeNames, fixedNames,
    List.flatMap_cons, List.flatMap_nil, List.count_append, List.count_cons, List.count_nil]
  omega

/-- Where the kind of lists is left open, only the kind itself can be in the way. -/
theorem namesApart_iff_of_listKind_eq (h : r.listKind = r.kind ++ "List") :
    (Toolset.of m r request).NamesApart ↔ r.kind ∉ fixedNames := by
  have hending : ending r.listKind = ['t', 's'] := by
    rw [h, ending_append (by decide)]
    decide
  have hfixed : ∀ name ∈ fixedNames, ending name ≠ ['t', 's'] := by decide
  refine ⟨fun hapart => hapart.kind, fun hkind => ⟨hkind, ?_, ?_, ?_⟩⟩
  · intro _ heq
    have hlength : r.listKind.length = r.kind.length := congrArg String.length heq
    rw [h, String.length_append] at hlength
    have : "List".length = 4 := rfl
    omega
  · exact fun hmem => hfixed _ hmem hending
  · intro hmem
    have hderived := ending_of_mem_derivedNames hmem
    change ending r.listKind ∈ _ at hderived
    rw [hending] at hderived
    revert hderived
    decide

/-- A request for all tools of a resource, with the settings of a package that is called after an
example. -/
def allTools : Request where
  operations := Operation.all
  packageName := "example"
  modulePath := "example.com/tools"

/-- No identifier is declared twice exactly where the chosen names are different from each other and
from the names that the package has anyway. -/
theorem nodup_identifiers_iff {selection : Option String} (h : TypeModel.build r = .ok m)
    (hselect : Operation.select selection = .ok request.operations) :
    (Toolset.of m r request).identifiers.Nodup ↔ (Toolset.of m r request).NamesApart := by
  obtain ⟨s, w, hwalk⟩ := TypeModel.ofWalk_of_build h
  have hstructs : (Toolset.of m r request).structNames.Nodup := hwalk.nodup_structNames request
  have hothers : (fixedNames ++ (Toolset.of m r request).derivedNames).Nodup := by
    have hderived := nodup_derivedNames (m := m) (r := r) (Operation.nodup_of_select hselect)
    refine List.nodup_append.mpr ⟨by decide, hderived, ?_⟩
    rintro a ha b hb rfl
    exact not_mem_fixedNames_of_mem_derivedNames hb ha
  have hapart : ∀ a ∈ (Toolset.of m r request).structNames,
      ∀ b ∈ fixedNames ++ (Toolset.of m r request).derivedNames, a ≠ b := by
    rintro a ha b hb rfl
    exact hwalk.not_mem_of_mem_structNames request ha hb
  have hrest : ((Toolset.of m r request).structNames ++
      (fixedNames ++ (Toolset.of m r request).derivedNames)).Nodup :=
    List.nodup_append.mpr ⟨hstructs, hothers, hapart⟩
  rw [(identifiers_perm _).nodup_iff, List.nodup_cons, List.nodup_cons]
  constructor
  · rintro ⟨hkind, hlistKind, _⟩
    simp only [List.mem_cons, List.mem_append, not_or] at hkind hlistKind
    exact ⟨hkind.2.2.1, fun _ heq => hkind.1 heq.symm, hlistKind.2.1, hlistKind.2.2⟩
  · intro hchosen
    have hkindStructs := hwalk.kind_not_mem_structNames request
    have hlistKindStructs := hwalk.listKind_not_mem_structNames request
    have hkinds : r.listKind ≠ r.kind := fun heq =>
      hchosen.kinds (hwalk.kind_eq_listOwner_of_listKind_eq heq) heq
    refine ⟨?_, ?_, hrest⟩
    · simp only [List.mem_cons, List.mem_append, not_or]
      exact ⟨hkinds.symm, hkindStructs, hchosen.kind, kind_not_mem_derivedNames⟩
    · simp only [List.mem_append, not_or]
      exact ⟨hlistKindStructs, hchosen.listKind, hchosen.derived⟩

/-- The package for cabinets with all tools declares each of its identifiers once. -/
theorem nodup_identifiers_cabinetResource : ∃ m, TypeModel.build cabinetResource = .ok m ∧
    Operation.select none = .ok allTools.operations ∧
    (Toolset.of m cabinetResource allTools).identifiers.Nodup := by
  obtain ⟨m, hm⟩ := build_cabinetResource
  have hselect : Operation.select none = .ok allTools.operations := rfl
  have hkind : cabinetResource.kind ∉ fixedNames := by decide
  refine ⟨m, hm, hselect, ?_⟩
  exact (nodup_identifiers_iff hm hselect).mpr ((namesApart_iff_of_listKind_eq rfl).mpr hkind)

/-- A kind that is one of the fixed names is declared twice in its package, once as a type and once
as what the fixed name is. -/
theorem not_nodup_identifiers_of_mem_fixedNames (h : r.kind ∈ fixedNames) :
    ¬(Toolset.of m r request).identifiers.Nodup := by
  rw [(identifiers_perm _).nodup_iff, List.nodup_cons]
  rintro ⟨hkind, _⟩
  exact hkind (by simp [Toolset.of, h])

/-- The definition of a resource of the kind `Group`, which is the name of a constant in every
package. -/
def groupDefinition : Definition where
  documentKind := "CustomResourceDefinition"
  name := "groups.example.com"
  group := "example.com"
  kind := "Group"
  plural := "groups"
  versions := [{
    name := "v1"
    schema := some (specSchema { type := "string" }) }]

/-- The package for groups declares a type and a constant of the name `Group`, though nothing is
wrong with the definition. -/
theorem not_nodup_identifiers_groupDefinition : ∃ r m,
    Resource.ofDefinition groupDefinition = .ok r ∧ TypeModel.build r = .ok m ∧
    Operation.select none = .ok allTools.operations ∧
    ¬(Toolset.of m r allTools).identifiers.Nodup := by
  have hbuild : (TypeModel.build groupDefinition.declared).toOption.isSome = true := by
    decide +kernel
  cases hm : TypeModel.build groupDefinition.declared with
  | error fault => simp [hm, Except.toOption] at hbuild
  | ok m =>
    have hkind : groupDefinition.declared.kind ∈ fixedNames := by decide
    exact ⟨groupDefinition.declared, m, rfl, hm, rfl, not_nodup_identifiers_of_mem_fixedNames hkind⟩

end Toolset

end CrdToolset
