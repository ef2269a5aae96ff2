import CrdToolset.Generation
import CrdToolset.Proofs.Toolset.LineBreaks
import CrdToolset.Proofs.Toolset.StructLines

/-!
# What a check says about generating

A check goes only part of the way to a toolset: it makes the types and counts their structs, but asks
for no operations, reads no documentation and writes no code. Where the operations are valid and the
documentation can be read, generating fails as the check does, or gives what the check has counted.
-/

namespace CrdToolset

open Toolset (declarations fileText typesFile)

/-- What a check has found holds of what is generated: the resource is the same, the types are those
of the model that was checked, and their file declares as many structs as were counted, besides the
ones for the resource and for lists of it. -/
structure Generated.Foretold (plan : Plan) (c : Checked) (g : Generated) : Prop where
  /-- The resource is the same. -/
  resource : g.resource = c.resource
  /-- The file of the types, if it is wanted, is written from lines of which as many declare a struct
  as were counted, besides the ones for the resource and for lists of it. So does its text, if no name
  breaks a line. -/
  types : Artifact.types ∈ plan.wanted → ∃ lines, g.code.lookup .types = some (fileText lines) ∧
    declarations lines = c.structCount + 2 ∧
    (c.resource.OnOneLine → OneLine g.request.packageName →
      declarations (linesOf (fileText lines)) = c.structCount + 2)

/-- The outcome of a check foretells that of generating from the same text: both fail with the same
fault, or both succeed and what was found holds of what is generated. -/
inductive Plan.Foretells (plan : Plan) : Except Fault Checked → Except Fault Generated → Prop
  /-- Both fail in the same way. -/
  | fails (fault : Fault) : Foretells plan (.error fault) (.error fault)
  /-- Both succeed, and what was found holds of what is generated. -/
  | succeeds {c : Checked} {g : Generated} (h : g.Foretold plan c) : Foretells plan (.ok c) (.ok g)

variable {access : FileAccess Id} {plan : Plan} {path text : String} {operations : List Operation}
  {doc : Option String} {c : Checked} {artifacts : List Artifact} {artifact : Artifact}

/-- A definition that can be read is checked by building the types of its resource. -/
theorem checkText_of_parse {r : Resource} (h : Resource.parse path text = .ok r) :
    checkText path text = (TypeModel.build r).map (Checked.mk r) := by
  unfold checkText
  rw [h]
  cases hbuild : TypeModel.build r <;> simp [hbuild, bind, Except.bind, pure, Except.pure, Except.map]

/-- The path of a definition is only named in faults, so a check that succeeds would find the same under
any other path. -/
theorem checkText_of_other_path (other : String) (h : checkText path text = .ok c) :
    checkText other text = .ok c := by
  have hparse : ∀ r, Resource.parse path text = .ok r → Resource.parse other text = .ok r := by
    unfold Resource.parse
    cases Yaml.Document.parse? Definition.read text with
    | none => exact fun r hr => nomatch hr
    | some definition => exact fun r hr => hr
  cases hr : Resource.parse path text with
  | error fault =>
    unfold checkText at h
    rw [hr] at h
    cases h
  | ok r => rw [checkText_of_parse (hparse r hr), ← checkText_of_parse hr, h]

/-- The type model that a successful check reports is the one that is built for the resource it
reports. -/
theorem build_of_checkText (h : checkText path text = .ok c) :
    TypeModel.build c.resource = .ok c.model := by
  cases hparse : Resource.parse path text with
  | error fault =>
    unfold checkText at h
    rw [hparse] at h
    cases h
  | ok r =>
    rw [checkText_of_parse hparse] at h
    cases hbuild : TypeModel.build r with
    | error fault =>
      rw [hbuild] at h
      cases h
    | ok m =>
      rw [hbuild] at h
      obtain rfl := Except.ok.inj h
      exact hbuild

/-- An artifact that is asked for is among the generated files, and the text of its file is the body
of that artifact in the toolset. -/
theorem lookup_generateOnly (m : TypeModel) (r : Resource) (request : Request)
    (h : artifact ∈ artifacts) :
    (generateOnly m r request artifacts).lookup artifact =
      some ((Toolset.of m r request).body artifact) := by
  refine List.lookup_graph (Toolset.of m r request).body (List.mem_filter.mpr ⟨?_, ?_⟩)
  · cases artifact <;> decide
  · simpa using h

section

variable {α β : Type} {work : Work Id α} {next : α → Work Id β}

/-- Work that follows other work goes on with its result, if there is one. -/
theorem run_bind_of_run_ok {a : α} (h : work.run = Except.ok a) :
    (work >>= next).run = (next a).run := by
  rw [ExceptT.run_bind, h]
  rfl

/-- A result that is there already is the result of the work that only hands it on. -/
theorem run_ofExcept_ok (a : α) : (MonadExcept.ofExcept (.ok a : Except Fault α) : Work Id α).run =
    Except.ok a := rfl

/-- Work does not go on after a fault: the fault of the first part is that of the whole. -/
theorem run_bind_of_run_error {fault : Fault} (h : work.run = Except.error fault) :
    (work >>= next).run = Except.error fault := by
  rw [ExceptT.run_bind, h]
  rfl

end

/-- Where the operations are valid and the documentation can be read, generating goes on from what a
check of the same text comes to. -/
theorem Plan.exists_run_generateText (access : FileAccess Id) (plan : Plan)
    (hcrud : Operation.select plan.config.crud = .ok operations)
    (hdoc : (plan.documentation access).run = Except.ok doc) :
    ∃ request : Resource → Request, ∀ path text,
      (plan.generateText access path text).run = (checkText path text).map fun c =>
        ⟨c.resource, request c.resource,
          generateOnly c.model c.resource (request c.resource) plan.wanted⟩ := by
  have hrequest (r : Resource) : ∃ request, plan.config.request r = .ok request :=
    ⟨_, by rw [Config.request, hcrud]; rfl⟩
  choose request hrequest using hrequest
  refine ⟨fun r => { request r with doc := doc }, fun path text => ?_⟩
  unfold generateText checkText
  cases Resource.parse path text with
  | error fault => rfl
  | ok resource =>
    rw [run_bind_of_run_ok (run_ofExcept_ok resource), hrequest,
      run_bind_of_run_ok (run_ofExcept_ok (request resource)), run_bind_of_run_ok hdoc]
    change _ = ((TypeModel.build resource).map fun model => Checked.mk resource model).map _
    cases TypeModel.build resource <;> rfl

/-- Checking a file whose text can be read is checking that text, under the path of the file. -/
theorem run_checkFile (h : (access.textOf path).run = Except.ok text) :
    (checkFile access path).run = checkText path text := by
  unfold checkFile
  rw [run_bind_of_run_ok h]
  cases checkText path text <;> rfl

/-- What is generated from a model that was checked is as the check says, for every request and
every choice of artifacts. -/
theorem Generated.foretold (h : TypeModel.build c.resource = .ok c.model) (request : Request) :
    Foretold plan c
      ⟨c.resource, request, generateOnly c.model c.resource request plan.wanted⟩ := by
  obtain ⟨s, w, hwalk⟩ := TypeModel.ofWalk_of_build h
  have hcount : declarations (Toolset.of c.model c.resource request).typesFile =
      c.structCount + 2 := by
    rw [Toolset.declarations_typesFile, ← (hwalk.forall₂_structs request).length_eq]
    rfl
  refine ⟨rfl, fun htypes => ⟨_, lookup_generateOnly _ _ _ htypes, hcount, fun hr hpackage => ?_⟩⟩
  change declarations (linesOf (fileText (Toolset.of c.model c.resource request).typesFile)) = _
  rw [linesOf_fileText (by simp [typesFile]), flatMap_linesOf (hwalk.oneLine_typesFile hr hpackage),
    Toolset.declarations_append, hcount]
  rfl

/-- Where the operations are valid and the documentation can be read, a check foretells what comes of
generating. -/
theorem Plan.foretells_checkFile (access : FileAccess Id) (plan : Plan) (path : String)
    (hcrud : Operation.select plan.config.crud = .ok operations)
    (hdoc : (plan.documentation access).run = Except.ok doc) :
    plan.Foretells (checkFile access path).run (plan.generateFile access path).run := by
  obtain ⟨request, hgenerate⟩ := exists_run_generateText access plan hcrud hdoc
  cases htext : (access.textOf path).run with
  | error fault =>
    unfold checkFile generateFile
    rw [run_bind_of_run_error htext, run_bind_of_run_error htext]
    exact .fails fault
  | ok text =>
    rw [run_checkFile htext, generateFile, run_bind_of_run_ok htext, hgenerate]
    cases hcheck : checkText path text with
    | error fault => exact .fails fault
    | ok c => exact .succeeds (Generated.foretold (build_of_checkText hcheck) _)

/-! ### A definition that is generated as it is checked, and one that is not -/

/-- Access to files that all have the same text, for runs in which only the text matters and not the
path. -/
def everyFile (text : String) : FileAccess Id where
  read _ := pure (.ok text)
  below _ := pure [.ok ⟨[], .file⟩]

/-- The text of a definition of lamps with one version and an empty schema, the least that can be
generated from. -/
def lampText : String :=
  "kind: CustomResourceDefinition\nspec:\n  names: \x7bkind: Lamp, plural: lamps\x7d\n" ++
  "  versions: [\x7bname: v1, schema: \x7bopenAPIV3Schema: \x7b\x7d\x7d\x7d]"

/-- The definition of lamps with a version that ends its literal, declares a struct and begins a
literal again. -/
def forgedText : String :=
  "kind: CustomResourceDefinition\nspec:\n  names: \x7bkind: Lamp, plural: lamps\x7d\n" ++
  "  versions: [\x7bname: \"v1\\\"\\n)\\ntype _ struct \\x7B\\n\\x7D\\nconst (\\n_ = \\\"\", " ++
  "schema: \x7bopenAPIV3Schema: \x7b\x7d\x7d\x7d]"

/-- The name of a version that ends the constant it is pasted into and declares a struct of its own
behind it. -/
def forgedVersion : String := "v1\"\n)\ntype _ struct \x7b\n\x7d\nconst (\n_ = \""

/-- The definition of lamps passes its check, so that there is something for the check to
foretell. -/
theorem exists_checkText_lampText (path : String) : ∃ c, checkText path lampText = .ok c := by
  obtain ⟨c, hc⟩ : ∃ c, checkText "lamp.yaml" lampText = .ok c :=
    exists_ok_of_isSome (by decide +kernel)
  exact ⟨c, checkText_of_other_path path hc⟩

/-- The definition of lamps is generated, and all that its check says about it holds of the
generated files. -/
theorem Plan.foretells_lampText : ∃ c g,
    (checkFile (everyFile lampText) "lamp.yaml").run = Except.ok c ∧
    (({} : Plan).generateFile (everyFile lampText) "lamp.yaml").run = Except.ok g ∧
    Generated.Foretold {} c g := by
  obtain ⟨c, hc⟩ := exists_checkText_lampText "lamp.yaml"
  have hcheck : (checkFile (everyFile lampText) "lamp.yaml").run = Except.ok c :=
    (run_checkFile rfl).trans hc
  have hforetells := foretells_checkFile (everyFile lampText) {} "lamp.yaml" rfl rfl
  rw [hcheck] at hforetells
  generalize hgenerate : (({} : Plan).generateFile (everyFile lampText) "lamp.yaml").run = result
    at hforetells
  cases hforetells with
  | succeeds h => exact ⟨_, _, hcheck, rfl, h⟩

/-- A reader of the file of the types finds at least the declarations in the lines of the version and
in the first lines of the types of the resource and of lists. -/
theorem le_declarations_typesFile (t : Toolset) :
    declarations (linesOf ("\tVersion = \"" ++ t.resource.storageVersion ++ "\"")) +
      declarations (linesOf ("\tAPIVersion = \"" ++ t.resource.apiVersion ++ "\"")) +
      declarations (linesOf ("type " ++ t.resource.kind ++ " struct \x7b")) +
      declarations (linesOf ("type " ++ t.resource.listKind ++ " struct \x7b")) ≤
    declarations (linesOf (t.body .types)) := by
  change _ ≤ declarations (linesOf (fileText t.typesFile))
  rw [linesOf_fileText (by simp [typesFile]), typesFile, Toolset.constantLines]
  simp only [List.flatMap_append, List.flatMap_cons, Toolset.declarations_append]
  omega

/-- The definition with the forged version can be read and checked like any other. The check counts no
struct, and finds the version as it was written. -/
theorem exists_checkText_forgedText : ∃ c, checkText "lamp.yaml" forgedText = .ok c ∧
    c.structCount = 0 ∧ c.resource.storageVersion = forgedVersion ∧
    c.resource.apiVersion = forgedVersion ∧ c.resource.kind = "Lamp" ∧
    c.resource.listKind = "LampList" := by
  have hfound : ∃ c, checkText "lamp.yaml" forgedText = .ok c ∧ decide (c.structCount = 0 ∧
      c.resource.storageVersion = forgedVersion ∧ c.resource.apiVersion = forgedVersion ∧
      c.resource.kind = "Lamp" ∧ c.resource.listKind = "LampList") = true :=
    exists_ok_of_any (by decide +kernel)
  obtain ⟨c, hcheck, hc⟩ := hfound
  exact ⟨c, hcheck, of_decide_eq_true hc⟩

/-- For the definition with the forged version a check counts no struct, but the file of the types
declares at least two besides those of the resource and of lists. -/
theorem Plan.miscounts_forgedText : ∃ c g text,
    (checkFile (everyFile forgedText) "lamp.yaml").run = Except.ok c ∧
    (({} : Plan).generateFile (everyFile forgedText) "lamp.yaml").run = Except.ok g ∧
    g.code.lookup .types = some text ∧ c.structCount = 0 ∧ 4 ≤ declarations (linesOf text) := by
  obtain ⟨c, hcheck, hcount, hversion, hapiVersion, hkind, hlistKind⟩ := exists_checkText_forgedText
  obtain ⟨request, hrequest⟩ :=
    exists_run_generateText (everyFile forgedText) {} rfl rfl
  have hgenerate := hrequest "lamp.yaml" forgedText
  rw [hcheck] at hgenerate
  have htypes : Artifact.types ∈ ({} : Plan).wanted := by decide
  refine ⟨_, _, _, (run_checkFile rfl).trans hcheck, (run_bind_of_run_ok rfl).trans hgenerate,
    lookup_generateOnly _ _ _ htypes, hcount, ?_⟩
  have hle := le_declarations_typesFile (Toolset.of c.model c.resource (request c.resource))
  have hresource : (Toolset.of c.model c.resource (request c.resource)).resource = c.resource := rfl
  rw [hresource, hversion, hapiVersion, hkind, hlistKind] at hle
  refine le_trans ?_ hle
  have hversions : declarations (linesOf ("\tVersion = \"" ++ forgedVersion ++ "\"")) = 1 := by
    decide +kernel
  have hapiVersions :
      declarations (linesOf ("\tAPIVersion = \"" ++ forgedVersion ++ "\"")) = 1 := by
    decide +kernel
  have hkinds : declarations (linesOf ("type " ++ "Lamp" ++ " struct \x7b")) = 1 := by
    decide +kernel
  have hlistKinds : declarations (linesOf ("type " ++ "LampList" ++ " struct \x7b")) = 1 := by
    decide +kernel
  exact (Nat.add_le_add (Nat.add_le_add (Nat.add_le_add hversions.ge hapiVersions.ge) hkinds.ge)
    hlistKinds.ge)

end CrdToolset
