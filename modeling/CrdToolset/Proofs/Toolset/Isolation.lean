import CrdToolset.Config
import CrdToolset.Proofs.Schema.Reader
import CrdToolset.Proofs.Toolset.Reordered
import CrdToolset.Proofs.TypeGraph.Parts

/-!
# What a toolset depends on

The texts that are generated for a definition depend on what identifies the resource and on the
schemas of its desired and its observed state. Other versions, other fields of the resource and what
is said about the resource as a whole have no influence on them, though the types of the other fields
are made by the same walker, before and after those of the states.
-/

namespace CrdToolset

/-- The desired and the observed state have matching types, and instances live in the same place. -/
structure TypeModel.Alike (m m' : TypeModel) : Prop where
  /-- The types of the desired states match. -/
  spec : Option.Rel (m.graph.Alike m'.graph) m.spec m'.spec
  /-- The types of the observed states match. -/
  status : Option.Rel (m.graph.Alike m'.graph) m.status m'.status
  /-- Instances live in the same place. -/
  scope : m.scope = m'.scope

/-- The definitions say the same about what identifies the resource, and store a version of the same
name. -/
structure Definition.SameIdentity (d d' : Definition) : Prop where
  /-- The definitions have one name. -/
  name : d.name = d'.name
  /-- The resources are in one group. -/
  group : d.group = d'.group
  /-- They have one kind. -/
  kind : d.kind = d'.kind
  /-- They have one plural. -/
  plural : d.plural = d'.plural
  /-- They have one singular. -/
  singular : d.singular = d'.singular
  /-- They have the same abbreviations. -/
  shortNames : d.shortNames = d'.shortNames
  /-- Their lists have one kind. -/
  listKind : d.listKind = d'.listKind
  /-- Their instances live in the same place. -/
  scope : Scope.ofText d.scope = Scope.ofText d'.scope
  /-- They are stored in versions of one name. -/
  version : d.stored?.map Version.name = d'.stored?.map Version.name

/-- Both schemas are those of objects, and they say the same about the desired and about the observed
state: each of the two properties is missing from both schemas, or has the same schema in both, up to the
order in which properties and the names of required properties are listed in it. -/
structure Schema.SameState (s s' : Schema) : Prop where
  /-- The first is that of an object. -/
  form : s.form = .object
  /-- The second is that of an object. -/
  form' : s'.form = .object
  /-- They say the same about the desired state. -/
  spec : Option.Rel Schema.SameUpToOrder (s.properties.lookup "spec") (s'.properties.lookup "spec")
  /-- They say the same about the observed state. -/
  status :
    Option.Rel Schema.SameUpToOrder (s.properties.lookup "status") (s'.properties.lookup "status")

/-- A function that does not tell related values apart has the same result for related options. -/
theorem map_eq_of_rel {α β γ : Type} {R : α → β → Prop} {f : α → γ} {f' : β → γ} {a : Option α}
    {b : Option β} (h : Option.Rel R a b) (hf : ∀ x y, R x y → f x = f' y) : a.map f = b.map f' := by
  cases h with
  | none => rfl
  | some hxy => exact congrArg some (hf _ _ hxy)

section Models

variable {m m' : TypeModel} (h : m.Alike m') (hg : m.graph.Backward) (hg' : m'.graph.Backward)
include h hg hg'

/-- Type models that are alike have the same tools, because the literals of the desired states are
the same. -/
theorem Tool.of_eq_of_alike (kind : String) : Tool.of m kind = Tool.of m' kind := by
  have hmatches := TypeGraph.matches_alike m.graph m'.graph
  have hliterals : m.spec.toList.map (fun i => ("spec", Go.Literal.ofType m.graph i)) =
      m'.spec.toList.map fun i => ("spec", Go.Literal.ofType m'.graph i) := by
    rw [← Option.toList_map, ← Option.toList_map]
    refine congrArg Option.toList (map_eq_of_rel h.spec fun i j hij => ?_)
    rw [hmatches.literal_eq hg hg' hij]
  funext operation
  have hinput : Go.Literal.input m kind operation = Go.Literal.input m' kind operation := by
    unfold Go.Literal.input
    simp only [h.scope, hliterals]
  unfold Tool.of
  simp only [hinput, Schema.isSome_eq_of_rel h.spec]

variable (hnames : (m.graph.toList.map TypeNode.name).Nodup)
  (hnames' : (m'.graph.toList.map TypeNode.name).Nodup)
include hnames hnames'

/-- Type models that are alike declare the same structs in the same order: the searches for objects
go side by side, and matching nodes have one struct. -/
theorem Go.Struct.map_ofNode_eq_of_alike (comments : Bool) :
    (m.objectTypes.filterMap m.node?).map (Go.Struct.ofNode m.graph comments) =
      (m'.objectTypes.filterMap m'.node?).map (Go.Struct.ofNode m'.graph comments) := by
  have hmatches := TypeGraph.matches_alike m.graph m'.graph
  have hunique := TypeGraph.biUnique_alike hnames hnames'
  have htoList {part part' : Option Nat} (hpart : Option.Rel (m.graph.Alike m'.graph) part part') :
      List.Forall₂ (m.graph.Alike m'.graph) part.toList part'.toList := by
    cases hpart with
    | none => exact .nil
    | some hij => exact .cons hij .nil
  have hobjects : List.Forall₂ (m.graph.Alike m'.graph) m.objectTypes m'.objectTypes := by
    rw [TypeModel.objectTypes_eq, TypeModel.objectTypes_eq]
    refine TypeGraph.forall₂_firstsIn hunique .nil ?_
    exact List.rel_flatMap (List.rel_append (htoList h.spec) (htoList h.status))
      fun _ _ hij => hij.objectsAt hg hg' hunique
  have hnodes : List.Forall₂ (TypeNode.Matches (m.graph.Alike m'.graph))
      (m.objectTypes.filterMap m.node?) (m'.objectTypes.filterMap m'.node?) := by
    refine List.rel_filterMap (fun i j hij => ?_) hobjects
    obtain ⟨node, node', hnode, hnode', hmatch⟩ := hmatches i j hij
    rw [TypeModel.node?, TypeModel.node?, hnode, hnode']
    exact .some hmatch
  rw [← List.forall₂_eq_eq_eq, List.forall₂_map_left_iff, List.forall₂_map_right_iff]
  exact hnodes.imp fun _ _ hmatch => hmatches.ofNode_eq hg hg' hmatch comments

/-- A toolset says the same with either of two type models that are alike. The texts of files are
made of nothing else. -/
theorem Toolset.of_eq_of_alike (r : Resource) (request : Request) :
    Toolset.of m r request = Toolset.of m' r request := by
  have hmatches := TypeGraph.matches_alike m.graph m'.graph
  have htypes {part part' : Option Nat} (hpart : Option.Rel (m.graph.Alike m'.graph) part part') :
      part.map (Go.typeExpr m.graph) = part'.map (Go.typeExpr m'.graph) :=
    map_eq_of_rel hpart fun _ _ hij => hmatches.typeExpr_eq hg hg' hij
  have hpointer : m.spec.any (Toolset.byPointer m.graph) =
      m'.spec.any (Toolset.byPointer m'.graph) := by
    have hmap : m.spec.map (Toolset.byPointer m.graph) =
        m'.spec.map (Toolset.byPointer m'.graph) :=
      map_eq_of_rel h.spec fun i j hij => by simp only [Toolset.byPointer, hmatches.hasForm_eq hij]
    simpa [Option.any_map] using congrArg (Option.any id) hmap
  unfold Toolset.of
  rw [htypes h.spec, htypes h.status, hpointer, Tool.of_eq_of_alike h hg hg',
    Go.Struct.map_ofNode_eq_of_alike h hg hg' hnames hnames']

end Models

/-- Resources of one name whose schemas say the same about the states have type models that are alike.
-/
theorem TypeModel.OfWalk.alike {r r' : Resource} {s s' : Schema} {w w' : Walker} {m m' : TypeModel}
    (h : OfWalk r s w m) (h' : OfWalk r' s' w' m') (hkind : r.kind = r'.kind)
    (hscope : r.scope = r'.scope) (hstate : s.SameState s')
    (hkeys : (s.properties.map Prod.fst).Nodup) (hkeys' : (s'.properties.map Prod.fst).Nodup) :
    m.Alike m' where
  spec := by
    rw [h.spec, h'.spec]
    exact h.rel_part? h' hkind hstate.form hstate.form' hkeys hkeys' (by simp [Schema.PlainName])
      hstate.spec
  status := by
    rw [h.status, h'.status]
    exact h.rel_part? h' hkind hstate.form hstate.form' hkeys hkeys' (by simp [Schema.PlainName])
      hstate.status
  scope := by rw [h.scope, h'.scope, hscope]

/-- Definitions that identify the resource in the same way declare resources that differ in nothing
but their versions and their schemas. -/
theorem Definition.SameIdentity.declared_eq {d d' : Definition} (h : d.SameIdentity d') :
    d'.declared = { d.declared with
      versions := d'.declared.versions
      servedVersions := d'.declared.servedVersions
      schema := d'.declared.schema } := by
  unfold Definition.declared
  simp only [h.name, h.group, h.kind, h.plural, h.singular, h.shortNames, h.listKind, h.scope,
    h.version]

/-- Where definitions identify the resource in the same way and their stored schemas say the same
about the desired and about the observed state, the same texts are generated for them with the same
settings and the same documentation. The schemas of the two states may list properties and required names
in any order. Nothing is asked of the names of other properties but that each stands for one. -/
theorem generate_eq_of_sameState {d d' : Definition} {s s' : Schema} {r r' : Resource}
    {config : Config} {request request' : Request} {m m' : TypeModel}
    (hidentity : d.SameIdentity d') (hs : d.stored?.bind Version.schema = some s)
    (hs' : d'.stored?.bind Version.schema = some s') (hstate : s.SameState s')
    (hkeys : (s.properties.map Prod.fst).Nodup) (hkeys' : (s'.properties.map Prod.fst).Nodup)
    (hr : Resource.ofDefinition d = .ok r) (hr' : Resource.ofDefinition d' = .ok r')
    (hrequest : config.request r = .ok request) (hrequest' : config.request r' = .ok request')
    (hm : TypeModel.build r = .ok m) (hm' : TypeModel.build r' = .ok m') (doc : Option String) :
    generate m r { request with doc } = generate m' r' { request' with doc } := by
  obtain rfl := Resource.eq_declared_of_ofDefinition hr
  obtain rfl := Resource.eq_declared_of_ofDefinition hr'
  obtain ⟨t, w, hwalk⟩ := TypeModel.ofWalk_of_build hm
  obtain ⟨t', w', hwalk'⟩ := TypeModel.ofWalk_of_build hm'
  obtain rfl : s = t := Option.some.inj (hs.symm.trans hwalk.schema)
  obtain rfl : s' = t' := Option.some.inj (hs'.symm.trans hwalk'.schema)
  have halike : m.Alike m' :=
    hwalk.alike hwalk' hidentity.kind hidentity.scope hstate hkeys hkeys'
  have hsame : request = request' := by
    have hpackage : d.declared.packageName = d'.declared.packageName := by
      rw [hidentity.declared_eq]
      rfl
    refine Except.ok.inj ((hrequest.symm.trans ?_).trans hrequest')
    unfold Config.request
    rw [hpackage]
  have hmodels : generate m d.declared { request with doc } =
      generate m' d.declared { request with doc } := by
    unfold generate generateOnly
    rw [Toolset.of_eq_of_alike halike hwalk.backward hwalk'.backward hwalk.nodup_names
      hwalk'.nodup_names]
  rw [hmodels, hidentity.declared_eq, ← hsame]
  exact (generate_with_versions ..).symm

/-- The definition of a resource whose desired state is a cabinet, with one version and no other
fields. -/
def cabinetDefinition : Definition where
  documentKind := "CustomResourceDefinition"
  name := "cabinets.example.com"
  group := "example.com"
  kind := "Cabinet"
  plural := "cabinets"
  versions := [{
    name := "v1"
    served := true
    storage := true
    schema := some (specSchema cabinetSchema) }]

/-- The schema of a cabinet with its required names the other way round, one of them twice. -/
def cabinetSchemaReordered : Schema := { cabinetSchema with required := ["doors", "shelves", "doors"] }

/-- The schema of a resource whose desired state is a cabinet, with a field before it and one behind
it that has the path of the shelves. The cabinet is written in another order than in
`cabinetDefinition`. -/
def crowdedSchema : Schema where
  type := "object"
  properties := [
    ("access", { type := "array" }),
    ("spec", cabinetSchemaReordered),
    ("spec.shelves", { type := "object", additional := some (.schema { type := "string" }) })]
  required := ["access"]
  constraints := { description := "A cabinet and more" }

/-- A definition of the same resource with a version in front of the stored one, with other fields,
and with the scope written out. -/
def crowdedDefinition : Definition where
  documentKind := "CustomResourceDefinition"
  name := "cabinets.example.com"
  group := "example.com"
  kind := "Cabinet"
  plural := "cabinets"
  scope := "Namespaced"
  versions := [
    { name := "v0", served := true },
    { name := "v1", storage := true, schema := some crowdedSchema }]

/-- The two schemas of a cabinet differ in nothing but how they list the required names. -/
theorem reordered_cabinetSchema : cabinetSchema.Reordered cabinetSchemaReordered := by
  have hkeys : cabinetSchema.KeysDistinct := by
    cases keysDistinct_cabinet with
    | intro _ properties => exact properties ("spec", cabinetSchema) (List.mem_singleton_self _)
  exact .of_perm hkeys (.refl _) (by simp [cabinetSchema])

/-- The types of the crowded definition can be built: the field behind the cabinet is answered with
the type of the shelves. -/
theorem build_crowdedDefinition : ∃ m, TypeModel.build crowdedDefinition.declared = .ok m := by
  have hchildren : (Position.root crowdedSchema "Cabinet" "").children =
      crowdedSchema.properties.map fun e =>
        (Position.root crowdedSchema "Cabinet" "").property e.1 e.2 :=
    Position.children_of_pairwise (by decide) (by simp [Position.root, crowdedSchema])
  have hok : (((crowdedSchema.properties.map fun e =>
      (Position.root crowdedSchema "Cabinet" "").property e.1 e.2).mapM
        (Walker.walk maxDepth)).run (Walker.own "Cabinet" "Cabinet"
          (Walker.own "CabinetList" TypeModel.listOwner {}))).1.toOption.isSome = true := by
    decide +kernel
  obtain ⟨places, hplaces⟩ := exists_ok_of_isSome hok
  have hbelow := Walker.visits_iff.mpr (Prod.ext hplaces rfl)
  rw [← hchildren] at hbelow
  have hfree : (Walker.own "CabinetList" TypeModel.listOwner {}).Free "Cabinet" "Cabinet" :=
    Walker.free_of_new (by decide)
  exact TypeModel.exists_build_of_visits (r := crowdedDefinition.declared) rfl
    (.finished (by simp) hfree hbelow .nil)

/-- The same code is generated for cabinets from both definitions, though there are other fields and
versions in one of them and the cabinet is written in another order. -/
theorem generate_eq_crowdedDefinition :
    cabinetDefinition.SameIdentity crowdedDefinition ∧
      (specSchema cabinetSchema).SameState crowdedSchema ∧
      ∃ r r' m m' request, Resource.ofDefinition cabinetDefinition = .ok r ∧
        Resource.ofDefinition crowdedDefinition = .ok r' ∧
        ({} : Config).request r = .ok request ∧ ({} : Config).request r' = .ok request ∧
        TypeModel.build r = .ok m ∧ TypeModel.build r' = .ok m' ∧
        ∀ doc, generate m r { request with doc } = generate m' r' { request with doc } := by
  have hidentity : cabinetDefinition.SameIdentity crowdedDefinition :=
    ⟨rfl, rfl, rfl, rfl, rfl, rfl, rfl, by decide, rfl⟩
  have hstate : (specSchema cabinetSchema).SameState crowdedSchema :=
    ⟨by decide, by decide, .some (.inr reordered_cabinetSchema), .none⟩
  obtain ⟨m, hm⟩ : ∃ m, TypeModel.build cabinetDefinition.declared = .ok m :=
    exists_ok_of_isSome (by decide +kernel)
  obtain ⟨m', hm'⟩ := build_crowdedDefinition
  have hrequest : ({} : Config).request crowdedDefinition.declared =
      ({} : Config).request cabinetDefinition.declared := rfl
  refine ⟨hidentity, hstate, _, _, m, m', _, rfl, rfl, rfl, hrequest, hm, hm', fun doc => ?_⟩
  exact generate_eq_of_sameState hidentity rfl rfl hstate (List.nodup_singleton _)
    (by simp [crowdedSchema]) rfl rfl rfl hrequest hm hm' doc

end CrdToolset
