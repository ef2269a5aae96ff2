import CrdToolset.Proofs.TypeGraph.Reordered
import CrdToolset.Toolset.Artifact

/-!
# Toolsets of a schema written in another order

The order in which a definition lists properties and the names of required properties has no
influence on what is generated: the types are the same, or the fault is, and so is the text of every
file.
-/

namespace CrdToolset

/-- The resources differ only in how the schema lists properties and the names of required
properties. -/
structure Resource.Reordered (r r' : Resource) : Prop where
  /-- The schemas differ in that way only. -/
  schema : Option.Rel Schema.Reordered r.schema r'.schema
  /-- Everything else is the same. -/
  rest : r' = { r with schema := r'.schema }

variable {r r' : Resource}

/-- The walk of a resource takes the same steps for a schema in another order, and ends in the same
state or with the same fault. -/
theorem TypeModel.walkResource_eq_of_reordered {s t : Schema} (h : s.Reordered t) (r : Resource)
    (schema : Option Schema) : walkResource r s = walkResource { r with schema } t := by
  unfold walkResource
  rw [Walker.analyze_eq_of_reordered h]

/-- The types of a resource do not depend on the order in which its schema is written. -/
theorem TypeModel.build_eq_of_reordered (h : r.Reordered r') : build r = build r' := by
  obtain ⟨hschema, hrest⟩ := h
  rw [hrest]
  generalize hs : r.schema = s, r'.schema = s' at hschema
  unfold build Resource.storageSchema
  rw [hs]
  cases hschema with
  | none => rfl
  | @some _ t hst =>
    dsimp only [bind, Except.bind]
    rw [walkResource_eq_of_reordered hst r (some t)]

/-- The files of a toolset say nothing about the versions of the resource but the name of the stored
one, and nothing about the schema but what the types say. -/
theorem Toolset.body_with_versions (t : Toolset) (versions servedVersions : List String)
    (schema : Option Schema) (artifact : Artifact) :
    ({ t with
      resource := { t.resource with versions, servedVersions, schema } } : Toolset).body artifact =
      t.body artifact := by
  cases artifact <;> rfl

/-- The texts of generated files look at the resource but not at its versions or its schema. -/
theorem generate_with_versions (m : TypeModel) (r : Resource) (request : Request)
    (versions servedVersions : List String) (schema : Option Schema) :
    generate m { r with versions, servedVersions, schema } request = generate m r request := by
  unfold generate generateOnly
  refine List.map_congr_left fun artifact _ => ?_
  rw [← Toolset.body_with_versions _ versions servedVersions schema]
  rfl

/-- The texts of generated files look at the resource, but not at the schema that it still
carries. -/
theorem generate_with_schema (m : TypeModel) (r : Resource) (request : Request)
    (schema : Option Schema) :
    generate m { r with schema } request = generate m r request :=
  generate_with_versions m r request r.versions r.servedVersions schema

/-- Resources that differ only in how the schema lists things have the same types, or fail with the
same fault, and the same texts are generated for them. -/
theorem build_and_generate_eq_of_reordered (h : r.Reordered r') :
    TypeModel.build r = TypeModel.build r' ∧
      ∀ (m : TypeModel) (request : Request), generate m r request = generate m r' request := by
  refine ⟨TypeModel.build_eq_of_reordered h, fun m request => ?_⟩
  rw [h.rest]
  exact (generate_with_schema m r request r'.schema).symm

/-- The schema of a volume with two properties, one of which must be given. -/
def volumeSchema : Schema where
  type := "object"
  properties := [
    ("name", { type := "string" }),
    ("bytes", { type := "integer", format := "int64" })]
  required := ["name"]

/-- The same schema with its properties the other way round and the required name listed twice. -/
def volumeSchemaReordered : Schema where
  type := "object"
  properties := [
    ("bytes", { type := "integer", format := "int64" }),
    ("name", { type := "string" })]
  required := ["name", "name"]

/-- A resource whose desired state is a list of volumes, so that the schema of a volume is two
levels below the root. -/
def volumeResource (volume : Schema) : Resource where
  name := "disks.example.com"
  group := "example.com"
  kind := "Disk"
  plural := "disks"
  singular := "disk"
  shortNames := []
  listKind := "DiskList"
  scope := .namespaced
  versions := ["v1"]
  servedVersions := ["v1"]
  storageVersion := "v1"
  schema := some {
    type := "object"
    properties := [("spec", { type := "array", items := some volume })] }

/-- The two schemas of a volume differ in the order of their properties and in how often the
required name is listed. -/
theorem reordered_volumeSchema : volumeSchema.Reordered volumeSchemaReordered := by
  have hleaf (type format : String) : Schema.KeysDistinct { type, format } :=
    .of_leaf .nil rfl rfl rfl
  have hkeys : volumeSchema.KeysDistinct := by
    refine .of_properties (by simp [volumeSchema]) (fun entry hentry => ?_) rfl rfl
    rcases List.mem_pair.mp hentry with rfl | rfl
    · exact hleaf "string" ""
    · exact hleaf "integer" "int64"
  exact .of_perm hkeys (.swap ..) (by simp [volumeSchema])

/-- Resources with related schemas of a volume differ in order only, although the volume lies inside
a list. -/
theorem reordered_volumeResource {s t : Schema} (h : s.Reordered t) :
    (volumeResource s).Reordered (volumeResource t) := by
  have hlist : Schema.Reordered { type := "array", items := some s }
      { type := "array", items := some t } :=
    .intro rfl rfl rfl (.refl _) (by simp) (by simp) (.some h) .none
  refine ⟨.some (.intro rfl rfl rfl (.refl _) ?_ (by simp) .none .none), rfl⟩
  intro name a b ha hb
  obtain ⟨rfl, rfl⟩ := Prod.mk.inj (List.mem_singleton.mp ha)
  obtain ⟨_, rfl⟩ := Prod.mk.inj (List.mem_singleton.mp hb)
  exact hlist

/-- Nothing that is generated for disks depends on how the schema of a volume is written. -/
theorem build_and_generate_eq_volumeResource :
    (volumeResource volumeSchema).Reordered (volumeResource volumeSchemaReordered) ∧
      TypeModel.build (volumeResource volumeSchema) =
        TypeModel.build (volumeResource volumeSchemaReordered) ∧
      ∀ (m : TypeModel) (request : Request), generate m (volumeResource volumeSchema) request =
        generate m (volumeResource volumeSchemaReordered) request :=
  ⟨reordered_volumeResource reordered_volumeSchema,
    build_and_generate_eq_of_reordered (reordered_volumeResource reordered_volumeSchema)⟩

end CrdToolset
