import CrdToolset.Proofs.TypeGraph.Fields
import CrdToolset.TypeGraph.Model

/-!
# Type models and the walks that make them

A type model that can be built comes from one visit of the stored schema, by a walker that knows
nothing but the owner of the name of the list type. So all that holds after such visits holds of the
types of a resource.
-/

namespace CrdToolset

/-- The place of the type of a field, given by name, of the type at a place. There may be no such
type, or no such field. -/
def TypeGraph.part? (g : TypeGraph) (place : Nat) (name : String) : Option Nat :=
  (g[place]?.bind fun node => node.property? name).map Property.type

namespace TypeModel

/-- The types of a resource are those that a walker made for its schema, after the name of the list
type had been set aside. -/
structure OfWalk (r : Resource) (s : Schema) (w : Walker) (m : TypeModel) : Prop where
  /-- The schema is that of the stored version. -/
  schema : r.schema = some s
  /-- The walker has visited it, after the name of the list type had been set aside. -/
  visits : Walker.Visits (maxDepth + 1) [Position.root s r.kind ""]
    (Walker.own r.listKind listOwner {}) (.ok [m.root]) w
  /-- The types are those that the walker knows. -/
  graph : m.graph = w.graph
  /-- The desired state is a field of the resource. -/
  spec : m.spec = m.graph.part? m.root "spec"
  /-- The observed state is a field of the resource. -/
  status : m.status = m.graph.part? m.root "status"
  /-- Instances live where the resource says. -/
  scope : m.scope = r.scope

variable {r : Resource} {s : Schema} {w : Walker} {m : TypeModel} {name : String} {i : Nat}

/-- The type model of a resource is read off a visit of its schema, or the visit fails as the
building does. -/
theorem exists_visits_and_build_eq (hschema : r.schema = some s) :
    ∃ (result : Except Fault Nat) (w : Walker),
      Walker.Visits (maxDepth + 1) [Position.root s r.kind ""]
        (Walker.own r.listKind listOwner {}) (result.map ([·])) w ∧
      build r = result.map fun place => {
        graph := w.graph
        root := place
        spec := w.graph.part? place "spec"
        status := w.graph.part? place "status"
        listKind := r.listKind
        scope := r.scope } := by
  cases hrun : (Walker.analyze (some s) r.kind "" true).run
      (Walker.own r.listKind listOwner {}) with
  | mk outcome w =>
    obtain ⟨result, rfl, hvisits⟩ := Walker.visits_of_run_analyze hrun
    refine ⟨result, w, hvisits, ?_⟩
    have hfree : Walker.Free r.listKind listOwner {} := by simp [Walker.Free]
    have hwalk : (walkResource r s).run {} = (result.map (⟨"", ·, true⟩), w) :=
      (Walker.run_bind_of_ok (f := fun _ => Walker.analyze (some s) r.kind "" true)
        (Walker.run_claim_of_free hfree)).trans hrun
    unfold build Resource.storageSchema
    rw [hschema]
    dsimp only [bind, Except.bind]
    rw [hwalk]
    cases result <;> rfl

/-- The types of a resource can be built if its schema can be visited from the root by a walker that
has set the name of the list type aside. -/
theorem exists_build_of_visits (hschema : r.schema = some s) {place : Nat}
    (h : Walker.Visits (maxDepth + 1) [Position.root s r.kind ""]
      (Walker.own r.listKind listOwner {}) (.ok [place]) w) : ∃ m, build r = .ok m := by
  obtain ⟨result, w', hvisits, hbuild⟩ := exists_visits_and_build_eq hschema
  obtain ⟨hresult, _⟩ := Prod.mk.inj (hvisits.run_mapM.symm.trans h.run_mapM)
  cases result with
  | error fault => cases hresult
  | ok place => exact ⟨_, hbuild⟩

/-- The types of a resource cannot be built if a visit of its schema fails, and the fault is that of the
visit. -/
theorem build_eq_error_of_visits (hschema : r.schema = some s) {fault : Fault}
    (h : Walker.Visits (maxDepth + 1) [Position.root s r.kind ""]
      (Walker.own r.listKind listOwner {}) (.error fault) w) : build r = .error fault := by
  obtain ⟨result, w', hvisits, hbuild⟩ := exists_visits_and_build_eq hschema
  obtain ⟨hresult, _⟩ := Prod.mk.inj (hvisits.run_mapM.symm.trans h.run_mapM)
  rw [hbuild, map_eq_error_iff]
  exact map_eq_error_iff.mp hresult

/-- Every type model that can be built comes from a walk, so what holds after walks holds of every
model. -/
theorem ofWalk_of_build (h : build r = .ok m) : ∃ s w, OfWalk r s w m := by
  cases hschema : r.schema with
  | none =>
    unfold build Resource.storageSchema at h
    rw [hschema] at h
    cases h
  | some s =>
    obtain ⟨result, w, hvisits, hbuild⟩ := exists_visits_and_build_eq hschema
    rw [hbuild] at h
    cases result with
    | error fault => cases h
    | ok place =>
      obtain rfl := Except.ok.inj h
      exact ⟨s, w, hschema, hvisits, rfl, rfl, rfl, rfl⟩

namespace OfWalk

variable (h : OfWalk r s w m)
include h

/-- The types, the cache and the owners of the walker that made a model agree with each other. -/
theorem sound : w.Sound := h.visits.sound (Walker.sound_empty.own ..)

/-- The types of a model refer to types before them only, so that a pass over the graph is well
founded. -/
theorem backward : m.graph.Backward := by
  rw [h.graph]
  exact h.sound.earlier

/-- Every type of a model was made for a position of the schema, and refers to types of the
positions directly below. -/
theorem built : m.graph.Built := by
  rw [h.graph]
  refine h.visits.built ?_
  intro place node hnode
  simp at hnode

/-- No two types of a model have the same name, so their declarations do not clash. -/
theorem nodup_names : (m.graph.toList.map TypeNode.name).Nodup := by
  rw [h.graph]
  exact h.sound.names

/-- The root of a model has the name of the kind and the form of the schema, as it was made for the
root position. -/
theorem holds_root : m.graph.Holds (Position.root s r.kind "") m.root := by
  rw [h.graph]
  exact (List.forall₂_cons.mp (h.visits.holds rfl)).1

/-- The name of the list type belongs to nothing in the schema. -/
theorem owner_listKind : w.owners.lookup r.listKind = some listOwner :=
  h.visits.extends.owner _ _ (Walker.lookup_own_self (by simp [Walker.Free]))

/-- The name of the resource belongs to the path of the root, so no other type of the schema can
take it. -/
theorem owner_kind : w.owners.lookup r.kind = some r.kind := by
  obtain ⟨node, hnode, hname, _⟩ := h.holds_root
  have hroot : w.Cached (Position.root s r.kind "") m.root :=
    (List.forall₂_cons.mp (h.visits.cached_places rfl)).1
  have howner := h.sound.owned _ m.root node hroot (h.graph ▸ hnode)
  rwa [hname] at howner

/-- Only a resource of the name under which the name of the list type is set aside can have its own
name as that of the list type. -/
theorem kind_eq_listOwner_of_listKind_eq (heq : r.listKind = r.kind) : r.kind = listOwner := by
  have howner := h.owner_listKind
  rw [heq, h.owner_kind] at howner
  exact Option.some.inj howner

/-- A field of the resource has a type before the root, named after the kind and the field. -/
theorem of_part? (hpart : m.graph.part? m.root name = some i) :
    i < m.root ∧ ∃ node, m.graph[i]? = some node ∧ node.name = r.kind ++ Naming.pascal name := by
  obtain ⟨e, he, rfl⟩ := Option.map_eq_some_iff.mp hpart
  obtain ⟨root, hroot, he⟩ := Option.bind_eq_some_iff.mp he
  obtain ⟨node, hnode, hname, _⟩ := h.holds_root
  obtain rfl := Option.some.inj (hroot.symm.trans hnode)
  obtain rfl : e.name = name := by simpa using List.find?_some he
  have hmem : e ∈ root.properties := List.mem_of_find?_eq_some he
  obtain ⟨target, htarget, htargetName⟩ := h.built.exists_target hroot hmem
  have hbefore : e.type < m.root :=
    h.backward m.root root hroot e.type (TypeNode.mem_references hmem)
  refine ⟨hbefore, target, htarget, ?_⟩
  rw [htargetName, hname]
  rfl

/-- The types of the desired and of the observed state were finished before the root and have
earlier places. -/
theorem lt_root_of_mem_parts (hi : i ∈ m.spec.toList ++ m.status.toList) : i < m.root := by
  rcases List.mem_append.mp hi with hspec | hstatus
  · exact (h.of_part? (h.spec ▸ Option.mem_toList.mp hspec)).1
  · exact (h.of_part? (h.status ▸ Option.mem_toList.mp hstatus)).1

/-- The root of a model is a place of its graph, so there is a type at it. -/
theorem root_lt_size : m.root < m.graph.size := by
  obtain ⟨node, hnode, _⟩ := h.holds_root
  exact (Array.getElem?_eq_some_iff.mp hnode).1

/-- No type before the root has the name of the kind. -/
theorem name_ne_kind {node : TypeNode} (hnode : m.graph[i]? = some node) (hlt : i < m.root) :
    node.name ≠ r.kind := by
  intro hname
  obtain ⟨root, hroot, hkind, _⟩ := h.holds_root
  have heq : i = m.root := TypeGraph.place_eq_of_name_eq h.nodup_names hnode hroot
    (hname.trans hkind.symm)
  omega

/-- The name of a type before the root belongs to a path that goes on from the kind by a step. -/
theorem owner_of_lt_root {node : TypeNode} (hnode : m.graph[i]? = some node) (hlt : i < m.root) :
    ∃ (step : Step) (tail : String),
      w.owners.lookup node.name = some (r.kind ++ step.text ++ tail) := by
  rw [h.graph] at hnode
  obtain ⟨path, hpath, _⟩ := h.sound.path_unique i (Array.getElem?_eq_some_iff.mp hnode).1
  have hnew : (Walker.own r.listKind listOwner {}).cache = [] := Walker.own_cache ..
  obtain ⟨c, hc, tail, rfl⟩ := h.visits.path_of_cached_below hnew hpath (by omega)
  obtain ⟨step, hstep⟩ := Position.path_of_mem_children hc
  refine ⟨step, tail, ?_⟩
  rw [h.sound.owned _ i node hpath hnode, hstep]
  rfl

/-- No type before the root has the name of the list type. -/
theorem name_ne_listKind {node : TypeNode} (hnode : m.graph[i]? = some node) (hlt : i < m.root) :
    node.name ≠ r.listKind := by
  intro hname
  obtain ⟨step, tail, howner⟩ := h.owner_of_lt_root hnode hlt
  rw [hname, h.owner_listKind] at howner
  -- A step is written with a character that the owner of the name of the list type does not have.
  obtain ⟨c, hc, hopens⟩ := step.exists_opensStep
  have hmem : c ∈ listOwner.toList := by
    rw [Option.some.inj howner]
    simp [hc]
  have hdot : '.' ∉ listOwner.toList := by decide
  have hbracket : '[' ∉ listOwner.toList := by decide
  have hbrace : '\x7b' ∉ listOwner.toList := by decide
  rcases hopens with rfl | rfl | rfl
  · exact hdot hmem
  · exact hbracket hmem
  · exact hbrace hmem

end OfWalk

end TypeModel

/-! ### A resource whose types can be built -/

/-- The schema of a box, which must have a size. It is the object that the shelves of a cabinet
hold. -/
def boxSchema : Schema where
  type := "object"
  properties := [("size",
    { type := "integer", format := "int64", constraints := { description := "How much fits in" } })]
  required := ["size"]

/-- The schema of shelves: a map from the name of each shelf to the list of boxes on it. -/
def shelvesSchema : Schema where
  type := "object"
  additional := some (.schema { type := "array", items := some boxSchema })

/-- The schema of a cabinet, which must have shelves, and doors of which the schema says nothing
else. -/
def cabinetSchema : Schema where
  type := "object"
  properties := [("shelves", shelvesSchema)]
  required := ["shelves", "doors"]

/-- The schema of a resource that has the given desired state and nothing else. -/
def specSchema (spec : Schema) : Schema where
  type := "object"
  properties := [("spec", spec)]

/-- A resource whose desired state is a cabinet. It is the example for what is said about models
with objects inside lists and maps. -/
def cabinetResource : Resource where
  name := "cabinets.example.com"
  group := "example.com"
  kind := "Cabinet"
  plural := "cabinets"
  singular := "cabinet"
  shortNames := []
  listKind := "CabinetList"
  scope := .namespaced
  versions := ["v1"]
  servedVersions := ["v1"]
  storageVersion := "v1"
  schema := some (specSchema cabinetSchema)

/-- What holds of the schemas of a resource with a cabinet, and of those of sizes and lists of
boxes, holds everywhere in it. -/
theorem everywhere_cabinet {P : Schema → Prop}
    (hleaf : ∀ s : Schema, s.properties = [] → P s) (hbox : P boxSchema)
    (hcabinet : P cabinetSchema) (hroot : P (specSchema cabinetSchema)) :
    (specSchema cabinetSchema).Everywhere P := by
  have hboxes : boxSchema.Everywhere P :=
    .of_property hbox rfl (.of_leaf (hleaf _ rfl) rfl rfl rfl) rfl rfl
  have hshelves : shelvesSchema.Everywhere P := by
    refine .intro (hleaf _ rfl) (by simp [shelvesSchema]) (by simp [shelvesSchema]) fun t ht => ?_
    obtain rfl := Option.some.inj ht
    refine .intro (hleaf _ rfl) (by simp) (fun u hu => ?_) (by simp [Schema.additionalSchema])
    obtain rfl := Option.some.inj hu
    exact hboxes
  have hcabinets : cabinetSchema.Everywhere P := .of_property hcabinet rfl hshelves rfl rfl
  exact .of_property hroot rfl hcabinets rfl rfl

/-- No object in the schema of a cabinet names a property twice, as the theorems about models ask
for. -/
theorem keysDistinct_cabinet : (specSchema cabinetSchema).KeysDistinct :=
  everywhere_cabinet (fun s hs => by simp [hs]) (List.nodup_singleton _) (List.nodup_singleton _)
    (List.nodup_singleton _)

/-- The names of the properties of a cabinet are plain, as the theorems about models ask for. -/
theorem plainNames_cabinet : (specSchema cabinetSchema).PlainNames := by
  refine everywhere_cabinet (fun s hs => by simp [hs]) ?_ ?_ ?_
  all_goals simp [boxSchema, cabinetSchema, specSchema, Schema.PlainName]

/-- The types of a resource with a cabinet can be built, so the theorems about models that can be
built say something of it. -/
theorem build_cabinetResource : ∃ m, TypeModel.build cabinetResource = .ok m :=
  exists_ok_of_isSome (by decide +kernel)

end CrdToolset
