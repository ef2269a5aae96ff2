import CrdToolset.Proofs.Go.Names
import CrdToolset.Toolset.Basic

/-!
# The types of a toolset are closed

The file of the types declares exactly the structs that are mentioned in it, each of them once, and
none under a name that the resource or the list type has. They stand in the order in which a search
comes upon them that begins at the desired state and goes on at the observed state.
-/

namespace CrdToolset

namespace Toolset

/-- The type expressions in the file of the types: those of the desired and the observed state, and
of the fields of structs. -/
def types (t : Toolset) : List Go.TypeExpr :=
  t.specType.toList ++ t.statusType.toList ++ t.structs.flatMap fun s => s.fields.map Go.Field.type

/-- The names of the structs that the file of the types declares besides those of the resource and
of its list, in their order. -/
def structNames (t : Toolset) : List String := t.structs.map Go.Struct.name

/-- The types of a toolset are closed: what is mentioned is declared, once, and what is declared is
mentioned. No struct takes the name of the resource or of its list. -/
structure Closed (t : Toolset) : Prop where
  /-- Everything mentioned, also in the inputs of tools, is declared once. -/
  declared : ∀ type ∈ t.types ++ t.specInputType.toList, ∀ name ∈ type.names,
    t.structNames.count name = 1
  /-- Every struct is mentioned. -/
  mentioned : ∀ name ∈ t.structNames, ∃ type ∈ t.types, name ∈ type.names
  /-- The names are different from each other. -/
  distinct : t.structNames.Nodup
  /-- No struct has the name of the type of the resource. -/
  kind : t.resource.kind ∉ t.structNames
  /-- No struct has the name of the type of lists. -/
  listKind : t.resource.listKind ∉ t.structNames

/-- The structs are those of the objects that a search finds that goes down from the desired and
then from the observed state, in the order in which it finds them. It takes the fields of an object
in the order of the names of their types. -/
structure InSearchOrder (t : Toolset) (m : TypeModel) : Prop where
  /-- The fields stand in the order of the names of their types. -/
  sorted : ∀ (place : Nat) (node : TypeNode), m.graph[place]? = some node →
    node.properties.Pairwise fun a b => m.graph.nameAt a.type ≤ m.graph.nameAt b.type
  /-- The structs are those of the objects found. -/
  found : ∃ places, List.Forall₂ (fun place s => ∃ node, m.graph[place]? = some node ∧
      s = Go.Struct.ofNode m.graph t.includeComments node) places t.structs ∧
    ∀ found, (∃ seen, m.graph.Traverses (m.spec.toList ++ m.status.toList) [] seen found) ↔
      found = places

end Toolset

variable {r : Resource} {s : Schema} {w : Walker} {m : TypeModel} {place i : Nat}

/-- The type expressions for the desired and for the observed state are those that the graph has at
the places of the two parts. -/
theorem Toolset.partTypes_eq (m : TypeModel) (r : Resource) (request : Request) :
    (Toolset.of m r request).specType.toList ++ (Toolset.of m r request).statusType.toList =
      (m.spec.toList ++ m.status.toList).map (Go.typeExpr m.graph) := by
  change (m.spec.map _).toList ++ (m.status.map _).toList = _
  cases m.spec <;> cases m.status <;> rfl

/-- The inputs of tools have the type of the desired state, or a pointer to it. -/
theorem Toolset.exists_specType_of_specInputType {request : Request} {type : Go.TypeExpr}
    (htype : (Toolset.of m r request).specInputType = some type) :
    ∃ spec, (Toolset.of m r request).specType = some spec ∧ type.names = spec.names := by
  obtain ⟨spec, hspec, rfl⟩ := Option.map_eq_some_iff.mp htype
  refine ⟨spec, hspec, ?_⟩
  split <;> rfl

namespace TypeModel.OfWalk

variable (h : OfWalk r s w m)
include h

/-- Structs are declared for objects of the graph that were made before the root, and so not for the
resource itself. -/
theorem object_of_mem_objectTypes (hi : i ∈ m.objectTypes) :
    i < m.root ∧ ∃ node, m.graph[i]? = some node ∧ node.form = .object := by
  obtain ⟨j, hj, hij⟩ := mem_objectTypes.mp hi
  obtain ⟨hle, hobject⟩ := TypeGraph.object_of_mem_objectsAt h.backward hij
  have hlt : j < m.root := h.lt_root_of_mem_parts hj
  exact ⟨by omega, hobject⟩

/-- There is one struct for each object that the search comes upon, in the same order, and it is
made from the node of that object. -/
theorem forall₂_structs (request : Request) :
    List.Forall₂ (fun place s => ∃ node, m.graph[place]? = some node ∧
      s = Go.Struct.ofNode m.graph request.includeComments node)
      m.objectTypes (Toolset.of m r request).structs := by
  have hall : ∀ i ∈ m.objectTypes, ∃ node, m.graph[i]? = some node := by
    intro i hi
    obtain ⟨_, node, hnode, _⟩ := h.object_of_mem_objectTypes hi
    exact ⟨node, hnode⟩
  change List.Forall₂ _ _ ((m.objectTypes.filterMap m.node?).map _)
  generalize m.objectTypes = places at hall
  induction places with
  | nil => exact .nil
  | cons i places ih =>
    obtain ⟨⟨node, hnode⟩, hall⟩ := List.forall_mem_cons.mp hall
    rw [List.filterMap_cons_some (by exact hnode), List.map_cons]
    exact .cons ⟨node, hnode, rfl⟩ (ih hall)

/-- The names of the structs are the names of the objects that the search comes upon, in the same
order. -/
theorem structNames_eq (request : Request) :
    (Toolset.of m r request).structNames = m.objectTypes.map m.graph.nameAt := by
  have hstructs := h.forall₂_structs request
  unfold Toolset.structNames
  rw [← List.forall₂_eq_eq_eq, List.forall₂_map_left_iff, List.forall₂_map_right_iff]
  refine (hstructs.flip).imp fun s i hs => ?_
  obtain ⟨node, hnode, rfl⟩ := hs
  rw [TypeGraph.nameAt_of_getElem? hnode]
  rfl

/-- The name of a struct is the name of a type that was made before the root, so the walker had
claimed it. -/
theorem exists_of_mem_structNames (request : Request) {name : String}
    (hname : name ∈ (Toolset.of m r request).structNames) :
    ∃ (i : Nat) (node : TypeNode), i < m.root ∧ m.graph[i]? = some node ∧ node.name = name := by
  rw [h.structNames_eq] at hname
  obtain ⟨i, hi, rfl⟩ := List.mem_map.mp hname
  obtain ⟨hlt, node, hnode, _⟩ := h.object_of_mem_objectTypes hi
  exact ⟨i, node, hlt, hnode, (TypeGraph.nameAt_of_getElem? hnode).symm⟩

/-- No struct has the name of the kind, because the walker claims that name for the root first. -/
theorem kind_not_mem_structNames (request : Request) :
    r.kind ∉ (Toolset.of m r request).structNames := by
  intro hmem
  obtain ⟨i, node, hlt, hnode, hname⟩ := h.exists_of_mem_structNames request hmem
  exact h.name_ne_kind hnode hlt hname

/-- No struct has the name of the kind of lists, because that name is claimed before the walk
begins. -/
theorem listKind_not_mem_structNames (request : Request) :
    r.listKind ∉ (Toolset.of m r request).structNames := by
  intro hmem
  obtain ⟨i, node, hlt, hnode, hname⟩ := h.exists_of_mem_structNames request hmem
  exact h.name_ne_listKind hnode hlt hname

/-- Structs are declared under different names, because no two types of the graph have one name. -/
theorem nodup_structNames (request : Request) : (Toolset.of m r request).structNames.Nodup := by
  rw [h.structNames_eq]
  refine m.nodup_objectTypes.map_on fun i hi j hj hname => ?_
  obtain ⟨_, a, ha, _⟩ := h.object_of_mem_objectTypes hi
  obtain ⟨_, b, hb, _⟩ := h.object_of_mem_objectTypes hj
  rw [TypeGraph.nameAt_of_getElem? ha, TypeGraph.nameAt_of_getElem? hb] at hname
  exact TypeGraph.place_eq_of_name_eq h.nodup_names ha hb hname

/-- Every struct that the type of the desired or of the observed state mentions is declared. -/
theorem mem_structNames_of_part (request : Request) {name : String}
    (hplace : place ∈ m.spec.toList ++ m.status.toList)
    (hname : name ∈ (Go.typeExpr m.graph place).names) :
    name ∈ (Toolset.of m r request).structNames := by
  obtain ⟨i, hi, rfl⟩ := Go.exists_of_mem_names h.backward hname
  rw [h.structNames_eq]
  exact List.mem_map_of_mem (mem_objectTypes.mpr ⟨place, hplace, hi⟩)

/-- Every struct that a field of a declared struct mentions is declared, so the declarations lead to
no name outside of them. -/
theorem mem_structNames_of_field (request : Request) {name : String} {struct : Go.Struct}
    {field : Go.Field} (hstruct : struct ∈ (Toolset.of m r request).structs)
    (hfield : field ∈ struct.fields) (hname : name ∈ field.type.names) :
    name ∈ (Toolset.of m r request).structNames := by
  obtain ⟨node, hmem, rfl⟩ := List.mem_map.mp hstruct
  obtain ⟨i, hi, hnode⟩ := List.mem_filterMap.mp hmem
  obtain ⟨p, hp, rfl⟩ := List.mem_map.mp hfield
  have htype : name ∈ (Go.typeExpr m.graph p.type).names := by
    rw [← Go.names_fieldType]
    exact hname
  obtain ⟨j, hj, rfl⟩ := Go.exists_of_mem_names h.backward htype
  obtain ⟨k, hk, hik⟩ := mem_objectTypes.mp hi
  have hself : j ∈ m.graph.objectsAt i :=
    (TypeGraph.mem_objectsAt h.backward hnode).mpr (.inr ⟨p.type, TypeNode.mem_references hp, hj⟩)
  rw [h.structNames_eq]
  refine List.mem_map_of_mem (mem_objectTypes.mpr ⟨k, hk, ?_⟩)
  exact TypeGraph.objectsAt_subset h.backward hik hself

/-- Every struct is mentioned by the type of a part of the resource or by a field. -/
theorem exists_mention (request : Request) {name : String}
    (hname : name ∈ (Toolset.of m r request).structNames) :
    ∃ type ∈ (Toolset.of m r request).types, name ∈ type.names := by
  rw [h.structNames_eq] at hname
  obtain ⟨i, hi, rfl⟩ := List.mem_map.mp hname
  obtain ⟨k, hk, hik⟩ := mem_objectTypes.mp hi
  rcases Go.mem_names_or_exists_field h.backward hik with
    hpart | ⟨j, hj, owner, howner, p, hp, hfield⟩
  · refine ⟨Go.typeExpr m.graph k, List.mem_append_left _ ?_, hpart⟩
    rw [Toolset.partTypes_eq]
    exact List.mem_map_of_mem hk
  · have hj : j ∈ m.objectTypes :=
      mem_objectTypes.mpr ⟨k, hk, hj⟩
    have hstruct : Go.Struct.ofNode m.graph request.includeComments owner ∈
        (Toolset.of m r request).structs :=
      List.mem_map_of_mem (List.mem_filterMap.mpr ⟨j, hj, howner⟩)
    refine ⟨Go.fieldType m.graph p, List.mem_append_right _ ?_, hfield⟩
    refine List.mem_flatMap.mpr ⟨_, hstruct, List.mem_map.mpr ?_⟩
    exact ⟨Go.Field.ofProperty m.graph request.includeComments p, List.mem_map_of_mem hp, rfl⟩

/-- Every name that is mentioned anywhere in the file of the types is the name of a declared
struct. -/
theorem mem_structNames_of_types (request : Request) {type : Go.TypeExpr} {name : String}
    (htype : type ∈ (Toolset.of m r request).types) (hname : name ∈ type.names) :
    name ∈ (Toolset.of m r request).structNames := by
  rcases List.mem_append.mp htype with hpart | hfields
  · rw [Toolset.partTypes_eq] at hpart
    obtain ⟨place, hplace, rfl⟩ := List.mem_map.mp hpart
    exact h.mem_structNames_of_part request hplace hname
  · obtain ⟨struct, hstruct, hmem⟩ := List.mem_flatMap.mp hfields
    obtain ⟨field, hfield, rfl⟩ := List.mem_map.mp hmem
    exact h.mem_structNames_of_field request hstruct hfield hname

end TypeModel.OfWalk

/-- The types of a toolset are closed, and stand in the order in which a search finds them. -/
theorem Toolset.closed_of_build (h : TypeModel.build r = .ok m) (request : Request) :
    (Toolset.of m r request).Closed ∧ (Toolset.of m r request).InSearchOrder m := by
  obtain ⟨s, w, hwalk⟩ := TypeModel.ofWalk_of_build h
  have hnodup := hwalk.nodup_structNames request
  refine ⟨⟨?declared, ?mentioned, hnodup, ?kind, ?listKind⟩, ?sorted, ?found⟩
  case declared =>
    intro type htype name hname
    refine List.count_eq_one_of_mem hnodup ?_
    rcases List.mem_append.mp htype with htype | hinput
    · exact hwalk.mem_structNames_of_types request htype hname
    · obtain ⟨spec, hspec, hmention⟩ := exists_specType_of_specInputType (Option.mem_toList.mp hinput)
      refine hwalk.mem_structNames_of_types request (List.mem_append_left _ ?_) (hmention ▸ hname)
      exact List.mem_append_left _ (Option.mem_toList.mpr hspec)
  case mentioned => exact fun name hname => hwalk.exists_mention request hname
  case kind => exact hwalk.kind_not_mem_structNames request
  case listKind => exact hwalk.listKind_not_mem_structNames request
  case sorted => exact fun place node hnode => hwalk.built.pairwise_properties hnode
  case found =>
    refine ⟨m.objectTypes, hwalk.forall₂_structs request, fun found => ?_⟩
    have hparts : ∀ i ∈ m.spec.toList ++ m.status.toList, i < m.graph.size := by
      intro i hi
      have hlt := hwalk.lt_root_of_mem_parts hi
      have hroot := hwalk.root_lt_size
      omega
    obtain ⟨seen, hseen⟩ := TypeModel.traverses_objectTypes hwalk.backward hparts
    constructor
    · rintro ⟨seen', hseen'⟩
      exact (hseen'.unique hseen).2
    · rintro rfl
      exact ⟨seen, hseen⟩

/-- The types of a toolset for cabinets are closed and stand in the order of the search, whatever
the request is. -/
theorem Toolset.closed_cabinetResource : ∃ m, TypeModel.build cabinetResource = .ok m ∧
    ∀ request, (Toolset.of m cabinetResource request).Closed ∧
      (Toolset.of m cabinetResource request).InSearchOrder m := by
  obtain ⟨m, hm⟩ := build_cabinetResource
  exact ⟨m, hm, Toolset.closed_of_build hm⟩

end CrdToolset
