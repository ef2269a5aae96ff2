import CrdToolset.Proofs.Ascending
import CrdToolset.Proofs.Go.Equations
import CrdToolset.Proofs.TypeGraph.Model
import CrdToolset.Toolset.HandlersFile

/-!
# Go types and literals agree

Generated code decodes a value into a Go type and checks it against a literal. The type expression
and the literal of a type are written by different functions into different files, and nothing but
the graph connects them. They describe the same values at every depth: a struct has a field for each
property of its literal, and its tags leave out what the literal does not require.
-/

namespace CrdToolset

/-- The values of a JSON type go into a scalar type of Go. The width of a number is not seen in its
JSON type, so two integers and two floating-point types share one. -/
inductive Primitive.Holds : Primitive → Go.JsonType → Prop
  | string : Holds .string .string
  | int32 : Holds .int32 .integer
  | int64 : Holds .int64 .integer
  | float32 : Holds .float32 .number
  | float64 : Holds .float64 .number
  | bool : Holds .bool .boolean

/-- The struct is the one that is written for an object of the graph, with comments or without.
Structs that are declared beside these do not come from a schema. -/
def TypeGraph.Declares (g : TypeGraph) (comments : Bool) (s : Go.Struct) : Prop :=
  ∃ (place : Nat) (node : TypeNode), g[place]? = some node ∧ node.form = .object ∧
    s = Go.Struct.ofNode g comments node

namespace Go

/-- The type that a pointer leads to, and any other type itself. Fields that may be absent are
pointers, which is left aside when a field is compared with a literal. -/
def TypeExpr.pointee : TypeExpr → TypeExpr
  | .pointer target => target
  | type => type

/-- A struct and the literal of an object speak of the same properties: there is a field for each
key, and its tag leaves the field out when it is empty unless the key is required. -/
structure Struct.SharesKeys (s : Struct) (l : Literal) : Prop where
  /-- The names in the tags are the keys of the literal. -/
  keys : (s.fields.map fun f => f.tag.key).Perm (l.properties.map Prod.fst)
  /-- Exactly the fields that are not required may be left out. -/
  omitted : ∀ f ∈ s.fields, f.tag.omitEmpty = true ↔ f.tag.key ∉ l.required

/-- A type expression and a literal describe the same values. A map whose values may be anything is
spelled like a map of which nothing else is known; its literal then says that its values are
described by the empty literal. -/
inductive Agrees (declared : Struct → Prop) : TypeExpr → Literal → Prop
  | scalar {p : Primitive} {type : JsonType} {l : Literal} (holds : p.Holds type)
      (type : l.type = some type) (properties : l.properties = []) (items : l.items = none)
      (additional : l.additional = none) : Agrees declared (.primitive p) l
  | slice {element : TypeExpr} {l inner : Literal} (type : l.type = some .array)
      (properties : l.properties = []) (items : l.items = some inner)
      (additional : l.additional = none) (agrees : Agrees declared element inner) :
      Agrees declared (.slice element) l
  | map {value : TypeExpr} {l inner : Literal} (type : l.type = some .object)
      (properties : l.properties = []) (items : l.items = none)
      (additional : l.additional = some inner) (agrees : Agrees declared value inner) :
      Agrees declared (.map value) l
  | openMap {l : Literal} (type : l.type = some .object) (properties : l.properties = [])
      (items : l.items = none) (additional : l.additional = none) : Agrees declared (.map .any) l
  | any {l : Literal} (type : l.type = none) (properties : l.properties = [])
      (items : l.items = none) (additional : l.additional = none) : Agrees declared .any l
  | struct {s : Struct} {l : Literal} (declares : declared s) (type : l.type = some .object)
      (properties : l.properties ≠ []) (items : l.items = none) (additional : l.additional = none)
      (shares : s.SharesKeys l)
      (agrees : ∀ f ∈ s.fields, ∀ entry ∈ l.properties, f.tag.key = entry.1 →
        Agrees declared f.type.pointee entry.2) :
      Agrees declared (.named s.name) l

end Go

variable {g : TypeGraph} {node : TypeNode} {place : Nat}

namespace Go

/-! ### Tags as they stand in code -/

/-- The tag text of a property in full: the name of the property between quotes, and after the name the
option that leaves the field out when it is empty, unless the property is required. -/
theorem text_jsonTag (p : Property) :
    (jsonTag p).text =
      if p.required then "`json:\"" ++ p.name ++ "\"`"
      else "`json:\"" ++ p.name ++ ",omitempty\"`" := by
  unfold jsonTag JsonTag.text
  cases p.required
  · simp [String.append_assoc]
  · simp

/-- The tag text of a field that shares its key with a literal depends on nothing but the key and on
whether the literal requires it. With `Struct.SharesKeys.keys` this fixes the tags of a whole struct up to
their order. -/
theorem Struct.SharesKeys.text_tag {s : Struct} {l : Literal} (h : s.SharesKeys l) {f : Field}
    (hf : f ∈ s.fields) :
    f.tag.text =
      if f.tag.key ∈ l.required then "`json:\"" ++ f.tag.key ++ "\"`"
      else "`json:\"" ++ f.tag.key ++ ",omitempty\"`" := by
  have homitted := h.omitted f hf
  unfold JsonTag.text
  by_cases hrequired : f.tag.key ∈ l.required
  · have hkept : f.tag.omitEmpty = false := by
      simpa using fun homit => homitted.mp homit hrequired
    simp [hrequired, hkept]
  · simp [hrequired, homitted.mpr hrequired, String.append_assoc]

/-! ### The types of a graph -/

/-- The type expression that the graph gives for a type is never a pointer itself; only fields put
one in front of it. -/
theorem pointee_typeExpr (hg : g.Backward) (place : Nat) :
    (typeExpr g place).pointee = typeExpr g place := by
  cases h : g[place]? with
  | none =>
    rw [typeExpr_of_none h]
    rfl
  | some node =>
    rw [typeExpr_eq hg h]
    unfold typeExprFrom
    split <;> rfl

/-- The type of a field is the type expression of the graph, or a pointer to it. -/
theorem pointee_fieldType (hg : g.Backward) (p : Property) :
    (fieldType g p).pointee = typeExpr g p.type := by
  unfold fieldType
  split
  · rfl
  · exact pointee_typeExpr hg p.type

namespace Literal

/-- Sorting a literal puts its properties into another order and leaves them otherwise as they
are. -/
theorem properties_sorted_perm (l : Literal) : l.sorted.properties.Perm l.properties :=
  List.mergeSort_perm ..

/-- Sorting a literal puts its required names into another order and drops repetitions, but keeps
which names are required. -/
theorem mem_required_sorted {l : Literal} {name : String} :
    name ∈ l.sorted.required ↔ name ∈ l.required :=
  mem_dropRepeats_mergeSort

/-- The literal of an object has its properties and the names of its required properties, both
sorted, and nothing about items or further properties. -/
theorem ofType_of_object (hg : g.Backward) (h : g[place]? = some node)
    (hform : node.form = .object) :
    ofType g place = sorted {
      type := some .object
      constraints := node.constraints
      properties := node.properties.map fun p => (p.name, ofType g p.type)
      required := (node.properties.filter Property.required).map Property.name } := by
  rw [ofType_eq hg h, fromNode, TypeNode.shape_eq_object hform]
  rfl

end Literal

/-- The struct of an object and its literal speak of the same properties: both are made from the
fields of one node, and no two fields of it have one name. -/
theorem sharesKeys_ofNode (hback : g.Backward) (hbuilt : g.Built) (h : g[place]? = some node)
    (hform : node.form = .object) (comments : Bool) :
    (Struct.ofNode g comments node).SharesKeys (Literal.ofType g place) := by
  rw [Literal.ofType_of_object hback h hform]
  refine ⟨?_, fun f hf => ?_⟩
  · have hkeys := (Literal.properties_sorted_perm {
      type := some .object
      constraints := node.constraints
      properties := node.properties.map fun p => (p.name, Literal.ofType g p.type)
      required := (node.properties.filter Property.required).map Property.name }).map Prod.fst
    refine List.Perm.trans (.of_eq ?_) hkeys.symm
    simp [Struct.ofNode, Field.ofProperty, jsonTag, Function.comp_def]
  · obtain ⟨p, hp, rfl⟩ := List.mem_map.mp hf
    have hrequired : p.name ∈ (node.properties.filter Property.required).map Property.name ↔
        p.required = true := by
      constructor
      · intro hmem
        obtain ⟨e, he, hname⟩ := List.mem_map.mp hmem
        obtain ⟨he, hreq⟩ := List.mem_filter.mp he
        rw [← hbuilt.required_eq_of_name_eq h he hp hname]
        exact hreq
      · intro hreq
        exact List.mem_map_of_mem (List.mem_filter.mpr ⟨hp, hreq⟩)
    rw [Literal.mem_required_sorted]
    change (!p.required) = true ↔ p.name ∉ _
    rw [hrequired]
    simp

/-- The struct of an object and its literal describe the same values if the types and the literals
of what the object refers to do. -/
theorem agrees_ofNode (hback : g.Backward) (hbuilt : g.Built)
    (hnames : (g.toList.map TypeNode.name).Nodup) (comments : Bool) (h : g[place]? = some node)
    (hform : node.form = .object)
    (hinner : ∀ i ∈ node.references,
      Agrees (g.Declares comments) (typeExpr g i) (Literal.ofType g i)) :
    Agrees (g.Declares comments) (.named node.name) (Literal.ofType g place) := by
  have hshares := sharesKeys_ofNode hback hbuilt h hform comments
  have hdeclares : g.Declares comments (Struct.ofNode g comments node) :=
    ⟨place, node, h, hform, rfl⟩
  rw [Literal.ofType_of_object hback h hform] at hshares ⊢
  refine .struct hdeclares rfl ?_ rfl rfl hshares ?_
  · intro hnil
    have hperm := (hnil ▸ Literal.properties_sorted_perm _).nil_eq
    exact hbuilt.properties_ne_nil h hform (List.map_eq_nil_iff.mp hperm.symm)
  · intro f hf entry hentry hkey
    obtain ⟨p, hp, rfl⟩ := List.mem_map.mp hf
    have hmem := (Literal.properties_sorted_perm _).mem_iff.mp hentry
    obtain ⟨e, he, rfl⟩ := List.mem_map.mp hmem
    have htype : p.type = e.type := hbuilt.type_eq_of_name_eq hnames h hp he hkey
    have hagrees := hinner e.type (TypeNode.mem_references he)
    have hpointee := pointee_fieldType hback p
    rw [← htype] at hagrees ⊢
    change Agrees _ (fieldType g p).pointee _
    rw [hpointee]
    exact hagrees

/-- The type expression and the literal of a type describe the same values. Types refer to types
before them, so the induction is on the place of the type in the graph. -/
theorem agrees_typeExpr_ofType (hback : g.Backward) (hbuilt : g.Built)
    (hnames : (g.toList.map TypeNode.name).Nodup) (comments : Bool) (h : g[place]? = some node) :
    Agrees (g.Declares comments) (typeExpr g place) (Literal.ofType g place) := by
  induction place using Nat.strongRecOn generalizing node with
  | ind place ih =>
    have hinner : ∀ i ∈ node.references,
        Agrees (g.Declares comments) (typeExpr g i) (Literal.ofType g i) := by
      intro i hi
      have hlt : i < place := hback place node h i hi
      have hsize : place < g.size := (Array.getElem?_eq_some_iff.mp h).1
      exact ih i hlt (Array.getElem?_eq_getElem (by omega))
    have htype := typeExpr_eq hback h
    have hliteral := Literal.ofType_eq hback h
    unfold typeExprFrom at htype
    unfold Literal.fromNode at hliteral
    cases hshape : node.shape with
    | primitive p =>
      simp only [hshape, jsonType] at htype hliteral
      rw [htype, hliteral]
      cases p
      · exact .scalar .string rfl rfl rfl rfl
      · exact .scalar .int32 rfl rfl rfl rfl
      · exact .scalar .int64 rfl rfl rfl rfl
      · exact .scalar .float32 rfl rfl rfl rfl
      · exact .scalar .float64 rfl rfl rfl rfl
      · exact .scalar .bool rfl rfl rfl rfl
    | object edges =>
      have hform : node.form = .object := by simp [TypeNode.form, hshape, Shape.form]
      simp only [hshape] at htype
      rw [htype]
      exact agrees_ofNode hback hbuilt hnames comments h hform hinner
    | array element =>
      simp only [hshape, jsonType, Option.getD_some] at htype hliteral
      rw [htype, hliteral]
      exact .slice rfl rfl rfl rfl (hinner element (by simp [TypeNode.references, hshape]))
    | map value =>
      cases value with
      | none =>
        simp only [hshape, jsonType] at htype hliteral
        rw [htype, hliteral]
        exact .openMap rfl rfl rfl rfl
      | some value =>
        simp only [hshape, jsonType, Option.getD_some] at htype hliteral
        rw [htype, hliteral]
        exact .map rfl rfl rfl rfl (hinner value (by simp [TypeNode.references, hshape]))
    | unknown =>
      simp only [hshape, jsonType] at htype hliteral
      rw [htype, hliteral]
      exact .any rfl rfl rfl rfl

end Go

open Go

/-! ### All that is generated from one type model -/

/-- The fields of the input of a tool have the keys of its schema, where the model knows where
instances live. -/
theorem Toolset.keys_inputStruct_perm {m : TypeModel} {r : Resource} (hscope : m.scope = r.scope)
    (request : Request) (operation : Operation) :
    (((Toolset.of m r request).inputStruct (Tool.of m r.kind operation)).fields.map
      fun f => f.tag.key).Perm ((Literal.input m r.kind operation).properties.map Prod.fst) := by
  refine List.Perm.trans (.of_eq ?_) ((Literal.properties_sorted_perm _).map Prod.fst).symm
  have hnamespaced : (Toolset.of m r request).resource.isNamespaced =
      decide (m.scope = .namespaced) := by
    rw [hscope]
    rfl
  cases hspec : m.spec <;> by_cases hm : m.scope = .namespaced <;> cases operation <;>
    simp [Toolset.inputStruct, Tool.of, Literal.textProperty, hnamespaced, hspec, hm]

/-- The Go types and the literals that are generated from a type model describe the same values. -/
structure TypeModel.Agreement (m : TypeModel) (r : Resource) : Prop where
  /-- The type expression and the literal of each type agree, at every depth. -/
  shapes (comments : Bool) (place : Nat) : place < m.graph.size →
    Agrees (m.graph.Declares comments) (typeExpr m.graph place) (Literal.ofType m.graph place)
  /-- The parts of a list are those of the same type. -/
  elements (place : Nat) (node : TypeNode) (element : Nat) :
    m.graph[place]? = some node → node.shape = .array element →
      typeExpr m.graph place = .slice (typeExpr m.graph element) ∧
      (Literal.ofType m.graph place).items = some (Literal.ofType m.graph element)
  /-- The parts of a map are those of the same type. -/
  values (place : Nat) (node : TypeNode) (value : Nat) :
    m.graph[place]? = some node → node.shape = .map (some value) →
      typeExpr m.graph place = .map (typeExpr m.graph value) ∧
      (Literal.ofType m.graph place).additional = some (Literal.ofType m.graph value)
  /-- Nothing is said about the values of a map where nothing is known of them. -/
  openMaps (place : Nat) (node : TypeNode) :
    m.graph[place]? = some node → node.shape = .map none →
      typeExpr m.graph place = .map .any ∧ (Literal.ofType m.graph place).properties = [] ∧
      (Literal.ofType m.graph place).additional = none
  /-- An object is referred to by the name of its struct, which has the keys of its literal. -/
  objects (comments : Bool) (place : Nat) (node : TypeNode) :
    m.graph[place]? = some node → node.form = .object →
      typeExpr m.graph place = .named (Struct.ofNode m.graph comments node).name ∧
      (Struct.ofNode m.graph comments node).SharesKeys (Literal.ofType m.graph place)
  /-- The input of each tool has the keys of its schema. -/
  inputs (request : Request) (operation : Operation) :
    (((Toolset.of m r request).inputStruct (Tool.of m r.kind operation)).fields.map
      fun f => f.tag.key).Perm ((Literal.input m r.kind operation).properties.map Prod.fst)

/-- Of every resource whose types can be built, the generated types and literals agree: at each type
of the graph, in each struct, and in the input of each tool. -/
theorem TypeModel.agreement_of_build {r : Resource} {m : TypeModel} (h : build r = .ok m) :
    m.Agreement r := by
  obtain ⟨s, w, hwalk⟩ := ofWalk_of_build h
  have hback := hwalk.backward
  have hbuilt := hwalk.built
  refine ⟨?_, ?_, ?_, ?_, ?_, Toolset.keys_inputStruct_perm hwalk.scope⟩
  · intro comments place hplace
    exact agrees_typeExpr_ofType hback hbuilt hwalk.nodup_names comments
      (Array.getElem?_eq_getElem hplace)
  · intro place node element hnode hshape
    rw [typeExpr_eq hback hnode, Literal.ofType_eq hback hnode, typeExprFrom, Literal.fromNode,
      hshape]
    exact ⟨rfl, rfl⟩
  · intro place node value hnode hshape
    rw [typeExpr_eq hback hnode, Literal.ofType_eq hback hnode, typeExprFrom, Literal.fromNode,
      hshape]
    exact ⟨rfl, rfl⟩
  · intro place node hnode hshape
    rw [typeExpr_eq hback hnode, Literal.ofType_eq hback hnode, typeExprFrom, Literal.fromNode,
      hshape]
    exact ⟨rfl, rfl, rfl⟩
  · intro comments place node hnode hform
    refine ⟨?_, sharesKeys_ofNode hback hbuilt hnode hform comments⟩
    rw [typeExpr_eq hback hnode, typeExprFrom, TypeNode.shape_eq_object hform]
    rfl

/-- The types of cabinets can be built, and what is generated from them agrees. There are lists,
maps and objects within objects among them. -/
theorem TypeModel.agreement_cabinetResource :
    ∃ m, build cabinetResource = .ok m ∧ m.Agreement cabinetResource := by
  obtain ⟨m, hm⟩ := build_cabinetResource
  exact ⟨m, hm, agreement_of_build hm⟩

end CrdToolset
