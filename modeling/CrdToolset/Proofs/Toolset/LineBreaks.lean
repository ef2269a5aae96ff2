import CrdToolset.Proofs.Go.Wrapping
import CrdToolset.Proofs.Toolset.Closed
import CrdToolset.Proofs.Toolset.Lines
import CrdToolset.Proofs.TypeGraph.Origin
import CrdToolset.Toolset.TypesFile
import Mathlib.Data.List.Infix

/-!
# Line breaks in generated code

The names that a definition gives are put into generated code as they are. As long as none of them has
a line break in it, every line of the file of the types is a single line: the names that are made from
them have none, and comments are filled with words.
-/

namespace CrdToolset

/-- Nothing that a definition names has a line break in it, as far as the file of the types mentions
it. -/
structure Resource.OnOneLine (r : Resource) : Prop where
  group : OneLine r.group
  kind : OneLine r.kind
  plural : OneLine r.plural
  listKind : OneLine r.listKind
  storageVersion : OneLine r.storageVersion
  /-- At every level of the schema, the names of the properties. -/
  properties : ∀ s, r.schema = some s →
    s.Everywhere fun t => ∀ entry ∈ t.properties, OneLine entry.1

variable {r : Resource} {s : Schema} {w : Walker} {m : TypeModel} {request : Request}
  {p q c : Position} {node : TypeNode} {line text : String}

/-! ### Names of types -/

/-- The name for the elements of a list has no line break, if the name of the list has none. -/
theorem OneLine.itemName (h : OneLine text) : OneLine (itemName text) := by
  have hitem : OneLine "Item" := by decide
  unfold CrdToolset.itemName
  dsimp only
  split
  case isTrue =>
    refine oneLine_append.mpr ⟨fun hmem => h ?_, hitem⟩
    rw [String.toList_ofList] at hmem
    exact List.mem_of_mem_dropLast hmem
  case isFalse => exact oneLine_append.mpr ⟨h, hitem⟩

namespace Position

/-- The names directly below a position have no line break, if its name has none. -/
theorem oneLine_of_mem_children (hp : OneLine p.name) (hc : c ∈ p.children) : OneLine c.name := by
  unfold children at hc
  split at hc
  case h_1 =>
    obtain ⟨entry, _, rfl⟩ := List.mem_map.mp hc
    exact oneLine_append.mpr ⟨hp, oneLine_pascal entry.1⟩
  case h_2 =>
    obtain rfl := List.mem_singleton.mp hc
    exact hp.itemName
  case h_3 =>
    obtain ⟨_, _, rfl⟩ := List.mem_map.mp hc
    exact oneLine_append.mpr ⟨hp, by decide⟩
  case h_4 => cases hc

/-- The names at and below a position have no line break, if its name has none. -/
theorem oneLine_of_mem_postOrder (hp : OneLine p.name) (hq : q ∈ p.postOrder) : OneLine q.name :=
  postOrder_induction hp (fun _ hd _ hc => oneLine_of_mem_children hd hc) hq

/-- The fields of a type for a position are named after properties of the schema. -/
theorem exists_of_mem_properties_node {places : List Nat} {e : Property}
    (he : e ∈ (p.node places).properties) : ∃ t, (e.name, t) ∈ p.schema.properties := by
  unfold TypeNode.properties node Walker.shape at he
  cases hform : p.schema.form <;> simp only [hform] at he
  case primitive => cases hkind : p.schema.primitive? <;> simp [hkind] at he
  case object =>
    obtain ⟨c, place, hzip, rfl⟩ := Walker.mem_fields_iff.mp he
    have hc : c ∈ p.children := (List.of_mem_zip hzip).1
    unfold children at hc
    rw [hform] at hc
    obtain ⟨⟨name, t⟩, ht, rfl⟩ := List.mem_map.mp hc
    exact ⟨t, List.mem_mergeSort.mp ht⟩
  case array => cases places <;> simp at he
  case map => simp at he
  case unknown => simp at he

end Position

/-- A type expression has no line break in it, if the names of the structs that it mentions have
none. -/
theorem Go.TypeExpr.oneLine_text {e : TypeExpr} (h : ∀ name ∈ e.names, OneLine name) :
    OneLine e.text := by
  induction e with
  | primitive p => cases p <;> decide
  | named name => exact h name List.mem_cons_self
  | slice element ih => exact oneLine_append.mpr ⟨by decide, ih h⟩
  | map value ih => exact oneLine_append.mpr ⟨by decide, ih h⟩
  | pointer target ih => exact oneLine_append.mpr ⟨by decide, ih h⟩
  | any => decide

namespace TypeModel.OfWalk

variable (h : OfWalk r s w m)
include h

/-- Every type of the graph was made for a position of the schema, from the places of the types
below it. -/
theorem exists_node {i : Nat} (hnode : m.graph[i]? = some node) :
    ∃ q ∈ (Position.root s r.kind "").postOrder, ∃ places, node = q.node places := by
  rw [h.graph] at hnode
  rcases h.visits.node_origin hnode with hold | ⟨p, hp, hq⟩
  · simp at hold
  · obtain rfl := List.mem_singleton.mp hp
    exact hq

/-- The names of types have no line break in them, if the kind has none: the rest of them is made by
capitalising. -/
theorem oneLine_name (hkind : OneLine r.kind) {i : Nat} (hnode : m.graph[i]? = some node) :
    OneLine node.name := by
  obtain ⟨q, hq, places, rfl⟩ := h.exists_node hnode
  exact Position.oneLine_of_mem_postOrder hkind hq

/-- The names of the properties that a node leads to have no line break in them, if those in the
schema have none. -/
theorem oneLine_field (hr : r.OnOneLine) {i : Nat} (hnode : m.graph[i]? = some node) :
    ∀ e ∈ node.properties, OneLine e.name := by
  intro e he
  obtain ⟨q, hq, places, rfl⟩ := h.exists_node hnode
  obtain ⟨t, ht⟩ := Position.exists_of_mem_properties_node he
  have hschema : (Position.root s r.kind "").schema.Everywhere
      fun t => ∀ entry ∈ t.properties, OneLine entry.1 := hr.properties s h.schema
  exact (Position.everywhere_of_mem_postOrder (by simp) hschema hq).here _ ht

/-- The type expressions of a type model have no line break in them, if the kind has none. -/
theorem oneLine_typeExpr (hkind : OneLine r.kind) (place : Nat) :
    OneLine (Go.typeExpr m.graph place).text := by
  refine Go.TypeExpr.oneLine_text fun name hname => ?_
  obtain ⟨i, _, rfl⟩ := Go.exists_of_mem_names h.backward hname
  cases hnode : m.graph[i]? with
  | none => simp [TypeGraph.nameAt, hnode, OneLine]
  | some node =>
    rw [TypeGraph.nameAt_of_getElem? hnode]
    exact h.oneLine_name hkind hnode

/-- The type of a field has no line break in it, if the kind has none, whether it is a pointer or
not. -/
theorem oneLine_fieldType (hkind : OneLine r.kind) (e : Property) :
    OneLine (Go.fieldType m.graph e).text := by
  unfold Go.fieldType
  split
  · exact oneLine_append.mpr ⟨by decide, h.oneLine_typeExpr hkind e.type⟩
  · exact h.oneLine_typeExpr hkind e.type

end TypeModel.OfWalk

/-! ### Comments -/

namespace Go

/-- A comment line has no line break in it, whatever the text is, because it is made of words and
spaces. -/
theorem oneLine_of_mem_comment {width : Nat} (h : line ∈ comment width text) : OneLine line := by
  intro hbreak
  have hspace : '\n' = ' ' := eq_space_of_mem_comment h hbreak (by decide)
  exact absurd hspace (by decide)

end Go

/-! ### The file of the types -/

/-- A field has its comment and itself on single lines, if its name, type and key have no line
break. -/
theorem Go.oneLine_of_mem_field {f : Go.Field} (hcomment : ∀ line ∈ f.comment, OneLine line)
    (hname : OneLine f.name) (htype : OneLine f.type.text) (hkey : OneLine f.tag.key) :
    ∀ line ∈ f.lines, OneLine line := by
  have htag : OneLine f.tag.text := by
    unfold Go.JsonTag.text
    split <;> simp only [oneLine_append, hkey] <;> decide
  intro line hline
  rcases List.mem_append.mp hline with hline | hline
  · obtain ⟨text, htext, rfl⟩ := List.mem_map.mp hline
    exact oneLine_append.mpr ⟨by decide, hcomment text htext⟩
  · obtain rfl := List.mem_singleton.mp hline
    simp only [oneLine_append, hname, htype, htag]
    decide

/-- The lines of a struct are single lines, if its name and the names of its fields, with their types
and keys, have no line break. -/
theorem TypeModel.OfWalk.oneLine_struct (h : OfWalk r s w m) (hr : r.OnOneLine) {i : Nat}
    (hnode : m.graph[i]? = some node) (comments : Bool) :
    ∀ line ∈ (Go.Struct.ofNode m.graph comments node).lines, OneLine line := by
  have hname := h.oneLine_name hr.kind hnode
  have hcomment : ∀ line ∈ (Go.Struct.ofNode m.graph comments node).comment, OneLine line := by
    intro line hline
    obtain ⟨width, text, hcomment⟩ := Go.exists_mem_comment_of_struct hline
    exact Go.oneLine_of_mem_comment hcomment
  have hfields : ∀ line ∈ (Go.Struct.ofNode m.graph comments node).fields.flatMap Go.Field.lines,
      OneLine line := by
    intro line hline
    obtain ⟨f, hf, hline⟩ := List.mem_flatMap.mp hline
    obtain ⟨e, he, rfl⟩ := List.mem_map.mp hf
    have htexts : ∀ text ∈ (Go.Field.ofProperty m.graph comments e).comment, OneLine text := by
      intro line hline
      obtain ⟨width, text, hcomment⟩ := Go.exists_mem_comment_of_field hline
      exact Go.oneLine_of_mem_comment hcomment
    exact Go.oneLine_of_mem_field htexts (oneLine_pascal e.name) (h.oneLine_fieldType hr.kind e)
      (h.oneLine_field hr hnode e he) line hline
  have hfirst : ∀ line ∈ ["type " ++ (Go.Struct.ofNode m.graph comments node).name ++ " struct \x7b"],
      OneLine line := by
    intro line hline
    obtain rfl := List.mem_singleton.mp hline
    have hstruct : OneLine (Go.Struct.ofNode m.graph comments node).name := hname
    simp only [oneLine_append, hstruct]
    decide
  have hends : ∀ line ∈ ["", "\x7d"], OneLine line := by decide
  obtain ⟨hempty, hlast⟩ := List.forall_mem_cons.mp hends
  unfold Go.Struct.lines
  simp only [List.forall_mem_append]
  exact ⟨⟨⟨⟨by simpa using hempty, hcomment⟩, hfirst⟩, hfields⟩, hlast⟩

namespace Toolset

/-- The package and the imports are on single lines, if their names have no line break. -/
theorem oneLine_header (t : Toolset) (imports : List String) (hpackage : OneLine t.package)
    (himports : ∀ text ∈ imports, OneLine text) : ∀ line ∈ t.header imports, OneLine line := by
  have hlines : ∀ line ∈ imports.map ("\t" ++ ·), OneLine line := by
    intro line hline
    obtain ⟨text, htext, rfl⟩ := List.mem_map.mp hline
    exact oneLine_append.mpr ⟨by decide, himports text htext⟩
  simp only [header, List.forall_mem_append, List.forall_mem_cons, oneLine_append]
  exact ⟨⟨⟨⟨by decide, hpackage⟩, by decide⟩, hlines⟩, by decide⟩

/-- The lines with the constants have no line break in them, if the texts that identify the resource
have none. -/
theorem oneLine_constantLines (hr : r.OnOneLine) : ∀ line ∈ constantLines r, OneLine line := by
  have hversion : OneLine r.apiVersion := by
    unfold Resource.apiVersion
    split
    · exact hr.storageVersion
    · simp only [oneLine_append, hr.group, hr.storageVersion]
      decide
  have hscope : OneLine r.scope.name := by cases r.scope <;> decide
  simp only [constantLines, List.forall_mem_cons, oneLine_append, hr.group, hr.kind, hr.plural,
    hr.storageVersion, hversion, hscope]
  decide +kernel

/-- The copying method of a type is on single lines, if the name of the type has no line break. -/
theorem oneLine_copyMethod {type : String} (htype : OneLine type) :
    ∀ line ∈ copyMethod type, OneLine line := by
  simp only [copyMethod, List.forall_mem_cons, oneLine_append, htype]
  decide +kernel

end Toolset

/-- The lines of the file of the types are single lines, if the resource and the name of the package
have no line break. -/
theorem TypeModel.OfWalk.oneLine_typesFile (h : OfWalk r s w m) (hr : r.OnOneLine)
    (hpackage : OneLine request.packageName) :
    ∀ line ∈ (Toolset.of m r request).typesFile, OneLine line := by
  have hstructs : ∀ line ∈ (Toolset.of m r request).structs.flatMap Go.Struct.lines,
      OneLine line := by
    intro line hline
    obtain ⟨struct, hstruct, hline⟩ := List.mem_flatMap.mp hline
    obtain ⟨node, hnode, rfl⟩ := List.mem_map.mp hstruct
    obtain ⟨i, _, hnode⟩ := List.mem_filterMap.mp hnode
    exact h.oneLine_struct hr hnode _ line hline
  have hspec : ∀ line ∈ (Toolset.of m r request).specType.toList.flatMap fun type =>
      ["", "\tSpec " ++ type.text ++ " `json:\"spec,omitempty\"`"], OneLine line := by
    intro line hline
    obtain ⟨type, htype, hline⟩ := List.mem_flatMap.mp hline
    obtain ⟨place, _, rfl⟩ := Option.map_eq_some_iff.mp (Option.mem_toList.mp htype)
    have htext := h.oneLine_typeExpr hr.kind place
    rcases List.mem_pair.mp hline with rfl | rfl
    · decide
    · simp only [oneLine_append, htext]
      decide
  have hstatus : ∀ line ∈ (Toolset.of m r request).statusType.toList.map fun type =>
      "\tStatus " ++ type.text ++ " `json:\"status,omitempty\"`", OneLine line := by
    intro line hline
    obtain ⟨type, htype, rfl⟩ := List.mem_map.mp hline
    obtain ⟨place, _, rfl⟩ := Option.map_eq_some_iff.mp (Option.mem_toList.mp htype)
    simp only [oneLine_append, h.oneLine_typeExpr hr.kind place]
    decide
  have hkind : OneLine (Toolset.of m r request).resource.kind := hr.kind
  have hlistKind : OneLine (Toolset.of m r request).resource.listKind := hr.listKind
  have hplural : OneLine (Toolset.of m r request).resource.plural := hr.plural
  have hconstants : ∀ line ∈ Toolset.constantLines (Toolset.of m r request).resource, OneLine line :=
    Toolset.oneLine_constantLines hr
  have himports : ∀ text ∈ (Toolset.of m r request).imports.types, OneLine text := by
    change ∀ text ∈ ["\"encoding/json\"", _, _], OneLine text
    decide +kernel
  have hheader := Toolset.oneLine_header (Toolset.of m r request) _ hpackage himports
  unfold Toolset.typesFile
  simp only [List.forall_mem_append, List.forall_mem_cons, oneLine_append, hkind, hlistKind, hplural]
  exact ⟨⟨⟨⟨⟨⟨⟨⟨⟨⟨⟨hheader, by decide⟩, hconstants⟩, by decide +kernel⟩, hspec⟩, hstatus⟩,
    by decide +kernel⟩, Toolset.oneLine_copyMethod hkind⟩, by decide⟩,
    Toolset.oneLine_copyMethod hlistKind⟩, by decide +kernel⟩, hstructs⟩

end CrdToolset
