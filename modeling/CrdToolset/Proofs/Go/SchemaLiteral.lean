import CrdToolset.Proofs.Ascending
import CrdToolset.Proofs.Go.Equations
import CrdToolset.Proofs.TypeGraph.Model
import CrdToolset.Proofs.TypeGraph.Separation

/-!
# The literal of a schema

The literal that checks the desired state is read off the type graph, where properties stand in the
order of the names of their types. It can as well be made from the schema itself, by one recursion
that knows nothing of types. Where the names of properties are plain, the two literals are the same.
-/

namespace CrdToolset.Go.Literal

/-- The JSON type that the literal of a schema names, by the form of the schema. A schema of unknown
form has none. -/
def schemaType (s : Schema) : Option JsonType :=
  match s.form with
  | .primitive =>
    if s.type = "string" then some .string
    else if s.type = "integer" then some .integer
    else if s.type = "number" then some .number
    else some .boolean
  | .object => some .object
  | .map => some .object
  | .array => some .array
  | .unknown => none

/-- The literal of a schema. An object has one entry for each property, and requires the names that
the schema requires among those of its properties; a list has the literal of its elements, which is
empty where the schema does not describe them; a map has the literal of its values where the schema
describes those. -/
def ofSchema (s : Schema) : Literal :=
  let plain : Literal := { type := schemaType s, constraints := s.constraints }
  match s.form with
  | .object =>
    { plain with
      properties := s.sortedProperties.attach.map fun entry => (entry.1.1, ofSchema entry.1.2)
      required := s.sortedRequired.filter (s.properties.map Prod.fst).contains }
  | .array => { plain with items := some (s.items.attach.elim {} fun t => ofSchema t.1) }
  | .map => { plain with additional := s.additionalSchema.attach.map fun t => ofSchema t.1 }
  | _ => plain
termination_by sizeOf s
decreasing_by
  · exact Schema.sizeOf_lt_of_mem_properties (List.mem_mergeSort.mp entry.2)
  · exact Schema.sizeOf_lt_of_items t.2
  · exact Schema.sizeOf_lt_of_additionalSchema t.2

variable {s t : Schema}

/-- The literal of an object schema has its sorted properties, and of the sorted required names
those of properties. -/
theorem ofSchema_of_object (h : s.form = .object) :
    ofSchema s =
      { type := some .object
        constraints := s.constraints
        properties := s.sortedProperties.map fun entry => (entry.1, ofSchema entry.2)
        required := s.sortedRequired.filter (s.properties.map Prod.fst).contains } := by
  rw [ofSchema, schemaType, h]
  dsimp only
  rw [List.map_subtype (g := fun entry => (entry.1, ofSchema entry.2)) (fun _ _ => rfl),
    List.unattach_attach]

/-- The literal of a list schema has that of its items, or the empty literal if nothing is said
about them. -/
theorem ofSchema_of_array (h : s.form = .array) :
    ofSchema s =
      { type := some .array
        constraints := s.constraints
        items := some (s.items.elim {} ofSchema) } := by
  rw [ofSchema, schemaType, h]
  cases s.items <;> simp

/-- The literal of a map schema has that of the schema for the values, if there is one. -/
theorem ofSchema_of_map (h : s.form = .map) :
    ofSchema s =
      { type := some .object
        constraints := s.constraints
        additional := s.additionalSchema.map ofSchema } := by
  rw [ofSchema, schemaType, h]
  cases s.additionalSchema <;> simp

/-- The literal of a scalar schema and of one of unknown form has nothing but its type and its
constraints. -/
theorem ofSchema_of_leaf (h : s.form = .primitive ∨ s.form = .unknown) :
    ofSchema s = { type := schemaType s, constraints := s.constraints } := by
  rw [ofSchema]
  rcases h with h | h <;> rw [h]

/-- The schema that says nothing has the empty literal. It stands for the items of a list about
which nothing is said. -/
theorem ofSchema_empty : ofSchema {} = {} := ofSchema_of_leaf (.inr rfl)

/-- Properties and the names of required ones are in strictly increasing order, at every level. -/
inductive InOrder : Literal → Prop
  | intro {l : Literal} (properties : Ascending (l.properties.map Prod.fst))
      (required : Ascending l.required) (inProperties : ∀ entry ∈ l.properties, InOrder entry.2)
      (inItems : ∀ i, l.items = some i → InOrder i)
      (inAdditional : ∀ v, l.additional = some v → InOrder v) : InOrder l

/-- A literal without properties and required names is in order at every depth if the literals of
its parts are. -/
theorem InOrder.of_parts {l : Literal} (hproperties : l.properties = []) (hrequired : l.required = [])
    (hitems : ∀ i, l.items = some i → InOrder i)
    (hadditional : ∀ v, l.additional = some v → InOrder v) : InOrder l :=
  .intro (by simp [hproperties, Ascending]) (by simp [hrequired, Ascending]) (by simp [hproperties])
    hitems hadditional

/-- The names of the properties of a schema are in strictly increasing order once they are sorted,
if each is named once. -/
theorem ascending_sortedProperties (h : (s.properties.map Prod.fst).Nodup) :
    Ascending (s.sortedProperties.map Prod.fst) :=
  List.pairwise_map.mpr (Keyed.pairwise_lt_sort h)

/-- The literal of a schema that names each property once at every level is in order. -/
theorem inOrder_ofSchema (h : s.KeysDistinct) : (ofSchema s).InOrder := by
  induction h with
  | @intro s here _ _ _ ihproperties ihitems ihadditional =>
    cases hform : s.form with
    | object =>
      rw [ofSchema_of_object hform]
      refine .intro ?_ ((ascending_dropRepeats_mergeSort s.required).filter _) ?_ (by simp) (by simp)
      · simpa [Function.comp_def] using ascending_sortedProperties here
      · intro entry hentry
        obtain ⟨property, hproperty, rfl⟩ := List.mem_map.mp hentry
        exact ihproperties property (List.mem_mergeSort.mp hproperty)
    | array =>
      rw [ofSchema_of_array hform]
      refine .of_parts rfl rfl (fun i hi => ?_) (by simp)
      obtain rfl := Option.some.inj hi
      cases hitems : s.items with
      | none => exact .of_parts rfl rfl (by simp) (by simp)
      | some t => exact ihitems t hitems
    | map =>
      rw [ofSchema_of_map hform]
      refine .of_parts rfl rfl (by simp) fun v hv => ?_
      obtain ⟨t, ht, rfl⟩ := Option.map_eq_some_iff.mp hv
      exact ihadditional t ht
    | primitive =>
      rw [ofSchema_of_leaf (.inl hform)]
      exact .of_parts rfl rfl (by simp) (by simp)
    | unknown =>
      rw [ofSchema_of_leaf (.inr hform)]
      exact .of_parts rfl rfl (by simp) (by simp)

/-! ### The literal of a type that describes a position -/

variable {refers : Position → Nat → Prop} {p : Position} {g : TypeGraph} {place : Nat}

/-- The JSON type that the literal of a type names is that of the schema which the shape of the type
describes. -/
theorem jsonType_eq_schemaType {shape : Shape} (h : shape.Describes refers p) :
    jsonType shape = schemaType p.schema := by
  cases h with
  | @primitive kind form scalar =>
    unfold Schema.primitive? at scalar
    simp only [schemaType, form]
    repeat' split at scalar
    all_goals cases scalar
    all_goals simp_all [jsonType]
  | object form => simp [schemaType, form, jsonType]
  | array form => simp [schemaType, form, jsonType]
  | map form => simp [schemaType, form, jsonType]
  | openMap form => simp [schemaType, form, jsonType]
  | unknown form => simp [schemaType, form, jsonType]

/-- The properties of an object have the same literals in the same order, whether they are taken
from the type or from the schema. -/
theorem sort_properties_eq {edges : List Property}
    (hnames : (edges.map Property.name).Perm (s.properties.map Prod.fst))
    (hliterals : ∀ e ∈ edges, ∀ t, (e.name, t) ∈ s.properties → ofType g e.type = ofSchema t) :
    Keyed.sort (edges.map fun e => (e.name, ofType g e.type)) =
      s.sortedProperties.map fun entry => (entry.1, ofSchema entry.2) := by
  have hrel : List.Forall₂ (fun a c => a.1 = c.1 ∧ a.2 = ofSchema c.2)
      (Keyed.sort (edges.map fun e => (e.name, ofType g e.type))) (Keyed.sort s.properties) := by
    have hkeys : ((edges.map fun e => (e.name, ofType g e.type)).map Prod.fst).Perm
        (s.properties.map Prod.fst) := by simpa [Function.comp_def] using hnames
    refine Keyed.forall₂_sort (R := fun literal t => literal = ofSchema t) hkeys ?_
    intro name literal t hliteral ht
    obtain ⟨e, he, heq⟩ := List.mem_map.mp hliteral
    obtain ⟨rfl, rfl⟩ := Prod.mk.inj heq
    exact hliterals e he t ht
  rw [← List.forall₂_eq_eq_eq, List.forall₂_map_right_iff]
  exact hrel.imp fun _ _ h => Prod.ext h.1 h.2

/-- The required names that a node leads to are those of the schema: the sorted names, each once,
that are names of properties. -/
theorem sort_required_eq {edges : List Property}
    (hnames : (edges.map Property.name).Perm (s.properties.map Prod.fst))
    (hrequired : ∀ e ∈ edges, e.required = true ↔ e.name ∈ s.required) :
    dropRepeats (((edges.filter Property.required).map Property.name).mergeSort fun a b => a ≤ b) =
      s.sortedRequired.filter (s.properties.map Prod.fst).contains := by
  refine (ascending_dropRepeats_mergeSort _).eq_of_mem_iff
    ((ascending_dropRepeats_mergeSort s.required).filter _) fun name => ?_
  rw [mem_dropRepeats_mergeSort, List.mem_filter, Schema.sortedRequired, mem_dropRepeats_mergeSort,
    List.contains_iff_mem, ← hnames.mem_iff]
  simp only [List.mem_map, List.mem_filter]
  constructor
  · rintro ⟨e, ⟨he, hreq⟩, rfl⟩
    exact ⟨(hrequired e he).mp hreq, e, he, rfl⟩
  · rintro ⟨hreq, e, he, rfl⟩
    exact ⟨e, ⟨he, (hrequired e he).mpr hreq⟩, rfl⟩

/-- Where types describe the positions at and below a position, the literal of its type is the
literal of its schema. -/
theorem ofType_eq_ofSchema (hg : g.Backward) (hkeys : p.schema.KeysDistinct)
    (hdescribes : ∀ q ∈ p.postOrder, ∀ i, refers q i →
      ∃ node, g[i]? = some node ∧ node.Describes refers q)
    (hplace : refers p place) : ofType g place = ofSchema p.schema := by
  induction p using Position.postOrder.induct generalizing place with
  | case1 p ih =>
    have hbelow {c : Position} {i : Nat} (hc : c ∈ p.children) (hi : refers c i) :
        ofType g i = ofSchema c.schema := by
      refine ih ⟨c, hc⟩ (Position.everywhere_of_mem_children .nil hkeys hc) (fun q hq => ?_) hi
      refine hdescribes q ?_
      rw [Position.postOrder_eq]
      exact List.mem_append_left _ (List.mem_flatMap.mpr ⟨c, hc, hq⟩)
    obtain ⟨node, hnode, hdesc⟩ := hdescribes p (Position.mem_postOrder_self p) place hplace
    have htype := jsonType_eq_schemaType hdesc.shape
    have hshape := hdesc.shape
    rw [ofType_eq hg hnode, fromNode, hdesc.constraints, htype]
    generalize node.shape = shape at hshape
    cases hshape with
    | primitive form => rw [ofSchema_of_leaf (.inl form)]
    | unknown form => rw [ofSchema_of_leaf (.inr form)]
    | openMap form additional => simp [ofSchema_of_map form, schemaType, form, additional]
    | map form additional target =>
      have hchild := hbelow (by simp [Position.children, form, additional]) target
      simp [ofSchema_of_map form, schemaType, form, additional, hchild, Position.value]
    | array form target =>
      have hchild := hbelow (by simp [Position.children, form]) target
      have hitems : ofSchema (p.schema.items.getD {}) = p.schema.items.elim {} ofSchema := by
        cases p.schema.items with
        | none => exact ofSchema_empty
        | some t => rfl
      simp [ofSchema_of_array form, schemaType, form, hchild, Position.element, hitems]
    | @object edges form names targets required =>
      have hliterals : ∀ e ∈ edges, ∀ t, (e.name, t) ∈ p.schema.properties →
          ofType g e.type = ofSchema t := by
        intro e he t ht
        obtain ⟨u, hu, target⟩ := targets e he
        have hlookup := (Keyed.lookup_eq_some_iff_mem hkeys.here).mpr ht
        obtain rfl : t = u := by
          simpa [hlookup] using (Keyed.lookup_eq_some_iff_mem hkeys.here).mpr hu
        refine hbelow (c := p.property e.name t) ?_ target
        simp only [Position.children, form]
        exact List.mem_map.mpr ⟨_, List.mem_mergeSort.mpr hu, rfl⟩
      rw [ofSchema_of_object form, ← sort_properties_eq names hliterals,
        ← sort_required_eq names required]
      simp [sorted, schemaType, form]

/-! ### The literal of the desired state -/

variable {r : Resource} {w : Walker} {m : TypeModel}

/-- Where the names of properties are plain, what the walker has cached for a position of the schema
describes that position. -/
theorem describes_of_ofWalk (h : TypeModel.OfWalk r s w m) (hkeys : s.KeysDistinct)
    (hplain : s.PlainNames) {q : Position} (hq : q ∈ (Position.root s r.kind "").postOrder) {i : Nat}
    (hi : w.Cached q i) : ∃ node, m.graph[i]? = some node ∧ node.Describes w.Cached q := by
  have hpaths : (Position.root s r.kind "").PathsDistinct :=
    Position.pathsDistinct_of_plainNames hplain
  have hgains := h.visits.gains rfl
    (by simpa using Position.nodup_paths (p := .root s r.kind "") hkeys hpaths) (by simp)
  obtain ⟨k, hk⟩ := List.mem_iff_getElem?.mp hq
  obtain ⟨hcached, node, hnode, hmade⟩ := hgains.made k q (by simpa using hk)
  obtain rfl := Option.some.inj (hi.symm.trans hcached)
  exact ⟨node, by rw [h.graph, hnode], hmade.describes⟩

/-- Where the names of properties are plain, the literal of the desired state is the literal of its
schema. -/
theorem exists_spec_and_literal_eq_ofSchema (hschema : r.schema = some s) (hkeys : s.KeysDistinct)
    (hplain : s.PlainNames) (hform : s.form = .object) (hspec : ("spec", t) ∈ s.properties)
    (h : TypeModel.build r = .ok m) :
    ∃ place, m.spec = some place ∧ ofType m.graph place = ofSchema t ∧ (ofSchema t).InOrder := by
  obtain ⟨s', w, hwalk⟩ := TypeModel.ofWalk_of_build h
  obtain rfl : s = s' := Option.some.inj (hschema.symm.trans hwalk.schema)
  obtain ⟨hroot, _⟩ := List.forall₂_cons.mp (hwalk.visits.cached_places rfl)
  obtain ⟨node, hnode, hdescribes⟩ :=
    describes_of_ofWalk hwalk hkeys hplain (Position.mem_postOrder_self _) hroot
  have hstep : (Position.root s r.kind "").child? (.property "spec") =
      some ((Position.root s r.kind "").property "spec" t) := by
    have hlookup := (Keyed.lookup_eq_some_iff_mem hkeys.here).mpr hspec
    simp [Position.child?, Position.root, hform, hlookup]
  obtain ⟨place, hplace, hcached⟩ := hdescribes.next?_of_child? hkeys.here hstep
  have hchild := Position.mem_children_of_child? hstep
  refine ⟨place, ?_, ?_, inOrder_ofSchema (hkeys.property hspec)⟩
  · rw [hwalk.spec, TypeGraph.part?, hnode]
    exact hplace
  · refine ofType_eq_ofSchema hwalk.backward (hkeys.property hspec) (fun q hq i hi => ?_) hcached
    refine describes_of_ofWalk hwalk hkeys hplain ?_ hi
    rw [Position.postOrder_eq]
    exact List.mem_append_left _ (List.mem_flatMap.mpr ⟨_, hchild, hq⟩)

/-- The literal of the desired state of a cabinet is read off the schema, with a list and a map of
objects in it. -/
theorem literal_cabinetResource : ∃ m, cabinetResource.schema = some (specSchema cabinetSchema) ∧
    (specSchema cabinetSchema).KeysDistinct ∧ (specSchema cabinetSchema).PlainNames ∧
    (specSchema cabinetSchema).form = .object ∧
    ("spec", cabinetSchema) ∈ (specSchema cabinetSchema).properties ∧
    TypeModel.build cabinetResource = .ok m ∧ ∃ place, m.spec = some place ∧
      ofType m.graph place = ofSchema cabinetSchema ∧ (ofSchema cabinetSchema).InOrder := by
  obtain ⟨m, hm⟩ := build_cabinetResource
  have hform : (specSchema cabinetSchema).form = .object := by decide +kernel
  have hspec : ("spec", cabinetSchema) ∈ (specSchema cabinetSchema).properties :=
    List.mem_singleton_self _
  exact ⟨m, rfl, keysDistinct_cabinet, plainNames_cabinet, hform, hspec, hm,
    exists_spec_and_literal_eq_ofSchema rfl keysDistinct_cabinet plainNames_cabinet hform hspec hm⟩

end CrdToolset.Go.Literal
