import CrdToolset.Proofs.TypeGraph.Gains

/-!
# The types of a schema

The types that a new walker makes for a schema, read against the schema itself: one type for each
position, in post-order, and each of them says what the schema says at its own position. References
are read as numbers in the list of positions.
-/

namespace CrdToolset

variable {all : List Position} {p q : Position} {refers : Position → Nat → Prop}

/-- A shape says what the schema at a position says, by the form of the schema. The relation tells
for which positions a reference may stand. -/
inductive Shape.Describes (refers : Position → Nat → Prop) (p : Position) : Shape → Prop
  | primitive {kind : Primitive} (form : p.schema.form = .primitive)
      (scalar : p.schema.primitive? = some kind) : Describes refers p (.primitive kind)
  | object {edges : List Property} (form : p.schema.form = .object)
      (names : (edges.map Property.name).Perm (p.schema.properties.map Prod.fst))
      (targets : ∀ e ∈ edges, ∃ t, (e.name, t) ∈ p.schema.properties ∧
        refers (p.property e.name t) e.type)
      (required : ∀ e ∈ edges, e.required = true ↔ e.name ∈ p.schema.required) :
      Describes refers p (.object edges)
  | array {place : Nat} (form : p.schema.form = .array) (target : refers p.element place) :
      Describes refers p (.array place)
  | map {place : Nat} {t : Schema} (form : p.schema.form = .map)
      (additional : p.schema.additionalSchema = some t) (target : refers (p.value t) place) :
      Describes refers p (.map (some place))
  | openMap (form : p.schema.form = .map) (additional : p.schema.additionalSchema = none) :
      Describes refers p (.map none)
  | unknown (form : p.schema.form = .unknown) : Describes refers p .unknown

/-- A type says what the schema at a position says, under the name of the position. -/
structure TypeNode.Describes (refers : Position → Nat → Prop) (p : Position) (node : TypeNode) :
    Prop where
  /-- The type has the name of the position. -/
  name : node.name = p.name
  /-- It is the value of the field that leads to the position. -/
  field : node.field = p.field
  /-- It is made of what the schema describes. -/
  shape : node.shape.Describes refers p
  /-- Single values are constrained as in the schema. -/
  constraints : node.constraints = p.schema.constraints

/-- The position has the given number in a list of positions. So numbers can be read as references
to positions. -/
def Position.StandsAt (all : List Position) (c : Position) (place : Nat) : Prop :=
  all[place]? = some c

namespace Walker

variable {w : Walker} {places : List Nat}

/-- The fields of an object refer to the positions of its properties, and are required as the schema
of the same object says. -/
theorem target_of_mem_fields (hform : p.schema.form = .object)
    (hplaces : List.Forall₂ refers p.children places) {e : Property} (he : e ∈ fields p places) :
    (∃ t, (e.name, t) ∈ p.schema.properties ∧ refers (p.property e.name t) e.type) ∧
      (e.required = true ↔ e.name ∈ p.schema.required) := by
  obtain ⟨c, place, hzip, rfl⟩ := mem_fields_iff.mp he
  have htarget : refers c place := (List.forall₂_iff_zip.mp hplaces).2 hzip
  have hc : c ∈ p.children := (List.of_mem_zip hzip).1
  simp only [Position.children, hform] at hc
  obtain ⟨⟨name, t⟩, ht, rfl⟩ := List.mem_map.mp hc
  exact ⟨⟨t, List.mem_mergeSort.mp ht, htarget⟩, by simp⟩

/-- The type made for a position describes it, whatever the places below stand for. -/
theorem describes_node (hplaces : List.Forall₂ refers p.children places) :
    (p.node places).Describes refers p := by
  refine ⟨rfl, rfl, ?_, rfl⟩
  unfold Position.node shape
  cases hform : p.schema.form with
  | primitive =>
    obtain ⟨kind, hkind⟩ := exists_primitive_of_form hform
    simpa only [hkind, Option.elim_some] using Shape.Describes.primitive hform hkind
  | object =>
    refine .object hform ?_ (fun e he => (target_of_mem_fields hform hplaces he).1)
      (fun e he => (target_of_mem_fields hform hplaces he).2)
    have hfields := map_name_fields_perm hplaces.length_eq.symm
    have hchildren : p.children.map Position.field = p.schema.sortedProperties.map Prod.fst := by
      simp [Position.children, hform, Position.property, Function.comp_def]
    exact hfields.trans (hchildren ▸ Keyed.map_fst_sort_perm p.schema.properties)
  | array =>
    have hchildren : p.children = [p.element] := by simp [Position.children, hform]
    obtain ⟨place, rest, htarget, _, rfl⟩ := List.forall₂_cons_left_iff.mp (hchildren ▸ hplaces)
    exact .array hform htarget
  | map =>
    cases hadditional : p.schema.additionalSchema with
    | none =>
      have hchildren : p.children = [] := by simp [Position.children, hform, hadditional]
      obtain rfl := List.forall₂_nil_left_iff.mp (hchildren ▸ hplaces)
      exact .openMap hform hadditional
    | some t =>
      have hchildren : p.children = [p.value t] := by simp [Position.children, hform, hadditional]
      obtain ⟨place, rest, htarget, _, rfl⟩ := List.forall₂_cons_left_iff.mp (hchildren ▸ hplaces)
      exact .map hform hadditional htarget
  | unknown => exact .unknown hform

/-- Where the types of a list of positions were made by a new walker, a position of the list is
cached at its number. -/
theorem Gains.standsAt_of_cached (h : Gains {} w all) {c : Position} (hc : c ∈ all) {place : Nat}
    (hplace : w.Cached c place) : c.StandsAt all place := by
  obtain ⟨k, hk⟩ := List.mem_iff_getElem?.mp hc
  have hcached := (h.made k c hk).1
  obtain rfl : k = place := by simpa using hcached.symm.trans hplace
  exact hk

/-- The types that a new walker made for a list of positions describe them, if the list contains the
positions directly below each of its positions. -/
theorem Gains.describes (h : Gains {} w all) (hclosed : ∀ q ∈ all, ∀ c ∈ q.children, c ∈ all) :
    List.Forall₂ (TypeNode.Describes (Position.StandsAt all)) all w.graph.toList := by
  have hsize : all.length = w.graph.toList.length := by simp [h.size]
  rw [List.forall₂_iff_get]
  refine ⟨hsize, fun k hk hk' => ?_⟩
  obtain ⟨_, node, hnode, places, rfl, hplaces⟩ := h.made k all[k] (List.getElem?_eq_getElem hk)
  have hget : w.graph.toList[k] = all[k].node places := by
    simpa [List.getElem?_eq_getElem hk', ← Array.getElem?_toList] using hnode
  rw [List.get_eq_getElem, List.get_eq_getElem, hget]
  refine describes_node (List.forall₂_iff_zip.mpr ⟨hplaces.length_eq, ?_⟩)
  intro c place hzip
  have hc : c ∈ all := hclosed _ (List.getElem_mem hk) c (List.of_mem_zip hzip).1
  exact h.standsAt_of_cached hc ((List.forall₂_iff_zip.mp hplaces).2 hzip)

/-- A new walker that analyses a schema makes the types of all its positions in post-order, where a
path identifies a position. -/
theorem gains_of_run_analyze {schema : Schema} {name field : String} {required : Bool}
    {root : Property} (hkeys : schema.KeysDistinct)
    (hpaths : (Position.root schema name field).PathsDistinct)
    (h : (analyze (some schema) name field required).run {} = (.ok root, w)) :
    Gains {} w (Position.root schema name field).postOrder ∧
      ∃ place, root = ⟨field, place, required⟩ ∧
        w.Cached (Position.root schema name field) place := by
  obtain ⟨place, hroot, hvisits⟩ := visits_of_run_analyze_ok h
  have hgains := hvisits.gains rfl
    (by simpa using Position.nodup_paths (p := .root schema name field) hkeys hpaths) (by simp)
  obtain ⟨_, _, hcached, _, hplaces⟩ := List.forall₂_cons_left_iff.mp (hvisits.cached_places rfl)
  obtain ⟨rfl, _⟩ := List.cons.inj hplaces
  exact ⟨by simpa using hgains, place, hroot, hcached⟩

/-- A new walker that analyses a schema makes types that describe its positions in post-order, where
a path identifies a position, and the type of the root is the last. -/
theorem describes_of_pathsDistinct {schema : Schema} {name field : String} {required : Bool}
    {root : Property} (hkeys : schema.KeysDistinct)
    (hpaths : (Position.root schema name field).PathsDistinct)
    (h : (analyze (some schema) name field required).run {} = (.ok root, w)) :
    let all := (Position.root schema name field).postOrder
    List.Forall₂ (TypeNode.Describes (Position.StandsAt all)) all w.graph.toList ∧
      root = ⟨field, all.length - 1, required⟩ := by
  intro all
  obtain ⟨hgains, place, rfl, hplace⟩ := gains_of_run_analyze hkeys hpaths h
  refine ⟨hgains.describes fun _ hq _ hc => Position.mem_postOrder_of_mem_children hq hc, ?_⟩
  have hlast := (hgains.made (all.length - 1) (.root schema name field)
    (by simp [all, Position.postOrder_eq (.root schema name field)])).1
  obtain rfl : place = all.length - 1 := by simpa using hplace.symm.trans hlast
  rfl

/-- A new walker that analyses a schema with plain names makes one type for each position, in
post-order. Each type says what the schema says at its position, and the type of the root is the
last. -/
theorem describes_of_run_analyze {schema : Schema} {name field : String} {required : Bool}
    {root : Property} (hkeys : schema.KeysDistinct) (hplain : schema.PlainNames)
    (h : (analyze (some schema) name field required).run {} = (.ok root, w)) :
    let all := (Position.root schema name field).postOrder
    List.Forall₂ (TypeNode.Describes (Position.StandsAt all)) all w.graph.toList ∧
      root = ⟨field, all.length - 1, required⟩ :=
  describes_of_pathsDistinct hkeys (Position.pathsDistinct_of_plainNames hplain) h

/-- The schema of a line of a log, which is a number with a description. -/
def lineSchema : Schema where
  type := "integer"
  format := "int64"
  constraints := { description := "A line" }

/-- The schema of a log, which is a list of lines. -/
def logSchema : Schema where
  type := "array"
  items := some lineSchema

/-- The schema of an object that must have a log: an object with a list in it, and a number in the
list. -/
def loggedSchema : Schema where
  type := "object"
  properties := [("log", logSchema)]
  required := ["log"]

/-- What holds of the three schemas of an object with a log holds everywhere in it. -/
theorem everywhere_loggedSchema {P : Schema → Prop} (hline : P lineSchema) (hlog : P logSchema)
    (hlogged : P loggedSchema) : loggedSchema.Everywhere P := by
  have hlines : lineSchema.Everywhere P := .of_leaf hline rfl rfl rfl
  have hlogs : logSchema.Everywhere P :=
    .intro hlog (by simp [logSchema]) (by simpa [logSchema] using hlines)
      (by simp [logSchema, Schema.additionalSchema])
  exact .of_property hlogged rfl hlogs rfl rfl

/-- An object with a log names its only property once, as the theorems about analyses ask for. -/
theorem keysDistinct_loggedSchema : loggedSchema.KeysDistinct :=
  everywhere_loggedSchema List.nodup_nil List.nodup_nil (List.nodup_singleton _)

/-- The name of the only property of an object with a log is plain, as the theorems about analyses
ask for. -/
theorem plainNames_loggedSchema : loggedSchema.PlainNames := by
  refine everywhere_loggedSchema (by simp [lineSchema]) (by simp [logSchema]) ?_
  simp [loggedSchema, Schema.PlainName]

/-- The analysis of an object with a log succeeds and makes three types, the last of which is that
of the object. -/
theorem run_analyze_loggedSchema : ∃ w, w.graph.size = 3 ∧
    (analyze (some loggedSchema) "T" "" true).run {} = (.ok ⟨"", 2, true⟩, w) := by
  have hok : ((analyze (some loggedSchema) "T" "" true).run {}).1 = .ok ⟨"", 2, true⟩ :=
    eq_ok_of_toOption (by decide +kernel)
  have hsize : ((analyze (some loggedSchema) "T" "" true).run {}).2.graph.size = 3 := by
    decide +kernel
  exact ⟨_, hsize, Prod.ext hok rfl⟩

/-- The three types of an object with a log: the line, the log and the object. -/
theorem describes_loggedSchema : loggedSchema.KeysDistinct ∧ loggedSchema.PlainNames ∧ ∃ w,
    w.graph.size = 3 ∧ (analyze (some loggedSchema) "T" "" true).run {} = (.ok ⟨"", 2, true⟩, w) ∧
      let all := (Position.root loggedSchema "T" "").postOrder
      List.Forall₂ (TypeNode.Describes (Position.StandsAt all)) all w.graph.toList ∧
        ⟨"", 2, true⟩ = (⟨"", all.length - 1, true⟩ : Property) := by
  obtain ⟨w, hsize, hrun⟩ := run_analyze_loggedSchema
  exact ⟨keysDistinct_loggedSchema, plainNames_loggedSchema, w, hsize, hrun,
    describes_of_run_analyze keysDistinct_loggedSchema plainNames_loggedSchema hrun⟩

end Walker

end CrdToolset
