import CrdToolset.Proofs.TypeGraph.Soundness
import CrdToolset.Proofs.TypeGraph.Translation

/-!
# Positions that share a type

The types of a schema are followed from the type of the root, step by step as the address of a
position says. Where a path identifies a position, every position has a type of its own, which says
what the schema says at that position. Where two positions have one path, they can share a type.
-/

namespace CrdToolset

/-- The place that a step leads to from a type, where there is one: a step must fit the shape of the
type. -/
def TypeNode.next? (node : TypeNode) : Step → Option Nat
  | .property name => (node.property? name).map Property.type
  | .element =>
    match node.shape with
    | .array place => some place
    | _ => none
  | .value =>
    match node.shape with
    | .map place => place
    | _ => none

/-- The place that an address leads to from a place in the graph, taking its steps one after the
other. -/
def TypeGraph.follow (g : TypeGraph) (place : Nat) : Address → Option Nat
  | [] => some place
  | s :: rest => (g[place]?.bind fun node => node.next? s).bind fun next => g.follow next rest

/-- Every position at or below the given one has a type of its own, to which its address leads and
which describes it. -/
structure TypeGraph.Separates (g : TypeGraph) (place : Nat) (p : Position) : Prop where
  /-- Different addresses lead to different types. -/
  apart : ∀ a b q r, p.at? a = some q → p.at? b = some r → a ≠ b →
    ∃ i j, g.follow place a = some i ∧ g.follow place b = some j ∧ i ≠ j
  /-- The type that the address of a position leads to describes that position. -/
  own : ∀ a q, p.at? a = some q → ∃ i node, g.follow place a = some i ∧ g[i]? = some node ∧
    node.Describes (Position.StandsAt p.postOrder) q
  /-- Different addresses lead to positions with different names. -/
  names : ∀ a b q r, p.at? a = some q → p.at? b = some r → a ≠ b → q.name ≠ r.name

variable {refers : Position → Nat → Prop} {q c : Position} {node : TypeNode} {s : Step}
  {a : Address} {g : TypeGraph} {i j : Nat}

/-- The path of what a type refers to is known from the path of what it describes. -/
theorem TypeNode.Describes.path_of_next? (h : node.Describes refers q)
    (hs : node.next? s = some j) :
    ∃ c, c.path = q.path ++ s.text ∧ refers c j := by
  have hshape := h.shape
  cases s with
  | property name =>
    obtain ⟨e, he, rfl⟩ := Option.map_eq_some_iff.mp hs
    have hmem : e ∈ node.properties := List.mem_of_find?_eq_some he
    obtain rfl : e.name = name := by simpa using List.find?_some he
    unfold properties at hmem
    cases hnode : node.shape with
    | object edges =>
      rw [hnode] at hshape hmem
      cases hshape with
      | object _ _ targets =>
        obtain ⟨t, _, ht⟩ := targets e hmem
        exact ⟨_, by simp [Position.property, Step.text, String.append_assoc], ht⟩
    | _ => simp [hnode] at hmem
  | element =>
    simp only [next?] at hs
    cases hnode : node.shape with
    | array place =>
      rw [hnode] at hshape hs
      cases hshape with
      | array _ target => exact ⟨_, rfl, Option.some.inj hs ▸ target⟩
    | _ => simp [hnode] at hs
  | value =>
    simp only [next?] at hs
    cases hnode : node.shape with
    | map place =>
      rw [hnode] at hshape hs
      cases hshape with
      | map _ _ target => exact ⟨_, rfl, Option.some.inj hs ▸ target⟩
      | openMap => cases hs
    | _ => simp [hnode] at hs

/-- A type that describes an object has one field for each property of the schema, and each field
refers to the type of its position. -/
theorem TypeNode.Describes.shape_of_object (h : node.Describes refers q)
    (hform : q.schema.form = .object) :
    ∃ edges, node.shape = .object edges ∧
      (edges.map Property.name).Perm (q.schema.properties.map Prod.fst) ∧
      ∀ e ∈ edges, ∃ t, (e.name, t) ∈ q.schema.properties ∧
        refers (q.property e.name t) e.type := by
  have hshape := h.shape
  generalize node.shape = shape at hshape
  cases hshape with
  | object _ names targets => exact ⟨_, rfl, names, targets⟩
  | _ form => simp [form] at hform

/-- A type that describes a list refers to the type of the position of the elements. -/
theorem TypeNode.Describes.shape_of_array (h : node.Describes refers q)
    (hform : q.schema.form = .array) :
    ∃ place, node.shape = .array place ∧ refers q.element place := by
  have hshape := h.shape
  generalize node.shape = shape at hshape
  cases hshape with
  | array _ target => exact ⟨_, rfl, target⟩
  | _ form => simp [form] at hform

/-- The type of a map refers to the type of the values, if the schema describes them. -/
theorem TypeNode.Describes.shape_of_map (h : node.Describes refers q) (hform : q.schema.form = .map)
    {t : Schema} (ht : q.schema.additionalSchema = some t) :
    ∃ place, node.shape = .map (some place) ∧ refers (q.value t) place := by
  have hshape := h.shape
  generalize node.shape = shape at hshape
  cases hshape with
  | map _ additional target =>
    obtain rfl := Option.some.inj (additional.symm.trans ht)
    exact ⟨_, rfl, target⟩
  | openMap _ additional => simp [additional] at ht
  | _ form => simp [form] at hform

/-- Where a type describes a position, every step from the position leads on from the type, to a
place that may stand for the position that the step leads to. -/
theorem TypeNode.Describes.next?_of_child? (h : node.Describes refers q)
    (hkeys : (q.schema.properties.map Prod.fst).Nodup) (hc : q.child? s = some c) :
    ∃ j, node.next? s = some j ∧ refers c j := by
  cases s with
  | property name =>
    simp only [Position.child?, Option.ite_none_right_eq_some, Option.map_eq_some_iff] at hc
    obtain ⟨hform, t, ht, rfl⟩ := hc
    obtain ⟨edges, hnode, hnames, htargets⟩ := h.shape_of_object hform
    have hmem : (name, t) ∈ q.schema.properties := (Keyed.lookup_eq_some_iff_mem hkeys).mp ht
    obtain ⟨edge, hedge, hname⟩ := List.mem_map.mp (hnames.mem_iff.mpr (List.mem_map_of_mem hmem))
    have hsome : (edges.find? fun e => e.name == name).isSome :=
      List.find?_isSome.mpr ⟨edge, hedge, by simpa using hname⟩
    obtain ⟨e, he⟩ := Option.isSome_iff_exists.mp hsome
    obtain rfl : e.name = name := by simpa using List.find?_some he
    obtain ⟨u, hu, htarget⟩ := htargets e (List.mem_of_find?_eq_some he)
    obtain rfl : t = u := by simpa [ht] using (Keyed.lookup_eq_some_iff_mem hkeys).mpr hu
    exact ⟨e.type, by simp [next?, property?, properties, hnode, he], htarget⟩
  | element =>
    simp only [Position.child?, Option.ite_none_right_eq_some, Option.some.injEq] at hc
    obtain ⟨hform, rfl⟩ := hc
    obtain ⟨place, hnode, htarget⟩ := h.shape_of_array hform
    exact ⟨place, by simp [next?, hnode], htarget⟩
  | value =>
    simp only [Position.child?, Option.ite_none_right_eq_some, Option.map_eq_some_iff] at hc
    obtain ⟨hform, t, ht, rfl⟩ := hc
    obtain ⟨place, hnode, htarget⟩ := h.shape_of_map hform ht
    exact ⟨place, by simp [next?, hnode], htarget⟩

/-! ### Following an address -/

section Follow

variable {all : List Position} {p : Position}

/-- Where types describe the positions of a list, a position of the list has its type at its number.
-/
theorem TypeGraph.describes_of_standsAt
    (h : List.Forall₂ (TypeNode.Describes (Position.StandsAt all)) all g.toList)
    (hp : p.StandsAt all i) :
    ∃ node, g[i]? = some node ∧ node.Describes (Position.StandsAt all) p := by
  obtain ⟨hlt, rfl⟩ := List.getElem?_eq_some_iff.mp hp
  have hltNode : i < g.toList.length := h.length_eq ▸ hlt
  have hnode : g[i]? = some g.toList[i] := by
    rw [← Array.getElem?_toList, List.getElem?_eq_getElem hltNode]
  exact ⟨_, hnode, h.get hlt hltNode⟩

/-- Where types describe the positions of a list, an address leads from the type of a position to
the type of the position at the address. -/
theorem TypeGraph.follow_of_at?
    (h : List.Forall₂ (TypeNode.Describes (Position.StandsAt all)) all g.toList)
    (hkeys : p.schema.KeysDistinct) (hp : p.StandsAt all i) (hq : p.at? a = some q) :
    ∃ j, g.follow i a = some j ∧ q.StandsAt all j := by
  induction a generalizing p i with
  | nil =>
    obtain rfl : p = q := by simpa [Position.at?] using hq
    exact ⟨i, rfl, hp⟩
  | cons s rest ih =>
    obtain ⟨c, hc, hq⟩ := Option.bind_eq_some_iff.mp hq
    obtain ⟨node, hnode, hdescribes⟩ := describes_of_standsAt h hp
    obtain ⟨next, hnext, hstands⟩ := hdescribes.next?_of_child? hkeys.here hc
    have hkeysBelow : c.schema.KeysDistinct :=
      Position.everywhere_of_mem_children .nil hkeys (Position.mem_children_of_child? hc)
    obtain ⟨j, hj, hq⟩ := ih hkeysBelow hstands hq
    exact ⟨j, by simp [follow, hnode, hnext, hj], hq⟩

end Follow

namespace Walker

variable {w w' : Walker} {levels : Nat} {ps : List Position} {outcome : Except Fault (List Nat)}

/-- Every path in the cache leads to a type that was made for a position of that path. -/
def Linked (w : Walker) : Prop :=
  ∀ path place, w.cache.lookup path = some place →
    ∃ q node, q.path = path ∧ w.graph[place]? = some node ∧ w.Made q node

/-- Claiming a name keeps every path linked to the type that was made for it. -/
theorem Linked.own (h : w.Linked) (name owner : String) : (w.own name owner).Linked := by
  intro path place hplace
  obtain ⟨q, node, hq, hnode, hmade⟩ := h path place (by simpa using hplace)
  exact ⟨q, node, hq, by simpa using hnode, hmade.extends (extends_own ..)⟩

/-- Adding the type of a position, after the types of those directly below it, links the path of the
position to it. -/
theorem Linked.add (h : w.Linked) {p : Position} {places : List Nat}
    (hnew : w.cache.lookup p.path = none) (hplaces : List.Forall₂ w.Cached p.children places) :
    (w.add p.path (p.node places)).Linked := by
  have hext : w.Extends (w.add p.path (p.node places)) := extends_add hnew _
  intro path place hplace
  rw [lookup_add] at hplace
  split at hplace
  case isTrue hpath =>
    obtain rfl := Option.some.inj hplace
    have hmade : w.Made p (p.node places) := ⟨places, rfl, hplaces⟩
    exact ⟨p, p.node places, hpath.symm, by simp [Walker.add], hmade.extends hext⟩
  case isFalse =>
    obtain ⟨q, node, hq, hnode, hmade⟩ := h path place hplace
    exact ⟨q, node, hq, hext.node _ _ hnode, hmade.extends hext⟩

/-- A visit keeps every path linked to the type that was made for it, however the visit ends. -/
theorem Visits.linked (h : Visits levels ps w outcome w') (hw : w.Linked) : w'.Linked := by
  induction h with
  | nil => exact hw
  | refused => exact hw
  | reused _ _ _ _ _ ih => exact ih hw
  | abandoned _ _ _ ih => exact ih (hw.own _ _)
  | finished fresh _ below _ ihbelow ihafter =>
    have hbelow := ihbelow (hw.own _ _)
    exact ihafter (hbelow.add (below.not_cached_of_own fresh) (below.cached_places rfl))

/-- What a walker made for a position describes the position; references stand for what is cached.
-/
theorem Made.describes (h : w.Made q node) : node.Describes w.Cached q := by
  obtain ⟨places, rfl, hplaces⟩ := h
  exact describes_node hplaces

/-- An address leads to the type that the cache has for the path with the text of the address behind
it. -/
theorem Linked.cached_of_follow (hw : w.Linked) {path : String} (hi : w.cache.lookup path = some i)
    (hj : w.graph.follow i a = some j) : w.cache.lookup (path ++ a.text) = some j := by
  induction a generalizing path i with
  | nil =>
    obtain rfl := Option.some.inj hj
    simpa [Address.text] using hi
  | cons s rest ih =>
    obtain ⟨next, hnext, hrest⟩ := Option.bind_eq_some_iff.mp hj
    obtain ⟨node, hnode, hnext⟩ := Option.bind_eq_some_iff.mp hnext
    obtain ⟨q, made, rfl, hmade, hq⟩ := hw path i hi
    obtain rfl := Option.some.inj (hmade.symm.trans hnode)
    obtain ⟨c, hc, hcached⟩ := hq.describes.path_of_next? hnext
    have hlookup : w.cache.lookup (q.path ++ s.text) = some next := by
      rw [← hc]
      exact hcached
    have htail := ih hlookup hrest
    rwa [String.append_assoc] at htail

variable {schema : Schema} {name field : String} {required : Bool} {root : Property}

/-- Where a path identifies a position, a new walker makes a type of its own for every position of
the schema. -/
theorem separates_of_pathsDistinct (hkeys : schema.KeysDistinct)
    (hpaths : (Position.root schema name field).PathsDistinct)
    (h : (analyze (some schema) name field required).run {} = (.ok root, w)) :
    w.graph.Separates root.type (Position.root schema name field) := by
  obtain ⟨hdescribes, rfl⟩ := describes_of_pathsDistinct hkeys hpaths h
  obtain ⟨result, _, hvisits⟩ := visits_of_run_analyze h
  have hsound : w.Sound := hvisits.sound sound_empty
  have hroot : (Position.root schema name field).StandsAt
      (Position.root schema name field).postOrder
      ((Position.root schema name field).postOrder.length - 1) := by
    simp [Position.StandsAt, Position.postOrder_eq (.root schema name field)]
  have htype {a q} (hq : (Position.root schema name field).at? a = some q) :
      ∃ i node, w.graph.follow ((Position.root schema name field).postOrder.length - 1) a = some i ∧
        q.StandsAt (Position.root schema name field).postOrder i ∧ w.graph[i]? = some node ∧
        node.Describes (Position.StandsAt (Position.root schema name field).postOrder) q := by
    obtain ⟨i, hi, hstands⟩ := TypeGraph.follow_of_at? hdescribes hkeys hroot hq
    obtain ⟨node, hnode, hown⟩ := TypeGraph.describes_of_standsAt hdescribes hstands
    exact ⟨i, node, hi, hstands, hnode, hown⟩
  have hapart {a b q r} (hq : (Position.root schema name field).at? a = some q)
      (hr : (Position.root schema name field).at? b = some r) (hne : a ≠ b) {i j : Nat}
      (hi : q.StandsAt (Position.root schema name field).postOrder i)
      (hj : r.StandsAt (Position.root schema name field).postOrder j) : i ≠ j := by
    rintro rfl
    obtain rfl := Option.some.inj (hi.symm.trans hj)
    exact hne (hpaths a b q q hq hr rfl)
  refine ⟨?apart, ?own, ?names⟩
  case apart =>
    intro a b q r hq hr hne
    obtain ⟨i, _, hi, hqi, _⟩ := htype hq
    obtain ⟨j, _, hj, hrj, _⟩ := htype hr
    exact ⟨i, j, hi, hj, hapart hq hr hne hqi hrj⟩
  case own =>
    intro a q hq
    obtain ⟨i, node, hi, _, hnode, hown⟩ := htype hq
    exact ⟨i, node, hi, hnode, hown⟩
  case names =>
    intro a b q r hq hr hne hname
    obtain ⟨i, node, _, hqi, hnode, hown⟩ := htype hq
    obtain ⟨j, other, _, hrj, hother, hown'⟩ := htype hr
    refine hapart hq hr hne hqi hrj (TypeGraph.place_eq_of_name_eq hsound.names hnode hother ?_)
    rw [hown.name, hown'.name, hname]

/-- A successful analysis gives every position a type of its own exactly where a path identifies a
position. -/
theorem separates_iff_pathsDistinct (hkeys : schema.KeysDistinct)
    (h : (analyze (some schema) name field required).run {} = (.ok root, w)) :
    w.graph.Separates root.type (Position.root schema name field) ↔
      (Position.root schema name field).PathsDistinct := by
  refine ⟨fun hseparates a b q r hq hr hpath => ?_,
    fun hpaths => separates_of_pathsDistinct hkeys hpaths h⟩
  by_contra hne
  -- Both addresses are followed to what the cache has for their one path.
  obtain ⟨i, j, hi, hj, hij⟩ := hseparates.apart a b q r hq hr hne
  obtain ⟨place, rfl, hvisits⟩ := visits_of_run_analyze_ok h
  have hlinked : w.Linked := hvisits.linked (by intro path place hplace; simp at hplace)
  obtain ⟨_, _, hcached, _, hplaces⟩ := List.forall₂_cons_left_iff.mp (hvisits.cached_places rfl)
  obtain ⟨rfl, _⟩ := List.cons.inj hplaces
  have hqi := hlinked.cached_of_follow hcached hi
  have hrj := hlinked.cached_of_follow hcached hj
  rw [← Position.path_of_at? hq, hpath, Position.path_of_at? hr, hrj] at hqi
  exact hij (Option.some.inj hqi).symm

/-- The three positions of an object with a log get three types. Their paths are different, as the
theorem asks for. -/
theorem separates_loggedSchema : loggedSchema.KeysDistinct ∧ ∃ w,
    (analyze (some loggedSchema) "T" "" true).run {} = (.ok ⟨"", 2, true⟩, w) ∧
      w.graph.Separates 2 (Position.root loggedSchema "T" "") := by
  obtain ⟨w, _, hrun⟩ := run_analyze_loggedSchema
  have hpaths : (Position.root loggedSchema "T" "").PathsDistinct :=
    Position.pathsDistinct_of_plainNames plainNames_loggedSchema
  exact ⟨keysDistinct_loggedSchema, w, hrun,
    (separates_iff_pathsDistinct keysDistinct_loggedSchema hrun).mpr hpaths⟩

/-- The schema of an object with a text under the name `bar`. -/
def barSchema : Schema where
  type := "object"
  properties := [("bar", { type := "string" })]

/-- The schema of an object with a text one level down, and with a number whose name has a dot in
it. -/
def dottedSchema : Schema where
  type := "object"
  properties := [("foo", barSchema), ("foo.bar", { type := "integer" })]

/-- No object in the schema names a property twice, so it is only the paths that make two positions
look alike. -/
theorem keysDistinct_dottedSchema : dottedSchema.KeysDistinct := by
  have hleaf (type : String) : Schema.KeysDistinct { type } := .of_leaf .nil rfl rfl rfl
  have hbar : barSchema.KeysDistinct :=
    .of_property (by simp [barSchema]) rfl (hleaf "string") rfl rfl
  refine .of_properties (by simp [dottedSchema]) (fun entry hentry => ?_) rfl rfl
  rcases List.mem_pair.mp hentry with rfl | rfl
  · exact hbar
  · exact hleaf "integer"

/-- The positions directly below the object with the dotted name: the number has the path of the
text. -/
theorem children_dottedSchema : (Position.root dottedSchema "T" "").children =
    [⟨barSchema, "TFoo", "foo", "T.foo"⟩,
      ⟨{ type := "integer" }, "TFooBar", "foo.bar", "T.foo.bar"⟩] := by
  rw [Position.children_of_pairwise (by decide) (by simp [Position.root, dottedSchema])]
  rfl

/-- The only position directly below an object with a text is that of the text, whatever the object
is called. -/
theorem children_barSchema (name path : String) :
    Position.children ⟨barSchema, name, "foo", path⟩ =
      [⟨{ type := "string" }, name ++ "Bar", "bar", path ++ "." ++ "bar"⟩] := by
  have hform : barSchema.form = .object := by decide
  rw [Position.children_of_pairwise hform (by simp [barSchema])]
  rfl

/-- The walker when everything below the object with the dotted name has been finished, but not the
object itself. -/
def dottedBelow : Walker where
  graph := #[
    ⟨"TFooBar", "bar", .primitive .string, {}⟩,
    ⟨"TFoo", "foo", .object [⟨"bar", 0, false⟩], {}⟩]
  cache := [("T.foo", 1), ("T.foo.bar", 0)]
  owners := [("TFooBar", "T.foo.bar"), ("TFoo", "T.foo"), ("T", "T")]

/-- The type of the object one level down has one field, whose type is the text at the first
place. -/
theorem node_barSchema : Position.node ⟨barSchema, "TFoo", "foo", "T.foo"⟩ [0] =
    ⟨"TFoo", "foo", .object [⟨"bar", 0, false⟩], {}⟩ := by
  have hfields : fields ⟨barSchema, "TFoo", "foo", "T.foo"⟩ [0] =
      [("TFooBar", ⟨"bar", 0, false⟩)].map Prod.snd := by
    refine fields_eq_of_perm ?_ (by simp)
    rw [children_barSchema]
    exact .refl _
  rw [node_of_object (by decide), hfields]
  rfl

/-- The walker when the text one level down has been finished. Its path is that of the number still
to come. -/
def dottedText : Walker where
  graph := #[⟨"TFooBar", "bar", .primitive .string, {}⟩]
  cache := [("T.foo.bar", 0)]
  owners := [("TFooBar", "T.foo.bar"), ("TFoo", "T.foo"), ("T", "T")]

/-- The number is answered from the cache, because the text has its path, its name and its form. -/
theorem visits_below_dottedSchema : Visits maxDepth (Position.root dottedSchema "T" "").children
    (own "T" "T" {}) (.ok [1, 0]) dottedBelow := by
  have htext : Visits 63 (Position.children ⟨barSchema, "TFoo", "foo", "T.foo"⟩)
      (own "TFoo" "T.foo" (own "T" "T" {})) (.ok [0]) dottedText := by
    rw [children_barSchema]
    exact .finished_ok (v := own "TFooBar" "T.foo.bar" (own "TFoo" "T.foo" (own "T" "T" {})))
      rfl (free_of_new rfl) .nil rfl .nil
  have hnumber : Visits maxDepth [⟨{ type := "integer" }, "TFooBar", "foo.bar", "T.foo.bar"⟩]
      dottedBelow (.ok [0]) dottedBelow := .reused_ok rfl rfl rfl rfl .nil
  have hdone : dottedText.add "T.foo" (Position.node ⟨barSchema, "TFoo", "foo", "T.foo"⟩ [0]) =
      dottedBelow := by
    rw [node_barSchema]
    rfl
  rw [children_dottedSchema]
  exact .finished_ok rfl (free_of_new rfl) htext rfl (hdone ▸ hnumber)

/-- The type of the object with the dotted name: the number is said to have the type of the text. -/
def dottedNode : TypeNode := ⟨"T", "", .object [⟨"foo", 1, false⟩, ⟨"foo.bar", 0, false⟩], {}⟩

/-- The type of the object with the dotted name is made from the places of its two properties, of
which one is that of the text. -/
theorem node_dottedSchema : (Position.root dottedSchema "T" "").node [1, 0] = dottedNode := by
  have hfields : fields (Position.root dottedSchema "T" "") [1, 0] =
      [("TFoo", ⟨"foo", 1, false⟩), ("TFooBar", ⟨"foo.bar", 0, false⟩)].map Prod.snd := by
    refine fields_eq_of_perm ?_ (by decide)
    rw [children_dottedSchema]
    exact .refl _
  rw [node_of_object (by decide), hfields]
  rfl

/-- A name with a dot in it can lead a number to the type of a text. -/
theorem shared_dottedSchema : dottedSchema.KeysDistinct ∧
    (analyze (some dottedSchema) "T" "" true).run {} =
      (.ok ⟨"", 2, true⟩, dottedBelow.add "T" dottedNode) ∧
    ∃ a b q r, (Position.root dottedSchema "T" "").at? a = some q ∧
      (Position.root dottedSchema "T" "").at? b = some r ∧ a ≠ b ∧
      q.schema.primitive? = some .string ∧ r.schema.primitive? = some .int32 ∧
      (dottedBelow.add "T" dottedNode).graph.follow 2 a = some 0 ∧
      (dottedBelow.add "T" dottedNode).graph.follow 2 b = some 0 ∧
      ¬(dottedBelow.add "T" dottedNode).graph.Separates 2 (Position.root dottedSchema "T" "") := by
  have hvisits : Visits (maxDepth + 1) [Position.root dottedSchema "T" ""] {} (.ok [2])
      (dottedBelow.add "T" ((Position.root dottedSchema "T" "").node [1, 0])) :=
    .finished rfl (free_of_new rfl) visits_below_dottedSchema .nil
  rw [node_dottedSchema] at hvisits
  have hq : (Position.root dottedSchema "T" "").at? [.property "foo", .property "bar"] =
      some ⟨{ type := "string" }, "TFooBar", "bar", "T.foo.bar"⟩ := by rfl
  have hr : (Position.root dottedSchema "T" "").at? [.property "foo.bar"] =
      some ⟨{ type := "integer" }, "TFooBar", "foo.bar", "T.foo.bar"⟩ := by rfl
  have hi : (dottedBelow.add "T" dottedNode).graph.follow 2 [.property "foo", .property "bar"] =
      some 0 := by decide
  have hj : (dottedBelow.add "T" dottedNode).graph.follow 2 [.property "foo.bar"] = some 0 := by decide
  refine ⟨keysDistinct_dottedSchema, run_analyze_of_visits hvisits, _, _, _, _, hq, hr, by simp,
    by decide, by decide, hi, hj, ?_⟩
  intro hseparates
  exact hseparates.names _ _ _ _ hq hr (by simp) rfl

end Walker

end CrdToolset
