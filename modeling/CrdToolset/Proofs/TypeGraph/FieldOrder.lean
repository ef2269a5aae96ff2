import CrdToolset.Go.Struct
import CrdToolset.Proofs.Text.ByteOrder
import CrdToolset.Proofs.TypeGraph.Calls
import CrdToolset.Proofs.TypeGraph.Fields
import CrdToolset.Proofs.TypeGraph.Origin
import CrdToolset.Proofs.TypeGraph.Separation
import CrdToolset.TypeGraph.Model

/-!
# The order of the fields of a struct

The fields of an object are kept in the order of the names of their types. Such a name is that of the
object with that of the field behind it, and different fields of an object have different types, also
where one of them was answered from the cache. So the names of the fields of a struct are in strictly
increasing order, whatever a walker was asked to do before.
-/

namespace CrdToolset

variable {g : TypeGraph} {p q : Position} {node : TypeNode} {e e' : Property} {place : Nat}

/-! ### Fields that are named once -/

/-- The first members of the pairs that are made of two lists are some of the first list. -/
theorem map_fst_zip_sublist {α β : Type} (l : List α) (k : List β) :
    ((l.zip k).map Prod.fst).Sublist l := by
  induction l generalizing k with
  | nil => exact .slnil
  | cons a l ih =>
    cases k with
    | nil => exact List.nil_sublist _
    | cons b k => exact (ih k).cons_cons a

/-- The fields of an object have different names, if the properties of its schema have. Putting them
into order does not repeat any. -/
theorem Walker.nodup_names_fields (hform : p.schema.form = .object)
    (hkeys : (p.schema.properties.map Prod.fst).Nodup) (places : List Nat) :
    ((fields p places).map Property.name).Nodup := by
  have hperm : ((fields p places).map Property.name).Perm
      (((p.children.zip places).map Prod.fst).map Position.field) := by
    unfold fields
    refine (((List.mergeSort_perm ..).map Prod.snd).map Property.name).trans (.of_eq ?_)
    simp only [List.map_map]
    rfl
  have hchildren : p.children.map Position.field = p.schema.sortedProperties.map Prod.fst := by
    simp [Position.children, hform, Position.property, Function.comp_def]
  have hnodup : (p.children.map Position.field).Nodup := by
    rw [hchildren]
    exact (Keyed.map_fst_sort_perm p.schema.properties).nodup_iff.mpr hkeys
  exact hperm.nodup_iff.mpr (hnodup.sublist ((map_fst_zip_sublist ..).map _))

/-- Where the properties of a schema have different names, so have the fields of its type. -/
theorem Position.nodup_names_node (hkeys : (p.schema.properties.map Prod.fst).Nodup)
    (places : List Nat) : ((p.node places).properties.map Property.name).Nodup := by
  unfold TypeNode.properties node Walker.shape
  cases hform : p.schema.form with
  | primitive => cases p.schema.primitive? <;> exact List.nodup_nil
  | object => exact Walker.nodup_names_fields hform hkeys places
  | array => cases places <;> exact List.nodup_nil
  | map => exact List.nodup_nil
  | unknown => exact List.nodup_nil

/-- Every object of a graph names each of its fields once. -/
def TypeGraph.FieldsDistinct (g : TypeGraph) : Prop :=
  ∀ (place : Nat) (node : TypeNode), g[place]? = some node →
    (node.properties.map Property.name).Nodup

namespace Walker

variable {w w' : Walker} {levels : Nat} {ps : List Position} {outcome : Except Fault (List Nat)}

/-- A visit keeps the names of fields distinct within each object, if the schemas that it visits
name each of their properties once. -/
theorem Visits.fieldsDistinct (h : Visits levels ps w outcome w')
    (hkeys : ∀ p ∈ ps, p.schema.KeysDistinct) (hw : w.graph.FieldsDistinct) :
    w'.graph.FieldsDistinct := by
  intro place node hnode
  rcases h.node_origin hnode with hold | ⟨p, hp, q, hq, places, rfl⟩
  · exact hw place node hold
  · have hschema : q.schema.KeysDistinct :=
      Position.everywhere_of_mem_postOrder .nil (hkeys p hp) hq
    exact Position.nodup_names_node hschema.here places

/-! ### What holds after calls -/

/-- What a walker knows is in agreement, its types were made for positions, and its objects name each
field once. -/
structure Orderly (w : Walker) : Prop where
  /-- The types, the cache and the owners agree with each other. -/
  sound : w.Sound
  /-- A path leads to the type that was made for it. -/
  linked : w.Linked
  /-- A type refers to types for the positions directly below. -/
  built : w.graph.Built
  /-- An object names each field once. -/
  fieldsDistinct : w.graph.FieldsDistinct

/-- A new walker is orderly, since it knows no types, paths or names. -/
theorem orderly_empty : ({} : Walker).Orderly where
  sound := sound_empty
  linked path place h := by simp at h
  built place node h := by simp at h
  fieldsDistinct place node h := by simp at h

/-- Claiming a name leaves a walker orderly, since it changes neither types nor paths. -/
theorem Orderly.own (h : w.Orderly) (name owner : String) : (w.own name owner).Orderly where
  sound := h.sound.own name owner
  linked := h.linked.own name owner
  built := by simpa using h.built
  fieldsDistinct := by simpa using h.fieldsDistinct

/-- A visit leaves a walker orderly, however it ends, if the schemas visited name each of their
properties once. -/
theorem Visits.orderly (h : Visits levels ps w outcome w')
    (hkeys : ∀ p ∈ ps, p.schema.KeysDistinct) (hw : w.Orderly) : w'.Orderly where
  sound := h.sound hw.sound
  linked := h.linked hw.linked
  built := h.built hw.built
  fieldsDistinct := h.fieldsDistinct hkeys hw.fieldsDistinct

/-- Calls leave a walker orderly, if they are about schemas that name each of their properties once.
Any of the calls may fail. -/
theorem Orderly.afterCalls (h : w.Orderly) {calls : List Call}
    (hkeys : ∀ call ∈ calls, ∀ s, call.schema? = some s → s.KeysDistinct) :
    (w.afterCalls calls).Orderly :=
  kept_afterCalls hkeys (fun _ name owner hv => hv.own name owner)
    (fun _ _ _ _ _ hps hvisits hv => hvisits.orderly hps hv) h

/-! ### Types of different fields -/

/-- A field leads to the type that the cache has for the path of the field. -/
theorem Made.lookup_field (h : w.Made q node) (he : e ∈ node.properties) :
    w.cache.lookup (q.path ++ "." ++ e.name) = some e.type := by
  have hshape := h.describes.shape
  rw [TypeNode.shape_eq_object (TypeNode.form_of_mem_properties he)] at hshape
  cases hshape with
  | object _ _ targets =>
    obtain ⟨t, _, ht⟩ := targets e he
    exact ht

/-- Fields of an object that have the same type have the same name, because a type is remembered for
one path only. -/
theorem Orderly.name_eq_of_type_eq (h : w.Orderly) (hnode : w.graph[place]? = some node)
    (he : e ∈ node.properties) (he' : e' ∈ node.properties) (htype : e.type = e'.type) :
    e.name = e'.name := by
  have hlt : place < w.graph.size := (Array.getElem?_eq_some_iff.mp hnode).1
  obtain ⟨path, hpath, _⟩ := h.sound.path_unique place hlt
  obtain ⟨q, made, _, hmade, hq⟩ := h.linked path place hpath
  obtain rfl := Option.some.inj (hmade.symm.trans hnode)
  -- The one type of the two fields was made for one path, which ends with the name of the field.
  have hlookup := hq.lookup_field he
  have hlookup' := hq.lookup_field he'
  rw [← htype] at hlookup'
  have htarget : e.type < w.graph.size := h.sound.cached_lt _ _ hlookup
  have hpaths := (h.sound.path_unique e.type htarget).unique hlookup hlookup'
  exact String.append_right_inj _ |>.mp hpaths

/-- Fields of an object for which a struct would have the same field have the same name. -/
theorem Orderly.name_eq_of_fieldName_eq (h : w.Orderly) (hnode : w.graph[place]? = some node)
    (he : e ∈ node.properties) (he' : e' ∈ node.properties)
    (hfield : Go.fieldName e.name = Go.fieldName e'.name) : e.name = e'.name := by
  obtain ⟨a, ha, haname⟩ := h.built.exists_target hnode he
  obtain ⟨b, hb, hbname⟩ := h.built.exists_target hnode he'
  have hname : a.name = b.name := by
    rw [haname, hbname]
    exact congrArg _ hfield
  have htype : e.type = e'.type := TypeGraph.place_eq_of_name_eq h.sound.names ha hb hname
  exact h.name_eq_of_type_eq hnode he he' htype

end Walker

/-! ### The order of the fields -/

/-- Fields are in the order of the names that a struct has for them, since the names of their types
all begin with the name of the object. -/
theorem TypeGraph.Built.pairwise_fieldName (hg : g.Built) (hnode : g[place]? = some node) :
    node.properties.Pairwise fun a b => Go.fieldName a.name ≤ Go.fieldName b.name := by
  have hname {e : Property} (he : e ∈ node.properties) :
      g.nameAt e.type = node.name ++ Go.fieldName e.name := by
    obtain ⟨target, htarget, hname⟩ := hg.exists_target hnode he
    rw [nameAt_of_getElem? htarget, hname]
    rfl
  refine (hg.pairwise_properties hnode).imp_of_mem fun {a b} ha hb hle => ?_
  rw [hname ha, hname hb] at hle
  by_contra hnot
  have hlt : (Go.fieldName b.name).toList < (Go.fieldName a.name).toList :=
    String.lt_iff.mp (String.not_le.mp hnot)
  have hlonger : node.name ++ Go.fieldName b.name < node.name ++ Go.fieldName a.name := by
    rw [String.lt_iff, String.toList_append, String.toList_append]
    exact List.append_left_lt hlt
  exact String.not_le.mpr hlonger hle

namespace Walker

variable {w w' : Walker} {node' : TypeNode} {place' : Nat} {calls : List Call}

/-- Different fields of an object have different names in a struct, and stand in their order. -/
theorem Orderly.pairwise_fieldName_lt (h : w.Orderly) (hnode : w.graph[place]? = some node) :
    node.properties.Pairwise fun a b => Go.fieldName a.name < Go.fieldName b.name := by
  have hne : node.properties.Pairwise fun a b => a.name ≠ b.name :=
    List.pairwise_map.mp (h.fieldsDistinct place node hnode)
  refine ((h.built.pairwise_fieldName hnode).and hne).imp_of_mem ?_
  rintro a b ha hb ⟨hle, hne⟩
  exact Std.lt_of_le_of_ne hle fun hfield => hne (h.name_eq_of_fieldName_eq hnode ha hb hfield)

/-- Objects that name the same fields name them in the same order, also where two different walkers
made them. -/
theorem Orderly.names_eq_of_perm (h : w.Orderly) (h' : w'.Orderly)
    (hnode : w.graph[place]? = some node) (hnode' : w'.graph[place']? = some node')
    (hperm : (node.properties.map Property.name).Perm (node'.properties.map Property.name)) :
    node.properties.map Property.name = node'.properties.map Property.name := by
  have hordered : (node.properties.map Property.name).Pairwise
      fun a b => Go.fieldName a < Go.fieldName b :=
    List.pairwise_map.mpr (h.pairwise_fieldName_lt hnode)
  have hordered' : (node'.properties.map Property.name).Pairwise
      fun a b => Go.fieldName a < Go.fieldName b :=
    List.pairwise_map.mpr (h'.pairwise_fieldName_lt hnode')
  exact hperm.eq_of_pairwise (fun _ _ _ _ hlt hgt => (String.lt_asymm hlt hgt).elim) hordered hordered'

/-- After any calls, the names of the fields of every struct are in strictly increasing order of their
bytes, and every object names each of its fields once. Which fields an object has decides on their
order, after whatever calls it was made. -/
theorem fields_ascending_of_calls
    (hkeys : ∀ call ∈ calls, ∀ s, call.schema? = some s → s.KeysDistinct)
    (hnode : (afterCalls {} calls).graph[place]? = some node) :
    (node.properties.map fun e => Text.bytesOf (Go.fieldName e.name)).Pairwise (· < ·) ∧
      (node.properties.map Property.name).Nodup ∧
      ∀ (others : List Call) (place' : Nat) (node' : TypeNode),
        (∀ call ∈ others, ∀ s, call.schema? = some s → s.KeysDistinct) →
        (afterCalls {} others).graph[place']? = some node' →
        (node.properties.map Property.name).Perm (node'.properties.map Property.name) →
        node.properties.map Property.name = node'.properties.map Property.name := by
  have h : (afterCalls {} calls).Orderly := orderly_empty.afterCalls hkeys
  refine ⟨?ascending, h.fieldsDistinct place node hnode, ?sameOrder⟩
  case ascending =>
    refine List.pairwise_map.mpr ((h.pairwise_fieldName_lt hnode).imp ?_)
    exact Text.bytesOf_lt_iff.mpr
  case sameOrder =>
    intro others place' node' hothers hnode' hperm
    exact h.names_eq_of_perm (orderly_empty.afterCalls hothers) hnode hnode' hperm

/-- The schema of a point with the properties `Y` and `x`, which are listed in the order of their
names. -/
def pointSchema : Schema where
  type := "object"
  properties := [("Y", { type := "integer" }), ("x", { type := "integer" })]

/-- Points are analysed twice, after a name has been set aside and a schema was missing. -/
def pointCalls : List Call := [
  .reserve "TList" TypeModel.listOwner,
  .analyze none "T" "" true,
  .analyze (some pointSchema) "T" "" true,
  .analyze (some pointSchema) "T" "" true]

/-- A point names each of its properties once, so a walker that analyses it stays orderly. -/
theorem keysDistinct_pointSchema : pointSchema.KeysDistinct := by
  refine .of_properties (by simp [pointSchema]) (fun entry hentry => ?_) rfl rfl
  rcases List.mem_pair.mp hentry with rfl | rfl <;> exact .of_leaf .nil rfl rfl rfl

/-- The type of a point. Its fields stand in another order than the properties of the schema. -/
def pointNode : TypeNode := ⟨"T", "", .object [⟨"x", 1, false⟩, ⟨"Y", 0, false⟩], {}⟩

/-- The walker when the first number of a point has been finished, after a name was set aside for
the list type. -/
def pointFirst : Walker where
  graph := #[⟨"TY", "Y", .primitive .int32, {}⟩]
  cache := [("T.Y", 0)]
  owners := [("TY", "T.Y"), ("T", "T"), ("TList", TypeModel.listOwner)]

/-- The walker when both numbers of a point have been finished, but the point has not. -/
def pointBelow : Walker where
  graph := #[⟨"TY", "Y", .primitive .int32, {}⟩, ⟨"TX", "x", .primitive .int32, {}⟩]
  cache := [("T.x", 1), ("T.Y", 0)]
  owners := [("TX", "T.x"), ("TY", "T.Y"), ("T", "T"), ("TList", TypeModel.listOwner)]

/-- The positions directly below a point are those of its two numbers, in the order of the names of the
properties. -/
theorem children_pointSchema : (Position.root pointSchema "T" "").children =
    [⟨{ type := "integer" }, "TY", "Y", "T.Y"⟩, ⟨{ type := "integer" }, "TX", "x", "T.x"⟩] := by
  rw [Position.children_of_pairwise (by decide) (by simp [Position.root, pointSchema])]
  rfl

/-- The type of a point is made from the places of the types of its two numbers. -/
theorem node_pointSchema : (Position.root pointSchema "T" "").node [0, 1] = pointNode := by
  have hfields : fields (Position.root pointSchema "T" "") [0, 1] =
      [("TX", ⟨"x", 1, false⟩), ("TY", ⟨"Y", 0, false⟩)].map Prod.snd := by
    refine fields_eq_of_perm ?_ (by decide)
    rw [children_pointSchema]
    exact .swap ..
  rw [node_of_object (by decide), hfields]
  rfl

/-- The first analysis of a point finishes its two numbers, in the order of their property names,
and then the point itself. -/
theorem visits_pointSchema : Visits (maxDepth + 1) [Position.root pointSchema "T" ""]
    (own "TList" TypeModel.listOwner {}) (.ok [2]) (pointBelow.add "T" pointNode) := by
  have hbelow : Visits maxDepth (Position.root pointSchema "T" "").children
      (own "T" "T" (own "TList" TypeModel.listOwner {})) (.ok [0, 1]) pointBelow := by
    have hsecond : Visits maxDepth [⟨{ type := "integer" }, "TX", "x", "T.x"⟩] pointFirst
        (.ok [1]) pointBelow :=
      .finished_ok (v := own "TX" "T.x" pointFirst) rfl (free_of_new rfl) .nil rfl .nil
    rw [children_pointSchema]
    exact .finished_ok (v := own "TY" "T.Y" (own "T" "T" (own "TList" TypeModel.listOwner {})))
      rfl (free_of_new rfl) .nil rfl hsecond
  rw [← node_pointSchema]
  exact .finished_ok rfl (free_of_new rfl) hbelow rfl .nil

/-- After the calls a walker knows the two numbers and the point, which was made by the third call and
answered from the cache in the fourth. -/
theorem afterCalls_pointCalls : afterCalls {} pointCalls = pointBelow.add "T" pointNode := by
  have hfirst : (analyze (some pointSchema) "T" "" true).run (own "TList" TypeModel.listOwner {}) =
      (.ok ⟨"", 2, true⟩, pointBelow.add "T" pointNode) := run_analyze_of_visits visits_pointSchema
  have hsecond : (analyze (some pointSchema) "T" "" true).run (pointBelow.add "T" pointNode) =
      (.ok ⟨"", 2, true⟩, pointBelow.add "T" pointNode) :=
    run_analyze_of_visits (.reused rfl rfl rfl rfl .nil)
  calc afterCalls {} pointCalls
      = Prod.snd ((analyze (some pointSchema) "T" "" true).run
          (Prod.snd ((analyze (some pointSchema) "T" "" true).run
            (own "TList" TypeModel.listOwner {})))) := rfl
    _ = pointBelow.add "T" pointNode := by rw [hfirst, hsecond]

/-- The fields of a point stand in the order of the names that a struct has for them, which is not that
of the names of the properties. -/
theorem fields_ascending_pointCalls :
    (∀ call ∈ pointCalls, ∀ s, call.schema? = some s → s.KeysDistinct) ∧
      ∃ node, (afterCalls {} pointCalls).graph[2]? = some node ∧
        node.properties.map Property.name = ["x", "Y"] ∧
        (node.properties.map fun e => Text.bytesOf (Go.fieldName e.name)).Pairwise (· < ·) := by
  have hkeys : ∀ call ∈ pointCalls, ∀ s, call.schema? = some s → s.KeysDistinct := by
    intro call hcall s hs
    simp only [pointCalls, List.mem_cons, List.not_mem_nil, or_false] at hcall
    rcases hcall with rfl | rfl | rfl | rfl
    · cases hs
    · cases hs
    · exact Option.some.inj hs ▸ keysDistinct_pointSchema
    · exact Option.some.inj hs ▸ keysDistinct_pointSchema
  have hnode : (afterCalls {} pointCalls).graph[2]? = some pointNode := by
    rw [afterCalls_pointCalls]
    rfl
  exact ⟨hkeys, pointNode, hnode, rfl, (fields_ascending_of_calls hkeys hnode).1⟩

end Walker

end CrdToolset
