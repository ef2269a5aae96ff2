import CrdToolset.Proofs.TypeGraph.Model
import CrdToolset.Proofs.TypeGraph.Origin
import CrdToolset.Proofs.TypeGraph.Separation

/-!
# Why types cannot be built

The types of a resource cannot be built where there is no schema, where a position lies too deep,
where two claim one name, or where the type that is remembered for a path does not fit. The last
takes two positions with one path, so it does not happen where the names of properties are plain.
-/

namespace CrdToolset

namespace TypeModel

/-- The fault is a reason for which the types of a resource cannot be built, stated of its schema
and of the positions of that schema. -/
inductive Fails (r : Resource) : Fault → Prop
  /-- The stored version has no schema. -/
  | noSchema (schema : r.schema = none) : Fails r (.missingStorageSchema r.storageVersion)
  /-- A position lies one level deeper than allowed. -/
  | tooDeep {s : Schema} {c : Position} (schema : r.schema = some s)
      (deep : (maxDepth + 1, c) ∈ (Position.root s r.kind "").preOrder 0) :
      Fails r (.tooDeep c.path maxDepth)
  /-- A position has the name of the list type. -/
  | listKind {s : Schema} {c : Position} (schema : r.schema = some s)
      (declared : c ∈ (Position.root s r.kind "").postOrder) (name : c.name = r.listKind)
      (other : listOwner ≠ c.path) : Fails r (.nameCollision c.name listOwner c.path)
  /-- Two positions with different paths have one name. -/
  | collision {s : Schema} {q c : Position} (schema : r.schema = some s)
      (declared : c ∈ (Position.root s r.kind "").postOrder)
      (first : q ∈ (Position.root s r.kind "").postOrder) (name : q.name = c.name)
      (other : q.path ≠ c.path) : Fails r (.nameCollision c.name q.path c.path)
  /-- Two positions with one path differ in their names or in the forms of their schemas. -/
  | mismatch {s : Schema} {q c : Position} (schema : r.schema = some s)
      (declared : c ∈ (Position.root s r.kind "").postOrder)
      (first : q ∈ (Position.root s r.kind "").postOrder) (path : q.path = c.path)
      (differs : ¬(q.name = c.name ∧ q.schema.form = c.schema.form)) :
      Fails r (.cacheMismatch c.path (Walker.describe c.name c.schema.form)
        (Walker.describe q.name q.schema.form))

variable {r : Resource} {s : Schema} {w : Walker} {c : Position} {levels : Nat}
  {outcome : Except Fault (List Nat)} {fault : Fault} {depth : Nat}

/-- A position of a resource is refused for one of the reasons, after any visit of the resource. -/
theorem Fails.of_refuses (hschema : r.schema = some s)
    (hvisits : Walker.Visits (maxDepth + 1) [Position.root s r.kind ""]
      (Walker.own r.listKind listOwner {}) outcome w)
    (hdepth : (depth, c) ∈ (Position.root s r.kind "").preOrder 0)
    (hlevels : depth + levels = maxDepth + 1) (h : Walker.Refuses levels c w fault) :
    Fails r fault := by
  have hc : c ∈ (Position.root s r.kind "").postOrder :=
    Position.mem_postOrder_of_mem_preOrder hdepth
  have hcached {place : Nat} (hit : w.cache.lookup c.path = some place) :
      ∃ q ∈ (Position.root s r.kind "").postOrder, q.path = c.path ∧ w.graph.Holds q place := by
    rcases hvisits.origin hit with hold | ⟨p, hp, hq⟩
    · rw [Walker.own_cache] at hold
      cases hold
    · obtain rfl := List.mem_singleton.mp hp
      exact hq
  cases h with
  | tooDeep =>
    obtain rfl : depth = maxDepth + 1 := hlevels
    exact .tooDeep hschema hdepth
  | mismatch hit found differs =>
    obtain ⟨q, hq, hpath, node, hnode, hname, hform⟩ := hcached hit
    obtain rfl := Option.some.inj (hnode.symm.trans found)
    rw [hname, hform] at differs ⊢
    exact .mismatch hschema hc hq hpath differs
  | dangling hit missing =>
    obtain ⟨q, _, _, node, hnode, _⟩ := hcached hit
    cases hnode.symm.trans missing
  | @collision _ _ _ first _ owned other =>
    rcases hvisits.owner_origin owned with hold | ⟨p, hp, q, hq, hname, rfl⟩
    · -- The name of the list type is the only one that had an owner before the visit.
      obtain ⟨hname, rfl⟩ := (Walker.owner_of_own hold).resolve_left (by simp)
      exact .listKind hschema hc hname.symm other
    · obtain rfl := List.mem_singleton.mp hp
      exact .collision hschema hc hq hname other

/-- Where a path identifies a position, no type that is remembered for a path fails to fit. -/
theorem Fails.ne_cacheMismatch (h : Fails r fault) (hschema : r.schema = some s)
    (hkeys : s.KeysDistinct) (hpaths : (Position.root s r.kind "").PathsDistinct)
    (path expected found : String) : fault ≠ .cacheMismatch path expected found := by
  rintro rfl
  cases h with
  | @mismatch t q c htschema declared first hpath differs =>
    obtain rfl := Option.some.inj (htschema.symm.trans hschema)
    obtain ⟨a, hc⟩ := (Position.mem_postOrder_iff (p := .root t r.kind "") hkeys).mp declared
    obtain ⟨b, hq⟩ := (Position.mem_postOrder_iff (p := .root t r.kind "") hkeys).mp first
    obtain rfl := hpaths b a q c hq hc hpath
    obtain rfl := Option.some.inj (hq.symm.trans hc)
    exact differs ⟨rfl, rfl⟩

/-- The types of a resource that cannot be built have one of the reasons. Where the names of
properties are plain, it is not a type that is remembered for a path and does not fit. -/
theorem fails_of_build (h : build r = .error fault) :
    Fails r fault ∧ ∀ s, r.schema = some s → s.KeysDistinct → s.PlainNames →
      ∀ path expected found, fault ≠ .cacheMismatch path expected found := by
  have hfails : Fails r fault := by
    cases hschema : r.schema with
    | none =>
      unfold build Resource.storageSchema at h
      rw [hschema] at h
      obtain rfl := Except.error.inj h
      exact .noSchema hschema
    | some s =>
      obtain ⟨result, w, hvisits, hbuild⟩ := exists_visits_and_build_eq hschema
      rw [hbuild] at h
      cases result with
      | ok place => cases h
      | error cause =>
        obtain rfl := Except.error.inj h
        obtain ⟨p, hp, x, hx, left, hlevels, hrefuses⟩ := hvisits.exists_refuses rfl 0
        obtain rfl := List.mem_singleton.mp hp
        exact .of_refuses hschema hvisits hx (by omega) hrefuses
  refine ⟨hfails, fun s hschema hkeys hplain => ?_⟩
  exact hfails.ne_cacheMismatch hschema hkeys (Position.pathsDistinct_of_plainNames hplain)

/-- A resource with the given schema, whose other data are valid and the same in all examples. -/
def widgetResource (s : Schema) : Resource where
  name := "widgets.example.com"
  group := "example.com"
  kind := "Widget"
  plural := "widgets"
  singular := "widget"
  shortNames := []
  listKind := "WidgetList"
  scope := .namespaced
  versions := ["v1"]
  servedVersions := ["v1"]
  storageVersion := "v1"
  schema := some s

/-- The schema of an object with a property that takes the name of the list type. -/
def listedSchema : Schema where
  type := "object"
  properties := [("list", { type := "string" })]

/-- A property can take the name of the list type, which was set aside before. Building then fails
with a collision, and never because remembered types disagree. -/
theorem fails_build_listedSchema :
    build (widgetResource listedSchema) =
        .error (.nameCollision "WidgetList" "<list kind>" "Widget.list") ∧
      listedSchema.KeysDistinct ∧ listedSchema.PlainNames ∧
      Fails (widgetResource listedSchema)
        (.nameCollision "WidgetList" "<list kind>" "Widget.list") ∧
      ∀ path expected found, Fault.nameCollision "WidgetList" "<list kind>" "Widget.list" ≠
        .cacheMismatch path expected found := by
  have hbuild : build (widgetResource listedSchema) =
      .error (.nameCollision "WidgetList" "<list kind>" "Widget.list") :=
    eq_error_of_failure? (by decide +kernel)
  have heverywhere {P : Schema → Prop} (htext : P { type := "string" }) (hroot : P listedSchema) :
      listedSchema.Everywhere P :=
    .of_property hroot rfl (.of_leaf htext rfl rfl rfl) rfl rfl
  have hkeys : listedSchema.KeysDistinct := heverywhere .nil (List.nodup_singleton _)
  have hplain : listedSchema.PlainNames :=
    heverywhere (by simp) (by simp [listedSchema, Schema.PlainName])
  obtain ⟨hfails, hnever⟩ := fails_of_build hbuild
  exact ⟨hbuild, hkeys, hplain, hfails, hnever listedSchema rfl hkeys hplain⟩

/-- The schema of an object with a text one level down, and with a list whose name has a dot in it.
-/
def hiddenListSchema : Schema where
  type := "object"
  properties := [("foo", Walker.barSchema), ("foo.bar", { type := "array" })]

/-- A name with a dot in it can lead a list to the type of a text, which does not fit. -/
theorem cacheMismatch_hiddenListSchema : build (widgetResource hiddenListSchema) =
    .error (.cacheMismatch "Widget.foo.bar" "WidgetFooBar (Array)" "WidgetFooBar (Primitive)") := by
  have hchildren : (Position.root hiddenListSchema "Widget" "").children =
      hiddenListSchema.properties.map fun e =>
        (Position.root hiddenListSchema "Widget" "").property e.1 e.2 :=
    Position.children_of_pairwise (by decide) (by simp [Position.root, hiddenListSchema])
  have hfails : (((hiddenListSchema.properties.map fun e =>
      (Position.root hiddenListSchema "Widget" "").property e.1 e.2).mapM
        (Walker.walk maxDepth)).run (Walker.own "Widget" "Widget"
          (Walker.own "WidgetList" listOwner {}))).1 = .error (.cacheMismatch "Widget.foo.bar"
            "WidgetFooBar (Array)" "WidgetFooBar (Primitive)") :=
    eq_error_of_failure? (by decide +kernel)
  have hbelow := Walker.visits_iff.mpr (Prod.ext hfails rfl)
  rw [← hchildren] at hbelow
  exact build_eq_error_of_visits (r := widgetResource hiddenListSchema) rfl
    (.abandoned rfl (Walker.free_of_new (by decide)) hbelow)

end TypeModel

end CrdToolset
