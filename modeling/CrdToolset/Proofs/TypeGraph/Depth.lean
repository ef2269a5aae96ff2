import CrdToolset.Proofs.TypeGraph.Acceptance
import CrdToolset.Proofs.TypeGraph.Origin

/-!
# How deep a schema may nest

A walker refuses a position that lies more levels below the root than are allowed. Such a position is
one that the schema declares, with one exception: the elements of a list have a position also where
the schema says nothing about them. So a list without a schema for its elements has to lie one level
higher than everything else, and where it does its elements are of an unknown type.
-/

namespace CrdToolset

/-- The schema declares another one at an address: in a property of an object, for the elements of a
list, or for the values of a map. -/
inductive Schema.Declares : Schema → Address → Schema → Prop
  | self {s : Schema} : Declares s [] s
  | property {s t u : Schema} {name : String} {a : Address} (form : s.form = .object)
      (named : (name, t) ∈ s.properties) (below : Declares t a u) :
      Declares s (.property name :: a) u
  | element {s t u : Schema} {a : Address} (form : s.form = .array) (items : s.items = some t)
      (below : Declares t a u) : Declares s (.element :: a) u
  | value {s t u : Schema} {a : Address} (form : s.form = .map)
      (additional : s.additionalSchema = some t) (below : Declares t a u) :
      Declares s (.value :: a) u

/-- A list that says nothing about its elements. It is the one schema whose position has another
below it that no schema declares. -/
structure Schema.Bare (s : Schema) : Prop where
  /-- It is a list. -/
  form : s.form = .array
  /-- Its elements have no schema. -/
  items : s.items = none

namespace Position

variable {p c q : Position} {s : Step} {a : Address} {t : Schema} {depth : Nat}

/-- A step leads to a schema that is declared there, or from a bare list to its elements. -/
theorem declares_or_bare_of_mem_children (h : c ∈ p.children) :
    ∃ s : Step, c.path = p.path ++ s.text ∧
      ((∀ a t, c.schema.Declares a t → p.schema.Declares (s :: a) t) ∨
        s = .element ∧ p.schema.Bare ∧ c.schema = {}) := by
  unfold children at h
  split at h
  case h_1 hform =>
    obtain ⟨⟨name, t⟩, ht, rfl⟩ := List.mem_map.mp h
    refine ⟨.property name, by simp [property, Step.text, String.append_assoc], .inl ?_⟩
    exact fun a u hu => .property hform (List.mem_mergeSort.mp ht) hu
  case h_2 hform =>
    obtain rfl := List.mem_singleton.mp h
    refine ⟨.element, rfl, ?_⟩
    cases hitems : p.schema.items with
    | none => exact .inr ⟨rfl, ⟨hform, hitems⟩, by simp [element, hitems]⟩
    | some t =>
      refine .inl fun a u hu => .element hform hitems ?_
      simpa [element, hitems] using hu
  case h_3 hform =>
    obtain ⟨t, ht, rfl⟩ := List.mem_map.mp h
    exact ⟨.value, rfl, .inl fun a u hu => .value hform (Option.mem_toList.mp ht) hu⟩
  case h_4 => cases h

/-- Every position at or below another is declared at its address, or it is that of the elements of a
bare list. -/
theorem declares_or_bare_of_mem_preOrder {x : Nat × Position} (h : x ∈ p.preOrder depth) :
    ∃ a : Address, x.1 = depth + a.length ∧ x.2.path = p.path ++ a.text ∧
      (p.schema.Declares a x.2.schema ∨
        ∃ b t, a = b ++ [.element] ∧ p.schema.Declares b t ∧ t.Bare) := by
  induction p using postOrder.induct generalizing depth with
  | case1 p ih =>
    rw [preOrder_eq, List.mem_cons, List.mem_flatMap] at h
    rcases h with rfl | ⟨c, hc, hx⟩
    · exact ⟨[], rfl, by simp [Address.text], .inl .self⟩
    · obtain ⟨s, hpath, hstep⟩ := declares_or_bare_of_mem_children hc
      rcases hstep with hdeclares | ⟨rfl, hbare, hempty⟩
      · obtain ⟨a, hdepth, hxpath, hx⟩ := ih ⟨c, hc⟩ hx
        refine ⟨s :: a, by rw [hdepth, List.length_cons]; omega, ?_, ?_⟩
        · rw [hxpath, hpath, String.append_assoc]
          rfl
        · rcases hx with hx | ⟨b, t, rfl, hb, ht⟩
          · exact .inl (hdeclares a _ hx)
          · exact .inr ⟨s :: b, t, rfl, hdeclares b t hb, ht⟩
      · -- Nothing lies below the elements of a bare list.
        rw [preOrder_eq, children_of_empty hempty, List.flatMap_nil, List.mem_singleton] at hx
        obtain rfl := hx
        refine ⟨[.element], rfl, ?_, .inr ⟨[], p.schema, rfl, .self, hbare⟩⟩
        rw [hpath]
        simp [Address.text]

/-- What a schema declares at an address has its position there, if no property is named twice. -/
theorem exists_at?_of_declares (hkeys : p.schema.KeysDistinct) (h : p.schema.Declares a t) :
    ∃ q, p.at? a = some q ∧ q.schema = t := by
  generalize hs : p.schema = s at h
  induction h generalizing p with
  | self => exact ⟨p, rfl, hs⟩
  | @property _ t _ name a form named _ ih =>
    subst hs
    have hlookup := (Keyed.lookup_eq_some_iff_mem hkeys.here).mpr named
    have hchild : p.child? (.property name) = some (p.property name t) := by
      simp [child?, form, hlookup]
    obtain ⟨q, hq, rfl⟩ := ih (p := p.property name t) (hkeys.property named) rfl
    exact ⟨q, by simp [at?, hchild, hq], rfl⟩
  | @element _ t _ a form items _ ih =>
    subst hs
    have hchild : p.child? .element = some p.element := by simp [child?, form]
    have hschema : p.element.schema = t := by simp [element, items]
    obtain ⟨q, hq, rfl⟩ := ih (p := p.element) (hschema ▸ hkeys.items items) hschema
    exact ⟨q, by simp [at?, hchild, hq], rfl⟩
  | @value _ t _ a form additional _ ih =>
    subst hs
    have hchild : p.child? .value = some (p.value t) := by simp [child?, form, additional]
    obtain ⟨q, hq, rfl⟩ := ih (p := p.value t) (hkeys.additional additional) rfl
    exact ⟨q, by simp [at?, hchild, hq], rfl⟩

end Position

namespace Walker

variable {w w' : Walker} {levels : Nat} {ps : List Position} {outcome : Except Fault (List Nat)}

/-- A visit only refuses a position for its depth that lies as many levels down as are left. -/
theorem Visits.exists_of_tooDeep (h : Visits levels ps w outcome w') {path : String} {limit : Nat}
    (hfault : outcome = .error (.tooDeep path limit)) (depth : Nat) :
    limit = maxDepth ∧ ∃ p ∈ ps, ∃ q, (depth + levels, q) ∈ p.preOrder depth ∧ q.path = path := by
  obtain ⟨p, hp, ⟨d, q⟩, hq, left, hleft, hrefuses⟩ := h.exists_refuses hfault depth
  cases hrefuses with
  | tooDeep =>
    obtain rfl : d = depth + levels := hleft
    exact ⟨rfl, p, hp, q, hq, rfl⟩

/-- A walker that refuses a schema for its depth has found a position one level too deep. The schema
declares it, or it belongs to the elements of a bare list that lies exactly as deep as allowed. In a
schema with plain names that is accepted all bare lists lie higher up, and each is a list of which
the elements are unknown. -/
theorem declares_or_bare_of_tooDeep (schema : Schema) (name field : String) (required : Bool) :
    (∀ w w' path limit, (analyze (some schema) name field required).run w =
        (.error (.tooDeep path limit), w') →
      limit = maxDepth ∧ ∃ a : Address, path = name ++ a.text ∧ a.length = maxDepth + 1 ∧
        ((∃ t, schema.Declares a t) ∨
          ∃ b t, a = b ++ [.element] ∧ schema.Declares b t ∧ t.Bare)) ∧
    (schema.KeysDistinct → schema.PlainNames → ∀ root w,
      (analyze (some schema) name field required).run {} = (.ok root, w) →
      ∀ b t, schema.Declares b t → t.Bare → b.length < maxDepth ∧
        ∃ i node, w.graph.follow root.type (b ++ [.element]) = some i ∧ w.graph[i]? = some node ∧
          node.shape = .unknown) := by
  constructor
  · intro w w' path limit h
    obtain ⟨result, hresult, hvisits⟩ := visits_of_run_analyze h
    have hfault : result.map ([·]) = .error (.tooDeep path limit) := by
      cases result with
      | ok place => cases hresult
      | error fault => exact congrArg Except.error (Except.error.inj hresult).symm
    obtain ⟨hlimit, p, hp, q, hq, hpath⟩ := hvisits.exists_of_tooDeep hfault 0
    obtain rfl := List.mem_singleton.mp hp
    obtain ⟨a, hlength, hqpath, ha⟩ := Position.declares_or_bare_of_mem_preOrder hq
    refine ⟨hlimit, a, hpath ▸ hqpath, by simpa using hlength.symm, ?_⟩
    exact ha.imp_left fun hdeclares => ⟨_, hdeclares⟩
  · intro hkeys hplain root w h b t hb ht
    have hpaths : (Position.root schema name field).PathsDistinct :=
      Position.pathsDistinct_of_plainNames hplain
    obtain ⟨q, hq, rfl⟩ :=
      Position.exists_at?_of_declares (p := .root schema name field) hkeys hb
    have hchild : q.child? .element = some q.element := by simp [Position.child?, ht.form]
    have helement := (Position.at?_concat hq .element).trans hchild
    have hclear : Clear none ((Position.root schema name field).preOrder 0) := by
      have hsettles : Settles none ((Position.root schema name field).preOrder 0)
          ((analyze (some schema) name field required).run {}).1 _ :=
        settles_run_analyze hkeys hpaths (by simp) required
      rw [h] at hsettles
      exact hsettles.1
    have hdepth := hclear.depth _ (Position.mem_preOrder_of_at? helement)
    refine ⟨by simpa [Nat.succ_le_iff] using hdepth, ?_⟩
    obtain ⟨i, node, hi, hnode, hdescribes⟩ :=
      (separates_of_pathsDistinct hkeys hpaths h).own _ _ helement
    refine ⟨i, node, hi, hnode, ?_⟩
    have hshape := hdescribes.shape
    have hschema : q.element.schema = {} := by simp [Position.element, ht.items]
    have hform : q.element.schema.form = .unknown := by rw [hschema]; rfl
    generalize node.shape = shape at hshape
    cases hshape with
    | unknown => rfl
    | _ form => simp [hform] at form

/-! ### Lists in lists -/

/-- A bare list inside as many lists as the number says, with nothing else in them. -/
def nestedLists : Nat → Schema
  | 0 => { type := "array" }
  | n + 1 => { type := "array", items := some (nestedLists n) }

/-- Every schema of `nestedLists` is a list, at whatever number of levels. -/
theorem form_nestedLists (n : Nat) : (nestedLists n).form = .array := by
  cases n <;> rfl

/-- The bare list lies as deep as there are lists around it, and nothing is declared further down. -/
theorem declares_nestedLists (n : Nat) :
    (nestedLists n).Declares (List.replicate n .element) { type := "array" } ∧
      ∀ a t, (nestedLists n).Declares a t → a.length ≤ n := by
  induction n with
  | zero =>
    refine ⟨.self, fun a t h => ?_⟩
    cases h with
    | self => exact Nat.le_refl 0
    | property form => cases form
    | element _ items => cases items
    | value form => cases form
  | succ n ih =>
    refine ⟨.element (form_nestedLists _) rfl ih.1, fun a t h => ?_⟩
    cases h with
    | self => exact Nat.zero_le _
    | property form => simp [form_nestedLists] at form
    | element _ items below =>
      obtain rfl := Option.some.inj items
      exact Nat.succ_le_succ (ih.2 _ t below)
    | value form => simp [form_nestedLists] at form

/-- The elements of a list whose name does not end in the letter of a plural have a longer name,
which does not end in it either. -/
theorem itemName_eq_append {name : String} (h : name.toList.getLast? ≠ some 's') :
    itemName name = name ++ "Item" ∧ (itemName name).toList.getLast? ≠ some 's' := by
  have hitem : itemName name = name ++ "Item" := if_neg fun hplural => h hplural.1
  exact ⟨hitem, by simp [hitem]⟩

/-- A name that is longer than all names that have an owner has none itself. -/
theorem lookup_owners_eq_none {name : String} (h : ∀ x ∈ w.owners, x.1.length < name.length) :
    w.owners.lookup name = none := by
  by_contra hsome
  obtain ⟨owner, howner⟩ := Option.ne_none_iff_exists'.mp hsome
  obtain ⟨before, after, heq, _⟩ := List.lookup_eq_some_iff.mp howner
  exact Nat.lt_irrefl _ (h (name, owner) (by simp [heq]))

/-- A list whose path and name are new is given up when its elements are. Names only grow on the way
down, so it is enough to compare their lengths. -/
theorem Visits.abandoned_of_element {p : Position} {fault : Fault} (hform : p.schema.form = .array)
    (hcache : w.cache = []) (howners : ∀ x ∈ w.owners, x.1.length < p.name.length)
    (hbelow : Visits levels [p.element] (w.own p.name p.path) (.error fault) w') :
    Visits (levels + 1) [p] w (.error fault) w' := by
  have hfree : w.Free p.name p.path := by simp [Free, lookup_owners_eq_none howners]
  have hchildren : p.children = [p.element] := by simp [Position.children, hform]
  exact .abandoned (by simp [hcache]) hfree (hchildren ▸ hbelow)

/-- From a list at which as many levels are left as there are lists inside it, a walker goes down to
the elements of the bare list and refuses them. -/
theorem visits_nestedLists (n : Nat) {p : Position} {w : Walker} (hschema : p.schema = nestedLists n)
    (hcache : w.cache = []) (howners : ∀ x ∈ w.owners, x.1.length < p.name.length)
    (hname : p.name.toList.getLast? ≠ some 's') :
    ∃ w', Visits (n + 1) [p] w (.error (.tooDeep
      (p.path ++ Address.text (List.replicate (n + 1) .element)) maxDepth)) w' := by
  have htext (k : Nat) : p.path ++ Address.text (List.replicate (k + 1) .element) =
      p.element.path ++ Address.text (List.replicate k .element) := by
    simp [Position.element, List.replicate_succ, Address.text, Step.text, String.append_assoc]
  have hform : p.schema.form = .array := hschema ▸ form_nestedLists n
  rw [htext]
  cases n with
  | zero =>
    refine ⟨w.own p.name p.path, .abandoned_of_element hform hcache howners ?_⟩
    simpa [Address.text] using Visits.refused Refuses.tooDeep
  | succ n =>
    obtain ⟨hitem, hlast⟩ := itemName_eq_append hname
    have hlonger : p.name.length < p.element.name.length := by
      have hsuffix : 0 < "Item".length := by decide
      simpa [Position.element, hitem] using hsuffix
    have howned : ∀ x ∈ (w.own p.name p.path).owners, x.1.length < p.element.name.length := by
      have hcons : (w.own p.name p.path).owners = (p.name, p.path) :: w.owners := by
        simp [own, lookup_owners_eq_none howners]
      rw [hcons]
      exact List.forall_mem_cons.mpr
        ⟨hlonger, fun x hx => Nat.lt_trans (howners x hx) hlonger⟩
    obtain ⟨w', hbelow⟩ := visits_nestedLists n (p := p.element) (w := w.own p.name p.path)
      (by simp [Position.element, hschema, nestedLists]) (by simpa using hcache) howned hlast
    exact ⟨w', hbelow.abandoned_of_element hform hcache howners⟩

/-- The elements of the bare list inside as many lists as levels are allowed lie too deep. -/
theorem exists_run_analyze_nestedLists :
    ∃ w, (analyze (some (nestedLists maxDepth)) "T" "" true).run {} =
      (.error (.tooDeep ("T" ++ Address.text (List.replicate (maxDepth + 1) .element)) maxDepth),
        w) := by
  obtain ⟨w, hvisits⟩ := visits_nestedLists maxDepth (p := .root (nestedLists maxDepth) "T" "")
    (w := {}) rfl rfl (by simp) (by simp [Position.root])
  have hmap : Visits (maxDepth + 1) [Position.root (nestedLists maxDepth) "T" ""] {}
      (Except.map ([·]) (.error (.tooDeep
        ("T" ++ Address.text (List.replicate (maxDepth + 1) .element)) maxDepth))) w := hvisits
  exact ⟨w, run_analyze_of_visits_map hmap⟩

/-- A schema that declares nothing deeper than allowed can be refused for its depth: the elements of
its innermost list lie one level too deep, and no schema declares them. -/
theorem tooDeep_nestedLists :
    ((analyze (some (nestedLists maxDepth)) "T" "" true).run {}).1 =
        .error (.tooDeep ("T" ++ Address.text (List.replicate (maxDepth + 1) .element)) maxDepth) ∧
      ∀ a t, (nestedLists maxDepth).Declares a t → a.length ≤ maxDepth := by
  obtain ⟨w, hrun⟩ := exists_run_analyze_nestedLists
  exact ⟨congrArg Prod.fst hrun, (declares_nestedLists maxDepth).2⟩

/-- The schema of an object with a tag, of which it says no more than that it is a list. -/
def taggedSchema : Schema where
  type := "object"
  properties := [("tag", { type := "array" })]

/-- The bare list inside as many lists as are allowed is refused for its elements, and the tag of an
object, which lies higher up, is a list of something unknown. -/
theorem bare_nestedLists_and_taggedSchema :
    (∃ w path limit, (analyze (some (nestedLists maxDepth)) "T" "" true).run {} =
        (.error (.tooDeep path limit), w) ∧
      limit = maxDepth ∧ ∃ a : Address, path = "T" ++ a.text ∧ a.length = maxDepth + 1 ∧
        ((∃ t, (nestedLists maxDepth).Declares a t) ∨ ∃ b t, a = b ++ [.element] ∧
          (nestedLists maxDepth).Declares b t ∧ t.Bare)) ∧
    taggedSchema.KeysDistinct ∧ taggedSchema.PlainNames ∧
    ∃ root w, (analyze (some taggedSchema) "T" "" true).run {} = (.ok root, w) ∧
      taggedSchema.Declares [.property "tag"] { type := "array" } ∧
      Schema.Bare { type := "array" } ∧ 1 < maxDepth ∧
      ∃ i node, w.graph.follow root.type [.property "tag", .element] = some i ∧
        w.graph[i]? = some node ∧ node.shape = .unknown := by
  constructor
  · obtain ⟨w, hrun⟩ := exists_run_analyze_nestedLists
    refine ⟨w, _, _, hrun, ?_⟩
    exact (declares_or_bare_of_tooDeep (nestedLists maxDepth) "T" "" true).1 {} w _ _ hrun
  · have heverywhere {P : Schema → Prop} (htagged : P taggedSchema) (htags : P { type := "array" }) :
        taggedSchema.Everywhere P :=
      .of_property htagged rfl (.of_leaf htags rfl rfl rfl) rfl rfl
    have hkeys : taggedSchema.KeysDistinct := heverywhere (by simp [taggedSchema]) (by simp)
    have hplain : taggedSchema.PlainNames :=
      heverywhere (by simp [taggedSchema, Schema.PlainName]) (by simp)
    have hok : ((analyze (some taggedSchema) "T" "" true).run {}).1 = .ok ⟨"", 2, true⟩ :=
      eq_ok_of_toOption (by decide +kernel)
    have hrun : (analyze (some taggedSchema) "T" "" true).run {} =
        (.ok ⟨"", 2, true⟩, ((analyze (some taggedSchema) "T" "" true).run {}).2) :=
      Prod.ext hok rfl
    have hdeclares : taggedSchema.Declares [.property "tag"] { type := "array" } :=
      .property rfl (List.mem_singleton_self _) .self
    have hbare : Schema.Bare { type := "array" } := ⟨rfl, rfl⟩
    refine ⟨hkeys, hplain, _, _, hrun, hdeclares, hbare, ?_⟩
    exact (declares_or_bare_of_tooDeep taggedSchema "T" "" true).2 hkeys hplain _ _ hrun _ _
      hdeclares hbare

end Walker

end CrdToolset
