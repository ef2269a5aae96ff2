import CrdToolset.Proofs.TypeGraph.Isolation
import CrdToolset.Proofs.TypeGraph.Reordered

/-!
# The fields of a resource

The type of a field of a resource is the one that the walker has for the property of that name. Where
the name is plain, it depends on nothing but the name of the resource and the schema of the property.
-/

namespace CrdToolset.TypeModel.OfWalk

variable {r r' : Resource} {s s' : Schema} {w w' : Walker} {m m' : TypeModel} {name : String}
  {t : Schema}

section Root

variable (h : OfWalk r s w m)
include h

/-- The root of a model was made last, from the places of the positions directly below it, by a
walker that began with an empty cache. -/
theorem exists_root : ∃ u v places, u.cache = [] ∧
    Walker.Visits maxDepth (Position.root s r.kind "").children u (.ok places) v ∧ v.Extends w ∧
      m.graph[m.root]? = some ((Position.root s r.kind "").node places) := by
  have hnew : (Walker.own r.listKind listOwner {}).cache = [] := Walker.own_cache ..
  obtain ⟨v, places, hbelow, hw, hroot⟩ := h.visits.finished_of_new hnew
  refine ⟨_, v, places, by rw [Walker.own_cache, hnew], hbelow, ?_, ?_⟩
  · rw [hw]
    exact Walker.extends_add (hbelow.not_cached_of_own (by simp)) _
  · rw [h.graph, hw, hroot]
    simp [Walker.add]

/-- The root of a model describes the schema, where references stand for what the walker has in its
cache. -/
theorem exists_describes_root : ∃ node, m.graph[m.root]? = some node ∧
    node.Describes w.Cached (Position.root s r.kind "") := by
  obtain ⟨_, v, places, _, hbelow, hext, hnode⟩ := h.exists_root
  have hplaces := (hbelow.cached_places rfl).imp fun _ _ hplace => hext.cached _ _ hplace
  exact ⟨_, hnode, Walker.describes_node hplaces⟩

/-- A property of the schema is a field of the root, and its type is the one that the walker has for
the path of the property. -/
theorem part?_of_lookup (hform : s.form = .object) (hkeys : (s.properties.map Prod.fst).Nodup)
    (ht : s.properties.lookup name = some t) :
    ∃ i, m.graph.part? m.root name = some i ∧
      w.Cached ((Position.root s r.kind "").property name t) i := by
  obtain ⟨node, hnode, hdescribes⟩ := h.exists_describes_root
  have hchild : (Position.root s r.kind "").child? (.property name) =
      some ((Position.root s r.kind "").property name t) := by
    simp [Position.child?, Position.root, hform, ht]
  obtain ⟨i, hi, hcached⟩ := hdescribes.next?_of_child? hkeys hchild
  refine ⟨i, ?_, hcached⟩
  unfold TypeGraph.part?
  rw [hnode]
  exact hi

/-- A name that is no property of the schema is no field of the root either. -/
theorem part?_of_lookup_eq_none (hform : s.form = .object)
    (hname : s.properties.lookup name = none) : m.graph.part? m.root name = none := by
  obtain ⟨node, hnode, hdescribes⟩ := h.exists_describes_root
  obtain ⟨edges, hshape, hnames, _⟩ := hdescribes.shape_of_object hform
  have hmissing : node.property? name = none := by
    simp only [TypeNode.property?, TypeNode.properties, hshape, List.find?_eq_none, beq_iff_eq]
    rintro e he rfl
    have hkey : e.name ∈ s.properties.map Prod.fst :=
      hnames.mem_iff.mp (List.mem_map_of_mem he)
    obtain ⟨entry, hentry, hkey⟩ := List.mem_map.mp hkey
    exact absurd hkey.symm (by simpa using List.lookup_eq_none_iff.mp hname entry hentry)
  unfold TypeGraph.part?
  rw [hnode, Option.bind_some, hmissing, Option.map_none]

/-- The walker comes to a property with a plain name knowing nothing of the paths there. -/
theorem exists_visits_of_lookup (hform : s.form = .object)
    (hkeys : (s.properties.map Prod.fst).Nodup) (hplain : Schema.PlainName name)
    (ht : s.properties.lookup name = some t) :
    ∃ u v i, (∀ a : Address, u.cache.lookup (r.kind ++ "." ++ name ++ a.text) = none) ∧
      Walker.Visits maxDepth [(Position.root s r.kind "").property name t] u (.ok [i]) v ∧
      v.Extends w := by
  obtain ⟨start, v, places, hstart, hbelow, hext, _⟩ := h.exists_root
  have hmem : (name, t) ∈ s.sortedProperties :=
    List.mem_mergeSort.mpr ((Keyed.lookup_eq_some_iff_mem hkeys).mp ht)
  obtain ⟨before, after, hsplit⟩ := List.append_of_mem hmem
  have hchildren : (Position.root s r.kind "").children =
      before.map (fun e => (Position.root s r.kind "").property e.1 e.2) ++
        ([(Position.root s r.kind "").property name t] ++
          after.map fun e => (Position.root s r.kind "").property e.1 e.2) := by
    simp [Position.children, Position.root, hform, hsplit]
  rw [hchildren] at hbelow
  obtain ⟨u, _, _, hbefore, hbelow⟩ := hbelow.of_append
  obtain ⟨v', here, _, hhere, hafter⟩ := hbelow.of_append
  obtain ⟨i, _, hi, hnil, rfl⟩ := List.forall₂_cons_left_iff.mp (hhere.cached_places rfl)
  obtain rfl := List.forall₂_nil_left_iff.mp hnil
  refine ⟨u, v', i, fun a => ?_, hhere, hafter.extends.trans hext⟩
  by_contra hcached
  obtain ⟨place, hplace⟩ := Option.ne_none_iff_exists'.mp hcached
  rcases hbefore.origin hplace with hold | ⟨p, hp, q, hq, hpath, _⟩
  · rw [hstart] at hold
    cases hold
  · -- The path would be at or below that of a property with an earlier name.
    obtain ⟨entry, hentry, rfl⟩ := List.mem_map.mp hp
    obtain ⟨b, hb⟩ := Position.path_of_mem_postOrder hq
    have htext : entry.1 ++ b.text = name ++ a.text := by
      rw [hpath] at hb
      simpa [Position.property, Position.root, String.append_assoc, String.append_right_inj]
        using hb.symm
    have hsorted : s.sortedProperties.Pairwise fun a b => a.1 < b.1 := Keyed.pairwise_lt_sort hkeys
    rw [hsplit, List.pairwise_append] at hsorted
    have hlt : entry.1 < name := hsorted.2.2 entry hentry _ List.mem_cons_self
    exact hplain.le_of_append_text_eq htext hlt

end Root

/-- A walker takes the same steps at a property of two resources of one name, if its schemas say the same
up to order. The schemas around the property do not matter. -/
theorem walk_property_root_eq (hkind : r.kind = r'.kind) {t t' : Schema} (hsame : t.SameUpToOrder t')
    (levels : Nat) :
    Walker.walk levels ((Position.root s' r'.kind "").property name t') =
      Walker.walk levels ((Position.root s r.kind "").property name t) := by
  have hposition : (Position.root s' r'.kind "").property name t' =
      (Position.root s r.kind "").property name t' := by
    simp [Position.property, Position.root, hkind]
  rw [hposition]
  exact (Walker.walk_property_eq_of_sameUpToOrder _ _ name hsame).symm

/-- Resources of one name have matching types for a property with a plain name that both have, if its
schemas say the same up to order. The walker of the one resource would take the same steps at the schema of
the other, so both can be compared at one schema. -/
theorem exists_alike_of_lookup (h : OfWalk r s w m) (h' : OfWalk r' s' w' m')
    (hkind : r.kind = r'.kind) (hform : s.form = .object) (hform' : s'.form = .object)
    (hkeys : (s.properties.map Prod.fst).Nodup) (hkeys' : (s'.properties.map Prod.fst).Nodup)
    (hplain : Schema.PlainName name) {t t' : Schema} (ht : s.properties.lookup name = some t)
    (ht' : s'.properties.lookup name = some t') (hsame : t.SameUpToOrder t') :
    ∃ i j, m.graph.part? m.root name = some i ∧ m'.graph.part? m'.root name = some j ∧
      m.graph.Alike m'.graph i j := by
  obtain ⟨u, v, i, hnew, hvisits, hext⟩ := h.exists_visits_of_lookup hform hkeys hplain ht
  obtain ⟨u', v', j, hnew', hvisits', hext'⟩ := h'.exists_visits_of_lookup hform' hkeys' hplain ht'
  rw [← hkind] at hnew'
  have hwalk : Walker.walk maxDepth ((Position.root s' r'.kind "").property name t') =
      Walker.walk maxDepth ((Position.root s r.kind "").property name t) :=
    walk_property_root_eq hkind hsame maxDepth
  have halike := hvisits.alike (hvisits'.of_walk_eq hwalk) hnew hnew'
  -- The fields lead to the types that were made when the walkers came to the property.
  obtain ⟨i', hi, hcached⟩ := h.part?_of_lookup hform hkeys ht
  obtain ⟨j', hj, hcached'⟩ := h'.part?_of_lookup hform' hkeys' ht'
  have hi' := hext.cached _ _ (List.forall₂_cons.mp (hvisits.cached_places rfl)).1
  have hj' := hext'.cached _ _ (List.forall₂_cons.mp (hvisits'.cached_places rfl)).1
  obtain rfl := Option.some.inj (hi'.symm.trans hcached)
  obtain rfl := Option.some.inj (hj'.symm.trans hcached')
  refine ⟨i, j, hi, hj, ?_⟩
  rw [h.graph, h'.graph]
  exact halike.extend hext.node hext'.node

/-- Resources of one name have matching types for a property with a plain name, if they say the same
about the property up to the order in which its schema lists things. Where the one has no such property,
the other has none either. -/
theorem rel_part? (h : OfWalk r s w m) (h' : OfWalk r' s' w' m') (hkind : r.kind = r'.kind)
    (hform : s.form = .object) (hform' : s'.form = .object)
    (hkeys : (s.properties.map Prod.fst).Nodup) (hkeys' : (s'.properties.map Prod.fst).Nodup)
    (hplain : Schema.PlainName name)
    (hlookup : Option.Rel Schema.SameUpToOrder (s.properties.lookup name)
      (s'.properties.lookup name)) :
    Option.Rel (m.graph.Alike m'.graph) (m.graph.part? m.root name)
      (m'.graph.part? m'.root name) := by
  generalize ht : s.properties.lookup name = found at hlookup
  generalize ht' : s'.properties.lookup name = found' at hlookup
  cases hlookup with
  | none =>
    rw [h.part?_of_lookup_eq_none hform ht, h'.part?_of_lookup_eq_none hform' ht']
    exact .none
  | some hsame =>
    obtain ⟨i, j, hi, hj, halike⟩ :=
      h.exists_alike_of_lookup h' hkind hform hform' hkeys hkeys' hplain ht ht' hsame
    rw [hi, hj]
    exact .some halike

end CrdToolset.TypeModel.OfWalk
