import CrdToolset.Proofs.TypeGraph.Growth
import CrdToolset.Proofs.TypeGraph.Shape
import Mathlib.Data.List.Nodup
import Mathlib.Logic.ExistsUnique

/-!
# The types, the cache and the owners of a walker agree

After any visit the names of the types are different from each other, every type refers to types
before it, the cache pairs paths with types one to one, and the name of a type belongs to the path
that the type was made for.
-/

namespace CrdToolset

/-- Where no two types of a graph have the same name, a name leads to one place at most. -/
theorem TypeGraph.place_eq_of_name_eq {g : TypeGraph}
    (hnames : (g.toList.map TypeNode.name).Nodup) {i j : Nat}
    {a b : TypeNode} (ha : g[i]? = some a) (hb : g[j]? = some b) (hname : a.name = b.name) :
    i = j := by
  have hget {k : Nat} {c : TypeNode} (hc : g[k]? = some c) :
      (g.toList.map TypeNode.name)[k]? = some c.name := by
    rw [List.getElem?_map, Array.getElem?_toList, hc]
    rfl
  obtain ⟨hlt, _⟩ := List.getElem?_eq_some_iff.mp (hget ha)
  exact (List.getElem?_inj hlt hnames).mp (by rw [hget ha, hget hb, hname])

namespace Walker

variable {w v w' : Walker} {levels : Nat} {ps : List Position} {outcome : Except Fault (List Nat)}

/-- The types, the cache and the owners of a walker agree with each other. This is the invariant
that every step keeps. -/
structure Sound (w : Walker) : Prop where
  /-- No two types have the same name. -/
  names : (w.graph.toList.map TypeNode.name).Nodup
  /-- A type refers to types before it only. -/
  earlier : ∀ (place : Nat) (node : TypeNode), w.graph[place]? = some node →
    ∀ i ∈ node.references, i < place
  /-- Every path in the cache leads to a type. -/
  cached_lt : ∀ path place, w.cache.lookup path = some place → place < w.graph.size
  /-- Every type was made for one path. -/
  path_unique : ∀ place < w.graph.size, ∃! path, w.cache.lookup path = some place
  /-- The name of a type belongs to the path that the type was made for. -/
  owned : ∀ (path : String) (place : Nat) (node : TypeNode), w.cache.lookup path = some place →
    w.graph[place]? = some node → w.owners.lookup node.name = some path

/-- A new walker is sound, since it knows no types, paths or names that could disagree. -/
theorem sound_empty : ({} : Walker).Sound where
  names := List.nodup_nil
  earlier place node h := by simp at h
  cached_lt path place h := by simp at h
  path_unique place h := by simp at h
  owned path place node h := by simp at h

/-- Claiming a name keeps a walker sound: a name that has an owner keeps it, and a new one takes
nothing away. -/
theorem Sound.own (h : w.Sound) (name owner : String) : (w.own name owner).Sound where
  names := by simpa using h.names
  earlier := by simpa using h.earlier
  cached_lt := by simpa using h.cached_lt
  path_unique := by simpa using h.path_unique
  owned path place node hplace hnode := by
    rw [own_cache] at hplace
    rw [own_graph] at hnode
    exact (extends_own ..).owner _ _ (h.owned path place node hplace hnode)

/-- Where all is in agreement, a type of a given name was made for the owner of the name. -/
theorem Sound.cached_of_owner (h : w.Sound) {place : Nat} {node : TypeNode} {path : String}
    (hnode : w.graph[place]? = some node) (howner : w.owners.lookup node.name = some path) :
    w.cache.lookup path = some place := by
  have hlt : place < w.graph.size := (Array.getElem?_eq_some_iff.mp hnode).1
  obtain ⟨other, hplace, _⟩ := h.path_unique place hlt
  have hother := h.owned other place node hplace hnode
  obtain rfl : path = other := by simpa using howner.symm.trans hother
  exact hplace

/-- The types after one has been added: those from before, and the new one at the next place. -/
theorem getElem?_add {path : String} {node made : TypeNode} {place : Nat}
    (h : (w.add path node).graph[place]? = some made) :
    w.graph[place]? = some made ∨ place = w.graph.size ∧ made = node := by
  simp only [add, Array.getElem?_push] at h
  split at h
  case isTrue hplace => exact .inr ⟨hplace, (Option.some.inj h).symm⟩
  case isFalse => exact .inl h

/-- A type can be added for a path that is new and owns its name, if it refers to types that are
there. -/
theorem Sound.add (h : w.Sound) {path : String} {node : TypeNode}
    (hnew : w.cache.lookup path = none) (howner : w.owners.lookup node.name = some path)
    (hrefs : ∀ i ∈ node.references, i < w.graph.size) : (w.add path node).Sound where
  names := by
    -- A type of the same name would have been made for the path that is new.
    have hfresh : ∀ old ∈ w.graph.toList, old.name ≠ node.name := by
      intro old hold heq
      obtain ⟨place, hplace⟩ := List.mem_iff_getElem?.mp hold
      have hcached := h.cached_of_owner (by simpa using hplace) (heq ▸ howner)
      simp [hnew] at hcached
    simpa [Walker.add, List.nodup_append, h.names] using hfresh
  earlier place made hmade := by
    rcases getElem?_add hmade with hold | ⟨rfl, rfl⟩
    · exact h.earlier place made hold
    · exact hrefs
  cached_lt other place hplace := by
    have hsize : (w.add path node).graph.size = w.graph.size + 1 := Array.size_push ..
    rw [lookup_add] at hplace
    split at hplace
    case isTrue =>
      obtain rfl := Option.some.inj hplace
      omega
    case isFalse =>
      have := h.cached_lt other place hplace
      omega
  path_unique place hlt := by
    have hsize : (w.add path node).graph.size = w.graph.size + 1 := Array.size_push ..
    simp only [lookup_add]
    by_cases hplace : place = w.graph.size
    · subst hplace
      refine ⟨path, by simp, fun other hother => ?_⟩
      dsimp only at hother
      by_contra hne
      rw [if_neg hne] at hother
      exact absurd (h.cached_lt _ _ hother) (by omega)
    · obtain ⟨old, hold, hunique⟩ := h.path_unique place (by omega)
      have hne : old ≠ path := by
        rintro rfl
        simp [hnew] at hold
      refine ⟨old, by simpa [hne] using hold, fun other hother => ?_⟩
      dsimp only at hother
      split at hother
      case isTrue => exact absurd (Option.some.inj hother).symm hplace
      case isFalse => exact hunique other hother
  owned other place made hplace hmade := by
    rw [lookup_add] at hplace
    rcases getElem?_add hmade with hold | ⟨rfl, rfl⟩
    · have hlt : place < w.graph.size := (Array.getElem?_eq_some_iff.mp hold).1
      split at hplace
      case isTrue => exact absurd (Option.some.inj hplace) (by omega)
      case isFalse => exact h.owned other place made hplace hold
    · split at hplace
      case isTrue hpath => rw [hpath]; exact howner
      case isFalse => exact absurd (h.cached_lt _ _ hplace) (by omega)

/-- Every place that a successful visit ends with is the place of a type of the graph. -/
theorem Visits.places_lt (h : Visits levels ps w outcome w') (hw : w'.Sound) {places : List Nat}
    (hok : outcome = .ok places) : ∀ i ∈ places, i < w'.graph.size := by
  intro i hi
  have hcached := h.cached_places hok
  obtain ⟨k, hk⟩ := List.mem_iff_getElem?.mp hi
  obtain ⟨hlt, rfl⟩ := List.getElem?_eq_some_iff.mp hk
  exact hw.cached_lt _ _ (hcached.get (hcached.length_eq ▸ hlt) hlt)

/-- A visit keeps a walker sound, also when it fails halfway. -/
theorem Visits.sound (h : Visits levels ps w outcome w') (hw : w.Sound) : w'.Sound := by
  induction h with
  | nil => exact hw
  | refused => exact hw
  | reused _ _ _ _ _ ih => exact ih hw
  | abandoned _ _ _ ih => exact ih (hw.own ..)
  | @finished _ p _ _ v _ places _ fresh free below _ ihbelow ihafter =>
    have hv : v.Sound := ihbelow (hw.own ..)
    have howner := below.extends.owner _ _ (lookup_own_self free)
    have hrefs : ∀ i ∈ (p.node places).references, i < v.graph.size :=
      fun i hi => below.places_lt hv rfl i (references_node hi)
    exact ihafter (hv.add (below.not_cached_of_own fresh) howner hrefs)

end Walker

end CrdToolset
