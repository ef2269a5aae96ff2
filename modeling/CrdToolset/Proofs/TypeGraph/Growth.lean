import CrdToolset.Proofs.TypeGraph.Visit
import Mathlib.Data.List.Forall2

/-!
# What a visit adds

A visit adds types, paths and owners to what a walker knows and changes nothing that was there, also
when it fails. The paths that it adds go on from the paths of the positions visited, so a position
is still new when the positions below it have been visited.
-/

namespace CrdToolset.Walker

variable {w v w' : Walker} {levels : Nat} {ps : List Position} {outcome : Except Fault (List Nat)}

/-- Whatever the first walker knows, the second knows too: types keep their places, paths their
types and names their owners. -/
structure Extends (w v : Walker) : Prop where
  /-- Types keep their places. -/
  node : ∀ (place : Nat) (node : TypeNode), w.graph[place]? = some node →
    v.graph[place]? = some node
  /-- Paths keep the types made for them. -/
  cached : ∀ path place, w.cache.lookup path = some place → v.cache.lookup path = some place
  /-- Names keep their owners. -/
  owner : ∀ name owner, w.owners.lookup name = some owner → v.owners.lookup name = some owner

/-- Every walker extends itself, as when a call changes nothing. -/
theorem Extends.refl (w : Walker) : w.Extends w := ⟨fun _ _ h => h, fun _ _ h => h, fun _ _ h => h⟩

/-- A walker that extends a second extends every third that the second extends. So steps can be
taken together. -/
theorem Extends.trans (h : w.Extends v) (h' : v.Extends w') : w.Extends w' where
  node place node hnode := h'.node place node (h.node place node hnode)
  cached path place hplace := h'.cached path place (h.cached path place hplace)
  owner name owner howner := h'.owner name owner (h.owner name owner howner)

/-! ### Claiming a name and adding a type -/

/-- Claiming a name makes no type. -/
@[simp] theorem own_graph (name owner : String) (w : Walker) :
    (w.own name owner).graph = w.graph := by
  unfold own
  split <;> rfl

/-- Claiming a name leaves the cache alone. -/
@[simp] theorem own_cache (name owner : String) (w : Walker) :
    (w.own name owner).cache = w.cache := by
  unfold own
  split <;> rfl

/-- A name that was free belongs to the one who claimed it. -/
theorem lookup_own_self {name owner : String} (h : w.Free name owner) :
    (w.own name owner).owners.lookup name = some owner := by
  unfold own
  split
  case h_1 first hfirst => rw [hfirst, h first hfirst]
  case h_2 => exact List.lookup_cons_self

/-- After a name has been claimed, an owner was there before or has claimed the name. -/
theorem owner_of_own {name owner other first : String}
    (h : (w.own name owner).owners.lookup other = some first) :
    w.owners.lookup other = some first ∨ name = other ∧ owner = first := by
  unfold own at h
  split at h
  case h_1 => exact .inl h
  case h_2 =>
    rw [List.lookup_cons] at h
    split at h
    case h_1 hname => exact .inr ⟨(beq_iff_eq.mp hname).symm, Option.some.inj h⟩
    case h_2 => exact .inl h

/-- Claiming a name takes it from nobody: a name that has an owner keeps it. -/
theorem extends_own (name owner : String) (w : Walker) : w.Extends (w.own name owner) := by
  refine ⟨by simp, by simp, fun other first hfirst => ?_⟩
  unfold own
  split
  case h_1 => exact hfirst
  case h_2 hnone =>
    have hne : (other == name) = false := by
      simp only [beq_eq_false_iff_ne]
      rintro rfl
      simp [hnone] at hfirst
    simpa [List.lookup_cons, hne] using hfirst

/-- A new path leads to the new type, and all others lead to where they led before. -/
theorem lookup_add (path other : String) (node : TypeNode) (w : Walker) :
    (w.add path node).cache.lookup other =
      if other = path then some w.graph.size else w.cache.lookup other := by
  by_cases h : other = path
  · subst h
    simp [add]
  · have hne : (other == path) = false := by simpa using h
    simp [add, List.lookup_cons, hne, h]

/-- When a type has been added for a path, the path leads to the place of that type. -/
theorem lookup_add_self (path : String) (node : TypeNode) (w : Walker) :
    (w.add path node).cache.lookup path = some w.graph.size := by
  rw [lookup_add, if_pos rfl]

/-- Adding a type for a path that is new changes nothing that was there. For a known path it would
hide the type known before. -/
theorem extends_add {path : String} (hnew : w.cache.lookup path = none) (node : TypeNode) :
    w.Extends (w.add path node) := by
  refine ⟨fun place old hold => ?_, fun other place hplace => ?_, fun _ _ h => h⟩
  · have hlt : place < w.graph.size := (Array.getElem?_eq_some_iff.mp hold).1
    simp only [add, Array.getElem?_push]
    rw [if_neg (by omega), hold]
  · rw [lookup_add, if_neg, hplace]
    rintro rfl
    simp [hnew] at hplace

/-! ### What a visit adds -/

/-- Every path that a visit adds goes on from the path of a position that is visited. -/
theorem Visits.path_of_cached (h : Visits levels ps w outcome w') {path : String} {place : Nat}
    (hplace : w'.cache.lookup path = some place) :
    w.cache.lookup path = some place ∨ ∃ p ∈ ps, ∃ tail, path = p.path ++ tail := by
  induction h with
  | nil => exact .inl hplace
  | refused => exact .inl hplace
  | reused _ _ _ _ _ ih =>
    rcases ih hplace with hold | ⟨q, hq, tail, rfl⟩
    · exact .inl hold
    · exact .inr ⟨q, by simp [hq], tail, rfl⟩
  | abandoned _ _ _ ih =>
    rcases ih hplace with hold | ⟨c, hc, tail, rfl⟩
    · exact .inl (by simpa using hold)
    · obtain ⟨longer, heq, _⟩ := Position.path_append_of_mem_children hc tail
      exact .inr ⟨_, List.mem_cons_self, longer, heq⟩
  | @finished _ p _ _ _ _ _ _ _ _ _ _ ihbelow ihafter =>
    rcases ihafter hplace with hadd | ⟨q, hq, tail, rfl⟩
    · rw [lookup_add] at hadd
      split at hadd
      case isTrue hpath => exact .inr ⟨p, List.mem_cons_self, "", by simp [hpath]⟩
      case isFalse =>
        rcases ihbelow hadd with hold | ⟨c, hc, tail, rfl⟩
        · exact .inl (by simpa using hold)
        · obtain ⟨longer, heq, _⟩ := Position.path_append_of_mem_children hc tail
          exact .inr ⟨p, List.mem_cons_self, longer, heq⟩
    · exact .inr ⟨q, by simp [hq], tail, rfl⟩

/-- A walker that knew no paths has finished a position if the visit succeeds, since it could not
answer it from the cache. -/
theorem Visits.finished_of_new {p : Position} {root : Nat}
    (h : Visits (levels + 1) [p] w (.ok [root]) w') (hnew : w.cache = []) :
    ∃ v places, Visits levels p.children (w.own p.name p.path) (.ok places) v ∧
      w' = v.add p.path (p.node places) ∧ root = v.graph.size := by
  generalize hps : [p] = ps at h
  generalize hok : Except.ok [root] = outcome at h
  cases h with
  | nil => cases hps
  | refused => cases hok
  | reused hit =>
    rw [hnew] at hit
    cases hit
  | abandoned => cases hok
  | @finished _ p _ _ v _ places outcome _ _ below after =>
    obtain ⟨rfl, rfl⟩ := List.cons.inj hps
    cases after
    exact ⟨v, places, below, rfl, by simpa [Except.map] using hok⟩

/-- When one position has been visited by a walker that knew no paths, every other type was made for
a path that goes on from the path of a position directly below. -/
theorem Visits.path_of_cached_below {p : Position} {root : Nat}
    (h : Visits (levels + 1) [p] w (.ok [root]) w') (hnew : w.cache = []) {path : String}
    {place : Nat} (hplace : w'.cache.lookup path = some place) (hne : place ≠ root) :
    ∃ c ∈ p.children, ∃ tail, path = c.path ++ tail := by
  obtain ⟨v, places, hbelow, rfl, rfl⟩ := h.finished_of_new hnew
  rw [lookup_add] at hplace
  split at hplace
  case isTrue => exact absurd (Option.some.inj hplace).symm hne
  case isFalse =>
    rcases hbelow.path_of_cached hplace with hold | hbelow
    · rw [own_cache, hnew] at hold
      cases hold
    · exact hbelow

/-- A position that is new stays new while the positions below it are visited, because all paths
below are longer than its own. -/
theorem Visits.not_cached {p : Position} (h : Visits levels p.children w outcome w')
    (fresh : w.cache.lookup p.path = none) : w'.cache.lookup p.path = none := by
  cases hplace : w'.cache.lookup p.path with
  | none => rfl
  | some place =>
    rcases h.path_of_cached hplace with hold | ⟨c, hc, tail, heq⟩
    · simp [fresh] at hold
    · obtain ⟨longer, hlonger, hne⟩ := Position.path_append_of_mem_children hc tail
      exact absurd (String.append_eq_left_iff.mp (heq.trans hlonger).symm) hne

/-- When the positions below a new position have been visited after it claimed its name, its type is
still added for a new path. -/
theorem Visits.not_cached_of_own {p : Position}
    (h : Visits levels p.children (w.own p.name p.path) outcome w')
    (fresh : w.cache.lookup p.path = none) : w'.cache.lookup p.path = none :=
  h.not_cached (by simpa using fresh)

/-- A visit only adds to what the walker knows, also when it ends with a fault. -/
theorem Visits.extends (h : Visits levels ps w outcome w') : w.Extends w' := by
  induction h with
  | nil => exact .refl _
  | refused => exact .refl _
  | reused _ _ _ _ _ ih => exact ih
  | abandoned _ _ _ ih => exact (extends_own ..).trans ih
  | finished fresh _ below _ ihbelow ihafter =>
    have hadd := extends_add (below.not_cached_of_own fresh)
    exact (extends_own ..).trans (ihbelow.trans ((hadd _).trans ihafter))

/-- The cache of the walker leads from the path of the position to the given place. -/
def Cached (w : Walker) (p : Position) (place : Nat) : Prop := w.cache.lookup p.path = some place

/-- The places that a visit ends with are those of the types made for the paths. -/
theorem Visits.cached_places (h : Visits levels ps w outcome w') {places : List Nat}
    (hok : outcome = .ok places) : List.Forall₂ w'.Cached ps places := by
  induction h generalizing places with
  | nil =>
    obtain rfl : [] = places := by simpa using hok
    exact .nil
  | refused => cases hok
  | @reused _ place _ _ _ _ _ outcome hit _ _ _ after ih =>
    obtain ⟨rest, rfl, rfl⟩ := map_eq_ok_iff.mp hok
    exact .cons (after.extends.cached _ _ hit) (ih rfl)
  | abandoned => cases hok
  | @finished _ p _ _ v _ _ outcome _ _ _ after _ ih =>
    obtain ⟨rest, rfl, rfl⟩ := map_eq_ok_iff.mp hok
    exact .cons (after.extends.cached _ _ (lookup_add_self ..)) (ih rfl)

end CrdToolset.Walker
