import CrdToolset.Proofs.TypeGraph.Matching
import CrdToolset.Proofs.TypeGraph.Origin
import CrdToolset.Proofs.TypeGraph.Separation

/-!
# What lies beside a property does not matter

Two walkers that know the same of the paths at and below one go on to know the same of them when
they visit the same positions there, whatever else they know. The properties of an object are visited
in the order of their names, and a property with a plain name comes before all that could have a path
below its own. So both walkers come to it knowing nothing of the paths there, and the types that they
make for it match.
-/

namespace CrdToolset

namespace Walker

variable {base : String} {w w' v v' : Walker} {levels : Nat} {ps : List Position}
  {outcome outcome' : Except Fault (List Nat)} {places places' : List Nat} {i j : Nat}

/-! ### Two walkers side by side -/

/-- Some path at or below the given one leads to the first place in one walker and to the second
place in the other. This pairs the places of the two graphs. -/
def Shares (base : String) (w w' : Walker) (i j : Nat) : Prop :=
  ∃ a : Address, w.cache.lookup (base ++ a.text) = some i ∧ w'.cache.lookup (base ++ a.text) = some j

/-- The two walkers know the same of the paths at and below the given one: which of them are new,
and, up to the places, which types they lead to. -/
structure Agree (base : String) (w w' : Walker) : Prop where
  /-- What is new to one is new to the other. -/
  fresh : ∀ a : Address, w.cache.lookup (base ++ a.text) = none ↔
    w'.cache.lookup (base ++ a.text) = none
  /-- A path leads to types that match. -/
  graphs : w.graph.Matches (Shares base w w') w'.graph

/-- Places that a path leads to in both walkers are still paired when both have gone on. -/
theorem Shares.extends (h : Shares base w w' i j) (hw : w.Extends v) (hw' : w'.Extends v') :
    Shares base v v' i j := by
  obtain ⟨a, hi, hj⟩ := h
  exact ⟨a, hw.cached _ _ hi, hw'.cached _ _ hj⟩

/-- The places that two walkers have for the same positions, all at or below the path, are paired
one by one. -/
theorem forall₂_shares (hps : ∀ p ∈ ps, ∃ a : Address, p.path = base ++ a.text)
    (h : List.Forall₂ w.Cached ps places) (h' : List.Forall₂ w'.Cached ps places') :
    List.Forall₂ (Shares base w w') places places' := by
  induction h generalizing places' with
  | nil =>
    obtain rfl := List.forall₂_nil_left_iff.mp h'
    exact .nil
  | cons hp _ ih =>
    obtain ⟨_, _, hp', hrest', rfl⟩ := List.forall₂_cons_left_iff.mp h'
    obtain ⟨⟨a, ha⟩, hrest⟩ := List.forall_mem_cons.mp hps
    exact .cons ⟨a, ha ▸ hp, ha ▸ hp'⟩ (ih hrest hrest')

/-- Walkers that know nothing of the paths at and below one agree on them. -/
theorem agree_of_fresh (h : ∀ a : Address, w.cache.lookup (base ++ a.text) = none)
    (h' : ∀ a : Address, w'.cache.lookup (base ++ a.text) = none) : Agree base w w' where
  fresh a := iff_of_true (h a) (h' a)
  graphs i j hij := by
    obtain ⟨a, hi, _⟩ := hij
    cases (h a).symm.trans hi

/-- Claiming names does not change what is known of paths, so the walkers go on to agree. -/
theorem Agree.own (h : Agree base w w') (name owner : String) :
    Agree base (w.own name owner) (w'.own name owner) where
  fresh := by simpa using h.fresh
  graphs := by
    have hshares : Shares base (w.own name owner) (w'.own name owner) = Shares base w w' := by
      unfold Shares
      simp
    rw [hshares, own_graph, own_graph]
    exact h.graphs

/-- Walkers that agree still do so when both have made the type of a position from what they share.
-/
theorem Agree.add (h : Agree base w w') {p : Position}
    (hnew : w.cache.lookup p.path = none) (hnew' : w'.cache.lookup p.path = none)
    (hplaces : List.Forall₂ (Shares base w w') places places') :
    Agree base (w.add p.path (p.node places)) (w'.add p.path (p.node places')) := by
  have hext : w.Extends (w.add p.path (p.node places)) := extends_add hnew _
  have hext' : w'.Extends (w'.add p.path (p.node places')) := extends_add hnew' _
  refine ⟨fun b => ?_, ?_⟩
  · rw [lookup_add, lookup_add]
    split
    · simp
    · exact h.fresh b
  · rintro i j ⟨b, hi, hj⟩
    rw [lookup_add] at hi hj
    by_cases hb : base ++ b.text = p.path
    · rw [if_pos hb] at hi hj
      obtain rfl := Option.some.inj hi
      obtain rfl := Option.some.inj hj
      exact ⟨_, _, by simp [Walker.add], by simp [Walker.add],
        (p.matches_node hplaces).imp fun _ _ _ hab => hab.extends hext hext'⟩
    · rw [if_neg hb] at hi hj
      obtain ⟨node, node', hnode, hnode', hmatches⟩ := h.graphs i j ⟨b, hi, hj⟩
      exact ⟨node, node', hext.node _ _ hnode, hext'.node _ _ hnode',
        hmatches.imp fun _ _ _ hab => hab.extends hext hext'⟩

/-- Walkers that agree about the paths below one still do so after both have visited the same
positions there. -/
theorem Visits.agree (h : Visits levels ps w outcome v) (h' : Visits levels ps w' outcome' v')
    (hok : outcome = .ok places) (hok' : outcome' = .ok places')
    (hps : ∀ p ∈ ps, ∃ a : Address, p.path = base ++ a.text) (hw : Agree base w w') :
    Agree base v v' := by
  induction h generalizing w' v' outcome' places places' with
  | nil =>
    cases h'
    exact hw
  | refused => cases hok
  | abandoned => cases hok
  | @reused _ _ p _ _ _ _ outcome hit _ _ _ _ ih =>
    obtain ⟨⟨a, ha⟩, hrest⟩ := List.forall_mem_cons.mp hps
    cases h' with
    | refused => cases hok'
    | abandoned => cases hok'
    | @reused _ _ _ _ _ _ _ outcome' _ _ _ _ after' =>
      obtain ⟨_, rfl, -⟩ := map_eq_ok_iff.mp hok
      obtain ⟨_, rfl, -⟩ := map_eq_ok_iff.mp hok'
      exact ih after' rfl rfl hrest hw
    | finished fresh' =>
      rw [ha] at hit fresh'
      rw [(hw.fresh a).mpr fresh'] at hit
      cases hit
  | @finished _ p _ _ _ _ _ outcome fresh _ below _ ihbelow ihafter =>
    obtain ⟨⟨a, ha⟩, hrest⟩ := List.forall_mem_cons.mp hps
    have hchildren : ∀ c ∈ p.children, ∃ b : Address, c.path = base ++ b.text :=
      fun c hc => Position.exists_path_of_mem_children ⟨a, ha⟩ hc
    cases h' with
    | refused => cases hok'
    | abandoned => cases hok'
    | reused hit' =>
      rw [ha] at hit' fresh
      rw [(hw.fresh a).mp fresh] at hit'
      cases hit'
    | @finished _ _ _ _ _ _ _ outcome' fresh' _ below' after' =>
      have hbelow := ihbelow below' rfl rfl hchildren (hw.own _ _)
      have hplaces := forall₂_shares hchildren (below.cached_places rfl) (below'.cached_places rfl)
      have hadd := hbelow.add (below.not_cached_of_own fresh) (below'.not_cached_of_own fresh')
        hplaces
      obtain ⟨_, rfl, -⟩ := map_eq_ok_iff.mp hok
      obtain ⟨_, rfl, -⟩ := map_eq_ok_iff.mp hok'
      exact ihafter after' rfl rfl hrest hadd

/-- Walkers that know nothing of the paths at and below that of a position make types for it that
match. -/
theorem Visits.alike {p : Position} (h : Visits levels [p] w (.ok [i]) v)
    (h' : Visits levels [p] w' (.ok [j]) v')
    (hnew : ∀ a : Address, w.cache.lookup (p.path ++ a.text) = none)
    (hnew' : ∀ a : Address, w'.cache.lookup (p.path ++ a.text) = none) :
    v.graph.Alike v'.graph i j := by
  have hps : ∀ q ∈ [p], ∃ a : Address, q.path = p.path ++ a.text := by
    intro q hq
    obtain rfl := List.mem_singleton.mp hq
    exact ⟨[], by simp [Address.text]⟩
  have hagree := h.agree h' rfl rfl hps (agree_of_fresh hnew hnew')
  have hplaces := forall₂_shares hps (h.cached_places rfl) (h'.cached_places rfl)
  exact ⟨_, hagree.graphs, (List.forall₂_cons.mp hplaces).1⟩

end Walker

end CrdToolset
