import CrdToolset.Proofs.TypeGraph.Built
import CrdToolset.Proofs.TypeGraph.PreOrder

/-!
# Where the knowledge of a walker comes from

A walker knows after a visit what it knew before, and what it has learnt on the way about positions
at or below those it visits. The names of properties may make two paths look alike, so the position
that a type was made for need not be the one that is answered. A visit that fails ends with the
refusal of one of those positions, by the walker as it is then.
-/

namespace CrdToolset

variable {p q : Position}

/-- The path of a position goes on from the path of every position above it, step by step. -/
theorem Position.path_of_mem_postOrder (hq : q ∈ p.postOrder) :
    ∃ a : Address, q.path = p.path ++ a.text := by
  have hself : ∃ a : Address, p.path = p.path ++ a.text := ⟨[], by simp [Address.text]⟩
  exact postOrder_induction hself (fun _ hd _ hc => exists_path_of_mem_children hd hc) hq

namespace Walker

variable {w w' : Walker} {levels : Nat} {ps : List Position} {outcome : Except Fault (List Nat)}

/-- After a visit, a path leads to the type it led to before, or to a type that was made for a
position of that path at or below those visited. -/
theorem Visits.origin (h : Visits levels ps w outcome w') {path : String} {place : Nat}
    (hplace : w'.cache.lookup path = some place) :
    w.cache.lookup path = some place ∨
      ∃ p ∈ ps, ∃ q ∈ p.postOrder, q.path = path ∧ w'.graph.Holds q place := by
  induction h with
  | nil => exact .inl hplace
  | refused => exact .inl hplace
  | reused _ _ _ _ _ ih =>
    rcases ih hplace with hold | ⟨p, hp, hq⟩
    · exact .inl hold
    · exact .inr ⟨p, List.mem_cons_of_mem _ hp, hq⟩
  | abandoned _ _ _ ih =>
    rcases ih hplace with hold | ⟨c, hc, q, hq, hpath, hholds⟩
    · exact .inl (by simpa using hold)
    · exact .inr ⟨_, List.mem_cons_self, q, Position.mem_postOrder_of_below hc hq, hpath, hholds⟩
  | @finished _ p _ _ v _ places _ fresh _ below after ihbelow ihafter =>
    rcases ihafter hplace with hadd | ⟨r, hr, hq⟩
    · have hext : v.Extends (v.add p.path (p.node places)) :=
        extends_add (below.not_cached_of_own fresh) _
      rw [lookup_add] at hadd
      split at hadd
      case isTrue hpath =>
        obtain rfl := Option.some.inj hadd
        have hnew : (v.add p.path (p.node places)).graph[v.graph.size]? = some (p.node places) := by
          simp [add]
        refine .inr ⟨p, List.mem_cons_self, p, p.mem_postOrder_self, hpath.symm, ?_⟩
        exact ⟨_, after.extends.node _ _ hnew, rfl, Position.form_node (below.holds rfl)⟩
      case isFalse =>
        rcases ihbelow hadd with hold | ⟨c, hc, q, hq, hpath, hholds⟩
        · exact .inl (by simpa using hold)
        · refine .inr ⟨p, List.mem_cons_self, q, Position.mem_postOrder_of_below hc hq, hpath, ?_⟩
          exact after.extends.holds (hext.holds hholds)
    · exact .inr ⟨r, List.mem_cons_of_mem _ hr, hq⟩

/-- A type that is there after a visit was there before, or was made for a position at or below those
visited. -/
theorem Visits.node_origin (h : Visits levels ps w outcome w') {place : Nat} {node : TypeNode}
    (hnode : w'.graph[place]? = some node) :
    w.graph[place]? = some node ∨
      ∃ p ∈ ps, ∃ q ∈ p.postOrder, ∃ places, node = q.node places := by
  induction h with
  | nil => exact .inl hnode
  | refused => exact .inl hnode
  | reused _ _ _ _ _ ih =>
    exact (ih hnode).imp_right fun ⟨p, hp, hq⟩ => ⟨p, List.mem_cons_of_mem _ hp, hq⟩
  | abandoned _ _ _ ih =>
    rcases ih hnode with hold | ⟨c, hc, q, hq, hmade⟩
    · exact .inl (by simpa using hold)
    · exact .inr ⟨_, List.mem_cons_self, q, Position.mem_postOrder_of_below hc hq, hmade⟩
  | @finished _ p _ _ _ _ places _ _ _ _ _ ihbelow ihafter =>
    rcases ihafter hnode with hadd | ⟨r, hr, hq⟩
    · rcases getElem?_add hadd with hold | ⟨_, rfl⟩
      · rcases ihbelow hold with hold | ⟨c, hc, q, hq, hmade⟩
        · exact .inl (by simpa using hold)
        · exact .inr ⟨p, List.mem_cons_self, q, Position.mem_postOrder_of_below hc hq, hmade⟩
      · exact .inr ⟨p, List.mem_cons_self, p, p.mem_postOrder_self, places, rfl⟩
    · exact .inr ⟨r, List.mem_cons_of_mem _ hr, hq⟩

/-- After a visit, a name has the owner it had before, or belongs to the path of a position of that
name at or below those visited. -/
theorem Visits.owner_origin (h : Visits levels ps w outcome w') {name owner : String}
    (howner : w'.owners.lookup name = some owner) :
    w.owners.lookup name = some owner ∨
      ∃ p ∈ ps, ∃ q ∈ p.postOrder, q.name = name ∧ q.path = owner := by
  induction h with
  | nil => exact .inl howner
  | refused => exact .inl howner
  | reused _ _ _ _ _ ih =>
    rcases ih howner with hold | ⟨p, hp, hq⟩
    · exact .inl hold
    · exact .inr ⟨p, List.mem_cons_of_mem _ hp, hq⟩
  | @abandoned _ p _ _ _ _ _ _ _ ih =>
    rcases ih howner with hold | ⟨c, hc, q, hq, hnames⟩
    · exact (owner_of_own hold).imp_right fun hnames =>
        ⟨p, List.mem_cons_self, p, p.mem_postOrder_self, hnames⟩
    · exact .inr ⟨p, List.mem_cons_self, q, Position.mem_postOrder_of_below hc hq, hnames⟩
  | @finished _ p _ _ _ _ _ _ _ _ _ _ ihbelow ihafter =>
    rcases ihafter howner with hadd | ⟨r, hr, hq⟩
    · rcases ihbelow hadd with hold | ⟨c, hc, q, hq, hnames⟩
      · exact (owner_of_own hold).imp_right fun hnames =>
          ⟨p, List.mem_cons_self, p, p.mem_postOrder_self, hnames⟩
      · exact .inr ⟨p, List.mem_cons_self, q, Position.mem_postOrder_of_below hc hq, hnames⟩
    · exact .inr ⟨r, List.mem_cons_of_mem _ hr, hq⟩

/-- A visit that fails ends with the refusal of a position at or below those visited. The levels that
are left there are those that were left at first, less those that lie between. -/
theorem Visits.exists_refuses (h : Visits levels ps w outcome w') {fault : Fault}
    (hfault : outcome = .error fault) (depth : Nat) :
    ∃ p ∈ ps, ∃ x ∈ p.preOrder depth, ∃ left, x.1 + left = depth + levels ∧
      Refuses left x.2 w' fault := by
  induction h generalizing depth with
  | nil => cases hfault
  | @refused _ p _ _ _ refuses =>
    obtain rfl := Except.error.inj hfault
    exact ⟨p, List.mem_cons_self, _, p.mem_preOrder_self depth, _, rfl, refuses⟩
  | reused _ _ _ _ _ ih =>
    obtain ⟨p, hp, hx⟩ := ih (map_eq_error_iff.mp hfault) depth
    exact ⟨p, List.mem_cons_of_mem _ hp, hx⟩
  | @abandoned levels p _ _ _ _ _ _ _ ih =>
    obtain ⟨c, hc, x, hx, left, hleft, hrefuses⟩ := ih hfault (depth + 1)
    have hlevels : x.1 + left = depth + (levels + 1) := by omega
    exact ⟨p, List.mem_cons_self, x, Position.mem_preOrder_of_below hc hx, left, hlevels, hrefuses⟩
  | finished _ _ _ _ _ ih =>
    obtain ⟨p, hp, hx⟩ := ih (map_eq_error_iff.mp hfault) depth
    exact ⟨p, List.mem_cons_of_mem _ hp, hx⟩

end Walker

end CrdToolset
