import CrdToolset.Proofs.TypeGraph.Calls
import CrdToolset.Proofs.TypeGraph.Built

/-!
# Asking again

A visit that is made again from the state in which it ended goes another way: what was finished the
first time is answered from the cache, and the names that were claimed belong to the paths that claim
them again. It comes to the same outcome and changes nothing, also where the first visit failed
halfway.
-/

namespace CrdToolset.Walker

variable {w w' : Walker} {levels : Nat} {ps : List Position} {outcome : Except Fault (List Nat)}

/-- An owner who claims a name again changes nothing, because the name is theirs already. -/
theorem own_of_owned {name owner : String} (h : w.owners.lookup name = some owner) :
    w.own name owner = w := by
  unfold own
  rw [h]

/-- An owner may claim a name again, since nobody else owns it. -/
theorem free_of_owned {name owner : String} (h : w.owners.lookup name = some owner) :
    w.Free name owner := by
  intro first hfirst
  exact Option.some.inj (hfirst.symm.trans h)

/-- The name of a position that was entered belongs to its path when the visit below it is over. -/
theorem Visits.owner_of_entered {p : Position} (free : w.Free p.name p.path)
    (below : Visits levels ps (w.own p.name p.path) outcome w') :
    w'.owners.lookup p.name = some p.path :=
  below.extends.owner _ _ (lookup_own_self free)

/-- A type that was added is found for its path as long as nothing is taken away. -/
theorem Extends.found_of_add {v : Walker} {path : String} {node : TypeNode}
    (h : (v.add path node).Extends w') :
    w'.cache.lookup path = some v.graph.size ∧ w'.graph[v.graph.size]? = some node := by
  refine ⟨h.cached _ _ (lookup_add_self ..), h.node _ _ ?_⟩
  exact Array.getElem?_push_size

/-- A visit that is made again from where it ended has the same outcome and changes nothing. Each
position goes its own way: a type that was finished is now reused, and one that was abandoned is
still new, claims a name that is its own and is abandoned again for the same reason. -/
theorem Visits.again (h : Visits levels ps w outcome w') : Visits levels ps w' outcome w' := by
  induction h with
  | nil => exact .nil
  | refused refuses => exact .refused refuses
  | reused hit found name form after ih =>
    have hext := after.extends
    exact .reused (hext.cached _ _ hit) (hext.node _ _ found) name form ih
  | abandoned fresh free below ih =>
    have howner := below.owner_of_entered free
    refine .abandoned (below.not_cached_of_own fresh) (free_of_owned howner) ?_
    rw [own_of_owned howner]
    exact ih
  | @finished _ p _ _ v _ places _ _ _ below after _ ih =>
    obtain ⟨hit, found⟩ := after.extends.found_of_add
    exact .reused hit found rfl (Position.form_node (below.cached_places rfl)) ih

/-- Whatever a walker knows, an analysis that is made a second time right after the first one has the
same outcome, a reference to the same type or the same fault, and leaves the types, the cache and the
owners as the first one left them. -/
theorem run_analyze_again (w : Walker) (schema : Option Schema) (name field : String)
    (required : Bool) :
    (analyze schema name field required).run
        (Prod.snd ((analyze schema name field required).run w)) =
      (analyze schema name field required).run w := by
  cases schema with
  | none => rfl
  | some schema =>
    cases hrun : (analyze (some schema) name field required).run w with
    | mk outcome v =>
      obtain ⟨result, rfl, hvisits⟩ := visits_of_run_analyze hrun
      exact run_analyze_of_visits_map hvisits.again

end CrdToolset.Walker
