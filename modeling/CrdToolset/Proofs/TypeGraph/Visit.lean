import CrdToolset.Proofs.Outcome
import CrdToolset.Proofs.TypeGraph.Address
import CrdToolset.TypeGraph.Walker

/-!
# Visits

What a walker does when it walks a list of positions, as a relation between the state before, the
outcome and the state after. Each position is refused at once, answered from what the walker
remembers, given up because a position below it fails, or finished. Every walk is a visit, so
whatever holds of all visits is proved by one induction with these cases.
-/

namespace CrdToolset

/-- The type that a walker makes for a position, given the places of the types directly below it. -/
def Position.node (p : Position) (places : List Nat) : TypeNode :=
  ⟨p.name, p.field, Walker.shape p places, p.schema.constraints⟩

namespace Walker

/-- The walker after a name has been claimed for an owner. Nothing changes if the name has an owner
already. -/
def own (name owner : String) (w : Walker) : Walker :=
  match w.owners.lookup name with
  | some _ => w
  | none => { w with owners := (name, owner) :: w.owners }

/-- The walker with one more type at the end of its graph, made for a path that is now in the
cache. -/
def add (path : String) (node : TypeNode) (w : Walker) : Walker :=
  { w with graph := w.graph.push node, cache := (path, w.graph.size) :: w.cache }

/-- Nobody but the owner has claimed the name, so claiming it for the owner succeeds. -/
def Free (name owner : String) (w : Walker) : Prop :=
  ∀ first, w.owners.lookup name = some first → first = owner

/-- A position is refused before anything below it is visited: it lies too deep, its path leads to a
type that does not fit, or its name has another owner. -/
inductive Refuses : Nat → Position → Walker → Fault → Prop
  | tooDeep {p : Position} {w : Walker} : Refuses 0 p w (.tooDeep p.path maxDepth)
  | mismatch {levels place : Nat} {p : Position} {w : Walker} {node : TypeNode}
      (hit : w.cache.lookup p.path = some place) (found : w.graph[place]? = some node)
      (differs : ¬(node.name = p.name ∧ node.form = p.schema.form)) :
      Refuses (levels + 1) p w (.cacheMismatch p.path (describe p.name p.schema.form)
        (describe node.name node.form))
  | dangling {levels place : Nat} {p : Position} {w : Walker}
      (hit : w.cache.lookup p.path = some place) (missing : w.graph[place]? = none) :
      Refuses (levels + 1) p w (.cacheMismatch p.path (describe p.name p.schema.form) "")
  | collision {levels : Nat} {p : Position} {w : Walker} {first : String}
      (fresh : w.cache.lookup p.path = none) (owned : w.owners.lookup p.name = some first)
      (other : first ≠ p.path) : Refuses (levels + 1) p w (.nameCollision p.name first p.path)

/-- A walker visits positions one after the other, each at most so many levels deep, and ends with
the places of their types or with a fault. -/
inductive Visits : Nat → List Position → Walker → Except Fault (List Nat) → Walker → Prop
  | nil {levels : Nat} {w : Walker} : Visits levels [] w (.ok []) w
  | refused {levels : Nat} {p : Position} {rest : List Position} {w : Walker} {fault : Fault}
      (refuses : Refuses levels p w fault) : Visits levels (p :: rest) w (.error fault) w
  | reused {levels place : Nat} {p : Position} {rest : List Position} {w w' : Walker}
      {node : TypeNode} {outcome : Except Fault (List Nat)}
      (hit : w.cache.lookup p.path = some place) (found : w.graph[place]? = some node)
      (name : node.name = p.name) (form : node.form = p.schema.form)
      (after : Visits (levels + 1) rest w outcome w') :
      Visits (levels + 1) (p :: rest) w (outcome.map (place :: ·)) w'
  | abandoned {levels : Nat} {p : Position} {rest : List Position} {w w' : Walker} {fault : Fault}
      (fresh : w.cache.lookup p.path = none) (free : w.Free p.name p.path)
      (below : Visits levels p.children (w.own p.name p.path) (.error fault) w') :
      Visits (levels + 1) (p :: rest) w (.error fault) w'
  | finished {levels : Nat} {p : Position} {rest : List Position} {w v w' : Walker}
      {places : List Nat} {outcome : Except Fault (List Nat)} (fresh : w.cache.lookup p.path = none)
      (free : w.Free p.name p.path)
      (below : Visits levels p.children (w.own p.name p.path) (.ok places) v)
      (after : Visits (levels + 1) rest (v.add p.path (p.node places)) outcome w') :
      Visits (levels + 1) (p :: rest) w (outcome.map (v.graph.size :: ·)) w'

/-- A position answered from the cache puts the place that was found before those of the others. -/
theorem Visits.reused_ok {levels place : Nat} {p : Position} {rest : List Position} {w w' : Walker}
    {node : TypeNode} {places : List Nat} (hit : w.cache.lookup p.path = some place)
    (found : w.graph[place]? = some node) (name : node.name = p.name)
    (form : node.form = p.schema.form) (after : Visits (levels + 1) rest w (.ok places) w') :
    Visits (levels + 1) (p :: rest) w (.ok (place :: places)) w' :=
  .reused hit found name form after

/-- A position that is finished puts the place of its new type before those of the others. -/
theorem Visits.finished_ok {levels place : Nat} {p : Position} {rest : List Position}
    {w v w' : Walker} {below others : List Nat} (fresh : w.cache.lookup p.path = none)
    (free : w.Free p.name p.path)
    (hbelow : Visits levels p.children (w.own p.name p.path) (.ok below) v)
    (hplace : v.graph.size = place)
    (after : Visits (levels + 1) rest (v.add p.path (p.node below)) (.ok others) w') :
    Visits (levels + 1) (p :: rest) w (.ok (place :: others)) w' :=
  hplace ▸ .finished fresh free hbelow after

/-- A name that has no owner is free for everybody. -/
theorem free_of_new {name owner : String} {w : Walker} (h : w.owners.lookup name = none) :
    w.Free name owner := by
  intro first hfirst
  cases h.symm.trans hfirst

/-! ### Steps of a walk -/

variable {α β : Type} {x : Walk α} {f : α → Walk β} {w w' : Walker} {fault : Fault}

/-- After a step that succeeds, the next step goes on with its result and from the state it left. -/
theorem run_bind_of_ok {a : α} (h : x.run w = (.ok a, w')) : (x >>= f).run w = (f a).run w' := by
  change StateT.run x.run w = pure (.ok a, w') at h
  change StateT.run (x >>= f).run w = StateT.run (f a).run w'
  rw [ExceptT.run_bind, StateT.run_bind, h, pure_bind]

/-- After a step that fails, there is no other: the fault and the state are those of the first. -/
theorem run_bind_of_error (h : x.run w = (.error fault, w')) :
    (x >>= f).run w = (.error fault, w') := by
  change StateT.run x.run w = pure (.error fault, w') at h
  change StateT.run (x >>= f).run w = pure (.error fault, w')
  rw [ExceptT.run_bind, StateT.run_bind, h, pure_bind, StateT.run_pure]

/-- A step that looks at the walker first sees the state that it starts from. -/
theorem run_get_bind {f : Walker → Walk β} : ((get : Walk Walker) >>= f).run w = (f w).run w :=
  run_bind_of_ok rfl

/-- A name that nobody else has claimed can be claimed, and the walker then has the owner for it. -/
theorem run_claim_of_free {name owner : String} (h : w.Free name owner) :
    (claim name owner).run w = (.ok (), w.own name owner) := by
  unfold claim own
  rw [run_get_bind]
  cases howner : w.owners.lookup name with
  | none => rfl
  | some first => simp only [h first howner, if_true]; rfl

/-- A name with another owner cannot be claimed. The fault names both owners, and the walker does
not change. -/
theorem run_claim_of_owned {name owner first : String} (h : w.owners.lookup name = some first)
    (hne : first ≠ owner) :
    (claim name owner).run w = (.error (.nameCollision name first owner), w) := by
  unfold claim
  rw [run_get_bind, h]
  simp only [if_neg hne]
  rfl

/-- A new type is put at the next place of the graph, which is the result of the step. -/
theorem run_push (path : String) (node : TypeNode) (w : Walker) :
    (push path node).run w = (.ok w.graph.size, w.add path node) := rfl

/-- A position whose path is in the cache is answered from there, if the type at the place fits. -/
theorem run_walk_of_hit {levels place : Nat} {p : Position}
    (h : w.cache.lookup p.path = some place) :
    (walk (levels + 1) p).run w = (reuse p place).run w := by
  unfold walk
  rw [run_get_bind, h]

/-- A position whose path is new claims its name and is finished after the positions below it. -/
theorem run_walk_of_fresh {levels : Nat} {p : Position} (h : w.cache.lookup p.path = none) :
    (walk (levels + 1) p).run w = (do
      claim p.name p.path
      let places ← p.children.mapM (walk levels)
      push p.path (p.node places) : Walk Nat).run w := by
  unfold walk
  rw [run_get_bind, h]
  rfl

/-- A remembered type is the answer if it has the name and the form of the position. -/
theorem run_reuse_of_found {place : Nat} {p : Position} {node : TypeNode}
    (found : w.graph[place]? = some node) :
    (reuse p place).run w =
      if node.name = p.name ∧ node.form = p.schema.form then (.ok place, w)
      else (.error (.cacheMismatch p.path (describe p.name p.schema.form)
        (describe node.name node.form)), w) := by
  unfold reuse
  rw [run_get_bind, found]
  by_cases hfits : node.name = p.name ∧ node.form = p.schema.form
  · simp only [if_pos hfits]
    rfl
  · simp only [if_neg hfits]
    rfl

/-- A place without a type is no answer for a position. The fault says so with an empty
description. -/
theorem run_reuse_of_missing {place : Nat} {p : Position} (missing : w.graph[place]? = none) :
    (reuse p place).run w =
      (.error (.cacheMismatch p.path (describe p.name p.schema.form) ""), w) := by
  unfold reuse
  rw [run_get_bind, missing]
  rfl

/-! ### Every walk is a visit -/

/-- The walk of a list whose first position fails ends there, in the state that the first position
left. -/
theorem run_mapM_cons_of_error {levels : Nat} {p : Position} {rest : List Position}
    (h : (walk levels p).run w = (.error fault, w')) :
    ((p :: rest).mapM (walk levels)).run w = (.error fault, w') := by
  rw [List.mapM_cons, run_bind_of_error h]

/-- The walk of a list whose first position succeeds goes on with the others, from the state that
the first left. -/
theorem run_mapM_cons_of_ok {levels place : Nat} {p : Position} {rest : List Position} {v : Walker}
    {outcome : Except Fault (List Nat)} (h : (walk levels p).run w = (.ok place, v))
    (hrest : (rest.mapM (walk levels)).run v = (outcome, w')) :
    ((p :: rest).mapM (walk levels)).run w = (outcome.map (place :: ·), w') := by
  rw [List.mapM_cons, run_bind_of_ok h]
  cases outcome with
  | error fault => rw [run_bind_of_error hrest]; rfl
  | ok places => rw [run_bind_of_ok hrest]; rfl

/-- A list of positions whose first one is refused is not visited further, and the walker does not
change. -/
theorem run_mapM_of_refuses {levels : Nat} {p : Position} {rest : List Position}
    (h : Refuses levels p w fault) :
    ((p :: rest).mapM (walk levels)).run w = (.error fault, w) := by
  refine run_mapM_cons_of_error ?_
  cases h with
  | tooDeep => rfl
  | mismatch hit found differs => rw [run_walk_of_hit hit, run_reuse_of_found found, if_neg differs]
  | dangling hit missing => rw [run_walk_of_hit hit, run_reuse_of_missing missing]
  | collision fresh owned other =>
    rw [run_walk_of_fresh fresh, run_bind_of_error (run_claim_of_owned owned other)]

/-- A visit describes a walk of the list of positions: the walk has the outcome and the state that
the visit ends with. -/
theorem Visits.run_mapM {levels : Nat} {ps : List Position} {outcome : Except Fault (List Nat)}
    (h : Visits levels ps w outcome w') : (ps.mapM (walk levels)).run w = (outcome, w') := by
  induction h with
  | nil => rfl
  | refused refuses => exact run_mapM_of_refuses refuses
  | reused hit found name form _ ih =>
    refine run_mapM_cons_of_ok ?_ ih
    rw [run_walk_of_hit hit, run_reuse_of_found found, if_pos ⟨name, form⟩]
  | abandoned fresh free _ ih =>
    refine run_mapM_cons_of_error ?_
    rw [run_walk_of_fresh fresh, run_bind_of_ok (run_claim_of_free free), run_bind_of_error ih]
  | finished fresh free _ _ ihbelow ihafter =>
    refine run_mapM_cons_of_ok ?_ ihafter
    rw [run_walk_of_fresh fresh, run_bind_of_ok (run_claim_of_free free), run_bind_of_ok ihbelow,
      run_push]

/-- Every list of positions has a visit from every state, since a walk always comes to an end. -/
theorem exists_visits (levels : Nat) (ps : List Position) (w : Walker) :
    ∃ outcome w', Visits levels ps w outcome w' := by
  induction levels generalizing ps w with
  | zero =>
    cases ps with
    | nil => exact ⟨_, _, .nil⟩
    | cons p rest => exact ⟨_, _, .refused .tooDeep⟩
  | succ levels ihlevels =>
    induction ps generalizing w with
    | nil => exact ⟨_, _, .nil⟩
    | cons p rest ihrest =>
      cases hcache : w.cache.lookup p.path with
      | some place =>
        cases hplace : w.graph[place]? with
        | none => exact ⟨_, _, .refused (.dangling hcache hplace)⟩
        | some node =>
          by_cases hfits : node.name = p.name ∧ node.form = p.schema.form
          · obtain ⟨outcome, w', hafter⟩ := ihrest w
            exact ⟨_, w', .reused hcache hplace hfits.1 hfits.2 hafter⟩
          · exact ⟨_, _, .refused (.mismatch hcache hplace hfits)⟩
      | none =>
        by_cases hfree : w.Free p.name p.path
        · obtain ⟨below, v, hbelow⟩ := ihlevels p.children (w.own p.name p.path)
          cases below with
          | error fault => exact ⟨_, v, .abandoned hcache hfree hbelow⟩
          | ok places =>
            obtain ⟨outcome, w', hafter⟩ := ihrest (v.add p.path (p.node places))
            exact ⟨_, w', .finished hcache hfree hbelow hafter⟩
        · simp only [Free, Classical.not_forall] at hfree
          obtain ⟨first, howner, hother⟩ := hfree
          exact ⟨_, _, .refused (.collision hcache howner hother)⟩

/-- The visits are exactly the walks of lists of positions, so facts about walks can be proved by
induction on visits. -/
theorem visits_iff {levels : Nat} {ps : List Position} {outcome : Except Fault (List Nat)} :
    Visits levels ps w outcome w' ↔ (ps.mapM (walk levels)).run w = (outcome, w') := by
  refine ⟨Visits.run_mapM, fun h => ?_⟩
  obtain ⟨outcome', v, hvisits⟩ := exists_visits levels ps w
  obtain ⟨rfl, rfl⟩ := Prod.mk.inj (h.symm.trans hvisits.run_mapM)
  exact hvisits

/-- Where the walker takes the same steps at two positions, what is a visit of the one is a visit of the
other. -/
theorem Visits.of_walk_eq {levels : Nat} {p q : Position} {outcome : Except Fault (List Nat)}
    (h : Visits levels [p] w outcome w') (hwalk : walk levels p = walk levels q) :
    Visits levels [q] w outcome w' := by
  have hrun := h.run_mapM
  rw [List.mapM_cons, hwalk, ← List.mapM_cons] at hrun
  exact visits_iff.mpr hrun

/-- A successful visit of two lists of positions is a visit of the first followed by one of the
second. -/
theorem Visits.of_append {levels : Nat} {ps qs : List Position} {places : List Nat}
    (h : Visits levels (ps ++ qs) w (.ok places) w') :
    ∃ v as bs, Visits levels ps w (.ok as) v ∧ Visits levels qs v (.ok bs) w' := by
  rw [visits_iff, List.mapM_append] at h
  cases hps : (ps.mapM (walk levels)).run w with
  | mk first v =>
    cases first with
    | error fault =>
      rw [run_bind_of_error hps] at h
      cases h
    | ok as =>
      rw [run_bind_of_ok hps] at h
      cases hqs : (qs.mapM (walk levels)).run v with
      | mk second v' =>
        cases second with
        | error fault =>
          rw [run_bind_of_error hqs] at h
          cases h
        | ok bs =>
          rw [run_bind_of_ok hqs] at h
          obtain ⟨_, rfl⟩ := Prod.mk.inj h
          exact ⟨v, as, bs, visits_iff.mpr hps, visits_iff.mpr hqs⟩

/-- The walk of one position is the visit of a list with nothing else in it. -/
theorem visits_of_run_walk {levels : Nat} {p : Position} {outcome : Except Fault Nat}
    (h : (walk levels p).run w = (outcome, w')) : Visits levels [p] w (outcome.map ([·])) w' := by
  rw [visits_iff]
  cases outcome with
  | error fault => exact run_mapM_cons_of_error h
  | ok place => exact run_mapM_cons_of_ok h rfl

/-- Analysing a schema is a walk of its root; the outcome is the reference to the root. -/
theorem visits_of_run_analyze {schema : Schema} {name field : String} {required : Bool}
    {outcome : Except Fault Property}
    (h : (analyze (some schema) name field required).run w = (outcome, w')) :
    ∃ result : Except Fault Nat, outcome = result.map (⟨field, ·, required⟩) ∧
      Visits (maxDepth + 1) [Position.root schema name field] w (result.map ([·])) w' := by
  unfold analyze at h
  cases hwalk : (walk (maxDepth + 1) (Position.root schema name field)).run w with
  | mk result v =>
    cases result with
    | error fault =>
      obtain ⟨rfl, rfl⟩ := Prod.mk.inj ((run_bind_of_error hwalk).symm.trans h)
      exact ⟨.error fault, rfl, visits_of_run_walk hwalk⟩
    | ok place =>
      obtain ⟨rfl, rfl⟩ := Prod.mk.inj ((run_bind_of_ok hwalk).symm.trans h)
      exact ⟨.ok place, rfl, visits_of_run_walk hwalk⟩

/-- An analysis that succeeds is a visit of the root that ends with the place of its type. -/
theorem visits_of_run_analyze_ok {schema : Schema} {name field : String} {required : Bool}
    {root : Property} (h : (analyze (some schema) name field required).run w = (.ok root, w')) :
    ∃ place, root = ⟨field, place, required⟩ ∧
      Visits (maxDepth + 1) [Position.root schema name field] w (.ok [place]) w' := by
  obtain ⟨result, hroot, hvisits⟩ := visits_of_run_analyze h
  cases result with
  | error fault => cases hroot
  | ok place => exact ⟨place, Except.ok.inj hroot, hvisits⟩

/-- A visit of the root position is an analysis of the schema with the same outcome and the same
state after it. -/
theorem run_analyze_of_visits_map {schema : Schema} {name field : String} {required : Bool}
    {result : Except Fault Nat}
    (h : Visits (maxDepth + 1) [Position.root schema name field] w (result.map ([·])) w') :
    (analyze (some schema) name field required).run w =
      (result.map (⟨field, ·, required⟩), w') := by
  cases hrun : (analyze (some schema) name field required).run w with
  | mk outcome v =>
    obtain ⟨found, rfl, hvisits⟩ := visits_of_run_analyze hrun
    obtain ⟨hresult, rfl⟩ := Prod.mk.inj (hvisits.run_mapM.symm.trans h.run_mapM)
    obtain rfl : found = result := by cases found <;> cases result <;> simp_all [Except.map]
    rfl

/-- A visit of the root that ends with the place of its type is an analysis that succeeds. -/
theorem run_analyze_of_visits {schema : Schema} {name field : String} {required : Bool}
    {place : Nat}
    (h : Visits (maxDepth + 1) [Position.root schema name field] w (.ok [place]) w') :
    (analyze (some schema) name field required).run w = (.ok ⟨field, place, required⟩, w') :=
  have hmap : Visits (maxDepth + 1) [Position.root schema name field] w
      (Except.map ([·]) (.ok place)) w' := h
  run_analyze_of_visits_map hmap

end Walker

end CrdToolset
