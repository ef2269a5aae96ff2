import CrdToolset.Proofs.TypeGraph.Calls
import CrdToolset.Proofs.TypeGraph.Origin
import CrdToolset.Proofs.TypeGraph.PreOrder
import CrdToolset.Proofs.TypeGraph.Separation

/-!
# Which schemas a walker accepts

A walker comes to the positions of a schema in pre-order and claims the name of each. Where a path
identifies a position, the only things that can be wrong are that a position lies too deep and that
its name has been claimed before. So a schema is accepted exactly if neither happens at any position,
and otherwise the fault is that of the first position at which one of them does.
-/

namespace CrdToolset.Walker

/-- Nothing is wrong with a list of positions, each with its depth: none lies too deep, no two have
the same name, and none has the name that was set aside for an owner. -/
structure Clear (reserved : Option (String × String)) (all : List (Nat × Position)) : Prop where
  /-- No position lies too deep. -/
  depth : ∀ x ∈ all, x.1 ≤ maxDepth
  /-- No two positions have the same name. -/
  names : (all.map fun x => x.2.name).Nodup
  /-- No position has the name that was set aside. -/
  reserved : ∀ x ∈ all, ∀ owner, reserved ≠ some (x.2.name, owner)

/-- What is wrong with a position that comes after others. Its name is only looked at if it does not
lie too deep. -/
inductive Offends (reserved : Option (String × String)) (earlier : List (Nat × Position)) :
    Nat × Position → Fault → Prop
  | tooDeep {depth : Nat} {q : Position} (deep : maxDepth < depth) :
      Offends reserved earlier (depth, q) (.tooDeep q.path maxDepth)
  | reserved {depth : Nat} {q : Position} {owner : String} (shallow : depth ≤ maxDepth)
      (owned : reserved = some (q.name, owner)) :
      Offends reserved earlier (depth, q) (.nameCollision q.name owner q.path)
  | repeated {depth : Nat} {q : Position} {x : Nat × Position} (shallow : depth ≤ maxDepth)
      (before : x ∈ earlier) (same : x.2.name = q.name) :
      Offends reserved earlier (depth, q) (.nameCollision q.name x.2.path q.path)

/-- The fault is that of the first position in the list with which something is wrong. -/
def FirstOffence (reserved : Option (String × String)) (all : List (Nat × Position))
    (fault : Fault) : Prop :=
  ∃ earlier x later, all = earlier ++ x :: later ∧ Clear reserved earlier ∧
    Offends reserved earlier x fault

variable {reserved : Option (String × String)} {earlier todo rest all : List (Nat × Position)}
  {x : Nat × Position} {fault fault' : Fault} {depth levels : Nat} {p : Position} {w v w' : Walker}

/-! ### There is one first offence, or none -/

/-- Nothing is wrong with an empty list of positions. -/
theorem clear_nil : Clear reserved [] := ⟨by simp, by simp, by simp⟩

/-- Where nothing is wrong with a list of positions, nothing is wrong with any beginning of it. -/
theorem Clear.of_append (h : Clear reserved (earlier ++ rest)) : Clear reserved earlier where
  depth x hx := h.depth x (List.mem_append_left _ hx)
  names := by
    have hnames := h.names
    rw [List.map_append] at hnames
    exact hnames.of_append_left
  reserved x hx := h.reserved x (List.mem_append_left _ hx)

/-- One more position can be added if it does not lie too deep and its name is new. -/
theorem Clear.concat (h : Clear reserved earlier) (hdepth : x.1 ≤ maxDepth)
    (hnew : ∀ y ∈ earlier, y.2.name ≠ x.2.name)
    (hreserved : ∀ owner, reserved ≠ some (x.2.name, owner)) : Clear reserved (earlier ++ [x]) where
  depth := by simpa [or_imp, forall_and, hdepth] using fun d q => h.depth (d, q)
  names := by
    simp only [List.map_append, List.map_cons, List.map_nil]
    refine List.nodup_append.mpr ⟨h.names, List.nodup_singleton _, ?_⟩
    rintro name hname _ hx rfl
    obtain ⟨y, hy, rfl⟩ := List.mem_map.mp hname
    exact hnew y hy (List.mem_singleton.mp hx)
  reserved y hy := by
    rcases List.mem_append.mp hy with hy | hy
    · exact h.reserved y hy
    · obtain rfl := List.mem_singleton.mp hy
      exact hreserved

/-- A list that ends with a position at fault is not clear, whatever stands before that position. -/
theorem Offends.not_clear (h : Offends reserved earlier x fault) :
    ¬Clear reserved (earlier ++ [x]) := by
  intro hclear
  cases h with
  | tooDeep deep =>
    have hdepth := hclear.depth _ (List.mem_append_right _ (List.mem_singleton_self _))
    exact absurd hdepth (Nat.not_le.mpr deep)
  | reserved _ owned =>
    exact hclear.reserved _ (List.mem_append_right _ (List.mem_singleton_self _)) _ owned
  | repeated _ before same =>
    have hnames := hclear.names
    rw [List.map_append, List.nodup_append] at hnames
    exact hnames.2.2 _ (List.mem_map_of_mem before) _ (List.mem_singleton_self _) same

/-- Only one thing is wrong with a position, if nothing is with those before it: too deep a position
is never asked for its name, and a name has one first owner. -/
theorem Offends.unique (hclear : Clear reserved earlier) (h : Offends reserved earlier x fault)
    (h' : Offends reserved earlier x fault') : fault = fault' := by
  cases h with
  | tooDeep deep =>
    cases h' with
    | tooDeep => rfl
    | reserved shallow => omega
    | repeated shallow => omega
  | reserved shallow owned =>
    cases h' with
    | tooDeep deep => omega
    | reserved _ owned' =>
      obtain ⟨_, rfl⟩ := Prod.mk.inj (Option.some.inj (owned.symm.trans owned'))
      rfl
    | repeated _ before same => exact absurd (same ▸ owned) (hclear.reserved _ before _)
  | repeated shallow before same =>
    cases h' with
    | tooDeep deep => omega
    | reserved _ owned => exact absurd (same ▸ owned) (hclear.reserved _ before _)
    | repeated _ before' same' =>
      rw [List.inj_on_of_nodup_map hclear.names before before' (same.trans same'.symm)]

/-- A list of positions with a first offence is not clear, so acceptance and refusal exclude each
other. -/
theorem FirstOffence.not_clear (h : FirstOffence reserved all fault) : ¬Clear reserved all := by
  obtain ⟨earlier, x, later, rfl, _, hoffends⟩ := h
  intro hclear
  rw [← List.singleton_append, ← List.append_assoc] at hclear
  exact hoffends.not_clear hclear.of_append

/-- A list of positions has at most one first offence: the earlier of two would be in the clear
beginning before the later. -/
theorem FirstOffence.unique (h : FirstOffence reserved all fault)
    (h' : FirstOffence reserved all fault') : fault = fault' := by
  obtain ⟨earlier, x, later, rfl, hclear, hoffends⟩ := h
  obtain ⟨earlier', x', later', heq, hclear', hoffends'⟩ := h'
  rcases List.append_eq_append_iff.mp heq with ⟨middle, rfl, hx⟩ | ⟨middle, rfl, hx⟩
  · cases middle with
    | nil =>
      obtain ⟨rfl, _⟩ := List.cons.inj hx
      rw [List.append_nil] at hoffends'
      exact hoffends.unique hclear hoffends'
    | cons y middle =>
      obtain ⟨rfl, _⟩ := List.cons.inj hx
      rw [← List.singleton_append, ← List.append_assoc] at hclear'
      exact absurd hclear'.of_append hoffends.not_clear
  · cases middle with
    | nil =>
      obtain ⟨rfl, _⟩ := List.cons.inj hx
      rw [List.append_nil] at hoffends
      exact hoffends.unique hclear' hoffends'
    | cons y middle =>
      obtain ⟨rfl, _⟩ := List.cons.inj hx
      rw [← List.singleton_append, ← List.append_assoc] at hclear
      exact absurd hclear.of_append hoffends'.not_clear

/-- Positions that come later do not change the first offence of a list. -/
theorem FirstOffence.append (h : FirstOffence reserved all fault) (more : List (Nat × Position)) :
    FirstOffence reserved (all ++ more) fault := by
  obtain ⟨earlier, x, later, rfl, hoffence⟩ := h
  exact ⟨earlier, x, later ++ more, by simp, hoffence⟩

/-! ### What a walker knows on its way -/

/-- The owners that a walker knows are that of the name set aside and the paths of the positions
visited so far, each under the name of the position. -/
def Accounts (w : Walker) (reserved : Option (String × String)) (earlier : List (Nat × Position)) :
    Prop :=
  ∀ name owner, w.owners.lookup name = some owner ↔
    reserved = some (name, owner) ∨ ∃ x ∈ earlier, x.2.name = name ∧ x.2.path = owner

/-- A walker has visited the earlier positions and finds nothing that stands against the paths of
those still to come. -/
structure Ready (reserved : Option (String × String)) (earlier todo : List (Nat × Position))
    (w : Walker) : Prop where
  /-- Nothing was wrong so far. -/
  clear : Clear reserved earlier
  /-- The names of the earlier positions belong to their paths. -/
  accounts : w.Accounts reserved earlier
  /-- All paths are different. -/
  paths : ((earlier ++ todo).map fun x => x.2.path).Nodup
  /-- The owner of the name set aside is none of the paths to come. -/
  foreign : ∀ name owner, reserved = some (name, owner) → ∀ x ∈ todo, x.2.path ≠ owner
  /-- The paths to come are new. -/
  fresh : ∀ x ∈ todo, w.cache.lookup x.2.path = none

/-- A new owner of a name that had none is found under that name, and all others as before. -/
theorem lookup_own_of_none {name owner : String} (h : w.owners.lookup name = none)
    (other : String) :
    (w.own name owner).owners.lookup other =
      if other = name then some owner else w.owners.lookup other := by
  have hown : (w.own name owner).owners = (name, owner) :: w.owners := by simp [own, h]
  rw [hown, List.lookup_cons]
  by_cases heq : other = name
  · simp [heq]
  · have hne : (other == name) = false := by simpa using heq
    rw [hne, if_neg heq]

/-- When a position has claimed a name that was new, the walker accounts for the position together
with those before it. -/
theorem Accounts.own (h : w.Accounts reserved earlier) (hnew : w.owners.lookup p.name = none)
    (depth : Nat) : (w.own p.name p.path).Accounts reserved (earlier ++ [(depth, p)]) := by
  intro name owner
  have hold := h name owner
  rw [lookup_own_of_none hnew]
  by_cases heq : name = p.name
  · subst heq
    rw [hnew] at hold
    have hnone := not_or.mp (hold.not.mp (by simp))
    rw [if_pos rfl, Option.some.injEq]
    constructor
    · rintro rfl
      exact .inr ⟨(depth, p), by simp, rfl, rfl⟩
    · rintro (hreserved | ⟨x, hx, hname, hpath⟩)
      · exact absurd hreserved hnone.1
      · rcases List.mem_append.mp hx with hx | hx
        · exact absurd ⟨x, hx, hname, hpath⟩ hnone.2
        · obtain rfl := List.mem_singleton.mp hx
          exact hpath
  · rw [if_neg heq, hold]
    refine or_congr_right ⟨?_, ?_⟩
    · rintro ⟨x, hx, hname⟩
      exact ⟨x, List.mem_append_left _ hx, hname⟩
    · rintro ⟨x, hx, hname, hpath⟩
      rcases List.mem_append.mp hx with hx | hx
      · exact ⟨x, hx, hname, hpath⟩
      · obtain rfl := List.mem_singleton.mp hx
        exact absurd hname.symm heq

/-- A walker that is ready for a list of positions is ready for any beginning of it. -/
theorem Ready.of_append (h : Ready reserved earlier (todo ++ rest) w) :
    Ready reserved earlier todo w where
  clear := h.clear
  accounts := h.accounts
  paths := by
    have hpaths := h.paths
    rw [← List.append_assoc, List.map_append] at hpaths
    exact hpaths.of_append_left
  foreign name owner howner x hx := h.foreign name owner howner x (List.mem_append_left _ hx)
  fresh x hx := h.fresh x (List.mem_append_left _ hx)

/-- The name of the next position has an owner only if a position before it, or the name set aside,
is in its way. -/
theorem Ready.lookup_name_eq_none_of_free (h : Ready reserved earlier ((depth, p) :: todo) w)
    (hfree : w.Free p.name p.path) : w.owners.lookup p.name = none := by
  cases howner : w.owners.lookup p.name with
  | none => rfl
  | some owner =>
    exfalso
    obtain rfl := hfree owner howner
    rcases (h.accounts _ _).mp howner with hreserved | ⟨x, hx, _, hpath⟩
    · exact h.foreign _ _ hreserved (depth, p) List.mem_cons_self rfl
    · have hpaths := h.paths
      rw [List.map_append, List.nodup_append] at hpaths
      exact hpaths.2.2 _ (List.mem_map_of_mem hx) _ (List.mem_map_of_mem List.mem_cons_self) hpath

/-- If the next position can claim its name and does not lie too deep, the walker is ready for the
positions after it. -/
theorem Ready.claim (h : Ready reserved earlier ((depth, p) :: todo) w)
    (hfree : w.Free p.name p.path) (hdepth : depth ≤ maxDepth) :
    Ready reserved (earlier ++ [(depth, p)]) todo (w.own p.name p.path) := by
  have hnone := h.lookup_name_eq_none_of_free hfree
  have hunclaimed {owner : String} (howner : reserved = some (p.name, owner) ∨
      ∃ x ∈ earlier, x.2.name = p.name ∧ x.2.path = owner) : False := by
    have hsome := (h.accounts _ _).mpr howner
    simp [hnone] at hsome
  refine ⟨h.clear.concat hdepth ?_ ?_, h.accounts.own hnone depth, ?_, ?_, ?_⟩
  · exact fun x hx hname => hunclaimed (.inr ⟨x, hx, hname, rfl⟩)
  · exact fun owner howner => hunclaimed (.inl howner)
  · simpa using h.paths
  · exact fun name owner howner x hx => h.foreign name owner howner x (List.mem_cons_of_mem _ hx)
  · intro x hx
    rw [own_cache]
    exact h.fresh x (List.mem_cons_of_mem _ hx)

/-- When the next position is refused, the fault is the one that `Offends` states for it, since
nothing else can be wrong. -/
theorem Ready.offends_of_refuses (h : Ready reserved earlier ((depth, p) :: todo) w)
    (hdepth : depth + levels = maxDepth + 1) (hrefuses : Refuses levels p w fault) :
    Offends reserved earlier (depth, p) fault := by
  have hfresh : w.cache.lookup p.path = none := h.fresh _ List.mem_cons_self
  cases hrefuses with
  | tooDeep => exact .tooDeep (by omega)
  | mismatch hit => simp [hfresh] at hit
  | dangling hit => simp [hfresh] at hit
  | collision _ owned =>
    rcases (h.accounts _ _).mp owned with hreserved | ⟨x, hx, hname, rfl⟩
    · exact .reserved (by omega) hreserved
    · exact .repeated (by omega) hx hname

/-- When the positions below one have been visited and its type is made, the paths of the remaining
ones are still new. -/
theorem Ready.fresh_rest (h : Ready reserved earlier ((depth, p) ::
      (p.children.flatMap (Position.preOrder (depth + 1)) ++ rest)) w) {places : List Nat}
    (hbelow : Visits levels p.children (w.own p.name p.path) (.ok places) v) :
    ∀ x ∈ rest, (v.add p.path (p.node places)).cache.lookup x.2.path = none := by
  intro x hx
  have hpaths := h.paths
  rw [List.map_append] at hpaths
  have htodo := hpaths.of_append_right
  rw [List.map_cons, List.map_append, List.nodup_cons, List.nodup_append] at htodo
  obtain ⟨hself, _, _, hapart⟩ := htodo
  have hrest : x.2.path ∈ rest.map fun x => x.2.path := List.mem_map_of_mem hx
  have hne : x.2.path ≠ p.path := by
    intro heq
    exact hself (List.mem_append_right _ (heq ▸ hrest))
  rw [lookup_add, if_neg hne]
  cases hcached : v.cache.lookup x.2.path with
  | none => rfl
  | some place =>
    exfalso
    rcases hbelow.origin hcached with hold | ⟨c, hc, q, hq, hpath, _⟩
    · rw [own_cache, h.fresh x (List.mem_cons_of_mem _ (List.mem_append_right _ hx))] at hold
      cases hold
    · obtain ⟨y, hy, rfl⟩ := List.mem_map.mp
        ((Position.map_snd_preOrder_perm (depth + 1) c).mem_iff.mpr hq)
      have hmem : y ∈ p.children.flatMap (Position.preOrder (depth + 1)) :=
        List.mem_flatMap.mpr ⟨c, hc, hy⟩
      exact hapart _ (List.mem_map_of_mem hmem) _ hrest hpath

/-! ### The outcome of a visit -/

/-- A visit that succeeds leaves nothing wrong and accounts for all positions; one that fails ends
with the first offence. -/
def Settles (reserved : Option (String × String)) (all : List (Nat × Position)) {α : Type}
    (outcome : Except Fault α) (w : Walker) : Prop :=
  match outcome with
  | .ok _ => Clear reserved all ∧ w.Accounts reserved all
  | .error fault => FirstOffence reserved all fault

/-- What is made of the result of a visit that succeeds does not matter for whether the visit
settles its positions. -/
theorem settles_map {α β : Type} {outcome : Except Fault α} (f : α → β) :
    Settles reserved all (outcome.map f) w ↔ Settles reserved all outcome w := by
  cases outcome <;> rfl

/-- A walker that is ready for the positions at and below those of a list accepts them if nothing is
wrong with them, and else ends with the first offence. -/
theorem Visits.settles {ps : List Position} {outcome : Except Fault (List Nat)}
    (h : Visits levels ps w outcome w') (hdepth : depth + levels = maxDepth + 1)
    (hready : Ready reserved earlier (ps.flatMap (Position.preOrder depth)) w) :
    Settles reserved (earlier ++ ps.flatMap (Position.preOrder depth)) outcome w' := by
  induction h generalizing depth earlier with
  | nil => simpa [Settles] using ⟨hready.clear, hready.accounts⟩
  | refused refuses =>
    rw [Position.flatMap_preOrder_cons] at hready ⊢
    exact ⟨earlier, _, _, rfl, hready.clear, hready.offends_of_refuses hdepth refuses⟩
  | @reused _ _ p _ _ _ _ _ hit =>
    rw [Position.flatMap_preOrder_cons] at hready
    have hfresh := hready.fresh (depth, p) List.mem_cons_self
    simp [hit] at hfresh
  | @abandoned _ p _ _ _ _ _ free _ ih =>
    rw [Position.flatMap_preOrder_cons] at hready ⊢
    have hclaimed := hready.claim free (by omega)
    have hbelow : FirstOffence _ _ _ := ih (by omega) hclaimed.of_append
    simpa [Settles] using hbelow.append _
  | @finished _ p rest _ v _ places outcome _ free below _ ihbelow ihafter =>
    rw [Position.flatMap_preOrder_cons] at hready ⊢
    have hclaimed := hready.claim free (by omega)
    obtain ⟨hclear, haccounts⟩ := ihbelow (by omega) hclaimed.of_append
    have hrest : Ready reserved
        (earlier ++ [(depth, p)] ++ p.children.flatMap (Position.preOrder (depth + 1)))
        (rest.flatMap (Position.preOrder depth)) (v.add p.path (p.node places)) :=
      { clear := hclear
        accounts := haccounts
        paths := by simpa using hready.paths
        foreign := fun name owner howner x hx =>
          hclaimed.foreign name owner howner x (List.mem_append_right _ hx)
        fresh := hready.fresh_rest below }
    rw [settles_map]
    simpa using ihafter hdepth hrest

/-! ### The outcome of an analysis -/

/-- A new walker for which at most one name has been set aside for an owner. -/
def reserving (reserved : Option (String × String)) : Walker :=
  afterCalls {} (reserved.toList.map fun x => .reserve x.1 x.2)

/-- A walker that has set one name aside is a new walker that has claimed the name. -/
theorem reserving_some (name owner : String) :
    reserving (some (name, owner)) = own name owner {} :=
  congrArg Prod.snd (run_claim_of_free (by simp [Free]))

/-- A walker that has set at most one name aside accounts for that name, and has made no types
yet. -/
theorem accounts_reserving (reserved : Option (String × String)) :
    (reserving reserved).Accounts reserved [] ∧ (reserving reserved).cache = [] := by
  cases reserved with
  | none => exact ⟨fun name owner => by simp [reserving, afterCalls], rfl⟩
  | some x =>
    obtain ⟨first, holder⟩ := x
    rw [reserving_some]
    refine ⟨fun name owner => ?_, own_cache ..⟩
    rw [lookup_own_of_none rfl]
    by_cases heq : name = first
    · simp [heq]
    · simp [heq, Ne.symm heq]

/-- A walker for which at most one name was set aside is ready for a schema in which a path
identifies a position, if the owner of that name is none of the paths. -/
theorem ready_reserving {schema : Schema} {name field : String} (hkeys : schema.KeysDistinct)
    (hpaths : (Position.root schema name field).PathsDistinct)
    (hforeign : ∀ first owner, reserved = some (first, owner) →
      ∀ q ∈ (Position.root schema name field).postOrder, q.path ≠ owner) :
    Ready reserved [] ((Position.root schema name field).preOrder 0) (reserving reserved) := by
  obtain ⟨haccounts, hcache⟩ := accounts_reserving reserved
  refine ⟨clear_nil, haccounts, ?_, ?_, by simp [hcache]⟩
  · have hnodup := Position.nodup_paths (p := .root schema name field) hkeys hpaths
    have hperm := (Position.map_snd_preOrder_perm 0 (.root schema name field)).map Position.path
    simpa [Function.comp_def] using hperm.nodup_iff.mpr hnodup
  · exact fun first owner howner x hx =>
      hforeign first owner howner x.2 (Position.mem_postOrder_of_mem_preOrder hx)

/-- An analysis of a schema in which a path identifies a position settles what is wrong with it. -/
theorem settles_run_analyze {schema : Schema} {name field : String} (hkeys : schema.KeysDistinct)
    (hpaths : (Position.root schema name field).PathsDistinct)
    (hforeign : ∀ first owner, reserved = some (first, owner) →
      ∀ q ∈ (Position.root schema name field).postOrder, q.path ≠ owner) (required : Bool) :
    Settles reserved ((Position.root schema name field).preOrder 0)
      ((analyze (some schema) name field required).run (reserving reserved)).1
      ((analyze (some schema) name field required).run (reserving reserved)).2 := by
  obtain ⟨result, hresult, hvisits⟩ := visits_of_run_analyze
    (Prod.eta ((analyze (some schema) name field required).run (reserving reserved))).symm
  have hready := ready_reserving hkeys hpaths hforeign
  rw [hresult, settles_map, ← settles_map (· :: [])]
  have hsettles := hvisits.settles (Nat.zero_add _) (by simpa using hready)
  simpa only [List.nil_append, List.flatMap_cons, List.flatMap_nil, List.append_nil] using hsettles

/-- A schema with plain names is accepted exactly if no position lies too deep, all names are
different, and none is the name that was set aside. Otherwise the fault is that of the first
position, in pre-order, with which something is wrong. -/
theorem run_analyze_iff_clear {schema : Schema} {name field : String} {required : Bool}
    (hkeys : schema.KeysDistinct) (hplain : schema.PlainNames)
    (hforeign : ∀ first owner, reserved = some (first, owner) →
      ∀ q ∈ (Position.root schema name field).postOrder, q.path ≠ owner) :
    let all := (Position.root schema name field).preOrder 0
    let outcome := ((analyze (some schema) name field required).run (reserving reserved)).1
    ((∃ root, outcome = .ok root) ↔ Clear reserved all) ∧
      ∀ fault, outcome = .error fault ↔ FirstOffence reserved all fault := by
  intro all outcome
  have hsettles : Settles reserved all outcome _ :=
    settles_run_analyze hkeys (Position.pathsDistinct_of_plainNames hplain) hforeign required
  cases houtcome : outcome with
  | ok root =>
    rw [houtcome] at hsettles
    refine ⟨iff_of_true ⟨root, rfl⟩ hsettles.1, fun fault => iff_of_false nofun fun h => ?_⟩
    exact h.not_clear hsettles.1
  | error fault =>
    rw [houtcome] at hsettles
    have hfirst : FirstOffence reserved all fault := hsettles
    refine ⟨iff_of_false nofun hfirst.not_clear, fun fault' => ?_⟩
    rw [Except.error.injEq]
    exact ⟨fun heq => heq ▸ hfirst, hfirst.unique⟩

/-- The schema of an object with a property `fooBar` beside a property `bar` of a property `foo`.
The two have different paths but the same name. -/
def crossingSchema : Schema where
  type := "object"
  properties := [("foo", barSchema), ("fooBar", { type := "string" })]

/-- What holds of the schemas of the object, of the one below it and of a text holds everywhere in
it. -/
theorem everywhere_crossingSchema {P : Schema → Prop} (htext : P { type := "string" })
    (hbar : P barSchema) (hcrossing : P crossingSchema) : crossingSchema.Everywhere P := by
  have htexts : Schema.Everywhere P { type := "string" } := .of_leaf htext rfl rfl rfl
  refine .of_properties hcrossing (fun entry hentry => ?_) rfl rfl
  rcases List.mem_pair.mp hentry with rfl | rfl
  · exact .of_property hbar rfl htexts rfl rfl
  · exact htexts

/-- The walker comes to the text below the first property before it comes to the second. -/
theorem preOrder_crossingSchema : (Position.root crossingSchema "T" "").preOrder 0 =
    [(0, Position.root crossingSchema "T" ""), (1, ⟨barSchema, "TFoo", "foo", "T.foo"⟩),
      (2, ⟨{ type := "string" }, "TFooBar", "bar", "T.foo.bar"⟩),
      (1, ⟨{ type := "string" }, "TFooBar", "fooBar", "T.fooBar"⟩)] := by
  have hroot : (Position.root crossingSchema "T" "").children =
      [⟨barSchema, "TFoo", "foo", "T.foo"⟩,
        ⟨{ type := "string" }, "TFooBar", "fooBar", "T.fooBar"⟩] := by
    rw [Position.children_of_pairwise (by decide) (by simp [Position.root, crossingSchema])]
    rfl
  have hbar : Position.children ⟨barSchema, "TFoo", "foo", "T.foo"⟩ =
      [⟨{ type := "string" }, "TFooBar", "bar", "T.foo.bar"⟩] := children_barSchema ..
  have htext (field path : String) :
      Position.children ⟨{ type := "string" }, "TFooBar", field, path⟩ = [] := rfl
  simp [Position.preOrder_eq, hroot, hbar, htext]

/-- The second property of the object asks for a name that has been claimed one level further down.
-/
theorem collision_crossingSchema :
    crossingSchema.KeysDistinct ∧ crossingSchema.PlainNames ∧
      (∀ first owner, some ("TList", "<list kind>") = some (first, owner) →
        ∀ q ∈ (Position.root crossingSchema "T" "").postOrder, q.path ≠ owner) ∧
      ((analyze (some crossingSchema) "T" "" true).run
        (reserving (some ("TList", "<list kind>")))).1 =
          .error (.nameCollision "TFooBar" "T.foo.bar" "T.fooBar") := by
  have hkeys : crossingSchema.KeysDistinct := everywhere_crossingSchema (by simp)
    (by simp [barSchema]) (by simp [crossingSchema])
  have hplain : crossingSchema.PlainNames := everywhere_crossingSchema (by simp)
    (by simp [barSchema, Schema.PlainName]) (by simp [crossingSchema, Schema.PlainName])
  have hforeign : ∀ first owner, some ("TList", "<list kind>") = some (first, owner) →
      ∀ q ∈ (Position.root crossingSchema "T" "").postOrder, q.path ≠ owner := by
    rintro first owner howner q hq
    obtain ⟨rfl, rfl⟩ := Prod.mk.inj (Option.some.inj howner)
    rw [← (Position.map_snd_preOrder_perm 0 _).mem_iff, preOrder_crossingSchema] at hq
    revert q
    simp [Position.root]
  refine ⟨hkeys, hplain, hforeign, ?_⟩
  refine ((run_analyze_iff_clear hkeys hplain hforeign).2 _).mpr ?_
  rw [preOrder_crossingSchema]
  refine ⟨[_, _, _], _, [], rfl, ⟨?_, ?_, ?_⟩, ?_⟩
  · simp [maxDepth]
  · simp [Position.root]
  · simp [Position.root]
  · exact .repeated (x := (2, ⟨{ type := "string" }, "TFooBar", "bar", "T.foo.bar"⟩))
      (by simp [maxDepth]) (by simp) rfl

end CrdToolset.Walker
