import CrdToolset.Proofs.FirstOccurrences
import CrdToolset.Proofs.TypeGraph.Model

/-!
# The objects below a type

The objects that generated code declares are gathered in one pass over the graph, each type with the
objects at or below it. What comes out is what a search finds that goes down from the desired and
from the observed state, remembers where it has been, and lists an object before the objects below
it.
-/

namespace CrdToolset

variable {g : TypeGraph} {node : TypeNode} {place i j : Nat}

/-- The objects at or below a type depend on those below the types that it refers to. -/
theorem TypeModel.looksAtReferences_objectsFrom : LooksAtReferences objectsFrom := by
  intro place node inner inner' h
  have hbelow : node.references.flatMap (fun i => (inner i).getD []) =
      node.references.flatMap fun i => (inner' i).getD [] :=
    List.flatMap_congr fun i hi => by rw [h i hi]
  unfold objectsFrom
  rw [hbelow]

namespace TypeGraph

/-- The objects at or below a type, each before the objects below it, as the pass over the graph
computes them. -/
def objectsAt (g : TypeGraph) (place : Nat) : List Nat :=
  ((g.fold TypeModel.objectsFrom)[place]?).getD []

/-- The place of a type alone in a list if the type is an object, and the empty list otherwise. -/
def objectHead (place : Nat) (node : TypeNode) : List Nat :=
  if node.form = .object then [place] else []

/-- The objects at or below a type are the type itself, if it is one, and those below it. -/
theorem objectsAt_eq (hg : g.Backward) (h : g[place]? = some node) :
    g.objectsAt place =
      objectHead place node ++ firstsIn [] (node.references.flatMap g.objectsAt) := by
  have hfold : g.objectsAt place =
      TypeModel.objectsFrom place node fun i => some (g.objectsAt i) :=
    getD_fold hg TypeModel.looksAtReferences_objectsFrom h []
  rw [hfold, ← eraseDups_eq_firstsIn]
  unfold TypeModel.objectsFrom objectHead
  dsimp only [Option.getD_some]
  split <;> rfl

/-- The objects at or below a type are the type itself, if it is an object, and those at or below
what it refers to. -/
theorem mem_objectsAt (hg : g.Backward) (h : g[place]? = some node) :
    i ∈ g.objectsAt place ↔
      (i = place ∧ node.form = .object) ∨ ∃ j ∈ node.references, i ∈ g.objectsAt j := by
  rw [objectsAt_eq hg h, List.mem_append, mem_firstsIn, List.mem_flatMap]
  unfold objectHead
  by_cases hform : node.form = .object <;> simp [hform]

/-- Places without a type have no objects at or below them. -/
theorem exists_of_mem_objectsAt (h : i ∈ g.objectsAt place) : ∃ node, g[place]? = some node := by
  cases hnode : g[place]? with
  | some node => exact ⟨node, rfl⟩
  | none =>
    have hsize : g.size ≤ place := Array.getElem?_eq_none_iff.mp hnode
    have hmissing : (g.fold TypeModel.objectsFrom)[place]? = none :=
      Array.getElem?_eq_none (by rw [size_fold]; exact hsize)
    simp [objectsAt, hmissing] at h

/-- Everything that is listed for a type is an object, and stands at the place of the type or before
it. -/
theorem object_of_mem_objectsAt (hg : g.Backward) (h : i ∈ g.objectsAt place) :
    i ≤ place ∧ ∃ node, g[i]? = some node ∧ node.form = .object := by
  induction place using Nat.strongRecOn with
  | ind place ih =>
    obtain ⟨node, hnode⟩ := exists_of_mem_objectsAt h
    rcases (mem_objectsAt hg hnode).mp h with ⟨rfl, hform⟩ | ⟨j, hj, hi⟩
    · exact ⟨Nat.le_refl _, node, hnode, hform⟩
    · have hlt : j < place := hg place node hnode j hj
      obtain ⟨hle, hobject⟩ := ih j hlt hi
      exact ⟨by omega, hobject⟩

/-- What is below an object that is below a type is below the type, so being below is transitive. -/
theorem objectsAt_subset (hg : g.Backward) (hi : i ∈ g.objectsAt place)
    (hj : j ∈ g.objectsAt i) : j ∈ g.objectsAt place := by
  induction place using Nat.strongRecOn with
  | ind place ih =>
    obtain ⟨node, hnode⟩ := exists_of_mem_objectsAt hi
    rcases (mem_objectsAt hg hnode).mp hi with ⟨rfl, _⟩ | ⟨k, hk, hik⟩
    · exact hj
    · have hlt : k < place := hg place node hnode k hk
      exact (mem_objectsAt hg hnode).mpr (.inr ⟨k, hk, ih k hlt hik⟩)

/-! ### Searching depth first -/

/-- A search goes down from a list of places, with the places where it has been so far; it ends with
the places where it has been then and the objects it has met on the way, outer ones first. -/
inductive Traverses (g : TypeGraph) : List Nat → List Nat → List Nat → List Nat → Prop
  | done {seen : List Nat} : Traverses g [] seen seen []
  | skip {place : Nat} {todo seen after found : List Nat} (known : place ∈ seen)
      (rest : Traverses g todo seen after found) : Traverses g (place :: todo) seen after found
  | visit {place : Nat} {todo seen between after below found : List Nat} {node : TypeNode}
      (fresh : place ∉ seen) (here : g[place]? = some node)
      (down : Traverses g node.references (place :: seen) between below)
      (rest : Traverses g todo between after found) :
      Traverses g (place :: todo) seen after (objectHead place node ++ below ++ found)

variable {todo seen after after' found found' : List Nat}

/-- A search from given places, with given places visited before, can go one way only and has one
result. -/
theorem Traverses.unique (h : g.Traverses todo seen after found)
    (h' : g.Traverses todo seen after' found') : after = after' ∧ found = found' := by
  induction h generalizing after' found' with
  | done =>
    cases h'
    exact ⟨rfl, rfl⟩
  | skip known _ ih =>
    cases h' with
    | skip _ rest => exact ih rest
    | visit fresh => exact absurd known fresh
  | visit fresh here _ _ ihdown ihrest =>
    cases h' with
    | skip known => exact absurd known fresh
    | visit _ here' down rest =>
      obtain rfl := Option.some.inj (here.symm.trans here')
      obtain ⟨rfl, rfl⟩ := ihdown down
      obtain ⟨rfl, rfl⟩ := ihrest rest
      exact ⟨rfl, rfl⟩

/-- What a search has found agrees with where it has been: it has been at all objects that it has
found, and it has found all objects at or below the places before `bound` where it has been. The
places that it is still at work on are not before `bound`. -/
structure Found (g : TypeGraph) (bound : Nat) (seen known : List Nat) : Prop where
  /-- An object was found where the search has been. -/
  visited : ∀ i ∈ known, i ∈ seen
  /-- Nothing below a place was missed. -/
  complete : ∀ j ∈ seen, j < bound → ∀ i ∈ g.objectsAt j, i ∈ known

variable {bound : Nat} {known known' between : List Nat}

/-- Whether a search has found everything does not depend on the order in which objects were found,
or on how often. -/
theorem Found.congr (h : g.Found bound seen known) (hmem : ∀ i, i ∈ known ↔ i ∈ known') :
    g.Found bound seen known' where
  visited i hi := h.visited i ((hmem i).mpr hi)
  complete j hj hlt i hi := (hmem i).mp (h.complete j hj hlt i hi)

/-- When a search enters a place, it has found what it had found before and the object at the place,
if there is one. -/
theorem Found.enter (h : g.Found bound seen known) (hlt : place < bound) (node : TypeNode) :
    g.Found place (place :: seen) (objectHead place node ++ known) where
  visited i hi := by
    unfold objectHead at hi
    rcases List.mem_append.mp hi with hhead | hknown
    · split at hhead
      · obtain rfl := List.mem_singleton.mp hhead
        exact List.mem_cons_self
      · cases hhead
    · exact List.mem_cons_of_mem _ (h.visited i hknown)
  complete j hj hjlt i hi := by
    rcases List.mem_cons.mp hj with rfl | hj
    · omega
    · exact List.mem_append_right _ (h.complete j hj (by omega) i hi)

/-- When a search leaves a place after all places that it refers to, it has found all objects at or
below the place. -/
theorem Found.leave (h : g.Found bound seen known)
    (hbelow : g.Found place between (g.objectsAt place ++ known))
    (hnew : ∀ j ∈ between, j ∈ place :: seen ∨ j < place) :
    g.Found bound between (g.objectsAt place ++ known) where
  visited := hbelow.visited
  complete j hj hlt i hi := by
    rcases hnew j hj with hseen | hjlt
    · rcases List.mem_cons.mp hseen with rfl | hseen
      · exact List.mem_append_left _ hi
      · exact List.mem_append_right _ (h.complete j hseen hlt i hi)
    · exact hbelow.complete j hj hjlt i hi

/-- An object that was not known is the first to be found when a search enters it. -/
theorem firstsIn_objectsAt (hg : g.Backward) (h : g[place]? = some node) (hnew : place ∉ known) :
    firstsIn known (g.objectsAt place) = objectHead place node ++
      firstsIn (objectHead place node ++ known) (node.references.flatMap g.objectsAt) := by
  rw [objectsAt_eq hg h, firstsIn_append, firstsIn_firstsIn (by simp)]
  congr 1
  unfold objectHead
  split
  · rw [firstsIn_cons_of_not_mem hnew]
    rfl
  · rfl

/-- From places before `bound`, a search finds the objects at or below them that had not been found,
each where it comes first. -/
theorem exists_traverses (hg : g.Backward) (hbound : bound ≤ g.size) (htodo : ∀ i ∈ todo, i < bound)
    (hfound : g.Found bound seen known) :
    ∃ after, g.Traverses todo seen after (firstsIn known (todo.flatMap g.objectsAt)) ∧
      (∀ j ∈ after, j ∈ seen ∨ j < bound) ∧
      g.Found bound after (todo.flatMap g.objectsAt ++ known) := by
  induction bound using Nat.strongRecOn generalizing todo seen known with
  | ind bound ihbound =>
    induction todo generalizing seen known with
    | nil => exact ⟨seen, .done, fun _ hj => .inl hj, hfound⟩
    | cons place todo ih =>
      obtain ⟨hplace, htodo⟩ := List.forall_mem_cons.mp htodo
      rw [List.flatMap_cons, firstsIn_append]
      -- In both cases the search goes on with all objects below the first place known.
      have hrest (i : Nat) : i ∈ todo.flatMap g.objectsAt ++ (g.objectsAt place ++ known) ↔
          i ∈ g.objectsAt place ++ todo.flatMap g.objectsAt ++ known := by
        simp only [List.mem_append]
        tauto
      by_cases hseen : place ∈ seen
      case pos =>
        have hknown : ∀ i ∈ g.objectsAt place, i ∈ known := hfound.complete place hseen hplace
        have hmem (i : Nat) : i ∈ known ↔ i ∈ g.objectsAt place ++ known := by
          have := hknown i
          rw [List.mem_append]
          tauto
        obtain ⟨after, htraverses, hnew, hafter⟩ := ih htodo (hfound.congr hmem)
        refine ⟨after, ?_, hnew, hafter.congr hrest⟩
        rw [firstsIn_eq_nil hknown]
        exact .skip hseen htraverses
      case neg =>
        obtain ⟨node, hnode⟩ : ∃ node, g[place]? = some node :=
          ⟨_, Array.getElem?_eq_getElem (by omega)⟩
        have hnewPlace : place ∉ known := fun hmem => hseen (hfound.visited place hmem)
        obtain ⟨between, hdown, hnewDown, hbetween⟩ := ihbound place hplace (by omega)
          (hg place node hnode) (hfound.enter hplace node)
        have hbelow (i : Nat) :
            i ∈ node.references.flatMap g.objectsAt ++ (objectHead place node ++ known) ↔
              i ∈ g.objectsAt place ++ known := by
          simp only [objectsAt_eq hg hnode, List.mem_append, mem_firstsIn, List.not_mem_nil]
          tauto
        obtain ⟨after, htraverses, hnew, hafter⟩ :=
          ih htodo (hfound.leave (hbetween.congr hbelow) hnewDown)
        refine ⟨after, ?_, fun j hj => ?_, hafter.congr hrest⟩
        · rw [firstsIn_objectsAt hg hnode hnewPlace]
          exact .visit hseen hnode hdown htraverses
        · rcases hnew j hj with hj | hlt
          · rcases hnewDown j hj with hj | hlt
            · rcases List.mem_cons.mp hj with rfl | hj
              · exact .inr hplace
              · exact .inl hj
            · exact .inr (by omega)
          · exact .inr hlt

end TypeGraph

namespace TypeModel

variable {m : TypeModel}

/-- The places of the structs that generated code declares, by where the search begins: first the
objects of the desired state, then those of the observed state that are new. -/
theorem objectTypes_eq (m : TypeModel) :
    m.objectTypes =
      firstsIn [] ((m.spec.toList ++ m.status.toList).flatMap m.graph.objectsAt) := by
  rw [objectTypes, eraseDups_eq_firstsIn]
  rfl

/-- The objects of a type model are those that a search finds that begins at the desired state and
goes on at the observed state. -/
theorem traverses_objectTypes (hg : m.graph.Backward)
    (hparts : ∀ i ∈ m.spec.toList ++ m.status.toList, i < m.graph.size) :
    ∃ seen, m.graph.Traverses (m.spec.toList ++ m.status.toList) [] seen m.objectTypes := by
  have hnothing : m.graph.Found m.graph.size [] [] := ⟨by simp, by simp⟩
  obtain ⟨seen, htraverses, _⟩ :=
    TypeGraph.exists_traverses hg (Nat.le_refl _) hparts hnothing
  rw [objectTypes_eq]
  exact ⟨seen, htraverses⟩

/-- Each object type of a model is listed once, so its struct is declared once. -/
theorem nodup_objectTypes (m : TypeModel) : m.objectTypes.Nodup := by
  rw [objectTypes_eq]
  exact nodup_firstsIn

/-- The object types of a model are exactly the objects at or below the desired and the observed
state. -/
theorem mem_objectTypes {i : Nat} :
    i ∈ m.objectTypes ↔ ∃ j ∈ m.spec.toList ++ m.status.toList, i ∈ m.graph.objectsAt j := by
  rw [objectTypes_eq, mem_firstsIn, List.mem_flatMap]
  simp

end TypeModel

end CrdToolset
