import CrdToolset.Proofs.TypeGraph.Fold
import CrdToolset.Proofs.TypeGraph.Soundness
import CrdToolset.Proofs.TypeGraph.Translation

/-!
# Types and the positions they were made for

Every type of a walker was made for some position, and it refers to types with the names and the
forms of the positions directly below that one. This holds also where a type was answered from the
cache, whatever the names of properties are. It is a fact about the graph alone, so it is there for
everyone who has only the graph.
-/

namespace CrdToolset

/-- The type at a place has the name and the form that a position asks for. -/
def TypeGraph.Holds (g : TypeGraph) (c : Position) (place : Nat) : Prop :=
  ∃ node, g[place]? = some node ∧ node.name = c.name ∧ node.form = c.schema.form

/-- Every type was made for a position and refers to types for the positions directly below. -/
def TypeGraph.Built (g : TypeGraph) : Prop :=
  ∀ (place : Nat) (node : TypeNode), g[place]? = some node →
    ∃ (p : Position) (places : List Nat), node = p.node places ∧
      List.Forall₂ g.Holds p.children places

/-- The name of the type at a place of the graph. A place that has no type is given the empty
name. -/
def TypeGraph.nameAt (g : TypeGraph) (place : Nat) : String :=
  (g[place]?.map TypeNode.name).getD ""

variable {refers : Position → Nat → Prop} {p c : Position} {node : TypeNode} {place : Nat}
  {places : List Nat} {g : TypeGraph}

/-- Where there is a type at a place, `nameAt` gives its name. -/
theorem TypeGraph.nameAt_of_getElem? (h : g[place]? = some node) : g.nameAt place = node.name := by
  simp [nameAt, h]

/-- A type that was made for a position has the name of the position, so the names of places can be
read off the positions. -/
theorem TypeGraph.Holds.nameAt (h : g.Holds c place) : g.nameAt place = c.name := by
  obtain ⟨node, hnode, hname, _⟩ := h
  rw [nameAt_of_getElem? hnode, hname]

/-- A shape that describes a schema has the form of that schema. -/
theorem Shape.Describes.form_eq {shape : Shape} (h : shape.Describes refers p) :
    shape.form = p.schema.form := by
  cases h <;> simp_all [Shape.form]

/-- A type that is made of types for the positions directly below has the form of the schema. -/
theorem Position.form_node (h : List.Forall₂ refers p.children places) :
    (p.node places).form = p.schema.form := (Walker.describes_node h).shape.form_eq

namespace Walker

variable {w v w' : Walker} {levels : Nat} {ps : List Position} {outcome : Except Fault (List Nat)}

/-- A place that holds the type of a position goes on to hold it as the walker goes on, since types
are never changed. -/
theorem Extends.holds (h : w.Extends v) (hc : w.graph.Holds c place) : v.graph.Holds c place := by
  obtain ⟨node, hnode, hfits⟩ := hc
  exact ⟨node, h.node _ _ hnode, hfits⟩

/-- A successful visit ends with places of types that have the names and the forms of the positions
visited. -/
theorem Visits.holds (h : Visits levels ps w outcome w') (hok : outcome = .ok places) :
    List.Forall₂ w'.graph.Holds ps places := by
  induction h generalizing places with
  | nil =>
    obtain rfl : [] = places := by simpa using hok
    exact .nil
  | refused => cases hok
  | @reused _ place _ _ _ _ node outcome hit found name form after ih =>
    obtain ⟨rest, rfl, rfl⟩ := map_eq_ok_iff.mp hok
    exact .cons ⟨node, after.extends.node _ _ found, name, form⟩ (ih rfl)
  | abandoned => cases hok
  | @finished _ p _ _ v _ made outcome _ _ _ after ihbelow ih =>
    obtain ⟨rest, rfl, rfl⟩ := map_eq_ok_iff.mp hok
    have hnew : (v.add p.path (p.node made)).graph[v.graph.size]? = some (p.node made) := by
      simp [add]
    exact .cons ⟨_, after.extends.node _ _ hnew, rfl, Position.form_node (ihbelow rfl)⟩ (ih rfl)

/-- A visit keeps the graph built, however it ends: it adds types for positions only, and each
refers to types of the positions directly below. -/
theorem Visits.built (h : Visits levels ps w outcome w') (hw : w.graph.Built) : w'.graph.Built := by
  induction h with
  | nil => exact hw
  | refused => exact hw
  | reused _ _ _ _ _ ih => exact ih hw
  | abandoned _ _ _ ih => exact ih (by simpa using hw)
  | @finished _ p _ _ v _ places _ fresh _ below _ ihbelow ihafter =>
    have hext : v.Extends (v.add p.path (p.node places)) :=
      extends_add (below.not_cached_of_own fresh) _
    refine ihafter ?_
    intro place node hnode
    rcases getElem?_add hnode with hold | ⟨_, rfl⟩
    · obtain ⟨q, made, hmade, hholds⟩ := ihbelow (by simpa using hw) place node hold
      exact ⟨q, made, hmade, hholds.imp fun _ _ => hext.holds⟩
    · exact ⟨p, places, rfl, (below.holds rfl).imp fun _ _ => hext.holds⟩

/-- The fields of an object in the order in which a walker comes to the positions directly below it. -/
def visitedFields (p : Position) (places : List Nat) : List Property :=
  (p.children.zip places).map fun (child, place) =>
    ⟨child.field, place, p.schema.required.contains child.field⟩

/-- The function `fields` sorts by the names of the positions directly below. Where the types at the places
have the names that these positions ask for, this is the order of the names that are looked up in the
graph. -/
theorem fields_eq_mergeSort (h : List.Forall₂ g.Holds p.children places) :
    fields p places =
      (visitedFields p places).mergeSort fun a b => g.nameAt a.type ≤ g.nameAt b.type := by
  have hnamed : (p.children.zip places).map (fun (child, place) =>
        (child.name, (⟨child.field, place, p.schema.required.contains child.field⟩ : Property))) =
      (visitedFields p places).map fun e => (g.nameAt e.type, e) := by
    rw [visitedFields, List.map_map]
    refine List.map_congr_left fun (child, place) hmem => ?_
    have hname : g.nameAt place = child.name := ((List.forall₂_iff_zip.mp h).2 hmem).nameAt
    rw [Function.comp_apply, hname]
  change ((Keyed.sort _).map Prod.snd) = _
  rw [hnamed, ← Keyed.map_mergeSort_eq_sort fun _ _ => rfl, List.map_map]
  exact List.map_id _

/-- When a walker has visited the positions directly below an object, the fields of the object are those it
came to, sorted by the names that its graph has for their types. -/
theorem Visits.fields_eq_mergeSort (h : Visits levels p.children w (.ok places) v) :
    fields p places = (visitedFields p places).mergeSort fun a b =>
      v.graph.nameAt a.type ≤ v.graph.nameAt b.type :=
  Walker.fields_eq_mergeSort (h.holds rfl)

/-- The fields of an object are put into the order of the names of their types, where the places
hold the types of the positions below. -/
theorem pairwise_fields (h : List.Forall₂ g.Holds p.children places) :
    (fields p places).Pairwise fun a b => g.nameAt a.type ≤ g.nameAt b.type := by
  have hsorted := Keyed.pairwise_sort ((visitedFields p places).map fun e => (g.nameAt e.type, e))
  rw [← Keyed.map_mergeSort_eq_sort fun _ _ => rfl, ← fields_eq_mergeSort h] at hsorted
  rw [List.pairwise_map] at hsorted
  exact hsorted

end Walker

namespace TypeGraph.Built

/-- Every type describes a position, and refers to types with the names and forms of the positions
directly below. -/
theorem describes (hg : g.Built) (h : g[place]? = some node) :
    ∃ p, node.Describes g.Holds p := by
  obtain ⟨p, places, rfl, hholds⟩ := hg place node h
  exact ⟨p, Walker.describes_node hholds⟩

/-- In a built graph, the fields of every object stand in the order of the names of their types,
whichever calls made it. -/
theorem pairwise_properties (hg : g.Built) (h : g[place]? = some node) :
    node.properties.Pairwise fun a b => g.nameAt a.type ≤ g.nameAt b.type := by
  obtain ⟨p, places, rfl, hholds⟩ := hg place node h
  unfold TypeNode.properties
  split
  case h_1 edges hshape =>
    have hform : p.schema.form = .object := by
      rw [← Position.form_node hholds]
      simp [TypeNode.form, hshape, Shape.form]
    simp only [Position.node, Walker.shape, hform, Shape.object.injEq] at hshape
    exact hshape ▸ Walker.pairwise_fields hholds
  case h_2 => exact .nil

end TypeGraph.Built

end CrdToolset
