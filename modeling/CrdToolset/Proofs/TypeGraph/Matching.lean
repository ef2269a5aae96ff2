import CrdToolset.Go.Struct
import CrdToolset.Proofs.Go.Equations
import CrdToolset.Proofs.TypeGraph.ObjectTypes

/-!
# Types that match in two graphs

The places of two graphs are paired by a relation. The graphs match along it if paired places have
types that agree in everything but the places they refer to, and those are paired again. The places
themselves do not matter for what is generated: matching types have the same type expression and the
same literal, and below them are matching objects in the same order.
-/

namespace CrdToolset

variable {R S : Nat → Nat → Prop}

/-- Two fields agree in name and in whether they are required, and the places of their types are
paired. -/
structure Property.Matches (R : Nat → Nat → Prop) (e e' : Property) : Prop where
  /-- They have one name. -/
  name : e.name = e'.name
  /-- They must be present under the same condition. -/
  required : e.required = e'.required
  /-- Their types are paired. -/
  type : R e.type e'.type

/-- Two shapes agree in everything but the places that they refer to, and those places are paired
one by one. -/
inductive Shape.Matches (R : Nat → Nat → Prop) : Shape → Shape → Prop
  | primitive (kind : Primitive) : Matches R (.primitive kind) (.primitive kind)
  | object {edges edges' : List Property} (fields : List.Forall₂ (Property.Matches R) edges edges') :
      Matches R (.object edges) (.object edges')
  | array {i j : Nat} (element : R i j) : Matches R (.array i) (.array j)
  | map {i j : Option Nat} (value : Option.Rel R i j) : Matches R (.map i) (.map j)
  | unknown : Matches R .unknown .unknown

/-- Two types agree in everything but the places that they refer to, and those places are paired. -/
structure TypeNode.Matches (R : Nat → Nat → Prop) (node node' : TypeNode) : Prop where
  /-- They have one name. -/
  name : node.name = node'.name
  /-- They were found at fields of one name. -/
  field : node.field = node'.field
  /-- They are made of the same. -/
  shape : node.shape.Matches R node'.shape
  /-- The same is said about single values. -/
  constraints : node.constraints = node'.constraints

/-- Along the relation, paired places have types in both graphs, and these types match. -/
def TypeGraph.Matches (R : Nat → Nat → Prop) (g g' : TypeGraph) : Prop :=
  ∀ i j, R i j → ∃ node node', g[i]? = some node ∧ g'[j]? = some node' ∧ node.Matches R node'

/-- The types at two places match along some relation, and so do all types below them, whatever
their places are. -/
def TypeGraph.Alike (g g' : TypeGraph) (i j : Nat) : Prop := ∃ R, g.Matches R g' ∧ R i j

/-! ### Types -/

namespace TypeNode.Matches

variable {node node' : TypeNode} (h : node.Matches R node')
include h

/-- Matching types have the same form, as the form does not depend on places. -/
theorem form_eq : node.form = node'.form := by
  have hshape := h.shape
  unfold TypeNode.form
  generalize node.shape = a, node'.shape = b at hshape ⊢
  cases hshape <;> rfl

/-- The fields of matching types match one by one, in the order in which the types list them. -/
theorem properties : List.Forall₂ (Property.Matches R) node.properties node'.properties := by
  have hshape := h.shape
  unfold TypeNode.properties
  generalize node.shape = a, node'.shape = b at hshape ⊢
  cases hshape with
  | object fields => exact fields
  | _ => exact .nil

/-- The references of matching types are paired one by one, so a pass over both graphs can go on
below. -/
theorem references : List.Forall₂ R node.references node'.references := by
  have hshape := h.shape
  unfold TypeNode.references
  generalize node.shape = a, node'.shape = b at hshape ⊢
  cases hshape with
  | object fields =>
    rw [List.forall₂_map_left_iff, List.forall₂_map_right_iff]
    exact fields.imp fun _ _ hfield => hfield.type
  | array element => exact .cons element .nil
  | map value =>
    cases value with
    | none => exact .nil
    | some hvalue => exact .cons hvalue .nil
  | _ => exact .nil

/-- Types that match along a relation match along every other that pairs the same places below
them. -/
theorem imp (hRS : ∀ i ∈ node.references, ∀ j, R i j → S i j) : node.Matches S node' := by
  refine ⟨h.name, h.field, ?_, h.constraints⟩
  have hshape := h.shape
  unfold TypeNode.references at hRS
  generalize node.shape = a, node'.shape = b at hshape hRS ⊢
  cases hshape with
  | primitive kind => exact .primitive kind
  | object fields =>
    refine .object (((List.forall₂_and_left _ _).mpr ⟨fun _ he => he, fields⟩).imp ?_)
    rintro e e' ⟨he, hfield⟩
    exact ⟨hfield.name, hfield.required, hRS _ (List.mem_map_of_mem he) _ hfield.type⟩
  | array element => exact .array (hRS _ (by simp) _ element)
  | map value =>
    cases value with
    | none => exact .map .none
    | some hvalue => exact .map (.some (hRS _ (by simp) _ hvalue))
  | unknown => exact .unknown

end TypeNode.Matches

/-- The type of a position is made from places that are paired in the same way. -/
theorem Position.matches_node (p : Position) {places places' : List Nat}
    (h : List.Forall₂ R places places') : (p.node places).Matches R (p.node places') := by
  refine ⟨rfl, rfl, ?_, rfl⟩
  unfold Position.node Walker.shape
  cases hform : p.schema.form with
  | primitive =>
    cases p.schema.primitive? with
    | none => exact .unknown
    | some kind => exact .primitive kind
  | object =>
    refine .object ?_
    unfold Walker.fields
    rw [List.forall₂_map_left_iff, List.forall₂_map_right_iff]
    refine (Keyed.forall₂_sort_of_forall₂ (R := Property.Matches R) ?_).imp fun _ _ he => he.2
    rw [List.forall₂_map_left_iff, List.forall₂_map_right_iff]
    generalize p.children = children
    induction h generalizing children with
    | nil => simp
    | cons hij _ ih =>
      cases children with
      | nil => exact .nil
      | cons c children => exact .cons ⟨rfl, rfl, rfl, hij⟩ (ih children)
  | array =>
    cases h with
    | nil => exact .unknown
    | cons hij _ => exact .array hij
  | map =>
    cases h with
    | nil => exact .map .none
    | cons hij _ => exact .map (.some hij)
  | unknown => exact .unknown

namespace TypeGraph

variable {g g' k k' : TypeGraph} {node node' : TypeNode} {i j : Nat}

/-- What holds of paired places whenever it holds of all places paired below them holds of all
paired places. References lead back, so there is always an end. -/
theorem Matches.induction (h : g.Matches R g') (hg : g.Backward) {Q : Nat → Nat → Prop}
    (step : ∀ i j node node', R i j → g[i]? = some node → g'[j]? = some node' →
      node.Matches Q node' → Q i j) (hij : R i j) : Q i j := by
  induction i using Nat.strongRecOn generalizing j with
  | ind i ih =>
    obtain ⟨node, node', hnode, hnode', hmatches⟩ := h i j hij
    exact step i j node node' hij hnode hnode'
      (hmatches.imp fun a ha _ hab => ih a (hg i node hnode a ha) hab)

/-- The types at places that are alike match, and all that is below them is alike. -/
theorem matches_alike (g g' : TypeGraph) : g.Matches (g.Alike g') g' := by
  rintro i j ⟨R, hR, hij⟩
  obtain ⟨node, node', hnode, hnode', hmatches⟩ := hR i j hij
  exact ⟨node, node', hnode, hnode', hmatches.imp fun _ _ _ hab => ⟨R, hR, hab⟩⟩

/-- Places that are alike stay alike when both graphs get more types. -/
theorem Alike.extend (h : g.Alike g' i j)
    (hg : ∀ (a : Nat) node, g[a]? = some node → k[a]? = some node)
    (hg' : ∀ (b : Nat) node, g'[b]? = some node → k'[b]? = some node) : k.Alike k' i j := by
  obtain ⟨R, hR, hij⟩ := h
  refine ⟨R, fun a b hab => ?_, hij⟩
  obtain ⟨node, node', hnode, hnode', hmatches⟩ := hR a b hab
  exact ⟨node, node', hg a node hnode, hg' b node' hnode', hmatches⟩

/-- Where no two types of a graph have the same name, a place is like one place of another. -/
theorem biUnique_alike (hnames : (g.toList.map TypeNode.name).Nodup)
    (hnames' : (g'.toList.map TypeNode.name).Nodup) : Relator.BiUnique (g.Alike g') := by
  refine ⟨?left, ?right⟩
  case left =>
    intro a b j ha hb
    obtain ⟨node, other, hnode, hother, hmatches⟩ := matches_alike g g' a j ha
    obtain ⟨node', other', hnode', hother', hmatches'⟩ := matches_alike g g' b j hb
    obtain rfl := Option.some.inj (hother.symm.trans hother')
    exact place_eq_of_name_eq hnames hnode hnode' (hmatches.name.trans hmatches'.name.symm)
  case right =>
    intro i a b ha hb
    obtain ⟨node, other, hnode, hother, hmatches⟩ := matches_alike g g' i a ha
    obtain ⟨node', other', hnode', hother', hmatches'⟩ := matches_alike g g' i b hb
    obtain rfl := Option.some.inj (hnode.symm.trans hnode')
    exact place_eq_of_name_eq hnames' hother hother' (hmatches.name.symm.trans hmatches'.name)

/-! ### What is generated for a type -/

section Generated

variable (h : g.Matches R g') (hg : g.Backward) (hg' : g'.Backward)
include h

/-- Paired places have types of one form, so tests for a form have the same result in both
graphs. -/
theorem Matches.hasForm_eq (hij : R i j) (form : Form) :
    Go.hasForm g i form = Go.hasForm g' j form := by
  obtain ⟨node, node', hnode, hnode', hmatches⟩ := h i j hij
  simp [Go.hasForm, hnode, hnode', hmatches.form_eq]

include hg hg'

/-- Matching types have the same type expression, since the expression does not mention places. -/
theorem Matches.typeExpr_eq (hij : R i j) : Go.typeExpr g i = Go.typeExpr g' j := by
  refine h.induction hg (Q := fun i j => Go.typeExpr g i = Go.typeExpr g' j) ?_ hij
  intro i j node node' _ hnode hnode' hmatches
  rw [Go.typeExpr_eq hg hnode, Go.typeExpr_eq hg' hnode']
  have hshape := hmatches.shape
  unfold Go.typeExprFrom
  rw [hmatches.name]
  generalize node.shape = a, node'.shape = b at hshape ⊢
  cases hshape with
  | array element => simp [element]
  | map value =>
    cases value with
    | none => rfl
    | some hvalue => simp [hvalue]
  | _ => rfl

/-- Matching types have the same literal, down to the literals of everything below them. -/
theorem Matches.literal_eq (hij : R i j) : Go.Literal.ofType g i = Go.Literal.ofType g' j := by
  refine h.induction hg (Q := fun i j => Go.Literal.ofType g i = Go.Literal.ofType g' j) ?_ hij
  intro i j node node' _ hnode hnode' hmatches
  rw [Go.Literal.ofType_eq hg hnode, Go.Literal.ofType_eq hg' hnode']
  have hshape := hmatches.shape
  unfold Go.Literal.fromNode
  rw [hmatches.constraints]
  generalize node.shape = a, node'.shape = b at hshape ⊢
  cases hshape with
  | @object edges edges' fields =>
    have hproperties : edges.map (fun e => (e.name, Go.Literal.ofType g e.type)) =
        edges'.map fun e => (e.name, Go.Literal.ofType g' e.type) := by
      induction fields with
      | nil => rfl
      | cons he _ ih => rw [List.map_cons, List.map_cons, ih, he.name, he.type]
    have hrequired : (edges.filter Property.required).map Property.name =
        (edges'.filter Property.required).map Property.name := by
      clear hproperties
      induction fields with
      | nil => rfl
      | cons he _ ih =>
        simp only [List.filter_cons, he.required]
        split <;> simp [ih, he.name]
    simp [Go.jsonType, hproperties, hrequired]
  | array element => simp [Go.jsonType, element]
  | map value =>
    cases value with
    | none => rfl
    | some hvalue => simp [Go.jsonType, hvalue]
  | _ => rfl

/-- Matching fields of objects become the same field of a struct, with the same type and the same
tag. -/
theorem Matches.ofProperty_eq {e e' : Property} (he : e.Matches R e') (comments : Bool) :
    Go.Field.ofProperty g comments e = Go.Field.ofProperty g' comments e' := by
  obtain ⟨node, node', hnode, hnode', hmatches⟩ := h _ _ he.type
  have htype : Go.fieldType g e = Go.fieldType g' e' := by
    unfold Go.fieldType
    rw [he.required, h.hasForm_eq he.type, h.typeExpr_eq hg hg' he.type]
  have htag : Go.jsonTag e = Go.jsonTag e' := by rw [Go.jsonTag, Go.jsonTag, he.name, he.required]
  simp [Go.Field.ofProperty, htype, htag, hnode, hnode', hmatches.constraints, he.name]

/-- Matching types become the same struct, with the same fields in the same order. -/
theorem Matches.ofNode_eq (hnode : node.Matches R node') (comments : Bool) :
    Go.Struct.ofNode g comments node = Go.Struct.ofNode g' comments node' := by
  have hfields : node.properties.map (Go.Field.ofProperty g comments) =
      node'.properties.map (Go.Field.ofProperty g' comments) := by
    rw [← List.forall₂_eq_eq_eq, List.forall₂_map_left_iff, List.forall₂_map_right_iff]
    exact hnode.properties.imp fun _ _ he => h.ofProperty_eq hg hg' he comments
  simp [Go.Struct.ofNode, hfields, hnode.name, hnode.constraints]

end Generated

/-! ### The objects below a type -/

/-- Where the relation is one to one, members that are not known come first in both lists at
matching positions. -/
theorem forall₂_firstsIn (hR : Relator.BiUnique R) {known known' l l' : List Nat}
    (hknown : List.Forall₂ R known known') (h : List.Forall₂ R l l') :
    List.Forall₂ R (firstsIn known l) (firstsIn known' l') := by
  induction h generalizing known known' with
  | nil => exact .nil
  | @cons a b _ _ hab _ ih =>
    have hmem : a ∈ known ↔ b ∈ known' := List.rel_mem hR hab hknown
    by_cases ha : a ∈ known
    · rw [firstsIn_cons_of_mem ha, firstsIn_cons_of_mem (hmem.mp ha)]
      exact ih hknown
    · rw [firstsIn_cons_of_not_mem ha, firstsIn_cons_of_not_mem fun hb => ha (hmem.mpr hb)]
      exact .cons hab (ih (.cons hab hknown))

/-- Below places that are alike, the objects that are found in depth-first order are alike one by
one. -/
theorem Alike.objectsAt (hg : g.Backward) (hg' : g'.Backward)
    (hunique : Relator.BiUnique (g.Alike g')) (h : g.Alike g' i j) :
    List.Forall₂ (g.Alike g') (g.objectsAt i) (g'.objectsAt j) := by
  refine (matches_alike g g').induction hg
    (Q := fun i j => List.Forall₂ (g.Alike g') (g.objectsAt i) (g'.objectsAt j)) ?_ h
  intro i j node node' hij hnode hnode' hmatches
  rw [objectsAt_eq hg hnode, objectsAt_eq hg' hnode']
  have hhead : List.Forall₂ (g.Alike g') (objectHead i node) (objectHead j node') := by
    unfold objectHead
    rw [hmatches.form_eq]
    split
    · exact .cons hij .nil
    · exact .nil
  have hbelow : List.Forall₂ (g.Alike g') (node.references.flatMap g.objectsAt)
      (node'.references.flatMap g'.objectsAt) :=
    List.rel_flatMap hmatches.references fun _ _ hab => hab
  exact List.rel_append hhead (forall₂_firstsIn hunique .nil hbelow)

end TypeGraph

end CrdToolset
