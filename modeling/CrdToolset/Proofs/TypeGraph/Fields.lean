import CrdToolset.Proofs.TypeGraph.Built

/-!
# Fields of objects

What holds of the fields of an object in any graph that was made for positions. An object has
fields, and each leads to a type named after the object and the field, so fields of one name are the
same field.

These facts are read off the graph alone. They serve every artifact that writes out an object,
however its type was reached.
-/

namespace CrdToolset

variable {g : TypeGraph} {node : TypeNode} {place : Nat} {e e' : Property}

/-- The shape of a type with the form of an object is made of its fields, which
`TypeNode.properties` gives. -/
theorem TypeNode.shape_eq_object (h : node.form = .object) :
    node.shape = .object node.properties := by
  unfold TypeNode.properties
  unfold form at h
  cases hshape : node.shape <;> simp_all [Shape.form]

/-- Only objects have fields, so a type with a field has the form of an object. -/
theorem TypeNode.form_of_mem_properties (he : e ∈ node.properties) : node.form = .object := by
  unfold TypeNode.properties at he
  unfold form
  cases hshape : node.shape <;> simp_all [Shape.form]

/-- The references of an object include the types of all its fields. -/
theorem TypeNode.mem_references (he : e ∈ node.properties) : e.type ∈ node.references := by
  unfold references
  rw [shape_eq_object (form_of_mem_properties he)]
  exact List.mem_map_of_mem he

/-- A schema that is classified as an object names at least one property. A schema without
properties is classified as something else. -/
theorem Schema.properties_ne_nil_of_form {s : Schema} (h : s.form = .object) :
    s.properties ≠ [] := by
  intro hnil
  unfold Schema.form at h
  simp only [hnil, List.isEmpty_nil] at h
  repeat' split at h
  all_goals simp_all

namespace TypeGraph.Built

/-- An object of a built graph describes the properties of a schema: it names the same ones, their
types were made for them, and it requires those that the schema requires. -/
theorem describes_object (hg : g.Built) (h : g[place]? = some node) (hform : node.form = .object) :
    ∃ p : Position, node.name = p.name ∧ p.schema.form = .object ∧
      (node.properties.map Property.name).Perm (p.schema.properties.map Prod.fst) ∧
      (∀ e ∈ node.properties, ∃ t, g.Holds (p.property e.name t) e.type) ∧
      ∀ e ∈ node.properties, e.required = true ↔ e.name ∈ p.schema.required := by
  obtain ⟨p, hp⟩ := hg.describes h
  have hshape := hp.shape
  rw [TypeNode.shape_eq_object hform] at hshape
  cases hshape with
  | object form names targets required =>
    refine ⟨p, hp.name, form, names, fun e he => ?_, required⟩
    obtain ⟨t, _, ht⟩ := targets e he
    exact ⟨t, ht⟩

/-- An object of a built graph has at least one field, so its struct is never empty. -/
theorem properties_ne_nil (hg : g.Built) (h : g[place]? = some node) (hform : node.form = .object) :
    node.properties ≠ [] := by
  obtain ⟨p, _, hobject, hnames, _⟩ := hg.describes_object h hform
  intro hnil
  have hschema := Schema.properties_ne_nil_of_form hobject
  rw [hnil, List.map_nil, List.nil_perm, List.map_eq_nil_iff] at hnames
  exact hschema hnames

/-- The type of a field is in the graph, and is named after the object and the field. -/
theorem exists_target (hg : g.Built) (h : g[place]? = some node) (he : e ∈ node.properties) :
    ∃ target, g[e.type]? = some target ∧ target.name = node.name ++ Naming.pascal e.name := by
  obtain ⟨p, hname, _, _, htargets, _⟩ :=
    hg.describes_object h (TypeNode.form_of_mem_properties he)
  obtain ⟨t, target, htarget, htargetName, _⟩ := htargets e he
  refine ⟨target, htarget, ?_⟩
  rw [htargetName, hname]
  rfl

/-- Fields of an object that have the same name have the same type, as no two types of the graph
have one name. -/
theorem type_eq_of_name_eq (hg : g.Built) (hnames : (g.toList.map TypeNode.name).Nodup)
    (h : g[place]? = some node) (he : e ∈ node.properties) (he' : e' ∈ node.properties)
    (hname : e.name = e'.name) : e.type = e'.type := by
  obtain ⟨a, ha, haname⟩ := hg.exists_target h he
  obtain ⟨b, hb, hbname⟩ := hg.exists_target h he'
  refine place_eq_of_name_eq hnames ha hb ?_
  rw [haname, hbname, hname]

/-- Fields of an object that have the same name are both required or both optional, since the schema
says it of names. -/
theorem required_eq_of_name_eq (hg : g.Built) (h : g[place]? = some node)
    (he : e ∈ node.properties) (he' : e' ∈ node.properties) (hname : e.name = e'.name) :
    e.required = e'.required := by
  obtain ⟨p, _, _, _, _, hrequired⟩ := hg.describes_object h (TypeNode.form_of_mem_properties he)
  rw [Bool.eq_iff_iff, hrequired e he, hrequired e' he', hname]

end TypeGraph.Built

end CrdToolset
