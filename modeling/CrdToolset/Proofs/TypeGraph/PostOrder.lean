import CrdToolset.Proofs.TypeGraph.Address
import Mathlib.Data.List.Nodup

/-!
# The positions of a schema in post-order

All positions at and below a position, listed so that each comes after those below it, and those
below it in the order in which they are visited. The list is finite because a step leads into a part
of the schema, or to elements of which nothing is known.
-/

namespace CrdToolset

namespace Schema

variable {s t : Schema}

/-- The schema of a property is smaller than the schema that names it, so going down to properties
comes to an end. -/
theorem sizeOf_lt_of_mem_properties {name : String} (h : (name, t) ∈ s.properties) :
    sizeOf t < sizeOf s := by
  have hentry := List.sizeOf_lt_of_mem h
  rw [Prod.mk.sizeOf_spec] at hentry
  cases s
  simp only [mk.sizeOf_spec] at hentry ⊢
  omega

/-- The schema of the elements is smaller than the schema of the list, so going down to elements
comes to an end. -/
theorem sizeOf_lt_of_items (h : s.items = some t) : sizeOf t < sizeOf s := by
  cases s
  obtain rfl := h
  simp only [mk.sizeOf_spec, Option.some.sizeOf_spec]
  omega

/-- The schema of the values is smaller than the schema of the map, so going down to values comes to
an end. -/
theorem sizeOf_lt_of_additionalSchema (h : s.additionalSchema = some t) : sizeOf t < sizeOf s := by
  unfold additionalSchema at h
  split at h
  case h_1 u hu =>
    obtain rfl : u = t := by simpa using h
    cases s
    obtain rfl := hu
    simp only [mk.sizeOf_spec, Option.some.sizeOf_spec, Additional.schema.sizeOf_spec]
    omega
  case h_2 => cases h

end Schema

namespace Position

variable {p c q : Position} {s : Step} {a : Address}

/-- Nothing lies below a position with the empty schema, which is what elements without a schema are
given. -/
theorem children_of_empty (h : p.schema = {}) : p.children = [] := by
  obtain ⟨schema, name, field, path⟩ := p
  obtain rfl := h
  rfl

/-- A position directly below has a smaller schema, or has itself no position below. The second
happens for elements that no schema describes. -/
theorem children_eq_nil_or_sizeOf_lt (h : c ∈ p.children) :
    c.children = [] ∨ sizeOf c.schema < sizeOf p.schema := by
  unfold children at h
  split at h
  case h_1 =>
    obtain ⟨⟨name, t⟩, ht, rfl⟩ := List.mem_map.mp h
    exact .inr (Schema.sizeOf_lt_of_mem_properties (List.mem_mergeSort.mp ht))
  case h_2 =>
    obtain rfl := List.mem_singleton.mp h
    cases hitems : p.schema.items with
    | none => exact .inl (children_of_empty (by simp [element, hitems]))
    | some t => exact .inr (by simpa [element, hitems] using Schema.sizeOf_lt_of_items hitems)
  case h_3 =>
    obtain ⟨t, ht, rfl⟩ := List.mem_map.mp h
    exact .inr (Schema.sizeOf_lt_of_additionalSchema (Option.mem_toList.mp ht))
  case h_4 => cases h

/-- What gets smaller from a position to those below it. Elements without a schema stand at the empty
one, which need not be smaller but has nothing below it. -/
theorem measure_lt_of_mem_children (h : c ∈ p.children) :
    (if c.children = [] then 0 else sizeOf c.schema + 1) <
      if p.children = [] then 0 else sizeOf p.schema + 1 := by
  rw [if_neg (List.ne_nil_of_mem h)]
  split
  · omega
  · have := (children_eq_nil_or_sizeOf_lt h).resolve_left ‹_›
    omega

/-- All positions at and below a position, each after those below it. This is the order in which
types are finished. -/
def postOrder (p : Position) : List Position :=
  (p.children.attach.flatMap fun c => c.1.postOrder) ++ [p]
termination_by if p.children = [] then 0 else sizeOf p.schema + 1
decreasing_by exact measure_lt_of_mem_children c.2

/-- The post-order lists the positions below first, child after child, and the position itself
last. -/
theorem postOrder_eq (p : Position) : p.postOrder = p.children.flatMap postOrder ++ [p] := by
  rw [postOrder, List.flatMap_subtype (fun _ _ => rfl), List.unattach_attach]

/-- A position is itself one of the positions at and below it, the last in post-order. -/
theorem mem_postOrder_self (p : Position) : p ∈ p.postOrder := by
  rw [postOrder_eq]
  simp

/-- What lies at or below a position directly below another lies below that other position, too. -/
theorem mem_postOrder_of_below (hc : c ∈ p.children) (hq : q ∈ c.postOrder) : q ∈ p.postOrder := by
  rw [postOrder_eq, List.mem_append, List.mem_flatMap]
  exact .inl ⟨c, hc, hq⟩

/-- What holds of a position, and of everything directly below what it holds of, holds of the positions
at and below the position. -/
theorem postOrder_induction {motive : Position → Prop} (hp : motive p)
    (hstep : ∀ d, motive d → ∀ c ∈ d.children, motive c) (hq : q ∈ p.postOrder) : motive q := by
  induction p using postOrder.induct with
  | case1 p ih =>
    rw [postOrder_eq, List.mem_append, List.mem_flatMap, List.mem_singleton] at hq
    rcases hq with ⟨c, hc, hq⟩ | rfl
    · exact ih ⟨c, hc⟩ (hstep p hp c hc) hq
    · exact hp

/-- The positions at and below a position are closed under going down: with each of them, those
directly below it are listed. -/
theorem mem_postOrder_of_mem_children (hq : q ∈ p.postOrder) (hc : c ∈ q.children) :
    c ∈ p.postOrder := by
  induction p using postOrder.induct with
  | case1 p ih =>
    rw [postOrder_eq, List.mem_append, List.mem_flatMap, List.mem_singleton] at hq
    rcases hq with ⟨d, hd, hq⟩ | rfl
    · exact mem_postOrder_of_below hd (ih ⟨d, hd⟩ hq)
    · exact mem_postOrder_of_below hc (mem_postOrder_self c)

/-- What holds everywhere in the schema of a position holds everywhere in those of the positions at and
below it. -/
theorem everywhere_of_mem_postOrder {P : Schema → Prop} (hempty : P {})
    (hp : p.schema.Everywhere P) (hq : q ∈ p.postOrder) : q.schema.Everywhere P :=
  postOrder_induction hp (fun _ hd _ hc => everywhere_of_mem_children hempty hd hc) hq

/-- The list has exactly the positions that have an address, if no property is named twice. -/
theorem mem_postOrder_iff (hkeys : p.schema.KeysDistinct) :
    q ∈ p.postOrder ↔ ∃ a, p.at? a = some q := by
  constructor
  · intro hq
    have hself : p.schema.KeysDistinct ∧ ∃ a, p.at? a = some p := ⟨hkeys, [], rfl⟩
    refine (postOrder_induction (motive := fun d => d.schema.KeysDistinct ∧ ∃ a, p.at? a = some d)
      hself ?_ hq).2
    rintro d ⟨hd, a, ha⟩ c hc
    obtain ⟨s, hs⟩ := exists_child?_of_mem_children hd hc
    exact ⟨everywhere_of_mem_children .nil hd hc, a ++ [s], (at?_concat ha s).trans hs⟩
  · rintro ⟨a, hq⟩
    induction a generalizing p with
    | nil =>
      obtain rfl : p = q := by simpa [at?] using hq
      exact mem_postOrder_self p
    | cons s rest ih =>
      obtain ⟨c, hc, hq⟩ := Option.bind_eq_some_iff.mp hq
      have hchild : c ∈ p.children := mem_children_of_child? hc
      exact mem_postOrder_of_below hchild (ih (everywhere_of_mem_children .nil hkeys hchild) hq)

/-- The positions directly below a position are different from each other, if no object of the
schema names a property twice. -/
theorem nodup_children (hkeys : p.schema.KeysDistinct) : p.children.Nodup := by
  unfold children
  split
  case h_1 =>
    refine List.Nodup.of_map field ?_
    have hnames : (p.schema.sortedProperties.map Prod.fst).Nodup :=
      (Keyed.map_fst_sort_perm p.schema.properties).nodup_iff.mpr hkeys.here
    simpa [Function.comp_def, property] using hnames
  case h_2 => exact List.nodup_singleton _
  case h_3 => cases p.schema.additionalSchema <;> simp
  case h_4 => exact .nil

/-- A position in the list of a child has an address that begins with the step to the child. -/
theorem exists_at?_of_mem_children (hkeys : p.schema.KeysDistinct) (hc : c ∈ p.children)
    (hq : q ∈ c.postOrder) :
    ∃ s a, p.child? s = some c ∧ p.at? (s :: a) = some q := by
  obtain ⟨s, hs⟩ := exists_child?_of_mem_children hkeys hc
  obtain ⟨a, ha⟩ := (mem_postOrder_iff (everywhere_of_mem_children .nil hkeys hc)).mp hq
  exact ⟨s, a, hs, by simp [at?, hs, ha]⟩

/-- Paths that identify the positions below a position identify those below each of its children.
Addresses below a child are prolonged at the front. -/
theorem PathsDistinct.child (hpaths : p.PathsDistinct) (hs : p.child? s = some c) :
    c.PathsDistinct := by
  intro a b q r hq hr hpath
  have h := hpaths (s :: a) (s :: b) q r (by simp [at?, hs, hq]) (by simp [at?, hs, hr]) hpath
  exact (List.cons.inj h).2

/-- The paths in the list are different from each other where a path identifies a position. -/
theorem nodup_paths (hkeys : p.schema.KeysDistinct) (hpaths : p.PathsDistinct) :
    (p.postOrder.map path).Nodup := by
  induction p using postOrder.induct with
  | case1 p ih =>
    rw [postOrder_eq, List.map_append, List.map_flatMap, List.nodup_append, List.nodup_flatMap]
    refine ⟨⟨?_, ?_⟩, List.nodup_singleton _, ?_⟩
    · intro c hc
      obtain ⟨s, hs⟩ := exists_child?_of_mem_children hkeys hc
      exact ih ⟨c, hc⟩ (everywhere_of_mem_children .nil hkeys hc) (hpaths.child hs)
    · refine (nodup_children hkeys).imp_of_mem ?_
      intro c d hc hd hne text hqpath hrpath
      obtain ⟨q, hq, rfl⟩ := List.mem_map.mp hqpath
      obtain ⟨r, hr, hpath⟩ := List.mem_map.mp hrpath
      obtain ⟨s, a, hs, hq⟩ := exists_at?_of_mem_children hkeys hc hq
      obtain ⟨t, b, ht, hr⟩ := exists_at?_of_mem_children hkeys hd hr
      obtain ⟨rfl, _⟩ := List.cons.inj (hpaths _ _ q r hq hr hpath.symm)
      exact hne (Option.some.inj (hs.symm.trans ht))
    · intro text hqpath text' hp heq
      obtain ⟨c, hc, hqpath⟩ := List.mem_flatMap.mp hqpath
      obtain ⟨q, hq, rfl⟩ := List.mem_map.mp hqpath
      obtain ⟨s, a, _, hq⟩ := exists_at?_of_mem_children hkeys hc hq
      have hpath : q.path = p.path := by simpa [heq] using hp
      cases hpaths (s :: a) [] q p hq rfl hpath

end Position

end CrdToolset
