import CrdToolset.Proofs.Keyed
import CrdToolset.Proofs.Schema.Everywhere
import CrdToolset.TypeGraph.Position
import Mathlib.Data.String.Basic

/-!
# Addresses of positions

A position is reached from another by steps into properties, elements and values, and the list of
those steps is its address. The path of a position is the text of its address behind the path of the
root. Two addresses can have the same text, but not where the names of properties are plain.
-/

namespace CrdToolset

/-- A step leads from a position to one directly below it: into a property of an object, into the
elements of a list or into the values of a map. -/
inductive Step where
  /-- Into a property of an object. -/
  | property (name : String)
  /-- Into the elements of a list. -/
  | element
  /-- Into the values of a map. -/
  | value
  deriving DecidableEq

/-- An address is the list of the steps that lead from one position down to another, with the first
step at its head. -/
abbrev Address := List Step

/-- How a step is written in a path: a property behind a dot, elements as a pair of brackets, values
as a pair of braces. -/
def Step.text : Step → String
  | .property name => "." ++ name
  | .element => "[]"
  | .value => "\x7b\x7d"

/-- How an address is written in a path: the texts of its steps one after the other. -/
def Address.text : Address → String
  | [] => ""
  | s :: rest => s.text ++ Address.text rest

/-- The text of an address is prolonged by the text of one more step, just as a walker prolongs the
path of a position on the way down. -/
theorem Address.text_concat (a : Address) (s : Step) :
    Address.text (a ++ [s]) = a.text ++ s.text := by
  induction a with
  | nil => simp [Address.text]
  | cons first rest ih =>
    rw [List.cons_append, Address.text, ih, Address.text, String.append_assoc]

/-! ### Addresses of plain steps are determined by their text -/

/-- The step does not lead into a property whose name could be mistaken for further steps. -/
def Step.Plain : Step → Prop
  | .property name => Schema.PlainName name
  | _ => True

/-- A character with which a step begins in a path. A plain name has none of them, so they mark
where a step ends. -/
def opensStep (c : Char) : Prop := c = '.' ∨ c = '[' ∨ c = '\x7b'

/-- The text of a step contains a character that opens a step, so it is never empty and never part
of a plain name. -/
theorem Step.exists_opensStep (s : Step) : ∃ c ∈ s.text.toList, opensStep c := by
  cases s with
  | property name => exact ⟨'.', by simp [Step.text], .inl rfl⟩
  | element => exact ⟨'[', by simp [Step.text], .inr (.inl rfl)⟩
  | value => exact ⟨'\x7b', by simp [Step.text], .inr (.inr rfl)⟩

/-- The text of an address is empty or begins with a character that opens a step. So the name before
it ends there. -/
theorem Address.opensStep_of_mem_head? {a : Address} {c : Char} (h : c ∈ a.text.toList.head?) :
    opensStep c := by
  cases a with
  | nil => simp [Address.text] at h
  | cons s rest => cases s <;> simp [Address.text, Step.text] at h <;> simp [opensStep, ← h]

/-- Names without a character that opens a step can be told from what follows them, if that is empty
or begins a step. -/
theorem append_inj_of_opensStep {m n t u : List Char} (hm : ∀ c ∈ m, ¬opensStep c)
    (hn : ∀ c ∈ n, ¬opensStep c) (ht : ∀ c ∈ t.head?, opensStep c) (hu : ∀ c ∈ u.head?, opensStep c)
    (h : m ++ t = n ++ u) : m = n ∧ t = u := by
  induction m generalizing n with
  | nil =>
    cases n with
    | nil => exact ⟨rfl, h⟩
    | cons d n =>
      rw [List.nil_append] at h
      exact absurd (ht d (by simp [h])) (hn d (by simp))
  | cons c m ih =>
    cases n with
    | nil =>
      rw [List.nil_append] at h
      exact absurd (hu c (by simp [← h])) (hm c (by simp))
    | cons d n =>
      simp only [List.cons_append, List.cons.injEq] at h
      obtain ⟨rfl, h⟩ := h
      obtain ⟨rfl, rfl⟩ := ih (fun c hc => hm c (by simp [hc])) (fun c hc => hn c (by simp [hc])) h
      exact ⟨rfl, rfl⟩

/-- A plain name contains no character that opens a step, which is what makes a path readable from
left to right. -/
theorem Schema.PlainName.not_opensStep {name : String} (h : Schema.PlainName name) :
    ∀ c ∈ name.toList, ¬opensStep c := by
  intro c hc
  simpa [opensStep] using h c hc

/-- A name that has something in common with a plain one, if addresses are put behind both, does not
come before it. -/
theorem Schema.PlainName.le_of_append_text_eq {name other : String} (hplain : Schema.PlainName name)
    {a b : Address} (h : other ++ a.text = name ++ b.text) : name ≤ other := by
  have hle {rest : List Char} (hother : other.toList = name.toList ++ rest) : name ≤ other := by
    rw [← String.not_lt, String.lt_iff_toList_lt, hother]
    exact List.not_lt.mpr List.le_append_left
  rw [← String.toList_inj, String.toList_append, String.toList_append,
    List.append_eq_append_iff] at h
  rcases h with ⟨rest, hname, htext⟩ | ⟨rest, hother, _⟩
  case inr => exact hle hother
  case inl =>
    -- What the plain name has more than the other would begin a step.
    cases rest with
    | nil => exact hle (by rw [hname, List.append_nil, List.append_nil])
    | cons c rest =>
      have hopens : opensStep c := Address.opensStep_of_mem_head? (a := a) (by simp [htext])
      exact absurd hopens (hplain.not_opensStep c (by simp [hname]))

/-- Different addresses of plain steps have different texts, since each step can be read off the
text before the next one. -/
theorem Address.text_injective {a b : Address} (ha : ∀ s ∈ a, s.Plain) (hb : ∀ s ∈ b, s.Plain)
    (h : a.text = b.text) : a = b := by
  induction a generalizing b with
  | nil =>
    cases b with
    | nil => rfl
    | cons t b => cases t <;> simp [Address.text, Step.text, ← String.toList_inj] at h
  | cons s a ih =>
    cases b with
    | nil => cases s <;> simp [Address.text, Step.text, ← String.toList_inj] at h
    | cons t b =>
      obtain ⟨hs, ha⟩ := List.forall_mem_cons.mp ha
      obtain ⟨ht, hb⟩ := List.forall_mem_cons.mp hb
      have hrest (heq : (Address.text a).toList = (Address.text b).toList) : a = b :=
        ih ha hb (String.toList_inj.mp heq)
      cases s <;> cases t <;> simp [Address.text, Step.text, ← String.toList_inj] at h
      case property.property name name' =>
        obtain ⟨hname, htext⟩ := append_inj_of_opensStep hs.not_opensStep ht.not_opensStep
          (fun c => opensStep_of_mem_head?) (fun c => opensStep_of_mem_head?) h
        rw [String.toList_inj.mp hname, hrest htext]
      case element.element => rw [hrest h]
      case value.value => rw [hrest h]

namespace Position

/-- The position of a schema whose type has the given name. Its path is the name itself. -/
def root (schema : Schema) (name field : String) : Position := ⟨schema, name, field, name⟩

/-- The position that a step leads to, where there is one: a step must fit the form of the schema,
and a property must be declared. -/
def child? (p : Position) : Step → Option Position
  | .property name =>
    if p.schema.form = .object then (p.schema.properties.lookup name).map (p.property name)
    else none
  | .element => if p.schema.form = .array then some p.element else none
  | .value => if p.schema.form = .map then p.schema.additionalSchema.map p.value else none

/-- The position at an address, where there is one: the steps are taken one after the other. -/
def at? (p : Position) : Address → Option Position
  | [] => some p
  | s :: rest => (p.child? s).bind fun c => c.at? rest

variable {p q c : Position} {s : Step} {a : Address}

/-- A step adds its text to the path of the position it starts from. -/
theorem path_of_child? (h : p.child? s = some c) : c.path = p.path ++ s.text := by
  cases s with
  | property name =>
    simp only [child?, Option.ite_none_right_eq_some, Option.map_eq_some_iff] at h
    obtain ⟨_, t, _, rfl⟩ := h
    simp [property, Step.text, String.append_assoc]
  | element =>
    simp only [child?, Option.ite_none_right_eq_some, Option.some.injEq] at h
    obtain ⟨_, rfl⟩ := h
    rfl
  | value =>
    simp only [child?, Option.ite_none_right_eq_some, Option.map_eq_some_iff] at h
    obtain ⟨_, t, _, rfl⟩ := h
    rfl

/-- The path of a position is the text of its address behind the path from which the address starts.
-/
theorem path_of_at? (h : p.at? a = some q) : q.path = p.path ++ a.text := by
  induction a generalizing p with
  | nil =>
    obtain rfl : p = q := by simpa [at?] using h
    simp [Address.text]
  | cons s rest ih =>
    obtain ⟨c, hc, hq⟩ := Option.bind_eq_some_iff.mp h
    rw [ih hq, path_of_child? hc, String.append_assoc]
    rfl

/-- One step more leads from the position at an address to one directly below it, so addresses can
be prolonged at the end. -/
theorem at?_concat (h : p.at? a = some q) (s : Step) : p.at? (a ++ [s]) = q.child? s := by
  induction a generalizing p with
  | nil =>
    obtain rfl : p = q := by simpa [at?] using h
    cases hc : p.child? s <;> simp [at?, hc]
  | cons first rest ih =>
    obtain ⟨c, hc, hq⟩ := Option.bind_eq_some_iff.mp h
    simp [at?, hc, ih hq]

/-- A step leads to one of the positions directly below, which are those that a walker visits. -/
theorem mem_children_of_child? (h : p.child? s = some c) : c ∈ p.children := by
  cases s with
  | property name =>
    simp only [child?, Option.ite_none_right_eq_some, Option.map_eq_some_iff] at h
    obtain ⟨hform, t, ht, rfl⟩ := h
    obtain ⟨before, after, heq, _⟩ := List.lookup_eq_some_iff.mp ht
    have hmem : (name, t) ∈ p.schema.sortedProperties := List.mem_mergeSort.mpr (by simp [heq])
    simpa only [children, hform] using List.mem_map.mpr ⟨(name, t), hmem, rfl⟩
  | element =>
    simp only [child?, Option.ite_none_right_eq_some, Option.some.injEq] at h
    obtain ⟨hform, rfl⟩ := h
    simp [children, hform]
  | value =>
    simp only [child?, Option.ite_none_right_eq_some, Option.map_eq_some_iff] at h
    obtain ⟨hform, t, ht, rfl⟩ := h
    simp [children, hform, ht]

/-- Where a schema lists its properties in the order of their names already, the positions directly below
an object are those of the properties as they are listed. -/
theorem children_of_pairwise (hform : p.schema.form = .object)
    (h : p.schema.properties.Pairwise fun a b => a.1 ≤ b.1) :
    p.children = p.schema.properties.map fun e => p.property e.1 e.2 := by
  have hsorted : p.schema.sortedProperties = p.schema.properties := Keyed.sort_of_pairwise h
  unfold children
  simp only [hform, hsorted]

/-- Every position directly below is reached by a step, if no property is named twice. Otherwise the
second of two properties could not be reached. -/
theorem exists_child?_of_mem_children (hkeys : p.schema.KeysDistinct) (h : c ∈ p.children) :
    ∃ s, p.child? s = some c := by
  unfold children at h
  split at h
  case h_1 hform =>
    obtain ⟨⟨name, t⟩, ht, rfl⟩ := List.mem_map.mp h
    have hlookup := (Keyed.lookup_eq_some_iff_mem hkeys.here).mpr (List.mem_mergeSort.mp ht)
    exact ⟨.property name, by simp [child?, hform, hlookup]⟩
  case h_2 hform =>
    obtain rfl := List.mem_singleton.mp h
    exact ⟨.element, by simp [child?, hform]⟩
  case h_3 hform =>
    obtain ⟨t, ht, rfl⟩ := List.mem_map.mp h
    exact ⟨.value, by simp [child?, hform, Option.mem_toList.mp ht]⟩
  case h_4 => cases h

/-- The path of a position directly below goes on from the path above it with the text of a step. -/
theorem path_of_mem_children (h : c ∈ p.children) : ∃ s : Step, c.path = p.path ++ s.text := by
  unfold children at h
  split at h
  case h_1 =>
    obtain ⟨⟨name, t⟩, _, rfl⟩ := List.mem_map.mp h
    exact ⟨.property name, by simp [property, Step.text, String.append_assoc]⟩
  case h_2 =>
    obtain rfl := List.mem_singleton.mp h
    exact ⟨.element, rfl⟩
  case h_3 =>
    obtain ⟨t, _, rfl⟩ := List.mem_map.mp h
    exact ⟨.value, rfl⟩
  case h_4 => cases h

/-- Where a path is a base with the text of an address behind it, so are the paths of the positions
directly below. -/
theorem exists_path_of_mem_children {base : String} (hp : ∃ a : Address, p.path = base ++ a.text)
    (h : c ∈ p.children) : ∃ b : Address, c.path = base ++ b.text := by
  obtain ⟨a, ha⟩ := hp
  obtain ⟨s, hs⟩ := path_of_mem_children h
  exact ⟨a ++ [s], by rw [hs, ha, Address.text_concat, String.append_assoc]⟩

/-- Whatever goes on from the path of a position directly below goes on from the path above it, by
at least one character. -/
theorem path_append_of_mem_children (h : c ∈ p.children) (tail : String) :
    ∃ longer, c.path ++ tail = p.path ++ longer ∧ longer ≠ "" := by
  obtain ⟨s, hs⟩ := path_of_mem_children h
  refine ⟨s.text ++ tail, by rw [hs, String.append_assoc], ?_⟩
  cases s <;> simp [Step.text, ← String.toList_inj]

/-- What holds everywhere in a schema, and in the empty one, holds everywhere in the schemas of the
positions directly below. The empty schema stands for elements that are not described. -/
theorem everywhere_of_mem_children {P : Schema → Prop} (hempty : P {}) (hp : p.schema.Everywhere P)
    (h : c ∈ p.children) : c.schema.Everywhere P := by
  unfold children at h
  split at h
  case h_1 =>
    obtain ⟨⟨name, t⟩, ht, rfl⟩ := List.mem_map.mp h
    exact hp.property (List.mem_mergeSort.mp ht)
  case h_2 =>
    obtain rfl := List.mem_singleton.mp h
    cases hitems : p.schema.items with
    | none => simpa [element, hitems] using Schema.Everywhere.of_leaf hempty rfl rfl rfl
    | some t => simpa [element, hitems] using hp.items hitems
  case h_3 =>
    obtain ⟨t, ht, rfl⟩ := List.mem_map.mp h
    exact hp.additional (Option.mem_toList.mp ht)
  case h_4 => cases h

/-- Where the names of properties are plain, an address that leads somewhere has plain steps
only. -/
theorem plain_of_at? (hp : p.schema.PlainNames) (h : p.at? a = some q) : ∀ s ∈ a, s.Plain := by
  induction a generalizing p with
  | nil => simp
  | cons s rest ih =>
    obtain ⟨c, hc, hq⟩ := Option.bind_eq_some_iff.mp h
    have hrest := ih (everywhere_of_mem_children (by simp) hp (mem_children_of_child? hc)) hq
    refine List.forall_mem_cons.mpr ⟨?_, hrest⟩
    cases s with
    | property name =>
      simp only [child?, Option.ite_none_right_eq_some, Option.map_eq_some_iff] at hc
      obtain ⟨_, t, ht, _⟩ := hc
      obtain ⟨before, after, heq, _⟩ := List.lookup_eq_some_iff.mp ht
      exact hp.here (name, t) (by simp [heq])
    | element => trivial
    | value => trivial

/-- No two addresses below a position lead to positions of one path. This is what a walker relies on
when it remembers types by their paths. -/
def PathsDistinct (p : Position) : Prop :=
  ∀ a b q r, p.at? a = some q → p.at? b = some r → q.path = r.path → a = b

/-- Where the names of properties are plain, a path identifies a position, because different
addresses have different texts. -/
theorem pathsDistinct_of_plainNames (hp : p.schema.PlainNames) : p.PathsDistinct := by
  intro a b q r hq hr hpath
  rw [path_of_at? hq, path_of_at? hr, String.append_right_inj] at hpath
  exact Address.text_injective (plain_of_at? hp hq) (plain_of_at? hp hr) hpath

end Position

end CrdToolset
