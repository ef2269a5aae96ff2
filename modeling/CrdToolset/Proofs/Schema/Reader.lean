import CrdToolset.Proofs.Keyed
import CrdToolset.Proofs.Resource.Definition
import CrdToolset.Proofs.Schema.Everywhere
import CrdToolset.Resource.Reader

/-!
# Schemas that were read

Of several properties with one name, reading keeps the last. So in every schema that comes from a
document, each property is named once at every level, also in the schemas that are read from values.
-/

namespace CrdToolset

section Yields

variable {m : Type → Type} [Monad m] [LawfulMonad m] {α β : Type} {P : α → Prop} {Q : β → Prop}
  {x : m α} {f : α → m β}

/-- Whatever a computation results in satisfies a condition: it is a computation of such results. -/
def Yields (P : α → Prop) (x : m α) : Prop := ∃ y : m { a // P a }, Subtype.val <$> y = x

/-- A condition that every value satisfies is satisfied by all results of a computation, whatever it
does. -/
theorem Yields.of_forall (h : ∀ a, P a) : Yields P x :=
  ⟨(fun a => ⟨a, h a⟩) <$> x, by simp⟩

/-- A computation that only hands a value on yields what holds of this value. -/
theorem Yields.pure {a : α} (h : P a) : Yields (m := m) P (pure a) := ⟨Pure.pure ⟨a, h⟩, by simp⟩

/-- In a computation of two steps, the second may rely on what all results of the first satisfy. -/
theorem Yields.bind (hx : Yields P x) (hf : ∀ a, P a → Yields Q (f a)) : Yields Q (x >>= f) := by
  obtain ⟨y, rfl⟩ := hx
  choose g hg using fun a : { a // P a } => hf a a.2
  exact ⟨y >>= g, by simp [map_bind, hg]⟩

/-- Where nothing is asked of a step, the next one has to do for all its results. -/
theorem Yields.bind_any (hf : ∀ a, Yields Q (f a)) : Yields Q (x >>= f) :=
  Yields.bind (P := fun _ => True) (.of_forall fun _ => trivial) fun a _ => hf a

/-- Mapping a function over the results of a computation yields what the function makes of them. -/
theorem Yields.map {g : α → β} (hx : Yields P x) (hg : ∀ a, P a → Q (g a)) :
    Yields Q (g <$> x) := by
  obtain ⟨y, rfl⟩ := hx
  exact ⟨(fun a : { a // P a } => ⟨g a.1, hg a.1 a.2⟩) <$> y, by simp⟩

/-- What every step over a list yields holds of each of the results in the list that comes out. -/
theorem Yields.mapM {l : List α} (hf : ∀ a, Yields Q (f a)) :
    Yields (fun bs => ∀ b ∈ bs, Q b) (l.mapM f) := by
  induction l with
  | nil => exact .pure (by simp)
  | cons a l ih =>
    rw [List.mapM_cons]
    exact (hf a).bind fun b hb => ih.bind fun bs hbs => .pure (List.forall_mem_cons.mpr ⟨hb, hbs⟩)

end Yields

/-! ### Parts of a source -/

open Yaml

section Source

variable {m : Type → Type} [Monad m] [LawfulMonad m] {α π : Type} {P : α → Prop} {s : Source m π}
  {read : π → m α}

/-- Reading a field yields what the reader of the field yields, or holds of the value for a missing
field. -/
theorem Yields.get {record : Record π} {name : String} {missing : α} (hmissing : P missing)
    (hread : ∀ part, Yields P (read part)) : Yields P (record.get name missing read) := by
  unfold Record.get
  split
  · exact hread _
  · exact .pure hmissing

/-- A part that may mean nothing yields what its reader does, where it means something. -/
theorem Yields.optional (hread : ∀ part, Yields P (read part)) (part : π) :
    Yields (fun a => ∀ b, a = some b → P b) (s.optional read part) := by
  refine .bind_any fun present => ?_
  cases present with
  | none => exact .pure (by simp)
  | some part => exact (hread part).map (by simp)

end Source

/-- A value that may be absent and is read as it is yields what holds of it where it is there. -/
theorem Yields.lift {α : Type} {P : α → Prop} {o : Option α} (h : Yields P o) :
    Yields P (Read.lift o) := by
  obtain ⟨y, rfl⟩ := h
  cases y with
  | none => exact ⟨failure, rfl⟩
  | some a => exact .pure a.2

/-- What a reader yields holds of all that is read from a whole document with it. So conditions on
readers are conditions on what comes from documents. -/
theorem Yields.of_parse? {α : Type} {P : α → Prop} {read : Part → Read α}
    (hread : ∀ part, Yields P (read part)) {text : String} {a : α}
    (h : Document.parse? read text = some a) : P a := by
  unfold Document.parse? at h
  obtain ⟨document, _, h⟩ := Option.bind_eq_some_iff.mp h
  obtain ⟨⟨value, left⟩, hrun, hvalue⟩ := Option.bind_eq_some_iff.mp h
  obtain rfl := Option.some.inj hvalue
  obtain ⟨y, hy⟩ := hread ⟨document.root.getD Node.empty, maxNesting⟩
  rw [← hy, ReaderT.run_map, StateT.run_map] at hrun
  obtain ⟨⟨⟨b, hb⟩, _⟩, _, hvalue⟩ := Option.map_eq_some_iff.mp hrun
  obtain ⟨rfl, _⟩ := Prod.mk.inj hvalue
  exact hb

namespace Schema

/-- Keeping the last entry of each name keeps entries of the list and adds none. -/
theorem lastOfEach_subset {β : Type} (l : List (String × β)) : lastOfEach l ⊆ l := by
  induction l with
  | nil => exact List.Subset.refl _
  | cons entry rest ih =>
    unfold lastOfEach
    split
    case isTrue => exact List.subset_cons_of_subset _ ih
    case isFalse => exact List.cons_subset_cons _ ih

/-- Of the entries that are kept, no two have the same name, which is how reading deals with a name
that is written twice. -/
theorem nodup_lastOfEach {β : Type} (l : List (String × β)) :
    ((lastOfEach l).map Prod.fst).Nodup := by
  induction l with
  | nil => exact .nil
  | cons entry rest ih =>
    unfold lastOfEach
    split
    case isTrue => exact ih
    case isFalse hlast =>
      rw [List.map_cons, List.nodup_cons]
      refine ⟨fun hname => hlast ?_, ih⟩
      obtain ⟨later, hlater, hname⟩ := List.mem_map.mp hname
      rw [List.lookup_isSome_iff]
      exact ⟨later, lastOfEach_subset rest hlater, by simp [hname]⟩

variable {m : Type → Type} [Monad m] [LawfulMonad m] {π : Type} {s : Source m π}
  {additional : (π → m Schema) → π → m (Additional Schema)}

/-- The schema for unnamed properties, if there is one, names each property once at every level. -/
def AdditionalDistinct (a : Additional Schema) : Prop := ∀ t, a = .schema t → t.KeysDistinct

/-- A schema that is read names each property once at every level, if what is read for unnamed
properties does. -/
theorem yields_readFrom (hfail : Yields KeysDistinct (s.fail : m Schema))
    (hadditional : ∀ inner, (∀ part, Yields KeysDistinct (inner part)) →
      ∀ part, Yields AdditionalDistinct (additional inner part)) (depth : Nat) (part : π) :
    Yields KeysDistinct (readFrom s additional depth part) := by
  induction depth generalizing part with
  | zero => exact hfail
  | succ depth ih =>
    unfold readFrom
    refine .bind_any fun fields => ?_
    iterate 9 refine .bind_any fun _ => ?_
    refine .bind (P := fun l => (l.map Prod.fst).Nodup ∧ ∀ e ∈ l, e.2.KeysDistinct) ?properties ?_
    case properties =>
      refine .get (by simp) fun part => .bind_any fun entries => ?_
      have hentry (entry : String × π) : Yields (fun e => KeysDistinct e.2)
          (do return (entry.1, ← readFrom s additional depth entry.2)) :=
        (ih entry.2).bind fun _ h => .pure h
      exact (Yields.mapM hentry).map fun l hl =>
        ⟨nodup_lastOfEach l, fun e he => hl e (lastOfEach_subset l he)⟩
    rintro properties ⟨hnodup, hproperties⟩
    refine .bind_any fun required => ?_
    refine .bind (.get (by simp) (.optional ih)) fun items hitems => ?_
    refine .bind (.get (by simp) (.optional (hadditional _ ih))) fun additional hadditional => ?_
    refine .pure (.intro hnodup hproperties hitems fun t ht => ?_)
    cases additional with
    | none => cases ht
    | some a =>
      cases a with
      | allowed => cases ht
      | schema u => exact hadditional _ rfl t (by simpa [additionalSchema] using ht)

/-- What is found for unnamed properties names each property once, if the schemas read for them do.
-/
theorem yields_additionalOf {inner : Value → Option Schema}
    (hinner : ∀ value, Yields KeysDistinct (inner value)) (value : Value) :
    Yields AdditionalDistinct (additionalOf inner value) := by
  unfold additionalOf
  split
  · exact .pure (by simp [AdditionalDistinct])
  · exact (hinner value).map fun t ht u hu => by simp_all

/-- A schema that is read from a value names each property once at every level. -/
theorem yields_ofValue? (value : Value) : Yields KeysDistinct (ofValue? value) :=
  yields_readFrom ⟨none, rfl⟩ (fun _ hinner => yields_additionalOf hinner) _ value

/-- A schema that is read from a document names each property once at every level. -/
theorem yields_read (part : Part) : Yields KeysDistinct (read part) := by
  refine yields_readFrom ⟨failure, rfl⟩ (fun _ _ part => ?_) _ part
  exact .bind_any fun value => .lift (yields_additionalOf yields_ofValue? value)

end Schema

/-- The schema of a version, if there is one, names each property once at every level. -/
def Version.Distinct (v : Version) : Prop := ∀ s, v.schema = some s → s.KeysDistinct

/-- The schema of a version that is read names each property once at every level. -/
theorem Version.yields_read (part : Part) : Yields Version.Distinct (Version.read part) := by
  unfold Version.read
  refine .bind_any fun fields => ?_
  iterate 3 refine .bind_any fun _ => ?_
  refine .bind (P := fun found => ∀ s, found = some s → ∀ t, s = some t → Schema.KeysDistinct t) ?_
    fun schema hschema => ?_
  · refine .get (by simp) (.optional fun part => ?_)
    exact .bind_any fun fields => .get (by simp) (.optional Schema.yields_read)
  · refine .pure fun s hs => ?_
    cases schema with
    | none => cases hs
    | some t => exact hschema t rfl s hs

/-- The schemas of all versions that are read name each property once at every level. -/
theorem Definition.yields_read (part : Part) :
    Yields (fun d : Definition => ∀ v ∈ d.versions, v.Distinct) (Definition.read part) := by
  unfold Definition.read
  iterate 13 refine .bind_any fun _ => ?_
  refine .bind (.get (by simp) fun part => .bind_any fun items => .mapM Version.yields_read)
    fun versions hversions => ?_
  exact .pure hversions

/-- The version that is found as the stored one is one of the versions of the definition. -/
theorem Definition.mem_versions_of_stored? {d : Definition} {v : Version} (h : d.stored? = some v) :
    v ∈ d.versions := by
  rcases Option.or_eq_some_iff.mp h with hfirst | ⟨_, hhead⟩
  · exact List.mem_of_find?_eq_some hfirst
  · exact List.mem_of_head? hhead

/-- The schema of a resource names each property once at every level, if the resource comes from the
text of a definition. -/
theorem Resource.keysDistinct_of_parse {path text : String} {r : Resource} {s : Schema}
    (h : Resource.parse path text = .ok r) (hs : r.schema = some s) : s.KeysDistinct := by
  unfold Resource.parse at h
  split at h
  case h_1 d hd =>
    obtain rfl := Resource.eq_declared_of_ofDefinition h
    obtain ⟨v, hv, hschema⟩ := Option.bind_eq_some_iff.mp hs
    exact Yields.of_parse? Definition.yields_read hd v (d.mem_versions_of_stored? hv) s hschema
  case h_2 => cases h

end CrdToolset
