import CrdToolset.Proofs.TypeGraph.Soundness

/-!
# Runs of a walker

A walker is asked to set names aside and to analyse schemas, in any order, and each call may fail. A
call that fails leaves behind what it did before, so the state after any number of calls is what
later calls start from.

Each call either changes nothing, claims a name, or visits the root of its schema. Whatever those
three keep is kept by all calls.
-/

namespace CrdToolset.Walker

variable {w : Walker}

/-- What a walker can be asked to do: set a name aside, or make the types of a schema. -/
inductive Call where
  /-- Claim a name for a type that does not come from a schema. -/
  | reserve (name owner : String)
  /-- Make the types of a schema. -/
  | analyze (schema : Option Schema) (name field : String) (required : Bool)

/-- The walker after a call, whether the call succeeds or fails. The result of the call is
dropped. -/
def Call.after (w : Walker) : Call → Walker
  | .reserve name owner => Prod.snd ((Walker.reserve name owner).run w)
  | .analyze schema name field required =>
    Prod.snd ((Walker.analyze schema name field required).run w)

/-- The walker after calls in order, each starting from the state that the one before left. -/
def afterCalls (w : Walker) (calls : List Call) : Walker := calls.foldl Call.after w

/-- The schema that a call is about, if it is given one. -/
def Call.schema? : Call → Option Schema
  | .reserve .. => none
  | .analyze schema .. => schema

/-- A call changes nothing, claims a name, or visits the root of its schema. So whatever is kept in
these cases is kept by every call. -/
theorem Call.after_cases (call : Call) (w : Walker) :
    call.after w = w ∨ (∃ name owner, call.after w = w.own name owner) ∨
      ∃ ps outcome, (∀ p ∈ ps, call.schema? = some p.schema) ∧
        Visits (maxDepth + 1) ps w outcome (call.after w) := by
  cases call with
  | reserve name owner =>
    by_cases hfree : w.Free name owner
    · exact .inr (.inl ⟨name, owner, congrArg Prod.snd (run_claim_of_free hfree)⟩)
    · simp only [Free, not_forall] at hfree
      obtain ⟨first, howner, hother⟩ := hfree
      exact .inl (congrArg Prod.snd (run_claim_of_owned howner hother))
  | analyze schema name field required =>
    cases schema with
    | none => exact .inl rfl
    | some schema =>
      obtain ⟨result, _, hvisits⟩ := visits_of_run_analyze
        (Prod.eta ((Walker.analyze (some schema) name field required).run w)).symm
      refine .inr (.inr ⟨_, _, fun p hp => ?_, hvisits⟩)
      obtain rfl := List.mem_singleton.mp hp
      rfl

/-- What is kept when a name is claimed and when positions are visited is kept by calls. Of the
positions that are visited, only those with the schemas of the calls matter. -/
theorem kept_afterCalls {K : Walker → Prop} {P : Schema → Prop} {calls : List Call}
    (hcalls : ∀ call ∈ calls, ∀ s, call.schema? = some s → P s)
    (hown : ∀ v name owner, K v → K (v.own name owner))
    (hvisits : ∀ levels ps v outcome v', (∀ p ∈ ps, P p.schema) →
      Visits levels ps v outcome v' → K v → K v')
    (hw : K w) : K (w.afterCalls calls) := by
  induction calls generalizing w with
  | nil => exact hw
  | cons call rest ih =>
    obtain ⟨hcall, hrest⟩ := List.forall_mem_cons.mp hcalls
    apply ih hrest
    rcases call.after_cases w with hsame | ⟨name, owner, hclaim⟩ | ⟨ps, outcome, hps, h⟩
    · rwa [hsame]
    · rw [hclaim]
      exact hown w name owner hw
    · exact hvisits _ ps w outcome _ (fun p hp => hcall p.schema (hps p hp)) h hw

/-- Calls only add to what the walker knows: no type, path or name is changed or forgotten. -/
theorem extends_afterCalls (w : Walker) (calls : List Call) : w.Extends (w.afterCalls calls) :=
  kept_afterCalls (P := fun _ => True) (fun _ _ _ _ => trivial)
    (fun v name owner h => h.trans (extends_own name owner v))
    (fun _ _ _ _ _ _ hvisits h => h.trans hvisits.extends) (.refl w)

/-- Calls keep what a walker knows in agreement, including the calls that fail. -/
theorem Sound.afterCalls (h : w.Sound) (calls : List Call) : (w.afterCalls calls).Sound :=
  kept_afterCalls (P := fun _ => True) (fun _ _ _ _ => trivial)
    (fun _ name owner hv => hv.own name owner)
    (fun _ _ _ _ _ _ hvisits hv => hvisits.sound hv) h

/-- After any calls, of which some may have failed, names are different from each other, references
lead back, the cache pairs paths with types one to one, and every name belongs to the path of its
type. No later call changes or removes any of it. -/
theorem sound_and_extends_of_calls (calls more : List Call) :
    (afterCalls {} calls).Sound ∧
      (afterCalls {} calls).Extends (afterCalls {} (calls ++ more)) := by
  refine ⟨sound_empty.afterCalls calls, ?_⟩
  unfold afterCalls
  rw [List.foldl_append]
  exact extends_afterCalls _ more

end CrdToolset.Walker
