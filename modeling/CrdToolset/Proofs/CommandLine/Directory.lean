import CrdToolset.CommandLine.Outcome
import CrdToolset.Proofs.Files.Find
import CrdToolset.Proofs.Generation

/-!
# Runs over directories

A run over a directory is a loop over its files with a running output and two counters. `Progress.Covers`
says what the loop has come to after some of the files in terms of runs over each of them alone; one more
file keeps it, and so does the whole loop. At the end the output is the code of the files that succeed, in
the order of the files, and the run fails if one of them does. The files and the configuration do not
change during the runs that are compared.
-/

namespace CrdToolset.CommandLine

/-- What comes of a command on files that stay as they are, with the time that it takes in
milliseconds. -/
def Command.outcome (command : Command) (access : FileAccess Id) (milliseconds : Nat) : Outcome :=
  Id.run (command.run access (pure milliseconds))

namespace Outcome

/-- The outcome is that of a run that failed, which is seen from the message that it ends with. -/
def failed (o : Outcome) : Bool := o.failure.isSome

/-- The notes about one file of a directory: those of the run over the file, and the report of its
failure if it fails. -/
def notesAbout (path : String) (o : Outcome) : String :=
  o.notes ++ match o.failure with
    | some message => markedNote (path ++ ": " ++ message)
    | none => ""

/-- The outcome of a run over files, in terms of what comes of each of them alone. -/
structure Combines (paths : List String) (single : String → Outcome) (milliseconds : Nat)
    (all : Outcome) : Prop where
  /-- The code is that of the files that succeed, in the order of the files. -/
  output : all.output =
    String.join ((paths.filter fun path => !(single path).failed).map fun path =>
      (single path).output)
  /-- A file that fails has no code of its own. -/
  silent : ∀ path ∈ paths, (single path).failed = true → (single path).output = ""
  /-- The run fails if one of the files does. -/
  failed_iff : all.failed = true ↔ ∃ path ∈ paths, (single path).failed = true
  /-- The failure says how many files of how many failed. -/
  failure : ∀ message, all.failure = some message →
    message = toString (paths.countP fun path => (single path).failed) ++ " of " ++
      toString paths.length ++ " resources failed"
  /-- The notes are those about each file in order, and the numbers of files that succeeded and that
  failed. -/
  notes : paths ≠ [] → all.notes = headNote ++
    String.join (paths.map fun path => (single path).notesAbout path) ++
    summaryNote (paths.countP fun path => !(single path).failed)
      (paths.countP fun path => (single path).failed) milliseconds

/-- A definition that cannot be generated puts nothing on the standard output, neither code nor a
part of it. -/
theorem output_ofGenerated {dryRun : Bool} {result : Except Fault Generated}
    (h : (ofGenerated dryRun result).failed = true) : (ofGenerated dryRun result).output = "" := by
  cases result with
  | error fault => rfl
  | ok generated =>
    simp only [ofGenerated, failed] at h
    split at h <;> cases h

end Outcome

/-- The progress after the runs over some files, in terms of what comes of each of them alone. -/
structure Progress.Covers (p : Progress) (done : List String) (single : String → Outcome) : Prop where
  /-- The output is the code of the files that succeeded, in the order of the files. -/
  output : p.output = String.join ((done.filter fun path => !(single path).failed).map fun path =>
    (single path).output)
  /-- The notes are those about each file, in the order of the files. -/
  notes : p.notes = String.join (done.map fun path => (single path).notesAbout path)
  /-- The first counter counts the files that succeeded. -/
  succeeded : p.succeeded = done.countP fun path => !(single path).failed
  /-- The second counter counts the files that failed. -/
  failed : p.failed = done.countP fun path => (single path).failed

section

variable {access : FileAccess Id} {plan : Plan} {dryRun : Bool} {p : Progress}
  {done paths : List String} {single : String → Outcome}

/-- Before the loop comes to the first file, the progress it starts with covers the empty list of
files. -/
theorem Progress.covers_nil : ({} : Progress).Covers [] single := ⟨rfl, rfl, rfl, rfl⟩

/-- The step of the loop: if the progress covers the files that are done, then with the result for
one more file it covers that file too. -/
theorem Progress.Covers.add (h : p.Covers done single) {path : String}
    {result : Except Fault Generated} (hpath : single path = .ofGenerated dryRun result) :
    (p.add dryRun path result).Covers (done ++ [path]) single := by
  cases result with
  | ok g =>
    have hsucceeds : (single path).failure = none := by
      rw [hpath, Outcome.ofGenerated]
      split <;> rfl
    have hfailed : (single path).failed = false := by rw [Outcome.failed, hsucceeds]; rfl
    constructor
    · simp [Progress.add, h.output, hfailed, ← hpath]
    · simp [Progress.add, h.notes, Outcome.notesAbout, hsucceeds, ← hpath]
    · simp [Progress.add, h.succeeded, hfailed]
    · simp [Progress.add, h.failed, hfailed]
  | error fault =>
    have hfailed : (single path).failed = true := by rw [hpath]; rfl
    constructor
    · simp [Progress.add, h.output, hfailed]
    · simp [Progress.add, h.notes, Outcome.notesAbout, hpath, Outcome.ofGenerated]
    · simp [Progress.add, h.succeeded, hfailed]
    · simp [Progress.add, h.failed, hfailed]

/-- The loop over files ends with a progress that covers them all. The induction is on the files
that are left, and `Covers.add` is its step. -/
theorem Progress.Covers.runFiles (h : p.Covers done single) (paths : List String)
    (hsingle : ∀ path, single path = .ofGenerated dryRun (plan.generateFile access path).run) :
    (runFiles plan access dryRun paths p : Id Progress).Covers (done ++ paths) single := by
  induction paths generalizing done p with
  | nil =>
    rw [List.append_nil]
    exact h
  | cons path rest ih =>
    have hnext := ih (h.add (hsingle path))
    rwa [List.append_assoc] at hnext

/-- The outcome at the end of the loop combines the runs over the files. -/
theorem Progress.Covers.combines (h : p.Covers paths single) (milliseconds : Nat)
    (hsilent : ∀ path ∈ paths, (single path).failed = true → (single path).output = "") :
    Outcome.Combines paths single milliseconds (p.outcome paths.length milliseconds) where
  output := h.output
  silent := hsilent
  failed_iff := by
    have hsome : (∃ path ∈ paths, (single path).failed = true) ↔
        0 < paths.countP fun path => (single path).failed := by
      rw [List.countP_pos_iff]
    rw [hsome, ← h.failed, Outcome.failed, Progress.outcome]
    by_cases hzero : 0 < p.failed <;> simp [hzero]
  failure message hmessage := by
    rw [Progress.outcome] at hmessage
    dsimp only at hmessage
    split at hmessage
    case isTrue => rw [← h.failed]; exact (Option.some.inj hmessage).symm
    case isFalse => cases hmessage
  notes _ := by rw [← h.succeeded, ← h.failed, ← h.notes]; rfl

end

section

variable {access : FileAccess Id} {settings : Settings} {plan : Plan}
  (hplan : (settings.plan access).run = .ok plan)
include hplan

/-- Generating from a single file has the outcome that `ofGenerated` makes of the result for that
file. Runs over directories are compared with these. -/
theorem outcome_file (path : String) (milliseconds : Nat) :
    (Command.generate (.file path) settings).outcome access milliseconds =
      .ofGenerated settings.dryRun (Id.run (plan.generateFile access path).run) := by
  unfold Command.outcome Command.run
  rw [Id.run_bind, hplan]
  rfl

/-- Generating from a directory is the loop over the files that are found in it. -/
theorem outcome_directory {dir : String} {paths : List String}
    (hpaths : (access.find dir).run = .ok paths) (milliseconds : Nat) :
    (Command.generate (.directory dir) settings).outcome access milliseconds =
      if paths.isEmpty then { notes := headNote ++ plainNote ("no CRD files found in " ++ dir) }
      else (runFiles plan access settings.dryRun paths {} : Id Progress).outcome paths.length
        milliseconds := by
  have hrun : (Command.generate (.directory dir) settings).outcome access milliseconds =
      Id.run (runDirectory plan access (pure milliseconds) settings.dryRun dir) := by
    unfold Command.outcome Command.run
    rw [Id.run_bind, hplan]
    rfl
  rw [hrun, runDirectory, Id.run_bind, hpaths]
  change Id.run (if paths.isEmpty = true then _ else _) = _
  split <;> rfl

end

/-- Where the configuration is read and the files are listed, a run over a directory is the
combination of the runs over its files with the same settings, however long each of them takes. -/
theorem combines_directory (access : FileAccess Id) (settings : Settings) (dir : String)
    (elapsed : String → Nat) (milliseconds : Nat) {plan : Plan} {paths : List String}
    (hplan : (settings.plan access).run = .ok plan) (hpaths : (access.find dir).run = .ok paths) :
    Outcome.Combines paths
      (fun path => (Command.generate (.file path) settings).outcome access (elapsed path))
      milliseconds ((Command.generate (.directory dir) settings).outcome access milliseconds) := by
  have htimes : (fun path => (Command.generate (.file path) settings).outcome access (elapsed path)) =
      fun path => (Command.generate (.file path) settings).outcome access milliseconds := by
    funext path
    rw [outcome_file hplan, outcome_file hplan]
  have hsilent : ∀ path ∈ paths,
      ((Command.generate (.file path) settings).outcome access milliseconds).failed = true →
      ((Command.generate (.file path) settings).outcome access milliseconds).output = "" := by
    intro path _ hfailed
    rw [outcome_file hplan] at hfailed ⊢
    exact Outcome.output_ofGenerated hfailed
  rw [htimes, outcome_directory hplan hpaths]
  by_cases hempty : paths.isEmpty
  case pos =>
    obtain rfl := List.isEmpty_iff.mp hempty
    exact ⟨rfl, by simp, by simp [Outcome.failed], by simp, by simp⟩
  case neg =>
    rw [if_neg hempty]
    have hcovers := Progress.covers_nil.runFiles paths fun path =>
      outcome_file hplan path milliseconds
    exact hcovers.combines milliseconds hsilent

/-- The entries of a directory with two files and with a directory that is named like a definition. -/
def mixedEntries : List Entry :=
  [⟨[], .directory⟩, ⟨["lamp.yaml"], .file⟩, ⟨["old.yaml"], .directory⟩, ⟨["broken.yaml"], .file⟩]

/-- A directory with a file that is not text and the definition of lamps. -/
def mixedFiles : FileAccess Id where
  read path := pure (if path = "crds/lamp.yaml" then .ok lampText else .error .notText)
  below _ := pure (mixedEntries.map .ok)

/-- The path of a regular file that is listed, and that is named like a YAML text, is found. -/
theorem join_mem_definitionPaths {dir : String} {listing : List Entry} (names : List String)
    (h : ⟨names, .file⟩ ∈ listing) (hyaml : namedYaml dir names = true) :
    Path.join dir names ∈ definitionPaths dir listing :=
  List.mem_map_of_mem (List.mem_mergeSort.mpr (mem_definitionNames_iff.mpr ⟨h, hyaml⟩))

/-- The definition of lamps is generated from any path at which its text can be read, so that it can
stand among files that fail. -/
theorem exists_run_generateFile_lampText (access : FileAccess Id) (path : String)
    (h : (access.textOf path).run = Except.ok lampText) :
    ∃ g, (({} : Plan).generateFile access path).run = Except.ok g := by
  obtain ⟨request, hgenerate⟩ := Plan.exists_run_generateText access {} rfl rfl
  obtain ⟨c, hc⟩ := exists_checkText_lampText path
  have hgenerated := hgenerate path lampText
  rw [hc] at hgenerated
  exact ⟨_, (run_bind_of_run_ok h).trans hgenerated⟩

/-- In a directory with a file that fails and one that does not, the runs are combined. -/
theorem combines_mixedFiles : ∃ paths, (mixedFiles.find "crds").run = Except.ok paths ∧
    "crds/broken.yaml" ∈ paths ∧ "crds/lamp.yaml" ∈ paths ∧
    ((Command.generate (.file "crds/broken.yaml") {}).outcome mixedFiles 0).failed = true ∧
    ((Command.generate (.file "crds/lamp.yaml") {}).outcome mixedFiles 0).failed = false ∧
    Outcome.Combines paths
      (fun path => (Command.generate (.file path) {}).outcome mixedFiles 0) 0
      ((Command.generate (.directory "crds") {}).outcome mixedFiles 0) := by
  have hplan : (({} : Settings).plan mixedFiles).run = Except.ok {} := rfl
  have hpaths : (mixedFiles.find "crds").run =
      Except.ok (definitionPaths "crds" mixedEntries) := FileAccess.find_eq_of_below rfl
  refine ⟨_, hpaths, ?_, ?_, ?_, ?_, combines_directory mixedFiles {} "crds" _ 0 hplan hpaths⟩
  · have hjoin : Path.join "crds" ["broken.yaml"] = "crds/broken.yaml" := by decide +kernel
    exact hjoin ▸ join_mem_definitionPaths ["broken.yaml"] (by decide) (by decide)
  · have hjoin : Path.join "crds" ["lamp.yaml"] = "crds/lamp.yaml" := by decide +kernel
    exact hjoin ▸ join_mem_definitionPaths ["lamp.yaml"] (by decide) (by decide)
  · have hfails : (({} : Plan).generateFile mixedFiles "crds/broken.yaml").run =
        Except.error (.unreadable "crds/broken.yaml" .notText) := run_bind_of_run_error rfl
    rw [outcome_file hplan, hfails]
    rfl
  · obtain ⟨g, hg⟩ := exists_run_generateFile_lampText mixedFiles "crds/lamp.yaml" rfl
    rw [outcome_file hplan, hg]
    rfl

end CrdToolset.CommandLine
