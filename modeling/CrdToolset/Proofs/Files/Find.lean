import CrdToolset.Files.Tree
import CrdToolset.Proofs.Files.Path
import CrdToolset.Proofs.Outcome
import Mathlib.Data.List.Dedup

/-!
# The definitions below a directory

A walk through a directory meets every entry in it, in an order of its own: regular files, directories,
symbolic links and whatever else there is. `FileAccess.find` passes over all entries but the regular
files, and of these keeps the ones with the extension of a YAML text. The main result is that the paths it
gives are those of all such files, each once and in the order of their components, for every order in
which the entries are met.
-/

namespace CrdToolset

variable {dir path name : String} {names names' : List String} {tree : EntryTree} {kind : FileKind}
  {inside : List (String × EntryTree)} {listing listing' : List Entry}
  {files files' : List (List String)}

namespace EntryTree

/-- `tree.HasEntry names kind` says that the names lead from the top of the tree to an entry of this kind.
Only directories are passed through on the way. -/
inductive HasEntry : EntryTree → List String → FileKind → Prop
  | here (tree : EntryTree) : HasEntry tree [] tree.kind
  | through {inside : List (String × EntryTree)} {name : String} {tree : EntryTree}
      {names : List String} {kind : FileKind} (entry : (name, tree) ∈ inside)
      (below : HasEntry tree names kind) : HasEntry (.directory inside) (name :: names) kind

/-- The names lead from the root of the tree to a regular file. Only such entries can be
definitions. -/
abbrev HasFile (tree : EntryTree) (names : List String) : Prop := tree.HasEntry names .file

/-- No directory of the tree has two entries of one name, as holds in every file system. -/
inductive Distinct : EntryTree → Prop
  | leaf {tree : EntryTree} (bare : tree.entries = [⟨[], tree.kind⟩]) : Distinct tree
  | directory {inside : List (String × EntryTree)} (nodup : (inside.map Prod.fst).Nodup)
      (inner : ∀ entry ∈ inside, Distinct entry.2) : Distinct (.directory inside)

/-- The names that lead to a regular file are names that entries may have: without slashes, and neither
empty nor a single full stop. -/
def WellNamed (tree : EntryTree) : Prop := ∀ names, tree.HasFile names → ∀ name ∈ names, Path.IsName name

/-- The entries at and below the top of a tree are listed, each once, in any order. This is what a walk is
relied on for, and it says nothing about which of the entries are of use. -/
structure Lists (tree : EntryTree) (listing : List Entry) : Prop where
  /-- No entry is listed twice. -/
  nodup : listing.Nodup
  /-- What is listed are the entries of the tree with their kinds. -/
  mem_iff : ∀ entry, entry ∈ listing ↔ tree.HasEntry entry.names entry.kind

/-- A directory has an entry at some names exactly if they are empty and the directory itself is meant, or
if they begin with the name of something inside that has the entry at the remaining names. -/
theorem hasEntry_directory_iff :
    (directory inside).HasEntry names kind ↔
      (names = [] ∧ kind = .directory) ∨
      ∃ name tree rest, (name, tree) ∈ inside ∧ tree.HasEntry rest kind ∧ names = name :: rest := by
  constructor
  · intro h
    cases h with
    | here => exact .inl ⟨rfl, rfl⟩
    | through entry below => exact .inr ⟨_, _, _, entry, below, rfl⟩
  · rintro (⟨rfl, rfl⟩ | ⟨name, tree, rest, entry, below, rfl⟩)
    · exact .here (.directory inside)
    · exact .through entry below

/-- A tree that is no directory has no entry but the one at its top. -/
theorem hasEntry_iff_of_entries_eq (hdirectory : ∀ inside, tree ≠ .directory inside) :
    tree.HasEntry names kind ↔ names = [] ∧ kind = tree.kind := by
  constructor
  · intro h
    cases h with
    | here => exact ⟨rfl, rfl⟩
    | through => exact absurd rfl (hdirectory _)
  · rintro ⟨rfl, rfl⟩
    exact .here tree

mutual

/-- The list that `entries` makes of a tree has exactly the entries that names lead to, with their
kinds, at every depth. -/
theorem mem_entries_iff : ∀ (tree : EntryTree) (entry : Entry),
    entry ∈ tree.entries ↔ tree.HasEntry entry.names entry.kind
  | .file, ⟨names, kind⟩ | .link, ⟨names, kind⟩ | .other, ⟨names, kind⟩ => by
    rw [hasEntry_iff_of_entries_eq (by simp), entries, List.mem_singleton, Entry.mk.injEq]
    simp
  | .directory inside, ⟨names, kind⟩ => by
    rw [hasEntry_directory_iff, entries, List.mem_cons, Entry.mk.injEq, mem_entriesOf_iff inside]

/-- The function `entriesOf` lists exactly the entries that are reached through one of the names. -/
theorem mem_entriesOf_iff : ∀ (inside : List (String × EntryTree)) (entry : Entry),
    entry ∈ entriesOf inside ↔ ∃ name tree rest, (name, tree) ∈ inside ∧
      tree.HasEntry rest entry.kind ∧ entry.names = name :: rest
  | [], entry => by simp [entriesOf]
  | (name, tree) :: inside, entry => by
    rw [entriesOf, List.mem_append, List.mem_map, mem_entriesOf_iff inside entry]
    simp only [mem_entries_iff tree]
    constructor
    · rintro (⟨⟨rest, kind⟩, hrest, rfl⟩ | ⟨other, inner, rest, hentry, hrest, hnames⟩)
      · exact ⟨name, tree, rest, List.mem_cons_self, hrest, rfl⟩
      · exact ⟨other, inner, rest, List.mem_cons_of_mem _ hentry, hrest, hnames⟩
    · rintro ⟨other, inner, rest, hentry, hrest, hnames⟩
      rcases List.mem_cons.mp hentry with heq | hentry
      · obtain ⟨rfl, rfl⟩ := Prod.mk.inj heq
        obtain ⟨names, kind⟩ := entry
        exact .inl ⟨⟨rest, kind⟩, hrest, by simpa using hnames.symm⟩
      · exact .inr ⟨other, inner, rest, hentry, hrest, hnames⟩

end

mutual

/-- Where the entries of each directory have different names, `entries` meets no entry twice. -/
theorem Distinct.nodup_entries : ∀ {tree : EntryTree}, tree.Distinct → tree.entries.Nodup
  | .file, _ | .link, _ | .other, _ => List.nodup_singleton _
  | .directory inside, h => by
    cases h with
    | leaf bare =>
      rw [bare]
      exact List.nodup_singleton _
    | directory nodup inner =>
      refine List.nodup_cons.mpr ⟨fun hmem => ?_, nodup_entriesOf inside nodup inner⟩
      obtain ⟨_, _, _, _, _, hnames⟩ := (mem_entriesOf_iff inside _).mp hmem
      cases hnames

/-- Where the entries of each directory have different names, `entriesOf` meets no entry twice. -/
theorem nodup_entriesOf : ∀ inside : List (String × EntryTree), (inside.map Prod.fst).Nodup →
    (∀ entry ∈ inside, Distinct entry.2) → (entriesOf inside).Nodup
  | [], _, _ => List.nodup_nil
  | (name, tree) :: inside, hnodup, hinner => by
    obtain ⟨htree, hentries⟩ := List.forall_mem_cons.mp hinner
    obtain ⟨hname, hrest⟩ := List.nodup_cons.mp hnodup
    have hinjective : Function.Injective fun entry : Entry =>
        { entry with names := name :: entry.names } := by
      rintro ⟨names, kind⟩ ⟨names', kind'⟩ heq
      simpa using heq
    rw [entriesOf, List.nodup_append']
    refine ⟨htree.nodup_entries.map hinjective, nodup_entriesOf inside hrest hentries, ?_⟩
    intro entry hfirst hother
    obtain ⟨_, _, rfl⟩ := List.mem_map.mp hfirst
    obtain ⟨other, inner, more, hentry, _, heq⟩ := (mem_entriesOf_iff inside _).mp hother
    obtain ⟨rfl, _⟩ := List.cons.inj heq
    exact hname (List.mem_map.mpr ⟨_, hentry, rfl⟩)

end

/-- The function `entries` gives a listing of the tree, if the entries of each directory have different
names. -/
theorem Distinct.lists_entries (h : tree.Distinct) : tree.Lists tree.entries :=
  ⟨h.nodup_entries, mem_entries_iff tree⟩

/-- Two listings of one tree have the same entries and differ in nothing but their order, since
neither of them lists an entry twice. -/
theorem Lists.perm (h : tree.Lists listing) (h' : tree.Lists listing') : listing.Perm listing' :=
  (List.perm_ext_iff_of_nodup h.nodup h'.nodup).mpr fun entry =>
    (h.mem_iff entry).trans (h'.mem_iff entry).symm

end EntryTree

namespace FileAccess

/-- A walk from the path meets the entries of the tree, all of them and without an error, in any order. -/
def Walks (access : FileAccess Id) (path : String) (tree : EntryTree) : Prop :=
  ∃ listing : List Entry, access.below path = listing.map Except.ok ∧ tree.Lists listing

/-- Access to a tree in memory walks it as a walk of a directory should: from wherever a path leads
in the tree, it yields every entry below once. -/
theorem walks_access {root place : FileTree} (h : root.resolve path = .ok place)
    (hdistinct : place.outline.Distinct) : root.access.Walks path place.outline := by
  refine ⟨place.outline.entries, ?_, hdistinct.lists_entries⟩
  simp only [FileTree.access, h]

end FileAccess

/-- The paths are those of the definitions below a directory: of the regular files that are named
like YAML texts, each once, and in the order of their components. -/
structure Finds (dir : String) (tree : EntryTree) (paths : List String) : Prop where
  /-- What is found are the files that are named like YAML texts. -/
  mem_iff : ∀ path, path ∈ paths ↔ ∃ names, tree.HasFile names ∧ path = Path.join dir names ∧
    Path.NamesYaml (Path.fileName path)
  /-- Different files are found under different paths. -/
  apart : ∀ names names', tree.HasFile names → tree.HasFile names' →
    Path.join dir names = Path.join dir names' → names = names'
  /-- The paths stand in strictly increasing order, component by component. -/
  ascending : paths.Pairwise fun path path' => Path.components path < Path.components path'

/-! ### The files that are chosen -/

/-- Where no names lead to a file, the file is at the top, and nothing else is in the tree. -/
theorem EntryTree.HasEntry.eq_nil (h : tree.HasFile []) (h' : tree.HasEntry names kind) :
    names = [] := by
  cases h'
  case here => rfl
  case through => cases h

/-- The entry is a regular file whose name has the extension of a YAML text. These are the two tests
that `FileAccess.find` makes. -/
def Entry.isDefinition (dir : String) (entry : Entry) : Bool :=
  entry.kind == .file && namedYaml dir entry.names

/-- The names of the regular files in a listing that have the names of YAML texts, in the order of the
listing. -/
def definitionNames (dir : String) (listing : List Entry) : List (List String) :=
  (listing.filter (Entry.isDefinition dir)).map Entry.names

/-- A walk without errors gives the names of the regular files it meets that are named like YAML texts. -/
theorem yamlFiles_map_ok (dir : String) (listing : List Entry) :
    yamlFiles dir (listing.map .ok) = .ok (definitionNames dir listing) := by
  induction listing with
  | nil => rfl
  | cons entry listing ih =>
    rw [List.map_cons, yamlFiles, ih]
    by_cases hkind : entry.kind = .file
    · by_cases hyaml : namedYaml dir entry.names = true
      · simp [definitionNames, Entry.isDefinition, hkind, hyaml, Except.map]
      · simp [definitionNames, Entry.isDefinition, hkind, hyaml]
    · simp [definitionNames, Entry.isDefinition, hkind]

/-- An error that a walk meets is the outcome, whatever was found before it. -/
theorem yamlFiles_append_error (dir : String) (listing : List Entry) (e : WalkError)
    (rest : List (Except WalkError Entry)) :
    yamlFiles dir (listing.map .ok ++ .error e :: rest) =
      .error (.unlistable dir (Path.join dir e.names) e.cause) := by
  induction listing with
  | nil => rfl
  | cons entry listing ih =>
    rw [List.map_cons, List.cons_append, yamlFiles, ih]
    split
    · rfl
    · split <;> rfl

/-- The names of the definitions in a listing, put into the order in which their paths are compared,
component by component. -/
def chosen (dir : String) (listing : List Entry) : List (List String) :=
  (definitionNames dir listing).mergeSort Path.atMost

/-- Names stand among the definitions of a listing exactly if it lists a regular file there that is named
like a YAML text. -/
theorem mem_definitionNames_iff :
    names ∈ definitionNames dir listing ↔ ⟨names, .file⟩ ∈ listing ∧ namedYaml dir names = true := by
  rw [definitionNames, List.mem_map]
  constructor
  · rintro ⟨⟨names, kind⟩, hmem, rfl⟩
    obtain ⟨hlisted, hdefinition⟩ := List.mem_filter.mp hmem
    obtain ⟨hkind, hyaml⟩ := (Bool.and_eq_true ..).mp hdefinition
    obtain rfl : kind = .file := eq_of_beq hkind
    exact ⟨hlisted, hyaml⟩
  · rintro ⟨hlisted, hyaml⟩
    exact ⟨_, List.mem_filter.mpr ⟨hlisted, by simpa [Entry.isDefinition] using hyaml⟩, rfl⟩

/-- No definition comes twice if no entry is listed twice: definitions are of one kind, so their names tell
them apart. -/
theorem nodup_definitionNames (h : listing.Nodup) : (definitionNames dir listing).Nodup := by
  refine (h.filter _).map_on ?_
  have hkind : ∀ entry ∈ listing.filter (Entry.isDefinition dir), entry.kind = .file := by
    intro entry hmem
    exact eq_of_beq ((Bool.and_eq_true ..).mp (List.mem_filter.mp hmem).2).1
  intro entry hmem entry' hmem' heq
  exact Entry.ext heq ((hkind entry hmem).trans (hkind entry' hmem').symm)

/-- What is chosen stands in strictly increasing order, if no entry is listed twice. -/
theorem pairwise_chosen (h : listing.Nodup) : (chosen dir listing).Pairwise (· < ·) :=
  Path.pairwise_mergeSort (nodup_definitionNames h)

/-- The chosen names are the only rearrangement of the definitions that is strictly increasing. -/
theorem chosen_eq (hnodup : listing.Nodup) (hperm : (definitionNames dir listing).Perm files)
    (hsorted : files.Pairwise (· < ·)) : chosen dir listing = files :=
  ((List.mergeSort_perm ..).trans hperm).eq_of_pairwise
    (fun _ _ _ _ hlt hlt' => absurd hlt' (List.lt_asymm hlt)) (pairwise_chosen hnodup) hsorted

/-- The order in which different entries are listed does not matter to what is chosen. -/
theorem chosen_eq_of_perm (hnodup : listing.Nodup) (h : listing.Perm listing') :
    chosen dir listing = chosen dir listing' :=
  chosen_eq hnodup (((h.filter _).map _).trans (List.mergeSort_perm ..).symm)
    (pairwise_chosen (h.nodup_iff.mp hnodup))

/-- From a listing of a tree the regular files with the names of YAML texts are chosen, and nothing
else. -/
theorem mem_chosen_iff (hnames : tree.WellNamed) (h : tree.Lists listing) :
    names ∈ chosen dir listing ↔
      tree.HasFile names ∧ Path.NamesYaml (Path.fileName (Path.join dir names)) := by
  rw [chosen, List.mem_mergeSort, mem_definitionNames_iff, h.mem_iff, namedYaml, Path.isYamlName_iff]
  refine and_congr_right fun hfile => ?_
  rw [Path.fileName_join (hnames names hfile)]

/-! ### Their paths -/

/-- The paths of the definitions in a listing, in the order of their names. -/
def definitionPaths (dir : String) (listing : List Entry) : List String :=
  (chosen dir listing).map (Path.join dir)

/-- What is found is made from the names that `yamlFiles` gives; a walk that it gives up on is a fault. -/
theorem FileAccess.run_find (access : FileAccess Id) (dir : String) :
    (access.find dir).run = (yamlFiles dir (access.below dir)).map fun files =>
      (files.mergeSort Path.atMost).map (Path.join dir) := by
  change ((MonadExcept.ofExcept (yamlFiles dir (access.below dir)) : Work Id _) >>= _).run = _
  cases yamlFiles dir (access.below dir) <;> rfl

/-- Where a walk meets no error, the paths of the definitions it meets are found. -/
theorem FileAccess.find_eq_of_below {access : FileAccess Id}
    (h : access.below dir = listing.map Except.ok) :
    (access.find dir).run = Except.ok (definitionPaths dir listing) := by
  rw [run_find, h, yamlFiles_map_ok]
  rfl

section

variable (hnames : tree.WellNamed)
include hnames

/-- Two files below one directory that have the same path are the same file, because none of their
names has a slash in it. -/
theorem EntryTree.HasEntry.eq_of_join_eq (h : tree.HasFile names) (h' : tree.HasFile names')
    (heq : Path.join dir names = Path.join dir names') : names = names' := by
  by_cases hnil : names = []
  · subst hnil
    exact (h.eq_nil h').symm
  · have hnil' : names' ≠ [] := by
      rintro rfl
      exact hnil (h'.eq_nil h)
    exact Path.join_injective (hnames names h) (hnames names' h') hnil hnil' heq

/-- The paths of files are in the order of the names that lead to the files. -/
theorem EntryTree.HasEntry.components_lt (h : tree.HasFile names) (h' : tree.HasFile names')
    (hlt : names < names') :
    Path.components (Path.join dir names) < Path.components (Path.join dir names') := by
  have hnil' : names' ≠ [] := by
    rintro rfl
    exact List.not_lt_nil _ hlt
  have hnil : names ≠ [] := by
    rintro rfl
    exact hnil' (h.eq_nil h')
  obtain ⟨front, hfront⟩ := Path.exists_components_join dir
  rw [hfront names hnil (hnames names h), hfront names' hnil' (hnames names' h')]
  exact List.append_left_lt hlt

/-- What is found in a listing of a tree are the definitions below the directory. -/
theorem finds_definitionPaths (h : tree.Lists listing) :
    Finds dir tree (definitionPaths dir listing) where
  mem_iff path := by
    rw [definitionPaths, List.mem_map]
    simp only [mem_chosen_iff hnames h]
    constructor
    · rintro ⟨names, ⟨hfile, hyaml⟩, rfl⟩
      exact ⟨names, hfile, rfl, hyaml⟩
    · rintro ⟨names, hfile, rfl, hyaml⟩
      exact ⟨names, ⟨hfile, hyaml⟩, rfl⟩
  apart _ _ hfile hfile' := hfile.eq_of_join_eq hnames hfile'
  ascending := by
    refine List.pairwise_map.mpr ((pairwise_chosen h.nodup).imp_of_mem ?_)
    intro names names' hmem hmem' hlt
    exact ((mem_chosen_iff hnames h).mp hmem).1.components_lt hnames
      ((mem_chosen_iff hnames h).mp hmem').1 hlt

end

/-- Whatever the order in which a walk meets the entries of a tree, the paths of its definitions are found,
each once and in order. Directories, links and other entries are met as well, and none of them is found,
whatever its name. -/
theorem FileAccess.find_of_walks (dir : String) {tree : EntryTree} (hnames : tree.WellNamed) :
    ∃ paths, Finds dir tree paths ∧
      ∀ access : FileAccess Id, access.Walks dir tree → (access.find dir).run = .ok paths := by
  have hlists : tree.Lists tree.entries.dedup :=
    ⟨List.nodup_dedup _, fun entry => List.mem_dedup.trans (EntryTree.mem_entries_iff tree entry)⟩
  refine ⟨_, finds_definitionPaths hnames hlists, ?_⟩
  rintro access ⟨listing, hlisting, hlists'⟩
  rw [find_eq_of_below hlisting, definitionPaths, definitionPaths,
    chosen_eq_of_perm hlists'.nodup (hlists'.perm hlists)]

/-- A directory with files at two depths, with a directory, a link and a pipe that are named like
definitions, and with files that are nearly named so. -/
def crowdedTree : EntryTree :=
  .directory [
    ("a-b.yaml", .file),
    ("lamps.yaml", .directory [("lamp.YAML", .file), (".yaml", .file)]),
    ("latest.yaml", .link),
    ("feed.yml", .other),
    ("a", .directory [("c.yml", .file), ("b.yaml", .file)])]

/-- Access to a place where a walk yields the given entries and no file can be read. It serves to
see what `FileAccess.find` makes of a listing. -/
def listed (listing : List Entry) : FileAccess Id where
  read _ := pure (.error .notFound)
  below _ := pure (listing.map .ok)

/-- Three definitions are found whichever entry is met first, and a name that continues that of a
directory comes after what is in the directory. The directory, the link and the pipe with the names of
definitions are met too, and are not found. -/
theorem find_crowdedTree : crowdedTree.WellNamed ∧
    ⟨["lamps.yaml"], .directory⟩ ∈ crowdedTree.entries ∧
    ⟨["latest.yaml"], .link⟩ ∈ crowdedTree.entries ∧
    (listed crowdedTree.entries).Walks "crds" crowdedTree ∧
    (listed crowdedTree.entries.reverse).Walks "crds" crowdedTree ∧
    Finds "crds" crowdedTree ["crds/a/b.yaml", "crds/a/c.yml", "crds/a-b.yaml"] ∧
    ((listed crowdedTree.entries.reverse).find "crds").run =
      Except.ok ["crds/a/b.yaml", "crds/a/c.yml", "crds/a-b.yaml"] := by
  have hnames : crowdedTree.WellNamed := by
    intro names hfile name hname
    have hall : ∀ entry ∈ crowdedTree.entries, ∀ name ∈ entry.names, Path.IsName name := by decide
    exact hall ⟨names, .file⟩ ((EntryTree.mem_entries_iff ..).mpr hfile) name hname
  have hlists : crowdedTree.Lists crowdedTree.entries := ⟨by decide, EntryTree.mem_entries_iff _⟩
  have hreversed : crowdedTree.Lists crowdedTree.entries.reverse :=
    ⟨List.nodup_reverse.mpr hlists.nodup, fun entry => List.mem_reverse.trans (hlists.mem_iff entry)⟩
  have hchosen : chosen "crds" crowdedTree.entries =
      [["a", "b.yaml"], ["a", "c.yml"], ["a-b.yaml"]] :=
    chosen_eq hlists.nodup (by decide) (by decide)
  have hjoined : [["a", "b.yaml"], ["a", "c.yml"], ["a-b.yaml"]].map (Path.join "crds") =
      ["crds/a/b.yaml", "crds/a/c.yml", "crds/a-b.yaml"] := by
    have hslash : ¬"crds".endsWith "/" = true := by
      rw [Path.endsWith_slash_iff]
      decide
    simp only [List.map_cons, List.map_nil, Path.join, hslash]
    rfl
  obtain ⟨paths, hfinds, hfind⟩ := FileAccess.find_of_walks "crds" hnames
  have hrun : ((listed crowdedTree.entries).find "crds").run =
      Except.ok (definitionPaths "crds" crowdedTree.entries) := FileAccess.find_eq_of_below rfl
  rw [hfind _ ⟨_, rfl, hlists⟩, definitionPaths, hchosen, hjoined] at hrun
  obtain rfl := Except.ok.inj hrun
  exact ⟨hnames, by decide, by decide, ⟨_, rfl, hlists⟩, ⟨_, rfl, hreversed⟩, hfinds,
    hfind _ ⟨_, rfl, hreversed⟩⟩

end CrdToolset
