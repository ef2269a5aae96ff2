import CrdToolset.Proofs.Go.Wrapping
import CrdToolset.Proofs.Toolset.Closed
import CrdToolset.Toolset.Artifact

/-!
# Declarations of structs

In generated code the declaration of a struct begins on a line of its own. The file of the types has
such a line for the resource, one for lists of it, and one for each of the structs of the toolset.
-/

namespace CrdToolset

namespace Toolset

/-- A line begins the declaration of a struct. It has the word for types in front and the opening
brace behind. -/
def declaresStruct (line : String) : Bool :=
  "type ".toList.isPrefixOf line.toList && " struct \x7b".toList.isSuffixOf line.toList

/-- The number of lines that begin the declaration of a struct. This is what can be seen in the file
of the types. -/
def declarations (lines : List String) : Nat := lines.countP declaresStruct

/-- The line does not begin like the declaration of a type, which its first character shows. -/
def Within (line : String) : Prop := line.toList.head? ≠ some 't'

variable {lines a b : List String}

/-- The declarations in two parts of a file are those of the one part and those of the other. -/
theorem declarations_append : declarations (a ++ b) = declarations a + declarations b :=
  List.countP_append

/-- The line that a struct begins with adds one declaration to those of the lines after it. -/
theorem declarations_cons_struct (name : String) :
    declarations (("type " ++ name ++ " struct \x7b") :: lines) = declarations lines + 1 := by
  refine List.countP_cons_of_pos (Bool.and_eq_true_iff.mpr ⟨?begins, ?ends⟩)
  case begins =>
    rw [List.isPrefixOf_iff_prefix, String.append_assoc, String.toList_append]
    exact List.prefix_append ..
  case ends =>
    rw [List.isSuffixOf_iff_suffix, String.toList_append]
    exact List.suffix_append ..

/-- A line that does not begin like the declaration of a type adds no declaration to those of the
lines after it. -/
theorem declarations_cons_of_within {line : String} (h : Within line) :
    declarations (line :: lines) = declarations lines := by
  refine List.countP_cons_of_neg fun hdeclares => h ?_
  obtain ⟨rest, hrest⟩ := List.isPrefixOf_iff_prefix.mp (Bool.and_eq_true_iff.mp hdeclares).1
  rw [← hrest]
  rfl

/-- Lines none of which begins like the declaration of a type declare no struct. -/
theorem declarations_of_within (h : ∀ line ∈ lines, Within line) : declarations lines = 0 := by
  induction lines with
  | nil => rfl
  | cons line lines ih =>
    obtain ⟨hline, hlines⟩ := List.forall_mem_cons.mp h
    rw [declarations_cons_of_within hline, ih hlines]

/-- The lines that name the package and its imports declare no struct, whatever is imported. -/
theorem within_header (t : Toolset) (imports : List String) :
    ∀ line ∈ t.header imports, Within line := by
  have himports : ∀ line ∈ imports.map ("\t" ++ ·), Within line := by
    intro line hline
    obtain ⟨text, _, rfl⟩ := List.mem_map.mp hline
    simp [Within]
  simp only [header, List.forall_mem_append]
  exact ⟨⟨by simp [Within], himports⟩, by simp [Within]⟩

/-- The lines with the constants of a resource declare no struct, as they stand further in. -/
theorem within_constantLines (r : Resource) : ∀ line ∈ constantLines r, Within line := by
  simp [constantLines, Within]

/-- The lines of a method for copying declare no struct. -/
theorem within_copyMethod (type : String) : ∀ line ∈ copyMethod type, Within line := by
  simp [copyMethod, Within]

/-- A comment line begins with slashes, so it does not begin like the declaration of a type,
whatever it says. -/
theorem within_of_mem_comment {width : Nat} {text line : String} (h : line ∈ Go.comment width text) :
    Within line := by
  obtain ⟨words, _, rfl⟩ := List.mem_map.mp h
  simp [Within, Go.commentLine]

/-- The lines that are written for a struct have one declaration in them, the first that is no
comment. -/
theorem declarations_struct (g : TypeGraph) (comments : Bool) (node : TypeNode) :
    declarations (Go.Struct.ofNode g comments node).lines = 1 := by
  have hcomment : ∀ line ∈ (Go.Struct.ofNode g comments node).comment, Within line := by
    intro line hline
    obtain ⟨width, text, hcomment⟩ := Go.exists_mem_comment_of_struct hline
    exact within_of_mem_comment hcomment
  have hfields : ∀ line ∈ (Go.Struct.ofNode g comments node).fields.flatMap Go.Field.lines,
      Within line := by
    intro line hline
    obtain ⟨f, _, hline⟩ := List.mem_flatMap.mp hline
    rcases List.mem_append.mp hline with hcomment | hlast
    · obtain ⟨text, _, rfl⟩ := List.mem_map.mp hcomment
      simp [Within]
    · obtain rfl := List.mem_singleton.mp hlast
      simp [Within]
  have hends : declarations [""] = 0 ∧ declarations ["\x7d"] = 0 := by decide
  rw [Go.Struct.lines]
  simp only [declarations_append, declarations_cons_struct, declarations_of_within hcomment,
    declarations_of_within hfields, hends]
  rfl

/-- The lines that are written for the structs of a toolset have as many declarations in them as
there are structs. -/
theorem declarations_structs (m : TypeModel) (r : Resource) (request : Request) :
    declarations ((Toolset.of m r request).structs.flatMap Go.Struct.lines) =
      (Toolset.of m r request).structs.length := by
  change declarations (((m.objectTypes.filterMap m.node?).map _).flatMap _) =
    ((m.objectTypes.filterMap m.node?).map _).length
  induction m.objectTypes.filterMap m.node? with
  | nil => rfl
  | cons node nodes ih =>
    rw [List.map_cons, List.flatMap_cons, declarations_append, declarations_struct, ih,
      List.length_cons, Nat.add_comm]

/-- The file of the types declares a struct for the resource, one for lists of it, and those of the
toolset. -/
theorem declarations_typesFile (m : TypeModel) (r : Resource) (request : Request) :
    declarations (Toolset.of m r request).typesFile =
      (Toolset.of m r request).structs.length + 2 := by
  rw [typesFile]
  simp only [declarations_append, declarations_structs]
  rw [declarations_of_within (within_header _ _), declarations_of_within (within_constantLines _),
    declarations_of_within (within_copyMethod _), declarations_of_within (within_copyMethod _)]
  have hspec : ∀ line ∈ (Toolset.of m r request).specType.toList.flatMap fun type =>
      ["", "\tSpec " ++ type.text ++ " `json:\"spec,omitempty\"`"], Within line := by
    intro line hline
    obtain ⟨type, _, hline⟩ := List.mem_flatMap.mp hline
    rcases List.mem_pair.mp hline with rfl | rfl <;> simp [Within]
  have hstatus : ∀ line ∈ (Toolset.of m r request).statusType.toList.map fun type =>
      "\tStatus " ++ type.text ++ " `json:\"status,omitempty\"`", Within line := by
    intro line hline
    obtain ⟨type, _, rfl⟩ := List.mem_map.mp hline
    simp [Within]
  rw [declarations_of_within hspec, declarations_of_within hstatus]
  repeat first
    | rw [declarations_cons_struct]
    | rw [declarations_cons_of_within (by simp [Within])]
  have hnil : declarations [] = 0 := rfl
  rw [hnil]
  omega

end Toolset

end CrdToolset
