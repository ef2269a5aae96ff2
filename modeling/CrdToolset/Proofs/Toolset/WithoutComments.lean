import CrdToolset.Proofs.Toolset.LineBreaks
import CrdToolset.Toolset.Artifact

/-!
# Toolsets with and without comments

Whether a request asks for comments decides nothing but whether comment lines stand above the structs
and their fields in the file of the types. Leaving the comments out takes whole lines out of that file,
and leaves every other line and every other file as it is.
-/

namespace CrdToolset

/-! ### Leaving members out of a list -/

/-- The second list is what remains of the first one when some members that satisfy the condition are
left out. -/
inductive Without {α : Type} (P : α → Prop) : List α → List α → Prop
  | nil : Without P [] []
  | keep {l l' : List α} (a : α) (rest : Without P l l') : Without P (a :: l) (a :: l')
  | drop {l l' : List α} {a : α} (here : P a) (rest : Without P l l') : Without P (a :: l) l'

namespace Without

variable {α β : Type} {P : α → Prop} {Q : β → Prop} {l l' k k' : List α}

/-- A list is what is left of it when nothing is left out. -/
theorem refl (P : α → Prop) (l : List α) : Without P l l := by
  induction l with
  | nil => exact .nil
  | cons a l ih => exact .keep a ih

/-- If all members of a list satisfy the condition, the whole list can be left out. -/
theorem of_forall (h : ∀ a ∈ l, P a) : Without P l [] := by
  induction l with
  | nil => exact .nil
  | cons a l ih =>
    obtain ⟨here, hrest⟩ := List.forall_mem_cons.mp h
    exact .drop here (ih hrest)

/-- What is left out of two lists is left out of both in a row. -/
theorem append (h : Without P l l') (h' : Without P k k') : Without P (l ++ k) (l' ++ k') := by
  induction h with
  | nil => exact h'
  | keep a _ ih => exact .keep a ih
  | drop here _ ih => exact .drop here ih

/-- Members are left out of what is made from a list, if they are made from members left out. -/
theorem flatMap {f : α → List β} (h : Without P l l') (hdrop : ∀ a, P a → ∀ b ∈ f a, Q b) :
    Without Q (l.flatMap f) (l'.flatMap f) := by
  induction h with
  | nil => exact .nil
  | keep a _ ih =>
    rw [List.flatMap_cons, List.flatMap_cons]
    exact (refl Q (f a)).append ih
  | drop here _ ih =>
    rw [List.flatMap_cons]
    exact (of_forall (hdrop _ here)).append ih

/-- Where lists are made in two ways from the same members, they may differ for each member. -/
theorem flatMap_of_forall {f g : α → List β} (h : ∀ a ∈ l, Without Q (f a) (g a)) :
    Without Q (l.flatMap f) (l.flatMap g) := by
  induction l with
  | nil => exact .nil
  | cons a l ih =>
    obtain ⟨here, hrest⟩ := List.forall_mem_cons.mp h
    rw [List.flatMap_cons, List.flatMap_cons]
    exact here.append (ih hrest)

end Without

/-! ### Comment lines -/

/-- The line is a comment: it has slashes and a space at its beginning, or after one tab. -/
def IsComment (line : String) : Prop := ∃ text, line = "// " ++ text ∨ line = "\t// " ++ text

/-- What is left out of a file for want of comments: single lines that are comments. -/
def IsCommentLine (line : String) : Prop := IsComment line ∧ OneLine line

variable {line : String} {lines lines' : List String}

/-- Where single comment lines are left out of what a file is written from, a reader finds the same
lines without them. -/
theorem without_linesOf_fileText (h : Without IsCommentLine lines lines') (hne : lines ≠ [])
    (hne' : lines' ≠ []) :
    Without IsComment (linesOf (Toolset.fileText lines)) (linesOf (Toolset.fileText lines')) := by
  have hdrop : ∀ line, IsCommentLine line → ∀ read ∈ linesOf line, IsComment read := by
    rintro line ⟨hcomment, hline⟩ read hread
    rw [hline.linesOf_eq, List.mem_singleton] at hread
    rwa [hread]
  rw [linesOf_fileText hne, linesOf_fileText hne']
  exact (h.flatMap hdrop).append (.refl ..)

namespace Go

variable (g : TypeGraph)

/-- The lines of a field without comments are those with comments, without the lines that are
comments. -/
theorem without_lines_field (p : Property) :
    Without IsCommentLine (Field.ofProperty g true p).lines (Field.ofProperty g false p).lines := by
  have hcomment : ∀ line ∈ (Field.ofProperty g true p).comment.map ("\t" ++ ·),
      IsCommentLine line := by
    intro line hline
    obtain ⟨comment, hmem, rfl⟩ := List.mem_map.mp hline
    obtain ⟨width, text, hmem⟩ := exists_mem_comment_of_field hmem
    have hone : OneLine comment := oneLine_of_mem_comment hmem
    obtain ⟨rest, rfl⟩ := exists_eq_slashes_append hmem
    have htab : OneLine "\t" := by decide
    exact ⟨⟨rest, .inr (by rw [← String.append_assoc]; rfl)⟩, oneLine_append.mpr ⟨htab, hone⟩⟩
  unfold Field.lines
  exact (Without.of_forall hcomment).append (.refl ..)

/-- The lines of a struct without comments are those with comments, without the lines that are
comments. -/
theorem without_lines_struct (node : TypeNode) :
    Without IsCommentLine (Struct.ofNode g true node).lines (Struct.ofNode g false node).lines := by
  have hcomment : ∀ line ∈ (Struct.ofNode g true node).comment, IsCommentLine line := by
    intro line hline
    obtain ⟨width, text, hmem⟩ := exists_mem_comment_of_struct hline
    have hone : OneLine line := oneLine_of_mem_comment hmem
    obtain ⟨rest, rfl⟩ := exists_eq_slashes_append hmem
    exact ⟨⟨rest, .inl rfl⟩, hone⟩
  have hfields : Without IsCommentLine
      ((Struct.ofNode g true node).fields.flatMap Field.lines)
      ((Struct.ofNode g false node).fields.flatMap Field.lines) := by
    have hmap (comments : Bool) : (Struct.ofNode g comments node).fields.flatMap Field.lines =
        node.properties.flatMap fun p => (Field.ofProperty g comments p).lines :=
      List.flatMap_map ..
    rw [hmap, hmap]
    exact .flatMap_of_forall fun p _ => without_lines_field g p
  have hfirst : Without IsCommentLine [""] [""] := .refl ..
  have habove : Without IsCommentLine ([""] ++ (Struct.ofNode g true node).comment) ([""] ++ []) :=
    hfirst.append (.of_forall hcomment)
  unfold Struct.lines
  exact ((habove.append (.refl ..)).append hfields).append (.refl ..)

/-- The lines of several structs without comments are those with comments, without the lines that
are comments. -/
theorem without_lines_structs (nodes : List TypeNode) :
    Without IsCommentLine ((nodes.map (Struct.ofNode g true)).flatMap Struct.lines)
      ((nodes.map (Struct.ofNode g false)).flatMap Struct.lines) := by
  rw [List.flatMap_map, List.flatMap_map]
  exact .flatMap_of_forall fun node _ => without_lines_struct g node

end Go

/-! ### Files -/

namespace Toolset

/-- Only the file of the types has the structs in it, and no file says whether there are comments. -/
theorem body_with_structs (t : Toolset) (structs : List Go.Struct) (includeComments : Bool)
    {artifact : Artifact} (h : artifact ≠ .types) :
    ({ t with structs, includeComments } : Toolset).body artifact = t.body artifact := by
  cases artifact with
  | types => exact absurd rfl h
  | _ => rfl

/-- The structs stand at the end of the file of the types, after lines that do not depend on them. -/
theorem exists_typesFile_with_structs (t : Toolset) (structs : List Go.Struct)
    (includeComments : Bool) : ∃ front, front ≠ [] ∧
      t.typesFile = front ++ t.structs.flatMap Go.Struct.lines ∧
      ({ t with structs, includeComments } : Toolset).typesFile =
        front ++ structs.flatMap Go.Struct.lines :=
  ⟨_, by simp [header], rfl, rfl⟩

/-- If comment lines are left out of the structs, they are left out of the file of the types. -/
theorem without_body_types (t : Toolset) {structs : List Go.Struct} (includeComments : Bool)
    (h : Without IsCommentLine (t.structs.flatMap Go.Struct.lines)
      (structs.flatMap Go.Struct.lines)) :
    Without IsComment (linesOf (t.body .types))
      (linesOf (({ t with structs, includeComments } : Toolset).body .types)) := by
  obtain ⟨front, hne, hlines, hfewer⟩ := exists_typesFile_with_structs t structs includeComments
  have hfile := (Without.refl IsCommentLine front).append h
  rw [body, body, artifactLines, artifactLines, hlines, hfewer]
  exact without_linesOf_fileText hfile (by simp [hne]) (by simp [hne])

end Toolset

/-- An artifact with comments and the same artifact without them. The file of the types may have
further lines, all of which are comments; any other file has the same text. -/
def SameButComments (commented plain : Artifact × String) : Prop :=
  commented.1 = plain.1 ∧
    if commented.1 = .types then Without IsComment (linesOf commented.2) (linesOf plain.2)
    else commented.2 = plain.2

/-- Comments are the only difference between what is generated with comments and without them: whole
comment lines in the file of the types, and nothing in the other files. -/
theorem generate_sameButComments (m : TypeModel) (r : Resource) (request : Request) :
    List.Forall₂ SameButComments
      (generate m r { request with includeComments := true })
      (generate m r { request with includeComments := false }) := by
  have hstructs : Without IsCommentLine
      ((Toolset.of m r { request with includeComments := true }).structs.flatMap Go.Struct.lines)
      ((Toolset.of m r { request with includeComments := false }).structs.flatMap
        Go.Struct.lines) :=
    Go.without_lines_structs m.graph _
  unfold generate generateOnly
  rw [List.forall₂_map_left_iff, List.forall₂_map_right_iff, List.forall₂_same]
  intro artifact _
  refine ⟨rfl, ?_⟩
  by_cases htypes : artifact = .types
  · subst htypes
    exact Toolset.without_body_types _ false hstructs
  · simp only [if_neg htypes]
    exact (Toolset.body_with_structs _ _ false htypes).symm

end CrdToolset
