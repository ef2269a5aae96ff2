import CrdToolset.Proofs.Go.LiteralLayout
import CrdToolset.Proofs.Go.PastedText
import CrdToolset.Proofs.Naming.Words
import CrdToolset.Proofs.Toolset.Identifiers
import CrdToolset.Proofs.Toolset.Lines

/-!
# Literals with texts of a definition

The group, the stored version, the kind and the plural are pasted between quotes as they are, and so
are the names and descriptions that are made from the kind and the plural. All of these literals are
whole exactly if none of the four texts has a quote, a backslash or a line break in it: small
letters, plurals and separators bring no such character. Only the description of the toolset is
flattened first, and its literal is whole for every kind.
-/

namespace CrdToolset

namespace Go

variable {x y before value after : String} {cs : List Char} {c d : Char}

/-! ### Bare texts -/

/-- The text has no quotes, backslashes and line breaks, so it may stand between quotes as it is. -/
def Bare (text : String) : Prop := ∀ c ∈ text.toList, Ordinary c

instance : DecidablePred Bare := fun text => List.decidableBAll Ordinary text.toList

/-- Two texts in a row are bare if both are. -/
@[simp] theorem bare_append : Bare (x ++ y) ↔ Bare x ∧ Bare y := by
  simp only [Bare, String.toList_append, List.forall_mem_append]

/-- A bare text is bare between bare texts. -/
theorem Bare.between (h : Bare value) (hx : Bare x) (hy : Bare y) : Bare (x ++ value ++ y) :=
  bare_append.mpr ⟨bare_append.mpr ⟨hx, h⟩, hy⟩

/-- A small form has no quotes, backslashes and line breaks, unless it is that of one of them. -/
theorem ordinary_of_mem_small (hc : Ordinary c) (h : d ∈ Text.small c) : Ordinary d := by
  rcases Text.small_eq_self_or_mem c with hself | hmem
  · rw [hself, List.mem_singleton] at h
    rwa [h]
  · have hnot : d.toNat ∉ [0x22, 0x5C, 0x0A] := Text.not_mem_of_bits (by decide +kernel) (hmem d h)
    refine ⟨?_, ?_, ?_⟩
    all_goals
      rintro rfl
      exact hnot (by decide)

/-- A text in small letters has no quotes, backslashes and line breaks, unless the text has. -/
theorem ordinary_of_mem_lower (hcs : ∀ c ∈ cs, Ordinary c) (h : d ∈ Text.lower cs) :
    Ordinary d := by
  rcases Naming.exists_of_mem_lowerFrom h with ⟨c, hc, hd⟩ | rfl | rfl
  · exact ordinary_of_mem_small (hcs c hc) hd
  · decide
  · decide

/-- A bare text is bare in small letters, because no small form is a quote, a backslash or a line
break. -/
theorem Bare.lowercase (h : Bare x) : Bare (Text.lowercase x) := by
  intro c hc
  rw [Text.lowercase, String.toList_ofList] at hc
  exact ordinary_of_mem_lower h hc

/-- The words of a bare name, joined by underscores and in small letters, are a bare text. -/
theorem Bare.snake (h : Bare x) : Bare (Naming.snake x) := by
  intro c hc
  rw [Naming.snake, Naming.Case.convert, String.toList_ofList] at hc
  obtain hsep | ⟨part, hpart, hc⟩ := mem_of_mem_intercalate hc
  · obtain rfl := List.mem_singleton.mp hsep
    decide
  · obtain ⟨word, hword, rfl⟩ := List.mem_map.mp hpart
    exact ordinary_of_mem_lower (fun c hc => h c (Naming.mem_of_mem_split hword hc)) hc

/-- The plural of a bare noun is bare, because the rules and the fixed plurals bring letters
only. -/
theorem Bare.pluralize (h : Bare x) : Bare (Naming.pluralize x) := by
  have hrules : ∀ rule ∈ Naming.pluralRules, ∀ c ∈ rule.ending, Ordinary c := by
    simp [Naming.pluralRules, Ordinary]
  have hend : ∀ c ∈ ['s'], Ordinary c := by simp [Ordinary]
  unfold Naming.pluralize
  dsimp only
  split
  case isTrue => exact h
  case isFalse =>
    intro c hc
    rw [String.toList_ofList] at hc
    cases hfirst : Naming.applyFirst Naming.pluralRules x.toList with
    | none =>
      rw [hfirst, Option.getD_none, List.mem_append] at hc
      exact hc.elim (h c) (hend c)
    | some plural =>
      obtain ⟨rule, hrule, rfl⟩ := Option.map_eq_some_iff.mp hfirst
      rw [hfirst, Option.getD_some, Naming.SuffixRule.apply, List.mem_append] at hc
      exact hc.elim (fun hc => h c (List.mem_of_mem_take hc))
        (hrules rule (List.mem_of_find?_eq_some hrule) c)

/-! ### Lines with a literal -/

/-- A line of code that has a literal in it, and the text that the literal is meant to stand for. -/
structure LiteralLine where
  /-- The code before the first quote. -/
  before : String
  /-- What is between the quotes. -/
  inside : String
  /-- The code after the second quote. -/
  after : String
  /-- What the literal is meant to stand for. -/
  meant : String

namespace LiteralLine

/-- The line as it stands in its file: what comes before the literal, the quotes with what is
between them, and what comes after. -/
def text (l : LiteralLine) : String := l.before ++ "\"" ++ l.inside ++ ("\"" ++ l.after)

/-- The literal is whole: it is on one line, it ends at the second quote, and it stands for what is
meant. -/
structure Intact (l : LiteralLine) : Prop where
  oneLine : OneLine l.inside
  reads : Reads (l.inside.toList ++ '"' :: l.after.toList) (Text.bytesOf l.meant) l.after.toList

/-- A line on which a text stands between quotes as it is. It is meant to be the text that the
literal stands for. -/
def pasted (before value after : String) : LiteralLine := ⟨before, value, after, value⟩

/-- A line on which a flattened text stands between quotes. The literal is meant to stand for the
tidy form of the text. -/
def flattened (before value after : String) : LiteralLine :=
  ⟨before, flatten value, after, tidy value⟩

/-- A text that is pasted between quotes makes a whole literal that stands for it exactly if the
text is bare. -/
theorem intact_pasted_iff : (pasted before value after).Intact ↔ Bare value := by
  have hreads : Reads (value.toList ++ '"' :: after.toList) (Text.bytesOf value) after.toList ↔
      Bare value := by
    rw [Text.bytesOf_eq]
    exact reads_self_iff
  constructor
  · exact fun h => hreads.mp h.reads
  · exact fun h => ⟨fun hbreak => (h _ hbreak).2.2 rfl, hreads.mpr h⟩

/-- A flattened text makes a whole literal for its tidy form, whatever the text was. -/
theorem intact_flattened : (flattened before value after).Intact := by
  refine ⟨oneLine_flatten value, ?_⟩
  rw [flattened, toList_flatten, Text.bytesOf_eq]
  exact reads_flatMap_protect (steady_of_mem_tidy value) after.toList

end LiteralLine

end Go

open Go (Bare LiteralLine)

variable {m : TypeModel} {r : Resource} {request : Request} {kind : String} {l : LiteralLine}

/-! ### Tools -/

/-- The name of a tool is bare if the kind is, since it is made of the kind, of letters and of
separators. -/
theorem bare_toolName (operation : Operation) (h : Bare kind) : Bare (toolName operation kind) := by
  have hname : Bare operation.name := by cases operation <;> decide
  unfold toolName
  split
  case isTrue => exact Go.bare_append.mpr ⟨h.pluralize.snake, by decide⟩
  case isFalse => exact Go.bare_append.mpr ⟨Go.bare_append.mpr ⟨h.snake, by decide⟩, hname⟩

/-- The description of a tool is bare if the kind is, since it is made of the kind, its plural and
fixed words. -/
theorem bare_toolDescription (operation : Operation) (h : Bare kind) :
    Bare (toolDescription operation kind) := by
  cases operation with
  | create => exact h.between (by decide +kernel) (by decide +kernel)
  | get => exact h.between (by decide +kernel) (by decide +kernel)
  | list => exact h.pluralize.between (by decide +kernel) (by decide +kernel)
  | update => exact h.between (by decide +kernel) (by decide +kernel)
  | delete => exact h.between (by decide +kernel) (by decide +kernel)

/-- The name of the version in objects is bare if the group and the version are. -/
theorem Resource.bare_apiVersion (hgroup : Bare r.group) (hversion : Bare r.storageVersion) :
    Bare r.apiVersion := by
  unfold apiVersion
  split
  case isTrue => exact hversion
  case isFalse =>
    simp only [Go.bare_append, hgroup, hversion]
    decide

namespace Toolset

/-! ### The literals of a toolset -/

/-- The lines with the constants of a resource that show texts of the definition. The scope is one
of two fixed words. -/
def constantLiterals (r : Resource) : List LiteralLine := [
  .pasted "\tGroup = " r.group "",
  .pasted "\tVersion = " r.storageVersion "",
  .pasted "\tAPIVersion = " r.apiVersion "",
  .pasted "\tKind = " r.kind "",
  .pasted "\tPlural = " r.plural ""]

/-- The lines with the name and the description of a tool: in the list of tools, and where the tool
is registered. -/
def toolLiterals (tool : Tool) : List LiteralLine := [
  .pasted "\t\t" tool.tool ",",
  .pasted "\t\tName:        " tool.tool ",",
  .pasted "\t\tDescription: " tool.description ","]

/-- The lines of a file that have a text of the definition between quotes, pasted or flattened. -/
def literals (t : Toolset) : Artifact → List LiteralLine
  | .types => constantLiterals t.resource
  | .toolset =>
    .pasted "\treturn " t.name "" ::
    .flattened "\treturn " ("Tools for managing " ++ t.resource.kind ++ " custom resources") "" ::
    t.tools.flatMap toolLiterals
  | _ => []

/-- The lines with literals for a resource are lines of the group of constants. -/
theorem text_mem_constantLines (h : l ∈ constantLiterals r) : l.text ∈ constantLines r := by
  simp only [constantLiterals, List.mem_cons, List.not_mem_nil, or_false] at h
  rcases h with rfl | rfl | rfl | rfl | rfl <;>
    simp [constantLines, LiteralLine.text, LiteralLine.pasted]

/-- The name and the description of a tool are in the list of tools and in its registration. -/
theorem text_mem_tool {tool : Tool} (h : l ∈ toolLiterals tool) :
    l.text = "\t\t\"" ++ tool.tool ++ "\"," ∨ l.text ∈ registration tool := by
  simp only [toolLiterals, List.mem_cons, List.not_mem_nil, or_false] at h
  rcases h with rfl | rfl | rfl <;>
    simp [registration, LiteralLine.text, LiteralLine.pasted]

/-- The lines with literals are lines of the files they are said to be in, so `literals` is no list
beside the code. -/
theorem text_mem_artifactLines {artifact : Artifact}
    (h : l ∈ (Toolset.of m r request).literals artifact) :
    l.text ∈ (Toolset.of m r request).artifactLines artifact := by
  cases artifact with
  | types =>
    have hline := text_mem_constantLines h
    simp [artifactLines, typesFile, hline]
  | toolset =>
    simp only [literals, List.mem_cons, List.mem_flatMap] at h
    rcases h with rfl | rfl | ⟨tool, htool, hl⟩
    · simp [artifactLines, toolsetFile, LiteralLine.text, LiteralLine.pasted]
    · simp [artifactLines, toolsetFile, LiteralLine.text, LiteralLine.flattened, Toolset.of]
    · rcases text_mem_tool hl with heq | hregistered
      · have hname : l.text ∈ (Toolset.of m r request).tools.map fun tool =>
            "\t\t\"" ++ tool.tool ++ "\"," := List.mem_map.mpr ⟨tool, htool, heq.symm⟩
        simp only [artifactLines, toolsetFile, List.mem_append, hname, true_or, or_true]
      · have hline : l.text ∈ (Toolset.of m r request).tools.flatMap registration :=
          List.mem_flatMap.mpr ⟨tool, htool, hregistered⟩
        simp only [artifactLines, toolsetFile, List.mem_append, hline, true_or, or_true]
  | _ => cases h

/-- The four texts that identify a resource can stand between quotes as they are, without any
escape. -/
structure BareTexts (r : Resource) : Prop where
  group : Bare r.group
  storageVersion : Bare r.storageVersion
  kind : Bare r.kind
  plural : Bare r.plural

/-- The constants of a resource are whole literals exactly if the four texts are bare, as each of
them is pasted into one of the lines. -/
theorem constantLiterals_intact_iff : (∀ l ∈ constantLiterals r, l.Intact) ↔ BareTexts r := by
  simp only [constantLiterals, List.forall_mem_cons, LiteralLine.intact_pasted_iff,
    List.not_mem_nil, false_implies, implies_true, and_true]
  constructor
  · rintro ⟨hgroup, hversion, _, hkind, hplural⟩
    exact ⟨hgroup, hversion, hkind, hplural⟩
  · intro h
    exact ⟨h.group, h.storageVersion, r.bare_apiVersion h.group h.storageVersion, h.kind, h.plural⟩

/-- The name and the description of a tool for a bare kind are whole literals. -/
theorem toolLiterals_intact (operation : Operation) (h : Bare kind) :
    ∀ l ∈ toolLiterals (Tool.of m kind operation), l.Intact := by
  simp only [toolLiterals, List.forall_mem_cons, LiteralLine.intact_pasted_iff, List.not_mem_nil,
    false_implies, implies_true, and_true]
  exact ⟨bare_toolName operation h, bare_toolName operation h, bare_toolDescription operation h⟩

/-- The literals with texts of the definition are lines of their files, and all of them are whole
and stand for what is meant exactly if the group, the stored version, the kind and the plural have
no quotes, backslashes and line breaks. -/
theorem literals_intact_iff (m : TypeModel) (r : Resource) (request : Request) :
    (∀ artifact, ∀ l ∈ (Toolset.of m r request).literals artifact,
      l.text ∈ (Toolset.of m r request).artifactLines artifact) ∧
    ((∀ artifact, ∀ l ∈ (Toolset.of m r request).literals artifact, l.Intact) ↔ BareTexts r) := by
  refine ⟨fun _ _ => text_mem_artifactLines, fun h => ?_, fun h artifact => ?_⟩
  · exact constantLiterals_intact_iff.mp (h .types)
  · cases artifact with
    | types => exact constantLiterals_intact_iff.mpr h
    | toolset =>
      refine List.forall_mem_cons.mpr ⟨?_, List.forall_mem_cons.mpr ⟨?_, fun l hl => ?_⟩⟩
      · exact LiteralLine.intact_pasted_iff.mpr h.plural.lowercase
      · exact LiteralLine.intact_flattened
      · obtain ⟨tool, htool, hl⟩ := List.mem_flatMap.mp hl
        obtain ⟨operation, _, rfl⟩ := List.mem_map.mp htool
        exact toolLiterals_intact operation h.kind l hl
    | _ => exact List.forall_mem_nil _

/-- The definition of a resource whose group has a quote in it, and with which nothing else is
unusual. -/
def quotedDefinition : Definition where
  documentKind := "CustomResourceDefinition"
  name := "lamps.example.com"
  group := "lamps\".example.com"
  kind := "Lamp"
  plural := "lamps"
  versions := [{
    name := "v1"
    storage := true
    schema := some { type := "object" } }]

/-- The quote in the group ends the literal for the group too early, so the constant is not what the
definition says. -/
theorem breaks_literal_quotedDefinition : ∃ r m,
    Resource.ofDefinition quotedDefinition = .ok r ∧ TypeModel.build r = .ok m ∧
    Operation.select none = .ok allTools.operations ∧
    ∃ l ∈ (Toolset.of m r allTools).literals .types,
      l.text ∈ (Toolset.of m r allTools).artifactLines .types ∧
      l.text = "\tGroup = \"lamps\".example.com\"" ∧ l.meant = "lamps\".example.com" ∧
      Go.Reads (l.inside.toList ++ '"' :: l.after.toList) (Text.bytesOf "lamps")
        ".example.com\"".toList ∧
      ¬l.Intact := by
  have hbuild : (TypeModel.build quotedDefinition.declared).toOption.isSome = true := by
    decide +kernel
  cases hm : TypeModel.build quotedDefinition.declared with
  | error fault => simp [hm, Except.toOption] at hbuild
  | ok m =>
    have hmem : LiteralLine.pasted "\tGroup = " "lamps\".example.com" "" ∈
        (Toolset.of m quotedDefinition.declared allTools).literals .types := List.mem_cons_self
    have hbare : Bare "lamps" := by decide
    have hearly := Go.reads_of_ordinary hbare ".example.com\"".toList
    rw [← Text.bytesOf_eq] at hearly
    refine ⟨quotedDefinition.declared, m, rfl, hm, rfl, _, hmem, text_mem_artifactLines hmem,
      by decide, rfl, hearly, fun h => ?_⟩
    have hafter := (h.reads.unique hearly).2
    revert hafter
    decide

end Toolset

end CrdToolset
