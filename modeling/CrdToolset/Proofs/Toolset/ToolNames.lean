import CrdToolset.Proofs.Naming.Plural
import CrdToolset.Toolset.Tool
import Mathlib.Data.List.Nodup

/-!
# Names that tools are given

The method for an operation has a word for the operation in front of the kind. The names that are
made from it are different for different operations, and none of them begins with the kind.
-/

namespace CrdToolset

open Naming

namespace Operation

/-- The capitalized word that stands in front of the kind in the method for an operation. -/
def word : Operation → String
  | .create => "Create"
  | .get => "Get"
  | .list => "List"
  | .update => "Update"
  | .delete => "Delete"

/-- What becomes of the kind behind the word: it is put into the case of types, and for listing it
is put into the plural before. -/
def change : Operation → String → String
  | .list => pascal ∘ pluralize
  | _ => pascal

variable (operation : Operation)

/-- The method for an operation is named by the word of the operation and what becomes of the kind
behind it. -/
theorem methodName_eq (kind : String) :
    methodName operation kind = operation.word ++ operation.change kind := by
  cases operation <;> rfl

/-- The word of an operation begins with a capital and has no other, so it is passed on as a
whole. -/
theorem capitalized_word : Capitalized operation.word := by
  cases operation <;>
    exact ⟨isHump_of_all (by decide) (by decide) (by decide) (by decide), by decide⟩

/-- No operation has an empty name, so a name that is made with it does not begin with what comes
after. -/
theorem name_ne_empty : operation.name ≠ "" := by cases operation <;> decide

/-- The word of an operation is capitalised already, so it keeps its capital. -/
theorem capitalize_word_eq : capitalize operation.word.toList = operation.word.toList := by
  cases operation <;> decide

/-- The word of an operation in small letters is the name of the operation. -/
theorem lower_word : Text.lower operation.word.toList = operation.name.toList := by
  cases operation <;> decide

/-- The name of an operation, capitalised, is the word of the operation. -/
theorem capitalize_name : capitalize operation.name.toList = operation.word.toList := by
  cases operation <;> decide

/-- The name of an operation is a word without capitals, so it is not cut when names are
converted. -/
theorem isHump_name : IsHump operation.name.toList := by
  cases operation <;> exact isHump_of_all (by decide) (by decide) (by decide) (by decide)

/-- The plural of a noun that begins with the word for listing still begins with it. -/
theorem leftAlone_word_list : LeftAlone (word .list) := by
  refine ⟨by decide, by decide, fun c hc => ?_⟩
  obtain rfl : 't' = c := Option.some.inj hc
  decide

/-- The name of the operation of listing is left alone by the plural at the beginning of a noun. -/
theorem leftAlone_name_list : LeftAlone (name .list) := by
  refine ⟨by decide, by decide, fun c hc => ?_⟩
  obtain rfl : 't' = c := Option.some.inj hc
  decide

/-- What becomes of the kind passes on the name of the operation as its word. -/
theorem passes_change : Passes operation.change operation.name operation.word operation.word := by
  have hpascal : Passes pascal operation.name operation.word operation.word :=
    passes_pascal operation.isHump_name operation.capitalize_name operation.capitalized_word
  cases operation with
  | list =>
    have hname := leftAlone_name_list.passes_pluralize leftAlone_word_list
    have hword := leftAlone_word_list.passes_pluralize leftAlone_word_list
    exact hpascal.comp hname hword
  | _ => exact hpascal

/-- What becomes of the kind keeps the word of the operation, as often as the kind repeats it at its
beginning. -/
theorem carries_change : Carries operation.change operation.word := by
  have hpascal : Carries pascal operation.word :=
    passes_pascal operation.capitalized_word.hump operation.capitalize_word_eq
      operation.capitalized_word
  cases operation with
  | list =>
    have hword := leftAlone_word_list.passes_pluralize leftAlone_word_list
    exact hpascal.comp hword hword
  | _ => exact hpascal

end Operation

namespace Tool

variable {m : TypeModel} {kind y : String} {operation operation' : Operation}

/-- The type of an input is named by the word of the operation and the kind. -/
theorem inputType_of : (Tool.of m kind operation).inputType =
    operation.word ++ operation.change kind ++ "Input" := by
  rw [← operation.methodName_eq]
  rfl

/-- The variable of a schema is named by the word of the operation and the kind. -/
theorem schemaVar_of : (Tool.of m kind operation).schemaVar =
    camel (operation.word ++ operation.change kind) ++ "InputSchema" := by
  rw [← operation.methodName_eq]
  rfl

/-- A text that begins with a capital `S` does not begin with a letter of the words or the names of
operations. -/
theorem not_mem_of_eq_S (hy : ∀ c ∈ y.toList.head?, c = 'S') :
    ∀ c ∈ y.toList.head?, c ∉ operation.word.toList ∧ c ∉ operation.name.toList := by
  intro c hc
  obtain rfl := hy c hc
  cases operation <;> decide

/-- The type of an input is neither the kind nor the kind with something behind it that begins with
a capital S. -/
theorem kind_append_ne_inputType (hy : ∀ c ∈ y.toList.head?, c = 'S') :
    kind ++ y ≠ (Tool.of m kind operation).inputType := by
  rw [inputType_of]
  exact operation.carries_change.append_ne_append operation.capitalized_word.ne_empty
    (fun c hc => (not_mem_of_eq_S hy c hc).1) kind "Input"

/-- The variable of a schema is neither the kind nor the kind with something behind it that begins
with a capital S. -/
theorem kind_append_ne_schemaVar (hy : ∀ c ∈ y.toList.head?, c = 'S') :
    kind ++ y ≠ (Tool.of m kind operation).schemaVar := by
  rw [schemaVar_of]
  exact operation.passes_change.append_ne_camel operation.carries_change operation.capitalized_word
    operation.lower_word operation.capitalize_word_eq (fun c hc => (not_mem_of_eq_S hy c hc).1)
    (fun c hc => (not_mem_of_eq_S hy c hc).2) kind "InputSchema"

/-- A text that is put behind another one that is not empty does not change its first character. -/
theorem head?_append {u : String} (hu : u ≠ "") (x : String) :
    (u ++ x).toList.head? = u.toList.head? := by
  rw [String.toList_append]
  refine List.head?_append_of_ne_nil _ fun hnil => hu ?_
  rw [← String.toList_inj, hnil]
  rfl

/-- The types of the inputs have different names for different operations, whatever the kind is. -/
theorem inputType_injective
    (h : (Tool.of m kind operation).inputType = (Tool.of m kind operation').inputType) :
    operation = operation' := by
  rw [inputType_of, inputType_of, String.append_assoc, String.append_assoc] at h
  have hhead := congrArg (fun s => s.toList.head?) h
  rw [head?_append operation.capitalized_word.ne_empty,
    head?_append operation'.capitalized_word.ne_empty] at hhead
  revert hhead
  cases operation <;> cases operation' <;> decide

/-- The variables of the schemas have different names for different operations, whatever the kind
is. -/
theorem schemaVar_injective
    (h : (Tool.of m kind operation).schemaVar = (Tool.of m kind operation').schemaVar) :
    operation = operation' := by
  rw [schemaVar_of, schemaVar_of] at h
  obtain ⟨z, hz⟩ := exists_camel operation.capitalized_word operation.lower_word
    (operation.change kind)
  obtain ⟨z', hz'⟩ := exists_camel operation'.capitalized_word operation'.lower_word
    (operation'.change kind)
  rw [hz, hz', String.append_assoc, String.append_assoc] at h
  have hhead := congrArg (fun s => s.toList.head?) h
  rw [head?_append operation.name_ne_empty, head?_append operation'.name_ne_empty] at hhead
  revert hhead
  cases operation <;> cases operation' <;> decide

variable {operations : List Operation}

/-- Where each operation is selected once, no two types of inputs have one name. -/
theorem nodup_inputTypes (h : operations.Nodup) :
    ((operations.map (Tool.of m kind)).map Tool.inputType).Nodup := by
  rw [List.map_map]
  exact h.map fun _ _ => inputType_injective

/-- Where each operation is selected once, no two variables of schemas have one name. -/
theorem nodup_schemaVars (h : operations.Nodup) :
    ((operations.map (Tool.of m kind)).map Tool.schemaVar).Nodup := by
  rw [List.map_map]
  exact h.map fun _ _ => schemaVar_injective

end Tool

end CrdToolset
