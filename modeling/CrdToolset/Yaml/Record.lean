/-!
# Records

The known fields of a mapping. Which fields are known depends on the reader: other fields are passed
over, but a known one may not be given twice. The reader of a field decides what it means when the
field is missing.
-/

namespace CrdToolset.Yaml

/-- Fields by name, each name once, with what stands for their values. -/
structure Record (π : Type) where
  /-- The names with what was found for them. -/
  fields : List (String × π)

namespace Record

/-- No two fields have the same name, as it must be for the known fields of a mapping. -/
def allDistinct {π : Type} : List (String × π) → Bool
  | [] => true
  | field :: rest => (rest.lookup field.1).isNone && allDistinct rest

/-- The fields with known names, if none of them is there twice. Whether other fields are does not
matter. -/
def ofEntries? {π : Type} (known : List String) (entries : List (String × π)) : Option (Record π) :=
  let fields := entries.filter fun entry => known.contains entry.1
  if allDistinct fields then some ⟨fields⟩ else none

/-- Reads the field with a name; if it is missing, its value is the one given. -/
def get {m : Type → Type} [Monad m] {π α : Type} (record : Record π) (name : String) (missing : α)
    (read : π → m α) : m α :=
  match record.fields.lookup name with
  | some part => read part
  | none => pure missing

end Record

end CrdToolset.Yaml
