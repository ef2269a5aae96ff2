import CrdToolset.Json
import CrdToolset.Yaml.Record

/-!
# Sources

What a structured value is read from. A document can be read part by part as its nodes are met, or a value
that was read before without knowing what to expect can be looked at again; the reader of a structure is
the same for both.
-/

namespace CrdToolset.Yaml

/-- How to read a part of a document that is expected to be of some kind, or to consist of other parts.
Reading fails if the part is not what is expected. -/
structure Source (m : Type → Type) (π : Type) where
  /-- Fails. -/
  fail : {α : Type} → m α
  /-- A text. -/
  text : π → m String
  /-- A whole number that is not negative. -/
  natural : π → m Nat
  /-- A number of the double format. -/
  number : π → m Number.Double
  /-- A value of any kind. -/
  json : π → m Json
  /-- The items of a list. -/
  items : π → m (List π)
  /-- The entries of a map from texts. -/
  entries : π → m (List (String × π))
  /-- The fields with the given names. -/
  record : List String → π → m (Record π)
  /-- The part itself, if it does not mean nothing. -/
  present : π → m (Option π)

/-- Reads a part that may mean nothing, and gives no value if it does. -/
def Source.optional {m : Type → Type} [Monad m] {π α : Type} (s : Source m π) (read : π → m α) (part : π) :
    m (Option α) := do
  match (← s.present part) with
  | some part => some <$> read part
  | none => pure none

/-- Reads the texts of a list, all of whose items must be texts. -/
def Source.texts {m : Type → Type} [Monad m] {π : Type} (s : Source m π) (part : π) : m (List String) := do
  (← s.items part).mapM s.text

end CrdToolset.Yaml
