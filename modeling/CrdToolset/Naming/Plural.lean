/-!
# Plural and singular of a noun

Approximate English: a few nouns of the domain count as plural already, and every other noun goes by
the first rule whose ending it has. The singular goes by rules of its own and does not look at the
list of plural nouns, so it undoes the plural of regular nouns only.
-/

namespace CrdToolset.Naming

/-- Nouns that are their own plural, in small letters. A noun is looked up here before any rule is
tried. -/
def fixedPlurals : List String := [
  "functions", "services", "resources", "policies", "deployments", "configmaps", "secrets",
  "endpoints", "namespaces", "nodes", "pods", "volumes", "events", "jobs", "cronjobs", "ingresses",
  "classes", "databases", "caches", "queues", "processes", "addresses", "responses", "requests",
  "statuses", "data", "metadata", "widgets"]

/-- The character is a small vowel of the English alphabet, which some rules forbid before the
ending. -/
def isVowel (c : Char) : Bool :=
  c == 'a' || c == 'e' || c == 'i' || c == 'o' || c == 'u'

/-- A rule for words that end in `suffix`: what may stand before the ending, and what replaces
it. -/
structure SuffixRule where
  /-- The ending the rule is for, in small letters. -/
  suffix : List Char
  /-- What the character before the ending must satisfy; there is none when the word is the ending. -/
  before : Option Char → Bool
  /-- How many characters are taken off the word. -/
  drop : Nat
  /-- What is written in their place. -/
  ending : List Char

/-- The word, in small letters, has the ending of the rule with the right character before it. -/
def SuffixRule.fits (rule : SuffixRule) (word : List Char) : Bool :=
  rule.suffix.isSuffixOf word &&
    rule.before (word.take (word.length - rule.suffix.length)).getLast?

/-- A word after the rule: the old ending is taken off and the new one is put on. -/
def SuffixRule.apply (rule : SuffixRule) (word : List Char) : List Char :=
  word.take (word.length - rule.drop) ++ rule.ending

/-- Any character may come before the ending, or none. This is the condition of the rules that have
none. -/
def anything (_ : Option Char) : Bool := true

/-- Plural rules; the first one that fits decides, and a word that none fits takes an `s`. -/
def pluralRules : List SuffixRule := [
  ⟨['s'], anything, 0, ['e', 's']⟩,
  ⟨['x'], anything, 0, ['e', 's']⟩,
  ⟨['z'], anything, 0, ['e', 's']⟩,
  ⟨['c', 'h'], anything, 0, ['e', 's']⟩,
  ⟨['s', 'h'], anything, 0, ['e', 's']⟩,
  ⟨['y'], Option.any isVowel, 0, ['s']⟩,
  ⟨['y'], Option.any fun c => c.isAlpha && !isVowel c, 1, ['i', 'e', 's']⟩,
  ⟨['f'], Option.any Char.isAlpha, 1, ['v', 'e', 's']⟩,
  ⟨['f', 'e'], Option.any Char.isAlpha, 2, ['v', 'e', 's']⟩]

/-- Singular rules; the first one that fits decides, and a word that none fits stays. -/
def singularRules : List SuffixRule := [
  ⟨['i', 'e', 's'], anything, 3, ['y']⟩,
  ⟨['i', 'v', 'e', 's'], anything, 3, ['f', 'e']⟩,
  ⟨['v', 'e', 's'], anything, 3, ['f']⟩,
  ⟨['s', 'e', 's'], anything, 2, []⟩,
  ⟨['x', 'e', 's'], anything, 2, []⟩,
  ⟨['z', 'e', 's'], anything, 2, []⟩,
  ⟨['c', 'h', 'e', 's'], anything, 2, []⟩,
  ⟨['s', 'h', 'e', 's'], anything, 2, []⟩,
  ⟨['s'], fun before => before != some 's', 1, []⟩]

/-- The word changed by the first rule that fits it, capitals counting as small letters. -/
def applyFirst (rules : List SuffixRule) (word : List Char) : Option (List Char) :=
  (rules.find? fun rule => rule.fits (word.map Char.toLower)).map fun rule => rule.apply word

/-- The plural of a noun by the first rule that fits. The empty text and the nouns that are their
own plural stay as they are. -/
def pluralize (noun : String) : String :=
  let word := noun.toList
  if word.isEmpty || fixedPlurals.contains (String.ofList (word.map Char.toLower)) then noun
  else String.ofList ((applyFirst pluralRules word).getD (word ++ ['s']))

/-- The singular of a noun by the first rule that fits. A noun that no rule fits stays as it is. -/
def singularize (noun : String) : String :=
  String.ofList ((applyFirst singularRules noun.toList).getD noun.toList)

end CrdToolset.Naming
