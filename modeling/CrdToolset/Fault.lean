import CrdToolset.Files.Access

/-!
# What can go wrong

Every cause for which a run gives up on a resource, with its wording, the category and the code
under which it is reported, and the advice that comes with it. The wording is for people and may
mention texts from the input. The category and the code are for programs and depend on the cause
alone.
-/

namespace CrdToolset

/-- The causes of failure, each with what has to be known to report it. Every failure of a run is
one of them. -/
inductive Fault where
  /-- A file could not be read. -/
  | unreadable (path : String) (cause : FileError)
  /-- The walk through a directory met an entry that could not be looked at. -/
  | unlistable (dir entry : String) (cause : FileError)
  /-- The text of a resource definition is not of the right form. -/
  | malformed (path : String)
  /-- The text of a configuration file is not of the right form. -/
  | badConfig (path : String)
  /-- There is no schema to analyse. -/
  | missingSchema (path : String)
  /-- The stored version of the resource has no schema. -/
  | missingStorageSchema (version : String)
  /-- A schema nests deeper than the limit. -/
  | tooDeep (path : String) (limit : Nat)
  /-- A selection names no operation. -/
  | noOperations
  /-- A letter of a selection stands for no operation. -/
  | unknownLetter (letter : Char)
  /-- A letter stands twice in a selection. -/
  | repeatedLetter (letter : Char)
  /-- A name that identifies the resource is empty. -/
  | missingIdentity (field : String)
  /-- The resource has no version. -/
  | noVersions
  /-- The document defines no resource. -/
  | notDefinition (kind : String)
  /-- Two places ask for one type name. -/
  | nameCollision (name first second : String)
  /-- A type found for a path does not fit the schema at that path. -/
  | cacheMismatch (path expected found : String)
  deriving DecidableEq

/-- Which part of the program a fault belongs to. Faults of one category share the second part of
their codes. -/
inductive FaultCategory where
  /-- A schema is malformed, or missing where one is needed. -/
  | schema
  /-- The selection of operations or the identity of a resource is not valid. -/
  | validation
  /-- Two places of a schema ask for one type name. -/
  | nameCollision
  /-- What a walker remembers disagrees with the schema in front of it. -/
  | cacheMismatch
  /-- Something could not be read. -/
  | io
  deriving DecidableEq

namespace Fault

/-- The wording of an error that a walk through a directory meets at an entry, which names the
entry. -/
def walkMessage (entry : String) (cause : FileError) : String :=
  "IO error for operation on " ++ entry ++ ": " ++ cause.message

/-- The wording of a fault, for people, with the paths, names and letters that it is about. -/
def message : Fault → String
  | .unreadable path cause => "Failed to read file '" ++ path ++ "': " ++ cause.message
  | .unlistable dir entry cause => "Failed to read file '" ++ dir ++ "': " ++ walkMessage entry cause
  | .malformed path => "Failed to parse '" ++ path ++ "'"
  | .badConfig path => "Invalid config file '" ++ path ++ "'"
  | .missingSchema path => "Schema is missing at '" ++ path ++ "'"
  | .missingStorageSchema version => "Storage version '" ++ version ++ "' has no openAPIV3Schema"
  | .tooDeep path limit => "Schema at '" ++ path ++ "' nests deeper than " ++ toString limit ++ " levels"
  | .noOperations => "CRUD operations cannot be empty"
  | .unknownLetter letter =>
    "Invalid character '" ++ letter.toString ++ "', valid characters are: c, r, u, d"
  | .repeatedLetter letter => "Duplicate character '" ++ letter.toString ++ "' in CRUD operations"
  | .missingIdentity field => "CRD " ++ field ++ " is required"
  | .noVersions => "CRD must have at least one version"
  | .notDefinition kind => "Document is not a CustomResourceDefinition, got kind '" ++ kind ++ "'"
  | .nameCollision name first second =>
    "Type name '" ++ name ++ "' is generated by both '" ++ first ++ "' and '" ++ second ++ "'"
  | .cacheMismatch path expected found =>
    "Type cache at '" ++ path ++ "' holds '" ++ found ++ "' but the walker expected '" ++ expected ++ "'"

/-- The name under which a cause is shown. All that has to do with reading files goes by one name. -/
def name : Fault → String
  | .unreadable .. | .unlistable .. => "IoError"
  | .malformed .. => "ParseFailed"
  | .badConfig .. => "ConfigError"
  | .missingSchema .. => "MissingSchema"
  | .missingStorageSchema .. => "MissingStorageSchema"
  | .tooDeep .. => "SchemaTooDeep"
  | .noOperations => "EmptyOperations"
  | .unknownLetter .. => "InvalidOperation"
  | .repeatedLetter .. => "DuplicateOperation"
  | .missingIdentity .. => "MissingIdentity"
  | .noVersions => "NoVersions"
  | .notDefinition .. => "NotACrd"
  | .nameCollision .. => "NamingCollision"
  | .cacheMismatch .. => "CacheInconsistency"

/-- The category of a fault, which follows from its cause alone. -/
def category : Fault → FaultCategory
  | .missingSchema .. | .missingStorageSchema .. | .tooDeep .. => .schema
  | .noOperations | .unknownLetter .. | .repeatedLetter .. | .missingIdentity .. | .noVersions
  | .notDefinition .. => .validation
  | .nameCollision .. => .nameCollision
  | .cacheMismatch .. => .cacheMismatch
  | .unreadable .. | .unlistable .. | .malformed .. | .badConfig .. => .io

/-- The code under which a fault is reported, for programs. It does not depend on what the fault is
about. -/
def code : Fault → String
  | .unreadable .. | .unlistable .. => "toolgen::io::read_error"
  | .malformed .. => "toolgen::io::parse_failed"
  | .badConfig .. => "toolgen::io::config_error"
  | .missingSchema .. => "toolgen::schema::missing_schema"
  | .missingStorageSchema .. => "toolgen::schema::missing_storage_schema"
  | .tooDeep .. => "toolgen::schema::too_deep"
  | .noOperations => "toolgen::validation::empty_operations"
  | .unknownLetter .. => "toolgen::validation::invalid_character"
  | .repeatedLetter .. => "toolgen::validation::duplicate_character"
  | .missingIdentity .. => "toolgen::validation::missing_identity"
  | .noVersions => "toolgen::validation::no_versions"
  | .notDefinition .. => "toolgen::validation::not_a_crd"
  | .nameCollision .. => "toolgen::naming::collision"
  | .cacheMismatch .. => "toolgen::internal::cache_inconsistency"

/-- The advice that comes with a fault. Only the faults that a user can do something about have
one. -/
def help? : Fault → Option String
  | .badConfig .. =>
    some "Config keys are camelCase: modulePath, packageName, crud, includeComments, docFile"
  | .missingStorageSchema .. =>
    some "Add spec.versions[].schema.openAPIV3Schema to the version marked `storage: true`"
  | .noOperations => some "Omit the selection to generate all operations, or pass a subset of c, r, u, d"
  | .nameCollision .. => some "Rename one of the properties so their PascalCase forms differ"
  | _ => none

end Fault

/-- The second part of the codes of all faults of a category. -/
def FaultCategory.area : FaultCategory → String
  | .schema => "schema"
  | .validation => "validation"
  | .nameCollision => "naming"
  | .cacheMismatch => "internal"
  | .io => "io"

/-- The code of a fault names the area of its category, so that faults of different categories are never
reported under one code. -/
theorem Fault.exists_code_eq (fault : Fault) :
    ∃ reason, fault.code = "toolgen::" ++ fault.category.area ++ "::" ++ reason := by
  cases fault
  case unreadable => exact ⟨"read_error", rfl⟩
  case unlistable => exact ⟨"read_error", rfl⟩
  case malformed => exact ⟨"parse_failed", rfl⟩
  case badConfig => exact ⟨"config_error", rfl⟩
  case missingSchema => exact ⟨"missing_schema", rfl⟩
  case missingStorageSchema => exact ⟨"missing_storage_schema", rfl⟩
  case tooDeep => exact ⟨"too_deep", rfl⟩
  case noOperations => exact ⟨"empty_operations", rfl⟩
  case unknownLetter => exact ⟨"invalid_character", rfl⟩
  case repeatedLetter => exact ⟨"duplicate_character", rfl⟩
  case missingIdentity => exact ⟨"missing_identity", rfl⟩
  case noVersions => exact ⟨"no_versions", rfl⟩
  case notDefinition => exact ⟨"not_a_crd", rfl⟩
  case nameCollision => exact ⟨"collision", rfl⟩
  case cacheMismatch => exact ⟨"cache_inconsistency", rfl⟩

end CrdToolset
