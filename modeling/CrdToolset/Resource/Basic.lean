import CrdToolset.Fault
import CrdToolset.Schema.Basic
import CrdToolset.Text.Lowercase

/-!
# Resources

A resource is what a definition declares: how instances are named and addressed, whether they live
in a namespace, and the schema of the version that is stored.

A definition may leave out names that follow from others. What is declared is checked before it is
used, so that everything that generated code must name has a name.
-/

namespace CrdToolset

/-- Where the instances of a resource live, and so whether requests for them name a namespace. -/
inductive Scope where
  /-- In a namespace. -/
  | namespaced
  /-- In the cluster as a whole. -/
  | cluster
  deriving DecidableEq

/-- The name of a scope, as definitions and the generated documentation have it. -/
def Scope.name : Scope → String
  | .namespaced => "Namespaced"
  | .cluster => "Cluster"

/-- Reads a scope; whatever is not a cluster scope, in any capitalisation, is a namespace. -/
def Scope.ofText (text : String) : Scope :=
  if text.toList.map Char.toLower = ['c', 'l', 'u', 's', 't', 'e', 'r'] then .cluster else .namespaced

/-- One version of a resource in a definition. What is left out is empty or false. -/
structure Version where
  /-- The name of the version. -/
  name : String := ""
  /-- Requests for this version are answered. -/
  served : Bool := false
  /-- Instances are stored in this version. -/
  storage : Bool := false
  /-- What instances look like. -/
  schema : Option Schema := none

/-- A document that may define a resource, with the fields that matter here. What is left out is
empty. -/
structure Definition where
  /-- The kind of the document itself. -/
  documentKind : String := ""
  /-- The name of the document. -/
  name : String := ""
  /-- The API group of the resource. -/
  group : String := ""
  /-- The kind of the resource. -/
  kind : String := ""
  /-- The plural in paths. -/
  plural : String := ""
  /-- The singular. -/
  singular : String := ""
  /-- Abbreviations. -/
  shortNames : List String := []
  /-- The kind of a list of instances; empty where it is left open. -/
  listKind : String := ""
  /-- The scope, as written. -/
  scope : String := ""
  /-- The versions, in order. -/
  versions : List Version := []

/-- A resource, as the analysis and the generated code need it. -/
structure Resource where
  /-- The name of the definition. -/
  name : String
  /-- The API group; empty for the core group. -/
  group : String
  /-- The kind of an instance. -/
  kind : String
  /-- The plural in paths. -/
  plural : String
  /-- The singular. -/
  singular : String
  /-- Abbreviations. -/
  shortNames : List String
  /-- The kind of a list of instances. -/
  listKind : String
  /-- Where instances live. -/
  scope : Scope
  /-- The names of all versions, in order. -/
  versions : List String
  /-- The names of the versions that are served, in order. -/
  servedVersions : List String
  /-- The name of the version that is stored. -/
  storageVersion : String
  /-- What stored instances look like. -/
  schema : Option Schema

namespace Resource

/-- The instances of the resource live in namespaces, so that requests must name one. -/
def isNamespaced (r : Resource) : Bool := r.scope = .namespaced

/-- The group and the stored version in one text, as instances name them. Without a group, it is the
version alone. -/
def apiVersion (r : Resource) : String :=
  if r.group.isEmpty then r.storageVersion else r.group ++ "/" ++ r.storageVersion

/-- The group, the stored version and the kind in one text for readers. -/
def groupVersionKind (r : Resource) : String :=
  r.group ++ "/" ++ r.storageVersion ++ ", Kind=" ++ r.kind

/-- The name of a package for the resource: the plural in small letters, with underscores. -/
def packageName (r : Resource) : String :=
  String.ofList ((Text.lower r.plural.toList).map fun c => if c = '-' then '_' else c)

/-- Checks that everything is named which the generated code must name. The first name that is
missing is the fault. -/
def checkIdentity (r : Resource) : Except Fault Unit :=
  if r.kind.isEmpty then .error (.missingIdentity "kind")
  else if r.plural.isEmpty then .error (.missingIdentity "plural name")
  else if r.versions.isEmpty then .error .noVersions
  else if r.versions.any String.isEmpty then .error (.missingIdentity "version name")
  else .ok ()

/-- The schema of the stored version, which the analysis starts from. Without one there is nothing
to analyse. -/
def storageSchema (r : Resource) : Except Fault Schema :=
  match r.schema with
  | some s => .ok s
  | none => .error (.missingStorageSchema r.storageVersion)

end Resource

/-- The version that is stored: the first that says so, or else the first of all. There may be no
versions. -/
def Definition.stored? (d : Definition) : Option Version :=
  (d.versions.find? Version.storage).or d.versions.head?

/-- What the document declares, before it is checked. The name of the list type is made from the
kind where it is left out. -/
def Definition.declared (d : Definition) : Resource where
  name := d.name
  group := d.group
  kind := d.kind
  plural := d.plural
  singular := d.singular
  shortNames := d.shortNames
  listKind := if d.listKind.isEmpty then d.kind ++ "List" else d.listKind
  scope := Scope.ofText d.scope
  versions := d.versions.map Version.name
  servedVersions := (d.versions.filter Version.served).map Version.name
  storageVersion := (d.stored?.map Version.name).getD ""
  schema := d.stored?.bind Version.schema

/-- The resource that a document defines. The document must be of the right kind, and name all that
must be named. -/
def Resource.ofDefinition (d : Definition) : Except Fault Resource :=
  if d.documentKind = "CustomResourceDefinition" then
    d.declared.checkIdentity.map fun _ => d.declared
  else .error (.notDefinition d.documentKind)

end CrdToolset
