import ModPack.Path
import ModPack.Value
import ModPack.Version
import ModPack.Yaml.Written

/-!
# Package manifests

A manifest names a package and its version, and declares dependencies by the name and the path of
the directory they are in. It is read from a document value and written as a tree of texts.
-/
namespace ModPack

/-- Why a document is no manifest. -/
inductive ManifestError
  | notMapping
  | missingName
  | nameNotText
  | missingVersion
  /-- The version is no version text; how messages show it. -/
  | version (shown : String)
  | dependenciesNotMapping
  /-- A dependency has no path. -/
  | missingPath (dependency : String)
  deriving DecidableEq, Repr

def ManifestError.message : ManifestError → String
  | notMapping => "manifest must be a mapping"
  | missingName => "Missing required field: name"
  | nameNotText => "name must be a string"
  | missingVersion => "Missing required field: version"
  | version shown => "version must be semver format (got: " ++ shown ++ ")"
  | dependenciesNotMapping => "dependencies must be a mapping"
  | missingPath dependency => "dependency '" ++ dependency ++ "' requires a path"

/-- A dependency: the name it is declared under and where its directory is. -/
structure Dependency where
  name : String
  path : Path
  deriving DecidableEq, Repr, Inhabited

/-- What a package says about itself. The dependencies have different names. -/
structure Manifest where
  name : String
  version : String
  dependencies : List Dependency := []
  deriving DecidableEq, Repr, Inhabited

namespace Manifest

/-- Declares a dependency: in the place of one with the same name, else behind the others. -/
def declare (dependency : Dependency) : List Dependency → List Dependency
  | [] => [dependency]
  | other :: rest =>
    if other.name = dependency.name then dependency :: rest else other :: declare dependency rest

/-- Only texts of the right form are versions: a number is none, however it was written. -/
def versionOf (value : Value) : Except ManifestError String :=
  match value with
  | .text text => if Version.isVersion text then .ok text else .error (.version value.literal)
  | _ => .error (.version value.literal)

/-- A dependency from the value declared for it; `around` holds the mappings it is in. -/
def dependencyOf (around : List Value) (name : String) (value : Value) :
    Except ManifestError Dependency :=
  match value.within around with
  | .map entries => match Value.lookup? "path" entries with
    | some (.text path) => .ok ⟨name, .ofString path⟩
    | _ => .error (.missingPath name)
  | _ => .error (.missingPath name)

/-- The dependencies declared in a value, each under the text of its key. -/
def dependenciesOf (document value : Value) : Except ManifestError (List Dependency) :=
  if value.isBlank then .ok []
  else match value.within [document] with
    | .map entries => entries.foldlM (fun known (key, declared) => do
        let dependency ← dependencyOf [value, document] key.plain declared
        return declare dependency known) []
    | _ => .error .dependenciesNotMapping

def ofValue (document : Value) : Except ManifestError Manifest := do
  let .map entries := document | throw .notMapping
  let some name := Value.lookup? "name" entries | throw .missingName
  let .text name := name | throw .nameNotText
  let some version := Value.lookup? "version" entries | throw .missingVersion
  let version ← versionOf (version.within [document])
  let dependencies ← dependenciesOf document
    ((Value.lookup? "dependencies" entries).getD .null)
  return { name, version, dependencies }

/-- The document that a manifest is written as. -/
def toTree (manifest : Manifest) : Yaml.Tree :=
  .map [
    ("name", .text manifest.name),
    ("version", .text manifest.version),
    ("dependencies", .map (manifest.dependencies.map fun dependency =>
      (dependency.name, .map [("path", .text dependency.path.toString)])))]

/-- The same document as a value. -/
def toValue (manifest : Manifest) : Value :=
  .map [
    (.text "name", .text manifest.name),
    (.text "version", .text manifest.version),
    (.text "dependencies", .map (manifest.dependencies.map fun dependency =>
      (.text dependency.name, .map [(.text "path", .text dependency.path.toString)])))]

def written (manifest : Manifest) : String :=
  manifest.toTree.written

end Manifest

end ModPack
