import ModPack.Disk
import ModPack.Identifier.Reference
import ModPack.Manifest
import ModPack.Yaml.Error

/-!
# Errors of loading

Everything that can be wrong with a package, an export or a file inside it. Each error is about a
path, some about a line of it, and some are caused by another error.
-/
namespace ModPack

/-- Why a script cannot be read. -/
inductive UnreadableScript
  | system (error : OsError)
  | undecodable (fault : Utf8.Fault)
  deriving DecidableEq, Repr

inductive LoadError
  | notDirectory (path : Path)
  | missingManifest (path : Path) (manifestName : String)
  | malformedManifest (path : Path)
  | invalidManifest (path : Path) (cause : ManifestError)
  | packageName (path : Path) (cause : NameError)
  | dependencyName (path : Path) (cause : NameError)
  /-- Packages of one name are needed in several versions. -/
  | versionMismatch (path : Path) (name : String) (versions : List String)
  /-- The package is being loaded already; `chain` leads from the first one to it. -/
  | cyclic (path : Path) (chain : List Path)
  | unreadableScript (path : Path) (cause : UnreadableScript)
  | badSection (path : Path) (line : Nat) (text : String)
  | spriteName (path : Path) (cause : NameError)
  | missingSheet (path : Path)
  | malformedSheet (path : Path)
  | missingPaletteList (path : Path)
  | missingAnimationList (path : Path)
  | actorName (path : Path) (cause : NameError)
  | missingSidecar (path : Path) (sidecarName : String)
  | malformedSidecar (path : Path)
  | sidecarNotMapping (path : Path)
  | missingField (path : Path) (field : String)
  | fieldReference (path : Path) (field : String) (cause : ReferenceError)
  /-- A strings file holds a block that is no named string. -/
  | blockNotString (path : Path) (line : Nat)
  | stringName (path : Path) (line : Nat) (cause : NameError)
  | sectionRange (path : Path) (line : Nat) (bank : Nat)
  deriving DecidableEq, Repr

def UnreadableScript.message : UnreadableScript → String
  | system .notFound => "script file not found"
  | system error => "unable to read script: " ++ error.message
  | undecodable fault => "unable to read script: " ++ fault.message

namespace LoadError

/-- The name of the file that describes a sprite. -/
def sheetName : String := "SpriteSheet.xml"

/-- The highest section that a string can be in. -/
def maxSection : Nat := 0xFE

/-- What messages show of malformed XML. -/
def markupTag : String := "<xml>"

def path : LoadError → Path
  | notDirectory path | missingManifest path _ | malformedManifest path | invalidManifest path _
  | packageName path _ | dependencyName path _ | versionMismatch path _ _ | cyclic path _
  | unreadableScript path _ | badSection path _ _ | spriteName path _ | missingSheet path
  | malformedSheet path | missingPaletteList path | missingAnimationList path | actorName path _
  | missingSidecar path _ | malformedSidecar path | sidecarNotMapping path | missingField path _
  | fieldReference path _ _ | blockNotString path _ | stringName path _ _ | sectionRange path _ _ =>
    path

def line? : LoadError → Option Nat
  | badSection _ line _ | blockNotString _ line | stringName _ line _ | sectionRange _ line _ =>
    some line
  | _ => none

/-- What is wrong, without the place. -/
def detail : LoadError → String
  | notDirectory _ => "not a directory"
  | missingManifest _ manifestName => "missing " ++ manifestName ++ " - not a package?"
  | malformedManifest _ => "malformed manifest: " ++ Yaml.Error.malformed.message
  | invalidManifest _ cause => "malformed manifest: " ++ cause.message
  | packageName _ cause | dependencyName _ cause | spriteName _ cause | actorName _ cause
  | stringName _ _ cause => cause.message
  | versionMismatch _ name versions =>
    "dependencies with the same name but different versions found: '" ++ name ++ "' (" ++
      ", ".intercalate versions ++ ")"
  | cyclic path chain =>
    "cyclic dependency: " ++ " -> ".intercalate ((chain ++ [path]).map Path.toString)
  | unreadableScript _ cause => cause.message
  | badSection _ _ text => "bad string section index '" ++ text ++ "'"
  | missingSheet _ => "missing " ++ sheetName
  | malformedSheet _ => "malformed " ++ sheetName ++ ": " ++ markupTag
  | missingPaletteList _ => sheetName ++ " has no PaletteList"
  | missingAnimationList _ => sheetName ++ " has no AnimationList"
  | missingSidecar _ sidecarName => sidecarName ++ " not found"
  | malformedSidecar _ => "parse error: " ++ Yaml.Error.malformed.message
  | sidecarNotMapping _ => "expected a mapping with name and tattle"
  | missingField _ field => "missing string field: " ++ field
  | fieldReference _ field cause => field ++ ": " ++ cause.message
  | blockNotString _ _ => "only \x60#string:XX:(export_name)\x60 blocks allowed in string files"
  | sectionRange _ _ bank =>
    "string section " ++ Hex.padded 2 bank ++ " is out of range (max " ++
      Hex.padded 2 maxSection ++ ")"

def message (error : LoadError) : String :=
  let place := match error.line? with
    | none => error.path.toString
    | some line => error.path.toString ++ ":" ++ toString line
  place ++ ": " ++ error.detail

end LoadError

end ModPack
