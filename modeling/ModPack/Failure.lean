import ModPack.Assembly
import ModPack.Package.Find
import ModPack.Package.New

/-!
# Failures and their causes

Every error of the library as one type, so that they can be shown alike: the message of an error,
and the messages of the errors behind it. Main statement: behind a reference to a badly named
export stands the refused name, and behind that whatever is behind the name.
-/
namespace ModPack

inductive Failure
  | name (error : NameError)
  | reference (error : ReferenceError)
  | manifest (error : ManifestError)
  | load (error : LoadError)
  | find (error : FindError)
  /-- A new package would take the place of another one. -/
  | occupied (path : Path)
  | assembly (error : AssemblyError)
  | resolve (error : ResolveError)
  | index (error : IndexError)
  | yaml (error : Yaml.Error)
  | markup (error : Markup.Error)
  | undecodable (fault : Utf8.Fault)
  | system (error : OsError)
  deriving DecidableEq, Repr

namespace Failure

def message : Failure → String
  | name error => error.message
  | reference error => error.message
  | manifest error => error.message
  | load error => error.message
  | find error => error.message
  | occupied path => "directory " ++ path.toString ++ " is already a package"
  | assembly error => error.message
  | resolve error => error.message
  | index error => error.message
  | yaml error => error.message
  | markup error => error.message
  | undecodable fault => fault.message
  | system error => error.message

def ofLoad : LoadFailure → Failure
  | .refused error => load error
  | .yaml error => yaml error
  | .markup error => markup error
  | .system error => system error

def ofFind : FindFailure → Failure
  | .find error => find error
  | .load failure => ofLoad failure

def ofNew : NewFailure → Failure
  | .name error => name error
  | .occupied path => occupied path
  | .system error => system error

def ofAssembly : AssemblyFailure → Failure
  | .refused error => assembly error
  | .script error => load error
  | .unresolved error => resolve error
  | .index error => index error
  | .system error => system error

/-- A refused name with the shared rule behind it. -/
def nameChain (error : NameError) : List Failure :=
  name error :: (error.cause?.map name).toList

/-- A bad reference with the refused name behind it. -/
def referenceChain (error : ReferenceError) : List Failure :=
  reference error :: (error.cause?.map nameChain).getD []

def loadCauses : LoadError → List Failure
  | .missingManifest .. | .missingSidecar .. => [system .notFound]
  | .malformedManifest _ | .malformedSidecar _ => [yaml .malformed]
  | .malformedSheet _ => [markup .malformed]
  | .invalidManifest _ cause => [manifest cause]
  | .packageName _ cause | .dependencyName _ cause | .spriteName _ cause | .actorName _ cause
  | .stringName _ _ cause => nameChain cause
  | .fieldReference _ _ cause => referenceChain cause
  | .unreadableScript _ (.system cause) => [system cause]
  | .unreadableScript _ (.undecodable fault) => [undecodable fault]
  | .notDirectory .. | .versionMismatch .. | .cyclic .. | .badSection .. | .missingSheet ..
  | .missingPaletteList .. | .missingAnimationList .. | .sidecarNotMapping .. | .missingField ..
  | .blockNotString .. | .sectionRange .. => []

/-- The errors behind an error, nearest first. -/
def causes : Failure → List Failure
  | name error => (error.cause?.map name).toList
  | reference error => (error.cause?.map nameChain).getD []
  | load error => loadCauses error
  | find (.noRoot _ cause) => [system cause]
  | resolve ⟨_, _, .badIdentifier _ cause⟩ => referenceChain cause
  | _ => []

/-- Errors about packages and errors of the system are reported; anything else is unexpected. -/
def isReported : Failure → Bool
  | index _ | yaml _ | markup _ | undecodable _ => false
  | _ => true

theorem causes_reference_exportName (text : String) (cause : NameError) :
    causes (reference (.exportName text cause)) = name cause :: causes (name cause) := rfl

end Failure

end ModPack
