import ModPack.Export
import ModPack.LoadFailure
import ModPack.Yaml.Document

/-!
# Actors

An actor is a directory with a sidecar file, which names the strings that introduce the actor, and a
battle script. Both files carry the actor's name. The strings are named as the actor's own package
would name them.
-/
namespace ModPack

structure Actor where
  dir : Path
  /-- The package the actor was loaded for; its script belongs to it. -/
  sourcePackage : String
  displayName : Identifier
  tattle : Identifier
  state : AssemblyState := .unassembled
  deriving DecidableEq, Repr, Inhabited

namespace Actor

def name (actor : Actor) : String :=
  actor.dir.name

instance : Export Actor where
  kind _ := .actor
  name := name
  state := Actor.state
  withState state actor := { actor with state }

instance : LawfulExport Actor where
  kind_withState _ _ := rfl
  name_withState _ _ := rfl
  state_withState _ _ := rfl

def sidecarName (name : String) : String :=
  name ++ ".yaml"

def sidecarPath (actor : Actor) : Path :=
  actor.dir / sidecarName actor.name

def scriptPath (actor : Actor) : Path :=
  actor.dir / (actor.name ++ ".bscr")

/-- The document in a sidecar file. -/
def readSidecar (disk : Disk) (dir : Path) : Except LoadFailure Value := do
  let sidecar := dir / sidecarName dir.name
  match disk.readFile sidecar with
  | .error .notFound => throw (.refused (.missingSidecar dir (sidecarName dir.name)))
  | .error error => throw (.system error)
  | .ok content =>
    match Yaml.read content with
    | .ok value => return value
    | .error .malformed => throw (.refused (.malformedSidecar sidecar))
    | .error error => throw (.yaml error)

/-- The string that a field of a sidecar file names. -/
def field (sidecar : Path) (entries : List (Value × Value)) (sourcePackage field : String) :
    Loading Identifier :=
  match Value.lookup? field entries with
  | some (.text reference) =>
    Loading.orRefuse (Identifier.parse reference sourcePackage) (.fieldReference sidecar field)
  | _ => Loading.refuse (.missingField sidecar field)

def load (disk : Disk) (sourcePackage : String) (dir : Path) : Loading Actor := do
  Loading.orRefuse (Name.checkExport dir.name) (.actorName dir)
  let sidecar := dir / sidecarName dir.name
  match ← Report.ofExcept (readSidecar disk dir) with
  | .map entries =>
    let displayName ← field sidecar entries sourcePackage "name"
    let tattle ← field sidecar entries sourcePackage "tattle"
    return { dir, sourcePackage, displayName, tattle }
  | _ => Loading.refuse (.sidecarNotMapping sidecar)

end Actor

end ModPack
