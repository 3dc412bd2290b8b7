import ModPack.Package.Load

/-!
# Finding the package around a path

The nearest directory at or above a path that has a manifest is loaded. Only a directory without
one is passed over: any other trouble with it, or with what it depends on, ends the search.
-/
namespace ModPack

/-- Why no package was found. -/
inductive FindError
  /-- There is nothing at the path the search should start from. -/
  | noRoot (root : Path) (cause : OsError)
  | notFound (root : Path) (manifestName : String)
  deriving DecidableEq, Repr

def FindError.root : FindError → Path
  | noRoot root _ | notFound root _ => root

def FindError.message : FindError → String
  | noRoot root _ => "root path " ++ root.toString ++ " does not exist"
  | notFound root manifestName =>
    "could not find " ++ manifestName ++ " in '" ++ root.toString ++
      "' or any parent directory"

inductive FindFailure
  | find (error : FindError)
  | load (failure : LoadFailure)
  deriving DecidableEq, Repr

namespace Package

/-- The failure says that this very directory has no manifest. -/
def isMissingHere (location : Location) : LoadFailure → Bool
  | .refused (.missingManifest path _) => path = location.toPath
  | _ => false

/-- Searches from a location upwards; `root` is where the whole search began. -/
def findFrom (settings : Settings) (disk : Disk) (root : Path) :
    Location → Report FindFailure Package
  | [] => visit [] (Report.fail (.find (.notFound root settings.manifestName)))
  | name :: parent => visit (name :: parent) (findFrom settings disk root parent)
where
  /-- Loads the package of a location, or does something else if it has no manifest. -/
  visit (location : Location) (otherwise : Report FindFailure Package) :
      Report FindFailure Package :=
    let ⟨events, result⟩ := load settings disk location.toPath
    match result with
    | .ok package => ⟨events, .ok package⟩
    | .error failure =>
      if isMissingHere location failure then ⟨events ++ otherwise.events, otherwise.result⟩
      else ⟨events, .error (.load failure)⟩

/-- Loads the nearest package at or above a path. -/
def find (settings : Settings) (disk : Disk) (root : Path) : Report FindFailure Package :=
  match disk.canonical root with
  | .error cause => Report.fail (.find (.noRoot root cause))
  | .ok location => findFrom settings disk root location

end Package

end ModPack
