import ModPack.Package
import ModPack.Work

/-!
# New packages

A package is begun in a directory, or in a subdirectory of its own name when the directory already
has something in it: a manifest without dependencies, an ignore file and a source directory.
-/
namespace ModPack

/-- What stops a new package. -/
inductive NewFailure
  | name (error : NameError)
  /-- The directory is a package already. -/
  | occupied (path : Path)
  | system (error : OsError)
  deriving DecidableEq, Repr

namespace Package

/-- The directory that a new package goes into, made if it is missing. -/
def newDirectory (settings : Settings) (dir : Path) (name : String) :
    Work Unit NewFailure Path := do
  let disk ← Work.disk
  if disk.pathExists dir then
    let entries ← Work.ofExcept ((disk.list dir).mapError .system)
    if entries.isEmpty then return dir
    if disk.pathExists (dir / settings.manifestName) then Work.note .packageAlreadyHere
    Work.note (.usingSubdirectory dir)
    Work.onDisk (Disk.makeDirectory true (dir / name)) .system
    return dir / name
  else
    Work.onDisk (Disk.makeDirectories false dir) .system
    return dir

/-- Begins a package called `name`. -/
def new (settings : Settings) (dir : Path) (name : String) : Work Unit NewFailure Package := do
  Work.ofExcept ((Name.checkPackage name).mapError .name)
  let dir ← newDirectory settings dir name
  if (← Work.disk).pathExists (dir / settings.manifestName) then throw (.occupied dir)
  let manifest : Manifest := { name, version := settings.initialVersion }
  Work.onDisk (Disk.writeText (dir / settings.manifestName) manifest.written) .system
  Work.onDisk (Disk.writeText (dir / settings.ignoreFileName) settings.ignoreFileContents) .system
  Work.onDisk (Disk.makeDirectory true (dir / settings.sourceDirectory)) .system
  return { route := [], dir, manifest, dependencies := [], exports := {} }

end Package

end ModPack
