import ModPack.FileTree
import ModPack.Text.Utf8

/-!
# A disk: a file tree seen from a working directory

Paths are walked component by component: every component but the last must be a directory, and
`..` leads to the parent. Operations that change the disk are actions that may stop with a system
error; what was done before the stop stays done. Main statement: a walk that finds a directory
ends at one of the directories of the tree.
-/
namespace ModPack

/-- What the system refuses. -/
inductive OsError
  | notFound
  | alreadyExists
  | isDirectory
  | notDirectory
  | sameFile
  /-- Some entries of a directory could not be copied. -/
  | copyFailed
  deriving DecidableEq, Repr

/-- The wording is the system's own; messages show a tag in its place. -/
def OsError.message (_ : OsError) : String := "<os>"

structure Disk where
  tree : FileTree := {}
  workingDirectory : Location := []
  deriving DecidableEq, Inhabited

namespace Disk

def walk (tree : FileTree) (here : Location) : List String → Except OsError Location
  | [] => .ok here
  | part :: rest =>
    match tree.get? here with
    | none => .error .notFound
    | some (.file _) => .error .notDirectory
    | some .directory => walk tree (if part = ".." then here.tail else part :: here) rest

/-- The location a path leads to; only the last component may be missing from the tree. -/
def locate (disk : Disk) (path : Path) : Except OsError Location :=
  walk disk.tree (if path.isAbsolute then [] else disk.workingDirectory) path.parts

/-- The location and entry of an existing path. -/
def find (disk : Disk) (path : Path) : Except OsError (Location × Entry) := do
  let location ← disk.locate path
  match disk.tree.get? location with
  | none => .error .notFound
  | some entry => .ok (location, entry)

/-- The canonical location of a path whose every component exists. Here `..` takes back the last
component whatever that is. -/
def canonicalFrom (tree : FileTree) (here : Location) : List String → Except OsError Location
  | [] => .ok here
  | part :: rest =>
    if part = ".." then canonicalFrom tree here.tail rest
    else match tree.get? here, tree.get? (part :: here) with
      | some .directory, some _ => canonicalFrom tree (part :: here) rest
      | some (.file _), _ => .error .notDirectory
      | _, _ => .error .notFound

def canonical (disk : Disk) (path : Path) : Except OsError Location :=
  canonicalFrom disk.tree (if path.isAbsolute then [] else disk.workingDirectory) path.parts

def pathExists (disk : Disk) (path : Path) : Bool :=
  (disk.find path).isOk

/-- The canonical location of an existing directory. -/
def directory? (disk : Disk) (path : Path) : Option Location :=
  match disk.locate path with
  | .error _ => none
  | .ok location => if disk.tree.isDirectory location then some location else none

def isDirectory (disk : Disk) (path : Path) : Bool :=
  (disk.directory? path).isSome

def isFile (disk : Disk) (path : Path) : Bool :=
  match disk.find path with
  | .ok (_, .file _) => true
  | _ => false

def readFile (disk : Disk) (path : Path) : Except OsError ByteArray := do
  match ← disk.find path with
  | (_, .file content) => .ok content
  | (_, .directory) => .error .isDirectory

/-- The entries of a directory, ordered by name. -/
def list (disk : Disk) (path : Path) : Except OsError (List (String × Entry)) := do
  match ← disk.find path with
  | (location, .directory) => .ok (disk.tree.children location)
  | (_, .file _) => .error .notDirectory

theorem directory?_mem {disk : Disk} {path : Path} {location : Location}
    (h : disk.directory? path = some location) : location ∈ disk.tree.directories := by
  unfold directory? at h
  split at h
  · cases h
  · split at h
    · next hdir =>
      cases h
      exact FileTree.mem_directories_of_isDirectory hdir
    · cases h

/-- An action on a disk that may stop with a system error. -/
abbrev Op := ExceptT OsError (StateM Disk)

def put (location : Location) (entry : Entry) : Op Unit :=
  modify fun disk => { disk with tree := disk.tree.put location entry }

/-- Makes one directory; an existing directory is accepted when `existOk`. -/
def makeDirectory (existOk : Bool) (path : Path) : Op Unit := do
  let disk ← get
  let location ← disk.locate path
  match disk.tree.get? location with
  | none => put location .directory
  | some .directory => if existOk then pure () else throw .alreadyExists
  | some (.file _) => throw .alreadyExists

/-- Makes a directory and the missing ones above it, which may exist already. -/
def makeDirectories (existOk : Bool) (path : Path) : Op Unit := do
  match (← get).locate path with
  | .error .notFound =>
    if _ : path.parts = [] then throw .notFound
    else do
      makeDirectories true path.parent
      makeDirectory existOk path
  | _ => makeDirectory existOk path
termination_by path.parts.length
decreasing_by
  have := List.length_pos_iff.2 ‹¬path.parts = []›
  simp only [Path.parent, List.length_dropLast]
  omega

def writeBytes (path : Path) (content : ByteArray) : Op Unit := do
  let disk ← get
  let location ← disk.locate path
  if disk.tree.isDirectory location then throw .isDirectory
  put location (.file content)

def writeText (path : Path) (text : String) : Op Unit :=
  writeBytes path (Utf8.encode text)

/-- Removes a directory with everything in it. -/
def removeTree (path : Path) : Op Unit := do
  match ← (← get).find path with
  | (location, .directory) => modify fun disk => { disk with tree := disk.tree.remove location }
  | (_, .file _) => throw .notDirectory

/-- Copies a file to a location, or into it under its own name when it is a directory. -/
def copyFile (source : Location) (content : ByteArray) (target : Location) : Op Unit := do
  let disk ← get
  let target :=
    if disk.tree.isDirectory target then source.headD "" :: target else target
  if target = source then throw .sameFile
  if disk.tree.isDirectory target then throw .isDirectory
  put target (.file content)

/-- Makes `target` a directory unless it is one. -/
def enter (target : Location) : Op Unit := do
  match (← get).tree.get? target with
  | none => put target .directory
  | some .directory => pure ()
  | some (.file _) => throw .alreadyExists

/-- One entry of a copied directory. Nothing can be copied below a file. -/
def copyEntry (source target : Location) (path : Location) (entry : Entry) : Op Unit := do
  unless (← get).tree.isDirectory (path.tail ++ target) do throw .notDirectory
  match entry with
  | .directory => enter (path ++ target)
  | .file content => copyFile (path ++ source) content (path ++ target)

/-- Copies what a directory held at the start into `target`. Entries that cannot be copied are left
out, and the copy counts as failed at the end. -/
def copyTree (source target : Location) : Op Unit := do
  let contents := (← get).tree.contents source
  enter target
  let copied ← contents.mapM fun (path, entry) =>
    tryCatch (do copyEntry source target path entry; pure true) fun _ => pure false
  unless copied.all id do throw .copyFailed

/-- Copies every entry of a directory into another one. -/
def copyChildren (source : Path) (target : Path) : Op Unit := do
  let disk ← get
  let children ← disk.list source
  let (origin, _) ← disk.find source
  let (destination, _) ← disk.find target
  for (name, entry) in children do
    match entry with
    | .directory => copyTree (name :: origin) (name :: destination)
    | .file content => copyFile (name :: origin) content (name :: destination)

end Disk

end ModPack
