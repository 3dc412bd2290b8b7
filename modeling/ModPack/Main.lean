import ModPack.CommandLine

/-!
# The program

Reads as much of the file system as a call needs, runs the call, writes what it changed and prints
what it has to say. How much is needed shows in the events of a trial run: of a package that is
loaded its sources and what was built from them before are read; of any other directory only the
names in it are, and a manifest.
-/
namespace ModPack.Program

/-- Directories to look at, and packages to read. -/
structure Survey where
  near : List Path := []
  packages : List Path := []
  deriving DecidableEq

/-- How far down directories are read; directories that link to one above them end there. -/
def greatestDepth : Nat := 64

/-- Adds what lies in a directory, `depth` levels down. Files other than manifests are read only
with `contents`. A directory that cannot be read counts as empty. -/
partial def readEntries (settings : Settings) (contents : Bool) (depth : Nat) (dir : Path)
    (tree : FileTree) : IO FileTree := do
  let here := (← IO.currentDir) / dir.toString
  let found ← try here.readDir catch _ => pure #[]
  let mut tree := tree
  for entry in found do
    let location := entry.fileName :: dir.parts.reverse
    if ← entry.path.isDir then
      unless tree.isDirectory location do tree := tree.put location .directory
      if 0 < depth then
        tree ← readEntries settings contents (depth - 1) (dir / entry.fileName) tree
    else if contents || entry.fileName = settings.manifestName then
      tree := tree.put location (.file (← IO.FS.readBinFile entry.path))
    else if (tree.get? location).isNone then
      tree := tree.put location (.file .empty)
  return tree

/-- Adds a directory with those above it; nothing if there is no such directory. -/
def readDirectory (settings : Settings) (contents : Bool) (depth : Nat) (tree : FileTree)
    (path : Path) : IO FileTree := do
  let shown := (← IO.currentDir) / path.toString
  unless ← shown.isDir do return tree
  let canonical := Path.ofString (← IO.FS.realPath shown).toString
  let mut tree := tree
  for size in List.range canonical.parts.length do
    let above := (canonical.parts.take (size + 1)).reverse
    unless tree.isDirectory above do tree := tree.put above .directory
  readEntries settings contents depth canonical tree

/-- A path with the paths that lead to it, the shortest first. -/
def around (path : Path) : List Path :=
  (List.range (path.parts.length + 1)).map fun size => { path with parts := path.parts.take size }

/-- The disk as far as a survey goes. -/
def readDisk (settings : Settings) (survey : Survey) : IO Disk := do
  let here := (Path.ofString (← IO.currentDir).toString).parts.reverse
  let mut tree : FileTree := {}
  for path in survey.near do
    for near in around path do tree ← readDirectory settings false 0 tree near
  for dir in survey.packages do
    if Disk.isFile ⟨tree, here⟩ (dir / settings.manifestName) then
      let built := dir / settings.buildDirectory
      for near in around built do tree ← readDirectory settings false 0 tree near
      for whole in [dir / settings.sourceDirectory, built / "sprite", built / "strings",
          built / "battle"] do
        tree ← readDirectory settings true greatestDepth tree whole
  return ⟨tree, here⟩

/-- What the events of a run show to be needed. -/
def Survey.widen (survey : Survey) (events : List Event) : Survey :=
  events.foldl (fun survey event => match event with
    | .loadingPackage dir => { survey with packages := survey.packages.insert dir }
    | .loadingDependency _ path => { survey with near := survey.near.insert path }
    | .createdPackage _ dir => { survey with near := survey.near.insert dir }
    | _ => survey) survey

/-- Runs a call on a disk read widely enough. -/
partial def settle (settings : Settings) (words : List String) (survey : Survey) :
    IO (Disk × CommandLine.Outcome × Nat) := do
  let disk ← readDisk settings survey
  let start ← IO.monoMsNow
  let outcome := CommandLine.run settings "0.000s" disk words
  let wider := survey.widen outcome.events
  let stop ← IO.monoMsNow
  if wider = survey then return (disk, outcome, stop - start)
  settle settings words wider

/-- Removes and writes whatever is different after a run. -/
def writeChanges (before after : FileTree) : IO Unit := do
  for (location, entry) in before.entries do
    if (after.get? location).isNone then
      let path := location.toPath.toString
      match entry with
      | .file _ => IO.FS.removeFile path
      | .directory => pure ()
  for (location, entry) in before.entries.mergeSort fun first second =>
      second.1.length ≤ first.1.length do
    if entry = .directory ∧ (after.get? location).isNone then
      IO.FS.removeDir location.toPath.toString
  for (location, entry) in after.entries.mergeSort fun first second =>
      first.1.length ≤ second.1.length do
    unless before.get? location = some entry do
      match entry with
      | .directory => IO.FS.createDirAll location.toPath.toString
      | .file content => IO.FS.writeBinFile location.toPath.toString content

/-- Seconds with three decimals. -/
def seconds (milliseconds : Nat) : String :=
  let fraction := toString (milliseconds % 1000)
  toString (milliseconds / 1000) ++ "." ++
    String.ofList (List.replicate (3 - fraction.length) '0') ++ fraction ++ "s"

def eventText (elapsed : Nat) : Event → String
  | .assembled package _ => (Event.assembled package (seconds elapsed)).text
  | event => event.text

def printOutcome (outcome : CommandLine.Outcome) (elapsed : Nat) : IO Unit := do
  let level := outcome.level.getD .info
  for event in outcome.events do
    if event.level.shownAt level then
      IO.eprintln (event.level.name ++ " " ++ eventText elapsed event)
  IO.print outcome.output
  IO.eprint (outcome.report ++ outcome.usage.getD "")
  match outcome.unexpected with
  | some failure => IO.eprintln failure.message
  | none => pure ()

end ModPack.Program

open ModPack in
def main (words : List String) : IO UInt32 := do
  let settings := Settings.ofEnvironment (← IO.getEnv "STARPKG_BUILD_DIR")
  let here := Path.ofString (← IO.currentDir).toString
  let given := match CommandLine.request {} words with
    | .ok request => (request.directory.map Path.ofString).toList
    | .error _ => []
  let (disk, outcome, elapsed) ← Program.settle settings words { near := here :: given }
  Program.writeChanges disk.tree outcome.disk.tree
  Program.printOutcome outcome elapsed
  return outcome.status.toUInt32
