import ModPack.Package

/-!
# Loading packages

A package is loaded with everything it depends on. Its dependencies' exports come first, so its own
replace those under the same identifier. A package that is being loaded cannot be needed again on
the way: the directories between it and the start of the load are its stack. Loading ends because
each nested load stands in a directory that is not on the stack before.
-/
namespace ModPack.Package

/-- How many directories of a disk are not on a stack. -/
def untouched (disk : Disk) (stack : List Location) : Nat :=
  (disk.tree.directories.filter (· ∉ stack)).length

theorem untouched_cons_lt {disk : Disk} {stack : List Location} {location : Location}
    (hmem : location ∈ disk.tree.directories) (hstack : location ∉ stack) :
    untouched disk (location :: stack) < untouched disk stack := by
  have hsplit : disk.tree.directories.filter (· ∉ location :: stack) =
      (disk.tree.directories.filter (· ∉ stack)).filter (· ≠ location) := by
    rw [List.filter_filter]
    congr 1
    funext other
    simp [List.mem_cons, not_or]
  rw [untouched, untouched, hsplit]
  exact List.length_filter_lt_length_iff_exists.2 ⟨location, by simp [hmem, hstack], by simp⟩

def readManifest (settings : Settings) (disk : Disk) (dir : Path) :
    Except LoadFailure Manifest := do
  let path := dir / settings.manifestName
  match disk.readFile path with
  | .error .notFound => throw (.refused (.missingManifest dir settings.manifestName))
  | .error error => throw (.system error)
  | .ok content =>
    match Yaml.read content with
    | .error .malformed => throw (.refused (.malformedManifest path))
    | .error error => throw (.yaml error)
    | .ok document =>
      (Manifest.ofValue document).mapError fun cause => .refused (.invalidManifest path cause)

/-- The manifest of a package directory; the package must have a proper name. -/
def checkedManifest (settings : Settings) (disk : Disk) (dir : Path) : Loading Manifest := do
  let manifest ← Report.ofExcept (readManifest settings disk dir)
  Loading.orRefuse (Report.ofExcept (Name.checkPackage manifest.name))
    (.packageName (dir / settings.manifestName))
  return manifest

/-- Checks a declaration and gives the path of the directory it is about. -/
def declaredPath (settings : Settings) (dir : Path) (manifest : Manifest)
    (dependency : Dependency) : Loading Path := do
  Loading.orRefuse (Report.ofExcept (Name.checkDependency dependency.name manifest.name))
    (.dependencyName (dir / settings.manifestName))
  if dependency.path.isAbsolute then Report.note (.absoluteDependency dependency.name)
  let path := dir.join dependency.path
  Report.note (.loadingDependency dependency.name path)
  return path

/-- Puts exports read from a path into a registry, in order. -/
def register {α : Type} [Export α] (package : String) (path : Path) :
    List α → Registry α → Loading (Registry α)
  | [], registry => return registry
  | item :: items, registry => do
    let id : Identifier := ⟨package, Export.name item⟩
    let (replaced, registry) := registry.insert id item
    if replaced.isSome then Report.note (.redefined (Export.kind item) id path)
    Report.note (.loadedExport (Export.kind item) id)
    register package path items registry

/-- Loads what the entries of a directory define, in order. Entries of the other kind than wanted
are skipped. -/
def registerEntries {α : Type} [Export α] (package : String) (dir : Path)
    (wantsDirectories : Bool) (load : Path → Loading (List α)) :
    List (String × Entry) → Registry α → Loading (Registry α)
  | [], registry => return registry
  | (name, entry) :: entries, registry => do
    let path := dir / name
    if (entry = .directory) = (wantsDirectories = true) then
      let registry ← register package path (← load path) registry
      registerEntries package dir wantsDirectories load entries registry
    else
      Report.note (.skipping path)
      registerEntries package dir wantsDirectories load entries registry

/-- Loads all exports of one kind; their directory may be missing. -/
def registerAll {α : Type} [Export α] (disk : Disk) (package : String) (dir : Path)
    (wantsDirectories : Bool) (load : Path → Loading (List α)) (registry : Registry α) :
    Loading (Registry α) :=
  if disk.isDirectory dir then do
    let entries ← (Report.ofExcept (disk.list dir)).mapError .system
    registerEntries package dir wantsDirectories load entries registry
  else return registry

/-- Adds the exports defined in a package's own directory. -/
def ownExports (settings : Settings) (disk : Disk) (dir : Path) (package : String)
    (inherited : Exports) : Loading Exports := do
  let source := dir / settings.sourceDirectory
  let sprites ← registerAll disk package (source / "sprite") true
    (fun path => do return [← Sprite.load disk path]) inherited.sprites
  let actors ← registerAll disk package (source / "actor") true
    (fun path => do return [← Actor.load disk package path]) inherited.actors
  let strings ← registerAll disk package (source / "string") false
    (fun path => Loading.orRefuse (NamedString.load disk package path) id) inherited.strings
  return { sprites, actors, strings }

/-- The package of a directory once its direct dependencies are loaded. -/
def ofParts (settings : Settings) (disk : Disk) (route : List Nat) (dir : Path)
    (manifest : Manifest) (direct : List Package) : Loading Package := do
  let dependencies := flatten direct
  match conflict? dependencies with
  | some (name, versions) =>
    Loading.refuse (.versionMismatch (dir / settings.manifestName) name versions)
  | none =>
    let exports ← ownExports settings disk dir manifest.name (mergedExports dependencies)
    return { route, dir, manifest, dependencies, exports }

mutual

/-- Loads the package of a directory and everything it depends on. `stack` holds the directories of
the packages being loaded, the innermost first. -/
def loadNested (settings : Settings) (disk : Disk) (stack : List Location) (route : List Nat)
    (dir : Path) : Loading Package :=
  match _ : disk.directory? dir with
  | none => Loading.refuse (.notDirectory dir)
  | some location =>
    if _ : location ∈ stack then
      Loading.refuse (.cyclic dir (stack.reverse.map Location.toPath))
    else do
      Report.note (.loadingPackage dir)
      let manifest ← checkedManifest settings disk dir
      let direct ← loadDependencies settings disk (location :: stack) route dir manifest 0
        manifest.dependencies
      ofParts settings disk route dir manifest direct
termination_by (untouched disk stack, 0)
decreasing_by exact Prod.Lex.left _ _ (untouched_cons_lt (Disk.directory?_mem ‹_›) ‹_›)

/-- Loads declared dependencies, counted from `number` on. -/
def loadDependencies (settings : Settings) (disk : Disk) (stack : List Location)
    (route : List Nat) (dir : Path) (manifest : Manifest) (number : Nat) :
    List Dependency → Loading (List Package)
  | [] => return []
  | dependency :: rest => do
    let path ← declaredPath settings dir manifest dependency
    let package ← loadNested settings disk stack (number :: route) path
    if package.name ≠ dependency.name then
      Report.note (.dependencyNamed dependency.name package.name)
    let packages ← loadDependencies settings disk stack route dir manifest (number + 1) rest
    return package :: packages
termination_by dependencies => (untouched disk stack, dependencies.length)
decreasing_by
  · exact Prod.Lex.right _ (by simp)
  · exact Prod.Lex.right _ (by simp)

end

/-- Loads the package of a directory. -/
def load (settings : Settings) (disk : Disk) (dir : Path) : Loading Package :=
  loadNested settings disk [] [] dir

end ModPack.Package
