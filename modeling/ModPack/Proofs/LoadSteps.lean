import ModPack.Package.Load
import ModPack.Proofs.ReportResult
import Mathlib.Data.List.Nodup

/-!
# The steps of a load

What one level of a load does, told by what it reads and by the loads below it. Proofs about loading
use these equations and never unfold the recursion. `Loaded` collects the packages that a load can
give, with how each is made of the packages it needs, so an invariant of all loaded packages is one
induction. Main statements: `loadNested_ok`, `loadNested_error` and `loaded_of_load`.
-/
namespace ModPack.Package

variable {settings : Settings} {disk : Disk} {stack : List Location} {route : List Nat} {dir : Path}

/-! ## One level -/

theorem loadNested_of_no_directory (h : disk.directory? dir = none) :
    loadNested settings disk stack route dir = Loading.refuse (.notDirectory dir) := by
  rw [loadNested]
  split
  · rfl
  · next location hlocation =>
    rw [h] at hlocation
    cases hlocation

theorem loadNested_of_mem {location : Location} (h : disk.directory? dir = some location)
    (hmem : location ∈ stack) :
    loadNested settings disk stack route dir =
      Loading.refuse (.cyclic dir (stack.reverse.map Location.toPath)) := by
  rw [loadNested]
  split
  · next hnone =>
    rw [h] at hnone
    cases hnone
  · next other hother =>
    rw [h] at hother
    cases hother
    rw [dif_pos hmem]

theorem loadNested_of_not_mem {location : Location} (h : disk.directory? dir = some location)
    (hmem : location ∉ stack) :
    loadNested settings disk stack route dir = (do
      Report.note (.loadingPackage dir)
      let manifest ← checkedManifest settings disk dir
      let direct ← loadDependencies settings disk (location :: stack) route dir manifest 0
        manifest.dependencies
      ofParts settings disk route dir manifest direct) := by
  rw [loadNested]
  split
  · next hnone =>
    rw [h] at hnone
    cases hnone
  · next other hother =>
    rw [h] at hother
    cases hother
    rw [dif_neg hmem]

/-- A load that gives a package stands in a directory off the stack and made all its parts. -/
theorem loadNested_ok {package : Package} :
    (loadNested settings disk stack route dir).result = .ok package ↔
      ∃ location manifest direct, disk.directory? dir = some location ∧ location ∉ stack ∧
        (checkedManifest settings disk dir).result = .ok manifest ∧
        (loadDependencies settings disk (location :: stack) route dir manifest 0
          manifest.dependencies).result = .ok direct ∧
        (ofParts settings disk route dir manifest direct).result = .ok package := by
  cases h : disk.directory? dir with
  | none => simp [loadNested_of_no_directory h]
  | some location =>
    by_cases hmem : location ∈ stack
    · simp [loadNested_of_mem h hmem, hmem]
    · simp [loadNested_of_not_mem h hmem, hmem]

/-- The ways in which one level can fail: at its directory, at a cycle, at its manifest, below, or
when it is put together. -/
theorem loadNested_error {failure : LoadFailure} :
    (loadNested settings disk stack route dir).result = .error failure ↔
      (disk.directory? dir = none ∧ failure = .refused (.notDirectory dir)) ∨
      ∃ location, disk.directory? dir = some location ∧
        ((location ∈ stack ∧
            failure = .refused (.cyclic dir (stack.reverse.map Location.toPath))) ∨
          (location ∉ stack ∧ ((checkedManifest settings disk dir).result = .error failure ∨
            ∃ manifest, (checkedManifest settings disk dir).result = .ok manifest ∧
              ((loadDependencies settings disk (location :: stack) route dir manifest 0
                  manifest.dependencies).result = .error failure ∨
                ∃ direct, (loadDependencies settings disk (location :: stack) route dir manifest 0
                    manifest.dependencies).result = .ok direct ∧
                  (ofParts settings disk route dir manifest direct).result = .error failure)))) := by
  cases h : disk.directory? dir with
  | none => simp [loadNested_of_no_directory h, eq_comm]
  | some location =>
    by_cases hmem : location ∈ stack
    · simp [loadNested_of_mem h hmem, hmem, eq_comm]
    · simp [loadNested_of_not_mem h hmem, hmem]

/-! ## The parts of a level -/

/-- A manifest is read from a file that holds a document that is a manifest. -/
theorem readManifest_ok {manifest : Manifest} :
    readManifest settings disk dir = .ok manifest ↔
      ∃ content document, disk.readFile (dir / settings.manifestName) = .ok content ∧
        Yaml.read content = .ok document ∧ Manifest.ofValue document = .ok manifest := by
  unfold readManifest
  dsimp only
  cases hcontent : disk.readFile (dir / settings.manifestName) with
  | error error => cases error <;> simp [throw, throwThe, MonadExceptOf.throw]
  | ok content =>
    cases hdocument : Yaml.read content with
    | error error => cases error <;> simp [hdocument, throw, throwThe, MonadExceptOf.throw]
    | ok document => simp [hdocument]

theorem checkPackage_ok {name : String} :
    Name.checkPackage name = .ok () ↔ Name.packageFault? name = none := by
  cases h : Name.packageFault? name <;> simp [Name.checkPackage, h]

theorem checkDependency_ok {name package : String} :
    Name.checkDependency name package = .ok () ↔ Name.dependencyFault? name package = none := by
  cases h : Name.dependencyFault? name package <;> simp [Name.checkDependency, h]

theorem checkedManifest_ok {manifest : Manifest} :
    (checkedManifest settings disk dir).result = .ok manifest ↔
      readManifest settings disk dir = .ok manifest ∧ Name.packageFault? manifest.name = none := by
  have hparts : (checkedManifest settings disk dir).result = .ok manifest ↔
      ∃ read, readManifest settings disk dir = .ok read ∧
        Name.packageFault? read.name = none ∧ read = manifest := by
    simp [checkedManifest, checkPackage_ok]
  rw [hparts]
  constructor
  · rintro ⟨_, hread, hname, rfl⟩
    exact ⟨hread, hname⟩
  · rintro ⟨hread, hname⟩
    exact ⟨manifest, hread, hname, rfl⟩

theorem declaredPath_ok {manifest : Manifest} {dependency : Dependency} {path : Path} :
    (declaredPath settings dir manifest dependency).result = .ok path ↔
      Name.dependencyFault? dependency.name manifest.name = none ∧
        dir.join dependency.path = path := by
  unfold declaredPath
  split <;> simp [checkDependency_ok]

theorem loadDependencies_nil {manifest : Manifest} {number : Nat} :
    (loadDependencies settings disk stack route dir manifest number []).result = .ok [] := by
  rw [loadDependencies]
  rfl

/-- The dependencies load one by one: each from the path that its declaration leads to. -/
theorem loadDependencies_cons_ok {manifest : Manifest} {number : Nat} {dependency : Dependency}
    {rest : List Dependency} {packages : List Package} :
    (loadDependencies settings disk stack route dir manifest number
        (dependency :: rest)).result = .ok packages ↔
      Name.dependencyFault? dependency.name manifest.name = none ∧
        ∃ package, (loadNested settings disk stack (number :: route)
            (dir.join dependency.path)).result = .ok package ∧
          ∃ others, (loadDependencies settings disk stack route dir manifest (number + 1)
              rest).result = .ok others ∧ package :: others = packages := by
  rw [loadDependencies]
  simp only [Report.result_bind_ok, declaredPath_ok, ne_eq]
  constructor
  · rintro ⟨path, ⟨hname, rfl⟩, package, hload, h⟩
    refine ⟨hname, package, hload, ?_⟩
    split at h <;> simpa using h
  · rintro ⟨hname, package, hload, h⟩
    refine ⟨_, ⟨hname, rfl⟩, package, hload, ?_⟩
    split <;> simpa using h

/-- Every package that the declarations give comes from a nested load on the same stack. -/
theorem exists_load_of_mem {manifest : Manifest} {number : Nat} {declared : List Dependency}
    {packages : List Package} {package : Package}
    (h : (loadDependencies settings disk stack route dir manifest number
      declared).result = .ok packages) (hmem : package ∈ packages) :
    ∃ route path, (loadNested settings disk stack route path).result = .ok package := by
  induction declared generalizing number packages with
  | nil =>
    rw [loadDependencies, Report.result_pure] at h
    cases h
    cases hmem
  | cons dependency rest ih =>
    obtain ⟨-, first, hload, others, hrest, rfl⟩ := loadDependencies_cons_ok.1 h
    rcases List.mem_cons.1 hmem with rfl | hmem
    · exact ⟨_, _, hload⟩
    · exact ih hrest hmem

/-- Every declaration is loaded from the path that it leads to. -/
theorem exists_load_of_declared {manifest : Manifest} {number : Nat} {declared : List Dependency}
    {packages : List Package} {dependency : Dependency}
    (h : (loadDependencies settings disk stack route dir manifest number
      declared).result = .ok packages) (hmem : dependency ∈ declared) :
    ∃ route package, (loadNested settings disk stack route
      (dir.join dependency.path)).result = .ok package := by
  induction declared generalizing number packages with
  | nil => cases hmem
  | cons first rest ih =>
    obtain ⟨-, package, hload, others, hrest, rfl⟩ := loadDependencies_cons_ok.1 h
    rcases List.mem_cons.1 hmem with rfl | hmem
    · exact ⟨_, _, hload⟩
    · exact ih hrest hmem

theorem length_versionsOf (packages : List Package) (wanted : String) :
    (versionsOf packages wanted).length = (packages.map name).count wanted := by
  rw [versionsOf, List.length_mergeSort, List.length_map, List.count_eq_countP, List.countP_map,
    List.countP_eq_length_filter]
  rfl

/-- Packages agree on versions when they have different names. -/
theorem conflict?_eq_none {packages : List Package} :
    conflict? packages = none ↔ (packages.map name).Nodup := by
  have hnone : conflict? packages = none ↔ ∀ wanted ∈ packages.map name,
      ¬ 1 < (packages.map name).count wanted := by
    simp only [conflict?, Option.map_eq_none_iff, List.find?_eq_none, length_versionsOf,
      (List.mergeSort_perm _ _).mem_iff, decide_eq_true_eq]
  rw [hnone, List.nodup_iff_count_le_one]
  constructor
  · intro h wanted
    by_cases hmem : wanted ∈ packages.map name
    · exact Nat.le_of_not_lt (h wanted hmem)
    · rw [List.count_eq_zero_of_not_mem hmem]
      exact Nat.zero_le 1
  · intro h wanted _
    exact Nat.not_lt_of_le (h wanted)

/-- A package is put together when its dependencies agree on versions and its own exports load. -/
theorem ofParts_ok {manifest : Manifest} {direct : List Package} {package : Package} :
    (ofParts settings disk route dir manifest direct).result = .ok package ↔
      conflict? (flatten direct) = none ∧
        ∃ exports, (ownExports settings disk dir manifest.name
            (mergedExports (flatten direct))).result = .ok exports ∧
          { route, dir, manifest, dependencies := flatten direct, exports } = package := by
  unfold ofParts
  dsimp only
  split
  · next hconflict => simp [hconflict]
  · next hconflict => simp [hconflict]

/-! ## Failures of all levels -/

section Failures

open Report (FailsIn)

variable {errors : LoadFailure → Prop}

/-- Declared dependencies fail with what one of them fails with. -/
theorem loadDependencies_failsIn {manifest : Manifest}
    (hdeclared : ∀ dependency, FailsIn errors (declaredPath settings dir manifest dependency))
    (hnested : ∀ route dir, FailsIn errors (loadNested settings disk stack route dir))
    (number : Nat) (declared : List Dependency) :
    FailsIn errors (loadDependencies settings disk stack route dir manifest number declared) := by
  induction declared generalizing number with
  | nil =>
    rw [loadDependencies]
    exact FailsIn.pure _
  | cons dependency rest ih =>
    rw [loadDependencies]
    refine FailsIn.bind (hdeclared dependency) fun path => ?_
    refine FailsIn.bind (hnested _ path) fun package => ?_
    split
    · refine FailsIn.bind (FailsIn.note _) fun _ => ?_
      exact FailsIn.bind (ih (number + 1)) fun _ => FailsIn.pure _
    · exact FailsIn.bind (ih (number + 1)) fun _ => FailsIn.pure _

/-- A load fails with what one level can fail with. The recursion is on the directories that are
not on the stack, as in the definition. -/
theorem loadNested_failsIn (hdirectory : ∀ dir, errors (.refused (.notDirectory dir)))
    (hcyclic : ∀ dir chain, errors (.refused (.cyclic dir chain)))
    (hmanifest : ∀ dir, FailsIn errors (checkedManifest settings disk dir))
    (hdeclared : ∀ dir manifest dependency,
      FailsIn errors (declaredPath settings dir manifest dependency))
    (hparts : ∀ route dir manifest direct,
      FailsIn errors (ofParts settings disk route dir manifest direct))
    (stack : List Location) (route : List Nat) (dir : Path) :
    FailsIn errors (loadNested settings disk stack route dir) := by
  intro failure h
  rcases loadNested_error.1 h with ⟨_, rfl⟩ | ⟨location, hdir, ⟨_, rfl⟩ | ⟨hstack, h⟩⟩
  · exact hdirectory dir
  · exact hcyclic dir _
  · rcases h with h | ⟨manifest, _, h | ⟨direct, _, h⟩⟩
    · exact hmanifest dir failure h
    · have hnested (route : List Nat) (dir : Path) :=
        loadNested_failsIn hdirectory hcyclic hmanifest hdeclared hparts (location :: stack) route
          dir
      exact loadDependencies_failsIn (hdeclared dir manifest) hnested 0 manifest.dependencies
        failure h
    · exact hparts route dir manifest direct failure h
termination_by untouched disk stack
decreasing_by exact untouched_cons_lt (Disk.directory?_mem hdir) hstack

end Failures

/-! ## All loaded packages -/

/-- A package that can be loaded from a disk: made of the manifest in its directory, of loaded
packages for its declarations, and of its own exports. -/
inductive Loaded (settings : Settings) (disk : Disk) : Package → Prop
  | intro {package : Package} (direct : List Package)
      (manifest : readManifest settings disk package.dir = .ok package.manifest)
      (name : Name.packageFault? package.name = none)
      (dirs : direct.map Package.dir =
        package.manifest.dependencies.map fun dependency => package.dir.join dependency.path)
      (loaded : ∀ needed ∈ direct, Loaded settings disk needed)
      (agreed : conflict? (flatten direct) = none)
      (dependencies : package.dependencies = flatten direct)
      (exports : (ownExports settings disk package.dir package.name
        (mergedExports (flatten direct))).result = .ok package.exports) :
      Loaded settings disk package

theorem dir_of_loadNested {package : Package}
    (h : (loadNested settings disk stack route dir).result = .ok package) : package.dir = dir := by
  obtain ⟨_, _, _, _, _, _, _, hparts⟩ := loadNested_ok.1 h
  obtain ⟨_, _, _, rfl⟩ := ofParts_ok.1 hparts
  rfl

theorem manifest_of_loadNested {package : Package}
    (h : (loadNested settings disk stack route dir).result = .ok package) :
    readManifest settings disk dir = .ok package.manifest := by
  obtain ⟨_, manifest, _, _, _, hmanifest, _, hparts⟩ := loadNested_ok.1 h
  obtain ⟨_, _, _, rfl⟩ := ofParts_ok.1 hparts
  exact (checkedManifest_ok.1 hmanifest).1

theorem dirs_of_loadDependencies {manifest : Manifest} {number : Nat} {declared : List Dependency}
    {packages : List Package}
    (h : (loadDependencies settings disk stack route dir manifest number
      declared).result = .ok packages) :
    packages.map Package.dir = declared.map fun dependency => dir.join dependency.path := by
  induction declared generalizing number packages with
  | nil =>
    rw [loadDependencies, Report.result_pure] at h
    cases h
    rfl
  | cons dependency rest ih =>
    obtain ⟨-, package, hload, others, hrest, rfl⟩ := loadDependencies_cons_ok.1 h
    rw [List.map_cons, List.map_cons, dir_of_loadNested hload, ih hrest]

/-- Whatever a load gives is a loaded package. The recursion is on the directories that are not on
the stack, as in the definition. -/
theorem loaded_of_loadNested {stack : List Location} {route : List Nat} {dir : Path}
    {package : Package} (h : (loadNested settings disk stack route dir).result = .ok package) :
    Loaded settings disk package := by
  obtain ⟨location, manifest, direct, hdir, hstack, hmanifest, hdirect, hparts⟩ := loadNested_ok.1 h
  obtain ⟨hread, hname⟩ := checkedManifest_ok.1 hmanifest
  obtain ⟨hagreed, exports, hexports, rfl⟩ := ofParts_ok.1 hparts
  have hloaded : ∀ needed ∈ direct, Loaded settings disk needed := by
    intro needed hneeded
    obtain ⟨_, _, hload⟩ := exists_load_of_mem hdirect hneeded
    exact loaded_of_loadNested hload
  exact .intro direct hread hname (dirs_of_loadDependencies hdirect) hloaded hagreed rfl hexports
termination_by untouched disk stack
decreasing_by exact untouched_cons_lt (Disk.directory?_mem hdir) hstack

/-- The package that a load from the outside gives. -/
theorem loaded_of_load {package : Package} (h : (load settings disk dir).result = .ok package) :
    Loaded settings disk package :=
  loaded_of_loadNested h

end ModPack.Package
