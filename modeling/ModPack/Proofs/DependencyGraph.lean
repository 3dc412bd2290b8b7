import ModPack.Proofs.DiskWalk
import ModPack.Proofs.LoadSteps
import Mathlib.Logic.Relation

/-!
# The graph of declared dependencies

Declared dependencies are edges between canonical directories: where a declaration leads depends on
the directory of the package that makes it and not on how the path to that directory is spelled. A
load that succeeds has loaded everything that can be reached along them. Main statement:
`not_reaches_itself_of_load`: nothing that a successful load reaches lies on a cycle.
-/
namespace ModPack.Package

open Relation (ReflTransGen TransGen)

/-- The package in a directory declares a dependency at `path`, as seen from some path to the
directory. -/
def DeclaredAt (settings : Settings) (disk : Disk) (location : Location) (path : Path) : Prop :=
  ∃ dir manifest, disk.directory? dir = some location ∧
    readManifest settings disk dir = .ok manifest ∧
    ∃ dependency ∈ manifest.dependencies, dir.join dependency.path = path

/-- The package in the directory `location` declares a dependency that is in the directory
`needed`. -/
def DependsOn (settings : Settings) (disk : Disk) (location needed : Location) : Prop :=
  ∃ path, DeclaredAt settings disk location path ∧ disk.directory? path = some needed

variable {settings : Settings} {disk : Disk} {location needed : Location} {dir path : Path}

/-- All paths to a directory lead to the same manifest. -/
theorem readManifest_of_same_directory {other : Path} {manifest : Manifest}
    (h : disk.directory? dir = some location) (hother : disk.directory? other = some location)
    (hread : readManifest settings disk other = .ok manifest) :
    readManifest settings disk dir = .ok manifest := by
  obtain ⟨content, document, hcontent, hdocument, hmanifest⟩ := readManifest_ok.1 hread
  have hfile := Disk.readFile_join h hother (Path.ofString settings.manifestName)
  exact readManifest_ok.2 ⟨content, document, hfile.trans hcontent, hdocument, hmanifest⟩

/-! ## What a successful load has loaded -/

/-- A load of the directory succeeds on the stack, from some path to it. -/
def LoadsOn (settings : Settings) (disk : Disk) (stack : List Location) (location : Location) :
    Prop :=
  ∃ route dir package, disk.directory? dir = some location ∧
    (loadNested settings disk stack route dir).result = .ok package

variable {stack : List Location}

theorem LoadsOn.not_mem (h : LoadsOn settings disk stack location) : location ∉ stack := by
  obtain ⟨route, dir, package, hdir, hload⟩ := h
  obtain ⟨other, _, _, hother, hstack, _⟩ := loadNested_ok.1 hload
  rw [hdir] at hother
  cases hother
  exact hstack

/-- What a loaded package depends on is loaded with the package's own directory on the stack. -/
theorem LoadsOn.step (h : LoadsOn settings disk stack location)
    (hstep : DependsOn settings disk location needed) :
    LoadsOn settings disk (location :: stack) needed := by
  obtain ⟨route, dir, package, hdir, hload⟩ := h
  obtain ⟨path, ⟨other, declaring, hother, hread, dependency, hdependency, rfl⟩, hneeded⟩ := hstep
  obtain ⟨_, manifest, direct, hsame, _, hmanifest, hdirect, _⟩ := loadNested_ok.1 hload
  rw [hdir] at hsame
  cases hsame
  have hdeclared := readManifest_of_same_directory hdir hother hread
  rw [(checkedManifest_ok.1 hmanifest).1] at hdeclared
  cases hdeclared
  obtain ⟨_, package, hnested⟩ := exists_load_of_declared hdirect hdependency
  exact ⟨_, _, package, (Disk.directory?_join hdir hother _).trans hneeded, hnested⟩

/-- Along dependencies the stack only grows. -/
theorem LoadsOn.reach (h : LoadsOn settings disk stack location)
    (hreach : ReflTransGen (DependsOn settings disk) location needed) :
    ∃ deeper, stack ⊆ deeper ∧ LoadsOn settings disk deeper needed := by
  induction hreach with
  | refl => exact ⟨stack, List.Subset.refl stack, h⟩
  | tail _ hstep ih =>
    obtain ⟨deeper, hsubset, hloads⟩ := ih
    exact ⟨_, List.subset_cons_of_subset _ hsubset, hloads.step hstep⟩

/-- A directory that loads does not depend on itself, however indirectly: it would have to be loaded
with itself on the stack. -/
theorem LoadsOn.not_reaches_itself (h : LoadsOn settings disk stack location) :
    ¬ TransGen (DependsOn settings disk) location location := by
  intro hcycle
  obtain ⟨next, hstep, hback⟩ := TransGen.head'_iff.1 hcycle
  obtain ⟨deeper, hsubset, hloads⟩ := (h.step hstep).reach hback
  exact hloads.not_mem (hsubset List.mem_cons_self)

/-- Nothing that a successful load reaches lies on a cycle of dependencies. -/
theorem not_reaches_itself_of_load {package : Package} {looped : Location}
    (hdir : disk.directory? dir = some location)
    (hload : (load settings disk dir).result = .ok package)
    (hreach : ReflTransGen (DependsOn settings disk) location looped) :
    ¬ TransGen (DependsOn settings disk) looped looped := by
  have hstart : LoadsOn settings disk [] location := ⟨[], dir, package, hdir, hload⟩
  obtain ⟨_, _, hloads⟩ := hstart.reach hreach
  exact hloads.not_reaches_itself

end ModPack.Package
