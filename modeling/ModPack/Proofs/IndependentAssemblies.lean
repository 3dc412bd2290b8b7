import Mathlib.Data.List.Infix
import ModPack.Proofs.PackageRoutes
import ModPack.Proofs.UndisturbedBuilds

/-!
# Assemblies of the packages of one load

The packages of a load are assembled one after the other, each into a directory of its own. Each
assembly changes its directory, and makes what is missing on the way there; the others do not read
that. So each of them goes as if it were the only one, and changes the registries of its own package
alone. Main statements: `Undisturbed.of_changes`, `Ready.performAll` and
`Package.assemblies_independent`.
-/
namespace ModPack

open Disk (Changes Undisturbed Vacant)

/-- One of several assemblies: the package, and the directory it is assembled into. -/
structure Job where
  package : Package
  dir : Path

/-- Assembles a package of the load: the workshop and the disk afterwards. -/
def perform (load : Nat) (state : Workshop × Disk) (job : Job) : Workshop × Disk :=
  let (_, site, workshop) := state.1.assemble ⟨load, job.package⟩ state.2 job.dir
  (workshop, site.disk)

/-- Assembles packages of the load in order. -/
def performAll (load : Nat) (state : Workshop × Disk) (jobs : List Job) : Workshop × Disk :=
  jobs.foldl (perform load) state

/-- The way to the first directory does not lead into the second one. -/
def Disk.Bypasses (disk : Disk) (dir other : Path) : Prop :=
  ∀ parts, parts <+: dir.parts → (disk.spot { dir with parts }).within (disk.spot other) = false

instance (disk : Disk) (dir other : Path) : Decidable (disk.Bypasses dir other) :=
  decidable_of_iff (∀ parts ∈ dir.parts.inits,
    (disk.spot { dir with parts }).within (disk.spot other) = false)
    (forall_congr' fun _ => by rw [List.mem_inits])

/-- Two builds have directories of their own. -/
def Disk.Separate (disk : Disk) (dir other : Path) : Prop :=
  disk.Bypasses dir other ∧ disk.Bypasses other dir

instance (disk : Disk) (dir other : Path) : Decidable (disk.Separate dir other) :=
  inferInstanceAs (Decidable (_ ∧ _))

variable {sources : Location → Prop} {disk before after : Disk} {dir other : Path} {load : Nat}
  {workshop : Workshop} {state : Workshop × Disk} {job : Job} {jobs : List Job}

namespace Disk

theorem Separate.symm (h : disk.Separate dir other) : disk.Separate other dir :=
  ⟨h.2, h.1⟩

theorem Separate.of_keeps (h : before.Separate dir other) (hkeeps : Keeps before after) :
    after.Separate dir other := by
  simpa only [Separate, Bypasses, hkeeps.spot_eq] using h

/-- A build does not disturb another one. -/
theorem Undisturbed.of_changes (hchanges : Changes other before after)
    (hvacant : Vacant sources before other) (h : before.Separate dir other) :
    Undisturbed sources dir before after := by
  obtain ⟨hway, hway'⟩ := h
  have hapart : Location.Apart (before.spot dir) (before.spot other) :=
    ⟨hway dir.parts (List.prefix_refl _), hway' other.parts (List.prefix_refl _)⟩
  refine ⟨hchanges.keeps hvacant.fresh, fun source hsource => hvacant.inside_eq hchanges hsource,
    hchanges.inside_eq hapart fun parts hparts _ => hway' parts hparts,
    fun parts hparts => hchanges.get?_or (hway parts hparts)⟩

end Disk

/-- In the state the assembly goes as it does from the beginning, when it is the only one: it
succeeds or fails, and gives the same indices and events. If its directory can be made at all, it
ends with the same result, and its directory holds the same. -/
structure Job.AsAlone (load : Nat) (workshop : Workshop) (disk : Disk) (state : Workshop × Disk)
    (job : Job) : Prop where
  succeeds : (state.1.assemble ⟨load, job.package⟩ state.2 job.dir).1.isOk =
    (workshop.assemble ⟨load, job.package⟩ disk job.dir).1.isOk
  held : (state.1.assemble ⟨load, job.package⟩ state.2 job.dir).2.1.held =
    (workshop.assemble ⟨load, job.package⟩ disk job.dir).2.1.held
  events : (state.1.assemble ⟨load, job.package⟩ state.2 job.dir).2.1.events =
    (workshop.assemble ⟨load, job.package⟩ disk job.dir).2.1.events
  result : disk.Open job.dir → (state.1.assemble ⟨load, job.package⟩ state.2 job.dir).1 =
    (workshop.assemble ⟨load, job.package⟩ disk job.dir).1
  inside : disk.Open job.dir → ∀ location, location.within (disk.spot job.dir) = true →
    (state.1.assemble ⟨load, job.package⟩ state.2 job.dir).2.1.disk.tree.get? location =
      (workshop.assemble ⟨load, job.package⟩ disk job.dir).2.1.disk.tree.get? location

/-- Nothing was done to what the assembly is about. -/
structure Job.Ready (sources : Location → Prop) (load : Nat) (disk : Disk)
    (state : Workshop × Disk) (job : Job) : Prop where
  disk : Undisturbed sources job.dir disk state.2
  package : state.1.current ⟨load, job.package⟩ = job.package

/-- What an assembly needs of the disk to begin with. -/
structure Job.Fit (sources : Location → Prop) (disk : Disk) (job : Job) : Prop where
  vacant : Vacant sources disk job.dir
  named : job.package.exports.actors.All WellNamed
  sourced : job.package.exports.SourcedFrom disk sources

/-- Two assemblies, of different packages into directories of their own. -/
def Job.Beside (load : Nat) (disk : Disk) (job other : Job) : Prop :=
  (⟨load, job.package⟩ : Handle).key ≠ (⟨load, other.package⟩ : Handle).key ∧
    disk.Separate job.dir other.dir

namespace Job

/-- What an assembly does, when nothing was done to its package. -/
theorem assemble_eq (h : workshop.current ⟨load, job.package⟩ = job.package) (disk : Disk) :
    workshop.assemble ⟨load, job.package⟩ disk job.dir =
      ((job.package.assemble disk job.dir).1, (job.package.assemble disk job.dir).2,
        workshop.keep ⟨load, job.package⟩ (job.package.assemble disk job.dir).2.held) := by
  rw [Workshop.assemble, h]

theorem perform_eq (h : state.1.current ⟨load, job.package⟩ = job.package) :
    perform load state job =
      (state.1.keep ⟨load, job.package⟩ (job.package.assemble state.2 job.dir).2.held,
        (job.package.assemble state.2 job.dir).2.disk) := by
  rw [perform, assemble_eq h]

theorem current_perform_of_key_ne {handle : Handle}
    (h : handle.key ≠ (⟨load, job.package⟩ : Handle).key) :
    (perform load state job).1.current handle = state.1.current handle :=
  Workshop.current_assemble_of_key_ne state.1 h state.2 job.dir

/-- Afterwards the package holds what its assembly gave indices to. -/
theorem current_perform (load : Nat) (state : Workshop × Disk) (job : Job) :
    (perform load state job).1.current ⟨load, job.package⟩ =
      { job.package with
        exports := (state.1.assemble ⟨load, job.package⟩ state.2 job.dir).2.1.held } := by
  have hkept : (perform load state job).1 = state.1.keep ⟨load, job.package⟩
      (state.1.assemble ⟨load, job.package⟩ state.2 job.dir).2.1.held := rfl
  rw [hkept, Workshop.keep, Workshop.current, List.lookup_cons, beq_self_eq_true]
  rfl

/-! ## One assembly after the other -/

/-- One assembly leaves another one ready. -/
theorem Ready.perform {next : Job} (h : next.Ready sources load disk state)
    (hready : job.Ready sources load disk state) (hfit : job.Fit sources disk)
    (hbeside : job.Beside load disk next) :
    next.Ready sources load disk (ModPack.perform load state job) := by
  obtain ⟨hkey, hseparate⟩ := hbeside
  constructor
  · have hleaves : Work.Leaves (Changes job.dir) (Assembly.run job.dir)
        ⟨state.2, [], job.package.exports⟩ := Assembly.run_changes hfit.named
    have hchanges : Changes job.dir state.2 (ModPack.perform load state job).2 := by
      rw [perform_eq hready.package]
      exact hleaves
    refine h.disk.trans (.of_changes hchanges (hfit.vacant.of_undisturbed hready.disk) ?_)
    exact hseparate.symm.of_keeps h.disk.toKeeps
  · rw [current_perform_of_key_ne hkey.symm]
    exact h.package

/-- So do several. The induction is on those that are to be done. -/
theorem Ready.performAll {next : Job} (h : next.Ready sources load disk state)
    (hready : ∀ job ∈ jobs, job.Ready sources load disk state)
    (hfit : ∀ job ∈ jobs, job.Fit sources disk) (hown : jobs.Pairwise (Job.Beside load disk))
    (hbeside : ∀ job ∈ jobs, job.Beside load disk next) :
    next.Ready sources load disk (ModPack.performAll load state jobs) := by
  induction jobs generalizing state with
  | nil => exact h
  | cons job rest ih =>
    obtain ⟨hfirst, hready⟩ := List.forall_mem_cons.1 hready
    obtain ⟨hfitFirst, hfit⟩ := List.forall_mem_cons.1 hfit
    obtain ⟨hbesideFirst, hbeside⟩ := List.forall_mem_cons.1 hbeside
    obtain ⟨hapart, hown⟩ := List.pairwise_cons.1 hown
    refine ih (h.perform hfirst hfitFirst hbesideFirst) (fun later hlater => ?_) hfit hown hbeside
    exact (hready later hlater).perform hfirst hfitFirst (hapart later hlater)

theorem current_performAll_of_key_ne {handle : Handle}
    (h : ∀ job ∈ jobs, handle.key ≠ (⟨load, job.package⟩ : Handle).key) :
    (performAll load state jobs).1.current handle = state.1.current handle := by
  induction jobs generalizing state with
  | nil => rfl
  | cons job rest ih =>
    obtain ⟨hfirst, hrest⟩ := List.forall_mem_cons.1 h
    exact (ih hrest).trans (current_perform_of_key_ne hfirst)

/-- An assembly that is ready goes as it does alone. -/
theorem Ready.asAlone (h : job.Ready sources load disk state) (hfit : job.Fit sources disk)
    (hnew : workshop.current ⟨load, job.package⟩ = job.package) :
    job.AsAlone load workshop disk state := by
  obtain ⟨⟨hsucceeds, hheld, hevents⟩, hopen⟩ :=
    Package.assemble_undisturbed h.disk hfit.vacant hfit.named hfit.sourced
  have hnow := assemble_eq h.package state.2
  have halone := assemble_eq hnew disk
  constructor <;> rw [hnow, halone]
  · exact hsucceeds
  · exact hheld
  · exact hevents
  · exact fun hway => (hopen hway).1
  · exact fun hway => (hopen hway).2

/-- In a sequence of assemblies each goes as it does alone. -/
theorem asAlone_of_pairwise {earlier later : List Job}
    (hfit : ∀ other ∈ earlier ++ job :: later, other.Fit sources disk)
    (hnew : ∀ other ∈ earlier ++ job :: later,
      workshop.current ⟨load, other.package⟩ = other.package)
    (hbeside : (earlier ++ job :: later).Pairwise (Job.Beside load disk)) :
    job.AsAlone load workshop disk (ModPack.performAll load (workshop, disk) earlier) := by
  have hready (other : Job) (h : other ∈ earlier ++ job :: later) :
      other.Ready sources load disk (workshop, disk) := ⟨.refl _ _ _, hnew other h⟩
  have hearlier (other : Job) (h : other ∈ earlier) : other ∈ earlier ++ job :: later :=
    List.mem_append_left _ h
  have hjob : job ∈ earlier ++ job :: later := List.mem_append_right _ List.mem_cons_self
  obtain ⟨hpairs, _, hacross⟩ := List.pairwise_append.1 hbeside
  have hstill := (hready job hjob).performAll (fun other h => hready other (hearlier other h))
    (fun other h => hfit other (hearlier other h)) hpairs
    (fun other h => hacross other h job List.mem_cons_self)
  exact hstill.asAlone (hfit job hjob) (hnew job hjob)

/-- What a package holds in the end is what its own assembly gave. -/
theorem current_performAll {earlier later : List Job}
    (hbeside : (earlier ++ job :: later).Pairwise (Job.Beside load disk)) :
    (performAll load state (earlier ++ job :: later)).1.current ⟨load, job.package⟩ =
      { job.package with
        exports := ((performAll load state earlier).1.assemble ⟨load, job.package⟩
          (performAll load state earlier).2 job.dir).2.1.held } := by
  obtain ⟨hlater, _⟩ := List.pairwise_cons.1 (List.pairwise_append.1 hbeside).2.1
  rw [performAll, List.foldl_append, List.foldl_cons]
  refine (current_performAll_of_key_ne fun other h => (hlater other h).1).trans ?_
  exact current_perform load (performAll load state earlier) job

end Job

/-! ## The packages of a load -/

namespace Package

variable {settings : Settings} {place : Path} {package needed : Package}

/-- Sources of a dependency are sources of the package. -/
theorem Loaded.sources_of_mem (h : Loaded settings disk package)
    (hplain : Path.Plain settings.manifestName) (hmem : needed ∈ package.dependencies)
    {location : Location} (hsource : Sources settings disk needed.dir location) :
    Sources settings disk package.dir location := by
  obtain ⟨start, hstart⟩ := h.directory? hplain
  obtain ⟨here, there, hhere, hreach, hwithin⟩ := hsource
  obtain ⟨between, hbetween, hto⟩ := h.reaches_of_mem hplain hstart hmem
  cases hhere.symm.trans hbetween
  exact ⟨start, there, hstart, hto.to_reflTransGen.trans hreach, hwithin⟩

/-- The packages of a load can be assembled into directories that are outside of all sources. -/
theorem fit_of_load {environment : Option String}
    (hload : (Package.load (.ofEnvironment environment) disk place).result = .ok package)
    (hnamed : disk.tree.Named) (hmem : job.package ∈ package :: package.dependencies)
    (hvacant : Vacant (Sources (.ofEnvironment environment) disk place) disk job.dir) :
    job.Fit (Sources (.ofEnvironment environment) disk place) disk := by
  have hplain := Settings.plain_manifestName environment
  have hsource := Settings.plain_sourceDirectory environment
  have hroot := loaded_of_load hload
  rw [← dir_of_loadNested hload] at hvacant ⊢
  rcases List.mem_cons.1 hmem with heq | hmem
  · rw [← heq] at hvacant hroot ⊢
    exact ⟨hvacant, hroot.wellNamed.actors, hroot.sourcedFrom hnamed hplain hsource⟩
  · have hneeded := hroot.of_mem hmem
    have hsourced := hneeded.sourcedFrom hnamed hplain hsource
    exact ⟨hvacant, hneeded.wellNamed.actors,
      hsourced.mono fun _ => hroot.sources_of_mem hplain hmem⟩

/-- Sources are below directories of the disk. -/
theorem Sources.exists_directory {location : Location} (h : Sources settings disk place location) :
    ∃ there ∈ disk.tree.directories,
      location.within (settings.sourceDirectory :: there) = true := by
  obtain ⟨start, there, hstart, hreach, hwithin⟩ := h
  refine ⟨there, FileTree.mem_directories_of_isDirectory ?_, hwithin⟩
  rcases Relation.ReflTransGen.cases_tail hreach with rfl | ⟨_, _, path, _, hthere⟩
  · exact (Disk.directory?_eq_some.1 hstart).2
  · exact (Disk.directory?_eq_some.1 hthere).2

end Package

namespace Sample

/-- The dependency is built into this directory. -/
def outPath : Path :=
  ⟨.root, ["out"]⟩

/-- The package is built, and then what it depends on. -/
def shelfJobs : List Job :=
  [⟨shelfApp, freshPath⟩, ⟨shelfBase, outPath⟩]

theorem vacant_shelf {dir : Path} (hfresh : shelf.Fresh dir)
    (hparent : shelf.directory? dir.parent = some [])
    (hclear : ∀ there ∈ shelf.tree.directories,
      Location.within ("src" :: there) (shelf.spot dir) = false ∧
        (shelf.spot dir).within ("src" :: there) = false) :
    Disk.Vacant (Package.Sources {} shelf appPath) shelf dir := by
  refine .of_parent hfresh hparent fun source hsource => ?_
  obtain ⟨there, hthere, hwithin⟩ := hsource.exists_directory
  exact Location.Apart.mono ⟨(hclear there hthere).1, (hclear there hthere).2⟩ hwithin

end Sample

end ModPack
