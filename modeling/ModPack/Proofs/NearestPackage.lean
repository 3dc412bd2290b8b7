import ModPack.Package.Find
import ModPack.Proofs.ClearSources
import ModPack.Proofs.DependencyExports
import ModPack.Proofs.LoadFailures

/-!
# The nearest package

A search upwards ends at the first directory that has an entry where its manifest is looked for, and
gives what a load of that directory gives. A load may fail because some directory that the package
depends on has no manifest, and such a failure is not taken for one about the directory itself: no
load tells of a missing manifest where there is an entry. Main statement: `find_nearest`.
-/
namespace ModPack

/-! ## Directories on the way up -/

namespace FileTree

variable {tree : FileTree} {start location : Location}

/-- What is above a directory of a rooted tree is a directory. -/
theorem Rooted.isDirectory_of_suffix (hrooted : tree.Rooted) (h : tree.isDirectory start = true)
    (habove : location <:+ start) : tree.isDirectory location = true := by
  induction start with
  | nil =>
    rw [List.suffix_nil.1 habove]
    exact h
  | cons name parent ih =>
    rcases List.suffix_cons_iff.1 habove with rfl | habove
    · exact h
    · have hfound : (tree.get? (name :: parent)).isSome := by
        rw [isDirectory_iff.1 h]
        rfl
      exact ih (hrooted _ hfound) habove

/-- The names of a location with an entry are those of the tree. -/
theorem Named.plain {name : String} (hnamed : tree.Named) (h : (tree.get? location).isSome)
    (hname : name ∈ location) : Path.Plain name := by
  obtain ⟨entry, hentry⟩ := Option.isSome_iff_exists.1 h
  exact hnamed _ (mem_of_get? (List.ne_nil_of_mem hname) hentry) name hname

end FileTree

/-- The absolute path of a directory leads to it. -/
theorem Disk.directory?_toPath {disk : Disk} {location : Location} (hrooted : disk.tree.Rooted)
    (hnamed : disk.tree.Named) (h : disk.tree.isDirectory location = true) :
    disk.directory? location.toPath = some location := by
  refine directory?_eq_some.2 ⟨?_, h⟩
  change walk disk.tree [] location.reverse = .ok location
  induction location with
  | nil => rfl
  | cons name parent ih =>
    have hfound : (disk.tree.get? (name :: parent)).isSome := by
      rw [FileTree.isDirectory_iff.1 h]
      rfl
    have hparent : disk.tree.isDirectory parent = true := hrooted _ hfound
    have hname : Path.Plain name := hnamed.plain hfound List.mem_cons_self
    rw [List.reverse_cons]
    refine walk_append_ok.2 ⟨parent, ih hparent, ?_⟩
    rw [walk_cons_of_isDirectory hparent, stepTo, if_neg hname.ne_parent]
    rfl

/-! ## Missing manifests -/

/-- A failure that tells of a missing manifest tells of a path where no manifest is found. -/
def LoadFailure.MissesRightly (settings : Settings) (disk : Disk) (failure : LoadFailure) : Prop :=
  ∀ dir name, failure = .refused (.missingManifest dir name) →
    disk.readFile (dir / settings.manifestName) = .error .notFound

theorem LoadFailure.OfExport.missesRightly {settings : Settings} {disk : Disk}
    {failure : LoadFailure} (h : failure.OfExport) : failure.MissesRightly settings disk := by
  rintro dir name rfl
  exact h.elim

namespace Package

open Report (FailsIn)

variable {settings : Settings} {disk : Disk} {root : Path} {location start : Location}

theorem readManifest_missesRightly (settings : Settings) (disk : Disk) (dir : Path) :
    FailsIn (LoadFailure.MissesRightly settings disk)
      (Report.ofExcept (readManifest settings disk dir)) := by
  refine .ofExcept fun failure h => ?_
  rintro missing name rfl
  unfold readManifest at h
  dsimp only at h
  split at h
  · next hread =>
    cases h
    exact hread
  · cases h
  · split at h
    · cases h
    · cases h
    · simp at h

theorem checkedManifest_missesRightly (settings : Settings) (disk : Disk) (dir : Path) :
    FailsIn (LoadFailure.MissesRightly settings disk) (checkedManifest settings disk dir) := by
  refine FailsIn.bind (readManifest_missesRightly settings disk dir) fun manifest => ?_
  refine FailsIn.bind (FailsIn.mapError_any fun cause => ?_) fun _ => FailsIn.pure _
  rintro missing name h
  cases h

theorem declaredPath_missesRightly (dir : Path) (manifest : Manifest) (dependency : Dependency) :
    FailsIn (LoadFailure.MissesRightly settings disk)
      (declaredPath settings dir manifest dependency) := by
  unfold declaredPath
  refine FailsIn.bind (FailsIn.mapError_any fun cause => ?_) fun _ => ?_
  · rintro missing name h
    cases h
  split
  · refine FailsIn.bind (FailsIn.note _) fun _ => ?_
    exact FailsIn.bind (FailsIn.note _) fun _ => FailsIn.pure _
  · exact FailsIn.bind (FailsIn.note _) fun _ => FailsIn.pure _

theorem ofParts_missesRightly (route : List Nat) (dir : Path) (manifest : Manifest)
    (direct : List Package) :
    FailsIn (LoadFailure.MissesRightly settings disk)
      (ofParts settings disk route dir manifest direct) := by
  unfold ofParts
  dsimp only
  split
  · refine FailsIn.fail ?_
    rintro missing name h
    cases h
  · refine FailsIn.bind (fun failure h => ?_) fun _ => FailsIn.pure _
    exact (ownExports_failsIn _ _ _ _ _ failure h).missesRightly

/-- At every depth of a load a manifest is told to be missing only where none is found. -/
theorem load_missesRightly (settings : Settings) (disk : Disk) (dir : Path) :
    FailsIn (LoadFailure.MissesRightly settings disk) (load settings disk dir) := by
  apply loadNested_failsIn
  · rintro dir missing name h
    cases h
  · rintro dir chain missing name h
    cases h
  · exact checkedManifest_missesRightly settings disk
  · exact declaredPath_missesRightly
  · exact ofParts_missesRightly

/-! ## One directory of the search -/

/-- A directory has an entry, of whatever kind, where its manifest is looked for. -/
def hasManifest (settings : Settings) (disk : Disk) (location : Location) : Bool :=
  (disk.tree.get? (settings.manifestName :: location)).isSome

variable (hrooted : disk.tree.Rooted) (hnamed : disk.tree.Named)
  (hplain : Path.Plain settings.manifestName)
include hrooted hnamed hplain

/-- Where there is an entry, no failure says that the manifest of this directory is missing. -/
theorem isMissingHere_of_hasManifest {failure : LoadFailure}
    (hdirectory : disk.tree.isDirectory location = true)
    (hmanifest : hasManifest settings disk location = true)
    (h : (load settings disk location.toPath).result = .error failure) :
    isMissingHere location failure = false := by
  rw [Bool.eq_false_iff]
  intro hmissing
  unfold isMissingHere at hmissing
  split at hmissing
  · next path name =>
    obtain rfl := of_decide_eq_true hmissing
    have hread := load_missesRightly settings disk location.toPath _ h _ _ rfl
    obtain ⟨entry, hentry⟩ := Option.isSome_iff_exists.1 hmanifest
    have hfind : disk.find (location.toPath / settings.manifestName) =
        .ok (settings.manifestName :: location, entry) :=
      Disk.find_ok.2
        ⟨Disk.locate_div (Disk.directory?_toPath hrooted hnamed hdirectory) hplain, hentry⟩
    cases entry <;> simp [Disk.readFile, hfind, bind, Except.bind] at hread
  · cases hmissing

/-- Without an entry the load of a directory ends at its manifest. -/
theorem load_of_not_hasManifest (hdirectory : disk.tree.isDirectory location = true)
    (hmanifest : hasManifest settings disk location = false) :
    load settings disk location.toPath =
      ⟨[.loadingPackage location.toPath],
        .error (.refused (.missingManifest location.toPath settings.manifestName))⟩ := by
  have hdir := Disk.directory?_toPath hrooted hnamed hdirectory
  have hfind : disk.find (location.toPath / settings.manifestName) = .error .notFound :=
    Disk.find_error.2
      (.inr ⟨_, Disk.locate_div hdir hplain,
        Option.isNone_iff_eq_none.1 (Option.isSome_eq_false_iff.1 hmanifest), rfl⟩)
  have hread : readManifest settings disk location.toPath =
      .error (.refused (.missingManifest location.toPath settings.manifestName)) := by
    have hmissing : disk.readFile (location.toPath / settings.manifestName) =
        .error .notFound := by
      rw [Disk.readFile, hfind]
      rfl
    unfold readManifest
    dsimp only
    rw [hmissing]
    rfl
  rw [load, loadNested_of_not_mem hdir List.not_mem_nil, checkedManifest, hread]
  rfl

theorem visit_of_hasManifest (hdirectory : disk.tree.isDirectory location = true)
    (hmanifest : hasManifest settings disk location = true)
    (otherwise : Report FindFailure Package) :
    findFrom.visit settings disk location otherwise =
      (load settings disk location.toPath).mapError .load := by
  unfold findFrom.visit Report.mapError
  dsimp only
  split
  · next package h =>
    rw [h]
    rfl
  · next failure h =>
    rw [isMissingHere_of_hasManifest hrooted hnamed hplain hdirectory hmanifest h, h]
    rfl

theorem visit_of_not_hasManifest (hdirectory : disk.tree.isDirectory location = true)
    (hmanifest : hasManifest settings disk location = false)
    (otherwise : Report FindFailure Package) :
    findFrom.visit settings disk location otherwise =
      ⟨.loadingPackage location.toPath :: otherwise.events, otherwise.result⟩ := by
  unfold findFrom.visit
  rw [load_of_not_hasManifest hrooted hnamed hplain hdirectory hmanifest]
  simp [isMissingHere]

/-! ## The search -/

/-- The first directory from a location on upwards that has an entry for its manifest. -/
def nearest? (settings : Settings) (disk : Disk) (start : Location) : Option Location :=
  start.tails.find? (hasManifest settings disk)

/-- The directories before it, from the innermost on. -/
def passed (settings : Settings) (disk : Disk) (start : Location) : List Location :=
  start.tails.takeWhile fun location => !hasManifest settings disk location

/-- What a search gives that began at a path, once the directory where it ends is known. -/
def foundAt (settings : Settings) (disk : Disk) (root : Path) :
    Option Location → Report FindFailure Package
  | some location => (load settings disk location.toPath).mapError .load
  | none => Report.fail (.find (.notFound root settings.manifestName))

/-- The directories without a manifest entry are passed, and the first one that has one is loaded.
The induction is on the way up. -/
theorem findFrom_eq (root : Path) (hstart : disk.tree.isDirectory start = true) :
    findFrom settings disk root start =
      let found := foundAt settings disk root (nearest? settings disk start)
      ⟨(passed settings disk start).map (fun location => .loadingPackage location.toPath) ++
        found.events, found.result⟩ := by
  induction start with
  | nil =>
    rw [findFrom]
    cases hmanifest : hasManifest settings disk [] with
    | true =>
      rw [visit_of_hasManifest hrooted hnamed hplain hstart hmanifest]
      simp [nearest?, passed, hmanifest, foundAt]
    | false =>
      rw [visit_of_not_hasManifest hrooted hnamed hplain hstart hmanifest]
      simp [nearest?, passed, hmanifest, foundAt]
  | cons name parent ih =>
    have hparent := hrooted.isDirectory_of_suffix hstart (List.suffix_cons name parent)
    rw [findFrom]
    cases hmanifest : hasManifest settings disk (name :: parent) with
    | true =>
      rw [visit_of_hasManifest hrooted hnamed hplain hstart hmanifest]
      simp [nearest?, passed, hmanifest, foundAt]
    | false =>
      rw [visit_of_not_hasManifest hrooted hnamed hplain hstart hmanifest, ih hparent]
      simp [nearest?, passed, hmanifest]

omit hrooted hnamed hplain in
/-- A search from a directory gives exactly what a load of the nearest directory with a manifest
entry gives, be it a package or any failure, also one about another directory that has no manifest.
Before that it only tells of the directories that it passed. Without such a directory the search
says so, about the path that it was given. -/
theorem find_nearest (settings : Settings) (disk : Disk) (root : Path)
    (hrooted : disk.tree.Rooted) (hnamed : disk.tree.Named)
    (hplain : Path.Plain settings.manifestName) (hroot : disk.isDirectory root = true) :
    ∃ start, disk.canonical root = .ok start ∧ disk.tree.isDirectory start = true ∧
      (∀ nearest, nearest? settings disk start = some nearest →
        (find settings disk root).result =
            (load settings disk nearest.toPath).result.mapError .load ∧
          (find settings disk root).events =
            (passed settings disk start).map (fun location => .loadingPackage location.toPath) ++
              (load settings disk nearest.toPath).events) ∧
      (nearest? settings disk start = none →
        (find settings disk root).result =
            .error (.find (.notFound root settings.manifestName)) ∧
          (find settings disk root).events =
            (passed settings disk start).map fun location => .loadingPackage location.toPath) := by
  obtain ⟨start, hdir⟩ := Option.isSome_iff_exists.1 hroot
  have hcanonical := Disk.canonical_of_directory? hdir
  have hdirectory := (Disk.directory?_eq_some.1 hdir).2
  have hfind : find settings disk root = findFrom settings disk root start := by
    rw [find, hcanonical]
  have heq := findFrom_eq hrooted hnamed hplain root hdirectory
  refine ⟨start, hcanonical, hdirectory, ?_, ?_⟩
  · intro nearest hnearest
    rw [hfind, heq, hnearest]
    exact ⟨rfl, rfl⟩
  · intro hnone
    rw [hfind, heq, hnone]
    exact ⟨rfl, List.append_nil _⟩

end Package

namespace Sample

/-- A package that needs one in its own directory. -/
def atlasFile : ManifestFile where
  manifest :=
    { name := "atlas"
      version := "1.0.0"
      dependencies := [⟨"maps", ⟨.relative, ["maps"]⟩⟩] }
  text := "name: atlas\nversion: 1.0.0\ndependencies:\n  maps:\n    path: maps\n"
  written := written_ofList (by decide +kernel)

/-- The needed package has no manifest. -/
def library : Disk where
  tree := ⟨[
    (["atlas"], .directory),
    (["starpkg.yaml", "atlas"], atlasFile.entry),
    (["maps", "atlas"], .directory),
    (["old", "maps", "atlas"], .directory)]⟩

def mapsPath : Path :=
  ⟨.root, ["atlas", "maps"]⟩

/-- A failure of a load that tells of a directory below the one that is loaded. -/
theorem load_atlas : (Package.load {} library ⟨.root, ["atlas"]⟩).result =
    .error (.refused (.missingManifest mapsPath "starpkg.yaml")) := by
  have hdirectory : library.directory? ⟨.root, ["atlas"]⟩ = some ["atlas"] := by decide +kernel
  have hmaps : library.directory? mapsPath = some ["maps", "atlas"] := by decide +kernel
  have hmissing : Package.readManifest {} library mapsPath =
      .error (.refused (.missingManifest mapsPath "starpkg.yaml")) := by decide +kernel
  have hmanifest := atlasFile.checkedManifest hdirectory (by decide +kernel)
  refine Package.loadNested_error.2 (.inr ⟨_, hdirectory, .inr ⟨List.not_mem_nil, .inr
    ⟨atlasFile.manifest, hmanifest, .inl ?_⟩⟩⟩)
  rw [atlasFile, Package.loadDependencies]
  refine Report.result_bind_error.2 (.inr ⟨mapsPath, ?_, Report.result_bind_error.2 (.inl ?_)⟩)
  · exact Package.declaredPath_ok.2 ⟨by decide +kernel, rfl⟩
  · exact Package.loadNested_error.2 (.inr ⟨_, hmaps, .inr ⟨by decide, .inl
      (Report.result_bind_error.2 (.inl hmissing))⟩⟩)

end Sample

namespace Package

/-- The search passes the directory that the failure tells of and still ends with the failure. -/
theorem find_nearest_atlas :
    Sample.library.tree.Rooted ∧ Sample.library.tree.Named ∧ Path.Plain "starpkg.yaml" ∧
      Sample.library.isDirectory ⟨.root, ["atlas", "maps", "old"]⟩ = true ∧
      (find {} Sample.library ⟨.root, ["atlas", "maps", "old"]⟩).result =
        .error (.load (.refused (.missingManifest Sample.mapsPath "starpkg.yaml"))) := by
  have hrooted : Sample.library.tree.Rooted := FileTree.rooted_of_entries (by decide +kernel)
  have hnames : ∀ entry ∈ Sample.library.tree.entries, ∀ name ∈ entry.1,
      '/' ∉ name.toList ∧ name ≠ "" ∧ name ≠ "." ∧ name ≠ ".." := by decide +kernel
  have hnamed : Sample.library.tree.Named :=
    fun entry hentry name hname => Path.plain_of_not_mem (hnames entry hentry name hname)
  have hplain : Path.Plain "starpkg.yaml" := Path.plain_of_not_mem (by decide)
  have hroot : Sample.library.isDirectory ⟨.root, ["atlas", "maps", "old"]⟩ = true := by
    decide +kernel
  obtain ⟨start, hstart, _, hnearest, _⟩ :=
    find_nearest {} Sample.library _ hrooted hnamed hplain hroot
  have hcanonical : Sample.library.canonical ⟨.root, ["atlas", "maps", "old"]⟩ =
      .ok ["old", "maps", "atlas"] := by decide +kernel
  obtain rfl := Except.ok.inj (hstart.symm.trans hcanonical)
  refine ⟨hrooted, hnamed, hplain, hroot, ?_⟩
  have hload : (load {} Sample.library (Location.toPath ["atlas"])).result = _ := Sample.load_atlas
  rw [(hnearest ["atlas"] (by decide +kernel)).1, hload]
  rfl

end Package

end ModPack
