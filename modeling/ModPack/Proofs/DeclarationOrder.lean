import ModPack.Proofs.ReorderedBuilds
import ModPack.Proofs.ReorderedLoads
import ModPack.Proofs.WrittenPackages

/-!
# Builds do not depend on the order of declarations

On disks that differ in the order in which manifests declare dependencies, a package can be built
from both or from neither, every export gets the same index, and the directory that it is built into
holds the same. The directory is a fresh one, so that nothing in it differs at first. It takes that
each name and version is that of one directory, and that no manifest that differs is the source of
an export: files are copied, or read as strings, as they stand. Main statements:
`Package.builds_reordered` and `Package.builds_tell_order`.
-/
namespace ModPack

variable {settings : Settings} {moved : Location → Prop} {first second : Disk} {dir build : Path}
  {built : Site Exports} {location : Location}

/-! ## Fresh directories -/

/-- The locations `moved` that are not in a region. -/
def MovedOutside (moved : Location → Prop) (region location : Location) : Prop :=
  moved location ∧ location.within region = false

namespace Disk

/-- Where the path leads there is nothing, or an empty directory. -/
def Fresh (disk : Disk) (path : Path) : Prop :=
  ∀ entry ∈ disk.tree.entries, entry.1.within (disk.spot path) = true →
    entry = (disk.spot path, .directory)

instance (disk : Disk) (path : Path) : Decidable (disk.Fresh path) :=
  inferInstanceAs (Decidable (∀ entry ∈ disk.tree.entries, _ → _))

/-- No directory is below a fresh one. -/
theorem Fresh.within_div {name : String} (h : first.Fresh build) (hname : Path.Plain name)
    (hdirectory : first.tree.isDirectory location = true) :
    location.within (first.spot (build / name)) = false := by
  rw [spot_div hname, Bool.eq_false_iff]
  intro hwithin
  have hlength := (Location.within_iff.1 hwithin).length_le
  rw [List.length_cons] at hlength
  rcases List.mem_cons.1 (FileTree.mem_directories_of_isDirectory hdirectory) with hroot | hmem
  · rw [hroot, List.length_nil] at hlength
    omega
  obtain ⟨⟨key, entry⟩, hentry, hkey⟩ := List.mem_filterMap.1 hmem
  dsimp only at hkey
  split at hkey
  · cases hkey
    have hspot : first.spot build <:+ name :: first.spot build := List.suffix_cons _ _
    have heq := h _ hentry (Location.within_iff.2 (hspot.trans (Location.within_iff.1 hwithin)))
    obtain ⟨rfl, _⟩ := Prod.ext_iff.1 heq
    dsimp only at hlength
    omega
  · cases hkey

namespace Reordered

variable {manifestName : String} (h : Reordered manifestName moved first second)
include h

theorem fresh (hfresh : first.Fresh build) : second.Fresh build := by
  intro entry hentry hwithin
  obtain ⟨⟨key, old⟩, hold, hkey, hsame⟩ := exists_of_forall₂_right h.tree hentry
  rw [h.spot_eq] at hwithin ⊢
  rw [← hkey] at hwithin
  have heq := hfresh _ hold hwithin
  obtain ⟨rfl, rfl⟩ := Prod.ext_iff.1 heq
  exact Prod.ext hkey.symm (hsame.directory_iff.2 rfl)

/-- In a fresh directory no manifest differs, for there is none. -/
theorem outside (hfresh : first.Fresh build) :
    Reordered manifestName (MovedOutside moved (first.spot build)) first second := by
  refine ⟨fun location hmoved => h.named location hmoved.1, h.workingDirectory, ?_⟩
  refine ((List.forall₂_and_left _ _).2 ⟨hfresh, h.tree⟩).imp ?_
  rintro ⟨key, old⟩ ⟨_, new⟩ ⟨hinside, rfl, hentry⟩
  refine ⟨rfl, ?_⟩
  cases hentry with
  | same => exact .same _
  | manifest hmoved read readOther documents =>
    refine .manifest ⟨hmoved, ?_⟩ read readOther documents
    rw [Bool.eq_false_iff]
    intro hwithin
    cases hinside hwithin

end Reordered

end Disk

/-- A battle script is no manifest. -/
theorem Settings.scriptName_ne_manifestName (environment : Option String) (name : String) :
    name ++ ".bscr" ≠ (ofEnvironment environment).manifestName := by
  rw [manifestName_ofEnvironment]
  intro heq
  have hlast := congrArg (fun text => text.toList.getLast?) heq
  simp at hlast

namespace Package

open Relation (ReflTransGen)

/-! ## Builds side by side -/

/-- The package in a directory can be built into another one, which leaves the site. -/
def Builds (settings : Settings) (disk : Disk) (dir build : Path) (built : Site Exports) : Prop :=
  ∃ package, (load settings disk dir).result = .ok package ∧
    package.assemble disk build = (.ok (), built)

theorem SourcesApart.mono {other : Location → Prop} {disk : Disk}
    (h : SourcesApart settings disk moved dir) (hmono : ∀ location, other location → moved location) :
    SourcesApart settings disk other dir where
  strings listing hlisting entry hentry location hlocation hother :=
    h.strings listing hlisting entry hentry location hlocation (hmono location hother)
  sprites listing hlisting entry hentry location hlocation below hbelow hother :=
    h.sprites listing hlisting entry hentry location hlocation below hbelow (hmono below hother)

theorem Alike.outside (h : Alike settings moved first second location)
    (hfresh : first.Fresh build) :
    Alike settings (MovedOutside moved (first.spot build)) first second location where
  disks := h.disks.outside hfresh
  once := h.once
  apart there hreach dir hdir := (h.apart there hreach dir hdir).mono fun _ hmoved => hmoved.1

/-- Whatever is built from one of the disks is built from the other one as well. -/
theorem Alike.exists_builds (hplain : Path.Plain settings.manifestName)
    (hsheet : LoadError.sheetName ≠ settings.manifestName)
    (hscripts : ∀ name, name ++ ".bscr" ≠ settings.manifestName)
    (h : Alike settings moved first second location) (hdir : first.directory? dir = some location)
    (hfresh : first.Fresh build) (hbuilds : Builds settings first dir build built) :
    ∃ rebuilt, Builds settings second dir build rebuilt ∧
      Site.Twin settings.manifestName (MovedOutside moved (first.spot build)) first second built
        rebuilt := by
  obtain ⟨package, hload, hrun⟩ := hbuilds
  have halike := h.outside hfresh
  obtain ⟨twin, htwin, hheld⟩ := load_reordered hplain hsheet halike hdir hload
  have hstrings : Path.Plain "strings" := Path.plain_of_not_mem (by decide)
  have hstart : Site.Twin settings.manifestName (MovedOutside moved (first.spot build)) first second
      ⟨first, [], package.exports⟩ ⟨second, [], twin.exports⟩ :=
    ⟨halike.disks, .refl first, hheld⟩
  obtain ⟨rebuilt, hrebuilt, hsite⟩ := Assembly.run_twin hscripts halike.disks
    (fun _ => hfresh.within_div hstrings) hstart hrun
  exact ⟨rebuilt, ⟨twin, htwin, hrebuilt⟩, hsite⟩

theorem Builds.directory? (h : Builds settings first dir build built) :
    ∃ start, first.directory? dir = some start := by
  obtain ⟨package, hload, _⟩ := h
  obtain ⟨start, _, _, hstart, _⟩ := loadNested_ok.1 hload
  exact ⟨start, hstart⟩

theorem Builds.eq {rebuilt : Site Exports} (h : Builds settings first dir build built)
    (h' : Builds settings first dir build rebuilt) : rebuilt = built := by
  obtain ⟨package, hload, hrun⟩ := h
  obtain ⟨other, hload', hrun'⟩ := h'
  rw [hload] at hload'
  cases hload'
  rw [hrun] at hrun'
  exact (Prod.mk.inj hrun').2.symm

/-- A package is built from both disks or from neither. When it is, all exports have the same
indices on both, and what is in the directory it is built into is the same. -/
theorem builds_reordered {environment : Option String}
    (hdisks : Disk.Reordered (Settings.ofEnvironment environment).manifestName moved first second)
    (honce : ∀ start, first.directory? dir = some start → ∀ identity,
      DeclaredOnce (.ofEnvironment environment) first start identity)
    (hapart : ∀ start, first.directory? dir = some start →
      ∀ there, ReflTransGen (DependsOn (.ofEnvironment environment) first) start there →
        ∀ path, first.directory? path = some there →
          SourcesApart (.ofEnvironment environment) first moved path)
    (hfresh : first.Fresh build) :
    ((∃ built, Builds (.ofEnvironment environment) first dir build built) ↔
        ∃ rebuilt, Builds (.ofEnvironment environment) second dir build rebuilt) ∧
      ∀ built rebuilt, Builds (.ofEnvironment environment) first dir build built →
        Builds (.ofEnvironment environment) second dir build rebuilt →
          (∀ kind id, (rebuilt.held.record? kind id).map Export.index? =
            (built.held.record? kind id).map Export.index?) ∧
          ∀ location, location.within (first.spot build) = true →
            rebuilt.disk.tree.get? location = built.disk.tree.get? location := by
  have hplain := Settings.plain_manifestName environment
  have hsheet := Settings.sheetName_ne_manifestName environment
  have hscripts := Settings.scriptName_ne_manifestName environment
  have halike (start : Location) (hstart : first.directory? dir = some start) :
      Alike (.ofEnvironment environment) moved first second start :=
    ⟨hdisks, honce start hstart, hapart start hstart⟩
  refine ⟨⟨?_, ?_⟩, ?_⟩
  · rintro ⟨built, hbuilds⟩
    obtain ⟨start, hstart⟩ := hbuilds.directory?
    obtain ⟨rebuilt, hrebuilds, _⟩ :=
      (halike start hstart).exists_builds hplain hsheet hscripts hstart hfresh hbuilds
    exact ⟨rebuilt, hrebuilds⟩
  · rintro ⟨rebuilt, hrebuilds⟩
    obtain ⟨start, hstart⟩ := hrebuilds.directory?
    have hbeside := (hdisks.directory?_eq (hdisks.locate_eq dir)).symm.trans hstart
    obtain ⟨built, hbuilds, _⟩ := (halike start hbeside).symm.exists_builds hplain hsheet hscripts
      hstart (hdisks.fresh hfresh) hrebuilds
    exact ⟨built, hbuilds⟩
  · intro built rebuilt hbuilds hrebuilds
    obtain ⟨start, hstart⟩ := hbuilds.directory?
    obtain ⟨twin, htwin, hsite⟩ :=
      (halike start hstart).exists_builds hplain hsheet hscripts hstart hfresh hbuilds
    cases hrebuilds.eq htwin
    refine ⟨hsite.held.index_eq, fun location hwithin => ?_⟩
    have hentry := hsite.disks.tree.get? location
    have hnot : ¬ MovedOutside moved (first.spot build) location := fun hmoved => by
      rw [hmoved.2] at hwithin
      cases hwithin
    generalize built.disk.tree.get? location = old at hentry ⊢
    generalize rebuilt.disk.tree.get? location = new at hentry ⊢
    cases hentry with
    | none => rfl
    | some hsame => rw [hsame.eq_of_not hnot]

end Package

namespace Sample

/-! ## A package with two dependencies -/

/-- Manifests of packages that are near the root are no sources of exports. -/
theorem sourcesApart_of_length {disk : Disk}
    (hnames : ∀ entry ∈ disk.tree.entries, ∀ name ∈ entry.1, Path.Plain name)
    (hshort : ∀ location, moved location → location.length ≤ 2) (dir : Path) :
    Package.SourcesApart {} disk moved dir := by
  have hlength {kind : String} {listing : List (String × Entry)} {entry : String × Entry}
      (hkind : Path.Plain kind) (hlisting : disk.list (dir / "src" / kind) = .ok listing)
      (hentry : entry ∈ listing) : 2 < (disk.spot (dir / "src" / kind / entry.1)).length := by
    obtain ⟨there, _, rfl⟩ := Disk.list_ok.1 hlisting
    have hname := hnames _ (FileTree.mem_children hentry) entry.1 List.mem_cons_self
    have hsource : Path.Plain "src" := Path.plain_of_not_mem (by decide)
    rw [Disk.spot_div hname, Disk.spot_div hkind, Disk.spot_div hsource]
    simp
  constructor
  · intro listing hlisting entry hentry location hlocation hmoved
    have hlong := hlength (Path.plain_of_not_mem (by decide)) hlisting hentry
    have hle := hshort location hmoved
    rw [Disk.eq_spot_of_locate hlocation] at hle
    exact absurd hle (Nat.not_le.2 hlong)
  · intro listing hlisting entry hentry location hlocation below hbelow hmoved
    have hlong := hlength (Path.plain_of_not_mem (by decide)) hlisting hentry
    have hle := (Location.within_iff.1 hbelow).length_le.trans (hshort below hmoved)
    rw [Disk.eq_spot_of_directory? hlocation] at hle
    exact absurd hle (Nat.not_le.2 hlong)

/-- The package with its dependencies in the other order. -/
def turnedFile : ManifestFile where
  manifest := { appFile.manifest with dependencies := appFile.manifest.dependencies.reverse }
  text := "name: app\nversion: 1.0.0\n" ++
    "dependencies:\n  hub:\n    path: ../hub\n  base:\n    path: ../base\n"
  written := written_append (by decide +kernel)

def turnedShelf : Disk :=
  shelf.withEntry ["starpkg.yaml", "app"] turnedFile.entry

theorem reordered_shelf :
    Disk.Reordered "starpkg.yaml" (· = ["starpkg.yaml", "app"]) shelf turnedShelf where
  named := by
    rintro _ rfl
    rfl
  workingDirectory := rfl
  tree := by
    have hperm : appFile.manifest.dependencies.Perm turnedFile.manifest.dependencies :=
      (List.reverse_perm _).symm
    exact .of_put (List.cons_ne_nil _ _) rfl (appFile.reordered rfl rfl rfl hperm)

theorem plain_shelf : ∀ entry ∈ shelf.tree.entries, ∀ name ∈ entry.1, Path.Plain name := by
  have hnames : ∀ entry ∈ shelf.tree.entries, ∀ name ∈ entry.1,
      '/' ∉ name.toList ∧ name ≠ "" ∧ name ≠ "." ∧ name ≠ ".." := by decide +kernel
  exact fun entry hentry name hname => Path.plain_of_not_mem (hnames entry hentry name hname)

def freshPath : Path :=
  ⟨.root, ["build"]⟩

/-- What building the package leaves. -/
def shelved : Site Exports :=
  (shelfApp.assemble shelf freshPath).2

theorem builds_shelf : Package.Builds {} shelf appPath freshPath shelved :=
  ⟨shelfApp, load_shelf, eq_of_toOption (by decide +kernel)⟩

end Sample

/-- The package with two dependencies is built in the same way when they are declared in the other
order. -/
theorem Package.builds_reordered_shelf :
    Disk.Reordered "starpkg.yaml" (· = ["starpkg.yaml", "app"]) Sample.shelf Sample.turnedShelf ∧
      (∀ start identity, DeclaredOnce {} Sample.shelf start identity) ∧
      (∀ dir, SourcesApart {} Sample.shelf (· = ["starpkg.yaml", "app"]) dir) ∧
      Sample.shelf.Fresh Sample.freshPath ∧
      Builds {} Sample.shelf Sample.appPath Sample.freshPath Sample.shelved ∧
      ∃ rebuilt, Builds {} Sample.turnedShelf Sample.appPath Sample.freshPath rebuilt ∧
        (∀ kind id, (rebuilt.held.record? kind id).map Export.index? =
          (Sample.shelved.held.record? kind id).map Export.index?) ∧
        ∀ location, location.within ["build"] = true →
          rebuilt.disk.tree.get? location = Sample.shelved.disk.tree.get? location := by
  have hdisks : Disk.Reordered (Settings.ofEnvironment none).manifestName
      (· = ["starpkg.yaml", "app"]) Sample.shelf Sample.turnedShelf := Sample.reordered_shelf
  have honce := Sample.shelfInventory.declaredOnce
  have hapart : ∀ dir, SourcesApart {} Sample.shelf (· = ["starpkg.yaml", "app"]) dir := by
    refine Sample.sourcesApart_of_length Sample.plain_shelf ?_
    rintro _ rfl
    decide
  have hfresh : Sample.shelf.Fresh Sample.freshPath := by decide +kernel
  have hbuilds : Builds (.ofEnvironment none) Sample.shelf Sample.appPath Sample.freshPath
      Sample.shelved := Sample.builds_shelf
  obtain ⟨heither, hsame⟩ := builds_reordered hdisks (fun start _ => honce start)
    (fun _ _ _ _ path _ => hapart path) hfresh
  obtain ⟨rebuilt, hrebuilds⟩ := heither.1 ⟨_, hbuilds⟩
  exact ⟨hdisks, honce, hapart, hfresh, hbuilds, rebuilt, hrebuilds, hsame _ _ hbuilds hrebuilds⟩

namespace Sample

/-! ## A manifest that is the source of an export -/

/-- A package whose strings are in the directory of another package. -/
def hostFile : ManifestFile where
  manifest := { name := "host", version := "1.0.0" }
  text := "name: host\nversion: 1.0.0\ndependencies: \x7b\x7d\n"
  written := written_ofList (by decide +kernel)

/-- The package in that directory needs the other one, under two names. The first line of its
manifest is a comment; in a strings file it begins a string. -/
def guestFile : ManifestFile where
  manifest :=
    { name := "guest"
      version := "1.0.0"
      dependencies :=
        [⟨"host", ⟨.relative, ["..", ".."]⟩⟩, ⟨"more", ⟨.relative, ["..", ".."]⟩⟩] }
  text := "#string:01:(greeting)\nname: guest\nversion: 1.0.0\n" ++
    "dependencies:\n  host:\n    path: ../..\n  more:\n    path: ../..\n"
  written := written_append (by decide +kernel)

def turnedGuestFile : ManifestFile where
  manifest := { guestFile.manifest with dependencies := guestFile.manifest.dependencies.reverse }
  text := "#string:01:(greeting)\nname: guest\nversion: 1.0.0\n" ++
    "dependencies:\n  more:\n    path: ../..\n  host:\n    path: ../..\n"
  written := written_append (by decide +kernel)

def guestLocation : Location :=
  ["string", "src", "host"]

def guestPath : Path :=
  ⟨.root, ["host", "src", "string"]⟩

def hostPath : Path :=
  ⟨.root, ["host", "src", "string", "..", ".."]⟩

def hosted : Disk where
  tree := ⟨[
    (["host"], .directory),
    (["starpkg.yaml", "host"], hostFile.entry),
    (["src", "host"], .directory),
    (guestLocation, .directory),
    ("starpkg.yaml" :: guestLocation, guestFile.entry)]⟩

def turnedHosted : Disk :=
  hosted.withEntry ("starpkg.yaml" :: guestLocation) turnedGuestFile.entry

/-- The host under each of its two names. -/
def hosts (disk : Disk) : List Package :=
  [packageOf disk [0] hostPath hostFile.manifest [],
    packageOf disk [1] hostPath hostFile.manifest []]

def guestPackage (disk : Disk) (file : ManifestFile) : Package :=
  packageOf disk [] guestPath file.manifest (hosts disk)

/-- What building the guest leaves. -/
def guestBuilt (disk : Disk) (file : ManifestFile) : Site Exports :=
  ((guestPackage disk file).assemble disk freshPath).2

/-- The file of the string that is built. -/
def stringLocation : Location :=
  ["00010000.str", "strings", "build"]

/-- The guest is built from a disk, and its string is written so. -/
structure GuestBuilds (disk : Disk) (file : ManifestFile) (written : String) : Prop where
  builds : Package.Builds {} disk guestPath freshPath (guestBuilt disk file)
  string : (guestBuilt disk file).disk.tree.get? stringLocation =
    some (.file (Utf8.encode written))

section Guest

variable {disk : Disk} {file : ManifestFile} {name other : String}
  (hdeclared : file.manifest.dependencies =
    [⟨name, ⟨.relative, ["..", ".."]⟩⟩, ⟨other, ⟨.relative, ["..", ".."]⟩⟩])
  (hfile : disk.tree.get? ("starpkg.yaml" :: guestLocation) = some file.entry)
  (hhostFile : disk.tree.get? ["starpkg.yaml", "host"] = some hostFile.entry)
  (hguest : disk.directory? guestPath = some guestLocation)
  (hhost : disk.directory? hostPath = some ["host"])
  (hnames : Name.dependencyFault? name file.manifest.name = none ∧
    Name.dependencyFault? other file.manifest.name = none)
include hdeclared hfile hhostFile hguest hhost hnames

/-- A guest that declares its host under two names is loaded. -/
theorem load_guest (hexports : (exportsOf disk hostPath hostFile.manifest []).isSome)
    (hheld : (exportsOf disk guestPath file.manifest (hosts disk)).isSome) :
    (Package.load {} disk guestPath).result = .ok (guestPackage disk file) := by
  have hload (route : List Nat) : (Package.loadNested {} disk [guestLocation] route hostPath).result =
      .ok (packageOf disk route hostPath hostFile.manifest []) :=
    loadNested_alone hhost (by decide) (hostFile.checkedManifest hhost hhostFile) rfl hexports
  -- The host is one package under both names.
  have honce : (Package.flatten (hosts disk)).map Package.name = ["host"] := rfl
  have hjoin : guestPath.join ⟨.relative, ["..", ".."]⟩ = hostPath := rfl
  refine loadNested_packageOf hguest List.not_mem_nil (file.checkedManifest hguest hfile) ?_
    (honce ▸ List.nodup_singleton _) hheld
  rw [hdeclared]
  refine Package.loadDependencies_cons_ok.2 ⟨hnames.1, _, hjoin ▸ hload [0], _, ?_, rfl⟩
  exact Package.loadDependencies_cons_ok.2 ⟨hnames.2, _, hjoin ▸ hload [1], [],
    Package.loadDependencies_nil, rfl⟩

/-- What is to be evaluated for the build of a guest. -/
theorem guestBuilds_of {written : String}
    (h : (exportsOf disk hostPath hostFile.manifest []).isSome ∧
      (exportsOf disk guestPath file.manifest (hosts disk)).isSome ∧
      ((guestPackage disk file).assemble disk freshPath).1.toOption = some () ∧
      (guestBuilt disk file).disk.tree.get? stringLocation = some (.file (Utf8.encode written))) :
    GuestBuilds disk file written := by
  obtain ⟨hexports, hheld, hdone, hstring⟩ := h
  have hload := load_guest hdeclared hfile hhostFile hguest hhost hnames hexports hheld
  exact ⟨⟨_, hload, eq_of_toOption hdone⟩, hstring⟩

end Guest

theorem guestBuilds_hosted : GuestBuilds hosted guestFile
    ("#string:01:000\nname: guest\nversion: 1.0.0\n" ++
      "dependencies:\nhost:\npath: ../..\nmore:\npath: ../..") :=
  guestBuilds_of rfl rfl rfl rfl rfl (by decide +kernel) (by decide +kernel)

theorem guestBuilds_turnedHosted : GuestBuilds turnedHosted turnedGuestFile
    ("#string:01:000\nname: guest\nversion: 1.0.0\n" ++
      "dependencies:\nmore:\npath: ../..\nhost:\npath: ../..") :=
  guestBuilds_of rfl rfl rfl rfl rfl (by decide +kernel) (by decide +kernel)

def hostedInventory : Inventory hosted where
  packages := [(["host"], hostFile), (guestLocation, guestFile)]
  complete := by decide +kernel
  files := by decide +kernel
  distinct := by decide

theorem reordered_hosted :
    Disk.Reordered "starpkg.yaml" (· = "starpkg.yaml" :: guestLocation) hosted turnedHosted where
  named := by
    rintro _ rfl
    rfl
  workingDirectory := rfl
  tree := by
    have hperm : guestFile.manifest.dependencies.Perm turnedGuestFile.manifest.dependencies :=
      (List.reverse_perm _).symm
    exact .of_put (List.cons_ne_nil _ _) rfl (guestFile.reordered rfl rfl rfl hperm)

end Sample

/-- A manifest that is read as a strings file as well brings the order of its declarations into what
is built. -/
theorem Package.builds_tell_order :
    ¬ ∀ (moved : Location → Prop) (first second : Disk) (dir build : Path) (start : Location),
      Disk.Reordered "starpkg.yaml" moved first second → first.directory? dir = some start →
        (∀ identity, DeclaredOnce {} first start identity) → first.Fresh build →
          ∀ built rebuilt, Builds {} first dir build built → Builds {} second dir build rebuilt →
            ∀ location, location.within (first.spot build) = true →
              rebuilt.disk.tree.get? location = built.disk.tree.get? location := by
  intro hall
  have hdir : Sample.hosted.directory? Sample.guestPath = some Sample.guestLocation := by
    decide +kernel
  have hfresh : Sample.hosted.Fresh Sample.freshPath := by decide +kernel
  have hwithin : Sample.stringLocation.within (Sample.hosted.spot Sample.freshPath) = true := by
    decide +kernel
  have hsame := hall _ _ _ _ _ _ Sample.reordered_hosted hdir (Sample.hostedInventory.declaredOnce _)
    hfresh _ _ Sample.guestBuilds_hosted.builds Sample.guestBuilds_turnedHosted.builds _ hwithin
  rw [Sample.guestBuilds_hosted.string, Sample.guestBuilds_turnedHosted.string] at hsame
  exact absurd hsame (by decide +kernel)

end ModPack
