import ModPack.Package.New
import ModPack.Proofs.ExportOrigins
import ModPack.Proofs.MakingDirectories
import ModPack.Proofs.WorkSteps

/-!
# What a new package leaves alone

A new package goes into a directory that is empty then, or into a directory of its own name that was
there before; in both there is no manifest, and only the second one can hold anything else. So all
that is there stays, but for one file: the ignore file of a directory that has the name of the
package. Main statements: `Placed.place` and `Package.new_replaces`.
-/
namespace ModPack

open Disk (Grows Keeps)

/-! ## Entries of a directory -/

namespace Disk

variable {disk before between after : Disk} {dir path : Path} {location place : Location}
  {name : String}

theorem pathExists_eq_false :
    disk.pathExists path = false ↔ ∃ error, disk.find path = .error error := by
  rw [pathExists]
  cases disk.find path with
  | error error => simp [Except.isOk, Except.toBool]
  | ok found => simp [Except.isOk, Except.toBool]

theorem pathExists_of_directory? (h : disk.directory? dir = some location) :
    disk.pathExists dir = true := by
  obtain ⟨hlocate, hdirectory⟩ := directory?_eq_some.1 h
  rw [pathExists, find_ok.2 ⟨hlocate, FileTree.isDirectory_iff.1 hdirectory⟩]
  rfl

/-- An entry of a directory exists when something is found at its place. -/
theorem pathExists_div (h : disk.directory? dir = some location) (hname : Path.Plain name) :
    disk.pathExists (dir / name) = (disk.tree.get? (name :: location)).isSome := by
  have hlocate := locate_div h hname
  cases hentry : disk.tree.get? (name :: location) with
  | none => exact pathExists_eq_false.2 ⟨_, find_error.2 (.inr ⟨_, hlocate, hentry, rfl⟩)⟩
  | some entry =>
    rw [pathExists, find_ok.2 ⟨hlocate, hentry⟩]
    rfl

/-- What happens when a text is written to an entry of a directory. -/
theorem outcome_writeText_div (h : disk.directory? dir = some location)
    (hname : Path.Plain name) (text : String) :
    outcome (writeText (dir / name) text) disk =
      if disk.tree.isDirectory (name :: location) then (.error .isDirectory, disk)
      else (.ok (), disk.withEntry (name :: location) (.file (Utf8.encode text))) := by
  unfold writeText writeBytes
  rw [outcome_get_bind, outcome_ofExcept_bind, locate_div h hname]
  dsimp only
  split <;> rfl

/-- Everything that is there stays as it is, but for what is at one place. -/
structure GrowsBut (place : Location) (before after : Disk) : Prop where
  workingDirectory : after.workingDirectory = before.workingDirectory
  found : ∀ location entry, location ≠ place → before.tree.get? location = some entry →
    after.tree.get? location = some entry

theorem GrowsBut.refl (place : Location) (disk : Disk) : GrowsBut place disk disk :=
  ⟨rfl, fun _ _ _ h => h⟩

theorem GrowsBut.trans (h : GrowsBut place before between) (h' : GrowsBut place between after) :
    GrowsBut place before after :=
  ⟨h'.workingDirectory.trans h.workingDirectory, fun location entry hne hfound =>
    h'.found location entry hne (h.found location entry hne hfound)⟩

theorem Grows.but (h : Grows before after) (place : Location) : GrowsBut place before after :=
  ⟨h.workingDirectory, fun location entry _ => h.found location entry⟩

/-- Where nothing was at the place, everything stays. -/
theorem GrowsBut.grows (h : GrowsBut place before after)
    (hplace : before.tree.get? place = none) : Grows before after := by
  refine ⟨h.workingDirectory, fun location entry hfound => h.found location entry ?_ hfound⟩
  rintro rfl
  rw [hplace] at hfound
  cases hfound

theorem GrowsBut.withEntry (hplace : place ≠ []) (entry : Entry) :
    GrowsBut place disk (disk.withEntry place entry) := by
  refine ⟨rfl, fun location found hne hfound => ?_⟩
  rw [get?_withEntry_of_ne hplace hne]
  exact hfound

/-- Writing a text changes at most the place of the entry. -/
theorem writeText_div_growsBut (h : disk.directory? dir = some location)
    (hname : Path.Plain name) (text : String) :
    GrowsBut (name :: location) disk (outcome (writeText (dir / name) text) disk).2 := by
  rw [outcome_writeText_div h hname]
  split
  · exact GrowsBut.refl _ disk
  · exact GrowsBut.withEntry (List.cons_ne_nil _ _) _

end Disk

/-! ## Names of entries -/

theorem Settings.plain_ignoreFileName (environment : Option String) :
    Path.Plain (ofEnvironment environment).ignoreFileName := by
  have hignore : (ofEnvironment environment).ignoreFileName = ".gitignore" := by
    cases environment <;> rfl
  rw [hignore]
  exact Path.plain_of_not_mem (by decide)

/-- The name of a package is a component of a path. -/
theorem Path.plain_of_packageFault? {name : String} (h : Name.packageFault? name = none) :
    Plain name := by
  have hplain : Plain (name ++ "") :=
    plain_of_fault? (Name.fault?_of_packageFault? h) (by decide)
  rwa [String.append_empty] at hplain

/-! ## Where a new package goes -/

namespace Package

open Disk (GrowsBut makeDirectory makeDirectories)
open Work (outcome outcome_bind outcome_bind_ok outcome_seq_ok outcome_onDisk_ok
  outcome_ofExcept_ok Leaves FailsIn)

variable {settings : Settings} {disk between : Disk} {site after : Site Unit} {dir chosen : Path}
  {name : String} {location : Location} {package : Package}

/-- The ways in which a directory is chosen for a new package: it is made where nothing is, it is
there and empty, or it is the one with the name of the package in a directory that has entries. -/
inductive Placed (disk : Disk) (dir : Path) (name : String) : Path → Disk → Prop
  | made {after : Disk} (absent : disk.pathExists dir = false)
      (run : Disk.outcome (makeDirectories false dir) disk = (.ok (), after)) :
      Placed disk dir name dir after
  | empty (listing : disk.list dir = .ok []) : Placed disk dir name dir disk
  | below {after : Disk} {entries : List (String × Entry)}
      (listing : disk.list dir = .ok entries) (entries_ne : entries ≠ [])
      (run : Disk.outcome (makeDirectory true (dir / name)) disk = (.ok (), after)) :
      Placed disk dir name (dir / name) after

theorem newDirectory_ok
    (h : outcome (newDirectory settings dir name) site = (.ok chosen, after)) :
    Placed site.disk dir name chosen after.disk := by
  unfold newDirectory at h
  rw [Work.outcome_disk_bind] at h
  split at h
  · obtain ⟨entries, between, hread, h⟩ := outcome_bind_ok.1 h
    obtain ⟨hresult, rfl⟩ := outcome_ofExcept_ok.1 hread
    have hlist := mapError_eq_ok.1 hresult
    split at h
    · next hempty =>
      cases h
      exact .empty (List.isEmpty_iff.1 hempty ▸ hlist)
    · next hempty =>
      have hentries : entries ≠ [] := fun heq => hempty (List.isEmpty_iff.2 heq)
      split at h
      all_goals
        simp only [Work.outcome_note_bind] at h
        obtain ⟨_, hmake, h⟩ := outcome_seq_ok.1 h
        obtain ⟨_, hrun, rfl⟩ := outcome_onDisk_ok.1 hmake
        cases h
        exact .below hlist hentries hrun
  · next habsent =>
    obtain ⟨_, hmake, h⟩ := outcome_seq_ok.1 h
    obtain ⟨_, hrun, rfl⟩ := outcome_onDisk_ok.1 hmake
    cases h
    exact .made (Bool.eq_false_iff.2 habsent) hrun

theorem grows_bind {α β : Type} {first : Work Unit NewFailure α}
    {next : α → Work Unit NewFailure β} (h : Leaves Grows first site)
    (hnext : ∀ value between, outcome first site = (.ok value, between) →
      Leaves Grows (next value) between) : Leaves Grows (first >>= next) site :=
  .bind (fun _ _ _ hfirst hsecond => hfirst.trans hsecond) h hnext

/-- Choosing a directory makes directories at most, whatever comes of it. -/
theorem newDirectory_grows : Leaves Grows (newDirectory settings dir name) site := by
  have hbelow (site : Site Unit) : Leaves Grows (do
      Work.onDisk (makeDirectory true (dir / name)) NewFailure.system
      return dir / name) site :=
    grows_bind (.onDisk (Disk.makeDirectory_grows _ _ _)) fun _ _ _ => .pure Grows.refl _ _
  unfold newDirectory
  refine .disk_bind ?_
  split
  · refine grows_bind (.ofExcept Grows.refl _ _) fun entries _ _ => ?_
    split
    · exact .pure Grows.refl _ _
    · split
      · exact .note_bind (.note_bind (hbelow _))
      · exact .note_bind (hbelow _)
  · exact grows_bind (.onDisk (Disk.makeDirectories_grows _ _ _)) fun _ _ _ => .pure Grows.refl _ _

/-- Only the system keeps a directory from being chosen. -/
theorem newDirectory_failsIn :
    FailsIn (fun failure => ∃ error, failure = .system error) (newDirectory settings dir name)
      site := by
  have hbelow (site : Site Unit) : FailsIn (fun failure => ∃ error, failure = .system error) (do
      Work.onDisk (makeDirectory true (dir / name)) NewFailure.system
      return dir / name) site :=
    .bind (.onDisk (fun error => ⟨error, rfl⟩) _) fun _ _ _ => .pure _ _
  unfold newDirectory
  refine .disk_bind ?_
  split
  · refine .bind (.ofExcept (fun failure h => ?_) _) fun entries _ _ => ?_
    · obtain ⟨error, _, rfl⟩ := mapError_eq_error.1 h
      exact ⟨error, rfl⟩
    split
    · exact .pure _ _
    · split
      · exact .note_bind (.note_bind (hbelow _))
      · exact .note_bind (hbelow _)
  · exact .bind (.onDisk (fun error => ⟨error, rfl⟩) _) fun _ _ _ => .pure _ _

namespace Placed

theorem grows (h : Placed disk dir name chosen between) : Grows disk between := by
  cases h with
  | made _ hrun => exact Disk.grows_of_makeDirectories hrun
  | empty _ => exact Grows.refl disk
  | below _ _ hrun =>
    have hgrows := Disk.makeDirectory_grows true (dir / name) disk
    rwa [hrun] at hgrows

/-- The directory that is chosen is empty, or it was there and has the name of the package. -/
theorem place (hrooted : disk.Rooted) (hname : Path.Plain name)
    (h : Placed disk dir name chosen between) :
    ∃ location, between.directory? chosen = some location ∧ between.Rooted ∧
      (between.tree.children location = [] ∨
        between = disk ∧ chosen = dir / name ∧
          ∃ here, disk.directory? dir = some here ∧ location = name :: here) := by
  cases h with
  | made _ hrun =>
    have hstart := hrooted.isDirectory_start dir
    have htree : between.tree.Rooted := by
      have hmade := Disk.makeDirectories_rooted false dir disk hrooted.tree hstart
      rwa [hrun] at hmade
    refine ⟨_, Disk.directory?_of_makeDirectories hrun, ⟨htree, ?_⟩,
      .inl (Disk.children_of_makeDirectories hrooted.tree hstart hrun)⟩
    have hkeeps := (Disk.grows_of_makeDirectories hrun).keeps
    rw [hkeeps.workingDirectory]
    exact hkeeps.directories _ hrooted.workingDirectory
  | empty hlist =>
    obtain ⟨location, hdir, hchildren⟩ := Disk.list_ok.1 hlist
    exact ⟨location, hdir, hrooted, .inl hchildren⟩
  | below hlist _ hrun =>
    obtain ⟨here, hdir, _⟩ := Disk.list_ok.1 hlist
    have hlocate := Disk.locate_div hdir hname
    obtain ⟨location, hlocation, hmade⟩ := Disk.outcome_makeDirectory_ok.1 hrun
    obtain rfl := Except.ok.inj (hlocate.symm.trans hlocation)
    rcases hmade with ⟨hnone, rfl⟩ | ⟨_, hdirectory, rfl⟩
    · have hne : name :: here ≠ [] := List.cons_ne_nil _ _
      have hkeeps : Keeps disk (disk.withEntry (name :: here) .directory) :=
        (Grows.withEntry hnone).keeps
      have hput := FileTree.children_put_self .directory hnone
      rw [hrooted.tree.children_eq_nil hnone] at hput
      refine ⟨name :: here, ?_, ?_, .inl hput.eq_nil⟩
      · exact Disk.directory?_eq_some.2
          ⟨hkeeps.locate hlocate, FileTree.isDirectory_iff.2 (Disk.get?_withEntry_self hne)⟩
      · exact hrooted.withEntry hne (Disk.directory?_eq_some.1 hdir).2 (.inl rfl)
    · exact ⟨name :: here, Disk.directory?_div hdir hname hdirectory, hrooted,
        .inr ⟨rfl, rfl, here, hdir, rfl⟩⟩

end Placed

/-! ## What is written -/

/-- The manifest of a new package. -/
def newManifest (settings : Settings) (name : String) : Manifest :=
  { name, version := settings.initialVersion }

/-- A new package as it is given back. -/
def begun (settings : Settings) (dir : Path) (name : String) : Package :=
  { route := [], dir, manifest := newManifest settings name, dependencies := [], exports := {} }

/-- What comes to a directory beside the manifest. -/
def furnish (settings : Settings) (dir : Path) (name : String) : Work Unit NewFailure Package := do
  Work.onDisk (Disk.writeText (dir / settings.ignoreFileName) settings.ignoreFileContents) .system
  Work.onDisk (makeDirectory true (dir / settings.sourceDirectory)) .system
  return begun settings dir name

/-- Begins the package in the directory that was chosen. -/
def newIn (settings : Settings) (dir : Path) (name : String) : Work Unit NewFailure Package := do
  if (← Work.disk).pathExists (dir / settings.manifestName) then throw (.occupied dir)
  Work.onDisk (Disk.writeText (dir / settings.manifestName) (newManifest settings name).written)
    .system
  furnish settings dir name

theorem new_eq : new settings dir name = (do
    Work.ofExcept ((Name.checkPackage name).mapError .name)
    newIn settings (← newDirectory settings dir name) name) := rfl

section Directory

variable (hdir : site.disk.directory? dir = some location)
include hdir

/-- Beside another manifest nothing is done. -/
theorem outcome_newIn (hmanifest : Path.Plain settings.manifestName) :
    outcome (newIn settings dir name) site =
      if (site.disk.tree.get? (settings.manifestName :: location)).isSome then
        (.error (.occupied dir), site)
      else
        outcome (furnish settings dir name)
          { site with
            disk := site.disk.withEntry (settings.manifestName :: location)
              (.file (Utf8.encode (newManifest settings name).written)) } := by
  unfold newIn
  rw [Work.outcome_disk_bind, Disk.pathExists_div hdir hmanifest]
  split
  · rfl
  · next hfree =>
    have hnone : site.disk.tree.get? (settings.manifestName :: location) = none := by
      simpa using hfree
    have hfile : site.disk.tree.isDirectory (settings.manifestName :: location) = false := by
      simp [FileTree.isDirectory, hnone]
    have hwrite := Disk.outcome_writeText_div hdir hmanifest (newManifest settings name).written
    rw [if_neg (by simp [hfile])] at hwrite
    exact Work.outcome_bind_of_ok (outcome_onDisk_ok.2 ⟨_, hwrite, rfl⟩)

theorem furnish_leaves (hignore : Path.Plain settings.ignoreFileName) :
    Leaves (GrowsBut (settings.ignoreFileName :: location)) (furnish settings dir name) site := by
  refine .bind (fun _ _ _ hfirst hsecond => hfirst.trans hsecond)
    (.onDisk (Disk.writeText_div_growsBut hdir hignore _)) fun _ _ _ => ?_
  exact .bind (fun _ _ _ hfirst hsecond => hfirst.trans hsecond)
    (.onDisk ((Disk.makeDirectory_grows _ _ _).but _)) fun _ _ _ => .pure (GrowsBut.refl _) _ _

/-- Where no directory is, the ignore file gets its contents, even if the source directory cannot be
made after that. -/
theorem furnish_writes (hignore : Path.Plain settings.ignoreFileName)
    (hfile : site.disk.tree.isDirectory (settings.ignoreFileName :: location) = false) :
    (outcome (furnish settings dir name) site).2.disk.tree.get?
      (settings.ignoreFileName :: location) =
        some (.file (Utf8.encode settings.ignoreFileContents)) := by
  have hwrite := Disk.outcome_writeText_div hdir hignore settings.ignoreFileContents
  rw [if_neg (by simp [hfile])] at hwrite
  have hrest {site : Site Unit} : Leaves Grows (do
      Work.onDisk (makeDirectory true (dir / settings.sourceDirectory)) NewFailure.system
      return begun settings dir name) site :=
    grows_bind (.onDisk (Disk.makeDirectory_grows _ _ _)) fun _ _ _ => .pure Grows.refl _ _
  have hrun : outcome (furnish settings dir name) site = _ :=
    Work.outcome_bind_of_ok (outcome_onDisk_ok.2 ⟨_, hwrite, rfl⟩)
  rw [hrun]
  exact hrest.found _ _ (Disk.get?_withEntry_self (List.cons_ne_nil _ _))

omit hdir in
theorem furnish_failsIn :
    FailsIn (fun failure => ∃ error, failure = .system error) (furnish settings dir name) site :=
  .bind (.onDisk (fun error => ⟨error, rfl⟩) _) fun _ _ _ =>
    .bind (.onDisk (fun error => ⟨error, rfl⟩) _) fun _ _ _ => .pure _ _

/-- In a directory without a manifest everything stays but the ignore file, and beside another
manifest everything stays. -/
theorem newIn_leaves (hmanifest : Path.Plain settings.manifestName)
    (hignore : Path.Plain settings.ignoreFileName) :
    Leaves (GrowsBut (settings.ignoreFileName :: location)) (newIn settings dir name) site := by
  rw [Leaves, outcome_newIn hdir hmanifest]
  split
  · exact GrowsBut.refl _ _
  · next hfree =>
    have hgrows : Grows site.disk (site.disk.withEntry (settings.manifestName :: location)
        (.file (Utf8.encode (newManifest settings name).written))) :=
      Grows.withEntry (by simpa using hfree)
    have hrest : Leaves (GrowsBut (settings.ignoreFileName :: location))
        (furnish settings dir name)
        { site with
          disk := site.disk.withEntry (settings.manifestName :: location)
            (.file (Utf8.encode (newManifest settings name).written)) } :=
      furnish_leaves (hgrows.keeps.directory? hdir) hignore
    exact (hgrows.but _).trans hrest

/-- So an entry stays unless it is at the place of the ignore file, beside no manifest. -/
theorem newIn_found (hmanifest : Path.Plain settings.manifestName)
    (hignore : Path.Plain settings.ignoreFileName) {found : Location} {entry : Entry}
    (hfound : site.disk.tree.get? found = some entry)
    (hkept : found = settings.ignoreFileName :: location →
      site.disk.tree.get? (settings.manifestName :: location) ≠ none) :
    (outcome (newIn settings dir name) site).2.disk.tree.get? found = some entry := by
  by_cases hplace : found = settings.ignoreFileName :: location
  · have hthere := Option.isSome_iff_ne_none.2 (hkept hplace)
    rwa [outcome_newIn hdir hmanifest, if_pos hthere]
  · exact (newIn_leaves hdir hmanifest hignore).found found entry hplace hfound

/-- An ignore file that is in the directory already is replaced when no manifest is. -/
theorem newIn_replaces (hmanifest : Path.Plain settings.manifestName)
    (hignore : Path.Plain settings.ignoreFileName) {content : ByteArray}
    (hfree : site.disk.tree.get? (settings.manifestName :: location) = none)
    (hfile : site.disk.tree.get? (settings.ignoreFileName :: location) = some (.file content)) :
    (outcome (newIn settings dir name) site).2.disk.tree.get?
      (settings.ignoreFileName :: location) =
        some (.file (Utf8.encode settings.ignoreFileContents)) := by
  have hgrows : Grows site.disk (site.disk.withEntry (settings.manifestName :: location)
      (.file (Utf8.encode (newManifest settings name).written))) := Grows.withEntry hfree
  rw [outcome_newIn hdir hmanifest, if_neg (by simp [hfree])]
  refine furnish_writes (hgrows.keeps.directory? hdir) hignore ?_
  have hstill := hgrows.found _ _ hfile
  simp [FileTree.isDirectory, hstill]

end Directory

/-! ## What is replaced -/

/-- The place of the ignore file that a new package replaces when there is one: in a directory that
has the name of the package, that was there before and that has no manifest. -/
def Replaces (settings : Settings) (disk : Disk) (dir : Path) (name : String)
    (location : Location) : Prop :=
  Name.packageFault? name = none ∧ ∃ here, disk.directory? dir = some here ∧
    disk.tree.get? (settings.manifestName :: name :: here) = none ∧
      location = settings.ignoreFileName :: name :: here

/-- In a directory with a subdirectory of its name a package goes there, and nothing is made. -/
theorem newDirectory_of_directory? (hname : Path.Plain name)
    (hdir : site.disk.directory? dir = some location)
    (hthere : site.disk.tree.isDirectory (name :: location) = true) :
    ∃ between, outcome (newDirectory settings dir name) site = (.ok (dir / name), between) ∧
      between.disk = site.disk := by
  have hlist : site.disk.list dir = .ok (site.disk.tree.children location) :=
    Disk.list_ok.2 ⟨location, hdir, rfl⟩
  have hchildren : (site.disk.tree.children location).isEmpty = false := by
    rw [Bool.eq_false_iff]
    intro hempty
    have hnone := FileTree.get?_eq_none_of_children_eq_nil (List.isEmpty_iff.1 hempty) name
    rw [FileTree.isDirectory_iff, hnone] at hthere
    cases hthere
  have hmake : Disk.outcome (makeDirectory true (dir / name)) site.disk = (.ok (), site.disk) :=
    Disk.outcome_makeDirectory_ok.2 ⟨_, Disk.locate_div hdir hname, .inr ⟨rfl, hthere, rfl⟩⟩
  have hrun (events : List Event) : outcome (do
      Work.onDisk (makeDirectory true (dir / name)) NewFailure.system
      return dir / name) { site with events } = (.ok (dir / name), { site with events }) :=
    outcome_seq_ok.2 ⟨_, outcome_onDisk_ok.2 ⟨_, hmake, rfl⟩, rfl⟩
  have hread : outcome (Work.ofExcept ((site.disk.list dir).mapError NewFailure.system)) site =
      (.ok (site.disk.tree.children location), site) :=
    outcome_ofExcept_ok.2 ⟨mapError_eq_ok.2 hlist, rfl⟩
  unfold newDirectory
  rw [Work.outcome_disk_bind, if_pos (Disk.pathExists_of_directory? hdir),
    Work.outcome_bind_of_ok hread, if_neg (by simp [hchildren])]
  split <;> simp only [Work.outcome_note_bind] <;> exact ⟨_, hrun _, rfl⟩

/-- A name that is no package name is refused before anything else. -/
theorem outcome_new_of_fault {fault : Name.PackageFault} (h : Name.packageFault? name = some fault) :
    outcome (new settings dir name) site = (.error (.name (.package name fault)), site) := by
  have hcheck : (Name.checkPackage name).mapError NewFailure.name =
      .error (.name (.package name fault)) := by
    rw [Name.checkPackage, h]
    rfl
  rw [new_eq, hcheck]
  rfl

theorem outcome_new (h : Name.packageFault? name = none) :
    outcome (new settings dir name) site =
      outcome (newDirectory settings dir name >>= fun dir => newIn settings dir name) site := by
  have hcheck : (Name.checkPackage name).mapError NewFailure.name = .ok () :=
    mapError_eq_ok.2 (checkPackage_ok.2 h)
  rw [new_eq, hcheck]
  rfl

/-- However the work ends, all that was there stays as it was, but for an ignore file in a directory
of the package's name that was there before and has no manifest. That file, when there is one, is
replaced by the one of the new package. -/
theorem new_replaces (environment : Option String) (dir : Path) (name : String) (site : Site Unit)
    (hrooted : site.disk.Rooted) :
    (∀ location entry, site.disk.tree.get? location = some entry →
        ¬ Replaces (.ofEnvironment environment) site.disk dir name location →
          (outcome (new (.ofEnvironment environment) dir name) site).2.disk.tree.get? location =
            some entry) ∧
      ∀ location content, site.disk.tree.get? location = some (.file content) →
        Replaces (.ofEnvironment environment) site.disk dir name location →
          (outcome (new (.ofEnvironment environment) dir name) site).2.disk.tree.get? location =
            some (.file (Utf8.encode (Settings.ofEnvironment environment).ignoreFileContents)) := by
  have hmanifest := Settings.plain_manifestName environment
  have hignore := Settings.plain_ignoreFileName environment
  cases hfault : Name.packageFault? name with
  | some fault =>
    rw [outcome_new_of_fault hfault]
    refine ⟨fun _ _ hfound _ => hfound, fun _ _ _ hreplaces => ?_⟩
    rw [hreplaces.1] at hfault
    cases hfault
  | none =>
    have hname := Path.plain_of_packageFault? hfault
    rw [outcome_new hfault]
    constructor
    · intro location entry hfound hkept
      rw [outcome_bind]
      rcases hchoice : outcome (newDirectory (.ofEnvironment environment) dir name) site with
        ⟨error | chosen, between⟩
      · exact (newDirectory_grows.of_outcome hchoice).found _ _ hfound
      have hplaced := newDirectory_ok hchoice
      obtain ⟨there, hthere, _, hplace⟩ := hplaced.place hrooted hname
      have hfound := hplaced.grows.found _ _ hfound
      refine newIn_found hthere hmanifest hignore hfound ?_
      rintro rfl
      rcases hplace with hchildren | ⟨hsame, _, here, hdir, rfl⟩
      · rw [FileTree.get?_eq_none_of_children_eq_nil hchildren] at hfound
        cases hfound
      · rw [hsame]
        exact fun hfree => hkept ⟨hfault, here, hdir, hfree, rfl⟩
    · rintro _ content hfile ⟨_, here, hdir, hfree, rfl⟩
      have hthere : site.disk.tree.isDirectory (name :: here) = true :=
        hrooted.tree (_ :: name :: here) (by rw [hfile]; rfl)
      obtain ⟨between, hchoice, hsame⟩ := newDirectory_of_directory? hname hdir hthere
      rw [Work.outcome_bind_of_ok hchoice]
      have hchosen : between.disk.directory? (dir / name) = some (name :: here) := by
        rw [hsame]
        exact Disk.directory?_div hdir hname hthere
      rw [← hsame] at hfree hfile
      exact newIn_replaces hchosen hmanifest hignore hfree hfile

end Package

namespace Sample

/-- A directory in another one, with a file and with an ignore file of its own. -/
def workbench : Disk where
  tree := ⟨[
    (["work"], .directory),
    (["art", "work"], .directory),
    (["note.txt", "art", "work"], .file (Utf8.encode "later\n")),
    ([".gitignore", "art", "work"], .file (Utf8.encode "*.tmp\n"))]⟩

def workPath : Path :=
  ⟨.root, ["work"]⟩

end Sample

namespace Package

open Sample (workbench workPath)
open Work (outcome)

/-- Beside the file that stays, the ignore file is replaced. -/
theorem new_replaces_workbench : workbench.Rooted ∧
    (outcome (new {} workPath "art") { disk := workbench, held := () }).2.disk.tree.get?
      ["note.txt", "art", "work"] = some (.file (Utf8.encode "later\n")) ∧
    (outcome (new {} workPath "art") { disk := workbench, held := () }).2.disk.tree.get?
      [".gitignore", "art", "work"] = some (.file (Utf8.encode "/.build\n")) := by
  have hrooted : workbench.Rooted := ⟨FileTree.rooted_of_entries (by decide +kernel), by decide⟩
  have hdir : workbench.directory? workPath = some ["work"] := by decide +kernel
  obtain ⟨hkept, hreplaced⟩ :=
    new_replaces none workPath "art" { disk := workbench, held := () } hrooted
  refine ⟨hrooted, hkept ["note.txt", "art", "work"] _ rfl ?_,
    hreplaced [".gitignore", "art", "work"] (Utf8.encode "*.tmp\n") rfl ?_⟩
  · rintro ⟨_, _, _, _, heq⟩
    exact absurd (List.cons.inj heq).1 (by decide)
  · exact ⟨by decide +kernel, ["work"], hdir, by decide +kernel, rfl⟩

/-- The work succeeds, and the ignore file of the other directory has lost its content. -/
theorem new_overwrites : workbench.Rooted ∧
    (outcome (new {} workPath "art") { disk := workbench, held := () }).1.isOk = true ∧
    ¬ ∀ location content, workbench.tree.get? location = some (.file content) →
      (outcome (new {} workPath "art") { disk := workbench, held := () }).2.disk.tree.get?
        location = some (.file content) := by
  refine ⟨⟨FileTree.rooted_of_entries (by decide +kernel), by decide⟩, by decide +kernel,
    fun hkept => ?_⟩
  have hstill := hkept [".gitignore", "art", "work"] (Utf8.encode "*.tmp\n") (by decide +kernel)
  revert hstill
  decide +kernel

end Package

end ModPack
