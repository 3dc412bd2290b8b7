import ModPack.Proofs.CopySteps
import ModPack.Proofs.ReorderedLoads

/-!
# Loads that do not look into a region

What lies in a region of the disk has no effect on a load when no manifest and no source of the
package, or of a package that it reaches, lies there. Two disks that differ in the region only give
the same package when both give one. That both do is needed: a path may lead through the region.
Main statements: `definitions_clear`, `load_clear` and `Loaded.clearOf`.
-/
namespace ModPack

namespace Disk

variable {disk first second first' second' : Disk} {region location : Location} {dir path : Path}
  {name : String} {content : ByteArray}

/-- Two disks that differ inside of a region only. -/
structure SameOutside (region : Location) (first second : Disk) : Prop where
  workingDirectory : second.workingDirectory = first.workingDirectory
  outside : second.tree.outside region = first.tree.outside region

namespace SameOutside

theorem symm (h : SameOutside region first second) : SameOutside region second first :=
  ⟨h.workingDirectory.symm, h.outside.symm⟩

/-- Changes inside of the region keep the disks so. -/
theorem of_keepsOutside (h : SameOutside region first second)
    (hfirst : KeepsOutside region first first') (hsecond : KeepsOutside region second second') :
    SameOutside region first' second' :=
  ⟨by rw [hsecond.workingDirectory, hfirst.workingDirectory, h.workingDirectory],
    by rw [hsecond.outside, hfirst.outside, h.outside]⟩

theorem start_eq (h : SameOutside region first second) (path : Path) :
    second.start path = first.start path := by
  rw [start, start, h.workingDirectory]

theorem spot_eq (h : SameOutside region first second) (path : Path) :
    second.spot path = first.spot path := by
  rw [spot, spot, h.start_eq]

theorem get?_eq (h : SameOutside region first second) (hout : location.within region = false) :
    second.tree.get? location = first.tree.get? location :=
  FileTree.get?_eq_of_outside_eq h.outside hout

theorem isDirectory_eq (h : SameOutside region first second)
    (hout : location.within region = false) :
    second.tree.isDirectory location = first.tree.isDirectory location := by
  rw [FileTree.isDirectory, FileTree.isDirectory, h.get?_eq hout]

end SameOutside

/-- A component of a path is a directory when it is one in the directory that the path leads to. -/
theorem directory?_div_eq (h : disk.directory? dir = some location) (hname : Path.Plain name) :
    disk.directory? (dir / name) =
      if disk.tree.isDirectory (name :: location) then some (name :: location) else none := by
  rw [directory?, locate_div h hname]

theorem directory?_div_of_none (h : disk.directory? dir = none) (hname : Path.Plain name) :
    disk.directory? (dir / name) = none := by
  cases hfound : disk.directory? (dir / name) with
  | none => rfl
  | some location =>
    obtain ⟨parent, hparent, _⟩ := directory?_of_locate_div hname (directory?_eq_some.1 hfound).1
    rw [h] at hparent
    cases hparent

section Div

variable (h : SameOutside region first second)
  (hdir : second.directory? dir = first.directory? dir) (hname : Path.Plain name)
  (hout : (first.spot (dir / name)).within region = false)
include h hdir hname hout

/-- Outside of the region directories are the same on both disks. -/
theorem SameOutside.directory?_div :
    second.directory? (dir / name) = first.directory? (dir / name) := by
  cases hfirst : first.directory? dir with
  | none =>
    rw [directory?_div_of_none hfirst hname, directory?_div_of_none (hdir.trans hfirst) hname]
  | some location =>
    rw [spot_div hname, ← eq_spot_of_directory? hfirst] at hout
    rw [directory?_div_eq hfirst hname, directory?_div_eq (hdir.trans hfirst) hname,
      h.isDirectory_eq hout]

/-- So are files. -/
theorem SameOutside.readFile_div (hread : first.readFile (dir / name) = .ok content) :
    second.readFile (dir / name) = .ok content := by
  obtain ⟨_, hlocate, hfile⟩ := readFile_ok.1 hread
  rw [← eq_spot_of_locate hlocate] at hout
  obtain ⟨location, hlocation, rfl⟩ := directory?_of_locate_div hname hlocate
  rw [← h.get?_eq hout] at hfile
  exact Disk.readFile_div (hdir.trans hlocation) hname hfile

end Div

/-- What both disks read along a path that leads out of the region is the same. -/
theorem SameOutside.readFile_eq (h : SameOutside region first second)
    (hout : (first.spot path).within region = false) {other : ByteArray}
    (hfirst : first.readFile path = .ok content) (hsecond : second.readFile path = .ok other) :
    other = content := by
  obtain ⟨location, hlocate, hfile⟩ := readFile_ok.1 hfirst
  obtain ⟨there, hthere, hother⟩ := readFile_ok.1 hsecond
  rw [eq_spot_of_locate hthere, h.spot_eq, h.get?_eq hout, ← eq_spot_of_locate hlocate, hfile]
    at hother
  cases hother
  rfl

end Disk

/-- Every name in the tree is one component of a path. -/
def FileTree.Named (tree : FileTree) : Prop :=
  ∀ entry ∈ tree.entries, ∀ name ∈ entry.1, Path.Plain name

/-- Two files are read as the same script when they have the same content. -/
theorem Script.load_of_readFile {first second : Disk} {package : String} {path : Path}
    (h : second.readFile path = first.readFile path) :
    Script.load second package path = Script.load first package path := by
  rw [Script.load, Script.load, readText, readText, h]

/-- Outside of the region scripts are the same on both disks. -/
theorem Script.load_outside {first second : Disk} {region : Location} {package : String}
    {path : Path} {script other : Script} (h : Disk.SameOutside region first second)
    (hout : (first.spot path).within region = false)
    (hfirst : (Script.load first package path).result = .ok script)
    (hsecond : (Script.load second package path).result = .ok other) : other = script := by
  obtain ⟨content, hread⟩ := exists_readFile_of_load hfirst
  obtain ⟨found, hfound⟩ := exists_readFile_of_load hsecond
  cases h.readFile_eq hout hread hfound
  rw [load_of_readFile (hfound.trans hread.symm), hfirst] at hsecond
  exact (Except.ok.inj hsecond).symm

theorem NamedString.load_of_readFile {first second : Disk} {package : String} {path : Path}
    (h : second.readFile path = first.readFile path) :
    NamedString.load second package path = NamedString.load first package path := by
  rw [NamedString.load, NamedString.load, Script.load_of_readFile h]

namespace Package

open Relation (ReflTransGen)

variable {settings : Settings} {first second disk : Disk} {region location there : Location}
  {stack : List Location} {route : List Nat} {dir : Path} {package : Package}

/-- The manifest and the sources of the package in a directory are apart from a region. -/
structure ClearOf (settings : Settings) (region location : Location) : Prop where
  manifest : Location.within (settings.manifestName :: location) region = false
  sources : Location.Apart (settings.sourceDirectory :: location) region

/-- So it is with every package that is reached along declared dependencies. -/
def AllClearOf (settings : Settings) (disk : Disk) (region start : Location) : Prop :=
  ∀ there, ReflTransGen (DependsOn settings disk) start there → ClearOf settings region there

theorem AllClearOf.self (h : AllClearOf settings disk region location) :
    ClearOf settings region location :=
  h location .refl

theorem AllClearOf.step (h : AllClearOf settings disk region location)
    (hstep : DependsOn settings disk location there) : AllClearOf settings disk region there :=
  fun further hreach => h further (hreach.head hstep)

/-- Whatever lies in the sources lies outside of the region. -/
theorem ClearOf.not_within (h : ClearOf settings region location) (front : Location) :
    Location.within (front ++ settings.sourceDirectory :: location) region = false :=
  h.sources.not_within (Location.within_append _ _)

/-! ## What is read of one package -/

section Directory

variable (h : Disk.SameOutside region first second)
  (hdir : second.directory? dir = first.directory? dir)
  (hclear : ClearOf settings region (first.spot dir))
include h hdir hclear

theorem readManifest_clear (hplain : Path.Plain settings.manifestName) {manifest : Manifest}
    (hread : readManifest settings first dir = .ok manifest) :
    readManifest settings second dir = .ok manifest := by
  obtain ⟨content, document, hcontent, hdocument, hmanifest⟩ := readManifest_ok.1 hread
  refine readManifest_ok.2 ⟨content, document, ?_, hdocument, hmanifest⟩
  refine h.readFile_div hdir hplain ?_ hcontent
  rw [Disk.spot_div hplain]
  exact hclear.manifest

variable (hsource : Path.Plain settings.sourceDirectory) {kind entry file : String}
  (hkind : Path.Plain kind)
include hsource hkind

/-- A directory of the sources is the same on both disks. -/
theorem directory?_kind_clear :
    second.directory? (dir / settings.sourceDirectory / kind) =
      first.directory? (dir / settings.sourceDirectory / kind) := by
  refine h.directory?_div (h.directory?_div hdir hsource ?_) hkind ?_
  · rw [Disk.spot_div hsource]
    exact hclear.not_within []
  · rw [Disk.spot_div hkind, Disk.spot_div hsource]
    exact hclear.not_within [kind]

variable (hentry : Path.Plain entry)
include hentry

/-- So is a file of an export that has a file of its own. -/
theorem readFile_entry_clear {content : ByteArray}
    (hread : first.readFile (dir / settings.sourceDirectory / kind / entry) = .ok content) :
    second.readFile (dir / settings.sourceDirectory / kind / entry) = .ok content := by
  refine h.readFile_div (directory?_kind_clear h hdir hclear hsource hkind) hentry ?_ hread
  rw [Disk.spot_div hentry, Disk.spot_div hkind, Disk.spot_div hsource]
  exact hclear.not_within [entry, kind]

/-- And a file in the directory of an export. -/
theorem readFile_file_clear (hfile : Path.Plain file) {content : ByteArray}
    (hread : first.readFile (dir / settings.sourceDirectory / kind / entry / file) = .ok content) :
    second.readFile (dir / settings.sourceDirectory / kind / entry / file) = .ok content := by
  have hsame := directory?_kind_clear h hdir hclear hsource hkind
  refine h.readFile_div (h.directory?_div hsame hentry ?_) hfile ?_ hread
  · rw [Disk.spot_div hentry, Disk.spot_div hkind, Disk.spot_div hsource]
    exact hclear.not_within [entry, kind]
  · rw [Disk.spot_div hfile, Disk.spot_div hentry, Disk.spot_div hkind, Disk.spot_div hsource]
    exact hclear.not_within [file, entry, kind]

omit hentry in
/-- The exports of one kind are the same on both disks when each of them is. -/
theorem gatheredAll_clear {α : Type} (hnamed : first.tree.Named) {wantsDirectories : Bool}
    {load load' : Path → Loading (List α)} {items : List α}
    (hload : ∀ entry, Path.Plain entry → ∀ items,
      (load (dir / settings.sourceDirectory / kind / entry)).result = .ok items →
        (load' (dir / settings.sourceDirectory / kind / entry)).result = .ok items)
    (hitems : gatheredAll first (dir / settings.sourceDirectory / kind) wantsDirectories load =
      .ok items) :
    gatheredAll second (dir / settings.sourceDirectory / kind) wantsDirectories load' =
      .ok items := by
  have hsame := directory?_kind_clear h hdir hclear hsource hkind
  unfold gatheredAll at hitems ⊢
  rw [Disk.isDirectory] at hitems ⊢
  rw [hsame]
  cases hthere : first.directory? (dir / settings.sourceDirectory / kind) with
  | none =>
    rw [hthere, if_neg (by simp)] at hitems
    rw [if_neg (by simp)]
    exact hitems
  | some there =>
    rw [hthere] at hitems hsame
    obtain ⟨listing, hlist, hitems⟩ := except_bind_ok.1 hitems
    obtain ⟨_, hagain, rfl⟩ := Disk.list_ok.1 (mapError_eq_ok.1 hlist)
    cases hthere.symm.trans hagain
    have hchildren : second.tree.children there = first.tree.children there := by
      refine FileTree.children_eq_of_outside_eq h.outside fun name => ?_
      rw [Disk.eq_spot_of_directory? hthere, Disk.spot_div hkind, Disk.spot_div hsource]
      exact hclear.not_within [name, kind]
    refine except_bind_ok.2 ⟨_, mapError_eq_ok.2 (Disk.list_ok.2 ⟨_, hsame, hchildren⟩), ?_⟩
    have hlisted : List.Forall₂ (Listed fun _ => False) (first.tree.children there)
        (first.tree.children there) := List.forall₂_same.2 fun entry _ => ⟨rfl, .same entry.2⟩
    obtain ⟨twins, htwins, hall⟩ := gathered_rel (T := (· = ·)) hlisted
      (fun entry hentry items hone => by
        have hname := hnamed _ (FileTree.mem_children hentry) entry.1 List.mem_cons_self
        exact ⟨items, hload entry.1 hname items hone, List.forall₂_same.2 fun _ _ => rfl⟩) hitems
    rw [List.forall₂_eq_eq_eq] at hall
    rw [hall]
    exact htwins

end Directory

/-- A package defines the same on both disks. -/
theorem definitions_clear (h : Disk.SameOutside region first second)
    (hdir : second.directory? dir = first.directory? dir)
    (hclear : ClearOf settings region (first.spot dir))
    (hsource : Path.Plain settings.sourceDirectory) (hnamed : first.tree.Named) {name : String}
    {own : Definitions} (hown : definitions settings first dir name = .ok own) :
    definitions settings second dir name = .ok own := by
  obtain ⟨hsprites, hactors, hstrings⟩ := definitions_ok.1 hown
  have hsprite : Path.Plain "sprite" := Path.plain_of_not_mem (by decide)
  have hactor : Path.Plain "actor" := Path.plain_of_not_mem (by decide)
  have hstring : Path.Plain "string" := Path.plain_of_not_mem (by decide)
  refine definitions_ok.2 ⟨?_, ?_, ?_⟩
  · refine gatheredAll_clear h hdir hclear hsource hsprite hnamed
      (fun entry hentry items hone => ?_) hsprites
    obtain ⟨sprite, hload, hone⟩ := Report.result_bind_ok.1 hone
    obtain ⟨hfault, content, sheet, hread, hsheet⟩ := Sprite.load_ok.1 hload
    have hagain :=
      readFile_file_clear h hdir hclear hsource hsprite hentry Path.plain_sheetName hread
    exact Report.result_bind_ok.2
      ⟨sprite, Sprite.load_ok.2 ⟨hfault, content, sheet, hagain, hsheet⟩, hone⟩
  · refine gatheredAll_clear h hdir hclear hsource hactor hnamed (fun entry hentry items hone => ?_)
      hactors
    obtain ⟨actor, hload, hone⟩ := Report.result_bind_ok.1 hone
    obtain ⟨hfault, content, entries, displayName, tattle, hread, hsidecar⟩ := Actor.load_ok.1 hload
    have hplain : Path.Plain (_ ++ ".yaml") := Path.plain_of_fault? hfault (by decide)
    have hagain := readFile_file_clear h hdir hclear hsource hactor hentry hplain hread
    exact Report.result_bind_ok.2 ⟨actor, Actor.load_ok.2
      ⟨hfault, content, entries, displayName, tattle, hagain, hsidecar⟩, hone⟩
  · refine gatheredAll_clear h hdir hclear hsource hstring hnamed
      (fun entry hentry items hone => ?_) hstrings
    have hload := Loading.result_orRefuse_ok.1 hone
    obtain ⟨script, hscript, _⟩ := Report.result_bind_ok.1 hload
    obtain ⟨content, hread⟩ := Script.exists_readFile_of_load hscript
    have hagain := readFile_entry_clear h hdir hclear hsource hstring hentry hread
    rw [← NamedString.load_of_readFile (hagain.trans hread.symm)] at hload
    exact Loading.result_orRefuse_ok.2 hload

/-! ## Loads -/

section Loads

variable (h : Disk.SameOutside region first second) (hnamed : first.tree.Named)
  (hplain : Path.Plain settings.manifestName) (hsource : Path.Plain settings.sourceDirectory)

/-- Declarations lead to the same packages when each of them does. -/
theorem loadDependencies_clear {manifest : Manifest} {number : Nat} {declared : List Dependency}
    {packages others : List Package}
    (hone : ∀ dependency ∈ declared, ∀ route package other,
      (loadNested settings first stack route (dir.join dependency.path)).result = .ok package →
        (loadNested settings second stack route (dir.join dependency.path)).result = .ok other →
          other = package)
    (hfirst : (loadDependencies settings first stack route dir manifest number
      declared).result = .ok packages)
    (hsecond : (loadDependencies settings second stack route dir manifest number
      declared).result = .ok others) : others = packages := by
  induction declared generalizing number packages others with
  | nil =>
    rw [loadDependencies_nil] at hfirst hsecond
    cases hfirst
    cases hsecond
    rfl
  | cons dependency rest ih =>
    obtain ⟨hhead, hrest⟩ := List.forall_mem_cons.1 hone
    obtain ⟨_, package, hload, later, hlater, rfl⟩ := loadDependencies_cons_ok.1 hfirst
    obtain ⟨_, other, hload', later', hlater', rfl⟩ := loadDependencies_cons_ok.1 hsecond
    rw [hhead _ _ _ hload hload', ih hrest hlater hlater']

include h hnamed hplain hsource

/-- Two loads that succeed give the same package. The recursion is on the directories that are not
on the stack, as in the definition. -/
theorem loadNested_clear {stack : List Location} {route : List Nat} {dir : Path}
    {location : Location} {package other : Package}
    (hdir : first.directory? dir = some location)
    (hclear : AllClearOf settings first region location)
    (hfirst : (loadNested settings first stack route dir).result = .ok package)
    (hsecond : (loadNested settings second stack route dir).result = .ok other) :
    other = package := by
  obtain ⟨_, manifest, direct, hsame, hstack, hmanifest, hdirect, hparts⟩ := loadNested_ok.1 hfirst
  obtain ⟨there, manifest', direct', hthere, _, hmanifest', hdirect', hparts'⟩ :=
    loadNested_ok.1 hsecond
  cases hdir.symm.trans hsame
  obtain rfl : there = location := by
    rw [Disk.eq_spot_of_directory? hthere, h.spot_eq, Disk.eq_spot_of_directory? hdir]
  have hplace : second.directory? dir = first.directory? dir := hthere.trans hdir.symm
  have hhere : ClearOf settings region (first.spot dir) := by
    rw [← Disk.eq_spot_of_directory? hdir]
    exact hclear.self
  obtain ⟨hread, _⟩ := checkedManifest_ok.1 hmanifest
  obtain ⟨hread', _⟩ := checkedManifest_ok.1 hmanifest'
  cases (readManifest_clear h hplace hhere hplain hread).symm.trans hread'
  obtain rfl : direct' = direct := by
    refine loadDependencies_clear (fun dependency hmem route needed further hneeded hfurther => ?_)
      hdirect hdirect'
    obtain ⟨beyond, _, _, hbeyond, _⟩ := loadNested_ok.1 hneeded
    have hstep : DependsOn settings first there beyond :=
      ⟨_, ⟨dir, manifest, hdir, hread, dependency, hmem, rfl⟩, hbeyond⟩
    exact loadNested_clear hbeyond (hclear.step hstep) hneeded hfurther
  obtain ⟨_, exports, hexports, rfl⟩ := ofParts_ok.1 hparts
  obtain ⟨_, exports', hexports', rfl⟩ := ofParts_ok.1 hparts'
  obtain ⟨own, hown, rfl⟩ := ownExports_ok.1 hexports
  obtain ⟨own', hown', rfl⟩ := ownExports_ok.1 hexports'
  cases (definitions_clear h hplace hhere hsource hnamed hown).symm.trans hown'
  rfl
termination_by untouched first stack
decreasing_by exact untouched_cons_lt (Disk.directory?_mem hdir) hstack

theorem load_clear {other : Package}
    (hclear : ∀ start, first.directory? dir = some start → AllClearOf settings first region start)
    (hfirst : (load settings first dir).result = .ok package)
    (hsecond : (load settings second dir).result = .ok other) : other = package := by
  obtain ⟨start, _, _, hstart, _⟩ := loadNested_ok.1 hfirst
  exact loadNested_clear h hnamed hplain hsource hstart (hclear start hstart) hfirst hsecond

end Loads

/-! ## Where sprites and actors are -/

/-- An actor that a package defines is in a directory among its sources. -/
theorem dir_of_own_actor {id : Identifier} {actor : Actor}
    (h : own? settings disk package .actor id = some (.actor actor)) :
    ∃ listing, disk.list (package.dir / settings.sourceDirectory / "actor") = .ok listing ∧
      ∃ entry ∈ listing, actor.dir = package.dir / settings.sourceDirectory / "actor" / entry.1 ∧
        ∃ there, disk.directory? actor.dir = some there := by
  obtain ⟨own, hown, hrecord⟩ := exists_definitions_of_ownRecord? h
  obtain ⟨found, hlast, heq⟩ := Option.map_eq_some_iff.1 hrecord
  cases heq
  obtain ⟨_, hgathered, _⟩ := definitions_ok.1 hown
  obtain ⟨listing, hlisting, entry, hentry, items, hitems, hmem⟩ :=
    exists_of_mem_gatheredAll hgathered (of_lastNamed hlast).1
  obtain ⟨loaded, hload, hitems⟩ := Report.result_bind_ok.1 hitems
  cases hitems
  cases List.mem_singleton.1 hmem
  obtain ⟨hname, _, _, _, _, hread, _, _, _, rfl⟩ := Actor.load_ok.1 hload
  obtain ⟨_, hlocate, _⟩ := Disk.readFile_ok.1 hread
  have hsidecar : Path.Plain (_ ++ ".yaml") := Path.plain_of_fault? hname (by decide)
  obtain ⟨there, hthere, _⟩ := Disk.directory?_of_locate_div hsidecar hlocate
  exact ⟨listing, hlisting, entry, hentry, rfl, there, hthere⟩

end Package

/-- The directories of sprites and actors are apart from a region. -/
structure Exports.ClearOf (disk : Disk) (region : Location) (exports : Exports) : Prop where
  sprites : exports.sprites.All fun _ sprite => Location.Apart (disk.spot sprite.dir) region
  actors : exports.actors.All fun _ actor => Location.Apart (disk.spot actor.dir) region

/-- The directories of sprites and actors are there, among the sources. -/
structure Exports.SourcedFrom (disk : Disk) (sources : Location → Prop) (exports : Exports) :
    Prop where
  sprites : exports.sprites.All fun _ sprite =>
    ∃ source, disk.directory? sprite.dir = some source ∧ sources source
  actors : exports.actors.All fun _ actor =>
    ∃ source, disk.directory? actor.dir = some source ∧ sources source

theorem Exports.SourcedFrom.mono {disk : Disk} {sources more : Location → Prop}
    {exports : Exports} (h : exports.SourcedFrom disk sources)
    (hmore : ∀ source, sources source → more source) : exports.SourcedFrom disk more := by
  constructor
  · exact fun id sprite hmem => (h.sprites id sprite hmem).imp fun _ => And.imp_right (hmore _)
  · exact fun id actor hmem => (h.actors id actor hmem).imp fun _ => And.imp_right (hmore _)

/-- What is among sources that are apart from a region is apart from it. -/
theorem Exports.SourcedFrom.clearOf {disk : Disk} {sources : Location → Prop} {exports : Exports}
    {region : Location} (h : exports.SourcedFrom disk sources)
    (hapart : ∀ source, sources source → Location.Apart source region) :
    exports.ClearOf disk region := by
  constructor
  · intro id sprite hmem
    obtain ⟨source, hthere, hsource⟩ := h.sprites id sprite hmem
    rw [← Disk.eq_spot_of_directory? hthere]
    exact hapart source hsource
  · intro id actor hmem
    obtain ⟨source, hthere, hsource⟩ := h.actors id actor hmem
    rw [← Disk.eq_spot_of_directory? hthere]
    exact hapart source hsource

namespace Package

open Relation (ReflTransGen)

variable {settings : Settings} {disk : Disk} {region location : Location} {package : Package}

/-- What a package holds is defined by a package that it reaches, itself or another one. -/
theorem Loaded.exists_origin (h : Loaded settings disk package)
    (hplain : Path.Plain settings.manifestName)
    (hdir : disk.directory? package.dir = some location) {kind : ExportKind} {id : Identifier}
    {record : AnyExport} (hrecord : package.exports.record? kind id = some record) :
    ∃ source there, disk.directory? source.dir = some there ∧
      ReflTransGen (DependsOn settings disk) location there ∧
      own? settings disk source kind id = some record := by
  rcases h.origin hrecord with hown | ⟨source, hsource, hown⟩
  · exact ⟨package, location, hdir, .refl, hown⟩
  · obtain ⟨there, hthere, hreach⟩ := h.reaches hplain hdir hsource
    exact ⟨source, there, hthere, hreach.to_reflTransGen, hown⟩

/-- The location lies among the sources of the package in a directory, or of one that is reached
from there along declared dependencies. -/
def Sources (settings : Settings) (disk : Disk) (dir : Path) (location : Location) : Prop :=
  ∃ start there, disk.directory? dir = some start ∧
    ReflTransGen (DependsOn settings disk) start there ∧
      location.within (settings.sourceDirectory :: there) = true

/-- Sprites and actors are among the sources of the packages that are reached. -/
theorem Loaded.sourcedFrom (h : Loaded settings disk package) (hnamed : disk.tree.Named)
    (hplain : Path.Plain settings.manifestName) (hsource : Path.Plain settings.sourceDirectory) :
    package.exports.SourcedFrom disk (Sources settings disk package.dir) := by
  obtain ⟨location, hdir⟩ := h.directory? hplain
  have hsources {source : Package} {there place : Location} {kind : String} {dir : Path}
      {listing : List (String × Entry)} {entry : String × Entry} (hkind : Path.Plain kind)
      (hthere : disk.directory? source.dir = some there)
      (hreach : ReflTransGen (DependsOn settings disk) location there)
      (hlist : disk.list (source.dir / settings.sourceDirectory / kind) = .ok listing)
      (hentry : entry ∈ listing)
      (hpath : dir = source.dir / settings.sourceDirectory / kind / entry.1)
      (hplace : disk.directory? dir = some place) :
      Sources settings disk package.dir place := by
    obtain ⟨_, _, rfl⟩ := Disk.list_ok.1 hlist
    have hname := hnamed _ (FileTree.mem_children hentry) entry.1 List.mem_cons_self
    refine ⟨location, there, hdir, hreach, Location.within_iff.2 ⟨[entry.1, kind], ?_⟩⟩
    rw [Disk.eq_spot_of_directory? hplace, hpath, Disk.spot_div hname, Disk.spot_div hkind,
      Disk.spot_div hsource, ← Disk.eq_spot_of_directory? hthere]
    rfl
  constructor
  · intro id sprite hmem
    have hrecord : package.exports.record? .sprite id = some (.sprite sprite) := by
      rw [Exports.record?, Registry.get?_of_mem hmem]
      rfl
    obtain ⟨source, there, hthere, hreach, hown⟩ := h.exists_origin hplain hdir hrecord
    obtain ⟨listing, hlist, entry, hentry, hpath, place, hplace⟩ := dir_of_own hown
    exact ⟨place, hplace, hsources (Path.plain_of_not_mem (by decide)) hthere hreach hlist hentry
      hpath hplace⟩
  · intro id actor hmem
    have hrecord : package.exports.record? .actor id = some (.actor actor) := by
      rw [Exports.record?, Registry.get?_of_mem hmem]
      rfl
    obtain ⟨source, there, hthere, hreach, hown⟩ := h.exists_origin hplain hdir hrecord
    obtain ⟨listing, hlist, entry, hentry, hpath, place, hplace⟩ := dir_of_own_actor hown
    exact ⟨place, hplace, hsources (Path.plain_of_not_mem (by decide)) hthere hreach hlist hentry
      hpath hplace⟩

/-- They are apart from a region that is apart from these sources. -/
theorem Loaded.clearOf (h : Loaded settings disk package) (hnamed : disk.tree.Named)
    (hplain : Path.Plain settings.manifestName) (hsource : Path.Plain settings.sourceDirectory)
    (hdir : disk.directory? package.dir = some location)
    (hclear : AllClearOf settings disk region location) :
    package.exports.ClearOf disk region := by
  refine (h.sourcedFrom hnamed hplain hsource).clearOf ?_
  rintro source ⟨start, there, hstart, hreach, hwithin⟩
  cases hdir.symm.trans hstart
  exact (hclear there hreach).sources.mono hwithin

end Package

end ModPack
