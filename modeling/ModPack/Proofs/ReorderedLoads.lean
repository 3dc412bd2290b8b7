import ModPack.Proofs.ExportOrigins
import ModPack.Proofs.TwinRegistries

/-!
# Loads that differ in the order of declarations

On disks that differ in the order of dependencies a package loads on both or on neither. The list of
its dependencies is another one, but their names and versions are the same, and under every
identifier it holds twins. This needs that each name and version is that of one directory, since the
order decides which of several is kept, and that no manifest that differs is the source of an
export. Main statements: `loadNested_reordered`, `record?_reordered` and
`load_reordered`.
-/
namespace ModPack.Package

open Relation (ReflTransGen TransGen)

variable {settings : Settings} {moved : Location → Prop} {first second : Disk}
  {stack : List Location} {route : List Nat} {dir other : Path}
  {package twin needed : Package} {location there : Location} {identity : String × String}

/-! ## Manifests and dependencies -/

section Manifests

variable (hdisks : Disk.Reordered settings.manifestName moved first second)
include hdisks

/-- Along two paths to one directory the same manifest is read, but for the order of its
dependencies. -/
theorem readManifest_reordered {manifest : Manifest} (hdir : Disk.Aligned first second dir other)
    (h : readManifest settings first dir = .ok manifest) :
    ∃ renewed, readManifest settings second other = .ok renewed ∧ renewed.name = manifest.name ∧
      renewed.version = manifest.version ∧
      manifest.dependencies.Perm renewed.dependencies := by
  obtain ⟨content, document, hcontent, hdocument, hmanifest⟩ := readManifest_ok.1 h
  have hplace := hdir.locate_join hdisks (Path.ofString settings.manifestName)
  obtain ⟨_, found, _, hfound, hentry⟩ := hdisks.readFile_ok hplace hcontent
  cases hentry with
  | same =>
    have hread := readManifest_ok.2 ⟨content, document, hfound, hdocument, hmanifest⟩
    exact ⟨manifest, hread, rfl, rfl, .refl _⟩
  | manifest _ hdocument' hrenewed documents =>
    rw [hdocument] at hdocument'
    cases hdocument'
    obtain ⟨renewed, hof, hname, hversion, hperm⟩ :=
      Manifest.ofValue_reordered documents hmanifest
    exact ⟨renewed, readManifest_ok.2 ⟨_, _, hfound, hrenewed, hof⟩, hname, hversion, hperm⟩

theorem DependsOn.reordered (h : DependsOn settings first location there) :
    DependsOn settings second location there := by
  obtain ⟨_, ⟨dir, manifest, hdir, hread, dependency, hmem, rfl⟩, hthere⟩ := h
  have hother : second.directory? dir = some location :=
    (hdisks.directory?_eq (hdisks.locate_eq dir)).trans hdir
  obtain ⟨renewed, hrenewed, _, _, hperm⟩ :=
    readManifest_reordered hdisks ⟨location, hdir, hother⟩ hread
  refine ⟨_, ⟨dir, renewed, hother, hrenewed, dependency, hperm.mem_iff.1 hmem, rfl⟩, ?_⟩
  exact (hdisks.directory?_eq (hdisks.locate_eq _)).trans hthere

theorem IdentityAt.reordered (h : IdentityAt settings first location identity) :
    IdentityAt settings second location identity := by
  obtain ⟨dir, manifest, hdir, hread, rfl⟩ := h
  have hother : second.directory? dir = some location :=
    (hdisks.directory?_eq (hdisks.locate_eq dir)).trans hdir
  obtain ⟨renewed, hrenewed, hname, hversion, _⟩ :=
    readManifest_reordered hdisks ⟨location, hdir, hother⟩ hread
  exact ⟨dir, renewed, hother, hrenewed, by rw [hname, hversion]⟩

theorem reaches_reordered (h : ReflTransGen (DependsOn settings first) location there) :
    ReflTransGen (DependsOn settings second) location there :=
  ReflTransGen.mono (fun _ _ hstep => DependsOn.reordered hdisks hstep) _ _ h

end Manifests

/-! ## What the order must not reach -/

/-- No manifest that may differ is the source of an export of the package: it is neither a strings
file of it nor inside of the directory of a sprite. -/
structure SourcesApart (settings : Settings) (disk : Disk) (moved : Location → Prop) (dir : Path) :
    Prop where
  strings : StringsApart settings disk moved dir
  sprites : ∀ listing, disk.list (dir / settings.sourceDirectory / "sprite") = .ok listing →
    ∀ entry ∈ listing, ∀ location,
      disk.directory? (dir / settings.sourceDirectory / "sprite" / entry.1) = some location →
        ∀ below, below.within location = true → ¬ moved below

theorem SourcesApart.reordered (hdisks : Disk.Reordered settings.manifestName moved first second)
    (h : SourcesApart settings first moved dir) : SourcesApart settings second moved dir where
  strings := by
    intro listing hlisting entry hentry location hlocation
    obtain ⟨_, others, _, hothers, hlisted⟩ :=
      hdisks.symm.list_ok (hdisks.locate_eq _).symm hlisting
    obtain ⟨found, hfound, hname, _⟩ := exists_of_forall₂_left hlisted hentry
    rw [hname, hdisks.locate_eq] at hlocation
    exact h.strings others hothers found hfound location hlocation
  sprites := by
    intro listing hlisting entry hentry location hlocation
    obtain ⟨_, others, _, hothers, hlisted⟩ :=
      hdisks.symm.list_ok (hdisks.locate_eq _).symm hlisting
    obtain ⟨found, hfound, hname, _⟩ := exists_of_forall₂_left hlisted hentry
    rw [hname, hdisks.directory?_eq (hdisks.locate_eq _)] at hlocation
    exact h.sprites others hothers found hfound location hlocation

/-- Two disks that differ in the order of dependencies, such that the order does not decide what
the package in a directory holds: of the directories that it reaches each has its own name and
version, and no manifest that may differ is the source of an export there. -/
structure Alike (settings : Settings) (moved : Location → Prop) (first second : Disk)
    (location : Location) : Prop where
  disks : Disk.Reordered settings.manifestName moved first second
  once : ∀ identity, DeclaredOnce settings first location identity
  apart : ∀ there, ReflTransGen (DependsOn settings first) location there →
    ∀ dir, first.directory? dir = some there → SourcesApart settings first moved dir

namespace Alike

theorem symm (h : Alike settings moved first second location) :
    Alike settings moved second first location where
  disks := h.disks.symm
  once identity here there hhere hthere hat hat' :=
    h.once identity here there (reaches_reordered h.disks.symm hhere)
      (reaches_reordered h.disks.symm hthere) (hat.reordered h.disks.symm)
      (hat'.reordered h.disks.symm)
  apart there hreach dir hdir := by
    rw [h.disks.directory?_eq (h.disks.locate_eq dir)] at hdir
    exact (h.apart there (reaches_reordered h.disks.symm hreach) dir hdir).reordered h.disks

theorem step (h : Alike settings moved first second location)
    (hstep : DependsOn settings first location there) :
    Alike settings moved first second there where
  disks := h.disks
  once identity here beyond hhere hbeyond :=
    h.once identity here beyond (hhere.head hstep) (hbeyond.head hstep)
  apart beyond hreach := h.apart beyond (hreach.head hstep)

end Alike

/-! ## Packages that both disks give -/

/-- One package loaded from two such disks: its dependencies have the same identities. -/
structure Counterpart (package twin : Package) : Prop where
  identity : twin.identity = package.identity
  dependencies : ∀ identity, identity ∈ twin.dependencies.map Package.identity ↔
    identity ∈ package.dependencies.map Package.identity

theorem Counterpart.symm (h : Counterpart package twin) : Counterpart twin package :=
  ⟨h.identity.symm, fun identity => (h.dependencies identity).symm⟩

theorem mem_identities_flatten {direct : List Package} :
    identity ∈ (flatten direct).map Package.identity ↔ ∃ needed ∈ direct,
      needed.identity = identity ∨ identity ∈ needed.dependencies.map Package.identity := by
  constructor
  · intro h
    obtain ⟨found, hfound, rfl⟩ := List.mem_map.1 h
    obtain ⟨needed, hneeded, hmem | rfl⟩ := mem_flatten hfound
    · exact ⟨needed, hneeded, .inr (List.mem_map_of_mem hmem)⟩
    · exact ⟨found, hneeded, .inl rfl⟩
  · rintro ⟨needed, hneeded, rfl | hmem⟩
    · exact identity_mem_flatten hneeded
    · obtain ⟨further, hfurther, rfl⟩ := List.mem_map.1 hmem
      exact identity_mem_flatten_of_mem hneeded hfurther

/-- Counterparts of packages bring the same along. -/
theorem identities_flatten_iff {direct twins : List Package}
    (hforth : ∀ needed ∈ direct, ∃ twin ∈ twins, Counterpart needed twin)
    (hback : ∀ twin ∈ twins, ∃ needed ∈ direct, Counterpart needed twin)
    (identity : String × String) : identity ∈ (flatten twins).map Package.identity ↔
      identity ∈ (flatten direct).map Package.identity := by
  constructor
  · intro hmem
    obtain ⟨twin, htwin, hidentity⟩ := mem_identities_flatten.1 hmem
    obtain ⟨needed, hneeded, hsame⟩ := hback twin htwin
    refine mem_identities_flatten.2 ⟨needed, hneeded, ?_⟩
    rwa [← hsame.identity, ← hsame.dependencies]
  · intro hmem
    obtain ⟨needed, hneeded, hidentity⟩ := mem_identities_flatten.1 hmem
    obtain ⟨twin, htwin, hsame⟩ := hforth needed hneeded
    refine mem_identities_flatten.2 ⟨twin, htwin, ?_⟩
    rwa [hsame.identity, hsame.dependencies]

/-- Lists of different packages with the same identities agree on versions alike. -/
theorem conflict?_flatten_of_identities {direct twins : List Package}
    (h : ∀ identity, identity ∈ (flatten twins).map Package.identity ↔
      identity ∈ (flatten direct).map Package.identity)
    (hnone : conflict? (flatten direct) = none) : conflict? (flatten twins) = none := by
  have hperm : ((flatten twins).map Package.identity).Perm
      ((flatten direct).map Package.identity) :=
    (List.perm_ext_iff_of_nodup (nodup_flatten twins) (nodup_flatten direct)).2 h
  have hnames (packages : List Package) :
      packages.map name = (packages.map Package.identity).map Prod.fst := by
    rw [List.map_map]
    rfl
  rw [conflict?_eq_none] at hnone ⊢
  rw [hnames] at hnone ⊢
  exact (hperm.map Prod.fst).nodup_iff.2 hnone

/-! ## Loads -/

/-- Where each declaration's package comes from. -/
theorem forall₂_of_loadDependencies {disk : Disk} {manifest : Manifest} {number : Nat}
    {declared : List Dependency} {packages : List Package}
    (h : (loadDependencies settings disk stack route dir manifest number
      declared).result = .ok packages) :
    List.Forall₂ (fun dependency package =>
      Name.dependencyFault? dependency.name manifest.name = none ∧ ∃ route,
        (loadNested settings disk stack route (dir.join dependency.path)).result = .ok package)
      declared packages := by
  induction declared generalizing number packages with
  | nil =>
    rw [loadDependencies, Report.result_pure] at h
    cases h
    exact .nil
  | cons dependency rest ih =>
    obtain ⟨hname, package, hload, others, hrest, rfl⟩ := loadDependencies_cons_ok.1 h
    exact .cons ⟨hname, _, hload⟩ (ih hrest)

/-- Declarations that can all be loaded are loaded. -/
theorem exists_loadDependencies {disk : Disk} {manifest : Manifest} {declared : List Dependency}
    (h : ∀ dependency ∈ declared, Name.dependencyFault? dependency.name manifest.name = none ∧
      ∀ route, ∃ package, (loadNested settings disk stack route
        (dir.join dependency.path)).result = .ok package) (number : Nat) :
    ∃ packages, (loadDependencies settings disk stack route dir manifest number
      declared).result = .ok packages := by
  induction declared generalizing number with
  | nil => exact ⟨[], loadDependencies_nil⟩
  | cons dependency rest ih =>
    obtain ⟨⟨hname, hload⟩, hrest⟩ := List.forall_mem_cons.1 h
    obtain ⟨package, hpackage⟩ := hload (number :: route)
    obtain ⟨others, hothers⟩ := ih hrest (number + 1)
    exact ⟨_, loadDependencies_cons_ok.2 ⟨hname, package, hpackage, others, hothers, rfl⟩⟩

/-- Declarations in another order are loaded on the other disk when each of them is. -/
theorem loadDependencies_reordered {manifest renewed : Manifest} {direct : List Package}
    {number : Nat} (hname : renewed.name = manifest.name)
    (hperm : manifest.dependencies.Perm renewed.dependencies)
    (hone : ∀ dependency ∈ manifest.dependencies, ∀ route needed,
      (loadNested settings first stack route (dir.join dependency.path)).result = .ok needed →
        ∀ otherRoute, ∃ twin, (loadNested settings second stack otherRoute
          (other.join dependency.path)).result = .ok twin ∧ Counterpart needed twin)
    (h : (loadDependencies settings first stack route dir manifest number
      manifest.dependencies).result = .ok direct) (otherRoute : List Nat) :
    ∃ twins, (loadDependencies settings second stack otherRoute other renewed number
        renewed.dependencies).result = .ok twins ∧
      (∀ needed ∈ direct, ∃ twin ∈ twins, Counterpart needed twin) ∧
      ∀ twin ∈ twins, ∃ needed ∈ direct, Counterpart needed twin := by
  have hall := forall₂_of_loadDependencies h
  obtain ⟨twins, htwins⟩ : ∃ twins, (loadDependencies settings second stack otherRoute other
      renewed number renewed.dependencies).result = .ok twins := by
    refine exists_loadDependencies (fun dependency hmem => ?_) number
    have hmem := hperm.mem_iff.2 hmem
    obtain ⟨needed, _, hfault, _, hload⟩ := exists_of_forall₂_left hall hmem
    rw [hname]
    refine ⟨hfault, fun route => ?_⟩
    obtain ⟨twin, htwin, _⟩ := hone dependency hmem _ needed hload route
    exact ⟨twin, htwin⟩
  have hothers := forall₂_of_loadDependencies htwins
  refine ⟨twins, htwins, fun needed hneeded => ?_, fun twin htwin => ?_⟩
  · obtain ⟨dependency, hmem, _, _, hload⟩ := exists_of_forall₂_right hall hneeded
    obtain ⟨twin, htwin, _, _, hloaded⟩ := exists_of_forall₂_left hothers (hperm.mem_iff.1 hmem)
    obtain ⟨same, hsame, hcounterpart⟩ := hone dependency hmem _ needed hload _
    rw [hloaded] at hsame
    cases hsame
    exact ⟨twin, htwin, hcounterpart⟩
  · obtain ⟨dependency, hmem, _, _, hloaded⟩ := exists_of_forall₂_right hothers htwin
    have hmem := hperm.mem_iff.2 hmem
    obtain ⟨needed, hneeded, _, _, hload⟩ := exists_of_forall₂_left hall hmem
    obtain ⟨same, hsame, hcounterpart⟩ := hone dependency hmem _ needed hload _
    rw [hloaded] at hsame
    cases hsame
    exact ⟨needed, hneeded, hcounterpart⟩

/-- A load that succeeds on one disk succeeds on the other one, with the same stack and along any
path to the directory. The recursion is on the directories that are not on the stack. -/
theorem loadNested_reordered (hsheet : LoadError.sheetName ≠ settings.manifestName)
    {stack : List Location} {route : List Nat} {dir other : Path} {location : Location}
    {package : Package} (halike : Alike settings moved first second location)
    (hdir : first.directory? dir = some location) (hother : second.directory? other = some location)
    (h : (loadNested settings first stack route dir).result = .ok package)
    (otherRoute : List Nat) :
    ∃ twin, (loadNested settings second stack otherRoute other).result = .ok twin ∧
      Counterpart package twin := by
  obtain ⟨_, manifest, direct, hsame, hstack, hmanifest, hdirect, hparts⟩ := loadNested_ok.1 h
  rw [hdir] at hsame
  cases hsame
  obtain ⟨hagreed, exports, hexports, rfl⟩ := ofParts_ok.1 hparts
  obtain ⟨hread, hname⟩ := checkedManifest_ok.1 hmanifest
  have haligned : Disk.Aligned first second dir other := ⟨location, hdir, hother⟩
  obtain ⟨renewed, hrenewed, hsameName, hversion, hperm⟩ :=
    readManifest_reordered halike.disks haligned hread
  have hone : ∀ dependency ∈ manifest.dependencies, ∀ route needed,
      (loadNested settings first (location :: stack) route
        (dir.join dependency.path)).result = .ok needed →
        ∀ otherRoute, ∃ twin, (loadNested settings second (location :: stack) otherRoute
          (other.join dependency.path)).result = .ok twin ∧ Counterpart needed twin := by
    intro dependency hmem route needed hload otherRoute
    obtain ⟨there, _, _, hthere, _⟩ := loadNested_ok.1 hload
    have hstep : DependsOn settings first location there :=
      ⟨_, ⟨dir, manifest, hdir, hread, dependency, hmem, rfl⟩, hthere⟩
    have hplace := haligned.locate_join halike.disks dependency.path
    have hbeside := (halike.disks.directory?_eq hplace).trans hthere
    exact loadNested_reordered hsheet (halike.step hstep) hthere hbeside hload otherRoute
  obtain ⟨twins, htwins, hforth, hback⟩ :=
    loadDependencies_reordered hsameName hperm hone hdirect otherRoute
  have hidentities := identities_flatten_iff hforth hback
  have hapart := halike.apart location .refl dir hdir
  obtain ⟨own, hown, _⟩ := ownExports_ok.1 hexports
  obtain ⟨ownTwin, hownTwin, _⟩ :=
    definitions_twin halike.disks haligned hsheet hapart.strings hown
  rw [← hsameName] at hownTwin
  refine ⟨_, loadNested_ok.2 ⟨location, renewed, twins, hother, hstack,
    checkedManifest_ok.2 ⟨hrenewed, by rwa [hsameName]⟩, htwins, ofParts_ok.2
      ⟨conflict?_flatten_of_identities hidentities hagreed, _,
        ownExports_ok.2 ⟨ownTwin, hownTwin, rfl⟩, rfl⟩⟩, ?_, hidentities⟩
  rw [identity, identity, Package.name, Package.name, Package.version, Package.version, hsameName,
    hversion]
termination_by untouched first stack
decreasing_by exact untouched_cons_lt (Disk.directory?_mem hdir) hstack

/-! ## What both packages hold -/

section Records

variable {kind : ExportKind} {id : Identifier} {record : AnyExport}
  (hplain : Path.Plain settings.manifestName) (halike : Alike settings moved first second location)
  (hloaded : Loaded settings first package) (hdir : first.directory? package.dir = some location)
include hplain halike hloaded hdir

theorem apart_of_requires (hneeded : Requires package needed) :
    SourcesApart settings first moved needed.dir := by
  obtain ⟨here, hhere, hreach⟩ := hloaded.reaches hplain hdir hneeded
  exact halike.apart here hreach.to_reflTransGen needed.dir hhere

variable (hother : Loaded settings second twin)
  (hotherDir : second.directory? twin.dir = some location)
include hother hotherDir

/-- What both packages require under one identity is in one directory. -/
theorem aligned_of_requires {further : Package} (hneeded : Requires package needed)
    (hfurther : Requires twin further) (hidentity : further.identity = needed.identity) :
    Disk.Aligned first second needed.dir further.dir := by
  obtain ⟨here, hhere, hreach⟩ := hloaded.reaches hplain hdir hneeded
  obtain ⟨there, hthere, hreach'⟩ := hother.reaches hplain hotherDir hfurther
  have hat := (hloaded.of_requires hneeded).identityAt hhere
  have hat' := (hother.of_requires hfurther).identityAt hthere
  rw [hidentity] at hat'
  have hsame := halike.once needed.identity here there hreach.to_reflTransGen
    (reaches_reordered halike.disks.symm hreach'.to_reflTransGen) hat
    (hat'.reordered halike.disks.symm)
  rw [← hsame] at hthere
  exact ⟨here, hhere, hthere⟩

variable (hsheet : LoadError.sheetName ≠ settings.manifestName)
include hsheet

/-- What both packages require under one identity defines twins. -/
theorem own?_of_requires {further : Package} (hneeded : Requires package needed)
    (hfurther : Requires twin further) (hidentity : further.identity = needed.identity)
    (kind : ExportKind) (id : Identifier) :
    Option.Rel (AnyExport.Twin first second) (own? settings first needed kind id)
      (own? settings second further kind id) := by
  have hplaces := aligned_of_requires hplain halike hloaded hdir hother hotherDir hneeded hfurther
    hidentity
  have hapart := apart_of_requires hplain halike hloaded hdir hneeded
  exact (hloaded.of_requires hneeded).own?_twin halike.disks hsheet hplaces
    (congrArg Prod.fst hidentity) hapart.strings kind id

/-- What one package holds under an identifier, the other one holds a twin of. Either both packages
define it, or both hold what is defined by packages of one identity: of its name there is only
one. -/
theorem exists_record?_reordered (hsame : Counterpart package twin)
    (hrecord : package.exports.record? kind id = some record) :
    ∃ found, twin.exports.record? kind id = some found ∧
      AnyExport.Twin first second record found := by
  have hname : twin.name = package.name := congrArg Prod.fst hsame.identity
  have hself := hloaded.own?_twin halike.disks hsheet ⟨location, hdir, hotherDir⟩ hname
    (halike.apart location .refl package.dir hdir).strings kind id
  cases hdefined : own? settings first package kind id with
  | some defined =>
    rw [hloaded.record?_of_own hdefined] at hrecord
    cases hrecord
    rw [hdefined] at hself
    obtain ⟨found, hfound, htwin⟩ := exists_of_optionRel hself
    exact ⟨found, hother.record?_of_own hfound, htwin⟩
  | none =>
    rw [hdefined] at hself
    have hundefined := eq_none_of_optionRel hself
    obtain ⟨source, hsource, hown⟩ : ∃ source, Requires package source ∧
        own? settings first source kind id = some record := by
      refine (hloaded.origin hrecord).resolve_left fun hown => ?_
      rw [hdefined] at hown
      cases hown
    have hmem := (hsame.dependencies _).2 (hloaded.identity_mem hsource)
    -- The other package holds something, since one of its dependencies has this identity.
    obtain ⟨found, hfound⟩ : ∃ found, twin.exports.record? kind id = some found := by
      obtain ⟨further, hfurther, hidentity⟩ := List.mem_map.1 hmem
      have hrel := own?_of_requires hplain halike hloaded hdir hother hotherDir hsheet hsource
        (.single hfurther) hidentity kind id
      rw [hown] at hrel
      obtain ⟨held, hheld, _⟩ := exists_of_optionRel hrel
      have hsome := (hother.of_mem hfurther).record?_of_own hheld
      exact Option.isSome_iff_exists.1 (hother.isSome_record? hfurther (by rw [hsome]; rfl))
    obtain ⟨origin, horigin, hdefines⟩ : ∃ origin, Requires twin origin ∧
        own? settings second origin kind id = some found := by
      refine (hother.origin hfound).resolve_left fun hown => ?_
      rw [hundefined] at hown
      cases hown
    have hnames : origin.name = source.name :=
      (package_eq_of_own hdefines).symm.trans (package_eq_of_own hown)
    have hidentity := hother.identity_eq_of_name (hother.identity_mem horigin) hmem hnames
    have hrel := own?_of_requires hplain halike hloaded hdir hother hotherDir hsheet hsource horigin
      hidentity kind id
    rw [hown, hdefines] at hrel
    cases hrel with
    | some htwin => exact ⟨found, hfound, htwin⟩

/-- Under every identifier both packages hold twins, or nothing. -/
theorem record?_reordered (hsame : Counterpart package twin) (kind : ExportKind)
    (id : Identifier) :
    Option.Rel (AnyExport.Twin first second) (package.exports.record? kind id)
      (twin.exports.record? kind id) := by
  cases hrecord : package.exports.record? kind id with
  | some record =>
    obtain ⟨found, hfound, htwin⟩ := exists_record?_reordered hplain halike hloaded hdir hother
      hotherDir hsheet hsame hrecord
    rw [hfound]
    exact .some htwin
  | none =>
    have hnone : twin.exports.record? kind id = none := by
      rw [Option.eq_none_iff_forall_not_mem]
      intro found hfound
      obtain ⟨record, hheld, _⟩ := exists_record?_reordered hplain halike.symm hother hotherDir
        hloaded hdir hsheet hsame.symm hfound
      rw [hrecord] at hheld
      cases hheld
    rw [hnone]
    exact .none

end Records

/-! ## What can be assembled alike -/

/-- A sprite that a package defines is in a directory among its sources. -/
theorem dir_of_own {disk : Disk} {id : Identifier} {sprite : Sprite}
    (h : own? settings disk package .sprite id = some (.sprite sprite)) :
    ∃ listing, disk.list (package.dir / settings.sourceDirectory / "sprite") = .ok listing ∧
      ∃ entry ∈ listing, sprite.dir = package.dir / settings.sourceDirectory / "sprite" / entry.1 ∧
        ∃ there, disk.directory? sprite.dir = some there := by
  obtain ⟨own, hown, hrecord⟩ := exists_definitions_of_ownRecord? h
  obtain ⟨found, hlast, heq⟩ := Option.map_eq_some_iff.1 hrecord
  cases heq
  obtain ⟨hgathered, _⟩ := definitions_ok.1 hown
  obtain ⟨listing, hlisting, entry, hentry, items, hitems, hmem⟩ :=
    exists_of_mem_gatheredAll hgathered (of_lastNamed hlast).1
  obtain ⟨loaded, hload, hitems⟩ := Report.result_bind_ok.1 hitems
  cases hitems
  cases List.mem_singleton.1 hmem
  obtain ⟨_, _, _, hread, _, hof⟩ := Sprite.load_ok.1 hload
  obtain ⟨_, hlocate, _⟩ := Disk.readFile_ok.1 hread
  obtain ⟨there, hthere, _⟩ := Disk.directory?_of_locate_div Path.plain_sheetName hlocate
  have hplace := (Sprite.ofSheet_ok hof).1
  exact ⟨listing, hlisting, entry, hentry, hplace, there, hplace ▸ hthere⟩

/-- No manifest that differs is in the directory of a sprite that a package holds. -/
theorem apart_of_sprite (hplain : Path.Plain settings.manifestName)
    (halike : Alike settings moved first second location)
    (hloaded : Loaded settings first package) (hdir : first.directory? package.dir = some location)
    {id : Identifier} {sprite : Sprite} (h : package.exports.sprites.get? id = some sprite)
    (hthere : first.directory? sprite.dir = some there) :
    ∀ below, below.within there = true → ¬ moved below := by
  have hrecord : package.exports.record? .sprite id = some (.sprite sprite) := by
    rw [Exports.record?, h]
    rfl
  obtain ⟨source, hown, hapart⟩ : ∃ source, own? settings first source .sprite id =
      some (.sprite sprite) ∧ SourcesApart settings first moved source.dir := by
    rcases hloaded.origin hrecord with hown | ⟨source, hsource, hown⟩
    · exact ⟨package, hown, halike.apart location .refl package.dir hdir⟩
    · exact ⟨source, hown, apart_of_requires hplain halike hloaded hdir hsource⟩
  obtain ⟨listing, hlisting, entry, hentry, hsprite, _⟩ := dir_of_own hown
  rw [hsprite] at hthere
  exact hapart.sprites listing hlisting entry hentry there hthere

/-- A package that loads from one of the disks loads from the other one as well, and both hold
exports that can be assembled alike. -/
theorem load_reordered (hplain : Path.Plain settings.manifestName)
    (hsheet : LoadError.sheetName ≠ settings.manifestName)
    (halike : Alike settings moved first second location)
    (hdir : first.directory? dir = some location)
    (h : (load settings first dir).result = .ok package) :
    ∃ twin, (load settings second dir).result = .ok twin ∧
      package.exports.Twin moved first second twin.exports := by
  have hother : second.directory? dir = some location :=
    (halike.disks.directory?_eq (halike.disks.locate_eq dir)).trans hdir
  obtain ⟨twin, htwin, hsame⟩ := loadNested_reordered hsheet halike hdir hother h []
  rw [← dir_of_loadNested h] at hdir
  rw [← dir_of_loadNested htwin] at hother
  have hloaded := loaded_of_load h
  have hrecords := record?_reordered hplain halike hloaded hdir (loaded_of_load htwin) hother hsheet
    hsame
  have hnamed := hloaded.wellNamed
  refine ⟨twin, htwin, .of_get? fun id => ?_, .of_get? fun id => ?_, .of_get? fun id => ?_⟩
  · refine optionRel_of_map (hrecords .sprite id) fun sprite _ hheld hrel => ?_
    cases hrel with
    | sprite hsprite =>
      exact ⟨hsprite, fun _ => apart_of_sprite hplain halike hloaded hdir hheld⟩
  · refine optionRel_of_map (hrecords .actor id) fun actor _ hheld hrel => ?_
    cases hrel with
    | actor hactor =>
      have hwell := hnamed.actors.of_get? hheld
      have hcarried : actor.name = id.name := hwell.carried
      exact ⟨hactor, hcarried ▸ hwell.name⟩
  · refine optionRel_of_map (hrecords .text id) fun _ _ _ hrel => ?_
    cases hrel with
    | string hstring => exact hstring

end ModPack.Package
