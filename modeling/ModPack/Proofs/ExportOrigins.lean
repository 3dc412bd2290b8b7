import ModPack.Proofs.DependencyGraph
import ModPack.Proofs.DependencyOrder
import ModPack.Proofs.TwinExports

/-!
# Where the exports of a package come from

Every export of a loaded package is a definition of its own or of a package that it depends on,
however indirectly. All of those are among its flattened dependencies by their identity, though not
always by the directory that the export comes from, and can be reached along declared dependencies.
The main tool is `Loaded.descend`, the induction over everything that a package depends on. Main
statements: `Loaded.origin`, `Loaded.identity_mem` and `Loaded.mem_identities_iff`.
-/
namespace ModPack

/-! ## The names of files -/

theorem Settings.manifestName_ofEnvironment (environment : Option String) :
    (ofEnvironment environment).manifestName = "starpkg.yaml" := by
  cases environment <;> rfl

theorem Settings.plain_manifestName (environment : Option String) :
    Path.Plain (ofEnvironment environment).manifestName := by
  rw [manifestName_ofEnvironment]
  exact Path.plain_of_not_mem (by decide)

theorem Settings.plain_sourceDirectory (environment : Option String) :
    Path.Plain (ofEnvironment environment).sourceDirectory := by
  have hsource : (ofEnvironment environment).sourceDirectory = "src" := by
    cases environment <;> rfl
  rw [hsource]
  exact Path.plain_of_not_mem (by decide)

theorem Settings.sheetName_ne_manifestName (environment : Option String) :
    LoadError.sheetName ≠ (ofEnvironment environment).manifestName := by
  rw [manifestName_ofEnvironment]
  decide

namespace Package

open Relation (ReflTransGen TransGen)

variable {settings : Settings} {disk : Disk} {package needed : Package} {packages : List Package}
  {kind : ExportKind} {id : Identifier} {record : AnyExport} {location there : Location}

/-- The package is among the dependencies of the other one, or of one that is among them, and so
on. -/
def Requires : Package → Package → Prop :=
  TransGen fun package needed => needed ∈ package.dependencies

/-! ## What a package depends on -/

theorem Loaded.of_mem (h : Loaded settings disk package) (hmem : needed ∈ package.dependencies) :
    Loaded settings disk needed := by
  induction h with
  | intro direct _ _ _ hloaded _ hdependencies _ ih =>
    rw [hdependencies] at hmem
    obtain ⟨between, hbetween, hmem | rfl⟩ := mem_flatten hmem
    · exact ih between hbetween hmem
    · exact hloaded needed hbetween

/-- Whatever passes from all dependencies of a loaded package to the package holds of the package.
The induction is on how the package was made, for the package together with its dependencies. -/
theorem Loaded.descend {motive : Package → Prop} (h : Loaded settings disk package)
    (hstep : ∀ package, Loaded settings disk package →
      (∀ needed ∈ package.dependencies, motive needed) → motive package) : motive package := by
  have hall : motive package ∧ ∀ needed ∈ package.dependencies, motive needed := by
    induction h with
    | @intro package direct hmanifest hname hdirs hloaded hagreed hdependencies hexports ih =>
      have hneeded : ∀ needed ∈ package.dependencies, motive needed := by
        intro needed hmem
        rw [hdependencies] at hmem
        obtain ⟨between, hbetween, hmem | rfl⟩ := mem_flatten hmem
        · exact (ih between hbetween).2 needed hmem
        · exact (ih needed hbetween).1
      have hloaded : Loaded settings disk package :=
        .intro direct hmanifest hname hdirs hloaded hagreed hdependencies hexports
      exact ⟨hstep package hloaded hneeded, hneeded⟩
  exact hall.1

theorem Loaded.of_requires (h : Loaded settings disk package) (hrequires : Requires package needed) :
    Loaded settings disk needed := by
  induction hrequires with
  | single hmem => exact h.of_mem hmem
  | tail _ hmem ih => exact ih.of_mem hmem

/-- Whatever a loaded package requires is among its dependencies by its identity. The induction is
on the way to what is required, from its beginning. -/
theorem Loaded.identity_mem (h : Loaded settings disk package)
    (hrequires : Requires package needed) :
    needed.identity ∈ package.dependencies.map identity := by
  induction hrequires using TransGen.head_induction_on with
  | single hmem => exact List.mem_map_of_mem hmem
  | @head package between hmem _ ih =>
    obtain ⟨same, hsame, hidentity⟩ := List.mem_map.1 (ih (h.of_mem hmem))
    obtain ⟨place, hplace⟩ := List.mem_iff_getElem?.1 hmem
    have hbefore := (h.ordered.identity_mem_take hplace hsame).resolve_left List.not_mem_nil
    rw [← hidentity]
    exact List.map_subset _ (List.take_subset _ _) hbefore

/-- Of one name there is one dependency. -/
theorem Loaded.eq_of_name (h : Loaded settings disk package) {other : Package}
    (hneeded : needed ∈ package.dependencies) (hother : other ∈ package.dependencies)
    (hname : needed.name = other.name) : needed = other :=
  List.inj_on_of_nodup_map h.nodup_name hneeded hother hname

/-- Required packages of one name have one identity. -/
theorem Loaded.identity_eq_of_name (h : Loaded settings disk package) {other : Package}
    (hneeded : needed.identity ∈ package.dependencies.map identity)
    (hother : other.identity ∈ package.dependencies.map identity)
    (hname : needed.name = other.name) : needed.identity = other.identity := by
  obtain ⟨first, hfirst, hneeded⟩ := List.mem_map.1 hneeded
  obtain ⟨second, hsecond, hother⟩ := List.mem_map.1 hother
  have hfirstName : first.name = needed.name := congrArg Prod.fst hneeded
  have hsecondName : second.name = other.name := congrArg Prod.fst hother
  have heq : first = second :=
    h.eq_of_name hfirst hsecond (hfirstName.trans (hname.trans hsecondName.symm))
  rw [← hneeded, ← hother, heq]

/-! ## Where required packages are -/

section Directories

variable (hplain : Path.Plain settings.manifestName)
include hplain

/-- A manifest is read in a directory. -/
theorem directory?_of_readManifest {dir : Path} {manifest : Manifest}
    (h : readManifest settings disk dir = .ok manifest) :
    ∃ location, disk.directory? dir = some location := by
  obtain ⟨content, _, hcontent, _⟩ := readManifest_ok.1 h
  obtain ⟨_, hlocate, _⟩ := Disk.readFile_ok.1 hcontent
  obtain ⟨location, hlocation, _⟩ := Disk.directory?_of_locate_div hplain hlocate
  exact ⟨location, hlocation⟩

theorem Loaded.directory? (h : Loaded settings disk package) :
    ∃ location, disk.directory? package.dir = some location := by
  obtain ⟨_, hmanifest, _⟩ := h
  exact directory?_of_readManifest hplain hmanifest

/-- What is among the dependencies is in a directory that can be reached along declared ones. -/
theorem Loaded.reaches_of_mem (h : Loaded settings disk package)
    (hdir : disk.directory? package.dir = some location) (hmem : needed ∈ package.dependencies) :
    ∃ there, disk.directory? needed.dir = some there ∧
      TransGen (DependsOn settings disk) location there := by
  induction h generalizing location with
  | @intro package direct hmanifest _ hdirs hloaded _ hdependencies _ ih =>
    have hdirect : ∀ between ∈ direct, ∃ there, disk.directory? between.dir = some there ∧
        DependsOn settings disk location there := by
      intro between hbetween
      obtain ⟨there, hthere⟩ := (hloaded between hbetween).directory? hplain
      refine ⟨there, hthere, between.dir, ⟨package.dir, package.manifest, hdir, hmanifest, ?_⟩,
        hthere⟩
      have hdeclared : between.dir ∈ package.manifest.dependencies.map fun dependency =>
          package.dir.join dependency.path := by
        rw [← hdirs]
        exact List.mem_map_of_mem hbetween
      obtain ⟨dependency, hdependency, hpath⟩ := List.mem_map.1 hdeclared
      exact ⟨dependency, hdependency, hpath⟩
    rw [hdependencies] at hmem
    obtain ⟨between, hbetween, hmem⟩ := mem_flatten hmem
    obtain ⟨there, hthere, hstep⟩ := hdirect between hbetween
    rcases hmem with hmem | rfl
    · obtain ⟨further, hfurther, hreach⟩ := ih between hbetween hthere hmem
      exact ⟨further, hfurther, TransGen.head hstep hreach⟩
    · exact ⟨there, hthere, .single hstep⟩

theorem Loaded.reaches (h : Loaded settings disk package)
    (hdir : disk.directory? package.dir = some location) (hrequires : Requires package needed) :
    ∃ there, disk.directory? needed.dir = some there ∧
      TransGen (DependsOn settings disk) location there := by
  induction hrequires with
  | single hmem => exact h.reaches_of_mem hplain hdir hmem
  | tail hbefore hmem ih =>
    obtain ⟨between, hbetween, hreach⟩ := ih
    obtain ⟨there, hthere, hstep⟩ := (h.of_requires hbefore).reaches_of_mem hplain hbetween hmem
    exact ⟨there, hthere, hreach.trans hstep⟩

end Directories

/-! ## Identities and directories -/

/-- The manifest in the directory tells this name and version. -/
def IdentityAt (settings : Settings) (disk : Disk) (location : Location)
    (identity : String × String) : Prop :=
  ∃ dir manifest, disk.directory? dir = some location ∧
    readManifest settings disk dir = .ok manifest ∧ (manifest.name, manifest.version) = identity

/-- Of the directories that are reached along declared dependencies from one on, at most one has a
manifest that tells this name and version. -/
def DeclaredOnce (settings : Settings) (disk : Disk) (start : Location)
    (identity : String × String) : Prop :=
  ∀ first second, ReflTransGen (DependsOn settings disk) start first →
    ReflTransGen (DependsOn settings disk) start second →
      IdentityAt settings disk first identity → IdentityAt settings disk second identity →
        first = second

theorem Loaded.identityAt (h : Loaded settings disk package)
    (hdir : disk.directory? package.dir = some location) :
    IdentityAt settings disk location package.identity := by
  obtain ⟨_, hmanifest, _⟩ := h
  exact ⟨package.dir, package.manifest, hdir, hmanifest, rfl⟩

theorem IdentityAt.eq_of_loaded {identity : String × String}
    (h : IdentityAt settings disk location identity)
    (hloaded : Loaded settings disk package) (hdir : disk.directory? package.dir = some location) :
    package.identity = identity := by
  obtain ⟨other, manifest, hother, hread, hidentity⟩ := h
  obtain ⟨_, hmanifest, _⟩ := hloaded
  have hsame := readManifest_of_same_directory hdir hother hread
  rw [hmanifest] at hsame
  cases hsame
  exact hidentity

/-- What a direct dependency depends on is kept by its identity. -/
theorem identity_mem_flatten_of_mem {direct : List Package} {between : Package}
    (h : between ∈ direct) (hmem : needed ∈ between.dependencies) :
    needed.identity ∈ (flatten direct).map Package.identity := by
  have hall : needed ∈ direct.flatMap fun package => package.dependencies ++ [package] :=
    List.mem_flatMap.2 ⟨between, h, List.mem_append_left _ hmem⟩
  exact (identity_mem_distinct [] hall).resolve_left List.not_mem_nil

/-- Where a declaration leads there is a loaded package that is kept by its identity, with all that
it depends on. -/
theorem Loaded.exists_of_dependsOn (h : Loaded settings disk package)
    (hdir : disk.directory? package.dir = some location)
    (hstep : DependsOn settings disk location there) :
    ∃ needed, Loaded settings disk needed ∧ disk.directory? needed.dir = some there ∧
      needed.identity ∈ package.dependencies.map Package.identity ∧
      ∀ further ∈ needed.dependencies,
        further.identity ∈ package.dependencies.map Package.identity := by
  obtain ⟨direct, hmanifest, _, hdirs, hloaded, _, hdependencies, _⟩ := h
  obtain ⟨path, ⟨other, manifest, hother, hread, dependency, hdeclared, rfl⟩, hthere⟩ := hstep
  have hsame := readManifest_of_same_directory hdir hother hread
  rw [hmanifest] at hsame
  cases hsame
  have hpath : package.dir.join dependency.path ∈ direct.map Package.dir := by
    rw [hdirs]
    exact List.mem_map_of_mem hdeclared
  obtain ⟨needed, hneeded, hneededDir⟩ := List.mem_map.1 hpath
  refine ⟨needed, hloaded needed hneeded, ?_, ?_, fun further hfurther => ?_⟩
  · rw [hneededDir, Disk.directory?_join hdir hother]
    exact hthere
  · rw [hdependencies]
    exact identity_mem_flatten hneeded
  · rw [hdependencies]
    exact identity_mem_flatten_of_mem hneeded hfurther

/-- The identities of the dependencies are those of the directories that are reached along declared
dependencies. -/
theorem Loaded.mem_identities_iff {identity : String × String}
    (hplain : Path.Plain settings.manifestName)
    (h : Loaded settings disk package) (hdir : disk.directory? package.dir = some location) :
    identity ∈ package.dependencies.map Package.identity ↔
      ∃ there, TransGen (DependsOn settings disk) location there ∧
        IdentityAt settings disk there identity := by
  constructor
  · intro hmem
    obtain ⟨needed, hneeded, rfl⟩ := List.mem_map.1 hmem
    obtain ⟨there, hthere, hreach⟩ := h.reaches_of_mem hplain hdir hneeded
    exact ⟨there, hreach, (h.of_mem hneeded).identityAt hthere⟩
  · rintro ⟨there, hreach, hat⟩
    induction hreach using TransGen.head_induction_on generalizing package with
    | single hstep =>
      obtain ⟨needed, hneeded, hthere, hmem, _⟩ := h.exists_of_dependsOn hdir hstep
      rw [← hat.eq_of_loaded hneeded hthere]
      exact hmem
    | head hstep _ ih =>
      obtain ⟨needed, hneeded, hbetween, _, hfurther⟩ := h.exists_of_dependsOn hdir hstep
      obtain ⟨further, hmem, rfl⟩ := List.mem_map.1 (ih hneeded hbetween)
      exact hfurther further hmem

/-- Required packages of one identity are in one directory when one directory has the identity. -/
theorem Loaded.same_directory {other : Package} (hplain : Path.Plain settings.manifestName)
    (h : Loaded settings disk package) (hdir : disk.directory? package.dir = some location)
    (honce : DeclaredOnce settings disk location needed.identity)
    (hneeded : Requires package needed) (hother : Requires package other)
    (hidentity : other.identity = needed.identity) :
    Disk.Aligned disk disk needed.dir other.dir := by
  obtain ⟨first, hfirst, hreach⟩ := h.reaches hplain hdir hneeded
  obtain ⟨second, hsecond, hreach'⟩ := h.reaches hplain hdir hother
  have hat := (h.of_requires hneeded).identityAt hfirst
  have hat' := (h.of_requires hother).identityAt hsecond
  rw [hidentity] at hat'
  have hsame := honce first second hreach.to_reflTransGen hreach'.to_reflTransGen hat hat'
  rw [← hsame] at hsecond
  exact ⟨first, hfirst, hsecond⟩

/-! ## Where exports come from -/

/-- The record that a package's own directory defines under an identifier. -/
def own? (settings : Settings) (disk : Disk) (package : Package) (kind : ExportKind)
    (id : Identifier) : Option AnyExport :=
  ownRecord? settings disk package.dir package.name kind id

theorem record?_mergedExports (packages : List Package) (kind : ExportKind) (id : Identifier) :
    (mergedExports packages).record? kind id =
      packages.reverse.findSome? fun package => package.exports.record? kind id := by
  have hfold (exports : Exports) : (packages.foldl (fun exports package =>
      exports.merge package.exports) exports).record? kind id =
        (packages.reverse.findSome? fun package => package.exports.record? kind id).or
          (exports.record? kind id) := by
    induction packages generalizing exports with
    | nil => rfl
    | cons package packages ih =>
      rw [List.foldl_cons, ih, Exports.record?_merge, List.reverse_cons, List.findSome?_append,
        Option.or_assoc]
      simp
  rw [mergedExports, hfold, Exports.record?_empty, Option.or_none]

theorem Loaded.exists_definitions (h : Loaded settings disk package) :
    ∃ own, definitions settings disk package.dir package.name = .ok own ∧
      package.exports = own.register package.name (mergedExports package.dependencies) := by
  obtain ⟨direct, _, _, _, _, _, hdependencies, hexports⟩ := h
  obtain ⟨own, hown, hover⟩ := ownExports_ok.1 hexports
  exact ⟨own, hown, by rw [hdependencies, hover]⟩

/-- A package holds its own definitions, and below them what its dependencies hold. -/
theorem Loaded.record?_eq (h : Loaded settings disk package) (kind : ExportKind)
    (id : Identifier) :
    package.exports.record? kind id = (own? settings disk package kind id).or
      ((mergedExports package.dependencies).record? kind id) := by
  obtain ⟨own, hown, hexports⟩ := h.exists_definitions
  rw [hexports, Definitions.record?_register, own?, ownRecord?_of_definitions hown]

theorem Loaded.record?_of_own (h : Loaded settings disk package)
    (hown : own? settings disk package kind id = some record) :
    package.exports.record? kind id = some record := by
  rw [h.record?_eq, hown]
  rfl

/-- A package holds something under every identifier under which a dependency does. -/
theorem Loaded.isSome_record? (h : Loaded settings disk package)
    (hmem : needed ∈ package.dependencies) (hheld : (needed.exports.record? kind id).isSome) :
    (package.exports.record? kind id).isSome := by
  have hmerged : ((mergedExports package.dependencies).record? kind id).isSome := by
    rw [record?_mergedExports, List.findSome?_isSome_iff]
    exact ⟨needed, List.mem_reverse.2 hmem, hheld⟩
  rw [h.record?_eq, Option.isSome_or, hmerged, Bool.or_true]

/-- Every record of a loaded package is defined by the package or by one that it requires. -/
theorem Loaded.origin (h : Loaded settings disk package)
    (hrecord : package.exports.record? kind id = some record) :
    own? settings disk package kind id = some record ∨
      ∃ needed, Requires package needed ∧ own? settings disk needed kind id = some record := by
  revert hrecord
  refine h.descend (motive := fun package => package.exports.record? kind id = some record →
    own? settings disk package kind id = some record ∨ ∃ needed, Requires package needed ∧
      own? settings disk needed kind id = some record) fun package hloaded ih hrecord => ?_
  rw [hloaded.record?_eq, Option.or_eq_some_iff] at hrecord
  rcases hrecord with hown | ⟨_, hmerged⟩
  · exact .inl hown
  rw [record?_mergedExports] at hmerged
  obtain ⟨needed, hmem, hheld⟩ := List.exists_of_findSome?_eq_some hmerged
  have hneeded : needed ∈ package.dependencies := List.mem_reverse.1 hmem
  refine .inr ?_
  rcases ih needed hneeded hheld with hown | ⟨further, hfurther, hown⟩
  · exact ⟨needed, .single hneeded, hown⟩
  · exact ⟨further, TransGen.head hneeded hfurther, hown⟩

/-- Two packages of one name in one directory define twins. -/
theorem Loaded.own?_twin {first second : Disk} {manifestName : String} {moved : Location → Prop}
    {other : Package} (hdisks : Disk.Reordered manifestName moved first second)
    (hsheet : LoadError.sheetName ≠ manifestName) (h : Loaded settings first needed)
    (hdir : Disk.Aligned first second needed.dir other.dir) (hname : other.name = needed.name)
    (hstrings : StringsApart settings first moved needed.dir) (kind : ExportKind)
    (id : Identifier) :
    Option.Rel (AnyExport.Twin first second) (own? settings first needed kind id)
      (own? settings second other kind id) := by
  obtain ⟨own, hown, _⟩ := h.exists_definitions
  rw [own?, own?, hname]
  exact ownRecord?_twin hdisks hdir hsheet hstrings hown kind id

theorem package_eq_of_own (h : own? settings disk package kind id = some record) :
    id.package = package.name :=
  package_eq_of_ownRecord? h

end Package

end ModPack
