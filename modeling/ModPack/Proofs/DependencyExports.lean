import ModPack.Proofs.WrittenPackages

/-!
# The exports of dependencies

Under the name of each dependency a package holds what that dependency holds, as long as its name
and version are those of one directory only. Records are compared in their canonical form, since one
directory may be reached along several paths. Packages of one name and version count as the same
package, and of these the first is kept as a dependency while the last one's exports win; so two
directories with one name and version can disagree. Main statements: `exports_of_dependencies` and
`exports_of_copies`.
-/
namespace ModPack

/-! ## Canonical records -/

namespace Disk

variable {disk : Disk} {path : Path} {location here : Location} {entry : Entry} {parts : List String}

/-- A walk that finds something goes along the canonical location. -/
theorem canonicalFrom_of_walk (hentry : disk.tree.get? location = some entry)
    (h : walk disk.tree here parts = .ok location) :
    canonicalFrom disk.tree here parts = .ok location := by
  induction parts generalizing here with
  | nil => exact h
  | cons part rest ih =>
    obtain ⟨hhere, hrest⟩ := walk_cons_ok.1 h
    rw [canonicalFrom]
    by_cases hpart : part = ".."
    · rw [stepTo, if_pos hpart] at hrest
      rw [if_pos hpart]
      exact ih hrest
    · rw [stepTo, if_neg hpart] at hrest
      rw [if_neg hpart]
      have hnext : ∃ found, disk.tree.get? (part :: here) = some found := by
        cases rest with
        | nil =>
          cases hrest
          exact ⟨entry, hentry⟩
        | cons second rest =>
          exact ⟨.directory, FileTree.isDirectory_iff.1 (walk_cons_ok.1 hrest).1⟩
      obtain ⟨found, hfound⟩ := hnext
      rw [FileTree.isDirectory_iff.1 hhere, hfound]
      exact ih hrest

theorem canonical_of_find (h : disk.find path = .ok (location, entry)) :
    disk.canonical path = .ok location := by
  obtain ⟨hlocate, hentry⟩ := find_ok.1 h
  exact canonicalFrom_of_walk hentry hlocate

theorem canonical_of_directory? (h : disk.directory? path = some location) :
    disk.canonical path = .ok location := by
  obtain ⟨hlocate, hdirectory⟩ := directory?_eq_some.1 h
  exact canonicalFrom_of_walk (FileTree.isDirectory_iff.1 hdirectory) hlocate

end Disk

/-- A record with its paths replaced by canonical ones. -/
def AnyExport.canonical (disk : Disk) : AnyExport → Except OsError AnyExport
  | .sprite item => do return .sprite { item with dir := (← disk.canonical item.dir).toPath }
  | .actor item => do return .actor { item with dir := (← disk.canonical item.dir).toPath }
  | .string item =>
    match item.path with
    | none => return .string item
    | some path => do return .string { item with path := some (← disk.canonical path).toPath }

/-- Twins are the same record but for the spelling of paths. -/
theorem AnyExport.Twin.canonical_eq {first second : Disk} {record twin : AnyExport}
    (h : record.Twin first second twin) :
    ∃ form, record.canonical first = .ok form ∧ twin.canonical second = .ok form := by
  cases h with
  | @sprite sprite twin h =>
    obtain ⟨⟨location, hdir, hother⟩, _, hpalettes, hanimations, hstate⟩ := h
    refine ⟨.sprite { sprite with dir := location.toPath }, ?_, ?_⟩
    · rw [canonical, Disk.canonical_of_directory? hdir]
      rfl
    · rw [canonical, Disk.canonical_of_directory? hother, ← hpalettes, ← hanimations, ← hstate]
      rfl
  | @actor actor twin h =>
    obtain ⟨⟨location, hdir, hother⟩, _, hsource, hdisplayName, htattle, hstate⟩ := h
    refine ⟨.actor { actor with dir := location.toPath }, ?_, ?_⟩
    · rw [canonical, Disk.canonical_of_directory? hdir]
      rfl
    · rw [canonical, Disk.canonical_of_directory? hother, ← hsource, ← hdisplayName, ← htattle,
        ← hstate]
      rfl
  | @string string twin h =>
    obtain ⟨_, _, _, path, _⟩ := string
    obtain ⟨bank, name, text, other, state⟩ := twin
    obtain ⟨hpath, rfl, rfl, rfl, rfl⟩ := h
    dsimp only at hpath
    cases hpath with
    | none => exact ⟨_, rfl, rfl⟩
    | @some path other hplaces =>
      obtain ⟨location, _, _, hfind, hfound⟩ := hplaces
      refine ⟨.string ⟨bank, name, text, some location.toPath, state⟩, ?_, ?_⟩
      · simp only [canonical, Disk.canonical_of_find hfind]
        rfl
      · simp only [canonical, Disk.canonical_of_find hfound]
        rfl

/-! ## Exports under the names of dependencies -/

namespace Package

variable {settings : Settings} {disk : Disk} {dir : Path} {package needed other : Package}
  {kind : ExportKind} {id : Identifier} {record : AnyExport} {location : Location}

theorem requires_of_mem (h : needed ∈ package.dependencies) : Requires package needed :=
  Relation.TransGen.single h

/-- What stands under another name than the package's own stems from a required package with the
identity of a dependency, and no other dependency has the name. -/
theorem Loaded.origin_of_ne (h : Loaded settings disk package)
    (hne : id.package ≠ package.name)
    (hrecord : package.exports.record? kind id = some record) :
    ∃ source, Requires package source ∧ own? settings disk source kind id = some record ∧
      ∃ needed ∈ package.dependencies, needed.identity = source.identity ∧
        needed.name = id.package ∧
        ∀ other ∈ package.dependencies, other.name = id.package → other = needed := by
  rcases h.origin hrecord with hown | ⟨source, hsource, hown⟩
  · exact absurd (package_eq_of_own hown) hne
  obtain ⟨needed, hneeded, hidentity⟩ := List.mem_map.1 (h.identity_mem hsource)
  have hname : needed.name = id.package :=
    (congrArg Prod.fst hidentity).trans (package_eq_of_own hown).symm
  refine ⟨source, hsource, hown, needed, hneeded, hidentity, hname, fun other hother hsame => ?_⟩
  exact h.eq_of_name hother hneeded (hsame.trans hname.symm)

/-- Under the name of a dependency whose name and version one directory has, a package holds what
the dependency holds. -/
theorem Loaded.record?_twin (hplain : Path.Plain settings.manifestName)
    (hsheet : LoadError.sheetName ≠ settings.manifestName) (h : Loaded settings disk package)
    (hdir : disk.directory? package.dir = some location) {source : Package}
    (hsource : Requires package source) (hown : own? settings disk source kind id = some record)
    (hneeded : needed ∈ package.dependencies) (hidentity : needed.identity = source.identity)
    (honce : DeclaredOnce settings disk location needed.identity) :
    ∃ held, needed.exports.record? kind id = some held ∧
      AnyExport.Twin disk disk record held := by
  rw [hidentity] at honce
  have hplaces := h.same_directory hplain hdir honce hsource (requires_of_mem hneeded) hidentity
  have hname : needed.name = source.name := congrArg Prod.fst hidentity
  have hrel := (h.of_requires hsource).own?_twin (Disk.Reordered.refl settings.manifestName disk)
    hsheet hplaces hname (fun _ _ _ _ _ _ hmoved => hmoved) kind id
  rw [hown] at hrel
  obtain ⟨held, hheld, htwin⟩ := exists_of_optionRel hrel
  exact ⟨held, (h.of_mem hneeded).record?_of_own hheld, htwin⟩

/-- The exports that a package holds under other names than its own are those of its dependencies.
For each of them exactly one dependency has the name, and the dependency holds the same record when
its name and version are those of one directory only, among the directories that are reached along
declared dependencies. Whatever a dependency holds, the package holds something under the same
identifier. -/
theorem exports_of_dependencies {environment : Option String}
    (h : (load (.ofEnvironment environment) disk dir).result = .ok package) :
    (∀ kind id record, id.package ≠ package.name →
        package.exports.record? kind id = some record →
          ∃ needed ∈ package.dependencies, needed.name = id.package ∧
            (∀ other ∈ package.dependencies, other.name = id.package → other = needed) ∧
            ((∀ start, disk.directory? dir = some start →
                DeclaredOnce (.ofEnvironment environment) disk start needed.identity) →
              ∃ held form, needed.exports.record? kind id = some held ∧
                record.canonical disk = .ok form ∧ held.canonical disk = .ok form)) ∧
      ∀ needed ∈ package.dependencies, ∀ kind name,
        (needed.exports.record? kind ⟨needed.name, name⟩).isSome →
          (package.exports.record? kind ⟨needed.name, name⟩).isSome := by
  have hloaded := loaded_of_load h
  have hplain := Settings.plain_manifestName environment
  obtain ⟨start, hstart⟩ := hloaded.directory? hplain
  refine ⟨?_, fun needed hneeded kind name => hloaded.isSome_record? hneeded⟩
  intro kind id record hne hrecord
  obtain ⟨source, hsource, hown, needed, hneeded, hidentity, hname, honly⟩ :=
    hloaded.origin_of_ne hne hrecord
  refine ⟨needed, hneeded, hname, honly, fun honce => ?_⟩
  have hdeclared := honce start (dir_of_loadNested h ▸ hstart)
  obtain ⟨held, hheld, htwin⟩ := hloaded.record?_twin hplain
    (Settings.sheetName_ne_manifestName environment) hstart hsource hown hneeded hidentity hdeclared
  obtain ⟨form, hform, hother⟩ := htwin.canonical_eq
  exact ⟨held, form, hheld, hform, hother⟩

end Package

namespace Sample

/-- The string as the package holds it, which gets it by way of the later dependency. -/
def shelfGreeting : NamedString :=
  { greeting with path := some (hubBasePath / "src" / "string" / "lines.str") }

end Sample

/-- The string that a package inherits along two paths is that of the package that defines it. -/
theorem Package.exports_of_dependencies_shelf :
    (load {} Sample.shelf Sample.appPath).result = .ok Sample.shelfApp ∧
      Sample.greetingId.package ≠ Sample.shelfApp.name ∧
      Sample.shelfApp.exports.record? .text Sample.greetingId =
        some (.string Sample.shelfGreeting) ∧
      ∃ needed ∈ Sample.shelfApp.dependencies, needed.name = "base" ∧
        ∃ held form, needed.exports.record? .text Sample.greetingId = some held ∧
          (AnyExport.string Sample.shelfGreeting).canonical Sample.shelf = .ok form ∧
          held.canonical Sample.shelf = .ok form := by
  have hload : (load (.ofEnvironment none) Sample.shelf Sample.appPath).result =
      .ok Sample.shelfApp := Sample.load_shelf
  have hne : Sample.greetingId.package ≠ Sample.shelfApp.name := by decide
  have hrecord : Sample.shelfApp.exports.record? .text Sample.greetingId =
      some (.string Sample.shelfGreeting) := by decide +kernel
  obtain ⟨hheld, _⟩ := exports_of_dependencies hload
  obtain ⟨needed, hneeded, hname, _, hsame⟩ := hheld _ _ _ hne hrecord
  exact ⟨hload, hne, hrecord, needed, hneeded, hname,
    hsame fun start _ => Sample.shelfInventory.declaredOnce start _⟩

namespace Sample

/-! ## Two directories with one name and version -/

def artFile : ManifestFile where
  manifest := { name := "art", version := "1.0.0" }
  text := "name: art\nversion: 1.0.0\ndependencies: \x7b\x7d\n"
  written := written_ofList (by decide +kernel)

/-- A package that needs a directory with another package of the same name and version. -/
def copierFile : ManifestFile where
  manifest :=
    { name := "copier"
      version := "1.0.0"
      dependencies := [⟨"art", ⟨.relative, ["..", "copy"]⟩⟩] }
  text := "name: copier\nversion: 1.0.0\ndependencies:\n  art:\n    path: ../copy\n"
  written := written_ofList (by decide +kernel)

def galleryFile : ManifestFile where
  manifest :=
    { name := "gallery"
      version := "1.0.0"
      dependencies :=
        [⟨"art", ⟨.relative, ["..", "art"]⟩⟩, ⟨"copier", ⟨.relative, ["..", "copier"]⟩⟩] }
  text := "name: gallery\nversion: 1.0.0\n" ++
    "dependencies:\n  art:\n    path: ../art\n  copier:\n    path: ../copier\n"
  written := written_append (by decide +kernel)

def artPath : Path :=
  ⟨.root, ["gallery", "..", "art"]⟩

def copierPath : Path :=
  ⟨.root, ["gallery", "..", "copier"]⟩

def copyPath : Path :=
  ⟨.root, ["gallery", "..", "copier", "..", "copy"]⟩

def galleryPath : Path :=
  ⟨.root, ["gallery"]⟩

/-- The same string is defined in different sections. -/
def copies : Disk where
  tree := ⟨[
    (["art"], .directory),
    (["starpkg.yaml", "art"], artFile.entry),
    (["src", "art"], .directory),
    (["string", "src", "art"], .directory),
    (["lines.str", "string", "src", "art"],
      .file (Utf8.encode "#string:01:(greeting)\nHello!\n")),
    (["copy"], .directory),
    (["starpkg.yaml", "copy"], artFile.entry),
    (["src", "copy"], .directory),
    (["string", "src", "copy"], .directory),
    (["lines.str", "string", "src", "copy"],
      .file (Utf8.encode "#string:02:(greeting)\nGoodbye!\n")),
    (["copier"], .directory),
    (["starpkg.yaml", "copier"], copierFile.entry),
    (["gallery"], .directory),
    (["starpkg.yaml", "gallery"], galleryFile.entry)]⟩

def artPackage : Package :=
  packageOf copies [0] artPath artFile.manifest []

def copyPackage : Package :=
  packageOf copies [0, 1] copyPath artFile.manifest []

def copierPackage : Package :=
  packageOf copies [1] copierPath copierFile.manifest [copyPackage]

def galleryPackage : Package :=
  packageOf copies [] galleryPath galleryFile.manifest [artPackage, copierPackage]

theorem load_gallery : (Package.load {} copies galleryPath).result = .ok galleryPackage := by
  have hart : copies.directory? artPath = some ["art"] := by decide +kernel
  have hcopy : copies.directory? copyPath = some ["copy"] := by decide +kernel
  have hcopier : copies.directory? copierPath = some ["copier"] := by decide +kernel
  have hgallery : copies.directory? galleryPath = some ["gallery"] := by decide +kernel
  have hloadArt : (Package.loadNested {} copies [["gallery"]] [0] artPath).result =
      .ok artPackage :=
    loadNested_alone hart (by decide) (artFile.checkedManifest hart rfl) rfl (by decide +kernel)
  have hloadCopy : (Package.loadNested {} copies [["copier"], ["gallery"]] [0, 1] copyPath).result =
      .ok copyPackage :=
    loadNested_alone hcopy (by decide) (artFile.checkedManifest hcopy rfl) rfl (by decide +kernel)
  have hloadCopier : (Package.loadNested {} copies [["gallery"]] [1] copierPath).result =
      .ok copierPackage := by
    refine loadNested_packageOf hcopier (by decide) (copierFile.checkedManifest hcopier rfl) ?_
      (by decide) (by decide +kernel)
    exact Package.loadDependencies_cons_ok.2 ⟨by decide +kernel, copyPackage, hloadCopy, [],
      Package.loadDependencies_nil, rfl⟩
  refine loadNested_packageOf hgallery List.not_mem_nil (galleryFile.checkedManifest hgallery rfl) ?_
    (by decide) (by decide +kernel)
  refine Package.loadDependencies_cons_ok.2 ⟨by decide +kernel, artPackage, hloadArt,
    [copierPackage], ?_, rfl⟩
  exact Package.loadDependencies_cons_ok.2 ⟨by decide +kernel, copierPackage, hloadCopier, [],
    Package.loadDependencies_nil, rfl⟩

def artGreetingId : Identifier :=
  ⟨"art", "greeting"⟩

theorem exists_string_of_bank {exports : Exports} {id : Identifier} {bank : Nat}
    (h : (exports.strings.get? id).map NamedString.bank = some bank) :
    ∃ string, exports.record? .text id = some (.string string) ∧ string.bank = bank := by
  obtain ⟨string, hstring, hbank⟩ := Option.map_eq_some_iff.1 h
  exact ⟨string, by rw [Exports.record?, hstring]; rfl, hbank⟩

end Sample

/-- The canonical form of a string is in the same section. -/
theorem AnyExport.bank_of_canonical {disk : Disk} {string : NamedString} {form : AnyExport}
    (h : (AnyExport.string string).canonical disk = .ok form) :
    ∃ canonical : NamedString, form = .string canonical ∧ canonical.bank = string.bank := by
  unfold AnyExport.canonical at h
  dsimp only at h
  split at h
  · cases h
    exact ⟨string, rfl, rfl⟩
  · obtain ⟨location, _, h⟩ := except_bind_ok.1 h
    cases h
    exact ⟨_, rfl, rfl⟩

/-- With two directories of one name and version, a package holds the string of one of them, and its
dependency of that name holds the string of the other. -/
theorem Package.exports_of_copies :
    ¬ ∀ (disk : Disk) (dir : Path) (package : Package),
      (load {} disk dir).result = .ok package →
        ∀ kind id record, id.package ≠ package.name →
          package.exports.record? kind id = some record →
            ∃ needed ∈ package.dependencies, needed.name = id.package ∧
              ∃ held form, needed.exports.record? kind id = some held ∧
                record.canonical disk = .ok form ∧ held.canonical disk = .ok form := by
  intro hall
  have hbanks : (Sample.galleryPackage.exports.strings.get? Sample.artGreetingId).map
        NamedString.bank = some 2 ∧
      (Sample.artPackage.exports.strings.get? Sample.artGreetingId).map NamedString.bank =
        some 1 := by decide +kernel
  obtain ⟨string, hrecord, hbank⟩ := Sample.exists_string_of_bank hbanks.1
  obtain ⟨other, hother, hbank'⟩ := Sample.exists_string_of_bank hbanks.2
  obtain ⟨needed, hneeded, hname, held, form, hheld, hform, hsame⟩ :=
    hall _ _ _ Sample.load_gallery .text Sample.artGreetingId _ (by decide) hrecord
  have hdependencies : Sample.galleryPackage.dependencies =
      [Sample.artPackage, Sample.copierPackage] := rfl
  have hart : needed = Sample.artPackage := by
    rw [hdependencies] at hneeded
    rcases List.mem_pair.1 hneeded with rfl | rfl
    · rfl
    · exact absurd hname (by decide)
  rw [hart, hother] at hheld
  cases hheld
  obtain ⟨first, rfl, hfirst⟩ := AnyExport.bank_of_canonical hform
  obtain ⟨second, heq, hsecond⟩ := AnyExport.bank_of_canonical hsame
  cases heq
  omega

end ModPack
