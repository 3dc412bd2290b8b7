import ModPack.Proofs.ExportOrigins
import ModPack.Proofs.ManifestFiles

/-!
# Packages on disks that are written down

Loads from a disk that is written down give packages that can be written down too: a package is told
by its manifest and by the packages for its declarations, and its exports are what loading them
gives. An inventory of a disk has all its manifests, so it tells which names and versions are those
of one directory. Main statements: `loadNested_packageOf` and `Inventory.declaredOnce`.
-/
namespace ModPack.Sample

open Package (loadNested loadDependencies checkedManifest ownExports mergedExports flatten
  definitions Definitions)

variable {disk : Disk} {stack : List Location} {route : List Nat} {dir : Path}
  {location : Location} {manifest : Manifest} {direct : List Package}

/-! ## Manifests -/

/-- The text is that of a file that is read as the manifest, and the name of the package is
proper. -/
structure Written (manifest : Manifest) (text : String) : Prop where
  lines : '\r' ∉ text.toList
  scan : Yaml.Token.scan text.toList = .ok (manifest.toTree.tokens plain)
  names : (manifest.dependencies.map (·.name)).Nodup
  value : Manifest.ofValue manifest.toValue = .ok manifest
  name : Name.packageFault? manifest.name = none

/-- What is to be evaluated for a text that is given by its characters. -/
theorem written_ofList {chars : List Char}
    (h : '\r' ∉ chars ∧ (Yaml.Token.scan chars).toOption = some (manifest.toTree.tokens plain) ∧
      (manifest.dependencies.map (·.name)).Nodup ∧
      (Manifest.ofValue manifest.toValue).toOption = some manifest ∧
      Name.packageFault? manifest.name = none) : Written manifest (.ofList chars) := by
  obtain ⟨hlines, hscan, hnames, hvalue, hname⟩ := h
  refine ⟨?_, ?_, hnames, ok_of_toOption hvalue, hname⟩
  · rwa [String.toList_ofList]
  · rw [String.toList_ofList]
    exact ok_of_toOption hscan

/-- The same for a text in two pieces. -/
theorem written_append {front back : List Char}
    (h : '\r' ∉ front ++ back ∧
      (Yaml.Token.scan (front ++ back)).toOption = some (manifest.toTree.tokens plain) ∧
      (manifest.dependencies.map (·.name)).Nodup ∧
      (Manifest.ofValue manifest.toValue).toOption = some manifest ∧
      Name.packageFault? manifest.name = none) :
    Written manifest (.ofList front ++ .ofList back) := by
  rw [← String.ofList_append]
  exact written_ofList h

/-- A manifest and the text of its file. -/
structure ManifestFile where
  manifest : Manifest
  text : String
  written : Written manifest text

namespace ManifestFile

variable (file : ManifestFile)

/-- The file on a disk. -/
def entry : Entry :=
  .file (Utf8.encode file.text)

theorem read : Yaml.read (Utf8.encode file.text) = .ok file.manifest.toValue :=
  Manifest.read_of_scan file.written.lines (fun _ => of_decide_eq_true) file.written.scan
    file.written.names

theorem checkedManifest (hdirectory : disk.directory? dir = some location)
    (hfile : disk.tree.get? ("starpkg.yaml" :: location) = some file.entry) :
    (checkedManifest {} disk dir).result = .ok file.manifest := by
  have hread : disk.readFile (dir / "starpkg.yaml") = .ok (Utf8.encode file.text) :=
    Disk.readFile_div hdirectory (Path.plain_of_not_mem (by decide)) hfile
  exact Package.checkedManifest_ok.2
    ⟨Package.readManifest_ok.2 ⟨_, _, hread, file.read, file.written.value⟩, file.written.name⟩

/-- Two files of manifests that differ in the order of their declarations. -/
theorem reordered {other : ManifestFile} {moved : Prop} (hmoved : moved)
    (hname : other.manifest.name = file.manifest.name)
    (hversion : other.manifest.version = file.manifest.version)
    (hperm : file.manifest.dependencies.Perm other.manifest.dependencies) :
    Entry.Reordered moved file.entry other.entry :=
  .manifest hmoved file.read other.read
    (Manifest.reordered_toValue hname hversion hperm file.written.names)

end ManifestFile

/-! ## Loads -/

/-- What a package holds whose dependencies are loaded. -/
def exportsOf (disk : Disk) (dir : Path) (manifest : Manifest) (direct : List Package) :
    Option Exports :=
  (ownExports {} disk dir manifest.name (mergedExports (flatten direct))).result.toOption

/-- The package of a directory whose dependencies are loaded. -/
def packageOf (disk : Disk) (route : List Nat) (dir : Path) (manifest : Manifest)
    (direct : List Package) : Package where
  route := route
  dir := dir
  manifest := manifest
  dependencies := flatten direct
  exports := (exportsOf disk dir manifest direct).getD {}

/-- A load gives the package when all that it is made of is there. -/
theorem loadNested_packageOf (hdirectory : disk.directory? dir = some location)
    (hstack : location ∉ stack) (hmanifest : (checkedManifest {} disk dir).result = .ok manifest)
    (hdirect : (loadDependencies {} disk (location :: stack) route dir manifest 0
      manifest.dependencies).result = .ok direct)
    (hnames : ((flatten direct).map Package.name).Nodup)
    (hexports : (exportsOf disk dir manifest direct).isSome) :
    (loadNested {} disk stack route dir).result =
      .ok (packageOf disk route dir manifest direct) := by
  refine Package.loadNested_ok.2
    ⟨location, manifest, direct, hdirectory, hstack, hmanifest, hdirect, ?_⟩
  obtain ⟨exports, hheld⟩ := Option.isSome_iff_exists.1 hexports
  refine Package.ofParts_ok.2
    ⟨Package.conflict?_eq_none.2 hnames, exports, ok_of_toOption hheld, ?_⟩
  rw [packageOf, hheld]
  rfl

/-- A package without declarations. -/
theorem loadNested_alone (hdirectory : disk.directory? dir = some location)
    (hstack : location ∉ stack) (hmanifest : (checkedManifest {} disk dir).result = .ok manifest)
    (hnone : manifest.dependencies = [])
    (hexports : (exportsOf disk dir manifest []).isSome) :
    (loadNested {} disk stack route dir).result = .ok (packageOf disk route dir manifest []) := by
  refine loadNested_packageOf hdirectory hstack hmanifest ?_ List.nodup_nil hexports
  rw [hnone]
  exact Package.loadDependencies_nil

/-- The package of a directory, told by what the directory defines. -/
def packageFrom (route : List Nat) (dir : Path) (manifest : Manifest) (direct : List Package)
    (own : Definitions) : Package where
  route := route
  dir := dir
  manifest := manifest
  dependencies := flatten direct
  exports := own.register manifest.name (mergedExports (flatten direct))

theorem loadNested_packageFrom {own : Definitions} (hdirectory : disk.directory? dir = some location)
    (hstack : location ∉ stack) (hmanifest : (checkedManifest {} disk dir).result = .ok manifest)
    (hdirect : (loadDependencies {} disk (location :: stack) route dir manifest 0
      manifest.dependencies).result = .ok direct)
    (hnames : ((flatten direct).map Package.name).Nodup)
    (hown : definitions {} disk dir manifest.name = .ok own) :
    (loadNested {} disk stack route dir).result =
      .ok (packageFrom route dir manifest direct own) :=
  Package.loadNested_ok.2 ⟨location, manifest, direct, hdirectory, hstack, hmanifest, hdirect,
    Package.ofParts_ok.2 ⟨Package.conflict?_eq_none.2 hnames, _,
      Package.ownExports_ok.2 ⟨own, hown, rfl⟩, rfl⟩⟩

/-! ## Inventories -/

/-- All manifests of a disk, with different names and versions: for each its directory and file. -/
structure Inventory (disk : Disk) where
  packages : List (Location × ManifestFile)
  complete : ∀ entry ∈ disk.tree.entries, entry.1.head? = some "starpkg.yaml" →
    entry.1.tail ∈ packages.map Prod.fst
  files : ∀ package ∈ packages,
    disk.tree.get? ("starpkg.yaml" :: package.1) = some package.2.entry
  distinct : (packages.map fun package =>
    (package.2.manifest.name, package.2.manifest.version)).Nodup

namespace Inventory

variable (inventory : Inventory disk)
include inventory

/-- A manifest that is found is in the inventory. -/
theorem mem_of_readManifest (hdirectory : disk.directory? dir = some location)
    (hread : Package.readManifest {} disk dir = .ok manifest) :
    ∃ file, (location, file) ∈ inventory.packages ∧ file.manifest = manifest := by
  obtain ⟨content, _, hcontent, _⟩ := Package.readManifest_ok.1 hread
  obtain ⟨there, hlocate, hfile⟩ := Disk.readFile_ok.1 hcontent
  have hplain : Path.Plain "starpkg.yaml" := Path.plain_of_not_mem (by decide)
  have hthere : there = "starpkg.yaml" :: location := by
    have hdiv := Disk.locate_div hdirectory hplain
    exact Except.ok.inj (hlocate.symm.trans hdiv)
  subst hthere
  have hmem := inventory.complete ("starpkg.yaml" :: location, .file content)
    (FileTree.mem_of_get? (List.cons_ne_nil _ _) hfile) rfl
  obtain ⟨⟨_, file⟩, hknown, rfl⟩ := List.mem_map.1 hmem
  have hchecked := file.checkedManifest hdirectory (inventory.files _ hknown)
  have hsame := (Package.checkedManifest_ok.1 hchecked).1
  rw [hread] at hsame
  cases hsame
  exact ⟨file, hknown, rfl⟩

/-- Different identities in an inventory are those of one directory each. -/
theorem declaredOnce (start : Location) (identity : String × String) :
    Package.DeclaredOnce {} disk start identity := by
  rintro first second _ _ ⟨dir, manifest, hdir, hread, hidentity⟩
    ⟨other, renewed, hother, hagain, hsame⟩
  obtain ⟨file, hmem, rfl⟩ := inventory.mem_of_readManifest hdir hread
  obtain ⟨file', hmem', rfl⟩ := inventory.mem_of_readManifest hother hagain
  have heq := List.inj_on_of_nodup_map inventory.distinct hmem hmem'
    (hidentity.trans hsame.symm)
  cases heq
  rfl

end Inventory

/-! ## A package that is needed twice -/

def baseFile : ManifestFile where
  manifest := base
  text := "name: base\nversion: 1.0.0\ndependencies: \x7b\x7d\n"
  written := written_ofList (by decide +kernel)

def hubFile : ManifestFile where
  manifest := hub
  text := "name: hub\nversion: 1.0.0\ndependencies:\n  base:\n    path: ../base\n"
  written := written_ofList (by decide +kernel)

/-- One dependency needs the other one, too. -/
def appFile : ManifestFile where
  manifest :=
    { name := "app"
      version := "1.0.0"
      dependencies := [⟨"base", ⟨.relative, ["..", "base"]⟩⟩, ⟨"hub", ⟨.relative, ["..", "hub"]⟩⟩] }
  text := "name: app\nversion: 1.0.0\n" ++
    "dependencies:\n  base:\n    path: ../base\n  hub:\n    path: ../hub\n"
  written := written_append (by decide +kernel)

def appPath : Path :=
  ⟨.root, ["app"]⟩

/-- The paths along which the other packages are found. -/
def appBasePath : Path :=
  ⟨.root, ["app", "..", "base"]⟩

def appHubPath : Path :=
  ⟨.root, ["app", "..", "hub"]⟩

def hubBasePath : Path :=
  ⟨.root, ["app", "..", "hub", "..", "base"]⟩

def shelf : Disk where
  tree := ⟨[
    (["base"], .directory),
    (["starpkg.yaml", "base"], baseFile.entry),
    (["src", "base"], .directory),
    (["string", "src", "base"], .directory),
    (["lines.str", "string", "src", "base"],
      .file (Utf8.encode "#string:01:(greeting)\nHello!\n")),
    (["hub"], .directory),
    (["starpkg.yaml", "hub"], hubFile.entry),
    (["app"], .directory),
    (["starpkg.yaml", "app"], appFile.entry)]⟩

def shelfBase : Package :=
  packageOf shelf [0] appBasePath base []

def shelfHub : Package :=
  packageOf shelf [1] appHubPath hub [packageOf shelf [0, 1] hubBasePath base []]

def shelfApp : Package :=
  packageOf shelf [] appPath appFile.manifest [shelfBase, shelfHub]

theorem load_shelf : (Package.load {} shelf appPath).result = .ok shelfApp := by
  have happ : shelf.directory? appPath = some ["app"] := by decide +kernel
  have hhub : shelf.directory? appHubPath = some ["hub"] := by decide +kernel
  have hbase : shelf.directory? appBasePath = some ["base"] := by decide +kernel
  have hbeyond : shelf.directory? hubBasePath = some ["base"] := by decide +kernel
  have hloadBase : (loadNested {} shelf [["app"]] [0] appBasePath).result = .ok shelfBase :=
    loadNested_alone hbase (by decide) (baseFile.checkedManifest hbase rfl) rfl (by decide +kernel)
  have hloadBeyond : (loadNested {} shelf [["hub"], ["app"]] [0, 1] hubBasePath).result =
      .ok (packageOf shelf [0, 1] hubBasePath base []) :=
    loadNested_alone hbeyond (by decide) (baseFile.checkedManifest hbeyond rfl) rfl
      (by decide +kernel)
  have hloadHub : (loadNested {} shelf [["app"]] [1] appHubPath).result = .ok shelfHub := by
    refine loadNested_packageOf hhub (by decide) (hubFile.checkedManifest hhub rfl) ?_ (by decide)
      (by decide +kernel)
    exact Package.loadDependencies_cons_ok.2 ⟨by decide +kernel, _, hloadBeyond, [],
      Package.loadDependencies_nil, rfl⟩
  refine loadNested_packageOf happ List.not_mem_nil (appFile.checkedManifest happ rfl) ?_ (by decide)
    (by decide +kernel)
  refine Package.loadDependencies_cons_ok.2
    ⟨by decide +kernel, shelfBase, hloadBase, [shelfHub], ?_, rfl⟩
  exact Package.loadDependencies_cons_ok.2 ⟨by decide +kernel, shelfHub, hloadHub, [],
    Package.loadDependencies_nil, rfl⟩

def shelfInventory : Inventory shelf where
  packages := [(["base"], baseFile), (["hub"], hubFile), (["app"], appFile)]
  complete := by decide +kernel
  files := by decide +kernel
  distinct := by decide

end ModPack.Sample
