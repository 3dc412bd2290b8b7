import ModPack.Proofs.WrittenPackages

/-!
# Dependencies of the package's own name

A package declares no dependency under its own name, but the directory that a declaration leads to
tells its name itself, and packages further down are not compared with the package that is loaded.
So a package can have a dependency of its own name, which then defines exports in its namespace.
Main statements: `namespace_of_load` and `load_with_namesake`.
-/
namespace ModPack.Package

open Relation (TransGen)

variable {settings : Settings} {disk : Disk} {stack : List Location} {route : List Nat} {dir : Path}
  {package : Package}

/-- Every declared name was checked. -/
theorem dependencyFault?_of_mem {manifest : Manifest} {number : Nat} {declared : List Dependency}
    {packages : List Package} {dependency : Dependency}
    (h : (loadDependencies settings disk stack route dir manifest number
      declared).result = .ok packages) (hmem : dependency ∈ declared) :
    Name.dependencyFault? dependency.name manifest.name = none := by
  induction declared generalizing number packages with
  | nil => cases hmem
  | cons first rest ih =>
    obtain ⟨hname, _, _, others, hrest, _⟩ := loadDependencies_cons_ok.1 h
    rcases List.mem_cons.1 hmem with rfl | hmem
    · exact hname
    · exact ih hrest hmem

theorem ne_of_dependencyFault? {name package : String}
    (h : Name.dependencyFault? name package = none) : name ≠ package := by
  rintro rfl
  rw [Name.dependencyFault?, if_pos rfl] at h
  cases h

/-- No dependency is declared under the package's own name. -/
theorem declared_ne_of_load (h : (load settings disk dir).result = .ok package)
    {dependency : Dependency} (hmem : dependency ∈ package.manifest.dependencies) :
    dependency.name ≠ package.name := by
  obtain ⟨_, manifest, direct, _, _, _, hdirect, hparts⟩ := loadNested_ok.1 h
  obtain ⟨_, _, _, rfl⟩ := ofParts_ok.1 hparts
  exact ne_of_dependencyFault? (dependencyFault?_of_mem hdirect hmem)

/-- Without a dependency of its name a package holds nothing under its name but what it defines. -/
theorem Loaded.record?_of_own_name (h : Loaded settings disk package)
    (halone : ∀ needed ∈ package.dependencies, needed.name ≠ package.name) (kind : ExportKind)
    {id : Identifier} (hid : id.package = package.name) :
    package.exports.record? kind id = own? settings disk package kind id := by
  cases hown : own? settings disk package kind id with
  | some record => exact h.record?_of_own hown
  | none =>
    rw [Option.eq_none_iff_forall_not_mem]
    intro record hrecord
    rcases h.origin hrecord with hdefined | ⟨source, hsource, hdefined⟩
    · rw [hown] at hdefined
      cases hdefined
    · obtain ⟨needed, hneeded, hidentity⟩ := List.mem_map.1 (h.identity_mem hsource)
      have hname : needed.name = source.name := congrArg Prod.fst hidentity
      refine halone needed hneeded ?_
      rw [hname, ← package_eq_of_own hdefined, hid]

/-- What is known of the namespace of a loaded package. No dependency is declared under the
package's name. No dependency has the name exactly when no directory has it that is reached along
declared dependencies, and then the package holds nothing under its name but what it defines. -/
theorem namespace_of_load {environment : Option String}
    (h : (load (.ofEnvironment environment) disk dir).result = .ok package) :
    (∀ dependency ∈ package.manifest.dependencies, dependency.name ≠ package.name) ∧
      (∀ start, disk.directory? dir = some start →
        ((∀ needed ∈ package.dependencies, needed.name ≠ package.name) ↔
          ∀ there version, TransGen (DependsOn (.ofEnvironment environment) disk) start there →
            ¬ IdentityAt (.ofEnvironment environment) disk there (package.name, version))) ∧
      ((∀ needed ∈ package.dependencies, needed.name ≠ package.name) →
        ∀ kind id, id.package = package.name →
          package.exports.record? kind id =
            own? (.ofEnvironment environment) disk package kind id) := by
  have hloaded := loaded_of_load h
  refine ⟨fun _ => declared_ne_of_load h, fun start hstart => ?_,
    fun halone kind id => hloaded.record?_of_own_name halone kind⟩
  rw [← dir_of_loadNested h] at hstart
  have hidentities (identity : String × String) :
      identity ∈ package.dependencies.map Package.identity ↔
        ∃ there, TransGen (DependsOn (.ofEnvironment environment) disk) start there ∧
          IdentityAt (.ofEnvironment environment) disk there identity :=
    hloaded.mem_identities_iff (Settings.plain_manifestName environment) hstart
  constructor
  · intro halone there version hreach hat
    obtain ⟨needed, hneeded, hidentity⟩ := List.mem_map.1 ((hidentities _).2 ⟨there, hreach, hat⟩)
    exact halone needed hneeded (congrArg Prod.fst hidentity)
  · intro hnone needed hneeded hname
    obtain ⟨there, hreach, hat⟩ := (hidentities _).1 (List.mem_map_of_mem hneeded)
    refine hnone there needed.version hreach ?_
    rw [← hname]
    exact hat

/-- In a chain of packages with different names each one has its namespace to itself. -/
theorem namespace_of_load_game :
    (load {} Sample.disk Sample.gamePath).result = .ok Sample.gamePackage ∧
      Sample.disk.directory? Sample.gamePath = some ["game"] ∧
      ∀ there version, TransGen (DependsOn {} Sample.disk) ["game"] there →
        ¬ IdentityAt {} Sample.disk there ("game", version) := by
  have hdirectory : Sample.disk.directory? Sample.gamePath = some ["game"] := by decide +kernel
  have hload : (load (.ofEnvironment none) Sample.disk Sample.gamePath).result =
      .ok Sample.gamePackage := Sample.load_game
  obtain ⟨_, halone, _⟩ := namespace_of_load hload
  exact ⟨hload, hdirectory, (halone _ hdirectory).1 (by decide)⟩

end ModPack.Package

namespace ModPack

namespace Sample

/-! ## A package that needs another one of its name -/

def originalFile : ManifestFile where
  manifest :=
    { name := "game"
      version := "1.0.0"
      dependencies := [⟨"art", ⟨.relative, ["..", "art"]⟩⟩] }
  text := "name: game\nversion: 1.0.0\ndependencies:\n  art:\n    path: ../art\n"
  written := written_ofList (by decide +kernel)

/-- It is declared as `art`, and calls itself by the name of the package that needs it. -/
def namesakeFile : ManifestFile where
  manifest := { name := "game", version := "2.0.0" }
  text := "name: game\nversion: 2.0.0\ndependencies: \x7b\x7d\n"
  written := written_ofList (by decide +kernel)

def namesakePath : Path :=
  ⟨.root, ["game", "..", "art"]⟩

/-- The namesake defines a private string. -/
def namesakes : Disk where
  tree := ⟨[
    (["art"], .directory),
    (["starpkg.yaml", "art"], namesakeFile.entry),
    (["src", "art"], .directory),
    (["string", "src", "art"], .directory),
    (["lines.str", "string", "src", "art"],
      .file (Utf8.encode "#string:01:(_secret)\nHello!\n")),
    (["game"], .directory),
    (["starpkg.yaml", "game"], originalFile.entry)]⟩

/-- Any disk with both packages side by side, whatever they define. -/
theorem load_beside_namesake {disk : Disk} (hart : disk.directory? namesakePath = some ["art"])
    (hgame : disk.directory? gamePath = some ["game"])
    (hartFile : disk.tree.get? ["starpkg.yaml", "art"] = some namesakeFile.entry)
    (hgameFile : disk.tree.get? ["starpkg.yaml", "game"] = some originalFile.entry)
    (hnamesake : (exportsOf disk namesakePath namesakeFile.manifest []).isSome)
    (horiginal : (exportsOf disk gamePath originalFile.manifest
      [packageOf disk [0] namesakePath namesakeFile.manifest []]).isSome) :
    (Package.load {} disk gamePath).result = .ok (packageOf disk [] gamePath originalFile.manifest
      [packageOf disk [0] namesakePath namesakeFile.manifest []]) := by
  have hloadArt : (Package.loadNested {} disk [["game"]] [0] namesakePath).result =
      .ok (packageOf disk [0] namesakePath namesakeFile.manifest []) :=
    loadNested_alone hart (by decide) (namesakeFile.checkedManifest hart hartFile) rfl hnamesake
  refine loadNested_packageOf hgame List.not_mem_nil (originalFile.checkedManifest hgame hgameFile)
    ?_ (List.nodup_singleton _) horiginal
  exact Package.loadDependencies_cons_ok.2 ⟨by decide +kernel, _, hloadArt, [],
    Package.loadDependencies_nil, rfl⟩

def namesakePackage : Package :=
  packageOf namesakes [0] namesakePath namesakeFile.manifest []

def originalPackage : Package :=
  packageOf namesakes [] gamePath originalFile.manifest [namesakePackage]

theorem load_original : (Package.load {} namesakes gamePath).result = .ok originalPackage :=
  load_beside_namesake (by decide +kernel) (by decide +kernel) rfl rfl (by decide +kernel)
    (by decide +kernel)

def secretId : Identifier :=
  ⟨"game", "_secret"⟩

end Sample

/-- A package that loads can have a dependency of its own name, and hold a private export under its
name that it does not define. -/
theorem Package.load_with_namesake :
    (load {} Sample.namesakes Sample.gamePath).result = .ok Sample.originalPackage ∧
      Sample.namesakePackage ∈ Sample.originalPackage.dependencies ∧
      Sample.namesakePackage.name = Sample.originalPackage.name ∧
      Sample.secretId.package = Sample.originalPackage.name ∧ Sample.secretId.isPrivate = true ∧
      (Sample.originalPackage.exports.record? .text Sample.secretId).isSome ∧
      own? {} Sample.namesakes Sample.originalPackage .text Sample.secretId = none := by
  have hmem : Sample.namesakePackage ∈ Sample.originalPackage.dependencies :=
    List.mem_singleton_self _
  exact ⟨Sample.load_original, hmem, rfl, rfl, by decide, by decide +kernel, by decide +kernel⟩

end ModPack
