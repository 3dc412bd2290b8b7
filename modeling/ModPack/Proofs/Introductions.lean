import ModPack.Proofs.References
import ModPack.Proofs.WrittenPackages

/-!
# The strings that introduce actors

A text can name every export of its own package, and those of other packages that are not private.
The strings that introduce an actor are named by texts of the package that the actor was loaded for,
and an actor keeps that package however many packages inherit it. The package that a reference names
passes as the name of a dependency, which asks less than the name of a package does. Main
statement: `Package.wellFormed_of_load`.
-/
namespace ModPack

/-- An actor as a load leaves it: with the package it was loaded for, and with strings that texts of
that package can name. -/
structure Introduced (id : Identifier) (actor : Actor) : Prop extends WellNamed id actor where
  sourcePackage : actor.sourcePackage = id.package
  displayName : Identifier.NamedFrom id.package actor.displayName
  tattle : Identifier.NamedFrom id.package actor.tattle

/-- A sidecar file names strings as its package can name them. -/
theorem Actor.load_introduced {disk : Disk} {package : String} {path : Path} {actor : Actor}
    (hpackage : Name.packageFault? package = none)
    (h : (Actor.load disk package path).result = .ok actor) :
    Introduced ⟨package, actor.name⟩ actor := by
  obtain ⟨hname, hstate⟩ := Actor.load_fresh h
  obtain ⟨_, _, _, _, _, _, _, ⟨_, _, hdisplayName⟩, ⟨_, _, htattle⟩, rfl⟩ := Actor.load_ok.1 h
  exact
    { package := hpackage
      name := hname
      carried := rfl
      unmarked := hstate
      sourcePackage := rfl
      displayName := Identifier.namedFrom_of_parse hdisplayName
      tattle := Identifier.namedFrom_of_parse htattle }

namespace Package

variable {settings : Settings} {disk : Disk} {package : Package} {id : Identifier}

/-- Every actor of a loaded package was loaded for the package that its identifier names. -/
theorem Loaded.exists_load_of_actor {actor : Actor} (h : Loaded settings disk package)
    (hget : package.exports.actors.get? id = some actor) :
    id.name = actor.name ∧ ∃ dir, (Actor.load disk id.package dir).result = .ok actor := by
  have hrecord : package.exports.record? .actor id = some (.actor actor) := by
    rw [Exports.record?, hget]
    rfl
  have hown : ∃ needed, own? settings disk needed .actor id = some (.actor actor) := by
    rcases h.origin hrecord with hown | ⟨needed, -, hown⟩
    · exact ⟨package, hown⟩
    · exact ⟨needed, hown⟩
  obtain ⟨needed, hown⟩ := hown
  obtain ⟨own, hdefinitions, hrecord⟩ := exists_definitions_of_ownRecord? hown
  obtain ⟨_, hlast, heq⟩ := Option.map_eq_some_iff.1 hrecord
  cases heq
  obtain ⟨hmem, rfl⟩ := of_lastNamed hlast
  obtain ⟨_, hactors, _⟩ := definitions_ok.1 hdefinitions
  obtain ⟨_, _, entry, _, found, hload, hfound⟩ := exists_of_mem_gatheredAll hactors hmem
  obtain ⟨loaded, hloaded, hsingle⟩ := Report.result_bind_ok.1 hload
  cases hsingle
  rw [List.mem_singleton.1 hfound]
  exact ⟨rfl, _, hloaded⟩

theorem Loaded.introduced (h : Loaded settings disk package) :
    package.exports.actors.All Introduced := by
  intro id actor hmem
  have hget := Registry.get?_of_mem hmem
  have hpackage := (h.wellNamed.actors id actor hmem).package
  obtain ⟨hname, dir, hload⟩ := h.exists_load_of_actor hget
  have hid : id = ⟨id.package, actor.name⟩ := by rw [← hname]
  rw [hid]
  exact Actor.load_introduced hpackage hload

/-- All that a loaded package holds, its own and what it inherits, is properly named, unassembled,
and in its place: strings in sections that there are, and actors with the package they were loaded
for and strings that this package can name. -/
theorem wellFormed_of_load {dir : Path}
    (h : (load settings disk dir).result = .ok package) :
    package.exports.sprites.All WellNamed ∧ package.exports.actors.All Introduced ∧
      package.exports.strings.All WellPlaced := by
  have hloaded := loaded_of_load h
  exact ⟨hloaded.wellNamed.sprites, hloaded.introduced, hloaded.wellNamed.strings⟩

end Package

/-! ## An actor on a disk -/

namespace Sample

open Package (definitions gatheredAll Definitions)

variable {disk : Disk} {dir : Path} {location : Location} {manifest : Manifest} {own : Definitions}

/-- A package without declarations, told by what its directory defines. -/
def packageWith (dir : Path) (manifest : Manifest) (own : Definitions) : Package where
  route := []
  dir := dir
  manifest := manifest
  dependencies := []
  exports := own.register manifest.name {}

theorem load_packageWith (hdirectory : disk.directory? dir = some location)
    (hmanifest : (Package.checkedManifest {} disk dir).result = .ok manifest)
    (hnone : manifest.dependencies = []) (hown : definitions {} disk dir manifest.name = .ok own) :
    (Package.load {} disk dir).result = .ok (packageWith dir manifest own) := by
  have hdirect : (Package.loadDependencies {} disk [location] [] dir manifest 0
      manifest.dependencies).result = .ok [] := by
    rw [hnone]
    exact Package.loadDependencies_nil
  exact loadNested_packageFrom hdirectory List.not_mem_nil hmanifest hdirect List.nodup_nil hown

/-- What a sidecar file says that names two strings. -/
def sidecarTree (name tattle : String) : Yaml.Tree :=
  .map [("name", .text name), ("tattle", .text tattle)]

theorem read_sidecar {name tattle text : String}
    (h : '\r' ∉ text.toList ∧
      (Yaml.Token.scan text.toList).toOption = some ((sidecarTree name tattle).tokens plain)) :
    Yaml.read (Utf8.encode text) =
      .ok (.map [(.text "name", .text name), (.text "tattle", .text tattle)]) := by
  obtain ⟨hlines, hscan⟩ := h
  have hplain : ∀ text, plain text = true → Yaml.Plain.kind text = .text :=
    fun _ => of_decide_eq_true
  have hdistinct : (sidecarTree name tattle).Distinct :=
    ⟨by simp, trivial, trivial, trivial⟩
  rw [Yaml.read_encode hlines]
  exact Yaml.readText_of_scan hplain hdistinct (ok_of_toOption hscan)

/-- A directory that defines an actor whose sidecar file names two strings, and what else is found
in its sources. -/
theorem definitions_of_actor (first second : String) {package name text : String}
    {displayName tattle : Identifier} {sprites : List Sprite} {strings : List NamedString}
    (hname : (dir / "src" / "actor" / name).name = name) (hproper : Name.fault? name = none)
    (hsprites : gatheredAll disk (dir / "src" / "sprite") true
      (fun path => do return [← Sprite.load disk path]) = .ok sprites)
    (hactors : disk.isDirectory (dir / "src" / "actor") = true)
    (hlisting : disk.list (dir / "src" / "actor") = .ok [(name, .directory)])
    (hsidecar : disk.readFile (dir / "src" / "actor" / name / Actor.sidecarName name) =
      .ok (Utf8.encode text))
    (hread : '\r' ∉ text.toList ∧
      (Yaml.Token.scan text.toList).toOption = some ((sidecarTree first second).tokens plain))
    (hfirst : (Identifier.parse first package).result.toOption = some displayName)
    (hsecond : (Identifier.parse second package).result.toOption = some tattle)
    (hstrings : (gatheredAll disk (dir / "src" / "string") false
      fun path => Loading.orRefuse (NamedString.load disk package path) id).toOption =
        some strings) :
    definitions {} disk dir package =
      .ok {
        sprites
        actors := [{
          dir := dir / "src" / "actor" / name, sourcePackage := package, displayName, tattle }]
        strings } := by
  have hactor := Actor.load_ok.2 ⟨by rwa [hname], _, _, _, _, by rwa [hname], read_sidecar hread,
    ⟨first, rfl, ok_of_toOption hfirst⟩, ⟨second, rfl, ok_of_toOption hsecond⟩, rfl⟩
  have hgathered : Package.gathered (dir / "src" / "actor") true
      (fun path => do return [← Actor.load disk package path]) [(name, .directory)] =
        .ok [{ dir := dir / "src" / "actor" / name, sourcePackage := package, displayName, tattle }] :=
    Package.gathered_cons_ok.2 ⟨_, Report.result_bind_ok.2 ⟨_, hactor, rfl⟩, [], rfl, rfl⟩
  refine Package.definitions_ok.2 ⟨hsprites, ?_, ok_of_toOption hstrings⟩
  change gatheredAll disk (dir / "src" / "actor") true _ = _
  rw [gatheredAll, if_pos hactors, hlisting]
  exact hgathered

def stageFile : ManifestFile where
  manifest := { name := "stage", version := "1.0.0" }
  text := "name: stage\nversion: 1.0.0\ndependencies: \x7b\x7d\n"
  written := written_ofList (by decide +kernel)

def stagePath : Path :=
  ⟨.root, ["stage"]⟩

/-- A package with two strings, one of them private, and an actor with given files. -/
def stage (sidecar script : String) : Disk where
  tree := ⟨[
    (["stage"], .directory),
    (["starpkg.yaml", "stage"], stageFile.entry),
    (["src", "stage"], .directory),
    (["string", "src", "stage"], .directory),
    (["lines.str", "string", "src", "stage"],
      .file (Utf8.encode "#string:01:(hello)\nHello!\n\n#string:01:(_hint)\nJump on it.\n")),
    (["actor", "src", "stage"], .directory),
    (["goomba", "actor", "src", "stage"], .directory),
    (["goomba.yaml", "goomba", "actor", "src", "stage"], .file (Utf8.encode sidecar)),
    (["goomba.bscr", "goomba", "actor", "src", "stage"],
      .file (Utf8.encode script))]⟩

def linesPath : Path :=
  stagePath / "src" / "string" / "lines.str"

/-- The actor that introduces itself by two strings. -/
def goomba (displayName tattle : Identifier) : Actor where
  dir := stagePath / "src" / "actor" / "goomba"
  sourcePackage := "stage"
  displayName := displayName
  tattle := tattle

/-- What the package defines. -/
def stageOwn (displayName tattle : Identifier) : Definitions where
  sprites := []
  actors := [goomba displayName tattle]
  strings := [
    { bank := 1, name := "hello", text := "Hello!", path := some linesPath },
    { bank := 1, name := "_hint", text := "Jump on it.", path := some linesPath }]

def stagePackage (displayName tattle : Identifier) : Package :=
  packageWith stagePath stageFile.manifest (stageOwn displayName tattle)

/-- The package loads when its sidecar file names two strings. -/
theorem load_stage (name tattle : String) {text script : String}
    {displayName described : Identifier}
    (hread : '\r' ∉ text.toList ∧
      (Yaml.Token.scan text.toList).toOption = some ((sidecarTree name tattle).tokens plain))
    (hname : (Identifier.parse name "stage").result.toOption = some displayName)
    (htattle : (Identifier.parse tattle "stage").result.toOption = some described)
    (hstrings : (gatheredAll (stage text script) (stagePath / "src" / "string") false
      fun path => Loading.orRefuse (NamedString.load (stage text script) "stage" path)
        id).toOption = some (stageOwn displayName described).strings) :
    (Package.load {} (stage text script) stagePath).result =
      .ok (stagePackage displayName described) := by
  have hdirectory : (stage text script).directory? stagePath = some ["stage"] := rfl
  have hlisting : (stage text script).list (stagePath / "src" / "actor") =
      .ok [("goomba", .directory)] :=
    Disk.list_ok.2 ⟨["actor", "src", "stage"], rfl, by simp [FileTree.children, stage]⟩
  exact load_packageWith hdirectory (stageFile.checkedManifest hdirectory rfl) rfl
    (definitions_of_actor name tattle rfl (by decide) (Package.gatheredAll_of_not_isDirectory rfl)
      rfl hlisting rfl hread hname htattle hstrings)

def hello : Identifier :=
  ⟨"stage", "hello"⟩

def hint : Identifier :=
  ⟨"stage", "_hint"⟩

/-- A string of the base game, which no package can define. -/
def reservedHello : Identifier :=
  ⟨"pm64", "hello"⟩

def sidecar : String :=
  "name: hello\ntattle: _hint\n"

def reservedSidecar : String :=
  "name: pm64/hello\ntattle: _hint\n"

/-- A script that names exports of its own package. -/
def script : String :=
  "\x7bString:_hint\x7d\n\x7bActor:goomba\x7d\n"

theorem load_stage_sidecar :
    (Package.load {} (stage sidecar script) stagePath).result = .ok (stagePackage hello hint) :=
  load_stage "hello" "_hint" (by decide +kernel) (by decide +kernel) (by decide +kernel)
    (by decide +kernel)

theorem load_stage_reserved :
    (Package.load {} (stage reservedSidecar script) stagePath).result =
      .ok (stagePackage reservedHello hint) :=
  load_stage "pm64/hello" "_hint" (by decide +kernel) (by decide +kernel) (by decide +kernel)
    (by decide +kernel)

end Sample

/-- The exports of a package with an actor. -/
theorem Package.wellFormed_of_load_stage :
    (Package.load {} (Sample.stage Sample.sidecar Sample.script) Sample.stagePath).result =
        .ok (Sample.stagePackage Sample.hello Sample.hint) ∧
      (Sample.stagePackage Sample.hello Sample.hint).exports.sprites.All WellNamed ∧
      (Sample.stagePackage Sample.hello Sample.hint).exports.actors.All Introduced ∧
      (Sample.stagePackage Sample.hello Sample.hint).exports.strings.All WellPlaced :=
  ⟨Sample.load_stage_sidecar, Package.wellFormed_of_load Sample.load_stage_sidecar⟩

/-- The string that introduces an actor can be one of a package whose name no package can have: the
name of the package in a reference is checked as that of a dependency. -/
theorem Package.load_with_reserved_name :
    (Package.load {} (Sample.stage Sample.reservedSidecar Sample.script) Sample.stagePath).result =
        .ok (Sample.stagePackage Sample.reservedHello Sample.hint) ∧
      (Sample.stagePackage Sample.reservedHello Sample.hint).exports.actors.get?
          ⟨"stage", "goomba"⟩ = some (Sample.goomba Sample.reservedHello Sample.hint) ∧
      Sample.reservedHello.package ≠ "stage" ∧
      Name.packageFault? Sample.reservedHello.package = some .reserved :=
  ⟨Sample.load_stage_reserved, by decide +kernel, by decide, by decide⟩

end ModPack
