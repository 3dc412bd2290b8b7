import ModPack.Proofs.LoadSteps
import ModPack.Proofs.RegistryEntries
import ModPack.Proofs.YamlTrees

/-!
# Manifests in files

A file whose tokens are those of a manifest's document is read as that manifest, so loads from a
disk that is written down can be followed to their packages. `Sample` has such a disk: a package that
needs another one, which needs a third, and a package that needs itself. Main statements:
`readManifest_of_scan`, `Sample.load_game` and `Sample.load_loop`.
-/
namespace ModPack

namespace Manifest

/-- The document that a manifest is written as reads as the value of the manifest. -/
theorem value_toTree (manifest : Manifest) : manifest.toTree.value = manifest.toValue := by
  simp [toTree, toValue, Yaml.Tree.value, Yaml.Tree.entryValues, Yaml.Tree.entryValues_eq]

theorem distinct_toTree {manifest : Manifest} (h : (manifest.dependencies.map (·.name)).Nodup) :
    manifest.toTree.Distinct := by
  have hentries : ∀ dependencies : List Dependency, Yaml.Tree.EntriesDistinct
      (dependencies.map fun dependency =>
        (dependency.name, .map [("path", .text dependency.path.toString)])) := by
    intro dependencies
    induction dependencies with
    | nil => trivial
    | cons dependency rest ih =>
      rw [List.map_cons, Yaml.Tree.EntriesDistinct]
      exact ⟨⟨by simp, trivial, trivial⟩, ih⟩
  refine ⟨by simp, trivial, trivial, ⟨?_, hentries _⟩, trivial⟩
  rwa [List.map_map]

end Manifest

theorem Text.unifyNewlines_of_not_mem {text : List Char} (h : '\r' ∉ text) :
    unifyNewlines text = text := by
  fun_induction unifyNewlines text with
  | case1 => rfl
  | case2 rest ih => exact absurd List.mem_cons_self h
  | case3 c rest _ ih =>
    obtain ⟨hc, hrest⟩ := not_or.1 (mt List.mem_cons.2 h)
    rw [ih hrest, if_neg (Ne.symm hc)]

/-- A text in a file without carriage returns is read as it stands. -/
theorem Yaml.read_encode {text : String} (h : '\r' ∉ text.toList) :
    Yaml.read (Utf8.encode text) = readText text.toList := by
  have hdecode : Utf8.decodePieces (Utf8.encode text) = .ok text :=
    mapError_eq_ok.2 (Utf8.decode_encode text)
  have hpieces : (Utf8.decodePieces (Utf8.encode text)).mapError Error.undecodable = .ok text :=
    mapError_eq_ok.2 hdecode
  simp [read, hpieces, bind, Except.bind, Text.unifyNewlines_of_not_mem h]

/-- A text whose tokens are those of a manifest's document is read as that document. -/
theorem Manifest.read_of_scan {manifest : Manifest} {text : String} {plain : String → Bool}
    (hlines : '\r' ∉ text.toList)
    (hplain : ∀ text, plain text = true → Yaml.Plain.kind text = .text)
    (hscan : Yaml.Token.scan text.toList = .ok (manifest.toTree.tokens plain))
    (hnames : (manifest.dependencies.map (·.name)).Nodup) :
    Yaml.read (Utf8.encode text) = .ok manifest.toValue := by
  rw [Yaml.read_encode hlines, ← manifest.value_toTree]
  exact Yaml.readText_of_scan hplain (distinct_toTree hnames) hscan

namespace Package

variable {settings : Settings} {disk : Disk} {dir : Path}

/-- A file is read as a manifest when its tokens are those of the manifest's document. -/
theorem readManifest_of_scan {manifest : Manifest} {text : String} {plain : String → Bool}
    (hfile : disk.readFile (dir / settings.manifestName) = .ok (Utf8.encode text))
    (hlines : '\r' ∉ text.toList)
    (hplain : ∀ text, plain text = true → Yaml.Plain.kind text = .text)
    (hscan : Yaml.Token.scan text.toList = .ok (manifest.toTree.tokens plain))
    (hnames : (manifest.dependencies.map (·.name)).Nodup)
    (hvalue : Manifest.ofValue manifest.toValue = .ok manifest) :
    readManifest settings disk dir = .ok manifest :=
  readManifest_ok.2 ⟨_, _, hfile, Manifest.read_of_scan hlines hplain hscan hnames, hvalue⟩

end Package

/-! ## Packages on a disk -/

namespace Sample

/-- A package that needs nothing. -/
def base : Manifest :=
  { name := "base", version := "1.0.0" }

def hub : Manifest :=
  { name := "hub", version := "1.0.0", dependencies := [⟨"base", ⟨.relative, ["..", "base"]⟩⟩] }

def game : Manifest :=
  { name := "game", version := "0.1.0", dependencies := [⟨"hub", ⟨.relative, ["..", "hub"]⟩⟩] }

/-- A package that needs what is in its own directory. -/
def loop : Manifest :=
  { name := "loop", version := "1.0.0", dependencies := [⟨"self", ⟨.relative, []⟩⟩] }

/-- The paths along which the packages are found, from the last one on. -/
def gamePath : Path :=
  ⟨.root, ["game"]⟩

def hubPath : Path :=
  ⟨.root, ["game", "..", "hub"]⟩

def basePath : Path :=
  ⟨.root, ["game", "..", "hub", "..", "base"]⟩

def loopPath : Path :=
  ⟨.root, ["loop"]⟩

/-- All packages side by side; the first one defines a string. -/
def disk : Disk where
  tree := ⟨[
    (["base"], .directory),
    (["starpkg.yaml", "base"], .file (Utf8.encode base.written)),
    (["src", "base"], .directory),
    (["string", "src", "base"], .directory),
    (["lines.str", "string", "src", "base"],
      .file (Utf8.encode "#string:01:(greeting)\nHello!\n")),
    (["hub"], .directory),
    (["starpkg.yaml", "hub"], .file (Utf8.encode hub.written)),
    (["game"], .directory),
    (["starpkg.yaml", "game"], .file (Utf8.encode game.written)),
    (["loop"], .directory),
    (["starpkg.yaml", "loop"], .file (Utf8.encode loop.written))]⟩

def greetingId : Identifier :=
  ⟨"base", "greeting"⟩

def greeting : NamedString where
  bank := 1
  name := "greeting"
  text := "Hello!"
  path := some (basePath / "src" / "string" / "lines.str")

/-- What the packages of a load from the last one hold. -/
def exports : Exports where
  strings := ⟨[(greetingId, greeting)], List.pairwise_singleton _ _⟩

def basePackage : Package where
  route := [0, 0]
  dir := basePath
  manifest := base
  dependencies := []
  exports := exports

def hubPackage : Package where
  route := [0]
  dir := hubPath
  manifest := hub
  dependencies := [basePackage]
  exports := exports

def gamePackage : Package where
  route := []
  dir := gamePath
  manifest := game
  dependencies := [basePackage, hubPackage]
  exports := exports

/-- The texts that are written without quotes. -/
def plain (text : String) : Bool :=
  Yaml.Plain.kind text = .text

theorem ok_of_toOption {ε α : Type} {result : Except ε α} {value : α}
    (h : result.toOption = some value) : result = .ok value := by
  cases result with
  | error error => cases h
  | ok other =>
    cases h
    rfl

/-- An outcome without an error, whatever else it leaves. -/
theorem eq_of_toOption {ε α σ : Type} {result : Except ε α × σ} {value : α}
    (h : result.1.toOption = some value) : result = (.ok value, result.2) :=
  Prod.ext (ok_of_toOption h) rfl

theorem error_of_map {ε α β : Type} {result : Except ε α} {f : α → β} {error : ε}
    (h : result.map f = .error error) : result = .error error := by
  cases result with
  | error other =>
    cases h
    rfl
  | ok value => cases h

theorem ok_of_entries {ε : Type} {result : Except ε Exports}
    (h : result.toOption.map (fun held =>
      (held.sprites.entries, held.actors.entries, held.strings.entries)) =
        some ([], [], [(greetingId, greeting)])) : result = .ok exports := by
  obtain ⟨⟨sprites, actors, strings⟩, hresult, hheld⟩ := Option.map_eq_some_iff.1 h
  obtain ⟨hsprites, hactors, hstrings⟩ : sprites.entries = [] ∧ actors.entries = [] ∧
      strings.entries = [(greetingId, greeting)] := by simpa using hheld
  rw [ok_of_toOption hresult, exports]
  cases sprites
  cases actors
  cases strings
  cases hsprites
  cases hactors
  cases hstrings
  rfl

/-- What is to be evaluated for a file with the text that its manifest is written as. -/
theorem checkedManifest_of_written {dir : Path} {manifest : Manifest}
    (h : (disk.readFile (dir / "starpkg.yaml")).toOption = some (Utf8.encode manifest.written) ∧
      '\r' ∉ manifest.written.toList ∧
      (Yaml.Token.scan manifest.written.toList).toOption = some (manifest.toTree.tokens plain) ∧
      (manifest.dependencies.map (·.name)).Nodup ∧
      (Manifest.ofValue manifest.toValue).toOption = some manifest ∧
      Name.packageFault? manifest.name = none) :
    (Package.checkedManifest {} disk dir).result = .ok manifest := by
  obtain ⟨hfile, hlines, hscan, hnames, hvalue, hname⟩ := h
  refine Package.checkedManifest_ok.2 ⟨?_, hname⟩
  have hplain : ∀ text, plain text = true → Yaml.Plain.kind text = .text :=
    fun _ => of_decide_eq_true
  exact Package.readManifest_of_scan (ok_of_toOption hfile) hlines hplain (ok_of_toOption hscan)
    hnames (ok_of_toOption hvalue)

/-- The package that is needed by all loads below any directory but its own. -/
theorem load_base {stack : List Location} (hstack : ["base"] ∉ stack) :
    (Package.loadNested {} disk stack [0, 0] basePath).result = .ok basePackage := by
  have hdirectory : disk.directory? basePath = some ["base"] := by decide +kernel
  have hmanifest : (Package.checkedManifest {} disk basePath).result = .ok base :=
    checkedManifest_of_written (by decide +kernel)
  refine Package.loadNested_ok.2 ⟨_, base, [], hdirectory, hstack, hmanifest, ?_, ?_⟩
  · rw [base, Package.loadDependencies]
    rfl
  · exact Package.ofParts_ok.2
      ⟨Package.conflict?_eq_none.2 (by decide), exports, ok_of_entries (by decide +kernel), rfl⟩

theorem load_hub {stack : List Location} (hhub : ["hub"] ∉ stack) (hbase : ["base"] ∉ stack) :
    (Package.loadNested {} disk stack [0] hubPath).result = .ok hubPackage := by
  have hdirectory : disk.directory? hubPath = some ["hub"] := by decide +kernel
  have hmanifest : (Package.checkedManifest {} disk hubPath).result = .ok hub :=
    checkedManifest_of_written (by decide +kernel)
  have hstack : ["base"] ∉ ["hub"] :: stack := by simp [hbase]
  refine Package.loadNested_ok.2 ⟨_, hub, [basePackage], hdirectory, hhub, hmanifest, ?_, ?_⟩
  · refine Package.loadDependencies_cons_ok.2
      ⟨by decide +kernel, basePackage, load_base hstack, [], ?_, rfl⟩
    rw [Package.loadDependencies]
    rfl
  · exact Package.ofParts_ok.2
      ⟨Package.conflict?_eq_none.2 (by decide), exports, ok_of_entries (by decide +kernel), rfl⟩

/-- Loading the last package gives all that it needs. -/
theorem load_game : (Package.load {} disk gamePath).result = .ok gamePackage := by
  have hdirectory : disk.directory? gamePath = some ["game"] := by decide +kernel
  have hmanifest : (Package.checkedManifest {} disk gamePath).result = .ok game :=
    checkedManifest_of_written (by decide +kernel)
  refine Package.loadNested_ok.2
    ⟨_, game, [hubPackage], hdirectory, List.not_mem_nil, hmanifest, ?_, ?_⟩
  · refine Package.loadDependencies_cons_ok.2
      ⟨by decide +kernel, hubPackage, load_hub (by decide) (by decide), [], ?_, rfl⟩
    rw [Package.loadDependencies]
    rfl
  · exact Package.ofParts_ok.2
      ⟨Package.conflict?_eq_none.2 (by decide), exports, ok_of_entries (by decide +kernel), rfl⟩

theorem checkedManifest_loop : (Package.checkedManifest {} disk loopPath).result = .ok loop :=
  checkedManifest_of_written (by decide +kernel)

/-- Loading the package that needs itself is refused. -/
theorem load_loop :
    (Package.load {} disk loopPath).result = .error (.refused (.cyclic loopPath [loopPath])) := by
  have hdirectory : disk.directory? loopPath = some ["loop"] := by decide +kernel
  have hmanifest := checkedManifest_loop
  refine Package.loadNested_error.2 (.inr ⟨_, hdirectory, .inr ⟨List.not_mem_nil, .inr
    ⟨loop, hmanifest, .inl ?_⟩⟩⟩)
  rw [loop, Package.loadDependencies]
  refine Report.result_bind_error.2 (.inr ⟨loopPath, ?_, Report.result_bind_error.2 (.inl ?_)⟩)
  · exact Package.declaredPath_ok.2 ⟨by decide +kernel, rfl⟩
  · rw [Package.loadNested_of_mem hdirectory List.mem_cons_self]
    rfl

end Sample

end ModPack
