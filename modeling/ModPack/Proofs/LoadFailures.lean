import ModPack.Proofs.DiskWalk
import ModPack.Proofs.ExportErrors

/-!
# Failures of loading

A load that fails is refused with an error about the package, unless a file of it holds what no such
error tells of: a document that is there and cannot be read or has no value, or a sheet in an
encoding that is not known. Such trouble passes through every level of the load as it is. Strings
files never cause it, since all that can be wrong with a script is told as an error about it. Main
statements: `load_failures` and `load_fails_untold`.
-/
namespace ModPack

open Report (FailsIn)

/-- Where a load reads a document: a manifest, or the sidecar file of an actor. -/
inductive DocumentPath (settings : Settings) : Path → Prop
  | manifest (dir : Path) : DocumentPath settings (dir / settings.manifestName)
  | sidecar (dir : Path) : DocumentPath settings (dir / Actor.sidecarName dir.name)

/-- Trouble with a file of the disk that is not told as an error about a package. -/
inductive LoadFailure.Untold (settings : Settings) (disk : Disk) : LoadFailure → Prop
  /-- A document is there and is no file. -/
  | unreadable {path : Path} {error : OsError} (document : DocumentPath settings path)
      (read : disk.readFile path = .error error) (there : error ≠ .notFound) :
      Untold settings disk (.system error)
  /-- A document has bytes that are no text, or a value that there is not. -/
  | document {path : Path} {content : ByteArray} {error : Yaml.Error}
      (document : DocumentPath settings path) (read : disk.readFile path = .ok content)
      (value : Yaml.read content = .error error) (formed : error ≠ .malformed) :
      Untold settings disk (.yaml error)
  /-- A sheet names an encoding that is not known. -/
  | sheet {dir : Path} {content : ByteArray} {error : Markup.Error}
      (read : disk.readFile (dir / LoadError.sheetName) = .ok content)
      (root : Markup.read content = .error error) (formed : error ≠ .malformed) :
      Untold settings disk (.markup error)

/-- What a load may fail with. -/
def LoadFailure.Arises (settings : Settings) (disk : Disk) (failure : LoadFailure) : Prop :=
  (∃ error, failure = .refused error) ∨ failure.Untold settings disk

variable {settings : Settings} {disk : Disk}

theorem LoadFailure.arises_refused (settings : Settings) (disk : Disk) (error : LoadError) :
    (LoadFailure.refused error).Arises settings disk :=
  .inl ⟨error, rfl⟩

open LoadFailure (arises_refused)

/-! ## Documents and sheets -/

theorem Package.readManifest_arises (settings : Settings) (disk : Disk) (dir : Path) :
    FailsIn (LoadFailure.Arises settings disk)
      (Report.ofExcept (Package.readManifest settings disk dir)) := by
  refine .ofExcept fun failure h => ?_
  have hpath : DocumentPath settings (dir / settings.manifestName) := .manifest dir
  unfold Package.readManifest at h
  dsimp only at h
  split at h
  · cases h
    exact arises_refused ..
  · next hthere hread =>
    cases h
    exact .inr (.unreadable hpath hread hthere)
  · next hread =>
    split at h
    · cases h
      exact arises_refused ..
    · next hformed hvalue =>
      cases h
      exact .inr (.document hpath hread hvalue hformed)
    · obtain ⟨_, _, rfl⟩ := mapError_eq_error.1 h
      exact arises_refused ..

theorem Actor.readSidecar_arises (settings : Settings) (disk : Disk) (dir : Path) :
    FailsIn (LoadFailure.Arises settings disk) (Report.ofExcept (Actor.readSidecar disk dir)) := by
  refine .ofExcept fun failure h => ?_
  have hpath : DocumentPath settings (dir / Actor.sidecarName dir.name) := .sidecar dir
  unfold Actor.readSidecar at h
  dsimp only at h
  split at h
  · cases h
    exact arises_refused ..
  · next hthere hread =>
    cases h
    exact .inr (.unreadable hpath hread hthere)
  · next hread =>
    split at h
    · cases h
    · cases h
      exact arises_refused ..
    · next hformed hvalue =>
      cases h
      exact .inr (.document hpath hread hvalue hformed)

/-- What is a file can be read. -/
theorem Disk.exists_readFile_of_isFile {path : Path} (h : disk.isFile path = true) :
    ∃ content, disk.readFile path = .ok content := by
  unfold Disk.isFile at h
  split at h
  · next location content hfind =>
    obtain ⟨hlocate, hfile⟩ := Disk.find_ok.1 hfind
    exact ⟨content, Disk.readFile_ok.2 ⟨location, hlocate, hfile⟩⟩
  · cases h

theorem Sprite.readSheet_arises (settings : Settings) (disk : Disk) (dir : Path) :
    FailsIn (LoadFailure.Arises settings disk) (Report.ofExcept (Sprite.readSheet disk dir)) := by
  refine .ofExcept fun failure h => ?_
  unfold Sprite.readSheet at h
  dsimp only at h
  by_cases hfile : disk.isFile (dir / LoadError.sheetName) = true
  · obtain ⟨content, hread⟩ := Disk.exists_readFile_of_isFile hfile
    rw [if_pos hfile, hread] at h
    simp only [Except.mapError, bind, Except.bind] at h
    split at h
    · cases h
    · cases h
      exact arises_refused ..
    · next hformed hroot =>
      cases h
      exact .inr (.sheet hread hroot hformed)
  · rw [if_neg hfile] at h
    cases h
    exact arises_refused ..

/-! ## Exports -/

/-- A report of errors about the package fails with nothing else. -/
theorem Loading.orRefuse_arises {ε α : Type} (report : Report ε α) (error : ε → LoadError) :
    FailsIn (LoadFailure.Arises settings disk) (Loading.orRefuse report error) :=
  FailsIn.mapError_any fun _ => arises_refused ..

theorem Sprite.load_arises (settings : Settings) (disk : Disk) (dir : Path) :
    FailsIn (LoadFailure.Arises settings disk) (Sprite.load disk dir) := by
  refine FailsIn.bind (Loading.orRefuse_arises _ _) fun _ => ?_
  refine FailsIn.bind (Sprite.readSheet_arises settings disk dir) fun sheet => ?_
  refine FailsIn.bind (Loading.orRefuse_arises _ _) fun sprite => ?_
  exact FailsIn.bind (FailsIn.note _) fun _ => FailsIn.pure _

theorem Actor.field_arises (sidecar : Path) (entries : List (Value × Value))
    (sourcePackage field : String) :
    FailsIn (LoadFailure.Arises settings disk) (Actor.field sidecar entries sourcePackage field) := by
  unfold Actor.field
  split
  · exact Loading.orRefuse_arises _ _
  · exact FailsIn.fail (arises_refused ..)

theorem Actor.load_arises (settings : Settings) (disk : Disk) (sourcePackage : String) (dir : Path) :
    FailsIn (LoadFailure.Arises settings disk) (Actor.load disk sourcePackage dir) := by
  refine FailsIn.bind (Loading.orRefuse_arises _ _) fun _ => ?_
  refine FailsIn.bind (Actor.readSidecar_arises settings disk dir) fun document => ?_
  split
  · refine FailsIn.bind (Actor.field_arises _ _ _ _) fun displayName => ?_
    exact FailsIn.bind (Actor.field_arises _ _ _ _) fun tattle => FailsIn.pure _
  · exact FailsIn.fail (arises_refused ..)

namespace Package

variable {α : Type} [Export α] {stack : List Location} {route : List Nat} {dir : Path}
  {failure : LoadFailure}

/-- A directory can be listed, so only its exports can fail. -/
theorem registerAll_arises {load : Path → Loading (List α)}
    (h : ∀ path, FailsIn (LoadFailure.Arises settings disk) (load path)) (package : String)
    (source : Path) (wantsDirectories : Bool) (registry : Registry α) :
    FailsIn (LoadFailure.Arises settings disk)
      (registerAll disk package source wantsDirectories load registry) := by
  unfold registerAll
  split
  · next hdirectory =>
    obtain ⟨location, hlocation⟩ := Option.isSome_iff_exists.1 hdirectory
    have hlist : disk.list source = .ok (disk.tree.children location) :=
      Disk.list_ok.2 ⟨location, hlocation, rfl⟩
    rw [hlist]
    refine FailsIn.bind (FailsIn.pure _) fun entries => ?_
    exact registerEntries_failsIn h _ _ _ _ _
  · exact FailsIn.pure _

theorem ownExports_arises (settings : Settings) (disk : Disk) (dir : Path) (package : String)
    (inherited : Exports) :
    FailsIn (LoadFailure.Arises settings disk)
      (ownExports settings disk dir package inherited) := by
  refine FailsIn.bind (registerAll_arises (fun path => ?_) _ _ _ _) fun sprites => ?_
  · exact FailsIn.bind (Sprite.load_arises settings disk path) fun _ => FailsIn.pure _
  refine FailsIn.bind (registerAll_arises (fun path => ?_) _ _ _ _) fun actors => ?_
  · exact FailsIn.bind (Actor.load_arises settings disk package path) fun _ => FailsIn.pure _
  refine FailsIn.bind (registerAll_arises (fun path => ?_) _ _ _ _) fun strings => ?_
  · exact Loading.orRefuse_arises _ _
  exact FailsIn.pure _

/-! ## Packages -/

theorem checkedManifest_arises (settings : Settings) (disk : Disk) (dir : Path) :
    FailsIn (LoadFailure.Arises settings disk) (checkedManifest settings disk dir) := by
  refine FailsIn.bind (readManifest_arises settings disk dir) fun manifest => ?_
  exact FailsIn.bind (Loading.orRefuse_arises _ _) fun _ => FailsIn.pure _

theorem declaredPath_arises (dir : Path) (manifest : Manifest) (dependency : Dependency) :
    FailsIn (LoadFailure.Arises settings disk) (declaredPath settings dir manifest dependency) := by
  unfold declaredPath
  refine FailsIn.bind (Loading.orRefuse_arises _ _) fun _ => ?_
  split
  · refine FailsIn.bind (FailsIn.note _) fun _ => ?_
    exact FailsIn.bind (FailsIn.note _) fun _ => FailsIn.pure _
  · exact FailsIn.bind (FailsIn.note _) fun _ => FailsIn.pure _

theorem ofParts_arises (route : List Nat) (dir : Path) (manifest : Manifest)
    (direct : List Package) :
    FailsIn (LoadFailure.Arises settings disk)
      (ofParts settings disk route dir manifest direct) := by
  unfold ofParts
  dsimp only
  split
  · exact FailsIn.fail (arises_refused ..)
  · exact FailsIn.bind (ownExports_arises _ _ _ _ _) fun _ => FailsIn.pure _

theorem loadNested_arises (settings : Settings) (disk : Disk) (stack : List Location)
    (route : List Nat) (dir : Path) :
    FailsIn (LoadFailure.Arises settings disk) (loadNested settings disk stack route dir) :=
  loadNested_failsIn (fun _ => arises_refused ..) (fun _ _ => arises_refused ..)
    (checkedManifest_arises settings disk) declaredPath_arises ofParts_arises stack route dir

/-- A manifest that cannot be read is what the load of its directory fails with. -/
theorem load_of_readManifest_error {location : Location} (hdir : disk.directory? dir = some location)
    (h : readManifest settings disk dir = .error failure) :
    (load settings disk dir).result = .error failure := by
  refine loadNested_error.2 (.inr ⟨location, hdir, .inr ⟨List.not_mem_nil, .inl ?_⟩⟩)
  exact Report.result_bind_error.2 (.inl h)

/-- A load gives a package, or is refused with an error about a package, or fails with trouble that
a document or a sheet causes and that no such error tells of. The trouble with the manifest of the
directory itself is what the load fails with. -/
theorem load_failures (settings : Settings) (disk : Disk) (dir : Path) :
    ((∃ package, (load settings disk dir).result = .ok package) ∨
        (∃ error, (load settings disk dir).result = .error (.refused error)) ∨
        ∃ failure, (load settings disk dir).result = .error failure ∧
          failure.Untold settings disk) ∧
      ∀ location failure, disk.directory? dir = some location →
        readManifest settings disk dir = .error failure →
          (load settings disk dir).result = .error failure := by
  refine ⟨?_, fun location failure hdir h => load_of_readManifest_error hdir h⟩
  cases h : (load settings disk dir).result with
  | ok package => exact .inl ⟨package, rfl⟩
  | error failure =>
    rcases loadNested_arises settings disk [] [] dir failure h with ⟨error, rfl⟩ | huntold
    · exact .inr (.inl ⟨error, rfl⟩)
    · exact .inr (.inr ⟨failure, rfl, huntold⟩)

end Package

namespace Sample

/-- A package whose manifest is no text. -/
def garbled : Disk where
  tree := ⟨[(["game"], .directory), (["starpkg.yaml", "game"], .file ⟨#[0xff]⟩)]⟩

theorem directory_garbled : garbled.directory? ⟨.root, ["game"]⟩ = some ["game"] := by
  decide +kernel

theorem readManifest_garbled : Package.readManifest {} garbled ⟨.root, ["game"]⟩ =
    .error (.yaml (.undecodable ⟨0, 1, 0xff, .invalidStart⟩)) := by
  decide +kernel

end Sample

/-- A manifest that is no text is trouble that the load passes on. -/
theorem Package.load_failures_garbled :
    (Package.load {} Sample.garbled ⟨.root, ["game"]⟩).result =
      .error (.yaml (.undecodable ⟨0, 1, 0xff, .invalidStart⟩)) := by
  obtain ⟨_, hmanifest⟩ := Package.load_failures {} Sample.garbled ⟨.root, ["game"]⟩
  exact hmanifest _ _ Sample.directory_garbled Sample.readManifest_garbled

/-- Bytes that are no text make a load fail with an error that is not about the package. -/
theorem Package.load_fails_untold :
    ¬ ∀ disk dir, (∃ package, (Package.load {} disk dir).result = .ok package) ∨
      ∃ error, (Package.load {} disk dir).result = .error (.refused error) := by
  intro hall
  have hload :=
    Package.load_of_readManifest_error Sample.directory_garbled Sample.readManifest_garbled
  rcases hall Sample.garbled ⟨.root, ["game"]⟩ with ⟨package, h⟩ | ⟨error, h⟩
  · rw [hload] at h
    cases h
  · rw [hload] at h
    cases h

end ModPack
