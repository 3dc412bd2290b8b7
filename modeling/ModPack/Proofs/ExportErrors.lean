import ModPack.Proofs.LoadSteps

/-!
# Errors of loading exports

Whatever goes wrong while a package's own exports are loaded is told as an error about an export, or
as trouble with the bytes of its files: never as an error about the package, its manifest or its
dependencies. Main statement: `ownExports_failsIn`.
-/
namespace ModPack

/-- The error is about an export or about a file that defines exports. -/
def LoadError.OfExport : LoadError → Prop
  | .unreadableScript .. | .badSection .. | .spriteName .. | .missingSheet .. | .malformedSheet ..
  | .missingPaletteList .. | .missingAnimationList .. | .actorName .. | .missingSidecar ..
  | .malformedSidecar .. | .sidecarNotMapping .. | .missingField .. | .fieldReference ..
  | .blockNotString .. | .stringName .. | .sectionRange .. => True
  | .notDirectory .. | .missingManifest .. | .malformedManifest .. | .invalidManifest ..
  | .packageName .. | .dependencyName .. | .versionMismatch .. | .cyclic .. => False

/-- Trouble with bytes, values or the system is about no package either. -/
def LoadFailure.OfExport : LoadFailure → Prop
  | .refused error => error.OfExport
  | .yaml _ | .markup _ | .system _ => True

open Report (FailsIn)

/-! ## Sprites -/

theorem Sprite.readSheet_failsIn (disk : Disk) (dir : Path) :
    FailsIn LoadFailure.OfExport (Report.ofExcept (Sprite.readSheet disk dir)) := by
  refine .ofExcept fun failure h => ?_
  unfold Sprite.readSheet at h
  simp only [bind, Except.bind] at h
  split at h
  · split at h
    · next herror =>
      obtain ⟨_, _, rfl⟩ := mapError_eq_error.1 herror
      cases h
      trivial
    · split at h <;> cases h <;> trivial
  · cases h
    trivial

theorem Sprite.ofSheet_failsIn (dir : Path) (sheet : Markup.Element) :
    FailsIn LoadError.OfExport (Report.ofExcept (Sprite.ofSheet dir sheet)) := by
  refine .ofExcept fun error h => ?_
  unfold Sprite.ofSheet at h
  split at h
  · split at h <;> cases h
    trivial
  · cases h
    trivial

theorem Sprite.load_failsIn (disk : Disk) (dir : Path) :
    FailsIn LoadFailure.OfExport (Sprite.load disk dir) := by
  refine FailsIn.bind (FailsIn.mapError_any fun _ => trivial) fun _ => ?_
  refine FailsIn.bind (Sprite.readSheet_failsIn disk dir) fun sheet => ?_
  refine FailsIn.bind ((Sprite.ofSheet_failsIn dir sheet).mapError fun _ h => h) fun sprite => ?_
  exact FailsIn.bind (FailsIn.note _) fun _ => FailsIn.pure _

/-! ## Actors -/

theorem Actor.readSidecar_failsIn (disk : Disk) (dir : Path) :
    FailsIn LoadFailure.OfExport (Report.ofExcept (Actor.readSidecar disk dir)) := by
  refine .ofExcept fun failure h => ?_
  unfold Actor.readSidecar at h
  dsimp only at h
  split at h
  · cases h
    trivial
  · cases h
    trivial
  · split at h <;> cases h <;> trivial

theorem Actor.field_failsIn (sidecar : Path) (entries : List (Value × Value))
    (sourcePackage field : String) :
    FailsIn LoadFailure.OfExport (Actor.field sidecar entries sourcePackage field) := by
  unfold Actor.field
  split
  · exact FailsIn.mapError_any fun _ => trivial
  · exact FailsIn.fail trivial

theorem Actor.load_failsIn (disk : Disk) (sourcePackage : String) (dir : Path) :
    FailsIn LoadFailure.OfExport (Actor.load disk sourcePackage dir) := by
  refine FailsIn.bind (FailsIn.mapError_any fun _ => trivial) fun _ => ?_
  refine FailsIn.bind (Actor.readSidecar_failsIn disk dir) fun document => ?_
  split
  · refine FailsIn.bind (Actor.field_failsIn _ _ _ _) fun _ => ?_
    exact FailsIn.bind (Actor.field_failsIn _ _ _ _) fun _ => FailsIn.pure _
  · exact FailsIn.fail trivial

/-! ## Strings -/

theorem Block.classify_failsIn (path : Path) (header : Line) (rest : List Line) :
    FailsIn LoadError.OfExport (Block.classify path header rest) := by
  unfold Block.classify
  split
  · exact FailsIn.pure _
  · split
    · exact FailsIn.fail trivial
    · exact FailsIn.bind (FailsIn.note _) fun _ => FailsIn.pure _

theorem Script.close_failsIn (path : Path) (pending : List Line) :
    FailsIn LoadError.OfExport (Script.close path pending) := by
  unfold Script.close
  split
  · exact FailsIn.pure _
  · exact FailsIn.bind (Block.classify_failsIn _ _ _) fun _ => FailsIn.pure _

theorem Script.blocksOf_failsIn (path : Path) (pending lines : List Line) :
    FailsIn LoadError.OfExport (Script.blocksOf path pending lines) := by
  induction lines generalizing pending with
  | nil => exact Script.close_failsIn path pending
  | cons line lines ih =>
    rw [Script.blocksOf]
    split
    · refine FailsIn.bind (Script.close_failsIn path pending) fun _ => ?_
      exact FailsIn.bind (ih []) fun _ => FailsIn.pure _
    · exact ih (line :: pending)

theorem Script.load_failsIn (disk : Disk) (package : String) (path : Path) :
    FailsIn LoadError.OfExport (Script.load disk package path) := by
  refine FailsIn.bind (FailsIn.mapError_any fun _ => trivial) fun source => ?_
  refine FailsIn.bind (Script.blocksOf_failsIn _ _ _) fun blocks => ?_
  split
  · exact FailsIn.bind (FailsIn.note _) fun _ => FailsIn.pure _
  · exact FailsIn.pure _

theorem NamedString.ofBlock_failsIn (path : Path) (block : Block) :
    FailsIn LoadError.OfExport (NamedString.ofBlock path block) := by
  unfold NamedString.ofBlock
  split
  · exact FailsIn.fail trivial
  · refine FailsIn.bind (FailsIn.mapError_any fun _ => trivial) fun _ => ?_
    split
    · exact FailsIn.bind (FailsIn.fail trivial) fun _ => FailsIn.pure _
    · exact FailsIn.pure _

theorem NamedString.ofBlocks_failsIn (path : Path) (blocks : List Block) :
    FailsIn LoadError.OfExport (NamedString.ofBlocks path blocks) := by
  induction blocks with
  | nil => exact FailsIn.pure _
  | cons block blocks ih =>
    refine FailsIn.bind (NamedString.ofBlock_failsIn path block) fun _ => ?_
    exact FailsIn.bind ih fun _ => FailsIn.pure _

theorem NamedString.load_failsIn (disk : Disk) (sourcePackage : String) (path : Path) :
    FailsIn LoadError.OfExport (NamedString.load disk sourcePackage path) := by
  refine FailsIn.bind (Script.load_failsIn disk sourcePackage path) fun script => ?_
  refine FailsIn.bind (NamedString.ofBlocks_failsIn path script.blocks) fun strings => ?_
  exact FailsIn.bind (FailsIn.note _) fun _ => FailsIn.pure _

/-! ## All exports of a package -/

namespace Package

variable {α : Type} [Export α] {errors : LoadFailure → Prop}

theorem register_failsIn (package : String) (path : Path) (items : List α)
    (registry : Registry α) : FailsIn errors (register package path items registry) := by
  induction items generalizing registry with
  | nil => exact FailsIn.pure _
  | cons item items ih =>
    rw [register]
    dsimp only
    split
    · refine FailsIn.bind (FailsIn.note _) fun _ => ?_
      exact FailsIn.bind (FailsIn.note _) fun _ => ih _
    · exact FailsIn.bind (FailsIn.note _) fun _ => ih _

theorem registerEntries_failsIn {load : Path → Loading (List α)}
    (h : ∀ path, FailsIn errors (load path)) (package : String) (dir : Path)
    (wantsDirectories : Bool) (entries : List (String × Entry)) (registry : Registry α) :
    FailsIn errors (registerEntries package dir wantsDirectories load entries registry) := by
  induction entries generalizing registry with
  | nil => exact FailsIn.pure _
  | cons entry entries ih =>
    rw [registerEntries]
    split
    · refine FailsIn.bind (h _) fun items => ?_
      exact FailsIn.bind (register_failsIn _ _ _ _) fun _ => ih _
    · exact FailsIn.bind (FailsIn.note _) fun _ => ih _

theorem registerAll_failsIn {load : Path → Loading (List α)}
    (h : ∀ path, FailsIn LoadFailure.OfExport (load path)) (disk : Disk) (package : String)
    (dir : Path) (wantsDirectories : Bool) (registry : Registry α) :
    FailsIn LoadFailure.OfExport
      (registerAll disk package dir wantsDirectories load registry) := by
  unfold registerAll
  split
  · refine FailsIn.bind (FailsIn.mapError_any fun _ => trivial) fun entries => ?_
    exact registerEntries_failsIn h _ _ _ _ _
  · exact FailsIn.pure _

/-- Loading the exports of a package fails only on account of an export. -/
theorem ownExports_failsIn (settings : Settings) (disk : Disk) (dir : Path) (package : String)
    (inherited : Exports) :
    FailsIn LoadFailure.OfExport (ownExports settings disk dir package inherited) := by
  refine FailsIn.bind (registerAll_failsIn (fun path => ?_) _ _ _ _ _) fun sprites => ?_
  · exact FailsIn.bind (Sprite.load_failsIn disk path) fun _ => FailsIn.pure _
  refine FailsIn.bind (registerAll_failsIn (fun path => ?_) _ _ _ _ _) fun actors => ?_
  · exact FailsIn.bind (Actor.load_failsIn disk package path) fun _ => FailsIn.pure _
  refine FailsIn.bind (registerAll_failsIn (fun path => ?_) _ _ _ _ _) fun strings => ?_
  · exact (NamedString.load_failsIn disk package path).mapError fun _ h => h
  exact FailsIn.pure _

end Package

end ModPack
