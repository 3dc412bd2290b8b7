import ModPack.Proofs.LoadSteps
import ModPack.Proofs.RegistryEntries

/-!
# The exports of a loaded package

Every export that a loaded package holds, its own or that of a dependency, stands under a package
name and a name that passed their checks, carries that name itself, and has no index yet. Sections
of strings are in range. Main statement: `Loaded.wellNamed`.
-/
namespace ModPack

/-- An export as a load leaves it under its identifier. -/
structure WellNamed {α : Type} [Export α] (id : Identifier) (item : α) : Prop where
  package : Name.packageFault? id.package = none
  name : Name.fault? id.name = none
  carried : Export.name item = id.name
  unmarked : Export.state item = .unassembled

/-- A string in a section that there is. -/
structure WellPlaced (id : Identifier) (string : NamedString) : Prop extends
    WellNamed id string where
  section_le : string.bank ≤ LoadError.maxSection

structure Exports.WellNamed (exports : Exports) : Prop where
  sprites : exports.sprites.All ModPack.WellNamed
  actors : exports.actors.All ModPack.WellNamed
  strings : exports.strings.All WellPlaced

theorem Exports.WellNamed.empty : Exports.WellNamed {} :=
  ⟨Registry.All.empty, Registry.All.empty, Registry.All.empty⟩

theorem Exports.WellNamed.merge {exports other : Exports} (h : exports.WellNamed)
    (hother : other.WellNamed) : (exports.merge other).WellNamed :=
  ⟨h.sprites.merge hother.sprites, h.actors.merge hother.actors, h.strings.merge hother.strings⟩

theorem Name.checkExport_ok {name : String} :
    (Name.checkExport name).result = .ok () ↔ Name.fault? name = none := by
  unfold Name.checkExport
  dsimp only
  cases hfault : Name.fault? name with
  | none => split <;> simp
  | some fault => split <;> simp

/-! ## What is loaded from one path -/

/-- An item as it is read: its own name is checked and it has no index. -/
structure Fresh {α : Type} [Export α] (item : α) : Prop where
  name : Name.fault? (Export.name item) = none
  unmarked : Export.state item = .unassembled

/-- A sheet is that of a sprite when it has both lists. -/
theorem Sprite.ofSheet_eq_ok {dir : Path} {sheet : Markup.Element} {sprite : Sprite} :
    ofSheet dir sheet = .ok sprite ↔
      ∃ palettes animations, sheet.first? ⟨none, "PaletteList"⟩ = some palettes ∧
        sheet.first? ⟨none, "AnimationList"⟩ = some animations ∧
        { dir, palettes := slotNames palettes, animations := slotNames animations } = sprite := by
  unfold ofSheet
  cases hpalettes : sheet.first? ⟨none, "PaletteList"⟩ with
  | none => simp [throw, throwThe, MonadExceptOf.throw]
  | some palettes =>
    cases hanimations : sheet.first? ⟨none, "AnimationList"⟩ with
    | none => simp [throw, throwThe, MonadExceptOf.throw]
    | some animations => simp [pure, Except.pure]

theorem Sprite.ofSheet_ok {dir : Path} {sheet : Markup.Element} {sprite : Sprite}
    (h : Sprite.ofSheet dir sheet = .ok sprite) :
    sprite.dir = dir ∧ sprite.state = .unassembled := by
  obtain ⟨_, _, _, _, rfl⟩ := ofSheet_eq_ok.1 h
  exact ⟨rfl, rfl⟩

theorem Sprite.load_fresh {disk : Disk} {dir : Path} {sprite : Sprite}
    (h : (Sprite.load disk dir).result = .ok sprite) : Fresh sprite := by
  unfold Sprite.load at h
  obtain ⟨hname, h⟩ := Report.result_seq_ok.1 h
  obtain ⟨sheet, _, h⟩ := Report.result_bind_ok.1 h
  obtain ⟨read, hread, h⟩ := Report.result_bind_ok.1 h
  obtain ⟨-, h⟩ := Report.result_seq_ok.1 h
  cases h
  obtain ⟨rfl, hstate⟩ := Sprite.ofSheet_ok (Loading.result_orRefuse_ok.1 hread)
  exact ⟨Name.checkExport_ok.1 (Loading.result_orRefuse_ok.1 hname), hstate⟩

theorem Actor.load_fresh {disk : Disk} {package : String} {dir : Path} {actor : Actor}
    (h : (Actor.load disk package dir).result = .ok actor) : Fresh actor := by
  unfold Actor.load at h
  obtain ⟨hname, h⟩ := Report.result_seq_ok.1 h
  obtain ⟨document, _, h⟩ := Report.result_bind_ok.1 h
  split at h
  · obtain ⟨displayName, _, h⟩ := Report.result_bind_ok.1 h
    obtain ⟨tattle, _, h⟩ := Report.result_bind_ok.1 h
    cases h
    exact ⟨Name.checkExport_ok.1 (Loading.result_orRefuse_ok.1 hname), rfl⟩
  · cases h

theorem NamedString.ofBlock_fresh {path : Path} {block : Block} {string : NamedString}
    (h : (NamedString.ofBlock path block).result = .ok string) :
    Fresh string ∧ string.bank ≤ LoadError.maxSection := by
  unfold NamedString.ofBlock at h
  split at h
  · cases h
  · obtain ⟨hname, h⟩ := Report.result_seq_ok.1 h
    split at h
    · obtain ⟨h, -⟩ := Report.result_seq_ok.1 h
      cases h
    · next hbank =>
      cases h
      have hfault := Name.checkExport_ok.1 (Report.result_mapError_ok.1 hname)
      exact ⟨⟨hfault, rfl⟩, Nat.le_of_not_lt hbank⟩

theorem NamedString.ofBlocks_fresh {path : Path} {blocks : List Block}
    {strings : List NamedString} (h : (NamedString.ofBlocks path blocks).result = .ok strings) :
    ∀ string ∈ strings, Fresh string ∧ string.bank ≤ LoadError.maxSection := by
  induction blocks generalizing strings with
  | nil =>
    cases h
    intro string hmem
    cases hmem
  | cons block blocks ih =>
    rw [NamedString.ofBlocks] at h
    obtain ⟨first, hfirst, h⟩ := Report.result_bind_ok.1 h
    obtain ⟨rest, hrest, h⟩ := Report.result_bind_ok.1 h
    cases h
    exact List.forall_mem_cons.2 ⟨NamedString.ofBlock_fresh hfirst, ih hrest⟩

theorem NamedString.load_fresh {disk : Disk} {package : String} {path : Path}
    {strings : List NamedString} (h : (NamedString.load disk package path).result = .ok strings) :
    ∀ string ∈ strings, Fresh string ∧ string.bank ≤ LoadError.maxSection := by
  unfold NamedString.load at h
  obtain ⟨script, _, h⟩ := Report.result_bind_ok.1 h
  obtain ⟨read, hread, h⟩ := Report.result_bind_ok.1 h
  obtain ⟨-, h⟩ := Report.result_seq_ok.1 h
  cases h
  exact NamedString.ofBlocks_fresh hread

/-! ## What a package registers -/

namespace Package

variable {α : Type} [Export α] {p : Identifier → α → Prop} {package : String}
  {registry after : Registry α}

theorem register_all {path : Path} {items : List α}
    (hitems : ∀ item ∈ items, p ⟨package, Export.name item⟩ item) (hall : registry.All p)
    (h : (register package path items registry).result = .ok after) : after.All p := by
  induction items generalizing registry with
  | nil =>
    cases h
    exact hall
  | cons item items ih =>
    obtain ⟨hitem, hrest⟩ := List.forall_mem_cons.1 hitems
    rw [register] at h
    dsimp only [Registry.insert] at h
    split at h
    · obtain ⟨-, h⟩ := Report.result_seq_ok.1 h
      obtain ⟨-, h⟩ := Report.result_seq_ok.1 h
      exact ih hrest (hall.set hitem) h
    · obtain ⟨-, h⟩ := Report.result_seq_ok.1 h
      exact ih hrest (hall.set hitem) h

theorem registerEntries_all {dir : Path} {wantsDirectories : Bool}
    {load : Path → Loading (List α)} {entries : List (String × Entry)}
    (hload : ∀ path items, (load path).result = .ok items →
      ∀ item ∈ items, p ⟨package, Export.name item⟩ item) (hall : registry.All p)
    (h : (registerEntries package dir wantsDirectories load entries registry).result = .ok after) :
    after.All p := by
  induction entries generalizing registry with
  | nil =>
    cases h
    exact hall
  | cons entry entries ih =>
    rw [registerEntries] at h
    split at h
    · obtain ⟨items, hitems, h⟩ := Report.result_bind_ok.1 h
      obtain ⟨between, hbetween, h⟩ := Report.result_bind_ok.1 h
      exact ih (register_all (hload _ items hitems) hall hbetween) h
    · obtain ⟨-, h⟩ := Report.result_seq_ok.1 h
      exact ih hall h

theorem registerAll_all {disk : Disk} {dir : Path} {wantsDirectories : Bool}
    {load : Path → Loading (List α)}
    (hload : ∀ path items, (load path).result = .ok items →
      ∀ item ∈ items, p ⟨package, Export.name item⟩ item) (hall : registry.All p)
    (h : (registerAll disk package dir wantsDirectories load registry).result = .ok after) :
    after.All p := by
  unfold registerAll at h
  split at h
  · obtain ⟨entries, _, h⟩ := Report.result_bind_ok.1 h
    exact registerEntries_all hload hall h
  · cases h
    exact hall

theorem ownExports_wellNamed {settings : Settings} {disk : Disk} {dir : Path}
    {inherited exports : Exports} (hpackage : Name.packageFault? package = none)
    (hinherited : inherited.WellNamed)
    (h : (ownExports settings disk dir package inherited).result = .ok exports) :
    exports.WellNamed := by
  unfold ownExports at h
  obtain ⟨sprites, hsprites, h⟩ := Report.result_bind_ok.1 h
  obtain ⟨actors, hactors, h⟩ := Report.result_bind_ok.1 h
  obtain ⟨strings, hstrings, h⟩ := Report.result_bind_ok.1 h
  cases h
  refine ⟨registerAll_all ?_ hinherited.sprites hsprites,
    registerAll_all ?_ hinherited.actors hactors, registerAll_all ?_ hinherited.strings hstrings⟩
  · intro path items hload
    obtain ⟨sprite, hsprite, hitems⟩ := Report.result_bind_ok.1 hload
    cases hitems
    obtain ⟨hname, hstate⟩ := Sprite.load_fresh hsprite
    exact List.forall_mem_singleton.2 ⟨hpackage, hname, rfl, hstate⟩
  · intro path items hload
    obtain ⟨actor, hactor, hitems⟩ := Report.result_bind_ok.1 hload
    cases hitems
    obtain ⟨hname, hstate⟩ := Actor.load_fresh hactor
    exact List.forall_mem_singleton.2 ⟨hpackage, hname, rfl, hstate⟩
  · intro path items hload string hmem
    have hread := Loading.result_orRefuse_ok.1 hload
    obtain ⟨⟨hname, hstate⟩, hbank⟩ := NamedString.load_fresh hread string hmem
    exact ⟨⟨hpackage, hname, rfl, hstate⟩, hbank⟩

variable {settings : Settings} {disk : Disk} {loaded : Package}

theorem mem_of_mem_distinct {needed : Package} {seen : List (String × String)}
    {packages : List Package} (h : needed ∈ distinct seen packages) : needed ∈ packages := by
  induction packages generalizing seen with
  | nil => cases h
  | cons package packages ih =>
    rw [distinct] at h
    split at h
    · exact List.mem_cons_of_mem _ (ih h)
    · rcases List.mem_cons.1 h with rfl | h
      · exact List.mem_cons_self
      · exact List.mem_cons_of_mem _ (ih h)

theorem mem_flatten {direct : List Package} {needed : Package} (h : needed ∈ flatten direct) :
    ∃ package ∈ direct, needed ∈ package.dependencies ∨ needed = package := by
  obtain ⟨package, hpackage, hneeded⟩ := List.mem_flatMap.1 (mem_of_mem_distinct h)
  rw [List.mem_append, List.mem_singleton] at hneeded
  exact ⟨package, hpackage, hneeded⟩

theorem mergedExports_wellNamed {packages : List Package}
    (h : ∀ package ∈ packages, package.exports.WellNamed) : (mergedExports packages).WellNamed := by
  have hfold (packages : List Package) (exports : Exports) (hexports : exports.WellNamed)
      (hpackages : ∀ package ∈ packages, package.exports.WellNamed) :
      (packages.foldl (fun exports package => exports.merge package.exports)
        exports).WellNamed := by
    induction packages generalizing exports with
    | nil => exact hexports
    | cons package packages ih =>
      obtain ⟨hpackage, hrest⟩ := List.forall_mem_cons.1 hpackages
      exact ih _ (hexports.merge hpackage) hrest
  exact hfold packages {} .empty h

/-- Every export of a loaded package, and of all that it depends on, is well named. The induction is
on how the package was made. -/
theorem Loaded.wellNamed_all (h : Loaded settings disk loaded) :
    loaded.exports.WellNamed ∧ ∀ needed ∈ loaded.dependencies, needed.exports.WellNamed := by
  induction h with
  | intro direct _ hname _ _ _ hdependencies hexports ih =>
    have hall : ∀ needed ∈ flatten direct, needed.exports.WellNamed := by
      intro needed hneeded
      obtain ⟨package, hpackage, hmem | rfl⟩ := mem_flatten hneeded
      · exact (ih package hpackage).2 needed hmem
      · exact (ih needed hpackage).1
    rw [hdependencies]
    exact ⟨ownExports_wellNamed hname (mergedExports_wellNamed hall) hexports, hall⟩

theorem Loaded.wellNamed (h : Loaded settings disk loaded) : loaded.exports.WellNamed :=
  h.wellNamed_all.1

end Package

end ModPack
