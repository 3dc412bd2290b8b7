import ModPack.Proofs.NumberedExports
import ModPack.Proofs.TwinExports

/-!
# Registries of twins

Registries that hold twins under the same identifiers list them in the same order, since the order
of enumeration is that of the identifiers. Whatever reads exports from such registries reads the
same, as long as it does not look at paths; resolving scripts is such a reading. Main statements:
`Registry.Twin.of_get?` and `resolve_eq`.
-/
namespace ModPack

namespace Registry

variable {α β : Type} {T : α → β → Prop}

/-- Two registries that hold related entries, each under the same identifier. -/
def Twin (T : α → β → Prop) (first : Registry α) (second : Registry β) : Prop :=
  List.Forall₂ (fun old new => new.1 = old.1 ∧ T old.2 new.2) first.entries second.entries

variable {first : Registry α} {second : Registry β}

theorem lookup_of_before {γ : Type} {id : Identifier} {entries : List (Identifier × γ)}
    (h : ∀ entry ∈ entries, id.precedes entry.1 = true) : entries.lookup id = none := by
  rw [List.lookup_eq_none_iff]
  intro entry hentry
  rw [bne_iff_ne]
  rintro rfl
  have hbefore := h entry hentry
  rw [Identifier.precedes_irrefl] at hbefore
  cases hbefore

theorem lookup_of_precedes {γ : Type} {id key : Identifier} {value : γ}
    {rest : List (Identifier × γ)} (h : id.precedes key = true)
    (hfront : ∀ entry ∈ rest, Before (key, value) entry) :
    ((key, value) :: rest).lookup id = none := by
  refine lookup_of_before fun entry hentry => ?_
  rcases List.mem_cons.1 hentry with rfl | hentry
  · exact h
  · exact Identifier.precedes_trans h (hfront entry hentry)

/-- Both lists begin with the same identifier, since each head comes before all that follow it. -/
theorem forall₂_of_lookup {entries : List (Identifier × α)} {others : List (Identifier × β)}
    (hsorted : entries.Pairwise Before) (hsorted' : others.Pairwise Before)
    (h : ∀ id, Option.Rel T (entries.lookup id) (others.lookup id)) :
    List.Forall₂ (fun old new => new.1 = old.1 ∧ T old.2 new.2) entries others := by
  induction entries generalizing others with
  | nil =>
    cases others with
    | nil => exact .nil
    | cons head rest =>
      have hhead := h head.1
      rw [List.lookup_cons_self] at hhead
      cases hhead
  | cons head rest ih =>
    obtain ⟨id, item⟩ := head
    obtain ⟨hfront, hrest⟩ := List.pairwise_cons.1 hsorted
    cases others with
    | nil =>
      have hhead := h id
      rw [List.lookup_cons_self] at hhead
      cases hhead
    | cons head rest' =>
      obtain ⟨key, twin⟩ := head
      obtain ⟨hfront', hrest'⟩ := List.pairwise_cons.1 hsorted'
      have hid := h id
      have hkey := h key
      rw [List.lookup_cons_self] at hid hkey
      obtain rfl : key = id := by
        by_contra hne
        rcases Identifier.precedes_total hne with hbefore | hbefore
        · rw [lookup_of_precedes hbefore hfront] at hkey
          cases hkey
        · rw [lookup_of_precedes hbefore hfront'] at hid
          cases hid
      rw [List.lookup_cons_self] at hid
      refine .cons ⟨rfl, ?_⟩ (ih hrest hrest' fun other => ?_)
      · cases hid with
        | some htwin => exact htwin
      by_cases hother : other = key
      · subst hother
        rw [lookup_of_before hfront, lookup_of_before hfront']
        exact .none
      · have hrel := h other
        rwa [List.lookup_cons, List.lookup_cons, beq_eq_false_iff_ne.2 hother] at hrel

theorem Twin.of_get? (h : ∀ id, Option.Rel T (first.get? id) (second.get? id)) :
    Twin T first second :=
  forall₂_of_lookup first.sorted second.sorted h

theorem Twin.size_eq (h : Twin T first second) : second.size = first.size :=
  (List.Forall₂.length_eq h).symm

theorem Twin.get? (h : Twin T first second) (id : Identifier) :
    Option.Rel T (first.get? id) (second.get? id) := by
  unfold Twin at h
  rw [Registry.get?, Registry.get?]
  generalize first.entries = entries at h ⊢
  generalize second.entries = others at h ⊢
  induction h with
  | nil => exact .none
  | @cons old new _ _ hhead _ ih =>
    obtain ⟨hkey, htwin⟩ := hhead
    rw [List.lookup_cons, List.lookup_cons, ← hkey]
    cases id == new.1 with
    | true => exact .some htwin
    | false => exact ih

theorem Twin.set {item : α} {twin : β} (h : Twin T first second) (id : Identifier)
    (htwin : T item twin) : Twin T (first.set id item) (second.set id twin) := by
  refine .of_get? fun other => ?_
  rw [get?_set, get?_set]
  split
  · exact .some htwin
  · exact h.get? other

end Registry

/-! ## Exports -/

/-- A sprite and its twin on disks that differ at the locations `moved`: none of these is in their
directory. -/
structure Sprite.Copied (moved : Location → Prop) (first second : Disk) (sprite twin : Sprite) :
    Prop extends Sprite.Twin first second sprite twin where
  apart : ∀ location, first.directory? sprite.dir = some location →
    ∀ below, below.within location = true → ¬ moved below

/-- A well-named actor and its twin. -/
structure Actor.Scripted (first second : Disk) (actor twin : Actor) : Prop extends
    Actor.Twin first second actor twin where
  named : Name.fault? actor.name = none

/-- Twins stay twins when both get an index. -/
theorem Sprite.Copied.withState {moved : Location → Prop} {first second : Disk}
    {sprite twin : Sprite} (h : sprite.Copied moved first second twin) (state : AssemblyState) :
    Sprite.Copied moved first second (Export.withState state sprite)
      (Export.withState state twin) :=
  ⟨⟨h.dir, h.name, h.palettes, h.animations, rfl⟩, h.apart⟩

theorem Actor.Scripted.withState {first second : Disk} {actor twin : Actor}
    (h : actor.Scripted first second twin) (state : AssemblyState) :
    Actor.Scripted first second (Export.withState state actor) (Export.withState state twin) :=
  ⟨⟨h.dir, h.name, h.sourcePackage, h.displayName, h.tattle, rfl⟩, h.named⟩

theorem NamedString.Twin.withState {first second : Disk} {string twin : NamedString}
    (h : string.Twin first second twin) (state : AssemblyState) :
    NamedString.Twin first second (Export.withState state string) (Export.withState state twin) :=
  ⟨h.path, h.name, h.bank, h.text, rfl⟩

/-- Exports that are twins, each under its identifier, and can be assembled alike. -/
structure Exports.Twin (moved : Location → Prop) (first second : Disk) (exports twins : Exports) :
    Prop where
  sprites : exports.sprites.Twin (Sprite.Copied moved first second) twins.sprites
  actors : exports.actors.Twin (Actor.Scripted first second) twins.actors
  strings : exports.strings.Twin (NamedString.Twin first second) twins.strings

/-- Exports of one kind, name and state have one index, or fail alike to tell it. -/
theorem Export.index_eq {α : Type} [Export α] {item twin : α}
    (hkind : Export.kind twin = Export.kind item) (hname : Export.name twin = Export.name item)
    (hstate : Export.state twin = Export.state item) : Export.index twin = Export.index item := by
  rw [index, index, hkind, hname, hstate]

theorem NamedString.Twin.hexId_eq {first second : Disk} {string twin : NamedString}
    (h : string.Twin first second twin) : twin.hexId = string.hexId := by
  have hkind : Export.kind twin = Export.kind string := rfl
  have hindex : Export.index twin = Export.index string := Export.index_eq hkind h.name h.state
  rw [hexId, hexId, h.bank, hindex]

theorem map_eq_of_optionRel {α β γ : Type} {R : α → β → Prop} {f : α → γ} {g : β → γ}
    {item : Option α} {twin : Option β} (h : Option.Rel R item twin)
    (hmap : ∀ item twin, R item twin → g twin = f item) : twin.map g = item.map f := by
  cases h with
  | none => rfl
  | some hrel => exact congrArg some (hmap _ _ hrel)

/-- What both hold under an identifier has the same index. -/
theorem Exports.Twin.index_eq {moved : Location → Prop} {first second : Disk}
    {exports twins : Exports} (h : exports.Twin moved first second twins) (kind : ExportKind)
    (id : Identifier) :
    (twins.record? kind id).map Export.index? = (exports.record? kind id).map Export.index? := by
  cases kind with
  | sprite =>
    rw [record?, record?, Option.map_map, Option.map_map]
    exact map_eq_of_optionRel (h.sprites.get? id) fun _ _ htwin =>
      congrArg AssemblyState.index? htwin.state
  | actor =>
    rw [record?, record?, Option.map_map, Option.map_map]
    exact map_eq_of_optionRel (h.actors.get? id) fun _ _ htwin =>
      congrArg AssemblyState.index? htwin.state
  | text =>
    rw [record?, record?, Option.map_map, Option.map_map]
    exact map_eq_of_optionRel (h.strings.get? id) fun _ _ htwin =>
      congrArg AssemblyState.index? htwin.state

/-! ## Scripts -/

namespace Resolution

variable {moved : Location → Prop} {first second : Disk} {exports twins : Exports}

/-- Work with an export that is looked up goes the same way for its twin. -/
theorem lookUp_bind_eq {α β : Type} {T : α → α → Prop} {registry other : Registry α}
    {kind : ExportKind} {id : Identifier} {next : α → Value β} (h : registry.Twin T other)
    (hnext : ∀ item twin, T item twin → next twin = next item) :
    lookUp kind other id >>= next = lookUp kind registry id >>= next := by
  have hrel := h.get? id
  unfold lookUp
  generalize registry.get? id = found at hrel ⊢
  generalize other.get? id = another at hrel ⊢
  cases hrel with
  | none => rfl
  | some htwin => exact hnext _ _ htwin

theorem value_eq (h : exports.Twin moved first second twins) (source : String)
    (expression : Expression) : value twins source expression = value exports source expression := by
  have hsprite {sprite twin : Sprite} (htwin : sprite.Copied moved first second twin) :
      indexOf twin = indexOf sprite := by
    have hkind : Export.kind twin = Export.kind sprite := rfl
    rw [indexOf, indexOf, Export.index_eq hkind htwin.name htwin.state]
  unfold value
  split
  · refine bind_congr fun id => lookUp_bind_eq h.sprites fun sprite twin htwin => ?_
    rw [hsprite htwin]
  · refine bind_congr fun id => lookUp_bind_eq h.sprites fun sprite twin htwin => ?_
    rw [hsprite htwin, animation, animation, Sprite.animation?, Sprite.animation?,
      htwin.animations]
  · refine bind_congr fun id => lookUp_bind_eq h.sprites fun sprite twin htwin => ?_
    rw [hsprite htwin, animation, animation, Sprite.animation?, Sprite.animation?,
      htwin.animations, palette, palette, Sprite.palette?, Sprite.palette?, htwin.palettes]
  · refine bind_congr fun id => lookUp_bind_eq h.strings fun string twin htwin => ?_
    rw [htwin.hexId_eq]
  · refine bind_congr fun id => lookUp_bind_eq h.actors fun actor twin htwin => ?_
    have hkind : Export.kind twin = Export.kind actor := rfl
    rw [indexOf, indexOf, Export.index_eq hkind htwin.name htwin.state]
  · rfl

theorem segments_eq (h : exports.Twin moved first second twins) (place : Place)
    (pieces : List Segment) : segments twins place pieces = segments exports place pieces := by
  induction pieces with
  | nil => rfl
  | cons piece pieces ih =>
    have hpiece : segment twins place piece = segment exports place piece := by
      cases piece with
      | plain c => rfl
      | expression expression => rw [segment, segment, value_eq h]
    rw [segments, segments, hpiece, ih]

theorem lines_eq (h : exports.Twin moved first second twins) (path : Path) (source : String)
    (before : List Line) : lines twins path source before = lines exports path source before := by
  induction before with
  | nil => rfl
  | cons first rest ih => rw [lines, lines, line, line, segments_eq h, ih]

theorem blocks_eq (h : exports.Twin moved first second twins) (path : Path) (source : String)
    (before : List Block) : blocks twins path source before = blocks exports path source before := by
  induction before with
  | nil => rfl
  | cons first rest ih =>
    have hblock : block twins path source first = block exports path source first := by
      rw [block, block, line, line, segments_eq h, lines_eq h]
    rw [blocks, blocks, hblock, ih]

end Resolution

/-- Scripts are resolved alike. -/
theorem Script.resolve_eq {moved : Location → Prop} {first second : Disk} {exports twins : Exports}
    (h : exports.Twin moved first second twins) (script : Script) :
    script.resolve twins = script.resolve exports := by
  rw [resolve, resolve, Resolution.blocks_eq h]

end ModPack
