import ModPack.Export
import ModPack.LoadFailure

/-!
# Sprites

A sprite is a directory with a sheet that lists its palettes and animations. Each is a slot; a slot
without a name goes by its number. Main statement: the slot found under a name carries that name.
-/
namespace ModPack

structure Sprite where
  dir : Path
  palettes : List String := []
  animations : List String := []
  state : AssemblyState := .unassembled
  deriving DecidableEq, Repr, Inhabited

namespace Sprite

def name (sprite : Sprite) : String :=
  sprite.dir.name

instance : Export Sprite where
  kind _ := .sprite
  name := name
  state := Sprite.state
  withState state sprite := { sprite with state }

instance : LawfulExport Sprite where
  kind_withState _ _ := rfl
  name_withState _ _ := rfl
  state_withState _ _ := rfl

/-- The first slot of a name. -/
def slot? (names : List String) (name : String) : Option Nat :=
  names.findIdx? (· = name)

def palette? (sprite : Sprite) (name : String) : Option Nat :=
  slot? sprite.palettes name

def animation? (sprite : Sprite) (name : String) : Option Nat :=
  slot? sprite.animations name

/-- The name of a slot: its own unless it has none or an empty one. -/
def slotName (own : Option String) (number : Nat) : String :=
  match own with
  | none | some "" => Hex.text number
  | some name => name

/-- The names of the slots in a list of a sheet. -/
def slotNames (list : Markup.Element) : List String :=
  list.children.mapIdx fun number slot => slotName (slot.attributeNamed? "name") number

/-- The palettes and animations of a sheet. -/
def ofSheet (dir : Path) (sheet : Markup.Element) : Except LoadError Sprite := do
  let some palettes := sheet.first? ⟨none, "PaletteList"⟩ | throw (.missingPaletteList dir)
  let some animations := sheet.first? ⟨none, "AnimationList"⟩ | throw (.missingAnimationList dir)
  return { dir, palettes := slotNames palettes, animations := slotNames animations }

/-- The sheet of a sprite directory. -/
def readSheet (disk : Disk) (dir : Path) : Except LoadFailure Markup.Element := do
  let sheet := dir / LoadError.sheetName
  unless disk.isFile sheet do throw (.refused (.missingSheet dir))
  let content ← (disk.readFile sheet).mapError .system
  match Markup.read content with
  | .ok root => return root
  | .error .malformed => throw (.refused (.malformedSheet dir))
  | .error error => throw (.markup error)

def load (disk : Disk) (dir : Path) : Loading Sprite := do
  Loading.orRefuse (Name.checkExport dir.name) (.spriteName dir)
  let sheet ← Report.ofExcept (readSheet disk dir)
  let sprite ← Loading.orRefuse (Report.ofExcept (ofSheet dir sheet)) id
  Report.note (.spriteSheet dir sprite.palettes.length sprite.animations.length)
  return sprite

theorem getElem?_of_slot? {names : List String} {name : String} {slot : Nat}
    (h : slot? names name = some slot) : names[slot]? = some name := by
  obtain ⟨hlt, hname, -⟩ := List.findIdx?_eq_some_iff_getElem.1 h
  rw [List.getElem?_eq_getElem hlt, of_decide_eq_true hname]

end Sprite

end ModPack
