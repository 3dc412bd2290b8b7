import ModPack.Exports
import ModPack.Expression

/-!
# Resolving the expressions of a script

Once every export has its index, expressions in scripts are replaced by hexadecimal words:

* `Sprite:id` by the index of the sprite, two digits;
* `Sprite:id:animation` and `Sprite:id:animation:palette` by four pairs of digits, for zero, the
  sprite, the palette (zero if none is named) and the animation;
* `String:id` by the id of the string and `Actor:id` by the index of the actor.

With any other number of arguments an expression stays as it is. A block changes as a whole or not
at all. Main statement: resolving a line keeps its number.
-/
namespace ModPack

/-- Why an expression has no value. -/
inductive Unresolved
  | badIdentifier (text : String) (cause : ReferenceError)
  | unknown (kind : ExportKind) (id : Identifier)
  | noAnimation (id : Identifier) (animation : String)
  | noPalette (id : Identifier) (palette : String)
  deriving DecidableEq, Repr

/-- An expression without a value, and the line it is on. -/
structure ResolveError where
  path : Path
  line : Nat
  problem : Unresolved
  deriving DecidableEq, Repr

/-- What stops resolving a script. -/
inductive ResolveFailure
  | unresolved (error : ResolveError)
  | index (error : IndexError)
  deriving DecidableEq, Repr

def Unresolved.message : Unresolved → String
  | badIdentifier text cause => "failed to parse id '" ++ text ++ "': " ++ cause.message
  | unknown kind id => "unknown " ++ kind.keyword.toLower ++ ": " ++ kind.label id
  | noAnimation id animation =>
    "sprite " ++ ExportKind.sprite.label id ++ " has no animation '" ++ animation ++ "'"
  | noPalette id palette =>
    "sprite " ++ ExportKind.sprite.label id ++ " has no palette '" ++ palette ++ "'"

def ResolveError.message (error : ResolveError) : String :=
  error.path.toString ++ ":" ++ toString error.line ++ ": " ++ error.problem.message

namespace Resolution

/-- The value of an expression, or why it has none; the position is not known here. -/
abbrev Value := Report (Unresolved ⊕ IndexError)

def identifier (source text : String) : Value Identifier :=
  (Identifier.parse text source).mapError fun cause => .inl (.badIdentifier text cause)

def lookUp {α : Type} (kind : ExportKind) (registry : Registry α) (id : Identifier) : Value α :=
  match registry.get? id with
  | some item => pure item
  | none => Report.fail (.inl (.unknown kind id))

def indexOf {α : Type} [Export α] (item : α) : Value Int :=
  Report.ofExcept ((Export.index item).mapError .inr)

def animation (id : Identifier) (sprite : Sprite) (name : String) : Value Nat :=
  match sprite.animation? name with
  | some slot => pure slot
  | none => Report.fail (.inl (.noAnimation id name))

def palette (id : Identifier) (sprite : Sprite) (name : String) : Value Nat :=
  match sprite.palette? name with
  | some slot => pure slot
  | none => Report.fail (.inl (.noPalette id name))

/-- Four pairs of digits: zero, the sprite, a palette and an animation. -/
def spriteWord (sprite : Int) (palette animation : Nat) : String :=
  "00" ++ Hex.padded 2 sprite ++ Hex.padded 2 palette ++ Hex.padded 2 animation

/-- The word for an expression in a script of the package `source`; none for an expression that has
no meaning here. -/
def value (exports : Exports) (source : String) (expression : Expression) :
    Value (Option String) :=
  match expression.kind, expression.arguments with
  | .sprite, [reference] => do
    let sprite ← lookUp .sprite exports.sprites (← identifier source reference)
    return some (Hex.padded 2 (← indexOf sprite))
  | .sprite, [reference, animationName] => do
    let id ← identifier source reference
    let sprite ← lookUp .sprite exports.sprites id
    let slot ← animation id sprite animationName
    return some (spriteWord (← indexOf sprite) 0 slot)
  | .sprite, [reference, animationName, paletteName] => do
    let id ← identifier source reference
    let sprite ← lookUp .sprite exports.sprites id
    let slot ← animation id sprite animationName
    let paletteSlot ← palette id sprite paletteName
    return some (spriteWord (← indexOf sprite) paletteSlot slot)
  | .text, [reference] => do
    let string ← lookUp .text exports.strings (← identifier source reference)
    return some (← Report.ofExcept (string.hexId.mapError .inr))
  | .actor, [reference] => do
    let actor ← lookUp .actor exports.actors (← identifier source reference)
    return some (Hex.padded 2 (← indexOf actor))
  | _, _ => return none

/-- Where a line is. -/
structure Place where
  path : Path
  line : Nat
  source : String
  deriving DecidableEq, Repr

def Place.failure (place : Place) : Unresolved ⊕ IndexError → ResolveFailure
  | .inl problem => .unresolved ⟨place.path, place.line, problem⟩
  | .inr error => .index error

/-- What a piece of a line becomes. -/
def segment (exports : Exports) (place : Place) : Segment → Report ResolveFailure (List Char)
  | .plain c => return [c]
  | .expression expression => do
    match ← (value exports place.source expression).mapError place.failure with
    | some word => return word.toList
    | none =>
      Report.note (.leftUntouched place.path place.line expression.text)
      return expression.text.toList

def segments (exports : Exports) (place : Place) :
    List Segment → Report ResolveFailure (List Char)
  | [] => return []
  | piece :: pieces => do
    let front ← segment exports place piece
    return front ++ (← segments exports place pieces)

/-- A line with its expressions replaced from left to right. -/
def line (exports : Exports) (path : Path) (source : String) (line : Line) :
    Report ResolveFailure Line := do
  let text ← segments exports ⟨path, line.number, source⟩ (Expression.segments line.text.toList)
  return { line with text := .ofList text }

def lines (exports : Exports) (path : Path) (source : String) :
    List Line → Report ResolveFailure (List Line)
  | [] => return []
  | first :: rest => do
    let first ← line exports path source first
    return first :: (← lines exports path source rest)

def block (exports : Exports) (path : Path) (source : String) (block : Block) :
    Report ResolveFailure Block := do
  let header ← line exports path source block.header
  let rest ← lines exports path source block.rest
  return { block with header, rest }

/-- The blocks after resolving as many as possible in order, and the failure that stopped it. -/
def blocks (exports : Exports) (path : Path) (source : String) :
    List Block → List Event × List Block × Option ResolveFailure
  | [] => ([], [], none)
  | first :: rest =>
    match block exports path source first with
    | ⟨events, .error failure⟩ => (events, first :: rest, some failure)
    | ⟨events, .ok resolved⟩ =>
      let (later, rest, failure) := blocks exports path source rest
      (events ++ later, resolved :: rest, failure)

end Resolution

/-- A script after resolving it: with a failure, the blocks before the failing one are resolved. -/
structure Resolution where
  script : Script
  events : List Event
  failure : Option ResolveFailure
  deriving Repr

def Script.resolve (exports : Exports) (script : Script) : Resolution :=
  let (events, blocks, failure) :=
    Resolution.blocks exports script.path script.package script.blocks
  ⟨{ script with blocks }, events, failure⟩

namespace Resolution

theorem number_of_line {exports : Exports} {path : Path} {source : String} {first : Line}
    {resolved : Line} (h : (line exports path source first).result = .ok resolved) :
    resolved.number = first.number := by
  simp only [line, bind, Report.bind] at h
  split at h
  · cases h
  · cases h
    rfl

end Resolution

end ModPack
