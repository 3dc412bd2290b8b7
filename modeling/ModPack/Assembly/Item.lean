import ModPack.Resolution
import ModPack.Work

/-!
# Assembling one export

Each kind of export is written in its own way, and takes its index once it is written: a sprite's
files are copied, a string becomes a file named by its id, and an actor's battle script is read and
pointed at its new place. The script is saved later, when its expressions can be resolved.
-/
namespace ModPack

/-- Why a package cannot be assembled. -/
inductive AssemblyError
  | tooManySprites (count : Nat)
  | tooManyActors (count : Nat)
  | tooManyStrings (bank : Nat) (id : Identifier)
  /-- A string that introduces an actor does not exist. -/
  | missingString (actor : Identifier) (field : String) (id : Identifier)
  deriving DecidableEq, Repr

inductive AssemblyFailure
  | refused (error : AssemblyError)
  | script (error : LoadError)
  | unresolved (error : ResolveError)
  | index (error : IndexError)
  | system (error : OsError)
  deriving DecidableEq, Repr

namespace Assembly

/-- The index of the first sprite; zero is no sprite. -/
def firstSprite : Nat := 1

def lastSprite : Nat := 0xFF

def lastActor : Nat := 0xFF

/-- The last index in a section. -/
def lastString : Nat := 0xFFFF

end Assembly

namespace AssemblyError

open Assembly in
def message : AssemblyError → String
  | tooManySprites count =>
    "too many sprites: " ++ toString count ++ " (max " ++ toString (lastSprite - firstSprite + 1) ++
      ")"
  | tooManyActors count =>
    "too many actors: " ++ toString count ++ " (max " ++ toString (lastActor + 1) ++ ")"
  | tooManyStrings bank id =>
    "too many strings in section " ++ Hex.padded 2 bank ++ " (max " ++ toString (lastString + 1) ++
      ") at " ++ ExportKind.text.label id
  | missingString actor field id => referrer actor ++ " " ++ field ++ " not found: " ++
    ExportKind.text.label id
where
  /-- An actor as messages about it name it. -/
  referrer (actor : Identifier) : String := "actor " ++ actor.qualified

end AssemblyError

def AssemblyFailure.message : AssemblyFailure → String
  | refused error => error.message
  | script error => error.message
  | unresolved error => error.message
  | index error => error.message
  | system error => error.message

def ResolveFailure.toAssembly : ResolveFailure → AssemblyFailure
  | unresolved error => .unresolved error
  | index error => .index error

namespace Assembly

variable {σ : Type}

/-- Gives an export its index. -/
def mark {α : Type} [Export α] (item : α) (index : Int) : Work σ AssemblyFailure α :=
  Work.ofExcept ((Export.mark item index).mapError .index)

end Assembly

variable {σ : Type}

/-- Copies a sprite's files to a directory. -/
def Sprite.assemble (sprite : Sprite) (target : Path) (index : Int) :
    Work σ AssemblyFailure Sprite := do
  Work.onDisk (Disk.makeDirectories true target) .system
  Work.onDisk (Disk.copyChildren sprite.dir target) .system
  Assembly.mark sprite index

/-- Writes a string to a file in a directory. -/
def NamedString.assemble (string : NamedString) (target : Path) (index : Int) :
    Work σ AssemblyFailure (NamedString × Path) := do
  let path := target / (NamedString.idText string.bank index ++ ".str")
  Work.onDisk (Disk.writeText path (string.written index)) .system
  return (← Assembly.mark string index, path)

/-- Reads an actor's battle script, to be saved in a directory. -/
def Actor.assemble (actor : Actor) (target : Path) (index : Int) :
    Work σ AssemblyFailure (Actor × Script) := do
  let script ← Work.ofReport (Script.load (← Work.disk) actor.sourcePackage actor.scriptPath) .script
  let path := target / (Hex.padded 2 index ++ "_" ++ actor.name ++ ".bpat")
  return (← Assembly.mark actor index, { script with path })

end ModPack
