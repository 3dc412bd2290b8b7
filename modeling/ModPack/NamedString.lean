import ModPack.Export
import ModPack.LoadFailure
import ModPack.Script

/-!
# Strings

A strings file is a script in which every block defines a string: its header gives the section and
the name, the lines after it are the text. A string is numbered within its section, and section and
number together are its id.
-/
namespace ModPack

structure NamedString where
  /-- The number of the section. -/
  bank : Nat
  name : String
  text : String
  path : Option Path := none
  state : AssemblyState := .unassembled
  deriving DecidableEq, Repr, Inhabited

namespace NamedString

instance : Export NamedString where
  kind _ := .text
  name := NamedString.name
  state := NamedString.state
  withState state string := { string with state }

instance : LawfulExport NamedString where
  kind_withState _ _ := rfl
  name_withState _ _ := rfl
  state_withState _ _ := rfl

/-- The id of a string with a number in its section. -/
def idText (bank : Nat) (index : Int) : String :=
  Hex.padded 4 bank ++ Hex.padded 4 index

/-- The id by which scripts refer to an assembled string. -/
def hexId (string : NamedString) : Except IndexError String := do
  return idText string.bank (← Export.index string)

/-- What an assembled string is written as. -/
def written (string : NamedString) (index : Int) : String :=
  "#string:" ++ Hex.padded 2 string.bank ++ ":" ++ Hex.padded 3 index ++ "\n" ++ string.text

/-- The string that a block of a strings file defines. -/
def ofBlock (path : Path) (block : Block) : Report LoadError NamedString := do
  match block.kind with
  | .other => Report.fail (.blockNotString path block.header.number)
  | .namedString bank name =>
    (Name.checkExport name).mapError (.stringName path block.header.number)
    if LoadError.maxSection < bank then
      Report.fail (.sectionRange path block.header.number bank)
    return { bank, name, text := "\n".intercalate block.body, path := some path }

def ofBlocks (path : Path) : List Block → Report LoadError (List NamedString)
  | [] => return []
  | block :: blocks => do
    let string ← ofBlock path block
    return string :: (← ofBlocks path blocks)

/-- All strings of a strings file. -/
def load (disk : Disk) (sourcePackage : String) (path : Path) :
    Report LoadError (List NamedString) := do
  let script ← Script.load disk sourcePackage path
  let strings ← ofBlocks path script.blocks
  Report.note (.stringsFile path strings.length)
  return strings

end NamedString

end ModPack
