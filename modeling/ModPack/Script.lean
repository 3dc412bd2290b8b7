import ModPack.Script.Block
import ModPack.Text.Newline

/-!
# Scripts

A script is a list of blocks. Reading drops comments and the blanks at both ends of each line, and
cuts at blank lines; writing puts one blank line behind each block.
-/
namespace ModPack

structure Script where
  /-- Where the script is saved; at first where it was read from. -/
  path : Path
  blocks : List Block
  /-- References without a package in this script are to exports of this package. -/
  package : String
  deriving DecidableEq, Repr, Inhabited

namespace Script

/-- Makes a block of the lines read since the last blank one, last line first. -/
def close (path : Path) (pending : List Line) : Report LoadError (List Block) := do
  match pending.reverse with
  | [] => return []
  | header :: rest => return [← Block.classify path header rest]

/-- The blocks of lines that are trimmed already. -/
def blocksOf (path : Path) (pending : List Line) : List Line → Report LoadError (List Block)
  | [] => close path pending
  | line :: lines =>
    if line.text.isEmpty then do
      let block ← close path pending
      let blocks ← blocksOf path [] lines
      return block ++ blocks
    else blocksOf path (line :: pending) lines

/-- The lines of a source without comments, trimmed. -/
def trimmedLines (source : String) : List Line :=
  (Comment.strip source).map fun line => { line with text := Text.trim line.text }

def parse (source : String) (path : Path) (package : String) : Report LoadError Script := do
  let blocks ← blocksOf path [] (trimmedLines source)
  if blocks.isEmpty then Report.note (.emptyScript path.name)
  return ⟨path, blocks, package⟩

/-- The text of a file. Line ends are read as line feeds. -/
def readText (disk : Disk) (path : Path) : Except UnreadableScript String := do
  let content ← (disk.readFile path).mapError .system
  let text ← (Utf8.decode content).mapError .undecodable
  return .ofList (Text.unifyNewlines text.toList)

def load (disk : Disk) (package : String) (path : Path) : Report LoadError Script := do
  let source ← (Report.ofExcept (readText disk path)).mapError (.unreadableScript path)
  parse source path package

def lines (script : Script) : List Line :=
  script.blocks.flatMap Block.lines

/-- The text of a script. -/
def dumps (script : Script) : String :=
  String.join (script.blocks.map fun block =>
    String.join (block.lines.map fun line => line.text ++ "\n") ++ "\n")

/-- A script as messages show it. -/
def description (script : Script) : String :=
  "Script(" ++ Text.quoted script.path.toString ++ ", " ++ toString script.blocks.length ++
    " blocks)"

/-- Writes a script to its path, making the directories above it. -/
def save (script : Script) : Disk.Op Unit := do
  Disk.makeDirectories true script.path.parent
  Disk.writeText script.path script.dumps

end Script

end ModPack
