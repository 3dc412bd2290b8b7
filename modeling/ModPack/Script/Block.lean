import ModPack.Script.Comment
import ModPack.LoadError

/-!
# Blocks of a script

A block is a run of lines without a blank one between them. Its first line may be a header
`#string:XX:(name)` with a two-digit hexadecimal section; then the block defines a named string.
The name ends at the last closing parenthesis of the line.
-/
namespace ModPack

inductive BlockKind
  /-- A block that is passed through as it is. -/
  | other
  /-- A string of a section, called by a bank number, under a name. -/
  | namedString (bank : Nat) (name : String)
  deriving DecidableEq, Repr

/-- A run of lines; there is at least one. -/
structure Block where
  header : Line
  rest : List Line
  kind : BlockKind
  deriving DecidableEq, Repr

namespace Block

def lines (block : Block) : List Line :=
  block.header :: block.rest

/-- The texts of the lines after the first. -/
def body (block : Block) : List String :=
  block.rest.map (·.text)

def headerMark : List Char := "#string:".toList

/-- The section and name texts of a named string's header. -/
def headerParts? (header : String) : Option (String × String) := do
  let cs := header.toList
  guard (headerMark.isPrefixOf cs)
  let cs := cs.drop headerMark.length
  let bank := cs.takeWhile (· ≠ ':')
  match cs.dropWhile (· ≠ ':') with
  | ':' :: '(' :: rest =>
    match rest.reverse.dropWhile (· ≠ ')') with
    | [] => none
    | _ :: name => some (.ofList bank, .ofList name.reverse)
  | _ => none

/-- The number written by exactly two hexadecimal digits. -/
def bankOf? (text : String) : Option Nat :=
  if text.length = 2 then Hex.value? text.toList else none

/-- Makes a block of lines, deciding its kind by the first. -/
def classify (path : Path) (header : Line) (rest : List Line) : Report LoadError Block := do
  match headerParts? header.text with
  | none => return ⟨header, rest, .other⟩
  | some (bank, name) =>
    match bankOf? bank with
    | none => Report.fail (.badSection path header.number bank)
    | some bank =>
      Report.note (.namedString path header.number bank name)
      return ⟨header, rest, .namedString bank name⟩

end Block

end ModPack
