import ModPack.Yaml.Error

/-!
# The characters of a YAML text with their places

A text is laid out as a list of cells, each a character with its index, line and column. The list
ends with a cell that holds NUL, which no YAML text contains; so looking ahead never fails, and
recursion over the list follows the text. Main statement: a line break read from a text leaves
fewer cells.
-/
namespace ModPack.Yaml

structure Cell where
  char : Char
  index : Nat
  line : Nat
  column : Nat
  deriving DecidableEq, Repr, Inhabited

abbrev Cells := List Cell

def endMark : Char := '\x00'

/-- Characters that may stand in a YAML text. -/
def isAllowed (c : Char) : Bool :=
  let code := c.toNat
  code == 0x9 || code == 0xA || code == 0xD || (0x20 ≤ code && code ≤ 0x7E) || code == 0x85 ||
    (0xA0 ≤ code && code ≤ 0xFFFD) || 0x10000 ≤ code

def isBreak (c : Char) : Bool :=
  c == '\n' || c == '\r' || c == '\x85' || c == '\u2028' || c == '\u2029'

def isBreakOrEnd (c : Char) : Bool :=
  c == endMark || isBreak c

/-- Spaces, line breaks and the end. -/
def isGap (c : Char) : Bool :=
  c == ' ' || isBreakOrEnd c

/-- Spaces, tabs, line breaks and the end. -/
def isGapOrTab (c : Char) : Bool :=
  c == '\t' || isGap c

def isSpaceOrTab (c : Char) : Bool :=
  c == ' ' || c == '\t'

def byteOrderMark : Char := '\ufeff'

/-- Lays a text out. A carriage return before a line feed leaves the new line to the line feed. -/
def layOut (index line column : Nat) : List Char → Cells
  | [] => [⟨endMark, index, line, column⟩]
  | c :: rest =>
    let newLine := isBreak c && !(c == '\r' && rest.head? == some '\n')
    ⟨c, index, line, column⟩ ::
      if newLine then layOut (index + 1) (line + 1) 0 rest
      else layOut (index + 1) line (if c = byteOrderMark then column else column + 1) rest

namespace Cells

def peek (cells : Cells) (ahead : Nat := 0) : Char :=
  (cells[ahead]?.map (·.char)).getD endMark

def column (cells : Cells) : Nat :=
  (cells.head?.map (·.column)).getD 0

def take (cells : Cells) (p : Char → Bool) : List Char :=
  (cells.takeWhile fun cell => p cell.char).map (·.char)

def skip (cells : Cells) (p : Char → Bool) : Cells :=
  cells.dropWhile fun cell => p cell.char

def skipSpaces (cells : Cells) : Cells :=
  cells.skip (· == ' ')

/-- Reads one line break; two characters of one break count as a line feed. -/
def break? : Cells → Option (Char × Cells)
  | [] => none
  | first :: rest =>
    if first.char = '\r' ∨ first.char = '\n' ∨ first.char = '\x85' then
      if first.char = '\r' ∧ peek rest = '\n' then some ('\n', rest.tail) else some ('\n', rest)
    else if first.char = '\u2028' ∨ first.char = '\u2029' then some (first.char, rest)
    else none

/-- A document mark: three hyphens or dots with nothing right behind them. -/
def atMark (cells : Cells) (mark : Char) : Bool :=
  cells.peek == mark && cells.peek 1 == mark && cells.peek 2 == mark && isGapOrTab (cells.peek 3)

def atDocumentMark (cells : Cells) : Bool :=
  cells.atMark '-' || cells.atMark '.'

/-- Skips spaces while the column is below `indent`. -/
def skipIndent (indent : Nat) (cells : Cells) : Cells :=
  cells.dropWhile fun cell => cell.char == ' ' && cell.column < indent

/-- Goes to the end of the line, past a comment; fails when anything else stands there. -/
def endOfLine? (cells : Cells) : Option Cells :=
  let cells := cells.skipSpaces
  let cells := if cells.peek = '#' then cells.skip (!isBreakOrEnd ·) else cells
  if isBreakOrEnd cells.peek then some ((cells.break?.map (·.2)).getD cells) else none

theorem length_break? {cells rest : Cells} {c : Char} (h : cells.break? = some (c, rest)) :
    rest.length < cells.length := by
  unfold break? at h
  split at h
  · cases h
  · split at h
    · split at h <;> cases h <;> simp only [List.length_cons, List.length_tail] <;> omega
    · split at h
      · cases h; simp
      · cases h

theorem length_skip_le (cells : Cells) (p : Char → Bool) :
    (cells.skip p).length ≤ cells.length :=
  (List.dropWhile_suffix _).length_le

theorem length_skipIndent_le (indent : Nat) (cells : Cells) :
    (cells.skipIndent indent).length ≤ cells.length :=
  (List.dropWhile_suffix _).length_le

end Cells

end ModPack.Yaml
