import ModPack.Text.Blank

/-!
# Comments in scripts

`%` starts a comment that runs to the end of the line, and a slash before it makes it a block
comment, which ends at the next `%` followed by a slash. A line comment with nothing but blanks
before it takes its line away; a block comment joins the text around it, over line ends too.
Carriage returns are dropped.
-/
namespace ModPack

/-- A line of text with the number of the source line on which it starts. -/
structure Line where
  number : Nat
  text : String
  deriving DecidableEq, Repr, Inhabited

namespace Comment

inductive Mode
  | text
  | line
  | block
  deriving DecidableEq, Repr

/-- Reading a source character by character. `current` holds the characters of the unfinished line,
last one first, and `start` the source line of its first character; `lines` holds the finished
lines, last one first. -/
structure Stripper where
  mode : Mode := .text
  number : Nat := 1
  start : Nat := 1
  previous : Option Char := none
  current : List Char := []
  lines : List Line := []
  deriving Repr

namespace Stripper

def endLine (s : Stripper) : Stripper :=
  { s with current := [], lines := ⟨s.start, .ofList s.current.reverse⟩ :: s.lines }

def append (s : Stripper) (c : Char) : Stripper :=
  { s with start := if s.current.isEmpty then s.number else s.start, current := c :: s.current }

/-- Goes past a character. -/
def pass (s : Stripper) (c : Char) : Stripper :=
  { s with number := if c = '\n' then s.number + 1 else s.number, previous := some c }

/-- Opens a block comment; the slash before it is part of its mark. -/
def openBlock (s : Stripper) : Stripper :=
  { s with mode := .block, previous := none, current := s.current.tail }

/-- Opens a line comment; text before it ends its line. -/
def openLine (s : Stripper) : Stripper :=
  let s := if Text.isBlankText s.current then { s with current := [] } else s.endLine
  { s with mode := .line }

def step (s : Stripper) (c : Char) : Stripper :=
  if c = '\r' then s
  else match s.mode with
    | .block =>
      if c = '/' ∧ s.previous = some '%' then { s with mode := .text, previous := none }
      else s.pass c
    | .line => { s with mode := if c = '\n' then .text else .line }.pass c
    | .text =>
      if c = '%' then if s.previous = some '/' then s.openBlock else s.openLine.pass c
      else if c = '\n' then s.endLine.pass c
      else (s.append c).pass c

/-- The lines once the source has ended; the last line needs no line end. -/
def finish (s : Stripper) : List Line :=
  s.endLine.lines.reverse

end Stripper

/-- The lines of a source without its comments. -/
def strip (source : String) : List Line :=
  (source.toList.foldl Stripper.step {}).finish

end Comment

end ModPack
