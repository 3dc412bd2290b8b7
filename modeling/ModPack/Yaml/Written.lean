import ModPack.Text.Hex
import ModPack.Yaml.Cell
import ModPack.Yaml.Plain

/-!
# Written YAML

Writing nested mappings of texts in block style. A text is written plain when its text alone reads
as that string, else between apostrophes, and with escapes between double quotes when it holds
anything but printable ASCII and line feeds. Lines are folded at blanks once they pass the width. A
key that is empty, has several lines or is long stands behind a question mark.
-/
namespace ModPack.Yaml

/-- What is written: texts, and mappings in their order. -/
inductive Tree
  | text (value : String)
  | map (entries : List (String × Tree))
  deriving Inhabited

namespace Written

/-- Lines are folded beyond this column. -/
def width : Nat := 80

def indentStep : Nat := 2

/-- The text so far and where it stands. `afterBlank` says that a blank was written last, and
`inIndent` that the line holds nothing but indentation and its marks. -/
structure Pen where
  output : String := ""
  column : Nat := 0
  afterBlank : Bool := true
  inIndent : Bool := true

namespace Pen

def put (pen : Pen) (text : String) : Pen :=
  { pen with output := pen.output ++ text, column := pen.column + text.length }

def lineBreak (pen : Pen) : Pen :=
  { output := pen.output.push '\n' }

/-- Goes to the indentation: on this line while it can be reached, else on the next one. -/
def indentTo (pen : Pen) (indent : Nat) : Pen :=
  let pen :=
    if !pen.inIndent || indent < pen.column || (pen.column = indent && !pen.afterBlank) then
      pen.lineBreak
    else pen
  if pen.column < indent then
    { pen.put (.ofList (List.replicate (indent - pen.column) ' ')) with afterBlank := true }
  else pen

/-- A mark, behind a blank where one is needed. -/
def mark (pen : Pen) (text : String) (needsBlank : Bool) (blank inIndent : Bool := false) : Pen :=
  let pen := pen.put (if pen.afterBlank || !needsBlank then text else " " ++ text)
  { pen with afterBlank := blank, inIndent := pen.inIndent && inIndent }

end Pen

/-! ## Styles -/

/-- Every character with the ones beside it. -/
def neighbours (previous : Option Char) : List Char → List (Option Char × Char × Option Char)
  | [] => []
  | c :: rest => (previous, c, rest.head?) :: neighbours (some c) rest

/-- Characters that only escapes can write. -/
def isSpecial (c : Char) : Bool :=
  c != '\n' && !(0x20 ≤ c.toNat && c.toNat ≤ 0x7E)

def isPadding (c : Char) : Bool :=
  c == ' ' || isBreak c

/-- A blank right before a line break, or right after one. -/
def hasBlankAtBreak (text : List Char) : Bool :=
  (neighbours none text).any fun (previous, c, next) =>
    c == ' ' && ((previous.map isBreak).getD false || (next.map isBreak).getD false)

/-- Characters that cannot begin a plain text. -/
def leadingMarks : List Char :=
  "#,[]\x7b\x7d&*!|>'\"%@".toList ++ ['\x60']

/-- Whether a character would be read as a mark where it stands. -/
def isMark (previous : Option Char) (c : Char) (next : Option Char) : Bool :=
  let beforeGap := (next.map isGapOrTab).getD true
  match previous with
  | none =>
    leadingMarks.contains c || ((c == '?' || c == ':' || c == '-') && beforeGap)
  | some previous => (c == ':' && beforeGap) || (c == '#' && isGapOrTab previous)

def hasMarks (text : List Char) : Bool :=
  ['-', '-', '-'].isPrefixOf text || ['.', '.', '.'].isPrefixOf text ||
    (neighbours none text).any fun (previous, c, next) => isMark previous c next

def hasLines (text : List Char) : Bool :=
  text.any isBreak

def needsEscapes (text : List Char) : Bool :=
  text.any isSpecial || hasBlankAtBreak text

/-- Whether the characters of a text allow it to be plain. -/
def allowsPlain (text : List Char) : Bool :=
  !(needsEscapes text || hasLines text || hasMarks text ||
    (text.head?.map isPadding).getD false || (text.getLast?.map isPadding).getD false)

inductive Style
  | plain
  | single
  | double
  deriving DecidableEq, Repr

/-- The first style that keeps the text; keys on one line cannot be empty or have several lines. -/
def style (onKeyLine : Bool) (text : String) : Style :=
  let cs := text.toList
  if Plain.kind text = .text && allowsPlain cs && !(onKeyLine && cs = []) then .plain
  else if !needsEscapes cs && !(onKeyLine && hasLines cs) then .single
  else .double

/-! ## Texts -/

/-- A blank between two other characters where the line has passed the width. -/
def canFold (pen : Pen) (split : Bool) (previous next : Option Char) : Bool :=
  split && width < pen.column && previous.isSome && next.isSome && previous != some ' ' &&
    next != some ' '

def plainChar (indent : Nat) (split : Bool) (pen : Pen)
    (place : Option Char × Char × Option Char) : Pen :=
  let (previous, c, next) := place
  if c = ' ' ∧ canFold pen split previous next then pen.indentTo indent
  else pen.put (.singleton c)

/-- In a single-quoted text a line feed is an empty line, and further ones a line each. -/
def singleChar (indent : Nat) (split : Bool) (pen : Pen)
    (place : Option Char × Char × Option Char) : Pen :=
  let (previous, c, next) := place
  if c = '\n' then
    let pen := if previous = some '\n' then pen else pen.lineBreak
    let pen := pen.lineBreak
    if next = some '\n' then pen else pen.indentTo indent
  else if c = '\'' then pen.put "''"
  else plainChar indent split pen place

def letterEscapes : List (Char × String) := [
  ('\x00', "0"), ('\x07', "a"), ('\x08', "b"), ('\t', "t"), ('\n', "n"), ('\x0b', "v"),
  ('\x0c', "f"), ('\r', "r"), ('\x1b', "e"), ('"', "\""), ('\\', "\\"), ('\x85', "N"),
  ('\xa0', "_"), ('\u2028', "L"), ('\u2029', "P")]

/-- The escape of a character that is not written as itself. -/
def escape? (c : Char) : Option String :=
  match letterEscapes.lookup c with
  | some letter => some ("\\" ++ letter)
  | none =>
    let code := c.toNat
    if 0x20 ≤ code ∧ code ≤ 0x7E then none
    else if code ≤ 0xFF then some ("\\x" ++ Hex.padded 2 code)
    else if code ≤ 0xFFFF then some ("\\u" ++ Hex.padded 4 code)
    else some ("\\U" ++ Hex.padded 8 code)

/-- Ends a line inside double quotes; a blank at the start of the next one is escaped. -/
def foldDouble (indent : Nat) (pen : Pen) (next : Option Char) : Pen :=
  let pen := (pen.put "\\").indentTo indent
  if next = some ' ' then pen.put "\\" else pen

/-- Double-quoted texts are folded before a blank and around an escape, but not next to a quote. -/
def doubleChar (indent : Nat) (split : Bool) (pen : Pen)
    (place : Option Char × Char × Option Char) : Pen :=
  let (previous, c, next) := place
  let inside := split && previous.isSome && next.isSome
  match escape? c with
  | some escape =>
    let pen := pen.put escape
    if inside && width + 1 < pen.column then foldDouble indent pen next else pen
  | none =>
    let afterEscape := ((previous.bind escape?).isSome : Bool)
    let pen :=
      if inside && (c = ' ' || afterEscape) && width < pen.column then
        foldDouble indent pen (some c)
      else pen
    pen.put (.singleton c)

/-- Writes a text; the lines it is folded into begin at `indent`. -/
def writeText (pen : Pen) (indent : Nat) (onKeyLine : Bool) (text : String) : Pen :=
  let places := neighbours none text.toList
  let split := !onKeyLine
  match style onKeyLine text with
  | .plain =>
    let pen := if pen.afterBlank then pen else pen.put " "
    { places.foldl (plainChar indent split) pen with afterBlank := false, inIndent := false }
  | .single => (places.foldl (singleChar indent split) (pen.mark "'" true)).mark "'" false
  | .double => (places.foldl (doubleChar indent split) (pen.mark "\"" true)).mark "\"" false

/-- A key on one line with its value is shorter than this, its type tag counted. -/
def maxKeyLength : Nat := 128 - "!!str".length

def isLineKey (key : String) : Bool :=
  key.length < maxKeyLength && key ≠ "" && !hasLines key.toList

/-- The key of an entry, up to where its value stands. -/
def writeKey (pen : Pen) (indent : Nat) (key : String) : Pen :=
  let pen := pen.indentTo indent
  if isLineKey key then
    (writeText pen (indent + indentStep) true key).mark ":" false
  else
    let pen := writeText (pen.mark "?" true false true) (indent + indentStep) false key
    (pen.indentTo indent).mark ":" true false true

mutual

def writeTree (pen : Pen) (indent : Nat) : Tree → Pen
  | .text value => writeText pen indent false value
  | .map [] => (pen.mark "\x7b" true true).mark "\x7d" false
  | .map (entry :: entries) => writeEntries pen indent (entry :: entries)

def writeEntries (pen : Pen) (indent : Nat) : List (String × Tree) → Pen
  | [] => pen
  | (key, value) :: entries =>
    let pen := writeTree (writeKey pen indent key) (indent + indentStep) value
    writeEntries pen indent entries

end

end Written

/-- The text of a document, ended by a line feed. -/
def Tree.written (tree : Tree) : String :=
  ((Written.writeTree {} 0 tree).indentTo 0).output

end ModPack.Yaml
