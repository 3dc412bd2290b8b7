import ModPack.Decimal.Text
import ModPack.Yaml.ScalarText

/-!
# Tokens of YAML texts

A text becomes a list of tokens. Indentation of block collections turns into start and end tokens,
as brackets do for flow collections. Whether a scalar is a mapping key shows only at the colon
behind it, so the places where a key may have begun are remembered, one for each flow level, and
the key token is put there afterwards.
-/
namespace ModPack.Yaml

inductive Directive
  | version (major minor : Nat)
  | tag (handle meaning : String)
  | unknown
  deriving DecidableEq, Repr

inductive Token
  | directive (directive : Directive)
  | documentStart
  | documentEnd
  | blockSequenceStart
  | blockMappingStart
  | blockEnd
  | flowSequenceStart
  | flowSequenceEnd
  | flowMappingStart
  | flowMappingEnd
  | flowEntry
  | blockEntry
  | key
  | value
  | alias (name : String)
  | anchor (name : String)
  /-- A tag with the handle before its suffix, if it has one. -/
  | tag (handle : Option String) (suffix : String)
  | scalar (text : String) (plain : Bool)
  deriving DecidableEq, Repr

/-- A place where a mapping key may have begun. -/
structure KeyPlace where
  /-- How many tokens stand before it. -/
  token : Nat
  /-- The indentation leaves no other reading. -/
  required : Bool
  index : Nat
  line : Nat
  column : Nat
  deriving DecidableEq, Repr

/-- A scan between two tokens. `indents` holds the indentations of the open block collections,
innermost first, and `keyPlaces` one possible key for each flow level. -/
structure Scan where
  cells : Cells
  flowLevel : Nat := 0
  indent : Int := -1
  indents : List Int := []
  keyAllowed : Bool := true
  keyPlaces : List (Nat × KeyPlace) := []
  tokens : Array Token := #[]

/-! ## Words after an indicator -/

def isWordChar (c : Char) : Bool :=
  c.isAlphanum || c == '-' || c == '_'

def isAddressChar (c : Char) : Bool :=
  c.isAlphanum || "-;/?:@&=+$,_.!~*'()[]%".toList.contains c

/-- The name of an anchor or alias. -/
def anchorName (cells : Cells) : Except Error (String × Cells) :=
  let name := cells.take isWordChar
  let rest := cells.skip isWordChar
  let c := rest.peek
  if name = [] ∨ !(isGapOrTab c || "?:,]\x7d%@".toList.contains c || c == '\x60') then
    .error .malformed
  else .ok (.ofList name, rest)

/-- Characters written by their bytes, each behind a percent sign. -/
def percentBytes : Cells → Except Error (List UInt8 × Cells)
  | mark :: high :: low :: rest => do
    if mark.char ≠ '%' then return ([], mark :: high :: low :: rest)
    let some byte := Hex.value? [high.char, low.char] | throw .malformed
    let (more, rest) ← percentBytes rest
    return (UInt8.ofNat byte :: more, rest)
  | cells => if cells.peek = '%' then .error .malformed else .ok ([], cells)

/-- A tag address, with its percent escapes read. -/
def address (cells : Cells) : Except Error (List Char × Cells) :=
  let plain := cells.take fun c => isAddressChar c && c != '%'
  let rest := cells.skip fun c => isAddressChar c && c != '%'
  if rest.peek ≠ '%' then .ok (plain, rest)
  else do
    let (bytes, after) ← percentBytes rest
    let .ok text := Utf8.decode ⟨bytes.toArray⟩ | throw .malformed
    if after.length < cells.length then
      let (more, after) ← address after
      return (plain ++ text.toList ++ more, after)
    else throw .malformed
termination_by cells.length

def nonemptyAddress (cells : Cells) : Except Error (String × Cells) := do
  let (text, rest) ← address cells
  if text = [] then throw .malformed
  return (.ofList text, rest)

/-- A tag handle: `!`, or a word between two of them. -/
def tagHandle (cells : Cells) : Except Error (String × Cells) :=
  if cells.peek ≠ '!' then .error .malformed
  else if cells.peek 1 = ' ' then .ok ("!", cells.tail)
  else
    let name := Cells.take cells.tail isWordChar
    let rest := Cells.skip cells.tail isWordChar
    if rest.peek = '!' then .ok (.ofList ('!' :: name ++ ['!']), rest.tail) else .error .malformed

def tagToken (cells : Cells) : Except Error (Token × Cells) := do
  let c := cells.peek 1
  let (token, rest) : Token × Cells ←
    if c = '<' then do
      let (suffix, rest) ← nonemptyAddress (cells.drop 2)
      if rest.peek ≠ '>' then throw .malformed
      pure (.tag none suffix, rest.tail)
    else if isGapOrTab c then pure (.tag none "!", cells.tail)
    else do
      let word := Cells.take cells.tail (!isGap ·)
      let (handle, rest) ← if word.contains '!' then tagHandle cells else pure ("!", cells.tail)
      let (suffix, rest) ← nonemptyAddress rest
      pure (.tag (some handle) suffix, rest)
  if !isGap rest.peek then throw .malformed
  return (token, rest)

/-- A number of a version directive. -/
def versionNumber (cells : Cells) : Except Error (Nat × Cells) :=
  match Decimal.natOfDigits? (cells.take Char.isDigit), cells.peek.isDigit with
  | some number, true => .ok (number, cells.skip Char.isDigit)
  | _, _ => .error .malformed

def directiveValue (name : List Char) (cells : Cells) : Except Error (Directive × Cells) := do
  if name = "YAML".toList then
    let (major, rest) ← versionNumber cells.skipSpaces
    if rest.peek ≠ '.' then throw .malformed
    let (minor, rest) ← versionNumber rest.tail
    if !isGap rest.peek then throw .malformed
    return (.version major minor, rest)
  else if name = "TAG".toList then
    let (handle, rest) ← tagHandle cells.skipSpaces
    if rest.peek ≠ ' ' then throw .malformed
    let (meaning, rest) ← nonemptyAddress rest.skipSpaces
    if !isGap rest.peek then throw .malformed
    return (.tag handle meaning, rest)
  else return (.unknown, cells.skip (!isBreakOrEnd ·))

def directiveLine (cells : Cells) : Except Error (Directive × Cells) := do
  let name := cells.take isWordChar
  let rest := cells.skip isWordChar
  if name = [] ∨ !isGap rest.peek then throw .malformed
  let (directive, rest) ← directiveValue name rest
  let some rest := rest.endOfLine? | throw .malformed
  return (directive, rest)

namespace Scan

def push (s : Scan) (token : Token) : Scan :=
  { s with tokens := s.tokens.push token }

/-- Adds a token and goes past `width` cells. -/
def take (s : Scan) (token : Token) (width : Nat := 1) : Scan :=
  { s.push token with cells := s.cells.drop width }

/-! ## Places of keys -/

def place? (s : Scan) : Option KeyPlace :=
  s.keyPlaces.lookup s.flowLevel

/-- Gives up the possible key of the current flow level. -/
def dropPlace (s : Scan) : Except Error Scan :=
  match s.place? with
  | none => .ok s
  | some place =>
    if place.required then .error .malformed
    else .ok { s with keyPlaces := s.keyPlaces.filter (·.1 ≠ s.flowLevel) }

/-- Remembers that the next token may begin a key. -/
def savePlace (s : Scan) : Except Error Scan := do
  if !s.keyAllowed then return s
  let s ← s.dropPlace
  let cell := s.cells.head?.getD default
  let place : KeyPlace := {
    token := s.tokens.size
    required := s.flowLevel = 0 ∧ s.indent = cell.column
    index := cell.index
    line := cell.line
    column := cell.column }
  return { s with keyPlaces := (s.flowLevel, place) :: s.keyPlaces }

/-- A key lies on one line and is not longer than this. -/
def maxKeyLength : Nat := 1024

/-- Gives up the possible keys that the current place is too far from. -/
def dropStale (s : Scan) : Except Error Scan :=
  let cell := s.cells.head?.getD default
  let stale (place : KeyPlace) : Bool :=
    place.line ≠ cell.line || maxKeyLength < cell.index - place.index
  if s.keyPlaces.any fun (_, place) => stale place && place.required then .error .malformed
  else .ok { s with keyPlaces := s.keyPlaces.filter fun (_, place) => !stale place }

/-! ## Indentation -/

/-- Closes the block collections that are indented deeper than `column`. -/
def unwind (s : Scan) (column : Int) : Scan :=
  if s.flowLevel ≠ 0 then s
  else
    let rec close (indent : Int) (indents : List Int) (tokens : Array Token) : Scan :=
      match indents with
      | outer :: indents =>
        if column < indent then close outer indents (tokens.push .blockEnd)
        else { s with indent, indents := outer :: indents, tokens }
      | [] => { s with indent, indents := [], tokens }
    close s.indent s.indents s.tokens

/-- Opens a block collection at a column that is deeper than the current one. -/
def indentTo (s : Scan) (column : Nat) (start : Token) (position : Nat) : Scan :=
  if s.indent < column then
    { s with
      indents := s.indent :: s.indents
      indent := column
      tokens := s.tokens.insertIdxIfInBounds position start }
  else s

/-! ## Tokens -/

def skipBlankLines (inFlow : Bool) (keyAllowed : Bool) (cells : Cells) : Bool × Cells :=
  let after := cells.skipSpaces
  let after := if after.peek = '#' then after.skip (!isBreakOrEnd ·) else after
  match after.break? with
  | none => (keyAllowed, after)
  | some (_, rest) =>
    if rest.length < cells.length then skipBlankLines inFlow (keyAllowed || !inFlow) rest
    else (keyAllowed, rest)
termination_by cells.length

/-- Goes to the next token; a key may begin on a new line. -/
def toNextToken (s : Scan) : Scan :=
  let cells := match s.cells with
    | first :: rest =>
      if first.index = 0 ∧ first.char = byteOrderMark then rest else first :: rest
    | [] => []
  let (keyAllowed, cells) := skipBlankLines (s.flowLevel ≠ 0) s.keyAllowed cells
  { s with keyAllowed, cells }

def documentMark (s : Scan) (token : Token) : Except Error Scan := do
  let s ← (s.unwind (-1)).dropPlace
  return { s with keyAllowed := false }.take token 3

def directiveToken (s : Scan) : Except Error Scan := do
  let s ← (s.unwind (-1)).dropPlace
  let (directive, rest) ← directiveLine s.cells.tail
  return { s.push (.directive directive) with keyAllowed := false, cells := rest }

def openFlow (s : Scan) (token : Token) : Except Error Scan := do
  let s ← s.savePlace
  return { s with flowLevel := s.flowLevel + 1, keyAllowed := true }.take token

/-- A closing bracket without an opening one cannot stand anywhere. -/
def closeFlow (s : Scan) (token : Token) : Except Error Scan := do
  let s ← s.dropPlace
  if s.flowLevel = 0 then throw .malformed
  return { s with flowLevel := s.flowLevel - 1, keyAllowed := false }.take token

def entrySeparator (s : Scan) : Except Error Scan := do
  let s ← { s with keyAllowed := true }.dropPlace
  return s.take .flowEntry

def entryMark (s : Scan) : Except Error Scan := do
  if s.flowLevel = 0 ∧ !s.keyAllowed then throw .malformed
  let s := if s.flowLevel = 0 then
      s.indentTo s.cells.column .blockSequenceStart s.tokens.size
    else s
  let s ← { s with keyAllowed := true }.dropPlace
  return s.take .blockEntry

def keyMark (s : Scan) : Except Error Scan := do
  if s.flowLevel = 0 ∧ !s.keyAllowed then throw .malformed
  let s := if s.flowLevel = 0 then
      s.indentTo s.cells.column .blockMappingStart s.tokens.size
    else s
  let s ← { s with keyAllowed := s.flowLevel = 0 }.dropPlace
  return s.take .key

/-- A colon: what began at the remembered place was a key, or the key was marked before. -/
def valueMark (s : Scan) : Except Error Scan := do
  match s.place? with
  | some place =>
    let s := { s with
      keyPlaces := s.keyPlaces.filter (·.1 ≠ s.flowLevel)
      tokens := s.tokens.insertIdxIfInBounds place.token .key }
    let s := if s.flowLevel = 0 then s.indentTo place.column .blockMappingStart place.token else s
    return { s with keyAllowed := false }.take .value
  | none =>
    if s.flowLevel = 0 ∧ !s.keyAllowed then throw .malformed
    let s := if s.flowLevel = 0 then
        s.indentTo s.cells.column .blockMappingStart s.tokens.size
      else s
    let s ← { s with keyAllowed := s.flowLevel = 0 }.dropPlace
    return s.take .value

/-- A token that may begin a key and that no key may follow at once. -/
def word (s : Scan) (read : Cells → Except Error (Token × Cells)) : Except Error Scan := do
  let s ← s.savePlace
  let (token, cells) ← read s.cells
  return { s.push token with keyAllowed := false, cells }

def quotedScalar (s : Scan) (double : Bool) : Except Error Scan :=
  s.word fun cells => do
    let (text, rest) ← quotedText double cells.tail
    return (.scalar (.ofList text) false, rest)

def blockScalar (s : Scan) (folded : Bool) : Except Error Scan := do
  let s ← { s with keyAllowed := true }.dropPlace
  let (text, cells) ← blockText folded s.indent s.cells.tail
  return { s.push (.scalar (.ofList text) false) with cells }

def plainScalar (s : Scan) : Except Error Scan := do
  let s ← s.savePlace
  let scalar := plainText (s.flowLevel ≠ 0) (s.indent + 1) [] [] false s.cells
  return { s.push (.scalar (.ofList scalar.text) true) with
    keyAllowed := scalar.newLine, cells := scalar.rest }

/-- Characters that cannot begin a plain scalar. -/
def indicators : List Char :=
  "-?:,[]\x7b\x7d#&*!|>'\"%@".toList ++ ['\x60']

def startsPlain (s : Scan) (c next : Char) : Bool :=
  !(isGapOrTab c || indicators.contains c) ||
    (!isGapOrTab next && (c == '-' || (s.flowLevel = 0 && (c == '?' || c == ':'))))

/-- Reads the token that begins with `c`, before `next`. -/
def token (s : Scan) (c next : Char) : Except Error Scan :=
  let inFlow : Bool := s.flowLevel ≠ 0
  let atLineStart : Bool := s.cells.column = 0
  if c = '%' ∧ atLineStart then s.directiveToken
  else if atLineStart ∧ s.cells.atMark '-' then s.documentMark .documentStart
  else if atLineStart ∧ s.cells.atMark '.' then s.documentMark .documentEnd
  else if c = '[' then s.openFlow .flowSequenceStart
  else if c = '\x7b' then s.openFlow .flowMappingStart
  else if c = ']' then s.closeFlow .flowSequenceEnd
  else if c = '\x7d' then s.closeFlow .flowMappingEnd
  else if c = ',' then s.entrySeparator
  else if c = '-' ∧ isGapOrTab next then s.entryMark
  else if c = '?' ∧ (inFlow ∨ isGapOrTab next) then s.keyMark
  else if c = ':' ∧ (inFlow ∨ isGapOrTab next) then s.valueMark
  else if c = '*' then s.word fun cells => do
    let (name, rest) ← anchorName cells.tail
    return (.alias name, rest)
  else if c = '&' then s.word fun cells => do
    let (name, rest) ← anchorName cells.tail
    return (.anchor name, rest)
  else if c = '!' then s.word tagToken
  else if c = '|' ∧ !inFlow then s.blockScalar false
  else if c = '>' ∧ !inFlow then s.blockScalar true
  else if c = '\'' then s.quotedScalar false
  else if c = '"' then s.quotedScalar true
  else if s.startsPlain c next then s.plainScalar
  else .error .malformed

/-- All tokens from here on. Every token takes at least one cell. -/
def run (s : Scan) : Except Error (List Token) := do
  let next := s.toNextToken
  let next ← next.dropStale
  let next := next.unwind next.cells.column
  if next.cells.peek = endMark then
    let last ← (next.unwind (-1)).dropPlace
    return last.tokens.toList
  let after ← next.token next.cells.peek (next.cells.peek 1)
  if after.cells.length < s.cells.length then after.run else throw .malformed
termination_by s.cells.length

end Scan

/-- The tokens of a text. -/
def Token.scan (text : List Char) : Except Error (List Token) :=
  if text.all isAllowed then Scan.run { cells := layOut 0 0 0 text } else .error .malformed

end ModPack.Yaml
