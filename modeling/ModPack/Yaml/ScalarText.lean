import ModPack.Yaml.Cell

/-!
# The texts of scalars

Reading the text of a plain, quoted or block scalar from where it stands, with its line breaks
folded as its style asks. A single line feed between two lines of a plain or quoted scalar is a
space; each further break is kept.
-/
namespace ModPack.Yaml

/-- A line break with the breaks after it, folded. -/
def foldBreaks (first : Char) (more : List Char) : List Char :=
  if first ≠ '\n' then first :: more else if more = [] then [' '] else more

/-! ## Plain scalars -/

def flowIndicators : List Char := [',', '[', ']', '\x7b', '\x7d']

/-- Whether a plain scalar stops before a character, given the one after it. -/
def endsPlain (inFlow : Bool) (c next : Char) : Bool :=
  isGapOrTab c ||
    (c == ':' && (isGapOrTab next || (inFlow && flowIndicators.contains next))) ||
    (inFlow && (c == '?' || flowIndicators.contains c))

/-- The characters up to the next gap or indicator. -/
def plainChunk (inFlow : Bool) : Cells → List Char × Cells
  | [] => ([], [])
  | cell :: rest =>
    if endsPlain inFlow cell.char (Cells.peek rest) then ([], cell :: rest)
    else
      let (chunk, after) := plainChunk inFlow rest
      (cell.char :: chunk, after)

/-- The breaks and spaces between two lines of a plain scalar: the breaks, or nothing when a
document mark ends the scalar. -/
def plainBreaks : Cells → Option (List Char) × Cells
  | [] => (some [], [])
  | cell :: rest =>
    if cell.char = ' ' then plainBreaks rest
    else match _ : Cells.break? (cell :: rest) with
      | none => (some [], cell :: rest)
      | some (c, after) =>
        if after.atDocumentMark then (none, after)
        else
          let (more, after) := plainBreaks after
          (more.map (c :: ·), after)
termination_by cells => cells.length
decreasing_by
  · simp
  · exact Cells.length_break? ‹_›

/-- What lies between two chunks of a plain scalar: its folded text, empty when the scalar ends,
and whether it has a line break. -/
structure PlainGap where
  text : List Char
  newLine : Bool
  rest : Cells

def plainGap (cells : Cells) : PlainGap :=
  let spaces := cells.take (· == ' ')
  let cells := cells.skipSpaces
  match cells.break? with
  | none => ⟨spaces, false, cells⟩
  | some (c, after) =>
    if after.atDocumentMark then ⟨[], true, after⟩
    else
      match plainBreaks after with
      | (none, after) => ⟨[], true, after⟩
      | (some more, after) => ⟨foldBreaks c more, true, after⟩

/-- The rest of a plain scalar whose text so far is `before`, with the gap read last. A line that is
indented less than `indent` is not part of it. -/
def plainText (inFlow : Bool) (indent : Int) (before gap : List Char) (newLine : Bool)
    (cells : Cells) : PlainGap :=
  let (chunk, after) := plainChunk inFlow cells
  if cells.peek = '#' ∨ chunk = [] then ⟨before, newLine, cells⟩
  else
    let text := before ++ gap ++ chunk
    let next := plainGap after
    if next.text = [] ∨ (!inFlow ∧ (next.rest.column : Int) < indent) then
      ⟨text, next.newLine, next.rest⟩
    else if next.rest.length < cells.length then
      plainText inFlow indent text next.text next.newLine next.rest
    else ⟨text, next.newLine, next.rest⟩
termination_by cells.length

/-! ## Quoted scalars -/

/-- The line breaks inside a quoted scalar after the first, with the blanks around them skipped. A
document mark cannot stand there. -/
def quotedBreaks (cells : Cells) : Except Error (List Char × Cells) :=
  if cells.atDocumentMark then .error .malformed
  else
    match _ : (cells.skip isSpaceOrTab).break? with
    | none => .ok ([], cells.skip isSpaceOrTab)
    | some (c, rest) => do
      let (more, rest) ← quotedBreaks rest
      return (c :: more, rest)
termination_by cells.length
decreasing_by
  exact Nat.lt_of_lt_of_le (Cells.length_break? ‹_›) (cells.length_skip_le isSpaceOrTab)

/-- A run of blanks and breaks inside a quoted scalar, folded. -/
def quotedGap (cells : Cells) : Except Error (List Char × Cells) := do
  let after := cells.skip isSpaceOrTab
  if after.peek = endMark then throw .malformed
  match after.break? with
  | none => return (cells.take isSpaceOrTab, after)
  | some (c, rest) =>
    let (more, rest) ← quotedBreaks rest
    return (foldBreaks c more, rest)

/-- What the letters after a backslash stand for. -/
def escapes : List (Char × Char) := [
  ('0', '\x00'), ('a', '\x07'), ('b', '\x08'), ('t', '\t'), ('\t', '\t'), ('n', '\n'),
  ('v', '\x0b'), ('f', '\x0c'), ('r', '\r'), ('e', '\x1b'), (' ', ' '), ('"', '"'),
  ('\\', '\\'), ('/', '/'), ('N', '\x85'), ('_', '\xa0'), ('L', '\u2028'), ('P', '\u2029')]

/-- How many hexadecimal digits follow the letter of a code escape. -/
def codeWidth? : Char → Option Nat
  | 'x' => some 2
  | 'u' => some 4
  | 'U' => some 8
  | _ => none

/-- The character of a code; half of a surrogate pair has none and becomes the replacement
character. -/
def charOfCode (code : Nat) : Except Error Char :=
  if 0x10FFFF < code then .error .codePoint
  else if 0xD800 ≤ code ∧ code ≤ 0xDFFF then .ok '\ufffd'
  else .ok (Char.ofNat code)

/-- Reads what stands behind a backslash. -/
def escape (cells : Cells) : Except Error (List Char × Cells) := do
  let c := cells.peek
  if let some meaning := escapes.lookup c then return ([meaning], cells.tail)
  if let some width := codeWidth? c then
    let digits := (cells.tail.map (·.char)).take width
    let some code := if digits.length = width then Hex.value? digits else none
      | throw .malformed
    return ([← charOfCode code], cells.tail.drop width)
  match cells.break? with
  | none => throw .malformed
  | some (_, rest) => quotedBreaks rest

/-- The text of a quoted scalar up to its closing quote, and the cells after that. -/
def quotedText (double : Bool) (cells : Cells) : Except Error (List Char × Cells) :=
  match cells with
  | [] => .error .malformed
  | cell :: rest =>
    let c := cell.char
    if c = (if double then '"' else '\'') then
      if !double ∧ Cells.peek rest = '\'' then do
        let (text, after) ← quotedText double rest.tail
        return ('\'' :: text, after)
      else .ok ([], rest)
    else if isGapOrTab c then do
      let (gap, after) ← quotedGap (cell :: rest)
      if after.length ≤ rest.length then
        let (text, after) ← quotedText double after
        return (gap ++ text, after)
      else throw .malformed
    else if double ∧ c = '\\' then do
      let (meaning, after) ← escape rest
      if after.length ≤ rest.length then
        let (text, after) ← quotedText double after
        return (meaning ++ text, after)
      else throw .malformed
    else do
      let (text, after) ← quotedText double rest
      return (c :: text, after)
termination_by cells.length
decreasing_by all_goals simp only [List.length_cons, List.length_tail]; omega

/-! ## Block scalars -/

/-- What happens to the line breaks at the end of a block scalar. -/
inductive Chomp
  | clip
  | strip
  | keep
  deriving DecidableEq, Repr

structure BlockHeader where
  chomp : Chomp := .clip
  increment : Option Nat := none

def chompOf? : Char → Option Chomp
  | '+' => some .keep
  | '-' => some .strip
  | _ => none

/-- Reads the marks behind `|` or `>`, in either order, and the rest of their line. -/
def blockHeader (cells : Cells) : Except Error (BlockHeader × Cells) := do
  let digit? (cells : Cells) : Except Error (Option Nat × Cells) :=
    let c := cells.peek
    if c = '0' then .error .malformed
    else if c.isDigit then .ok (some (c.toNat - 48), cells.tail)
    else .ok (none, cells)
  let (header, cells) : BlockHeader × Cells ← match chompOf? cells.peek with
    | some chomp => do
      let (increment, cells) ← digit? cells.tail
      pure (⟨chomp, increment⟩, cells)
    | none => do
      let (increment, cells) ← digit? cells
      if increment.isNone then pure (⟨.clip, none⟩, cells)
      else match chompOf? cells.peek with
        | some chomp => pure (⟨chomp, increment⟩, cells.tail)
        | none => pure (⟨.clip, increment⟩, cells)
  if !isGap cells.peek then throw .malformed
  match cells.endOfLine? with
  | none => throw .malformed
  | some cells => return (header, cells)

/-- The empty lines before the first line of a block scalar: their breaks, and the deepest column
that spaces reach. -/
def blockIndentation (deepest : Nat) : Cells → List Char × Nat × Cells
  | [] => ([], deepest, [])
  | cell :: rest =>
    if cell.char = ' ' then blockIndentation (max deepest (Cells.column rest)) rest
    else match _ : Cells.break? (cell :: rest) with
      | none => ([], deepest, cell :: rest)
      | some (c, after) =>
        let (more, deepest, after) := blockIndentation deepest after
        (c :: more, deepest, after)
termination_by cells => cells.length
decreasing_by
  · simp
  · exact Cells.length_break? ‹_›

/-- The breaks of empty lines, with at most `indent` columns of spaces skipped on each. -/
def blockBreaks (indent : Nat) (cells : Cells) : List Char × Cells :=
  match _ : (cells.skipIndent indent).break? with
  | none => ([], cells.skipIndent indent)
  | some (c, rest) =>
    let (more, rest) := blockBreaks indent rest
    (c :: more, rest)
termination_by cells.length
decreasing_by
  exact Nat.lt_of_lt_of_le (Cells.length_break? ‹_›) (cells.length_skipIndent_le indent)

/-- The lines of a block scalar: their text, the break of the last one and the breaks after it. -/
structure BlockBody where
  text : List Char
  lastBreak : List Char
  trailing : List Char
  rest : Cells

/-- Reads the lines at column `indent`. In a folded scalar a line feed between two lines that begin
with no blank is a space. -/
def blockLines (folded : Bool) (indent : Nat) (breaks : List Char) (cells : Cells) : BlockBody :=
  let atLine (cells : Cells) : Bool := cells.column == indent && cells.peek != endMark
  if !atLine cells then ⟨[], [], breaks, cells⟩
  else
    let line := cells.take (!isBreakOrEnd ·)
    let after := cells.skip (!isBreakOrEnd ·)
    let (lastBreak, after) := match after.break? with
      | none => ([], after)
      | some (c, after) => ([c], after)
    let (next, after) := blockBreaks indent after
    if !atLine after then ⟨breaks ++ line, lastBreak, next, after⟩
    else
      let glue :=
        if folded && lastBreak = ['\n'] && !isSpaceOrTab cells.peek &&
            !isSpaceOrTab after.peek then
          if next = [] then [' '] else []
        else lastBreak
      if after.length < cells.length then
        let body := blockLines folded indent next after
        { body with text := breaks ++ line ++ glue ++ body.text }
      else ⟨breaks ++ line, lastBreak, next, after⟩
termination_by cells.length

/-- The text of a block scalar, read from behind its `|` or `>`; `parentIndent` is the indentation
of the collection around it. -/
def blockText (folded : Bool) (parentIndent : Int) (cells : Cells) :
    Except Error (List Char × Cells) := do
  let (header, cells) ← blockHeader cells
  let least := max (parentIndent + 1).toNat 1
  let (breaks, indent, cells) := match header.increment with
    | none =>
      let (breaks, deepest, cells) := blockIndentation 0 cells
      (breaks, max least deepest, cells)
    | some increment =>
      let indent := least + increment - 1
      let (breaks, cells) := blockBreaks indent cells
      (breaks, indent, cells)
  let body := blockLines folded indent breaks cells
  let tail := match header.chomp with
    | .strip => []
    | .clip => body.lastBreak
    | .keep => body.lastBreak ++ body.trailing
  return (body.text ++ tail, body.rest)

end ModPack.Yaml
