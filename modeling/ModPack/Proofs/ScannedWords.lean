import ModPack.Proofs.ReportResult
import ModPack.Proofs.WrittenWords
import ModPack.Yaml.Token

/-!
# Words in scanned YAML

A line with a key and a word, as both are written, is scanned as a key and that word, and an empty
mapping at the end of a text ends the scan. So scanning a written text goes line by line. Main
statements: `Scan.run_line` and `Scan.run_braces`.
-/
namespace ModPack.Yaml

/-! ## Cells -/

section Cells

variable {index lineNumber column : Nat} {text : List Char} {cell : Cell} {rest after : Cells}

/-- The cells of characters that are on one line. -/
def row (index line column : Nat) : List Char → Cells
  | [] => []
  | c :: rest => ⟨c, index, line, column⟩ :: row (index + 1) line (column + 1) rest

theorem layOut_cons {c : Char} (hbreak : isBreak c = false) (hmark : c ≠ byteOrderMark)
    (text : List Char) : layOut index lineNumber column (c :: text) =
      ⟨c, index, lineNumber, column⟩ :: layOut (index + 1) lineNumber (column + 1) text := by
  simp [layOut, hbreak, hmark]

theorem column_layOut (index line column : Nat) (c : Char) (text : List Char) :
    Cells.column (layOut index line column (c :: text)) = column := rfl

/-- A word lies on one line. -/
theorem layOut_append (h : ∀ c ∈ text, isPlainChar c = true) (back : List Char) :
    layOut index lineNumber column (text ++ back) = row index lineNumber column text ++
      layOut (index + text.length) lineNumber (column + text.length) back := by
  induction text generalizing index column with
  | nil => rfl
  | cons c text ih =>
    obtain ⟨hc, htext⟩ := List.forall_mem_cons.1 h
    rw [List.cons_append, layOut_cons (Written.isBreak_of_isPlainChar hc)
      (ne_of_isPlainChar hc (by decide)), ih htext, row, List.cons_append, List.length_cons]
    simp only [Nat.add_assoc, Nat.add_comm 1]

theorem length_layOut (index line column : Nat) (text : List Char) :
    (layOut index line column text).length = text.length + 1 := by
  induction text generalizing index line column with
  | nil => rfl
  | cons c text ih =>
    rw [layOut, List.length_cons, List.length_cons]
    split <;> rw [ih]

theorem isGapOrTab_of_isPlainChar {c : Char} (h : isPlainChar c = true) : isGapOrTab c = false := by
  have hne (other : Char) (hother : isPlainChar other = false) :=
    beq_eq_false_of_isPlainChar h hother
  simp [isGapOrTab, isGap, isBreakOrEnd, Written.isBreak_of_isPlainChar h, hne '\t' (by decide),
    hne ' ' (by decide), hne endMark (by decide)]

/-- Outside of brackets a plain scalar goes on through a word. -/
theorem plainChunk_word (h : ∀ c ∈ text, isPlainChar c = true)
    (hstop : endsPlain false cell.char (Cells.peek rest) = true) :
    plainChunk false (row index lineNumber column text ++ cell :: rest) = (text, cell :: rest) := by
  induction text generalizing index column with
  | nil => simp [row, plainChunk, hstop]
  | cons c text ih =>
    obtain ⟨hc, htext⟩ := List.forall_mem_cons.1 h
    have hgoes (next : Char) : endsPlain false c next = false := by
      simp [endsPlain, isGapOrTab_of_isPlainChar hc,
        beq_eq_false_of_isPlainChar hc (show isPlainChar ':' = false from rfl)]
    rw [row, List.cons_append, plainChunk, if_neg (by simp [hgoes]), ih htext]

/-- The word ends where the gap behind it leads to nothing that belongs to it. -/
theorem plainText_word {indent : Int} {gap : PlainGap} (hword : Word text)
    (hstop : endsPlain false cell.char (Cells.peek rest) = true)
    (hgap : plainGap (cell :: rest) = gap) (hend : gap.text = [] ∨ (gap.rest.column : Int) < indent) :
    plainText false indent [] [] false (row index lineNumber column text ++ cell :: rest) =
      ⟨text, gap.newLine, gap.rest⟩ := by
  obtain ⟨c, more, rfl⟩ := List.exists_cons_of_ne_nil hword.ne_nil
  have hpeek : Cells.peek (row index lineNumber column (c :: more) ++ cell :: rest) = c := rfl
  have hcomment : c ≠ '#' := ne_of_isPlainChar (hword.plain c List.mem_cons_self) (by decide)
  rw [plainText, plainChunk_word hword.plain hstop, hpeek]
  simp [hcomment, hgap, hend]

/-- Between apostrophes a word is read as it stands. -/
theorem quotedText_word (h : ∀ c ∈ text, isPlainChar c = true) {quote : Cell}
    (hquote : quote.char = '\'') (hnext : Cells.peek rest ≠ '\'') :
    quotedText false (row index lineNumber column text ++ quote :: rest) = .ok (text, rest) := by
  induction text generalizing index column with
  | nil =>
    rw [row, List.nil_append, quotedText]
    simp [hquote, hnext]
  | cons c text ih =>
    obtain ⟨hc, htext⟩ := List.forall_mem_cons.1 h
    have hne : c ≠ '\'' := ne_of_isPlainChar hc (by decide)
    rw [row, List.cons_append, quotedText]
    simp [hne, isGapOrTab_of_isPlainChar hc, ih htext, bind, Except.bind]
    rfl

end Cells

/-! ## Scanning -/

namespace Scan

variable {s next after : Scan} {cell : Cell} {rest : Cells} {index lineNumber column : Nat}
  {text : List Char}

/-- A scan where its next token begins. -/
def arrive (s : Scan) : Except Error Scan := do
  let next ← s.toNextToken.dropStale
  return next.unwind next.cells.column

theorem run_of_token (hnext : s.arrive = .ok next) (hpeek : next.cells.peek ≠ endMark)
    (htoken : next.token next.cells.peek (next.cells.peek 1) = .ok after)
    (hless : after.cells.length < s.cells.length) : s.run = after.run := by
  obtain ⟨fresh, hstale, hunwind⟩ := except_bind_ok.1 hnext
  cases except_pure_ok.1 hunwind
  rw [run]
  simp only [bind, Except.bind, hstale, if_neg hpeek, htoken, if_pos hless]

theorem run_of_end (hnext : s.arrive = .ok next) (hpeek : next.cells.peek = endMark)
    (hlast : (next.unwind (-1)).dropPlace = .ok after) : s.run = .ok after.tokens.toList := by
  obtain ⟨fresh, hstale, hunwind⟩ := except_bind_ok.1 hnext
  cases except_pure_ok.1 hunwind
  rw [run]
  simp only [bind, Except.bind, hstale, if_pos hpeek, hlast]
  rfl

/-- Nothing is skipped in front of such a character. -/
def isSolid (c : Char) : Bool :=
  c != ' ' && c != '#' && !isBreak c && c != byteOrderMark

theorem isSolid_of_isPlainChar {c : Char} (h : isPlainChar c = true) : isSolid c = true := by
  have hne (other : Char) (hother : isPlainChar other = false) := ne_of_isPlainChar h hother
  simp [isSolid, Written.isBreak_of_isPlainChar h, hne ' ' (by decide), hne '#' (by decide),
    hne byteOrderMark (by decide)]

section Solid

variable (hsolid : isSolid cell.char = true)
include hsolid

theorem skipSpaces_solid : Cells.skipSpaces (cell :: rest) = cell :: rest := by
  have hblank : cell.char ≠ ' ' := by
    intro heq
    rw [heq] at hsolid
    cases hsolid
  simp [Cells.skipSpaces, Cells.skip, hblank]

theorem break?_solid : Cells.break? (cell :: rest) = none := by
  simp only [isSolid, isBreak, Bool.and_eq_true, Bool.not_eq_true', Bool.or_eq_false_iff,
    beq_eq_false_iff_ne] at hsolid
  simp [Cells.break?, hsolid.1.2]

theorem peek_solid : Cells.peek (cell :: rest) ≠ '#' := by
  intro heq
  rw [show cell.char = '#' from heq] at hsolid
  cases hsolid

/-- Behind such a character a plain scalar does not go on. -/
theorem plainGap_solid : plainGap (cell :: rest) = ⟨[], false, cell :: rest⟩ := by
  have htake : Cells.take (cell :: rest) (· == ' ') = [] := by
    have hblank : cell.char ≠ ' ' := by
      intro heq
      rw [heq] at hsolid
      cases hsolid
    simp [Cells.take, hblank]
  rw [plainGap, htake, skipSpaces_solid hsolid, break?_solid hsolid]

theorem skipBlankLines_solid (inFlow keyAllowed : Bool) :
    skipBlankLines inFlow keyAllowed (cell :: rest) = (keyAllowed, cell :: rest) := by
  rw [skipBlankLines, skipSpaces_solid hsolid, if_neg (peek_solid hsolid), break?_solid hsolid]

theorem skipBlankLines_blank (inFlow keyAllowed : Bool) :
    skipBlankLines inFlow keyAllowed (⟨' ', index, lineNumber, column⟩ :: cell :: rest) =
      (keyAllowed, cell :: rest) := by
  have hspaces : Cells.skipSpaces (⟨' ', index, lineNumber, column⟩ :: cell :: rest) =
      Cells.skipSpaces (cell :: rest) := rfl
  rw [skipBlankLines, hspaces, skipSpaces_solid hsolid, if_neg (peek_solid hsolid),
    break?_solid hsolid]

/-- Behind a line break a key may begin. -/
theorem skipBlankLines_break (keyAllowed : Bool) :
    skipBlankLines false keyAllowed (⟨'\n', index, lineNumber, column⟩ :: cell :: rest) =
      (true, cell :: rest) := by
  have hspaces : Cells.skipSpaces (⟨'\n', index, lineNumber, column⟩ :: cell :: rest) =
      ⟨'\n', index, lineNumber, column⟩ :: cell :: rest := rfl
  have hpeek : Cells.peek (⟨'\n', index, lineNumber, column⟩ :: cell :: rest) ≠ '#' := by
    change '\n' ≠ '#'
    decide
  have hbreak : Cells.break? (⟨'\n', index, lineNumber, column⟩ :: cell :: rest) =
      some ('\n', cell :: rest) := by
    simp [Cells.break?]
  rw [skipBlankLines, hspaces, if_neg hpeek, hbreak]
  simp [skipBlankLines_solid hsolid]

/-- What the scan comes to when its cells begin with such a character, with a blank before it, or
with a line break before it. -/
theorem toNextToken_solid (hcells : s.cells = cell :: rest) : s.toNextToken = s := by
  have hmark : cell.char ≠ byteOrderMark := by
    intro heq
    rw [heq] at hsolid
    cases hsolid
  rw [toNextToken, hcells]
  simp only [hmark, and_false, if_false, skipBlankLines_solid hsolid]
  cases s
  cases hcells
  rfl

theorem toNextToken_blank
    (hcells : s.cells = ⟨' ', index, lineNumber, column⟩ :: cell :: rest) :
    s.toNextToken = { s with cells := cell :: rest } := by
  have hmark : ¬ (index = 0 ∧ ' ' = byteOrderMark) := fun h => absurd h.2 (by decide)
  rw [toNextToken, hcells]
  simp only [hmark, if_false, skipBlankLines_blank hsolid]

theorem toNextToken_break (hflow : s.flowLevel = 0)
    (hcells : s.cells = ⟨'\n', index, lineNumber, column⟩ :: cell :: rest) :
    s.toNextToken = { s with keyAllowed := true, cells := cell :: rest } := by
  have hmark : ¬ (index = 0 ∧ '\n' = byteOrderMark) := fun h => absurd h.2 (by decide)
  rw [toNextToken, hcells]
  simp only [hmark, if_false, hflow, ne_eq, not_true_eq_false, decide_false,
    skipBlankLines_break hsolid]

end Solid

/-- Nothing is closed at a column that is not left of the indentation. -/
theorem unwind_of_le {column : Int} (h : s.indent ≤ column) : s.unwind column = s := by
  rw [unwind]
  split
  · rfl
  · cases s with
    | mk cells flowLevel indent indents keyAllowed keyPlaces tokens =>
      cases indents with
      | nil => rfl
      | cons outer indents =>
        have hnot : ¬ column < indent := Int.not_lt.2 h
        simp [unwind.close, hnot]

/-- Where no key may have begun, none is given up. -/
theorem arrive_of_keyPlaces (hnext : s.toNextToken = next) (hplaces : next.keyPlaces = [])
    (hindent : next.indent ≤ next.cells.column) : s.arrive = .ok next := by
  have hstale : next.dropStale = .ok next := by
    cases next
    cases hplaces
    rfl
  rw [arrive, hnext, hstale]
  exact congrArg Except.ok (unwind_of_le hindent)

/-- A key that stands on the same line is not given up. -/
theorem arrive_of_keyPlace {place : KeyPlace} (hnext : s.toNextToken = next)
    (hplaces : next.keyPlaces = [(0, place)]) (hcells : next.cells = cell :: rest)
    (hline : place.line = cell.line) (hnear : cell.index - place.index ≤ maxKeyLength)
    (hindent : next.indent ≤ cell.column) : s.arrive = .ok next := by
  have hstale : next.dropStale = .ok next := by
    rw [dropStale, hplaces, hcells]
    have hnot : ¬ maxKeyLength < cell.index - place.index := Nat.not_lt.2 hnear
    simp [hline, hnot]
    cases next
    cases hplaces
    cases hcells
    rfl
  have hcolumn : next.cells.column = cell.column := by
    rw [hcells]
    rfl
  rw [arrive, hnext, hstale]
  exact congrArg Except.ok (unwind_of_le (hcolumn ▸ hindent))

/-- Outside of brackets a word begins a plain scalar. -/
theorem token_word (s : Scan) {c : Char} (hc : isPlainChar c = true) (hdot : c ≠ '.')
    (hpeek : s.cells.peek = c) (next : Char) : s.token c next = s.plainScalar := by
  have hne (other : Char) (hother : isPlainChar other = false) := ne_of_isPlainChar hc hother
  have hhyphen : s.cells.atMark '-' = false := by
    simp [Cells.atMark, hpeek, hne '-' (by decide)]
  have hdots : s.cells.atMark '.' = false := by
    simp [Cells.atMark, hpeek, hdot]
  have hindicators : indicators.all (fun other => !isPlainChar other) = true := by decide
  have hstarts : s.startsPlain c next = true := by
    have hnot : c ∉ indicators := fun hmem => by
      have hmark := List.all_eq_true.1 hindicators c hmem
      rw [hc] at hmark
      cases hmark
    simp [startsPlain, isGapOrTab_of_isPlainChar hc, hnot]
  rw [token]
  simp [hhyphen, hdots, hstarts, hne '%' (by decide), hne '[' (by decide), hne ']' (by decide),
    hne '\x7b' (by decide), hne '\x7d' (by decide), hne ',' (by decide), hne '-' (by decide),
    hne '?' (by decide), hne ':' (by decide), hne '*' (by decide), hne '&' (by decide),
    hne '!' (by decide), hne '|' (by decide), hne '>' (by decide), hne '\'' (by decide),
    hne '"' (by decide)]

/-- A token that is put before the last ones. -/
theorem insertIdx_append (tokens more : Array Token) (token : Token) :
    (tokens ++ more).insertIdxIfInBounds tokens.size token = tokens ++ #[token] ++ more := by
  have hlist (front back : List Token) :
      (front ++ back).insertIdx front.length token = front ++ token :: back := by
    induction front with
    | nil => rfl
    | cons first front ih => simp [ih]
  have hbounds : tokens.size ≤ (tokens ++ more).size := by simp
  rw [Array.insertIdxIfInBounds, dif_pos hbounds, ← Array.toList_inj, Array.toList_insertIdx,
    Array.toList_append, ← Array.length_toList, hlist]
  simp

/-- The scan goes on with the text at the start of a line, where a key may begin. -/
structure AtLine (text : List Char) (indent : Int) (indents : List Int) (tokens : Array Token)
    (s : Scan) : Prop where
  place : ∃ index lineNumber, s.toNextToken =
    { cells := layOut index lineNumber 0 text, indent, indents, tokens }
  length : text.length < s.cells.length

/-- The tokens of a key, which begins a mapping where none is open. -/
def keyTokens (indent : Int) (key : List Char) : Array Token :=
  (if indent < 0 then #[.blockMappingStart] else #[]) ++
    #[.key, .scalar (.ofList key) true, .value]

/-- The indentations around what is at the left edge. -/
def atEdge (indent : Int) (indents : List Int) : List Int :=
  if indent < 0 then indent :: indents else indents

theorem token_colon (s : Scan) {next : Char} (hpeek : s.cells.peek = ':')
    (hnext : isGapOrTab next = true) :
    s.token ':' next = s.valueMark := by
  have hhyphen : s.cells.atMark '-' = false := by simp [Cells.atMark, hpeek]
  have hdots : s.cells.atMark '.' = false := by simp [Cells.atMark, hpeek]
  rw [token]
  simp [hhyphen, hdots, hnext]

/-- A plain scalar with the place of a key that it may be. -/
theorem plainScalar_of_keyAllowed {newLine : Bool} {cells : Cells}
    (hscalar : plainText (s.flowLevel ≠ 0) (s.indent + 1) [] [] false s.cells =
      ⟨text, newLine, cells⟩)
    (hallowed : s.keyAllowed = true) (hplaces : s.keyPlaces = []) (hcells : s.cells = cell :: rest) :
    s.plainScalar = .ok
      { s with
        cells
        keyAllowed := newLine
        keyPlaces := [(s.flowLevel,
          { token := s.tokens.size
            required := s.flowLevel = 0 ∧ s.indent = cell.column
            index := cell.index, line := cell.line, column := cell.column })]
        tokens := s.tokens.push (.scalar (.ofList text) true) } := by
  have hsave : s.savePlace = .ok
      { s with
        keyPlaces := [(s.flowLevel,
          { token := s.tokens.size
            required := s.flowLevel = 0 ∧ s.indent = cell.column
            index := cell.index, line := cell.line, column := cell.column })] } := by
    cases s
    cases hallowed
    cases hplaces
    cases hcells
    rfl
  rw [plainScalar, hsave]
  simp only [bind, Except.bind, hscalar]
  rfl

/-- A plain scalar where no key can begin. -/
theorem plainScalar_of_not_keyAllowed {newLine : Bool} {cells : Cells}
    (hscalar : plainText (s.flowLevel ≠ 0) (s.indent + 1) [] [] false s.cells =
      ⟨text, newLine, cells⟩) (hallowed : s.keyAllowed = false) :
    s.plainScalar = .ok
      { s with
        cells
        keyAllowed := newLine
        tokens := s.tokens.push (.scalar (.ofList text) true) } := by
  have hsave : s.savePlace = .ok s := by
    cases s
    cases hallowed
    rfl
  rw [plainScalar, hsave]
  simp only [bind, Except.bind, hscalar]
  rfl

/-- A colon behind what may have been a key makes it one. -/
theorem valueMark_of_keyPlace {place : KeyPlace} {tokens : Array Token} {scalar : Token}
    (hplaces : s.keyPlaces = [(0, place)]) (hflow : s.flowLevel = 0)
    (htokens : s.tokens = tokens.push scalar) (hplace : place.token = tokens.size)
    (hcolumn : place.column = 0) (hindent : s.indent ≤ 0) :
    s.valueMark = .ok
      { s with
        cells := s.cells.drop 1
        indent := 0
        indents := if s.indent < 0 then s.indent :: s.indents else s.indents
        keyAllowed := false
        keyPlaces := []
        tokens := tokens ++ ((if s.indent < 0 then #[.blockMappingStart] else #[]) ++
          #[.key, scalar, .value]) } := by
  obtain ⟨cells, flowLevel, indent, indents, keyAllowed, keyPlaces, held⟩ := s
  obtain ⟨token, required, index, line, column⟩ := place
  subst hplaces hflow htokens hplace hcolumn
  have hkey : (tokens.push scalar).insertIdxIfInBounds tokens.size .key =
      tokens ++ #[.key, scalar] := by
    have hinsert := insertIdx_append tokens #[scalar] .key
    rwa [Array.append_singleton, Array.append_assoc] at hinsert
  have hstart : (tokens ++ #[.key, scalar]).insertIdxIfInBounds tokens.size .blockMappingStart =
      tokens ++ #[.blockMappingStart, .key, scalar] := by
    have hinsert := insertIdx_append tokens #[.key, scalar] .blockMappingStart
    rwa [Array.append_assoc] at hinsert
  by_cases hopens : indent < 0
  · simp [valueMark, place?, hkey, indentTo, hopens, hstart, take, push, pure, Except.pure]
  · have hzero : indent = 0 := Int.le_antisymm hindent (Int.not_lt.1 hopens)
    simp [valueMark, place?, hkey, indentTo, hzero, take, push, pure, Except.pure]

/-- The scan goes on at the colon behind a word that may be a key. -/
structure AtColon (key back : List Char) (indent : Int) (indents : List Int)
    (tokens : Array Token) (colon : Cell) (place : KeyPlace) (s : Scan) : Prop where
  scan : ∃ index lineNumber column, s =
    { cells := colon :: layOut index lineNumber column (' ' :: back)
      indent, indents
      keyAllowed := false
      keyPlaces := [(0, place)]
      tokens := tokens.push (.scalar (.ofList key) true) }
  char : colon.char = ':'
  line : place.line = colon.line
  near : colon.index - place.index ≤ maxKeyLength
  left : indent ≤ colon.column
  token : place.token = tokens.size
  column : place.column = 0

variable {key back : List Char} {indent : Int} {indents : List Int} {tokens : Array Token}

theorem peek_blank (index lineNumber column : Nat) (back : List Char) :
    Cells.peek (layOut index lineNumber column (' ' :: back)) = ' ' := by
  rw [layOut_cons (by decide) (by decide)]
  rfl

/-- A word at the start of a line may be a key. -/
theorem run_to_colon (hkey : Word key) (hlength : key.length ≤ maxKeyLength)
    (hindent : indent ≤ 0) (hs : AtLine (key ++ ':' :: ' ' :: back) indent indents tokens s) :
    ∃ colon place next, s.run = next.run ∧
      AtColon key back indent indents tokens colon place next := by
  obtain ⟨⟨index, lineNumber, hplace⟩, hmore⟩ := hs
  obtain ⟨c, more, rfl⟩ := List.exists_cons_of_ne_nil hkey.ne_nil
  have hc : isPlainChar c = true := hkey.plain c List.mem_cons_self
  have hdot : c ≠ '.' := hkey.head c rfl
  have hcolon : layOut (index + (c :: more).length) lineNumber (0 + (c :: more).length)
      (':' :: ' ' :: back) =
        ⟨':', index + (c :: more).length, lineNumber, 0 + (c :: more).length⟩ ::
          layOut (index + (c :: more).length + 1) lineNumber (0 + (c :: more).length + 1)
            (' ' :: back) :=
    layOut_cons (by decide) (by decide) _
  rw [layOut_append hkey.plain, hcolon] at hplace
  have hsolid : isSolid ':' = true := by decide
  let start : Scan :=
    { cells := row index lineNumber 0 (c :: more) ++
        ⟨':', index + (c :: more).length, lineNumber, 0 + (c :: more).length⟩ ::
          layOut (index + (c :: more).length + 1) lineNumber (0 + (c :: more).length + 1)
            (' ' :: back)
      indent, indents, tokens }
  have hscalar : plainText false (indent + 1) [] [] false start.cells = ⟨c :: more, false, _⟩ :=
    plainText_word hkey (by rw [peek_blank]; rfl) (plainGap_solid hsolid) (.inl rfl)
  have htoken : start.token start.cells.peek (start.cells.peek 1) = start.plainScalar :=
    token_word start hc hdot rfl _
  have hlengths := length_layOut (index + (c :: more).length + 1) lineNumber
    (0 + (c :: more).length + 1) (' ' :: back)
  simp only [List.length_append, List.length_cons] at hmore hlengths
  have hrun := run_of_token (arrive_of_keyPlaces hplace rfl hindent)
    (ne_of_isPlainChar hc (by decide))
    (htoken.trans (plainScalar_of_keyAllowed hscalar rfl rfl rfl))
    (by simp only [List.length_cons]; omega)
  refine ⟨_, _, _, hrun, ⟨_, _, _, rfl⟩, rfl, rfl, ?_, ?_, rfl, rfl⟩
  · dsimp only
    omega
  · dsimp only
    omega

/-- The colon makes it one. -/
theorem run_colon {colon : Cell} {place : KeyPlace} (hindent : indent ≤ 0)
    (hs : AtColon key back indent indents tokens colon place s) :
    ∃ index lineNumber column, s.run =
      Scan.run
        { cells := layOut index lineNumber column (' ' :: back)
          indent := 0
          indents := atEdge indent indents
          keyAllowed := false
          tokens := tokens ++ keyTokens indent key } := by
  obtain ⟨⟨index, lineNumber, column, rfl⟩, hchar, hline, hnear, hleft, htoken, hcolumn⟩ := hs
  have hsolid : isSolid colon.char = true := by
    rw [hchar]
    decide
  refine ⟨index, lineNumber, column, ?_⟩
  refine run_of_token (arrive_of_keyPlace (toNextToken_solid hsolid rfl) rfl rfl hline hnear hleft)
    ?_ ?_ (Nat.lt_succ_self _)
  · change colon.char ≠ endMark
    rw [hchar]
    decide
  · let start : Scan :=
      { cells := colon :: layOut index lineNumber column (' ' :: back)
        indent, indents
        keyAllowed := false
        keyPlaces := [(0, place)]
        tokens := tokens.push (.scalar (.ofList key) true) }
    have hgap : isGapOrTab (start.cells.peek 1) = true := by
      change isGapOrTab (Cells.peek (layOut index lineNumber column (' ' :: back))) = true
      rw [peek_blank]
      rfl
    have hmark := token_colon start hchar hgap
    rw [show start.cells.peek = ':' from hchar]
    exact hmark.trans (valueMark_of_keyPlace rfl rfl rfl htoken hcolumn hindent)

/-! ## Values -/

theorem layOut_break (index line column : Nat) (text : List Char) :
    layOut index line column ('\n' :: text) =
      ⟨'\n', index, line, column⟩ :: layOut (index + 1) (line + 1) 0 text := by
  simp [layOut, isBreak]

theorem layOut_word_cons {c : Char} (hc : isPlainChar c = true) (index line column : Nat)
    (text : List Char) : layOut index line column (c :: text) =
      ⟨c, index, line, column⟩ :: layOut (index + 1) line (column + 1) text :=
  layOut_cons (Written.isBreak_of_isPlainChar hc) (ne_of_isPlainChar hc (by decide)) text

/-- Behind a line break the line of another word is not part of a plain scalar. -/
theorem plainGap_break {c : Char} (hc : isPlainChar c = true) (hdot : c ≠ '.')
    (index line column : Nat) (text : List Char) :
    plainGap (⟨'\n', index, line, column⟩ :: layOut (index + 1) (line + 1) 0 (c :: text)) =
      ⟨[' '], true, layOut (index + 1) (line + 1) 0 (c :: text)⟩ := by
  have hsolid := isSolid_of_isPlainChar hc
  have hhyphen : c ≠ '-' := ne_of_isPlainChar hc (by decide)
  have hblank : c ≠ ' ' := ne_of_isPlainChar hc (by decide)
  rw [layOut_word_cons hc]
  generalize layOut (index + 1 + 1) (line + 1) (0 + 1) text = rest
  have hmark : Cells.atDocumentMark (⟨c, index + 1, line + 1, 0⟩ :: rest) = false := by
    simp [Cells.atDocumentMark, Cells.atMark, Cells.peek, hhyphen, hdot]
  have hbreaks : plainBreaks (⟨c, index + 1, line + 1, 0⟩ :: rest) =
      (some [], ⟨c, index + 1, line + 1, 0⟩ :: rest) := by
    rw [plainBreaks, if_neg hblank]
    split
    · rfl
    · next hbreak =>
      rw [break?_solid hsolid] at hbreak
      cases hbreak
  have hspaces : Cells.skipSpaces (⟨'\n', index, line, column⟩ :: ⟨c, index + 1, line + 1, 0⟩ ::
      rest) = ⟨'\n', index, line, column⟩ :: ⟨c, index + 1, line + 1, 0⟩ :: rest := rfl
  have hbreak : Cells.break? (⟨'\n', index, line, column⟩ :: ⟨c, index + 1, line + 1, 0⟩ :: rest) =
      some ('\n', ⟨c, index + 1, line + 1, 0⟩ :: rest) := by
    simp [Cells.break?]
  rw [plainGap, hspaces, hbreak]
  simp only [hmark, hbreaks]
  rfl

theorem toNextToken_word {c : Char} (hc : isPlainChar c = true)
    (hcells : s.cells = layOut index lineNumber column (c :: text)) : s.toNextToken = s := by
  rw [layOut_word_cons hc] at hcells
  have hsolid : isSolid (Cell.mk c index lineNumber column).char = true :=
    isSolid_of_isPlainChar hc
  exact toNextToken_solid hsolid hcells

/-- The scan at a value that stands behind a blank. -/
def atValue (index line column : Nat) (text : List Char) (indents : List Int)
    (tokens : Array Token) : Scan :=
  { cells := layOut index line column (' ' :: text)
    indent := 0, indents, keyAllowed := false, tokens }

/-- A word that stands as it is is the value. -/
theorem run_plain {c : Char} (htext : Word text) (hc : isPlainChar c = true) (hdot : c ≠ '.')
    (index lineNumber column : Nat) :
    ∃ next, (atValue index lineNumber column (text ++ '\n' :: c :: back) indents tokens).run =
        next.run ∧
      AtLine (c :: back) 0 indents (tokens.push (.scalar (.ofList text) true)) next := by
  obtain ⟨first, more, rfl⟩ := List.exists_cons_of_ne_nil htext.ne_nil
  have hfirst : isPlainChar first = true := htext.plain first List.mem_cons_self
  have hnotDot : first ≠ '.' := htext.head first rfl
  have hcells : layOut index lineNumber column (' ' :: (first :: more ++ '\n' :: c :: back)) =
      ⟨' ', index, lineNumber, column⟩ ::
        (row (index + 1) lineNumber (column + 1) (first :: more) ++
          ⟨'\n', index + 1 + (first :: more).length, lineNumber,
            column + 1 + (first :: more).length⟩ ::
            layOut (index + 1 + (first :: more).length + 1) (lineNumber + 1) 0 (c :: back)) := by
    rw [layOut_cons (by decide) (by decide), layOut_append htext.plain, layOut_break]
  let start : Scan :=
    { cells := row (index + 1) lineNumber (column + 1) (first :: more) ++
        ⟨'\n', index + 1 + (first :: more).length, lineNumber,
          column + 1 + (first :: more).length⟩ ::
          layOut (index + 1 + (first :: more).length + 1) (lineNumber + 1) 0 (c :: back)
      indent := 0, indents, keyAllowed := false, tokens }
  have hnext : (atValue index lineNumber column (first :: more ++ '\n' :: c :: back) indents
      tokens).toNextToken = start :=
    toNextToken_blank (isSolid_of_isPlainChar hfirst) hcells
  have hscalar : plainText false (0 + 1) [] [] false start.cells = ⟨first :: more, true, _⟩ :=
    plainText_word htext rfl (plainGap_break hc hdot _ _ _ _) (.inr (by
      rw [column_layOut]
      decide))
  have htoken : start.token start.cells.peek (start.cells.peek 1) = start.plainScalar :=
    token_word start hfirst hnotDot rfl _
  have hrun := run_of_token (arrive_of_keyPlaces hnext rfl (Int.natCast_nonneg _))
    (ne_of_isPlainChar hfirst (by decide))
    (htoken.trans (plainScalar_of_not_keyAllowed hscalar rfl))
    (by simp only [atValue, length_layOut, List.length_cons, List.length_append]; omega)
  let next : Scan :=
    { cells := layOut (index + 1 + (first :: more).length + 1) (lineNumber + 1) 0 (c :: back)
      indent := 0, indents, tokens := tokens.push (.scalar (.ofList (first :: more)) true) }
  have hthere : next.toNextToken = next := toNextToken_word hc rfl
  refine ⟨next, hrun, ⟨_, _, hthere⟩, ?_⟩
  simp only [next, length_layOut]
  omega

theorem token_quote (s : Scan) (hpeek : s.cells.peek = '\'') (next : Char) :
    s.token '\'' next = s.quotedScalar false := by
  have hhyphen : s.cells.atMark '-' = false := by simp [Cells.atMark, hpeek]
  have hdots : s.cells.atMark '.' = false := by simp [Cells.atMark, hpeek]
  rw [token]
  simp [hhyphen, hdots]

/-- A quoted scalar where no key can begin. -/
theorem quotedScalar_of_not_keyAllowed {cells : Cells}
    (hscalar : quotedText false s.cells.tail = .ok (text, cells)) (hallowed : s.keyAllowed = false) :
    s.quotedScalar false = .ok
      { s with cells, tokens := s.tokens.push (.scalar (.ofList text) false) } := by
  have hsave : s.savePlace = .ok s := by
    cases s
    cases hallowed
    rfl
  rw [quotedScalar, word, hsave]
  simp only [bind, Except.bind, hscalar]
  cases s
  cases hallowed
  rfl

/-- So is a word between apostrophes. -/
theorem run_quoted {c : Char} (htext : Word text) (hc : isPlainChar c = true)
    (index lineNumber column : Nat) :
    ∃ next, (atValue index lineNumber column ('\'' :: text ++ '\'' :: '\n' :: c :: back) indents
        tokens).run = next.run ∧
      AtLine (c :: back) 0 indents (tokens.push (.scalar (.ofList text) false)) next := by
  have hcells : layOut index lineNumber column
      (' ' :: ('\'' :: text ++ '\'' :: '\n' :: c :: back)) =
      ⟨' ', index, lineNumber, column⟩ :: ⟨'\'', index + 1, lineNumber, column + 1⟩ ::
        (row (index + 2) lineNumber (column + 2) text ++
          ⟨'\'', index + 2 + text.length, lineNumber, column + 2 + text.length⟩ ::
          ⟨'\n', index + 2 + text.length + 1, lineNumber, column + 2 + text.length + 1⟩ ::
            layOut (index + 2 + text.length + 1 + 1) (lineNumber + 1) 0 (c :: back)) := by
    rw [layOut_cons (by decide) (by decide), List.cons_append, layOut_cons (by decide) (by decide),
      layOut_append htext.plain, layOut_cons (by decide) (by decide), layOut_break]
  let start : Scan :=
    { cells := ⟨'\'', index + 1, lineNumber, column + 1⟩ ::
        (row (index + 2) lineNumber (column + 2) text ++
          ⟨'\'', index + 2 + text.length, lineNumber, column + 2 + text.length⟩ ::
          ⟨'\n', index + 2 + text.length + 1, lineNumber, column + 2 + text.length + 1⟩ ::
            layOut (index + 2 + text.length + 1 + 1) (lineNumber + 1) 0 (c :: back))
      indent := 0, indents, keyAllowed := false, tokens }
  have hnext : (atValue index lineNumber column ('\'' :: text ++ '\'' :: '\n' :: c :: back) indents
      tokens).toNextToken = start :=
    toNextToken_blank rfl hcells
  have hquote : '\'' ≠ endMark := by decide
  have hbreak : '\n' ≠ '\'' := by decide
  have hscalar : quotedText false start.cells.tail = .ok (text, _) :=
    quotedText_word htext.plain rfl hbreak
  have htoken : start.token start.cells.peek (start.cells.peek 1) = start.quotedScalar false :=
    token_quote start rfl _
  have hrun := run_of_token (arrive_of_keyPlaces hnext rfl (Int.natCast_nonneg _)) hquote
    (htoken.trans (quotedScalar_of_not_keyAllowed hscalar rfl))
    (by simp only [atValue, length_layOut, List.length_cons, List.length_append]; omega)
  let next : Scan :=
    { cells := ⟨'\n', index + 2 + text.length + 1, lineNumber, column + 2 + text.length + 1⟩ ::
        layOut (index + 2 + text.length + 1 + 1) (lineNumber + 1) 0 (c :: back)
      indent := 0, indents, keyAllowed := false
      tokens := tokens.push (.scalar (.ofList text) false) }
  have hline := layOut_word_cons hc (index + 2 + text.length + 1 + 1) (lineNumber + 1) 0 back
  have hthere : next.toNextToken =
      { next with
        keyAllowed := true
        cells := layOut (index + 2 + text.length + 1 + 1) (lineNumber + 1) 0 (c :: back) } := by
    rw [hline]
    exact toNextToken_break (isSolid_of_isPlainChar hc) rfl (congrArg _ hline)
  refine ⟨next, hrun, ⟨_, _, hthere⟩, ?_⟩
  simp only [next, List.length_cons, length_layOut]
  omega

/-- The value of an entry is a word, as it is written. -/
theorem run_shown {c : Char} (htext : Word text) (hc : isPlainChar c = true) (hdot : c ≠ '.')
    (index lineNumber column : Nat) :
    ∃ next, (atValue index lineNumber column (Written.shown text ++ '\n' :: c :: back) indents
        tokens).run = next.run ∧
      AtLine (c :: back) 0 indents
        (tokens.push (.scalar (.ofList text) (Plain.kind (.ofList text) = .text))) next := by
  by_cases hkind : Plain.kind (.ofList text) = .text
  · rw [Written.shown, if_pos hkind, decide_eq_true hkind]
    exact run_plain htext hc hdot index lineNumber column
  · rw [Written.shown, if_neg hkind, decide_eq_false hkind, List.append_assoc]
    exact run_quoted htext hc index lineNumber column

/-- A line gives its key and its word. -/
theorem run_line {c : Char} (hkey : Word key) (hplain : Plain.kind (.ofList key) = .text)
    (hlength : key.length ≤ maxKeyLength) (htext : Word text) (hc : isPlainChar c = true)
    (hdot : c ≠ '.') (hindent : indent ≤ 0)
    (hs : AtLine (Written.line key text ++ c :: back) indent indents tokens s) :
    ∃ next, s.run = next.run ∧
      AtLine (c :: back) 0 (atEdge indent indents)
        (tokens ++ keyTokens indent key ++
          #[.scalar (.ofList text) (Plain.kind (.ofList text) = .text)]) next := by
  have hline : Written.line key text ++ c :: back =
      key ++ ':' :: ' ' :: (Written.shown text ++ '\n' :: c :: back) := by
    rw [Written.line, show Written.shown key = key from if_pos hplain]
    simp
  rw [hline] at hs
  obtain ⟨colon, place, between, hfirst, hcolon⟩ := run_to_colon hkey hlength hindent hs
  obtain ⟨index, lineNumber, column, hsecond⟩ := run_colon hindent hcolon
  obtain ⟨next, hthird, hnext⟩ := run_shown htext hc hdot index lineNumber column
  refine ⟨next, hfirst.trans (hsecond.trans hthird), ?_⟩
  rwa [Array.append_singleton]

/-- After an empty mapping the text is at its end. -/
theorem run_braces (index lineNumber column : Nat) :
    (atValue index lineNumber column ['\x7b', '\x7d', '\n'] [-1] tokens).run =
      .ok (tokens.toList ++ [.flowMappingStart, .flowMappingEnd, .blockEnd]) := by
  let opening : Scan :=
    { cells := layOut (index + 1) lineNumber (column + 1) ['\x7b', '\x7d', '\n']
      indent := 0, indents := [-1], keyAllowed := false, tokens }
  let opened : Scan :=
    { cells := layOut (index + 2) lineNumber (column + 2) ['\x7d', '\n']
      flowLevel := 1, indent := 0, indents := [-1], tokens := tokens.push .flowMappingStart }
  let closed : Scan :=
    { cells := layOut (index + 3) lineNumber (column + 3) ['\n']
      indent := 0, indents := [-1], keyAllowed := false
      tokens := (tokens.push .flowMappingStart).push .flowMappingEnd }
  have hopen : '\x7b' ≠ endMark := by decide
  have hclose : '\x7d' ≠ endMark := by decide
  have hopening : (atValue index lineNumber column ['\x7b', '\x7d', '\n'] [-1]
      tokens).arrive = .ok opening :=
    arrive_of_keyPlaces (toNextToken_blank rfl rfl) rfl (Int.natCast_nonneg _)
  have hopened : opened.arrive = .ok opened :=
    arrive_of_keyPlaces (toNextToken_solid rfl rfl) rfl (Int.natCast_nonneg _)
  have hclosed : closed.arrive = .ok _ :=
    arrive_of_keyPlaces (toNextToken_break rfl rfl rfl) rfl (Int.natCast_nonneg _)
  calc
    (atValue index lineNumber column ['\x7b', '\x7d', '\n'] [-1] tokens).run = opened.run :=
      run_of_token hopening hopen rfl (by simp [atValue, opened, length_layOut])
    _ = closed.run := run_of_token hopened hclose rfl (by simp [opened, closed, length_layOut])
    _ = .ok (tokens.toList ++ [.flowMappingStart, .flowMappingEnd, .blockEnd]) := by
      rw [run_of_end hclosed rfl rfl]
      simp [closed, unwind, unwind.close]

end Scan

end ModPack.Yaml
