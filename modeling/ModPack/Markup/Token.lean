import ModPack.Markup.NameChar
import ModPack.Text.Hex

/-!
# Tokens of XML content

Content is read as tags, references and text. Comments and processing instructions are checked and
leave no token; text leaves one token for each run of it that is more than spaces, since its
characters are not needed. Main statement: a name that is read is not empty.
-/
namespace ModPack.Markup

/-- A name as it is written, with its namespace prefix. -/
structure RawName where
  space : Option String := none
  base : String
  deriving DecidableEq, Repr

/-- A name without a colon, and the text after it. -/
def plainName? : List Char → Option (String × List Char)
  | [] => none
  | c :: rest =>
    if isNameStart c then
      some (.ofList (c :: rest.takeWhile isNameChar), rest.dropWhile isNameChar)
    else none

/-- A name with at most one colon in it, and the text after it. -/
def rawName? (text : List Char) : Option (RawName × List Char) := do
  let (first, rest) ← plainName? text
  match rest with
  | ':' :: more =>
    let (base, rest) ← plainName? more
    return (⟨some first, base⟩, rest)
  | rest => return (⟨none, first⟩, rest)

/-- What stands between an ampersand and the next semicolon. -/
inductive Reference
  | char (c : Char)
  | entity (name : String)
  deriving DecidableEq, Repr

namespace Reference

/-- The five entities that need no declaration. -/
def predefined : List (String × Char) := [
  ("lt", '<'), ("gt", '>'), ("amp", '&'), ("quot", '"'), ("apos", '\'')]

/-- The character of a code point that a document may refer to. -/
def charOf? (code : Nat) : Option Char :=
  if h : code.isValidChar then
    let c := Char.ofNatAux code h
    if isDocumentChar c then some c else none
  else none

def decimal? (digits : List Char) : Option Nat :=
  if digits ≠ [] ∧ digits.all Char.isDigit then
    some (digits.foldl (fun total c => 10 * total + (c.toNat - '0'.toNat)) 0)
  else none

def hexadecimal? (digits : List Char) : Option Nat :=
  if digits ≠ [] then Hex.value? digits else none

/-- Reads a reference behind its ampersand. -/
def read? (text : List Char) : Option (Reference × List Char) := do
  let inside := text.takeWhile (· ≠ ';')
  let _ :: rest := text.dropWhile (· ≠ ';') | none
  match inside with
  | '#' :: 'x' :: digits => return (.char (← charOf? (← hexadecimal? digits)), rest)
  | '#' :: digits => return (.char (← charOf? (← decimal? digits)), rest)
  | name =>
    let (name, []) ← plainName? name | none
    match predefined.lookup name with
    | some c => return (.char c, rest)
    | none => return (.entity name, rest)

end Reference

inductive Token
  /-- A start tag with its attribute values as they are written. -/
  | start (name : RawName) (attributes : List (RawName × List Char)) (isClosed : Bool)
  | stop (name : RawName)
  | entity (name : String)
  | text
  deriving DecidableEq, Repr

namespace Token

/-- The text behind a comment's end. Two hyphens can only stand there. -/
def afterComment? : List Char → Option (List Char)
  | [] => none
  | '-' :: '-' :: rest => match rest with
    | '>' :: rest => some rest
    | _ => none
  | _ :: rest => afterComment? rest

/-- The text behind the end of a character data section. -/
def afterData? : List Char → Option (List Char)
  | [] => none
  | ']' :: ']' :: '>' :: rest => some rest
  | _ :: rest => afterData? rest

/-- The text behind a processing instruction's end. -/
def afterQuestion? : List Char → Option (List Char)
  | [] => none
  | '?' :: '>' :: rest => some rest
  | _ :: rest => afterQuestion? rest

/-- The text behind a processing instruction, read from its target on. The target cannot be `xml`. -/
def afterInstruction? (text : List Char) : Option (List Char) := do
  let (target, rest) ← plainName? text
  guard (target.map Char.toLower ≠ "xml")
  match rest with
  | '?' :: '>' :: rest => some rest
  | c :: rest => if isSpace c then afterQuestion? rest else none
  | [] => none

/-- A comment or processing instruction at the start of a text is skipped. -/
def afterAside? : List Char → Option (List Char)
  | '<' :: '!' :: '-' :: '-' :: rest => afterComment? rest
  | '<' :: '?' :: rest => afterInstruction? rest
  | _ => none

/-- A quoted value and the text after it. -/
def quoted? : List Char → Option (List Char × List Char)
  | [] => none
  | quote :: rest => do
    guard (quote = '"' ∨ quote = '\'')
    let _ :: after := rest.dropWhile (· ≠ quote) | none
    return (rest.takeWhile (· ≠ quote), after)

/-- One attribute: a name, an equals sign and a quoted value. -/
def attribute? (text : List Char) : Option ((RawName × List Char) × List Char) := do
  let (name, rest) ← rawName? text
  let '=' :: rest := rest.dropWhile isSpace | none
  let (value, rest) ← quoted? (rest.dropWhile isSpace)
  return ((name, value), rest)

/-- The attributes of a start tag up to its end, which tells whether the element is empty. -/
def attributes? (text : List Char) :
    Option (List (RawName × List Char) × Bool × List Char) :=
  match text.dropWhile isSpace with
  | '>' :: rest => some ([], false, rest)
  | '/' :: '>' :: rest => some ([], true, rest)
  | inside =>
    if (text.head?.map isSpace).getD false then do
      let (item, after) ← attribute? inside
      if _ : after.length < text.length then
        let (attributes, isClosed, rest) ← attributes? after
        return (item :: attributes, isClosed, rest)
      else none
    else none
termination_by text.length

/-- An end tag behind its opening mark. -/
def stopTag? (text : List Char) : Option (Token × List Char) := do
  let (name, rest) ← rawName? text
  let '>' :: rest := rest.dropWhile isSpace | none
  return (.stop name, rest)

def startTag? (text : List Char) : Option (Token × List Char) := do
  let (name, rest) ← rawName? text
  let (attributes, isClosed, rest) ← attributes? rest
  return (.start name attributes isClosed, rest)

/-- What begins at the start of a text that is not empty: a token unless it leaves none, and the
text after it. -/
def next? : List Char → Option (Option Token × List Char)
  | '<' :: '!' :: '[' :: 'C' :: 'D' :: 'A' :: 'T' :: 'A' :: '[' :: rest =>
    (afterData? rest).map fun rest => (some .text, rest)
  | '<' :: '/' :: rest => (stopTag? rest).map fun (token, rest) => (some token, rest)
  | '<' :: '!' :: rest => (afterAside? ('<' :: '!' :: rest)).map fun rest => (none, rest)
  | '<' :: '?' :: rest => (afterAside? ('<' :: '?' :: rest)).map fun rest => (none, rest)
  | '<' :: rest => (startTag? rest).map fun (token, rest) => (some token, rest)
  | '&' :: rest => (Reference.read? rest).map fun
    | (.char _, rest) => (some .text, rest)
    | (.entity name, rest) => (some (.entity name), rest)
  | ']' :: ']' :: '>' :: _ => none
  | c :: rest => some (if isSpace c then none else some .text, rest)
  | [] => none

/-- All tokens of a text, put in front of those read before, last one first. -/
def scanOnto (before : List Token) (text : List Char) : Option (List Token) :=
  if text = [] then some before.reverse
  else match next? text with
    | none => none
    | some (token, rest) =>
      if _ : rest.length < text.length then
        match token with
        | some .text => scanOnto (if before.head? = some .text then before else .text :: before) rest
        | some token => scanOnto (token :: before) rest
        | none => scanOnto before rest
      else none
termination_by text.length

def scan (text : List Char) : Option (List Token) :=
  scanOnto [] text

end Token

theorem plainName?_ne_empty {text rest : List Char} {name : String}
    (h : plainName? text = some (name, rest)) : name ≠ "" := by
  unfold plainName? at h
  split at h
  · cases h
  · split at h
    · cases h
      intro hempty
      simpa using congrArg String.toList hempty
    · cases h

end ModPack.Markup
