import ModPack.Markup.NameChar
import ModPack.Text.Newline
import ModPack.Text.Utf8

/-!
# How an XML document's bytes are read

A byte order mark or zero bytes at the start announce UTF-16; every other document begins as UTF-8
and may declare another encoding in its XML declaration.
-/
namespace ModPack.Markup

/-- Why a document cannot be read. What is wrong with malformed XML is not spelled out. -/
inductive Error
  | malformed
  | unknownEncoding (name : String)
  /-- The declared encoding takes more than one byte for some characters. -/
  | wideEncoding
  deriving DecidableEq, Repr

def Error.message : Error → String
  | malformed => "<xml>"
  | unknownEncoding name => "unknown encoding: " ++ name
  | wideEncoding => "multi-byte encodings are not supported"

/-- The XML declaration of a document, apart from its version. -/
structure Declaration where
  encoding : Option String := none
  standalone : Bool := false
  deriving DecidableEq, Repr

namespace Declaration

def isValueChar (c : Char) : Bool :=
  c.isAlphanum || c == '.' || c == '-' || c == '_'

/-- The quoted value at the start of a text, and the text after it. -/
def quotedValue? : List Char → Option (String × List Char)
  | [] => none
  | quote :: rest => do
    guard (quote = '"' ∨ quote = '\'')
    let value := rest.takeWhile isValueChar
    match rest.dropWhile isValueChar with
    | closing :: after => if closing = quote then some (.ofList value, after) else none
    | [] => none

/-- The next `name="value"` of a declaration; spaces must come before it. `some none` stands for the
end of the declaration. -/
def item? (text : List Char) : Option (Option (String × String × List Char)) := do
  match text, text.dropWhile isSpace with
  | [], _ => some none
  | _, [] => some none
  | first :: _, start => do
    guard (isSpace first)
    let name := start.takeWhile fun c => !isSpace c && c != '='
    guard (name ≠ [])
    match (start.drop name.length).dropWhile isSpace with
    | '=' :: rest =>
      let (value, after) ← quotedValue? (rest.dropWhile isSpace)
      some (some (.ofList name, value, after))
    | _ => none

def standalone? : String → Option Bool
  | "yes" => some true
  | "no" => some false
  | _ => none

/-- The encoding and the part after it. -/
def ofItems (encoding : Option String) :
    Option (String × String × List Char) → Option Declaration
  | none => some { encoding }
  | some (name, value, after) => do
    guard (name = "standalone")
    let standalone ← standalone? value
    guard (after.all isSpace)
    return { encoding, standalone }

/-- Reads what stands between `<?xml` and its end: a version, then an encoding, then whether the
document stands alone. -/
def ofText (text : List Char) : Option Declaration := do
  let some (name, _, after) ← item? text | none
  guard (name = "version")
  match ← item? after with
  | some ("encoding", value, after) =>
    guard ((value.toList.head?.map Char.isAlpha).getD false)
    ofItems (some value) (← item? after)
  | item => ofItems none item

/-- The text before the first `?>` and the text after it. -/
def untilEnd : List Char → Option (List Char × List Char)
  | [] => none
  | '?' :: '>' :: rest => some ([], rest)
  | c :: rest => (untilEnd rest).map fun (inside, after) => (c :: inside, after)

def opening : List Char := "<?xml".toList

/-- A text begins with a declaration when spaces or the end follow the word `xml`. -/
def isDeclared (text : List Char) : Bool :=
  opening.isPrefixOf text &&
    match text.drop opening.length with
    | c :: _ => isSpace c || c == '?'
    | [] => false

/-- Takes the declaration, if there is one, off a document. -/
def split (text : List Char) : Option (Declaration × List Char) :=
  if isDeclared text then do
    let (inside, rest) ← untilEnd (text.drop opening.length)
    return (← ofText inside, rest)
  else some ({}, text)

end Declaration

inductive Encoding
  | utf8
  | utf16 (bigEndian : Bool)
  /-- One byte for each character; bytes without one are not allowed. -/
  | table (charOf : UInt8 → Option Char)

namespace Encoding

def asciiChar (byte : UInt8) : Option Char :=
  if byte < 0x80 then some (Char.ofNat byte.toNat) else none

def latinChar (byte : UInt8) : Option Char :=
  some (Char.ofNat byte.toNat)

/-- What Windows-1252 holds from 0x80 to 0x9F; zero where it holds nothing. -/
def windowsCodes : List Nat := [
  0x20AC, 0, 0x201A, 0x0192, 0x201E, 0x2026, 0x2020, 0x2021, 0x02C6, 0x2030, 0x0160, 0x2039,
  0x0152, 0, 0x017D, 0, 0, 0x2018, 0x2019, 0x201C, 0x201D, 0x2022, 0x2013, 0x2014, 0x02DC,
  0x2122, 0x0161, 0x203A, 0x0153, 0, 0x017E, 0x0178]

def windowsChar (byte : UInt8) : Option Char :=
  if 0x80 ≤ byte ∧ byte < 0xA0 then
    match windowsCodes[byte.toNat - 0x80]? with
    | none | some 0 => none
    | some code => some (Char.ofNat code)
  else latinChar byte

/-- What ISO 8859-15 holds in other places than ISO 8859-1. -/
def latinNineCodes : List (UInt8 × Nat) := [
  (0xA4, 0x20AC), (0xA6, 0x160), (0xA8, 0x161), (0xB4, 0x17D), (0xB8, 0x17E), (0xBC, 0x152),
  (0xBD, 0x153), (0xBE, 0x178)]

def latinNineChar (byte : UInt8) : Option Char :=
  match latinNineCodes.lookup byte with
  | some code => some (Char.ofNat code)
  | none => latinChar byte

/-- Names of encodings compared: without case, and with one kind of separator. -/
def plainName (name : String) : String :=
  name.map fun c => if c.isAlphanum then c.toLower else '_'

/-- Other names of encodings with one byte for each character. Spelled without its hyphen, UTF-8
gives no more than ASCII. -/
def otherTables : List (List String × (UInt8 → Option Char)) := [
  (["latin_1", "latin1", "latin", "l1", "iso8859_1", "iso_8859_1", "iso8859", "8859", "cp819",
    "ibm819", "csisolatin1", "iso_ir_100", "iso_8859_1_1987"], latinChar),
  (["ascii", "us_ascii", "646", "us", "cp367", "ibm367", "csascii", "iso646_us", "iso_ir_6",
    "ansi_x3_4_1968", "ansi_x3_4_1986", "iso_646_irv_1991"], asciiChar),
  (["utf_8", "utf8", "u8", "utf", "cp65001", "utf8_ucs2", "utf8_ucs4"], asciiChar),
  (["cp1252", "windows_1252", "1252"], windowsChar),
  (["iso8859_15", "iso_8859_15", "latin9", "latin_9", "l9"], latinNineChar)]

def wideNames : List String := [
  "utf_7", "utf7", "u7", "utf_8_sig", "utf16", "utf_16", "u16", "utf_16_le", "utf_16_be", "utf32",
  "utf_32", "u32", "utf_32_le", "utf_32_be", "shift_jis", "shiftjis", "sjis", "cp932", "euc_jp",
  "eucjp", "ujis", "iso2022_jp", "iso_2022_jp", "gbk", "cp936", "gb2312", "gb18030", "big5", "cp950",
  "euc_kr", "euckr", "cp949"]

/-- The encoding that a declaration names, for a document that began in `start`. -/
def declared (start : Encoding) (name : String) : Except Error Encoding :=
  let narrow (encoding : Encoding) : Except Error Encoding :=
    match start with
    | utf16 _ => .error .malformed
    | _ => .ok encoding
  match name.map Char.toUpper, start with
  | "UTF-16", utf16 _ => .ok start
  | "UTF-16BE", utf16 true => .ok start
  | "UTF-16LE", utf16 false => .ok start
  | "UTF-16", _ | "UTF-16BE", _ | "UTF-16LE", _ => .error .malformed
  | "UTF-8", _ => narrow utf8
  | "ISO-8859-1", _ => narrow (table latinChar)
  | "US-ASCII", _ => narrow (table asciiChar)
  | _, _ =>
    match otherTables.find? fun (names, _) => names.contains (plainName name) with
    | some (_, charOf) => narrow (table charOf)
    | none =>
      if wideNames.contains (plainName name) then .error .wideEncoding
      else .error (.unknownEncoding name)

/-- The code units of UTF-16 bytes. -/
def units (bigEndian : Bool) : List UInt8 → Option (List Nat)
  | [] => some []
  | [_] => none
  | first :: second :: rest => do
    let unit :=
      if bigEndian then first.toNat * 256 + second.toNat else second.toNat * 256 + first.toNat
    return unit :: (← units bigEndian rest)

/-- The characters of code units; surrogates must come in pairs. -/
def charsOfUnits : List Nat → Option (List Char)
  | [] => some []
  | unit :: rest =>
    if unit < 0xD800 ∨ 0xDFFF < unit then do return Char.ofNat unit :: (← charsOfUnits rest)
    else match rest with
      | [] => none
      | next :: rest =>
        if unit < 0xDC00 ∧ 0xDC00 ≤ next ∧ next ≤ 0xDFFF then do
          let code := 0x10000 + (unit - 0xD800) * 0x400 + (next - 0xDC00)
          return Char.ofNat code :: (← charsOfUnits rest)
        else none

def decode (encoding : Encoding) (bytes : List UInt8) : Option (List Char) :=
  match encoding with
  | utf8 => (Utf8.decode ⟨bytes.toArray⟩).toOption.map String.toList
  | utf16 bigEndian => (units bigEndian bytes).bind charsOfUnits
  | table charOf => bytes.mapM charOf

/-- The encoding a document begins in, and its bytes without a byte order mark. -/
def start : List UInt8 → Encoding × List UInt8
  | 0xEF :: 0xBB :: 0xBF :: rest => (utf8, rest)
  | 0xFE :: 0xFF :: rest => (utf16 true, rest)
  | 0xFF :: 0xFE :: rest => (utf16 false, rest)
  | 0 :: rest => (utf16 true, 0 :: rest)
  | first :: 0 :: rest => (utf16 false, first :: 0 :: rest)
  | bytes => (utf8, bytes)

/-- Bytes as far as they matter for a declaration: those outside ASCII cannot occur in one. -/
def firstLook (encoding : Encoding) (bytes : List UInt8) : Option (List Char) :=
  match encoding with
  | utf16 _ => encoding.decode bytes
  | utf8 | table _ => some (bytes.map fun byte => Char.ofNat byte.toNat)

end Encoding

/-- The text of a document behind its declaration, with one kind of line end. -/
def readText (bytes : List UInt8) : Except Error (Declaration × List Char) := do
  let (start, bytes) := Encoding.start bytes
  let some (declaration, _) := (start.firstLook bytes).bind Declaration.split
    | throw .malformed
  let encoding ← match declaration.encoding with
    | none => pure start
    | some name => start.declared name
  let some (_, text) := (encoding.decode bytes).bind Declaration.split | throw .malformed
  unless text.all isDocumentChar do throw .malformed
  return (declaration, Text.unifyNewlines text)

end ModPack.Markup
