import ModPack.Text.Hex
import ModPack.Text.Printable

/-!
# Quoted text

How a text is shown inside a message: between apostrophes, or between double quotes when it holds
an apostrophe and no double quote. Line feed, carriage return and tab have letter escapes, the
backslash and the quote in use are escaped by a backslash, and every unprintable character is
written by its code in the shortest of three widths.
-/
namespace ModPack.Text

/-- The quote that leaves the fewest characters to escape; the apostrophe when in doubt. -/
def quoteFor (hasApostrophe hasDouble : Bool) : Char :=
  if hasApostrophe && !hasDouble then '"' else '\''

/-- A character by its code: two, four or eight hexadecimal digits. -/
def codeEscape (code : Nat) : List Char :=
  if code ≤ 0xFF then '\\' :: 'x' :: Hex.escape 2 code
  else if code ≤ 0xFFFF then '\\' :: 'u' :: Hex.escape 4 code
  else '\\' :: 'U' :: Hex.escape 8 code

def escapeChar (quote : Char) (printable : Bool) (c : Char) : List Char :=
  if c = quote ∨ c = '\\' then ['\\', c]
  else if c = '\n' then ['\\', 'n']
  else if c = '\r' then ['\\', 'r']
  else if c = '\t' then ['\\', 't']
  else if printable then [c]
  else codeEscape c.toNat

/-- A text as messages show it. -/
def quoted (text : String) : String :=
  let cs := text.toList
  let quote := quoteFor (cs.contains '\'') (cs.contains '"')
  .ofList (quote :: cs.flatMap (fun c => escapeChar quote (isPrintable c) c) ++ [quote])

/-- Bytes as messages show them: the same quotes behind the letter `b`, and every byte outside
printable ASCII by its code. -/
def quotedBytes (bytes : List UInt8) : String :=
  let cs := bytes.map fun byte => Char.ofNat byte.toNat
  let quote := quoteFor (cs.contains '\'') (cs.contains '"')
  let visible (c : Char) : Bool := 0x20 ≤ c.toNat && c.toNat < 0x7F
  .ofList ('b' :: quote :: cs.flatMap (fun c => escapeChar quote (visible c) c) ++ [quote])

end ModPack.Text
