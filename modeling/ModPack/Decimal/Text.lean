import ModPack.Decimal.Shortest

/-!
# Decimal text of floats

Printing a float with the fewest digits, and reading a decimal. Which exponents are written
positionally is one record, so that the layout can be changed in one place.
-/
namespace ModPack.Decimal

/-- Exponents of the leading digit from `positionalFrom` to below `positionalTo` are written out,
the others behind an exponent mark with at least `exponentWidth` digits. -/
structure Layout where
  positionalFrom : Int
  positionalTo : Int
  exponentWidth : Nat
  infinity : String
  notANumber : String

/-- Small exponents down to a ten-thousandth and integers below ten quadrillion are written out. -/
def layout : Layout where
  positionalFrom := -4
  positionalTo := 16
  exponentWidth := 2
  infinity := "inf"
  notANumber := "nan"

def zeros (count : Nat) : List Char :=
  List.replicate count '0'

/-- Digits with the point behind position `point` of them, at least one digit on either side. -/
def positional (digits : List Char) (point : Int) : List Char :=
  if point ≤ 0 then '0' :: '.' :: zeros (-point).toNat ++ digits
  else if digits.length ≤ point.toNat then digits ++ zeros (point.toNat - digits.length) ++ ['.', '0']
  else digits.take point.toNat ++ '.' :: digits.drop point.toNat

def exponential (layout : Layout) (digits : List Char) (exponent : Int) : List Char :=
  let magnitude := Nat.toDigits 10 exponent.natAbs
  let fraction := if digits.length ≤ 1 then [] else '.' :: digits.drop 1
  digits.take 1 ++ fraction ++ ['e', if exponent < 0 then '-' else '+'] ++
    zeros (layout.exponentWidth - magnitude.length) ++ magnitude

def Scientific.text (layout : Layout) (s : Scientific) : List Char :=
  let s := s.trimmed
  let digits := Nat.toDigits 10 s.digits
  let leading := s.exponent + digits.length - 1
  if layout.positionalFrom ≤ leading ∧ leading < layout.positionalTo then
    positional digits (leading + 1)
  else exponential layout digits leading

/-- The text of a float: sign, then the shortest digits that read back. -/
def text (value : Float) : String :=
  let bits := value.toBits
  let negative := 0x8000000000000000 ≤ bits.toNat
  if value.isNaN then layout.notANumber
  else
    let sign := if negative then "-" else ""
    if value.isInf then sign ++ layout.infinity
    else if value == 0 then sign ++ "0.0"
    else sign ++ .ofList ((Binary.ofBits bits).shortest.text layout)

/-- The value of ASCII digits; none when there is another character. -/
def natOfDigits? (cs : List Char) : Option Nat :=
  cs.foldlM (fun total c => if c.isDigit then some (10 * total + (c.toNat - 48)) else none) 0

/-- An exponent: an optional sign and at least one digit. -/
def exponentOf? : List Char → Option Int
  | '-' :: cs => if cs.isEmpty then none else (natOfDigits? cs).map fun n => -(n : Int)
  | '+' :: cs => if cs.isEmpty then none else (natOfDigits? cs).map Int.ofNat
  | cs => if cs.isEmpty then none else (natOfDigits? cs).map Int.ofNat

/-- `mantissa · 10^exponent`, correctly rounded. -/
def Scientific.toFloat (s : Scientific) : Float :=
  Float.ofScientific s.digits (s.exponent < 0) s.exponent.natAbs

/-- Reads digits with an optional point and an optional exponent; at least one digit is needed. -/
def readUnsigned? (cs : List Char) : Option Float := do
  let mark (c : Char) : Bool := c == 'e' || c == 'E'
  let body := cs.takeWhile (! mark ·)
  let whole := body.takeWhile (· ≠ '.')
  let fraction := (body.dropWhile (· ≠ '.')).drop 1
  guard !(whole.isEmpty && fraction.isEmpty)
  let exponent ← match cs.dropWhile (! mark ·) with
    | [] => some 0
    | _ :: rest => exponentOf? rest
  let digits ← natOfDigits? (whole ++ fraction)
  some (Scientific.toFloat ⟨digits, exponent - fraction.length⟩)

/-- Reads an optional sign, then a decimal or one of the words for infinity and not-a-number. -/
def read? (cs : List Char) : Option Float :=
  let (negative, body) := match cs with
    | '-' :: rest => (true, rest)
    | '+' :: rest => (false, rest)
    | rest => (false, rest)
  let word := (String.ofList body).toLower
  let magnitude? :=
    if word = "inf" ∨ word = "infinity" then some (1.0 / 0.0)
    else if word = "nan" then some (0.0 / 0.0)
    else readUnsigned? body
  magnitude?.map fun magnitude => if negative then -magnitude else magnitude

end ModPack.Decimal
