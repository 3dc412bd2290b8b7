/-!
# Hexadecimal text

Upper-case hexadecimal digits, zero padding to a width, and reading digits of either case. A sign
counts toward the width and stands before the zeros.
-/
namespace ModPack.Hex

/-- Upper-case digits without leading zeros; zero is the one digit `0`. -/
def digits (n : Nat) : List Char :=
  (Nat.toDigits 16 n).map Char.toUpper

def text (n : Nat) : String :=
  .ofList (digits n)

/-- At least `width` characters, the sign included; wider values are written in full. -/
def padded (width : Nat) (n : Int) : String :=
  let sign := if n < 0 then ['-'] else []
  let body := digits n.natAbs
  .ofList (sign ++ List.replicate (width - sign.length - body.length) '0' ++ body)

/-- Lower-case digits, zero padded: the form inside character escapes. -/
def escape (width n : Nat) : List Char :=
  let body := Nat.toDigits 16 n
  List.replicate (width - body.length) '0' ++ body

def digitValue? (c : Char) : Option Nat :=
  if '0' ≤ c ∧ c ≤ '9' then some (c.toNat - '0'.toNat)
  else if 'A' ≤ c ∧ c ≤ 'F' then some (c.toNat - 'A'.toNat + 10)
  else if 'a' ≤ c ∧ c ≤ 'f' then some (c.toNat - 'a'.toNat + 10)
  else none

def isDigit (c : Char) : Bool :=
  (digitValue? c).isSome

/-- The value of a run of hexadecimal digits; a character that is none makes it fail. -/
def value? (cs : List Char) : Option Nat :=
  cs.foldlM (fun total c => (digitValue? c).map (16 * total + ·)) 0

end ModPack.Hex
