/-!
# The shortest decimal of a binary float

A positive finite float is `m · 2^q` exactly. The reals that round to it form an interval around
it, whose ends belong to it when `m` is even. Among the decimals in the interval the shortest one
is taken, and of two of the same length the nearer one. All arithmetic is exact.
-/
namespace ModPack.Decimal

/-- The decimal `digits · 10^exponent`. -/
structure Scientific where
  digits : Nat
  exponent : Int
  deriving DecidableEq, Repr

/-- The float `mantissa · 2^exponent`; `atPowerOfTwo` when the gap below it is half the gap above. -/
structure Binary where
  mantissa : Nat
  exponent : Int
  atPowerOfTwo : Bool
  deriving DecidableEq, Repr

/-- The weight of the bit in front of the fraction field, which has 52 bits. -/
def Binary.hiddenBit : Nat := 0x10000000000000

/-- Decodes the exponent and fraction fields of a finite double. -/
def Binary.ofBits (bits : UInt64) : Binary :=
  let fraction : Nat := bits.toNat % hiddenBit
  let biased : Nat := bits.toNat / hiddenBit % 0x800
  if biased = 0 then ⟨fraction, -1074, false⟩
  else ⟨hiddenBit + fraction, (biased : Int) - 1075, fraction = 0 ∧ 1 < biased⟩

/-- `n · base^e` over `base^(-e)`: one of the two powers is 1. -/
def scaled (base n : Nat) (e : Int) : Nat × Nat :=
  (n * Nat.pow base e.toNat, Nat.pow base (-e).toNat)

/-- The exponent `k` with `10^k ≤ num / den < 10^(k+1)`. -/
def magnitude (num den : Nat) : Int :=
  if den ≤ num then (Nat.toDigits 10 (num / den)).length - 1
  else -(Nat.toDigits 10 ((den + num - 1) / num - 1)).length

/-- The interval that rounds to the float, in units of a quarter of its last place. -/
def Binary.low (b : Binary) : Nat :=
  4 * b.mantissa - (if b.atPowerOfTwo then 1 else 2)

def Binary.high (b : Binary) : Nat :=
  4 * b.mantissa + 2

/-- Whether `digits · 10^exponent` rounds to the float. -/
def Binary.admits (b : Binary) (s : Scientific) : Bool :=
  let (tenNum, tenDen) := scaled 10 s.digits s.exponent
  let (lowNum, twoDen) := scaled 2 b.low (b.exponent - 2)
  let (highNum, _) := scaled 2 b.high (b.exponent - 2)
  let value := tenNum * twoDen
  if b.mantissa % 2 = 0 then lowNum * tenDen ≤ value && value ≤ highNum * tenDen
  else lowNum * tenDen < value && value < highNum * tenDen

/-- The best decimal with at most `count` digits: of the two neighbours of the float on that grid
those which round to it, the nearer first, an even last digit in a tie. -/
def Binary.onGrid? (b : Binary) (count : Nat) : Option Scientific :=
  let (num, den) := scaled 2 b.mantissa b.exponent
  let exponent := magnitude num den - count + 1
  let (gridNum, gridDen) := scaled 10 1 exponent
  let unit := den * gridNum
  let whole := num * gridDen
  let below : Scientific := ⟨whole / unit, exponent⟩
  let above : Scientific := ⟨whole / unit + 1, exponent⟩
  let twice := 2 * (whole % unit)
  let belowFirst := twice < unit ∨ (twice = unit ∧ below.digits % 2 = 0)
  (if belowFirst then [below, above] else [above, below]).find? b.admits

/-- Seventeen digits tell every double from its neighbours, so one of the grids has a hit. -/
def Binary.shortest (b : Binary) : Scientific :=
  ((List.range 17).findSome? fun count => b.onGrid? (count + 1)).getD ⟨b.mantissa, 0⟩

/-- The same decimal without zeros at the end of its digits. -/
def Scientific.trimmed (s : Scientific) : Scientific :=
  let zeros := ((Nat.toDigits 10 s.digits).reverse.takeWhile (· = '0')).length
  if s.digits = 0 then s else ⟨s.digits / Nat.pow 10 zeros, s.exponent + zeros⟩

end ModPack.Decimal
