import ModPack.Text.Pieces
import ModPack.Decimal.Text
import ModPack.Value
import ModPack.Yaml.Error

/-!
# What a scalar means

The kind that a plain scalar has by its text alone, and the value of a text that is known to be of a
kind. Writing uses the same rules: a text is plain only when its text alone makes it a string.
-/
namespace ModPack.Yaml

/-- The kind of a node: the kinds with a value, the two marks that only mean something as mapping
keys, and everything else. -/
inductive Tag
  | null
  | bool
  | int
  | float
  | binary
  | timestamp
  | text
  | list
  | orderedMap
  | pairs
  | set
  | map
  | merge
  | defaultKey
  | unknown
  deriving DecidableEq, Repr

/-- The names of the kinds, without the address they share. -/
def Tag.names : List (String × Tag) := [
  ("null", .null), ("bool", .bool), ("int", .int), ("float", .float), ("binary", .binary),
  ("timestamp", .timestamp), ("str", .text), ("seq", .list), ("omap", .orderedMap),
  ("pairs", .pairs), ("set", .set), ("map", .map), ("merge", .merge), ("value", .defaultKey)]

def Tag.address : String := "tag:yaml.org,2002:"

def Tag.ofAddress (text : String) : Tag :=
  ((names.find? fun (name, _) => address ++ name = text).map (·.2)).getD .unknown

namespace Plain

def truthWords : List (String × Bool) := [
  ("yes", true), ("no", false), ("true", true), ("false", false), ("on", true), ("off", false)]

/-- A word in lower case, in capitals, or with one capital in front. -/
def spellings (word : String) : List String :=
  [word, word.toUpper, word.capitalize]

def isTruthWord (text : String) : Bool :=
  truthWords.any fun (word, _) => (spellings word).contains text

def isNullWord (text : String) : Bool :=
  text = "" || text = "~" || (spellings "null").contains text

def dropSign : List Char → List Char
  | '+' :: rest => rest
  | '-' :: rest => rest
  | text => text

/-- One or more characters, all of the class or underscores. -/
def allOf (p : Char → Bool) (text : List Char) : Bool :=
  text ≠ [] && text.all fun c => p c || c == '_'

def startsWithDigit (text : List Char) : Bool :=
  (text.head?.map Char.isDigit).getD false

/-- A number below sixty of one or two digits. -/
def isSixtieth : List Char → Bool
  | [c] => c.isDigit
  | [c, d] => '0' ≤ c && c ≤ '5' && d.isDigit
  | _ => false

/-- Sixtieths after the first of the parts between colons; there is at least one. -/
def areSixtieths (parts : List (List Char)) : Bool :=
  parts ≠ [] && parts.all isSixtieth

def isBinaryDigit (c : Char) : Bool := c == '0' || c == '1'

def isOctalDigit (c : Char) : Bool := '0' ≤ c && c ≤ '7'

def isInt (text : List Char) : Bool :=
  let body := dropSign text
  match body with
  | [] => false
  | '0' :: 'b' :: digits => allOf isBinaryDigit digits
  | '0' :: 'x' :: digits => allOf Hex.isDigit digits
  | ['0'] => true
  | '0' :: digits => allOf isOctalDigit digits
  | _ =>
    match Text.pieces ':' body with
    | [] => false
    | first :: more =>
      startsWithDigit first && allOf Char.isDigit first && (more = [] || areSixtieths more)

/-- Nothing, or an exponent mark with a sign and digits behind it. -/
def isExponent : List Char → Bool
  | [] => true
  | mark :: sign :: digits =>
    (mark == 'e' || mark == 'E') && (sign == '+' || sign == '-') && digits ≠ [] &&
      digits.all Char.isDigit
  | _ => false

def isFraction (text : List Char) : Bool :=
  isExponent (text.dropWhile fun c => c.isDigit || c == '_')

def isFloat (text : List Char) : Bool :=
  let body := dropSign text
  let whole := body.takeWhile (· ≠ '.')
  match body.dropWhile (· ≠ '.') with
  | [] => false
  | _ :: fraction =>
    match Text.pieces ':' whole with
    | [[]] =>
      (spellings "inf").contains (.ofList fraction) ||
        (body = text && (["nan", "NaN", "NAN"].contains (.ofList fraction) ||
          (startsWithDigit fraction && isFraction fraction)))
    | [first] => startsWithDigit first && allOf Char.isDigit first && isFraction fraction
    | first :: more =>
      startsWithDigit first && allOf Char.isDigit first && areSixtieths more &&
        fraction.all fun c => c.isDigit || c == '_'
    | [] => false

/-! ## Timestamps -/

/-- The parts of a timestamp as texts; `time` is missing for a mere date. -/
structure Stamp where
  year : List Char
  month : List Char
  day : List Char
  time : Option (List Char × List Char × List Char) := none
  fraction : List Char := []
  /-- Minutes from universal time. -/
  offset : Option Int := none

/-- From one to `most` digits in front of a text. -/
def digits? (least most : Nat) (text : List Char) : Option (List Char × List Char) :=
  let digits := (text.take most).takeWhile Char.isDigit
  if digits.length < least then none else some (digits, text.drop digits.length)

def mark? (c : Char) : List Char → Option (List Char)
  | [] => none
  | first :: rest => if first = c then some rest else none

def isSpaceOrTab (c : Char) : Bool := c == ' ' || c == '\t'

def number (digits : List Char) : Nat :=
  (Decimal.natOfDigits? digits).getD 0

/-- The offset at the end of a timestamp. -/
def offset? (text : List Char) : Option (Option Int) :=
  match text, text.dropWhile isSpaceOrTab with
  | [], _ => some none
  | _, ['Z'] => some (some 0)
  | _, sign :: rest => do
    guard (sign = '+' ∨ sign = '-')
    let (hours, rest) ← digits? 1 2 rest
    let minutes ← match rest with
      | [] => some []
      | rest => do
        let (minutes, rest) ← digits? 2 2 (← mark? ':' rest)
        guard (rest = [])
        some minutes
    let span : Int := number hours * 60 + number minutes
    some (some (if sign = '-' then -span else span))
  | _, [] => none

def stamp? (text : List Char) : Option Stamp := do
  let (year, rest) ← digits? 4 4 text
  let (month, rest) ← digits? 1 2 (← mark? '-' rest)
  let (day, rest) ← digits? 1 2 (← mark? '-' rest)
  if rest = [] then return { year, month, day }
  let rest ← match rest with
    | 'T' :: rest => some rest
    | 't' :: rest => some rest
    | c :: rest => if isSpaceOrTab c then some (rest.dropWhile isSpaceOrTab) else none
    | [] => none
  let (hour, rest) ← digits? 1 2 rest
  let (minute, rest) ← digits? 2 2 (← mark? ':' rest)
  let (second, rest) ← digits? 2 2 (← mark? ':' rest)
  let (fraction, rest) := match rest with
    | '.' :: rest => (rest.takeWhile Char.isDigit, rest.dropWhile Char.isDigit)
    | rest => ([], rest)
  let offset ← offset? rest
  return { year, month, day, time := some (hour, minute, second), fraction, offset }

/-- A date alone needs two digits for month and day. -/
def isTimestamp (text : List Char) : Bool :=
  match stamp? text with
  | none => false
  | some stamp => stamp.time.isSome || (stamp.month.length = 2 && stamp.day.length = 2)

/-- The kind of a plain scalar. -/
def kind (text : String) : Tag :=
  let cs := text.toList
  if isTruthWord text then .bool
  else if isFloat cs then .float
  else if isInt cs then .int
  else if text = "<<" then .merge
  else if isNullWord text then .null
  else if isTimestamp cs then .timestamp
  else if text = "=" then .defaultKey
  else if ["!", "&", "*"].contains text then .unknown
  else .text

/-! ## Values -/

def readDigits (base : Nat) (text : List Char) : Except Error Nat :=
  let value? := text.foldlM (fun total c =>
    match Hex.digitValue? c with
    | some digit => if digit < base then some (base * total + digit) else none
    | none => none) 0
  match value? with
  | some value => if text = [] then .error (.integer base "") else .ok value
  | none => .error (.integer base (.ofList text))

/-- Numbers in base sixty, the most significant first. -/
def sexagesimal (parts : List Nat) : Nat :=
  parts.foldl (fun total part => 60 * total + part) 0

def readInt (text : String) : Except Error Int := do
  let cs := text.toList.filter (· ≠ '_')
  if cs = [] then throw .emptyNumber
  let negative := cs.head? = some '-'
  let magnitude ← match dropSign cs with
    | [] => throw .emptyNumber
    | ['0'] => pure 0
    | '0' :: 'b' :: digits => readDigits 2 digits
    | '0' :: 'x' :: digits => readDigits 16 digits
    | '0' :: digits => readDigits 8 ('0' :: digits)
    | body =>
      if body.contains ':' then sexagesimal <$> (Text.pieces ':' body).mapM (readDigits 10)
      else readDigits 10 body
  return if negative then -magnitude else magnitude

def readFloat (text : String) : Except Error Float := do
  let cs := (text.toLower.toList).filter (· ≠ '_')
  if cs = [] then throw .emptyNumber
  let negative := cs.head? = some '-'
  let body := dropSign cs
  if body = [] then throw .emptyNumber
  let decimal (cs : List Char) : Except Error Float :=
    match Decimal.read? cs with
    | some value => .ok value
    | none => .error (.decimal (.ofList cs))
  let magnitude ←
    if body = ".inf".toList then pure (1.0 / 0.0)
    else if body = ".nan".toList then pure (0.0 / 0.0)
    else if body.contains ':' then do
      let parts ← (Text.pieces ':' body).mapM decimal
      pure (parts.reverse.foldl (fun (total, base) part => (total + part * base, base * 60))
        ((0.0 : Float), (1.0 : Float))).1
    else decimal body
  return if negative then -magnitude else magnitude

def readBool (text : String) : Except Error Bool :=
  match truthWords.lookup text.toLower with
  | some value => .ok value
  | none => .error (.truthWord text.toLower)

def microseconds (fraction : List Char) : Nat :=
  let digits := fraction.take 6
  number (digits ++ List.replicate (6 - digits.length) '0')

def readTimestamp (text : String) : Except Error Value := do
  let some stamp := stamp? text.toList | throw .timestamp
  let date := Date.check (number stamp.year) (number stamp.month) (number stamp.day)
  match stamp.time with
  | none => return .date (← date.mapError .calendar)
  | some (hour, minute, second) =>
    let moment := Moment.check date (number hour) (number minute) (number second)
      (microseconds stamp.fraction) stamp.offset
    return .moment (← moment.mapError .calendar)

/-! ## Binary values -/

def base64Letters : List Char :=
  "ABCDEFGHIJKLMNOPQRSTUVWXYZabcdefghijklmnopqrstuvwxyz0123456789+/".toList

/-- The six-bit groups before the padding, letters of no meaning left out, and whether the padding
is complete. `pending` counts the groups of the unfinished byte triple. -/
def base64Groups (pending pads : Nat) : List Char → List Nat × Bool
  | [] => ([], pending = 0)
  | c :: rest =>
    if c = '=' then
      if 2 ≤ pending ∧ 4 ≤ pending + pads + 1 then ([], true)
      else base64Groups pending (if 2 ≤ pending then pads + 1 else pads) rest
    else match base64Letters.findIdx? (· = c) with
      | none => base64Groups pending pads rest
      | some group =>
        let (groups, complete) := base64Groups ((pending + 1) % 4) 0 rest
        (group :: groups, complete)

def base64Bytes : List Nat → List UInt8
  | first :: second :: third :: fourth :: rest =>
    let bits := ((first * 64 + second) * 64 + third) * 64 + fourth
    UInt8.ofNat (bits / 65536) :: UInt8.ofNat (bits / 256) :: UInt8.ofNat bits :: base64Bytes rest
  | [first, second, third] =>
    let bits := (first * 64 + second) * 64 + third
    [UInt8.ofNat (bits / 1024), UInt8.ofNat (bits / 4)]
  | [first, second] => [UInt8.ofNat ((first * 64 + second) / 16)]
  | _ => []

def readBinary (text : String) : Except Error Value :=
  let (groups, complete) := base64Groups 0 0 text.toList
  if text.toList.all (·.toNat < 128) ∧ complete then .ok (.bytes (base64Bytes groups))
  else .error .malformed

end Plain

end ModPack.Yaml
