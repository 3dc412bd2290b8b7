import ModPack.Decimal.Text
import ModPack.Text.Quoted
import ModPack.Value.Calendar

/-!
# Document values

The values a document can hold: what manifests and sidecar files are read into. `literal` is the
text of a value inside a message, `plain` its text where a name is wanted. Mapping keys are the same
when they are equal as numbers (truth values count as 0 and 1) or equal as anything else; a mapping
keeps the first of equal keys and the last value. Main statement: what a mapping holds under a key
after a value was put there.
-/
namespace ModPack

inductive Value
  | null
  | bool (value : Bool)
  | int (value : Int)
  | float (value : Float)
  | text (value : String)
  | bytes (value : List UInt8)
  | date (value : Date)
  | moment (value : Moment)
  | list (items : List Value)
  /-- A list of pairs. -/
  | pairs (items : List (Value × Value))
  | map (entries : List (Value × Value))
  | set (items : List Value)
  /-- The collection `levels` above the one that holds this value, once more. -/
  | enclosing (levels : Nat) (isMap : Bool)
  deriving Inhabited

namespace Value

def wrap (opening closing : String) (parts : List String) : String :=
  opening ++ ", ".intercalate parts ++ closing

mutual

/-- The text of a value inside a message. -/
def literal : Value → String
  | null => "None"
  | bool true => "True"
  | bool false => "False"
  | int value => toString value
  | float value => Decimal.text value
  | text value => Text.quoted value
  | bytes value => Text.quotedBytes value
  | date value => value.literal
  | moment value => value.literal
  | list items => wrap "[" "]" (literals items)
  | pairs items => wrap "[" "]" ((literalPairs items).map fun (key, value) =>
      "(" ++ key ++ ", " ++ value ++ ")")
  | map entries => wrap "\x7b" "\x7d" ((literalPairs entries).map fun (key, value) =>
      key ++ ": " ++ value)
  | set [] => "set()"
  | set items => wrap "\x7b" "\x7d" (literals items)
  | enclosing _ false => "[...]"
  | enclosing _ true => "\x7b...\x7d"

def literals : List Value → List String
  | [] => []
  | item :: items => item.literal :: literals items

def literalPairs : List (Value × Value) → List (String × String)
  | [] => []
  | (key, value) :: rest => (key.literal, value.literal) :: literalPairs rest

end

/-- The text of a value where a name is wanted. -/
def plain : Value → String
  | text value => value
  | date value => value.isoText
  | moment value => value.isoText
  | value => value.literal

/-- The value of an integral float. -/
def integral? (value : Float) : Option Int :=
  if value.isNaN || value.isInf then none
  else
    let magnitude := Decimal.Binary.ofBits value.toBits
    let scale := Nat.pow 2 (-magnitude.exponent).toNat
    let whole := magnitude.mantissa * Nat.pow 2 magnitude.exponent.toNat
    if whole % scale ≠ 0 then none
    else some (if value < 0 then -(whole / scale : Nat) else (whole / scale : Nat))

/-- The whole number that a value is equal to. -/
def whole? : Value → Option Int
  | bool value => some (if value then 1 else 0)
  | int value => some value
  | float value => integral? value
  | _ => none

/-- Whether two values are one mapping key. -/
def isKey : Value → Value → Bool
  | null, null => true
  | text first, text second => first = second
  | bytes first, bytes second => first = second
  | date first, date second => first = second
  | moment first, moment second => first = second
  | float first, float second => first == second
  | first, second => match first.whole?, second.whole? with
    | some first, some second => first = second
    | _, _ => false

/-- Puts a value under a key: in the place of an equal key, else behind the others. -/
def putKey (key value : Value) : List (Value × Value) → List (Value × Value)
  | [] => [(key, value)]
  | (known, old) :: rest =>
    if known.isKey key then (known, value) :: rest else (known, old) :: putKey key value rest

/-- The mapping that the entries make in order. -/
def mapOf (entries : List (Value × Value)) : Value :=
  map (entries.foldl (fun known (key, value) => putKey key value known) [])

/-- What entries hold under a text key. -/
def lookup? (key : String) (entries : List (Value × Value)) : Option Value :=
  (entries.find? fun (known, _) => known.isKey (text key)).map (·.2)

/-- Values that count as absent: zero, false and everything empty. -/
def isBlank : Value → Bool
  | null | bool false | int 0 | text "" | bytes [] | list [] | pairs [] | map [] | set [] => true
  | float value => value == 0
  | _ => false

/-- The value itself, or the collection it stands for among those around it. -/
def within (around : List Value) : Value → Value
  | enclosing levels isMap => around.getD levels (enclosing levels isMap)
  | value => value

theorem lookup?_putKey_self (key : String) (value : Value) (entries : List (Value × Value)) :
    lookup? key (putKey (text key) value entries) = some value := by
  induction entries with
  | nil => simp [lookup?, putKey, isKey]
  | cons head rest ih =>
    obtain ⟨known, old⟩ := head
    rw [putKey]
    by_cases h : known.isKey (text key) = true
    · simp [lookup?, h]
    · simpa [lookup?, h] using ih

end Value

end ModPack
