import ModPack.Text.DecimalDigit
import ModPack.Text.Pieces

/-!
# Version texts

A version is three numbers between dots, then possibly a hyphen with a pre-release and a plus sign
with build metadata, both made of words between dots. A number is `0` or begins with a digit from 1
to 9; its further digits may be decimal digits of any script. Main statement: no version is empty.
-/
namespace ModPack.Version

/-- `0`, or a digit from 1 to 9 and decimal digits behind it. -/
def isNumber : List Char → Bool
  | [] => false
  | ['0'] => true
  | first :: rest => '1' ≤ first && first ≤ '9' && rest.all Text.isDecimalDigit

def isWordChar (c : Char) : Bool :=
  c.isAlphanum || c = '-'

def isWord (text : List Char) : Bool :=
  text ≠ [] && text.all isWordChar

/-- Words between dots; there is at least one. -/
def areWords (text : List Char) : Bool :=
  (Text.pieces '.' text).all isWord

/-- The five parts of a version, not checked yet. -/
structure Parts where
  numbers : List (List Char)
  preRelease : Option (List Char)
  build : Option (List Char)
  deriving DecidableEq, Repr

/-- The texts before and after the first `mark`. -/
def cut (mark : Char) (text : List Char) : List Char × Option (List Char) :=
  match text.dropWhile (· ≠ mark) with
  | [] => (text, none)
  | _ :: rest => (text.takeWhile (· ≠ mark), some rest)

/-- Build metadata begins at the first plus sign, a pre-release at the first hyphen before that. -/
def Parts.ofText (text : List Char) : Parts :=
  let (front, build) := cut '+' text
  let (numbers, preRelease) := cut '-' front
  ⟨Text.pieces '.' numbers, preRelease, build⟩

def Parts.isValid (parts : Parts) : Bool :=
  parts.numbers.length = 3 && parts.numbers.all isNumber &&
    parts.preRelease.all areWords && parts.build.all areWords

def isVersion (text : String) : Bool :=
  (Parts.ofText text.toList).isValid

theorem isVersion_empty : isVersion "" = false := by decide

end ModPack.Version
