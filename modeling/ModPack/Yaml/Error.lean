import ModPack.Text.Quoted
import ModPack.Text.Utf8
import ModPack.Value.Calendar

/-!
# Errors of YAML documents

A text that is no YAML, bytes that are no text, and values whose tag or form promises more than
their text keeps.
-/
namespace ModPack.Yaml

inductive Error
  | undecodable (fault : Utf8.Fault)
  | malformed
  /-- An escape names a code point beyond the last one. -/
  | codePoint
  | calendar (error : CalendarError)
  /-- A value tagged as a truth value is none of the words for one. -/
  | truthWord (word : String)
  | integer (base : Nat) (text : String)
  | decimal (text : String)
  | emptyNumber
  | timestamp
  deriving DecidableEq, Repr

/-- What is wrong with malformed YAML is not spelled out; messages show a tag in its place. -/
def Error.message : Error → String
  | undecodable fault => fault.message
  | malformed => "<yaml>"
  | codePoint => "chr() arg not in range(0x110000)"
  | calendar error => error.message
  | truthWord word => Text.quoted word
  | integer base text =>
    "invalid literal for int() with base " ++ toString base ++ ": " ++ Text.quoted text
  | decimal text => "could not convert string to float: " ++ Text.quoted text
  | emptyNumber => "string index out of range"
  | timestamp => "'NoneType' object has no attribute 'groupdict'"

end ModPack.Yaml
