import ModPack.CommandLine.Similar
import ModPack.Text.Quoted

/-!
# Options on a command line

Words that begin with a hyphen are options, until a word of two hyphens. Two hyphens begin a long
option, whose value may follow behind an equals sign; one begins a cluster of short options, the
last of which may have its value behind it. A value that is not there is the next word. Main
statement: taking a value leaves no more words than there were.
-/
namespace ModPack.CommandLine

inductive Flag
  | version
  | directory
  | verbose
  | help
  deriving DecidableEq, Repr

/-- An option by its long name, its letter, or both. -/
structure OptionRule where
  flag : Flag
  long : Option String := none
  letter : Option Char := none
  takesValue : Bool := false
  deriving DecidableEq, Repr

/-- What a command line cannot mean. -/
inductive UsageError
  | noSuchOption (name : String) (similar : List String)
  | needsArgument (name : String)
  | takesNoValue (name : String)
  | fileForDirectory (text : String)
  | noSuchCommand (name : String) (similar : List String)
  | missingCommand
  | missingArgument
  | extraArguments (words : List String)
  deriving DecidableEq, Repr

namespace UsageError

/-- Words that may have been meant. -/
def suggestion : List String → String
  | [] => ""
  | [word] => " Did you mean " ++ Text.quoted word ++ "?"
  | words => " (Did you mean one of: " ++ ", ".intercalate (words.map Text.quoted) ++ "?)"

def message : UsageError → String
  | noSuchOption name similar =>
    "No such option " ++ Text.quoted name ++ "." ++ suggestion similar
  | needsArgument name => "Option " ++ Text.quoted name ++ " requires an argument."
  | takesNoValue name => "Option " ++ Text.quoted name ++ " does not take a value."
  | fileForDirectory text =>
    "Invalid value for '-d' / '--dir': Directory " ++ Text.quoted text ++ " is a file."
  | noSuchCommand name similar =>
    "No such command " ++ Text.quoted name ++ "." ++ suggestion similar
  | missingCommand => "Missing command."
  | missingArgument => "Missing argument 'NAME'."
  | extraArguments words =>
    (if words.length = 1 then "Got unexpected extra argument ("
      else "Got unexpected extra arguments (") ++ " ".intercalate words ++ ")"

/-- Errors in how an option is used are told without naming the command. -/
def namesCommand : UsageError → Bool
  | needsArgument _ | takesNoValue _ => false
  | _ => true

end UsageError

/-- An option that was read, with its value. -/
abbrev Given := Flag × String

/-- The value of an option: what is attached to it, or else the next word. -/
def takeValue (name : String) (attached : Option String) (rest : List String) :
    Except UsageError (String × List String) :=
  match attached, rest with
  | some value, rest => .ok (value, rest)
  | none, value :: rest => .ok (value, rest)
  | none, [] => .error (.needsArgument name)

/-- A cluster of option letters. -/
def readLetters (rules : List OptionRule) (rest : List String) :
    List Char → Except UsageError (List Given × List String)
  | [] => .ok ([], rest)
  | c :: letters =>
    let name := String.ofList ['-', c]
    match rules.find? fun rule => rule.letter = some c with
    | none => .error (.noSuchOption name [])
    | some rule =>
      if rule.takesValue then do
        let attached := if letters = [] then none else some (String.ofList letters)
        let (value, rest) ← takeValue name attached rest
        return ([(rule.flag, value)], rest)
      else do
        let (given, rest) ← readLetters rules rest letters
        return ((rule.flag, "") :: given, rest)

/-- A word cut at its first equals sign. -/
def cutAtEquals (word : String) : String × Option String :=
  let cs := word.toList
  match cs.dropWhile (· ≠ '=') with
  | [] => (word, none)
  | _ :: value => (.ofList (cs.takeWhile (· ≠ '=')), some (.ofList value))

/-- One word that is an option, with the word behind it if that is its value. -/
def readOption (rules : List OptionRule) (word : String) (rest : List String) :
    Except UsageError (List Given × List String) :=
  let (name, attached) := cutAtEquals word
  match rules.find? fun rule => rule.long = some name with
  | some rule =>
    if rule.takesValue then do
      let (value, rest) ← takeValue name attached rest
      return ([(rule.flag, value)], rest)
    else if attached.isSome then .error (.takesNoValue name)
    else .ok ([(rule.flag, "")], rest)
  | none =>
    if word.startsWith "--" then
      .error (.noSuchOption name (Similar.closeTo name (rules.filterMap OptionRule.long)))
    else readLetters rules rest (word.toList.drop 1)

def isOption (word : String) : Bool :=
  word.startsWith "-" && 1 < word.length

theorem length_of_takeValue {name : String} {attached : Option String} {rest after : List String}
    {value : String} (h : takeValue name attached rest = .ok (value, after)) :
    after.length ≤ rest.length := by
  unfold takeValue at h
  split at h <;> cases h <;> simp

/-- The options of a command line and its other words. When `mixed`, options may stand behind other
words; else the first other word ends them. -/
def readWords (rules : List OptionRule) (mixed : Bool) (words : List String) :
    Except UsageError (List Given × List String) :=
  match words with
  | [] => .ok ([], [])
  | word :: rest =>
    if word = "--" then .ok ([], rest)
    else if isOption word then
      match readOption rules word rest with
      | .error error => .error error
      | .ok (given, after) =>
        if _ : after.length ≤ rest.length then do
          let (more, others) ← readWords rules mixed after
          return (given ++ more, others)
        else .ok (given, after)
    else if mixed then do
      let (given, others) ← readWords rules mixed rest
      return (given, word :: others)
    else .ok ([], word :: rest)
termination_by words.length
decreasing_by all_goals simp; try omega

end ModPack.CommandLine
