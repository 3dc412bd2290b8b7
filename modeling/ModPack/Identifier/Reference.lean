import ModPack.Identifier
import ModPack.Name

/-!
# References to exports

Scripts and sidecar files name an export by a text: `name` for an export of the package the text
belongs to, `package/name` for one of a dependency. Private exports cannot be named from outside.
`parse` reads a reference; it is the counterpart of `referenceFrom`.
-/
namespace ModPack

/-- Why a text is no reference. -/
inductive ReferenceError
  | empty
  /-- Nothing stands after the slash. -/
  | nameRequired (text : String)
  /-- The name after the slash is private to its package. -/
  | privateName (text name : String)
  /-- The package before the slash is the one the text belongs to. -/
  | packageUnneeded (text : String) (cause : NameError)
  | dependencyName (text : String) (cause : NameError)
  | exportName (text : String) (cause : NameError)
  deriving DecidableEq, Repr

namespace ReferenceError

def text : ReferenceError → String
  | empty => ""
  | nameRequired text | privateName text _ | packageUnneeded text _ | dependencyName text _
  | exportName text _ => text

def message : ReferenceError → String
  | empty => "identifier cannot be empty"
  | nameRequired text => "identifier '" ++ text ++ "' requires an export name after the slash"
  | privateName _ name => "identifier '" ++ name ++ "' references a private export"
  | packageUnneeded text _ =>
    "identifier '" ++ text ++ "' needlessly references the current package explicitly"
  | dependencyName text cause | exportName text cause =>
    "identifier '" ++ text ++ "': " ++ cause.message

/-- The refused name behind the error, if there is one. -/
def cause? : ReferenceError → Option NameError
  | packageUnneeded _ cause | dependencyName _ cause | exportName _ cause => some cause
  | _ => none

end ReferenceError

namespace Identifier

/-- The texts before and after the first slash. -/
def splitSlash? (text : String) : Option (String × String) :=
  match text.toList.dropWhile (· ≠ '/') with
  | [] => none
  | _ :: rest => some (.ofList (text.toList.takeWhile (· ≠ '/')), .ofList rest)

/-- Reads a reference written in a text of the package `source`. -/
def parse (text source : String) : Report ReferenceError Identifier := do
  if text.isEmpty then Report.fail .empty
  match splitSlash? text with
  | none =>
    (Name.checkExport text).mapError (.exportName text)
    return ⟨source, text⟩
  | some (package, name) =>
    if name.isEmpty then Report.fail (.nameRequired text)
    (Name.checkExport name).mapError (.exportName text)
    if isPrivateName name then Report.fail (.privateName text name)
    (Report.ofExcept (Name.checkDependency package source)).mapError fun cause =>
      if package = source then .packageUnneeded text cause else .dependencyName text cause
    return ⟨package, name⟩

end Identifier

end ModPack
