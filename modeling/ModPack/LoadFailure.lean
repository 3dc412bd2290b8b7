import ModPack.LoadError
import ModPack.Markup

/-!
# What stops loading

Most of what can go wrong is an error about the package. The rest is trouble with the bytes or
values of a file, or with the system, that no such error describes.
-/
namespace ModPack

inductive LoadFailure
  | refused (error : LoadError)
  | yaml (error : Yaml.Error)
  | markup (error : Markup.Error)
  | system (error : OsError)
  deriving DecidableEq, Repr

def LoadFailure.message : LoadFailure → String
  | refused error => error.message
  | yaml error => error.message
  | markup error => error.message
  | system error => error.message

/-- Reports of loading. -/
abbrev Loading := Report LoadFailure

namespace Loading

/-- Stops with an error about the package. -/
def refuse {α : Type} (error : LoadError) : Loading α :=
  Report.fail (.refused error)

/-- Stops with an error about the package when a name is refused. -/
def orRefuse {ε α : Type} (report : Report ε α) (error : ε → LoadError) : Loading α :=
  report.mapError fun cause => .refused (error cause)

end Loading

end ModPack
