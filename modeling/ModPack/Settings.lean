/-!
# Settings

The names of a package's files and directories, and what new packages start with.
-/
namespace ModPack

structure Settings where
  manifestName : String := "starpkg.yaml"
  ignoreFileName : String := ".gitignore"
  sourceDirectory : String := "src"
  buildDirectory : String := ".build"
  initialVersion : String := "0.1.0"
  deriving DecidableEq, Repr, Inhabited

namespace Settings

/-- The environment may name another build directory. -/
def ofEnvironment (buildDirectory : Option String) : Settings :=
  match buildDirectory with
  | none => {}
  | some buildDirectory => { buildDirectory }

/-- What the ignore file of a new package holds: the build directory is left out. -/
def ignoreFileContents (settings : Settings) : String :=
  "/" ++ settings.buildDirectory ++ "\n"

end Settings

end ModPack
