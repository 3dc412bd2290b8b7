/-!
# Help texts

What the program says about its own use.
-/
namespace ModPack.CommandLine

inductive Command
  | build
  | new
  deriving DecidableEq, Repr

namespace Command

def name : Command → String
  | build => "build"
  | new => "new"

def all : List Command := [build, new]

def ofName? (name : String) : Option Command :=
  all.find? fun command => command.name = name

end Command

def programName : String := "starpkg"

def versionText : String := programName ++ ", version 0.1.0\n"

/-- How the program, or one of its commands, is called. -/
def usageLine : Option Command → String
  | none => "Usage: " ++ programName ++ " [OPTIONS] COMMAND [ARGS]...\n"
  | some .build => "Usage: " ++ programName ++ " build [OPTIONS]\n"
  | some .new => "Usage: " ++ programName ++ " new [OPTIONS] NAME\n"

def helpOption : String := "  --help  Show this message and exit.\n"

/-- The whole help text of the program or of one of its commands. -/
def helpText : Option Command → String
  | none => usageLine none ++ "\n" ++
    "  starpkg - a tool for creating composable Paper Mario mods.\n\n" ++
    "Options:\n" ++
    "  --version            Show the version and exit.\n" ++
    "  -d, --dir DIRECTORY  Path to package directory\n" ++
    "  -v                   Verbosity level (-v: debug, -vv: trace)\n" ++
    "  --help               Show this message and exit.\n\n" ++
    "Commands:\n" ++
    "  build  Assemble the package and its dependencies into a mod directory.\n" ++
    "  new    Set up a new package.\n"
  | some .build => usageLine (some .build) ++ "\n" ++
    "  Assemble the package and its dependencies into a mod directory.\n\n" ++
    "Options:\n" ++ helpOption
  | some .new => usageLine (some .new) ++ "\n" ++
    "  Set up a new package.\n\n" ++
    "  Without --dir, the package goes in the enclosing package's directory if there\n" ++
    "  is one, else in the working directory. Either way a directory that already has\n" ++
    "  files in it gets a NAME subdirectory.\n\n" ++
    "Options:\n" ++ helpOption

/-- Where help on the program or one of its commands is to be found. -/
def helpHint (command : Option Command) : String :=
  let words := programName :: (command.map Command.name).toList ++ ["--help"]
  "Try '" ++ " ".intercalate words ++ "' for help.\n"

end ModPack.CommandLine
