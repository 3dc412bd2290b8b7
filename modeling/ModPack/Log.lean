import ModPack.Identifier
import ModPack.Path
import ModPack.Text.Quoted

/-!
# Log events

Everything the library reports while it works, as data: an event has a level and a text. How much
of it is shown is decided by a logger's level, which the command line sets from its verbosity.
Main statement: a higher verbosity shows every event a lower one shows.
-/
namespace ModPack

inductive LogLevel
  | trace
  | debug
  | info
  | warning
  deriving DecidableEq, Repr

namespace LogLevel

def name : LogLevel → String
  | .trace => "TRACE"
  | .debug => "DEBUG"
  | .info => "INFO"
  | .warning => "WARNING"

def severity : LogLevel → Nat
  | .trace => 5
  | .debug => 10
  | .info => 20
  | .warning => 30

/-- The lowest level shown at a verbosity; beyond the two known steps everything is shown. -/
def ofVerbosity : Int → LogLevel
  | 0 => .info
  | 1 => .debug
  | _ => .trace

/-- An event of this level is shown by a logger set to `threshold`. -/
def shownAt (level threshold : LogLevel) : Bool :=
  threshold.severity ≤ level.severity

end LogLevel

inductive Event
  /-- An export name begins with a capital letter. -/
  | capitalName (name : String)
  /-- A named string was found in a script. -/
  | namedString (path : Path) (line : Nat) (bank : Nat) (name : String)
  /-- A script holds no block. -/
  | emptyScript (name : String)
  /-- An expression has no meaning with its number of arguments. -/
  | leftUntouched (path : Path) (line : Nat) (expression : String)
  | spriteSheet (dir : Path) (palettes animations : Nat)
  | stringsFile (path : Path) (count : Nat)
  | loadingPackage (dir : Path)
  | absoluteDependency (name : String)
  | loadingDependency (name : String) (path : Path)
  /-- A dependency is declared under another name than its own. -/
  | dependencyNamed (declared actual : String)
  | skipping (path : Path)
  | redefined (kind : ExportKind) (id : Identifier) (path : Path)
  | loadedExport (kind : ExportKind) (id : Identifier)
  | packageAlreadyHere
  | usingSubdirectory (dir : Path)
  | spriteNumbered (index : Nat) (id : Identifier)
  | stringNumbered (hexId : String) (id : Identifier)
  | actorNumbered (index : Nat) (id : Identifier)
  | wroteScript (path : Path)
  | createdPackage (package : String) (dir : Path)
  /-- Assembly starts; the description shows the whole package. -/
  | assembling (description : String)
  | creatingBuildDirectory
  | assembled (package elapsed : String)
  | superfluousVerbosity
  deriving DecidableEq, Repr

namespace Event

def level : Event → LogLevel
  | namedString .. | stringNumbered .. | assembling .. => .trace
  | leftUntouched .. | spriteSheet .. | stringsFile .. | loadingPackage .. | loadingDependency ..
  | skipping .. | usingSubdirectory .. | spriteNumbered .. | actorNumbered .. | wroteScript ..
  | creatingBuildDirectory => .debug
  | loadedExport .. | createdPackage .. | assembled .. => .info
  | capitalName .. | emptyScript .. | absoluteDependency .. | dependencyNamed .. | redefined ..
  | packageAlreadyHere | superfluousVerbosity => .warning

def text : Event → String
  | capitalName name => "export name '" ++ name ++ "' begins with an uppercase letter"
  | namedString path line bank name =>
    path.toString ++ ":" ++ toString line ++ ": StringNamedBlock(section=" ++ toString bank ++
      ", name=" ++ Text.quoted name ++ ")"
  | emptyScript name => "'" ++ name ++ "' is empty"
  | leftUntouched path line expression =>
    path.toString ++ ":" ++ toString line ++ ": leaving " ++ expression ++ " untouched"
  | spriteSheet dir palettes animations =>
    dir.toString ++ ": " ++ toString palettes ++ " palettes, " ++ toString animations ++
      " animations"
  | stringsFile path count => path.toString ++ ": " ++ toString count ++ " strings"
  | loadingPackage dir => "loading package: " ++ dir.toString
  | absoluteDependency name => "dependency '" ++ name ++ "' uses an absolute path"
  | loadingDependency name path =>
    "loading dependency '" ++ name ++ "' from path: " ++ path.toString
  | dependencyNamed declared actual =>
    "dependency '" ++ declared ++ "' actually has name '" ++ actual ++ "'"
  | skipping path => "skipping " ++ path.toString
  | redefined kind id path => kind.label id ++ " redefined by " ++ path.toString
  | loadedExport kind id => "loaded " ++ kind.label id
  | packageAlreadyHere => "a package is here already - creating a subdirectory"
  | usingSubdirectory dir =>
    "package dir " ++ dir.toString ++ " already has files - using subdirectory"
  | spriteNumbered index id => "npc sprite " ++ Hex.padded 2 index ++ " = " ++ id.qualified
  | stringNumbered hexId id => "string " ++ hexId ++ " = " ++ id.qualified
  | actorNumbered index id => "actor " ++ Hex.padded 2 index ++ " = " ++ id.qualified
  | wroteScript path => "wrote " ++ path.toString
  | createdPackage package dir => "created package " ++ package ++ " at " ++ dir.toString
  | assembling description => "assembling package:\n" ++ description
  | creatingBuildDirectory => "creating build directory"
  | assembled package elapsed => "assembled " ++ package ++ " in " ++ elapsed
  | superfluousVerbosity => "superfluous verbosity (-vv is max)"

end Event

/-- Where events go: the lowest level shown, and how many outputs show it. -/
structure Logger where
  level : LogLevel
  outputs : Nat
  deriving DecidableEq, Repr

/-- Sets a logger up anew for a verbosity: one output, whatever it had before. -/
def Logger.ofVerbosity (verbosity : Int) : Logger × List Event :=
  (⟨.ofVerbosity verbosity, 1⟩, if 2 < verbosity then [.superfluousVerbosity] else [])

theorem LogLevel.shownAt_ofVerbosity_succ {level : LogLevel} {verbosity : Nat}
    (h : level.shownAt (.ofVerbosity verbosity) = true) :
    level.shownAt (.ofVerbosity (verbosity + 1 : Nat)) = true := by
  have cases : (verbosity = 0 ∨ verbosity = 1) ∨ 2 ≤ verbosity := by omega
  rcases cases with (rfl | rfl) | hv
  · revert h; cases level <;> decide
  · revert h; cases level <;> decide
  · obtain ⟨n, rfl⟩ := Nat.exists_eq_add_of_le' hv
    exact h

end ModPack
