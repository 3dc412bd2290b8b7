import ModPack.CommandLine.Help
import ModPack.CommandLine.Option
import ModPack.CommandLine.Terminal
import ModPack.Failure

/-!
# The command line

Options of the program come first, then a command and its words. The verbosity takes effect once
the command is known, so a bad command is told before that and bad words of the command after it.
An error ends the program with status one, wrong usage with status two. Main statement: a call
without words changes nothing.
-/
namespace ModPack.CommandLine

/-- What a call of the program comes to. -/
structure Outcome where
  status : Nat := 0
  /-- What is printed. -/
  output : String := ""
  /-- What is reported of an error. -/
  report : String := ""
  /-- What is told about usage, when the status is two. -/
  usage : Option String := none
  /-- A failure that is not reported but ends the program. -/
  unexpected : Option Failure := none
  /-- The level of events shown; it is not set until the command is known. -/
  level : Option LogLevel := none
  events : List Event := []
  disk : Disk

/-- The options of the program, not checked against the disk yet. -/
structure Request where
  directory : Option String := none
  verbosity : Nat := 0
  words : List String := []
  deriving Repr

def programRules : List OptionRule := [
  { flag := .version, long := "--version" },
  { flag := .directory, long := "--dir", letter := 'd', takesValue := true },
  { flag := .verbose, letter := 'v' },
  { flag := .help, long := "--help" }]

def commandRules : List OptionRule := [{ flag := .help, long := "--help" }]

def toldUsage (disk : Disk) (command : Option Command) (error : UsageError) : Outcome :=
  let place :=
    if error.namesCommand then usageLine command ++ helpHint command ++ "\n" else ""
  { status := 2, usage := some (place ++ "Error: " ++ error.message ++ "\n"), disk }

/-- What to print when an option asks for that instead of any work: the first such option counts. -/
def printed? (command : Option Command) (given : List Given) : Option String :=
  given.findSome? fun (flag, _) => match flag with
    | .version => some versionText
    | .help => some (helpText command)
    | _ => none

/-- A text that is the path of a file. Spelled like a directory, a file is not found. -/
def namesFile (disk : Disk) (text : String) : Bool :=
  disk.isFile (.ofString text) && Path.isPart ((Text.splitAt '/' text).getLastD "")

/-- The program's own options, or what the call comes to without a command. -/
def request (disk : Disk) (words : List String) : Except Outcome Request :=
  match readWords programRules false words with
  | .error error => .error (toldUsage disk none error)
  | .ok (given, words) =>
    match printed? none given with
    | some output => .error { output, disk }
    | none =>
      let directory := (given.reverse.find? fun (flag, _) => flag = .directory).map (·.2)
      match directory.filter (namesFile disk) with
      | some text => .error (toldUsage disk none (.fileForDirectory text))
      | none => .ok ⟨directory, given.countP fun (flag, _) => flag = .verbose, words⟩

/-- A word that begins like an option. -/
def beginsLikeOption (word : String) : Bool :=
  match word.toList with
  | [] => false
  | c :: _ => !c.isAlphanum

/-- The command that a request names, with its words. Words that begin like options are read as
options of the program once more before they are refused. -/
def commandOf (disk : Disk) (request : Request) : Except Outcome (Command × List String) :=
  match request.words with
  | [] => .error (toldUsage disk none .missingCommand)
  | word :: words =>
    match Command.ofName? word with
    | some command => .ok (command, words)
    | none => do
      if beginsLikeOption word then discard <| CommandLine.request disk (word :: words)
      throw (toldUsage disk none (.noSuchCommand word
        (Similar.closeTo word (Command.all.map Command.name))))

/-- The words that a command gets, or what the call comes to without doing anything. -/
def argumentsOf (disk : Disk) (command : Command) (words : List String) :
    Except Outcome (List String) :=
  match readWords commandRules true words with
  | .error error => .error (toldUsage disk (some command) error)
  | .ok (given, words) =>
    match printed? (some command) given, command, words with
    | some output, _, _ => .error { output, disk }
    | none, .build, [] => .ok []
    | none, .build, words => .error (toldUsage disk (some command) (.extraArguments words))
    | none, .new, [] => .error (toldUsage disk (some command) .missingArgument)
    | none, .new, [name] => .ok [name]
    | none, .new, _ :: words => .error (toldUsage disk (some command) (.extraArguments words))

/-- The report of an error: from the second step of verbosity on, with its causes. -/
def reportOf (verbosity : Nat) (failure : Failure) : String :=
  let first := "Error: " ++ failure.message ++ "\n"
  let causes := if 2 ≤ verbosity then
      failure.causes.map fun cause => "  caused by: " ++ cause.message ++ "\n"
    else []
  Terminal.shown (first ++ String.join causes)

abbrev Program := Work Unit Failure

def workingPath (disk : Disk) : Path :=
  disk.workingDirectory.toPath

/-- The package to build: that of the given directory, or the nearest around the working one. -/
def chosenPackage (settings : Settings) (directory : Option Path) : Program Package := do
  let disk ← Work.disk
  match directory with
  | some dir => Work.ofReport (Package.load settings disk dir) Failure.ofLoad
  | none => Work.ofReport (Package.find settings disk (workingPath disk)) Failure.ofFind

/-- The directory for a new package: the given one, or that of the nearest package, or else the
working one. -/
def chosenDirectory (settings : Settings) (directory : Option Path) : Program Path := do
  let disk ← Work.disk
  let found := Package.find settings disk (workingPath disk)
  match directory, found.result with
  | some dir, _ => return dir
  | none, .error (.find (.notFound ..)) => do
    Work.noteAll found.events
    return workingPath disk
  | none, _ => return (← Work.ofReport found Failure.ofFind).dir

/-- Lifts work on something else into the program's. -/
def within {σ ε α : Type} (work : Work σ ε α) (held : σ) (error : ε → Failure) : Program α :=
  fun site =>
    let (result, after) := work { disk := site.disk, events := site.events, held }
    (result.mapError error, { site with disk := after.disk, events := after.events })

def new (settings : Settings) (directory : Option Path) (name : String) : Program Unit := do
  let dir ← chosenDirectory settings directory
  let package ← within (Package.new settings dir name) () Failure.ofNew
  Work.note (.createdPackage package.label package.dir)

/-- `elapsed` is how long the assembly is said to take. -/
def build (settings : Settings) (elapsed : String) (directory : Option Path) : Program Unit := do
  let package ← chosenPackage settings directory
  Work.note (.assembling package.description)
  let dir := package.buildPath settings
  unless (← Work.disk).isDirectory dir do Work.note .creatingBuildDirectory
  within (Assembly.run dir) package.exports Failure.ofAssembly
  Work.note (.assembled package.label elapsed)

def perform (settings : Settings) (elapsed : String) (command : Command)
    (directory : Option Path) (arguments : List String) : Program Unit :=
  match command, arguments with
  | .new, name :: _ => new settings directory name
  | .new, [] => return
  | .build, _ => build settings elapsed directory

/-- Runs a command whose words are in order. -/
def execute (settings : Settings) (elapsed : String) (disk : Disk) (request : Request)
    (command : Command) (arguments : List String) : Outcome :=
  let directory := request.directory.map Path.ofString
  let (result, site) :=
    (perform settings elapsed command directory arguments).run { disk, held := () }
  let outcome : Outcome := { events := site.events, disk := site.disk }
  match result with
  | .ok _ => outcome
  | .error failure =>
    if failure.isReported then
      { outcome with status := 1, report := reportOf request.verbosity failure }
    else { outcome with status := 1, unexpected := some failure }

/-- Sets up the log for a request before its command's words are read. -/
def logged (request : Request) (outcome : Outcome) : Outcome :=
  let (logger, events) := Logger.ofVerbosity request.verbosity
  { outcome with level := some logger.level, events := events ++ outcome.events }

/-- Calls the program. -/
def run (settings : Settings) (elapsed : String) (disk : Disk) (words : List String) : Outcome :=
  if words = [] then { status := 2, usage := some (helpText none), disk }
  else
    let chosen : Except Outcome (Request × Command × List String) := do
      let request ← request disk words
      return (request, ← commandOf disk request)
    match chosen with
    | .error outcome => outcome
    | .ok (request, command, words) =>
      logged request (match argumentsOf disk command words with
        | .error outcome => outcome
        | .ok arguments => execute settings elapsed disk request command arguments)

theorem disk_run_nil (settings : Settings) (elapsed : String) (disk : Disk) :
    (run settings elapsed disk []).disk = disk := rfl

end ModPack.CommandLine
