import ModPack.Assembly.Item
import ModPack.Package

/-!
# Assembling a package

All exports of a package get their indices in the order of enumeration: sprites from one, strings
from zero in each section, actors from zero. Only then are the battle scripts resolved and saved,
because a script can refer to any export. Tables list the sprites and the actors.
-/
namespace ModPack.Assembly

/-- Work on the exports of one package. -/
abbrev Build := Work Exports AssemblyFailure

def markupDeclaration : String :=
  "<?xml version=\"1.0\" encoding=\"UTF-8\" standalone=\"no\"?>"

/-- The sprites that belong to the player; they are the same in every table. -/
def playerSprites : List String := [
  "<PlayerSprites>",
  "    <Sprite id=\"1\" src=\"01\" name=\"Mario 1\"/>",
  "    <Sprite id=\"2\" src=\"02\" name=\"Mario 2\"/>",
  "    <Sprite id=\"3\" src=\"03\" name=\"Mario 3\"/>",
  "    <Sprite id=\"4\" src=\"04\" name=\"Mario 4\"/>",
  "    <Sprite id=\"5\" src=\"05\" name=\"Mario 5\"/>",
  "    <Sprite id=\"6\" src=\"06\" name=\"Mario 6\"/>",
  "    <Sprite id=\"7\" src=\"07\" name=\"Mario 7\"/>",
  "    <Sprite id=\"8\" src=\"08\" name=\"Mario 8\"/>",
  "    <Sprite id=\"9\" src=\"09\" name=\"Mario 9\"/>",
  "    <Sprite id=\"A\" src=\"0A\" name=\"Peach 1\"/>",
  "    <Sprite id=\"B\" src=\"0B\" name=\"Peach 2\"/>",
  "    <Sprite id=\"C\" src=\"0C\" name=\"Peach 3\"/>",
  "    <Sprite id=\"D\" src=\"0D\" name=\"Peach 4\"/>",
  "</PlayerSprites>"]

def spriteRow (index : Nat) (id : Identifier) : String :=
  "        <Sprite id=\"" ++ Hex.text index ++ "\" src=\"" ++ Hex.padded 2 index ++ "\" name=\"" ++
    id.label ++ "\"/>"

def actorRow (index : Nat) (name tattle : String) : String :=
  "   <Actor id=\"" ++ Hex.padded 2 index ++ "\" name=\"" ++ name ++ "\" tattle=\"" ++ tattle ++
    "\"/>"

/-- The table of all sprites. -/
def spriteTable (rows : List String) : String :=
  "\n".intercalate ([markupDeclaration, "<SpriteTable>", "    <NpcSprites>"] ++ rows ++
    ["    </NpcSprites>"] ++ playerSprites ++ ["</SpriteTable>"])

/-- The table of all actors. -/
def actorTable (rows : List String) : String :=
  "\n".intercalate ([markupDeclaration, "<ActorTypes>"] ++ rows ++ ["</ActorTypes>"])

def refuse {α : Type} (error : AssemblyError) : Build α :=
  throw (.refused error)

def onDisk {α : Type} (op : Disk.Op α) : Build α :=
  Work.onDisk op .system

/-- Assembles sprites from an index on and gives their rows. -/
def numberSprites (target : Path) (index : Nat) : List (Identifier × Sprite) → Build (List String)
  | [] => return []
  | (id, sprite) :: rest => do
    let marked ← sprite.assemble (target / Hex.padded 2 index) index
    Work.hold fun exports => { exports with sprites := exports.sprites.set id marked }
    Work.note (.spriteNumbered index id)
    return spriteRow index id :: (← numberSprites target (index + 1) rest)

def sprites (dir : Path) : Build Unit := do
  let registry := (← Work.held).sprites
  if lastSprite - firstSprite + 1 < registry.size then refuse (.tooManySprites registry.size)
  onDisk (Disk.makeDirectories true dir)
  let rows ← numberSprites (dir / "npc" / "src") firstSprite registry.entries
  onDisk (Disk.writeText (dir / "SpriteTable.xml") (spriteTable rows))

/-- The next index of a section, where `used` holds the next indices of sections begun. -/
def nextIn (used : List (Nat × Nat)) (bank : Nat) : Nat :=
  (used.lookup bank).getD 0

/-- Assembles strings, each with the next index of its section. -/
def numberStrings (target : Path) (used : List (Nat × Nat)) :
    List (Identifier × NamedString) → Build Unit
  | [] => return
  | (id, string) :: rest => do
    let index := nextIn used string.bank
    if lastString < index then refuse (.tooManyStrings string.bank id)
    let (marked, _) ← string.assemble target index
    Work.hold fun exports => { exports with strings := exports.strings.set id marked }
    Work.note (.stringNumbered (NamedString.idText string.bank index) id)
    numberStrings target ((string.bank, index + 1) :: used) rest

/-- Strings go into a directory that holds nothing else. -/
def strings (dir : Path) : Build Unit := do
  if (← Work.disk).pathExists dir then onDisk (Disk.removeTree dir)
  onDisk (Disk.makeDirectories false dir)
  numberStrings dir [] (← Work.held).strings.entries

/-- The string that introduces an actor. -/
def introduction (actor : Identifier) (field : String) (id : Identifier) : Build NamedString := do
  match (← Work.held).strings.get? id with
  | some string => return string
  | none => refuse (.missingString actor field id)

/-- Assembles actors from an index on and gives their rows and scripts. -/
def numberActors (target : Path) (index : Nat) :
    List (Identifier × Actor) → Build (List String × List Script)
  | [] => return ([], [])
  | (id, actor) :: rest => do
    let name ← introduction id "name" actor.displayName
    let tattle ← introduction id "tattle" actor.tattle
    let nameId ← Work.ofExcept (name.hexId.mapError .index)
    let tattleId ← Work.ofExcept (tattle.hexId.mapError .index)
    let (marked, script) ← actor.assemble target index
    Work.hold fun exports => { exports with actors := exports.actors.set id marked }
    Work.note (.actorNumbered index id)
    let (rows, scripts) ← numberActors target (index + 1) rest
    return (actorRow index nameId tattleId :: rows, script :: scripts)

/-- Assembles all actors; their scripts are not saved yet. -/
def actors (dir : Path) : Build (List Script) := do
  let registry := (← Work.held).actors
  if lastActor + 1 < registry.size then refuse (.tooManyActors registry.size)
  let target := dir / "formation" / "import" / "actor"
  onDisk (Disk.makeDirectories true target)
  let (rows, scripts) ← numberActors target 0 registry.entries
  onDisk (Disk.writeText (dir / "ActorTypes.xml") (actorTable rows))
  return scripts

/-- Resolves and saves scripts in order. -/
def saveScripts : List Script → Build Unit
  | [] => return
  | script :: rest => do
    let resolution := script.resolve (← Work.held)
    Work.ofReport ⟨resolution.events, match resolution.failure with
      | some failure => .error failure
      | none => .ok ()⟩ ResolveFailure.toAssembly
    onDisk resolution.script.save
    Work.note (.wroteScript script.path)
    saveScripts rest

/-- Assembles everything into a directory. -/
def run (dir : Path) : Build Unit := do
  onDisk (Disk.makeDirectories true dir)
  sprites (dir / "sprite")
  strings (dir / "strings")
  let scripts ← actors (dir / "battle")
  saveScripts scripts

end Assembly

/-- Assembles a package into a directory: the outcome, and the site with the exports as they are
then. -/
def Package.assemble (package : Package) (disk : Disk) (dir : Path) :
    Except AssemblyFailure Unit × Site Exports :=
  (Assembly.run dir).run { disk, held := package.exports }

end ModPack
