import ModPack.Proofs.BuildsBeside

/-!
# Builds that nothing has disturbed

Two builds of the same exports, begun on disks that agree on what a build reads, go alike step by
step: they hold the same exports, report the same events and fail at the same step with the same
error. Main statements: `run_matched` and `Package.assemble_undisturbed`.
-/
namespace ModPack

open Disk (Beside Undisturbed Vacant)
open Work (outcome outcome_bind_of_error outcome_onDisk_ok Matched)

namespace Assembly

/-- The sites of two builds into one directory at the same point, begun on the disks `start` and
`start'`. -/
structure Alike (dir : Path) (start start' : Disk) (site other : Site Exports) : Prop where
  held : other.held = site.held
  events : other.events = site.events
  disks : Beside dir start start' site.disk other.disk

end Assembly

open Assembly (Alike)

variable {sources : Location → Prop} {dir path target : Path} {start start' : Disk}
  {site other : Site Exports}

namespace Assembly.Alike

theorem noting (h : Alike dir start start' site other) (events : List Event) :
    Alike dir start start' { site with events := site.events ++ events }
      { other with events := other.events ++ events } :=
  ⟨h.held, congrArg (· ++ events) h.events, h.disks⟩

/-- An export that got its index is held in both builds. -/
theorem holding (h : Alike dir start start' site other) {β : Type} {f : Exports → Exports}
    {event : Event} {next : Unit → Build β}
    (hnext : ∀ site other, Alike dir start start' site other →
      Matched (Alike dir start start') (next ()) site other) :
    Matched (Alike dir start start') (Work.hold f >>= fun _ => Work.note event >>= next) site
      other := by
  have hheld : Alike dir start start' { site with held := f site.held }
      { other with held := f other.held } := ⟨congrArg f h.held, h.events, h.disks⟩
  exact .hold_bind (.note_bind (hnext _ _ (hheld.noting [event])))

theorem onDisk (h : Alike dir start start' site other) {α : Type} {op : Disk.Op α}
    {error : OsError → AssemblyFailure}
    (hop : Disk.Matched (Beside dir start start') op op site.disk other.disk) :
    Matched (Alike dir start start') (Work.onDisk op error) site other :=
  .onDisk hop fun _ _ hdisks => ⟨h.held, h.events, hdisks⟩

end Assembly.Alike

section Steps

variable (hsame : Undisturbed sources dir start start') (hvacant : Vacant sources start dir)
include hsame

theorem Assembly.Alike.makeDirectories (h : Alike dir start start' site other)
    (hpath : Path.Below dir path) (existOk : Bool) {error : OsError → AssemblyFailure} :
    Matched (Alike dir start start') (Work.onDisk (Disk.makeDirectories existOk path) error) site
      other :=
  h.onDisk (h.disks.makeDirectories hsame hpath (List.prefix_refl _) existOk)

theorem Assembly.Alike.writeText (h : Alike dir start start' site other)
    (hpath : Path.Below dir path) (text : String) {error : OsError → AssemblyFailure} :
    Matched (Alike dir start start') (Work.onDisk (Disk.writeText path text) error) site other :=
  h.onDisk (h.disks.writeText hsame hpath text)

include hvacant in
/-- The files of a sprite are among the sources. -/
theorem Sprite.assemble_matched (h : Alike dir start start' site other) {sprite : Sprite}
    {index : Int} {source : Location} (htarget : Path.Below dir target)
    (hthere : start.directory? sprite.dir = some source) (hsource : sources source) :
    Matched (Alike dir start start') (sprite.assemble target index) site other := by
  refine (h.makeDirectories hsame htarget true).bind fun _ _ _ _ _ h => ?_
  refine (h.onDisk (h.disks.copyChildren hsame hvacant htarget hthere hsource)).bind
    fun _ _ _ _ _ h => .ofExcept h _

include hvacant in
/-- So is the script of an actor. -/
theorem Actor.assemble_matched (h : Alike dir start start' site other) {actor : Actor}
    {index : Nat} {source : Location} (hname : Name.fault? actor.name = none)
    (hthere : start.directory? actor.dir = some source) (hsource : sources source) :
    Matched (Alike dir start start') (actor.assemble target index) site other := by
  have hplain : Path.Plain (actor.name ++ ".bscr") := Path.plain_of_fault? hname (by decide)
  have hread := h.disks.readFile_div hsame hvacant hthere hplain hsource
  have hload : Script.load other.disk actor.sourcePackage actor.scriptPath =
      Script.load site.disk actor.sourcePackage actor.scriptPath := Script.load_of_readFile hread
  unfold Actor.assemble
  refine .disk_bind (by rw [hload]) ?_
  refine Matched.bind (.ofReport (h.noting _)) fun _ _ _ _ _ h => ?_
  exact Matched.bind (.ofExcept h _) fun _ _ _ _ _ h => .pure h _

theorem NamedString.assemble_matched (h : Alike dir start start' site other)
    {string : NamedString} {index : Nat} (htarget : Path.Below dir target) :
    Matched (Alike dir start start') (string.assemble target index) site other := by
  have hfile := htarget.div (NamedString.plain_file string.bank index)
  refine (h.writeText hsame hfile _).bind fun _ _ _ _ _ h => ?_
  exact Matched.bind (.ofExcept h _) fun _ _ _ _ _ h => .pure h _

namespace Assembly

include hvacant in
/-- The induction is on the sprites that are left. -/
theorem numberSprites_matched {entries : List (Identifier × Sprite)}
    (h : Alike dir start start' site other) (htarget : Path.Below dir target)
    (hsources : ∀ entry ∈ entries,
      ∃ source, start.directory? entry.2.dir = some source ∧ sources source) (index : Nat) :
    Matched (Alike dir start start') (numberSprites target index entries) site other := by
  induction entries generalizing site other index with
  | nil => exact .pure h _
  | cons entry rest ih =>
    obtain ⟨id, sprite⟩ := entry
    obtain ⟨⟨source, hthere, hsource⟩, hrest⟩ := List.forall_mem_cons.1 hsources
    have hplace := htarget.div (Path.plain_padded 2 index)
    rw [numberSprites]
    refine (Sprite.assemble_matched hsame hvacant h hplace hthere hsource).bind
      fun marked _ _ _ _ h => h.holding fun _ _ h => ?_
    exact (ih h hrest _).bind fun _ _ _ _ _ h => .pure h _

include hvacant in
theorem sprites_matched (h : Alike dir start start' site other) (hpath : Path.Below dir path)
    (hsources : site.held.SourcedFrom start sources) :
    Matched (Alike dir start start') (sprites path) site other := by
  have hrows : Path.Below dir (path / "npc" / "src") :=
    (hpath.div (Path.plain_of_not_mem (by decide))).div (Path.plain_of_not_mem (by decide))
  have htable : Path.Below dir (path / "SpriteTable.xml") :=
    hpath.div (Path.plain_of_not_mem (by decide))
  unfold sprites
  refine .held_bind h.held ?_
  dsimp only
  split
  · exact Matched.bind (.throw h _) fun _ _ _ hnever => by cases hnever
  · refine (h.makeDirectories hsame hpath true).bind fun _ _ _ _ _ h => ?_
    refine (numberSprites_matched hsame hvacant h hrows (fun entry hmem => ?_) _).bind
      fun _ _ _ _ _ h => h.writeText hsame htable _
    exact hsources.sprites entry.1 entry.2 hmem

/-- The induction is on the strings that are left. -/
theorem numberStrings_matched {entries : List (Identifier × NamedString)}
    {used : List (Nat × Nat)} (h : Alike dir start start' site other)
    (htarget : Path.Below dir target) :
    Matched (Alike dir start start') (numberStrings target used entries) site other := by
  induction entries generalizing site other used with
  | nil => exact .pure h _
  | cons entry rest ih =>
    obtain ⟨id, string⟩ := entry
    rw [numberStrings]
    dsimp only
    split
    · exact Matched.bind (.throw h _) fun _ _ _ hnever => by cases hnever
    · refine (NamedString.assemble_matched hsame h htarget).bind fun marked _ _ _ _ h => ?_
      exact h.holding fun _ _ h => ih h

theorem strings_matched (h : Alike dir start start' site other) :
    Matched (Alike dir start start') (strings (dir / "strings")) site other := by
  have hpath : Path.Below dir (dir / "strings") :=
    (Path.Below.refl dir).div (Path.plain_of_not_mem (by decide))
  have hrest {site other : Site Exports} (h : Alike dir start start' site other) :
      Matched (Alike dir start start') (do
        onDisk (Disk.makeDirectories false (dir / "strings"))
        numberStrings (dir / "strings") [] (← Work.held).strings.entries) site other :=
    (h.makeDirectories hsame hpath false).bind fun _ _ _ _ _ h =>
      .held_bind h.held (numberStrings_matched hsame h hpath)
  have hexists : other.disk.pathExists (dir / "strings") =
      site.disk.pathExists (dir / "strings") := by
    rw [Disk.pathExists, Disk.pathExists, h.disks.find_eq hsame hpath]
  unfold strings
  refine .disk_bind (by rw [hexists]) ?_
  dsimp only
  split
  · exact (h.onDisk (h.disks.removeTree hsame)).bind fun _ _ _ _ _ h => hrest h
  · exact hrest h

omit hsame in
theorem introduction_matched (h : Alike dir start start' site other) (actor id : Identifier)
    (field : String) :
    Matched (Alike dir start start') (introduction actor field id) site other := by
  unfold introduction
  refine .held_bind h.held ?_
  split
  · exact .pure h _
  · exact .throw h _

include hvacant in
theorem numberActor_matched {id : Identifier} {actor : Actor} {source : Location}
    (h : Alike dir start start' site other) (hname : Name.fault? actor.name = none)
    (hthere : start.directory? actor.dir = some source) (hsource : sources source) (index : Nat) :
    Matched (Alike dir start start') (numberActor target index (id, actor)) site other := by
  unfold numberActor
  refine (introduction_matched h _ _ _).bind fun name _ _ _ _ h => ?_
  refine (introduction_matched h _ _ _).bind fun tattle _ _ _ _ h => ?_
  refine Matched.bind (.ofExcept h _) fun nameId _ _ _ _ h => ?_
  refine Matched.bind (.ofExcept h _) fun tattleId _ _ _ _ h => ?_
  exact (Actor.assemble_matched hsame hvacant h hname hthere hsource).bind
    fun marked _ _ _ _ h => h.holding fun _ _ h => .pure h _

include hvacant in
/-- The induction is on the actors that are left. -/
theorem numberActors_matched {entries : List (Identifier × Actor)}
    (h : Alike dir start start' site other)
    (hnames : ∀ entry ∈ entries, Name.fault? entry.2.name = none)
    (hsources : ∀ entry ∈ entries,
      ∃ source, start.directory? entry.2.dir = some source ∧ sources source) (index : Nat) :
    Matched (Alike dir start start') (numberActors target index entries) site other := by
  induction entries generalizing site other index with
  | nil => exact .pure h _
  | cons entry rest ih =>
    obtain ⟨id, actor⟩ := entry
    obtain ⟨hname, hnames⟩ := List.forall_mem_cons.1 hnames
    obtain ⟨⟨source, hthere, hsource⟩, hrest⟩ := List.forall_mem_cons.1 hsources
    rw [numberActors_cons]
    refine (numberActor_matched hsame hvacant h hname hthere hsource index).bind
      fun _ _ _ _ _ h => ?_
    exact (ih h hnames hrest _).bind fun _ _ _ _ _ h => .pure h _

include hvacant in
theorem actors_matched (h : Alike dir start start' site other) (hpath : Path.Below dir path)
    (hnamed : site.held.actors.All WellNamed)
    (hsources : site.held.actors.All fun _ actor =>
      ∃ source, start.directory? actor.dir = some source ∧ sources source) :
    Matched (Alike dir start start') (actors path) site other := by
  have htable : Path.Below dir (path / "ActorTypes.xml") :=
    hpath.div (Path.plain_of_not_mem (by decide))
  unfold actors
  refine .held_bind h.held ?_
  dsimp only
  split
  · exact Matched.bind (.throw h _) fun _ _ _ hnever => by cases hnever
  · refine (h.makeDirectories hsame (below_scriptDirectory hpath) true).bind
      fun _ _ _ _ _ h => ?_
    refine (numberActors_matched hsame hvacant h (fun entry hmem => ?_) (fun entry hmem => ?_)
      _).bind fun _ _ _ _ _ h => (h.writeText hsame htable _).bind fun _ _ _ _ _ h => .pure h _
    · have hwell := hnamed entry.1 entry.2 hmem
      have hcarried : entry.2.name = entry.1.name := hwell.carried
      exact hcarried ▸ hwell.name
    · exact hsources entry.1 entry.2 hmem

/-- The induction is on the scripts that are left. -/
theorem saveScripts_matched {scripts : List Script} (h : Alike dir start start' site other)
    (hscripts : ∀ script ∈ scripts, SavedBelow dir script) :
    Matched (Alike dir start start') (saveScripts scripts) site other := by
  induction scripts generalizing site other with
  | nil => exact .pure h _
  | cons script rest ih =>
    obtain ⟨hfirst, hrest⟩ := List.forall_mem_cons.1 hscripts
    rw [saveScripts]
    refine .held_bind h.held ?_
    refine Matched.bind (.ofReport (h.noting _)) fun _ _ _ _ _ h => ?_
    have hsaved : Disk.Matched (Beside dir start start') (script.resolve site.held).script.save
        (script.resolve site.held).script.save _ _ :=
      (h.disks.makeDirectories hsame hfirst.1 (List.prefix_refl _) true).bind fun _ _ _ h =>
        h.writeText hsame hfirst.2 _
    exact (h.onDisk hsaved).bind fun _ _ _ _ _ h => .note_bind (ih (h.noting _) hrest)

include hvacant

/-- Two builds of the same exports go alike, to the last step, when their directory can be made. -/
theorem run_matched (hopen : start.Open dir) {exports : Exports}
    (hnamed : exports.actors.All WellNamed) (hsources : exports.SourcedFrom start sources) :
    Matched (Alike dir start start') (run dir) ⟨start, [], exports⟩ ⟨start', [], exports⟩ := by
  have hself := Path.Below.refl dir
  have hsprite : Path.Below dir (dir / "sprite") := hself.div (Path.plain_of_not_mem (by decide))
  have hbattle : Path.Below dir (dir / "battle") := hself.div (Path.plain_of_not_mem (by decide))
  have hbegin : Matched (Alike dir start start') (onDisk (Disk.makeDirectories true dir))
      ⟨start, [], exports⟩ ⟨start', [], exports⟩ := by
    obtain ⟨made, hmade⟩ := hopen.makeDirectories
    obtain ⟨made', hmade'⟩ := (hsame.open_iff.2 hopen).makeDirectories
    have hdisks := Disk.beside_of_makeDirectories hsame hmade hmade'
    exact .onDisk (.of_outcomes hmade hmade' hdisks) fun _ _ hdisks => ⟨rfl, rfl, hdisks⟩
  rw [run_eq]
  refine Matched.bind (Matched.bind ?_ fun _ lettered _ hbefore _ h => ?_)
    fun scripts _ _ hready _ h => saveScripts_matched hsame h (savedBelow_of_prepare hnamed hready)
  · refine hbegin.bind fun _ made _ hmade _ h => ?_
    obtain ⟨_, _, rfl⟩ := outcome_onDisk_ok.1 hmade
    exact (sprites_matched hsame hvacant h hsprite hsources).bind fun _ _ _ _ _ h =>
      strings_matched hsame h
  · have hactors := (beforeActors_ok hbefore).1
    exact actors_matched hsame hvacant h hbattle (hactors ▸ hnamed) (hactors ▸ hsources.actors)

omit hsame hvacant in
/-- When it cannot be made, the build stops there. -/
theorem run_of_not_open (hopen : ¬ start.Open dir) (exports : Exports) :
    ∃ error after, outcome (run dir) ⟨start, [], exports⟩ =
      (.error (.system error), ⟨after, [], exports⟩) := by
  cases hmade : Disk.outcome (Disk.makeDirectories true dir) start with
  | mk result after =>
    cases result with
    | ok value => exact absurd (Disk.Open.of_makeDirectories hmade) hopen
    | error error =>
      refine ⟨error, after, outcome_bind_of_error ?_⟩
      have hrun : outcome (onDisk (Disk.makeDirectories true dir)) ⟨start, [], exports⟩ =
          ((Disk.outcome (Disk.makeDirectories true dir) start).1.mapError .system,
            (⟨(Disk.outcome (Disk.makeDirectories true dir) start).2, [], exports⟩ :
              Site Exports)) := rfl
      rw [hrun, hmade]
      rfl

end Assembly

include hvacant in
/-- Assembling a package comes to the same from both disks, with the same exports and events. If
its directory can be made at all, the result is the same, and so is what is in the directory. -/
theorem Package.assemble_undisturbed {package : Package}
    (hnamed : package.exports.actors.All WellNamed)
    (hsources : package.exports.SourcedFrom start sources) :
    ((package.assemble start' dir).1.isOk = (package.assemble start dir).1.isOk ∧
      (package.assemble start' dir).2.held = (package.assemble start dir).2.held ∧
      (package.assemble start' dir).2.events = (package.assemble start dir).2.events) ∧
      (start.Open dir → (package.assemble start' dir).1 = (package.assemble start dir).1 ∧
        ∀ location, location.within (start.spot dir) = true →
          (package.assemble start' dir).2.disk.tree.get? location =
            (package.assemble start dir).2.disk.tree.get? location) := by
  have hrun (disk : Disk) : package.assemble disk dir =
      outcome (Assembly.run dir) ⟨disk, [], package.exports⟩ := rfl
  rw [hrun, hrun]
  by_cases hopen : start.Open dir
  · obtain ⟨hresult, hsites⟩ := Assembly.run_matched hsame hvacant hopen hnamed hsources
    exact ⟨⟨by rw [hresult], hsites.held, hsites.events⟩, fun _ => ⟨hresult, hsites.disks.inside⟩⟩
  · obtain ⟨_, _, hfails⟩ := Assembly.run_of_not_open hopen package.exports
    obtain ⟨_, _, hfails'⟩ :=
      Assembly.run_of_not_open (fun h => hopen (hsame.open_iff.1 h)) package.exports
    rw [hfails, hfails']
    exact ⟨⟨rfl, rfl, rfl⟩, fun h => absurd h hopen⟩

end Steps

end ModPack
