import ModPack.Proofs.BuildChanges

/-!
# Where builds fail

A build fails before any actor is numbered, at an actor when it is numbered, at the table of actors,
or at a script, when it is resolved or when it is saved. Each stage knows what was done before it,
so what a failed build leaves can be told stage by stage. Main statements: `run_error` and
`prepare_drafted`.
-/
namespace ModPack

open Work (outcome outcome_bind_ok outcome_seq_ok outcome_bind_error outcome_onDisk_ok
  outcome_ofReport_ok Leaves)
open Disk (AddsNoFile Changes)

namespace Assembly

variable {site after between staged ready : Site Exports} {dir target : Path} {location : Location}
  {failure : AssemblyFailure}

/-! ## Where a build fails -/

/-- All that comes before the actors are numbered. -/
def beforeNumbering (dir : Path) : Build (List (Identifier × Actor)) := do
  beforeActors dir
  let registry := (← Work.held).actors
  if lastActor + 1 < registry.size then refuse (.tooManyActors registry.size)
  onDisk (Disk.makeDirectories true (scriptDirectory (dir / "battle")))
  return registry.entries

/-- Everything up to the last actor that is numbered. -/
def numberAll (dir : Path) : Build (List String × List Script) := do
  numberActors (scriptDirectory (dir / "battle")) 0 (← beforeNumbering dir)

theorem prepare_eq (dir : Path) : prepare dir = (do
    let (rows, scripts) ← numberAll dir
    onDisk (Disk.writeText (dir / "battle" / "ActorTypes.xml") (actorTable rows))
    return scripts) := by
  simp only [prepare, actors, numberAll, beforeNumbering, scriptDirectory, bind_assoc]
  congr
  funext _
  congr
  funext exports
  split <;> simp only [bind_assoc, pure_bind]

/-- Where a build fails. -/
inductive Stage
  /-- Before any actor is numbered. -/
  | before
  /-- At the actor with an index, when it is numbered. -/
  | numbering (index : Nat)
  /-- When the table of actors is written. -/
  | table
  /-- At the script of the actor with an index, which does not resolve. -/
  | resolving (index : Nat)
  /-- At the script of the actor with an index, which resolves but is not saved. -/
  | saving (index : Nat)
  deriving DecidableEq, Repr

/-- The build fails there, with what was done before. -/
inductive FailsAt (dir : Path) (site : Site Exports) : Stage → AssemblyFailure → Site Exports → Prop
  | before {failure : AssemblyFailure} {after : Site Exports}
      (run : outcome (beforeNumbering dir) site = (.error failure, after)) :
      FailsAt dir site .before failure after
  | numbering {index : Nat} {entries : List (Identifier × Actor)}
      {staged between after : Site Exports} {rows : List String} {scripts : List Script}
      {entry : Identifier × Actor} {failure : AssemblyFailure}
      (start : outcome (beforeNumbering dir) site = (.ok entries, staged))
      (earlier : outcome (numberActors (scriptDirectory (dir / "battle")) 0 (entries.take index))
        staged = (.ok (rows, scripts), between))
      (here : entries[index]? = some entry)
      (run : outcome (numberActor (scriptDirectory (dir / "battle")) index entry) between =
        (.error failure, after)) :
      FailsAt dir site (.numbering index) failure after
  | table {rows : List String} {scripts : List Script} {staged after : Site Exports}
      {failure : AssemblyFailure}
      (start : outcome (numberAll dir) site = (.ok (rows, scripts), staged))
      (run : outcome (onDisk (Disk.writeText (dir / "battle" / "ActorTypes.xml")
        (actorTable rows))) staged = (.error failure, after)) :
      FailsAt dir site .table failure after
  | resolving {index : Nat} {scripts : List Script} {ready between : Site Exports}
      {script : Script} {cause : ResolveFailure}
      (start : outcome (prepare dir) site = (.ok scripts, ready))
      (earlier : outcome (saveScripts (scripts.take index)) ready = (.ok (), between))
      (here : scripts[index]? = some script)
      (run : (script.resolve between.held).failure = some cause) :
      FailsAt dir site (.resolving index) cause.toAssembly
        { between with events := between.events ++ (script.resolve between.held).events }
  | saving {index : Nat} {scripts : List Script} {ready between after : Site Exports}
      {script : Script} {failure : AssemblyFailure}
      (start : outcome (prepare dir) site = (.ok scripts, ready))
      (earlier : outcome (saveScripts (scripts.take index)) ready = (.ok (), between))
      (here : scripts[index]? = some script)
      (resolved : (script.resolve between.held).failure = none)
      (run : outcome (saveScript script) between = (.error failure, after)) :
      FailsAt dir site (.saving index) failure after

/-- The loop over actors fails at one of them. The induction is on the actors that are left. -/
theorem numberActors_error {first : Nat} {entries : List (Identifier × Actor)}
    (h : outcome (numberActors target first entries) site = (.error failure, after)) :
    ∃ index entry rows scripts between, entries[index]? = some entry ∧
      outcome (numberActors target first (entries.take index)) site =
        (.ok (rows, scripts), between) ∧
      outcome (numberActor target (first + index) entry) between = (.error failure, after) := by
  induction entries generalizing site first with
  | nil => cases h
  | cons entry rest ih =>
    rw [numberActors_cons] at h
    rcases outcome_bind_error.1 h with hone | ⟨⟨row, script⟩, between, hone, h⟩
    · exact ⟨0, entry, [], [], site, rfl, rfl, hone⟩
    rcases outcome_bind_error.1 h with hrest | ⟨_, _, _, hlast⟩
    · obtain ⟨index, other, rows, scripts, last, hother, hearlier, hfails⟩ := ih hrest
      refine ⟨index + 1, other, row :: rows, script :: scripts, last, hother, ?_, ?_⟩
      · rw [List.take_succ_cons, numberActors_cons]
        exact outcome_bind_ok.2 ⟨_, _, hone, outcome_bind_ok.2 ⟨_, _, hearlier, rfl⟩⟩
      · rwa [Nat.add_assoc, Nat.add_comm 1] at hfails
    · cases hlast

theorem numberActors_of_error {first index : Nat} {entries : List (Identifier × Actor)}
    {entry : Identifier × Actor} {rows : List String} {scripts : List Script}
    (hentry : entries[index]? = some entry)
    (hearlier : outcome (numberActors target first (entries.take index)) site =
      (.ok (rows, scripts), between))
    (hfails : outcome (numberActor target (first + index) entry) between =
      (.error failure, after)) :
    outcome (numberActors target first entries) site = (.error failure, after) := by
  induction entries generalizing site first index rows scripts with
  | nil => cases hentry
  | cons head rest ih =>
    rw [numberActors_cons]
    cases index with
    | zero =>
      cases hentry
      cases hearlier
      exact outcome_bind_error.2 (.inl hfails)
    | succ index =>
      rw [List.take_succ_cons, numberActors_cons] at hearlier
      obtain ⟨_, last, hone, hearlier⟩ := outcome_bind_ok.1 hearlier
      obtain ⟨⟨_, _⟩, _, hrest, hlast⟩ := outcome_bind_ok.1 hearlier
      cases hlast
      rw [Nat.add_comm index, ← Nat.add_assoc] at hfails
      exact outcome_bind_error.2 (.inr ⟨_, last, hone,
        outcome_bind_error.2 (.inl (ih hentry hrest hfails))⟩)

/-- The loop over scripts fails at one of them. -/
theorem saveScripts_error {scripts : List Script}
    (h : outcome (saveScripts scripts) site = (.error failure, after)) :
    ∃ (index : Nat) (script : Script) (between : Site Exports), scripts[index]? = some script ∧
      outcome (saveScripts (scripts.take index)) site = (.ok (), between) ∧
      outcome (saveScript script) between = (.error failure, after) := by
  induction scripts generalizing site with
  | nil => cases h
  | cons script rest ih =>
    rw [saveScripts_cons] at h
    rcases outcome_bind_error.1 h with hone | ⟨_, between, hone, hrest⟩
    · exact ⟨0, script, site, rfl, rfl, hone⟩
    · obtain ⟨index, other, last, hother, hearlier, hfails⟩ := ih hrest
      refine ⟨index + 1, other, last, hother, ?_, hfails⟩
      rw [List.take_succ_cons, saveScripts_cons]
      exact outcome_seq_ok.2 ⟨_, hone, hearlier⟩

theorem saveScripts_of_error {index : Nat} {scripts : List Script} {script : Script}
    (hscript : scripts[index]? = some script)
    (hearlier : outcome (saveScripts (scripts.take index)) site = (.ok (), between))
    (hfails : outcome (saveScript script) between = (.error failure, after)) :
    outcome (saveScripts scripts) site = (.error failure, after) := by
  induction scripts generalizing site index with
  | nil => cases hscript
  | cons head rest ih =>
    rw [saveScripts_cons]
    cases index with
    | zero =>
      cases hscript
      cases hearlier
      exact outcome_bind_error.2 (.inl hfails)
    | succ index =>
      rw [List.take_succ_cons, saveScripts_cons] at hearlier
      obtain ⟨last, hone, hrest⟩ := outcome_seq_ok.1 hearlier
      exact outcome_bind_error.2 (.inr ⟨_, last, hone, ih hscript hrest⟩)

/-- A script that does not resolve stops the build before anything of it is written. -/
theorem saveScript_of_failure {script : Script} {cause : ResolveFailure}
    (h : (script.resolve site.held).failure = some cause) :
    outcome (saveScript script) site = (.error cause.toAssembly,
      { site with events := site.events ++ (script.resolve site.held).events }) := by
  unfold saveScript
  rw [Work.outcome_held_bind]
  dsimp only
  rw [h]
  rfl

/-- Where the build fails at a stage it fails. -/
theorem FailsAt.run {stage : Stage} (h : FailsAt dir site stage failure after) :
    outcome (run dir) site = (.error failure, after) := by
  rw [run_eq]
  cases h with
  | before hrun =>
    rw [prepare_eq]
    exact outcome_bind_error.2 (.inl (outcome_bind_error.2 (.inl
      (outcome_bind_error.2 (.inl hrun)))))
  | @numbering index _ _ _ _ _ _ _ _ hstart hearlier hhere hrun =>
    rw [← Nat.zero_add index] at hrun
    have hloop := numberActors_of_error hhere hearlier hrun
    rw [prepare_eq]
    exact outcome_bind_error.2 (.inl (outcome_bind_error.2 (.inl (outcome_bind_error.2
      (.inr ⟨_, _, hstart, hloop⟩)))))
  | table hstart hrun =>
    rw [prepare_eq]
    exact outcome_bind_error.2 (.inl (outcome_bind_error.2 (.inr ⟨_, _, hstart,
      outcome_bind_error.2 (.inl hrun)⟩)))
  | resolving hstart hearlier hhere hrun =>
    exact outcome_bind_error.2 (.inr ⟨_, _, hstart,
      saveScripts_of_error hhere hearlier (saveScript_of_failure hrun)⟩)
  | saving hstart hearlier hhere _ hrun =>
    exact outcome_bind_error.2 (.inr ⟨_, _, hstart, saveScripts_of_error hhere hearlier hrun⟩)

/-- A build that fails does so at one stage. -/
theorem run_error (h : outcome (run dir) site = (.error failure, after)) :
    ∃ stage, FailsAt dir site stage failure after := by
  rw [run_eq] at h
  rcases outcome_bind_error.1 h with hprepare | ⟨scripts, ready, hprepare, hsave⟩
  · rw [prepare_eq] at hprepare
    rcases outcome_bind_error.1 hprepare with hnumber | ⟨⟨rows, scripts⟩, staged, hnumber, htable⟩
    · rcases outcome_bind_error.1 hnumber with hbefore | ⟨entries, staged, hbefore, hactors⟩
      · exact ⟨.before, .before hbefore⟩
      · obtain ⟨index, entry, rows, scripts, between, hentry, hearlier, hfails⟩ :=
          numberActors_error hactors
        rw [Nat.zero_add] at hfails
        exact ⟨.numbering index, .numbering hbefore hearlier hentry hfails⟩
    · rcases outcome_bind_error.1 htable with hwrite | ⟨_, _, _, hlast⟩
      · exact ⟨.table, .table hnumber hwrite⟩
      · cases hlast
  · obtain ⟨index, script, between, hscript, hearlier, hfails⟩ := saveScripts_error hsave
    cases hresolved : (script.resolve between.held).failure with
    | none => exact ⟨.saving index, .saving hprepare hearlier hscript hresolved hfails⟩
    | some cause =>
      rw [saveScript_of_failure hresolved] at hfails
      cases hfails
      exact ⟨.resolving index, .resolving hprepare hearlier hscript hresolved⟩

/-! ## While actors are numbered -/

/-- The actors that are numbered are those of the start, no more than two digits tell apart, strings
have their indices, and the directory of scripts is there. -/
theorem beforeNumbering_ok {entries : List (Identifier × Actor)}
    (h : outcome (beforeNumbering dir) site = (.ok entries, staged)) :
    entries = site.held.actors.entries ∧ staged.held.actors = site.held.actors ∧
      staged.held.strings.entries = sectioned [] site.held.strings.entries ∧
      site.held.actors.size ≤ lastActor + 1 ∧
      staged.disk.directory? (scriptDirectory (dir / "battle")) =
        some (staged.disk.spot (scriptDirectory (dir / "battle"))) := by
  obtain ⟨between, hbefore, h⟩ := outcome_seq_ok.1 h
  obtain ⟨hsame, _, hstrings⟩ := beforeActors_ok hbefore
  rw [Work.outcome_held_bind] at h
  dsimp only at h
  split at h
  · obtain ⟨_, hrefused, _⟩ := outcome_seq_ok.1 h
    cases hrefused
  next hcount =>
  obtain ⟨last, hmake, h⟩ := outcome_seq_ok.1 h
  obtain ⟨made, hmade, rfl⟩ := outcome_onDisk_ok.1 hmake
  cases h
  rw [hsame] at hcount
  exact ⟨congrArg Registry.entries hsame, hsame, hstrings, Nat.le_of_not_lt hcount,
    Disk.directory?_of_makeDirectories hmade⟩

theorem beforeNumbering_changes (dir : Path) (site : Site Exports) :
    Leaves (Changes dir) (beforeNumbering dir) site := by
  have hscripts : Path.Below dir (scriptDirectory (dir / "battle")) :=
    below_scriptDirectory ((Path.Below.refl dir).div (Path.plain_of_not_mem (by decide)))
  refine changes_bind (beforeActors_changes dir site) fun _ between _ => .held_bind ?_
  dsimp only
  split
  · exact changes_of_disk_eq rfl
  · exact changes_bind (.onDisk (Disk.changes_makeDirectories hscripts _ _)) fun _ _ _ =>
      changes_of_disk_eq rfl

theorem beforeNumbering_addsNoFile
    (hsprites : location.within ("sprite" :: site.disk.spot dir) = false)
    (hstrings : location.within ("strings" :: site.disk.spot dir) = false) :
    Leaves (AddsNoFile location) (beforeNumbering dir) site := by
  refine addsNoFile_bind (beforeActors_addsNoFile hsprites hstrings) fun _ between _ =>
    .held_bind ?_
  dsimp only
  split
  · exact addsNoFile_of_disk_eq rfl
  · exact addsNoFile_bind (.onDisk (Disk.makeDirectories_addsNoFile _ _ _ _)) fun _ _ _ =>
      addsNoFile_of_disk_eq rfl

/-! ## Scripts that are read -/

/-- When the actors are numbered their introductions are found, and their scripts are read from what
the disk holds then, to be saved in a directory that is there. -/
theorem prepare_drafted {scripts : List Script}
    (h : outcome (prepare dir) site = (.ok scripts, ready)) :
    site.held.actors.size ≤ lastActor + 1 ∧
      ready.disk.directory? (scriptDirectory (dir / "battle")) =
        some (ready.disk.spot (scriptDirectory (dir / "battle"))) ∧
      ∃ staged, outcome (beforeNumbering dir) site = (.ok site.held.actors.entries, staged) ∧
        (∃ rows, List.Forall₂ (fun ((_, actor), index) row =>
          ActorRow staged.held.strings index actor row) (site.held.actors.entries.zipIdx 0) rows) ∧
        List.Forall₂ (fun ((_, actor), index) script =>
          Drafted staged.disk (scriptDirectory (dir / "battle")) actor index script)
            (site.held.actors.entries.zipIdx 0) scripts := by
  rw [prepare_eq] at h
  obtain ⟨⟨rows, read⟩, marked, hnumber, h⟩ := outcome_bind_ok.1 h
  obtain ⟨written, hwrite, h⟩ := outcome_seq_ok.1 h
  obtain ⟨disk, hwritten, rfl⟩ := outcome_onDisk_ok.1 hwrite
  cases h
  obtain ⟨entries, staged, hstart, hloop⟩ := outcome_bind_ok.1 hnumber
  obtain ⟨rfl, hsame, _, hcount, hdir⟩ := beforeNumbering_ok hstart
  have hnone : staged.held.actors.entries = [] ++ site.held.actors.entries := by
    rw [hsame]
    rfl
  have hnumbered := numberActors_ok hnone hloop
  obtain ⟨there, _, hfile, hput⟩ := Disk.outcome_writeText_ok.1 hwritten
  refine ⟨hcount, ?_, staged, hstart, ⟨rows, hnumbered.rows⟩, hnumbered.drafted⟩
  have hkeeps : Disk.Keeps marked.disk disk := by
    rw [← hput]
    refine .withEntry ?_ (.inr hfile)
    rintro rfl
    rw [FileTree.isDirectory_root] at hfile
    cases hfile
  have hdir := hkeeps.directory? (hnumbered.disk_eq ▸ hdir)
  change disk.directory? _ = some (disk.spot _)
  rw [hdir, hkeeps.spot_eq, hnumbered.disk_eq]

end Assembly

/-- The script is what the file at a location says, read as a script of a package. -/
def Script.ParsedAt (disk : Disk) (location : Location) (path : Path) (package : String)
    (script : Script) : Prop :=
  ∃ content text, disk.tree.get? location = some (.file content) ∧
    Utf8.decode content = .ok text ∧
    (parse (.ofList (Text.unifyNewlines text.toList)) path package).result = .ok script

/-- A script that is loaded is in the file that its path leads to. -/
theorem Script.parsedAt_of_load {disk : Disk} {package : String} {path : Path} {script : Script}
    (h : (Script.load disk package path).result = .ok script) :
    ParsedAt disk (disk.spot path) path package script := by
  unfold Script.load at h
  obtain ⟨source, hread, hparse⟩ := Report.result_bind_ok.1 h
  rw [Report.result_mapError_ok, Report.result_ofExcept] at hread
  unfold readText at hread
  obtain ⟨content, hcontent, hread⟩ := except_bind_ok.1 hread
  obtain ⟨text, htext, hsource⟩ := except_bind_ok.1 hread
  obtain ⟨location, hlocate, hfile⟩ := Disk.readFile_ok.1 (mapError_eq_ok.1 hcontent)
  cases except_pure_ok.1 hsource
  rw [Disk.eq_spot_of_locate hlocate] at hfile
  exact ⟨content, text, hfile, mapError_eq_ok.1 htext, hparse⟩

theorem Script.ParsedAt.of_addsNoFile {before after : Disk} {location : Location} {path : Path}
    {package : String} {script : Script} (h : ParsedAt after location path package script)
    (hadds : AddsNoFile location before after) : ParsedAt before location path package script := by
  obtain ⟨content, text, hfile, htext, hparse⟩ := h
  exact ⟨content, text, hadds.file content hfile, htext, hparse⟩

end ModPack
