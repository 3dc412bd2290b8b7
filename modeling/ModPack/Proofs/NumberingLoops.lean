import ModPack.Proofs.CopyFrames
import ModPack.Proofs.NumberedExports
import ModPack.Proofs.RegistryEntries
import ModPack.Proofs.WorkSteps

/-!
# The loops that number exports

What each of the three numbering loops leaves when it succeeds: the entries of its registry with
their indices, the rows of its table, and what it has done to the disk, as `SpritesNumbered`,
`StringsNumbered` and `ActorsNumbered` say it. Each loop takes over from the entries that are
numbered already. Main statements: `numberSprites_ok`, `numberStrings_ok` and `numberActors_ok`.
-/
namespace ModPack

open Work (outcome outcome_bind_ok outcome_seq_ok outcome_onDisk_ok outcome_ofExcept_ok
  outcome_ofReport_ok)

theorem Export.mark_ok {α : Type} [Export α] {item marked : α} {index : Int} :
    Export.mark item index = .ok marked ↔
      Export.state item = .unassembled ∧ Export.withState (.assembled index) item = marked := by
  unfold Export.mark
  cases h : Export.state item <;> simp

variable {site after : Site Exports} {disk : Disk}

namespace Assembly

theorem mark_ok {α : Type} [Export α] {item marked : α} {index : Int} :
    outcome (mark item index) site = (.ok marked, after) ↔
      (Export.state item = .unassembled ∧ Export.withState (.assembled index) item = marked) ∧
        site = after := by
  rw [mark, outcome_ofExcept_ok, mapError_eq_ok, Export.mark_ok]

end Assembly

/-! ## Sprites -/

/-- Making directories keeps those that are there, and a rooted disk rooted. -/
theorem Disk.Rooted.makeDirectories {existOk : Bool} {path : Path} {made : Disk}
    (hrooted : disk.Rooted)
    (h : Disk.outcome (Disk.makeDirectories existOk path) disk = (.ok (), made)) :
    made.Rooted := by
  have hgrows := Disk.grows_of_makeDirectories h
  have htree := Disk.makeDirectories_rooted existOk path disk hrooted.tree
    (hrooted.isDirectory_start path)
  rw [h] at htree
  refine ⟨htree, ?_⟩
  rw [hgrows.workingDirectory]
  exact hgrows.keeps.directories _ hrooted.workingDirectory

/-- Assembling a sprite makes its directory and copies its files there. -/
theorem Sprite.assemble_steps {sprite marked : Sprite} {target : Path} {index : Int}
    (h : outcome (sprite.assemble target index) site = (.ok marked, after)) :
    marked = { sprite with state := .assembled index } ∧ ∃ made copied,
      Disk.outcome (Disk.makeDirectories true target) site.disk = (.ok (), made) ∧
      Disk.outcome (Disk.copyChildren sprite.dir target) made = (.ok (), copied) ∧
      after = { site with disk := copied } := by
  unfold Sprite.assemble at h
  obtain ⟨between, hmake, h⟩ := outcome_seq_ok.1 h
  obtain ⟨made, hmade, rfl⟩ := outcome_onDisk_ok.1 hmake
  obtain ⟨between, hcopy, h⟩ := outcome_seq_ok.1 h
  obtain ⟨copied, hcopied, rfl⟩ := outcome_onDisk_ok.1 hcopy
  obtain ⟨⟨_, rfl⟩, rfl⟩ := Assembly.mark_ok.1 h
  exact ⟨rfl, made, copied, hmade, hcopied, rfl⟩

theorem Sprite.assemble_ok {sprite marked : Sprite} {target : Path} {index : Int}
    (h : outcome (sprite.assemble target index) site = (.ok marked, after)) :
    marked = { sprite with state := .assembled index } ∧ after.held = site.held ∧
      Disk.Keeps site.disk after.disk ∧ (site.disk.Rooted → after.disk.Rooted) := by
  obtain ⟨rfl, made, copied, hmade, hcopied, rfl⟩ := Sprite.assemble_steps h
  have hgrows := Disk.grows_of_makeDirectories hmade
  have hputs := Disk.puts_of_copyChildren (Disk.directory?_of_makeDirectories hmade) hcopied
  refine ⟨rfl, rfl, hgrows.keeps.trans hputs.keeps, fun hrooted => ?_⟩
  exact hputs.rooted (hrooted.makeDirectories hmade)

namespace Assembly

/-- The rows of the sprite table. -/
def spriteRows (index : Nat) (entries : List (Identifier × Sprite)) : List String :=
  (entries.zipIdx index).map fun ((id, _), index) => spriteRow index id

/-- What numbering sprites leaves when others are numbered before them. -/
structure SpritesNumbered (done : List (Identifier × Sprite)) (index : Nat)
    (entries : List (Identifier × Sprite)) (rows : List String) (site after : Site Exports) :
    Prop where
  rows_eq : rows = spriteRows index entries
  held : after.held = { site.held with sprites := after.held.sprites }
  entries_eq : after.held.sprites.entries = done ++ numbered index entries
  keeps : Disk.Keeps site.disk after.disk
  rooted : site.disk.Rooted → after.disk.Rooted

/-- The induction is on the sprites that are left. -/
theorem numberSprites_ok {target : Path} {index : Nat}
    {done entries : List (Identifier × Sprite)} {rows : List String}
    (hheld : site.held.sprites.entries = done ++ entries)
    (h : outcome (numberSprites target index entries) site = (.ok rows, after)) :
    SpritesNumbered done index entries rows site after := by
  induction entries generalizing site index done rows with
  | nil =>
    cases h
    exact ⟨rfl, rfl, hheld, Disk.Keeps.refl _, fun hrooted => hrooted⟩
  | cons entry rest ih =>
    obtain ⟨id, sprite⟩ := entry
    rw [numberSprites] at h
    obtain ⟨marked, between, hone, h⟩ := outcome_bind_ok.1 h
    obtain ⟨rfl, hsame, hkeeps, hrooted⟩ := Sprite.assemble_ok hone
    rw [Work.outcome_hold_bind, Work.outcome_note_bind] at h
    obtain ⟨later, final, hrest, h⟩ := outcome_bind_ok.1 h
    cases h
    have hset : (between.held.sprites.set id
        { sprite with state := .assembled index }).entries =
        (done ++ [(id, { sprite with state := .assembled index })]) ++ rest := by
      rw [hsame]
      exact Registry.entries_set_of_entries hheld
    have hothers := ih hset hrest
    refine ⟨?_, ?_, ?_, hkeeps.trans hothers.keeps, fun hstart => hothers.rooted (hrooted hstart)⟩
    · rw [hothers.rows_eq]
      rfl
    · rw [hothers.held, hsame]
    · rw [hothers.entries_eq, ← List.append_cons]
      rfl

end Assembly

/-! ## Strings -/

/-- Hex digits with anything behind that has no slash name one component of a path. -/
theorem Path.plain_of_digits {digits rest : String} (hne : digits ≠ "")
    (hdigits : ∀ c ∈ digits.toList, Hex.isUpperDigit c = true) (hrest : '/' ∉ rest.toList) :
    Path.Plain (digits ++ rest) := by
  refine Path.plain_append hne (fun c hc => ?_) hrest
  have hdigit := hdigits c hc
  constructor
  · rintro rfl
    exact absurd hdigit (by decide)
  · rintro rfl
    exact absurd hdigit (by decide)

/-- An index in hex, with anything behind it that has no slash. -/
theorem Path.plain_padded_append (width index : Nat) {rest : String} (hrest : '/' ∉ rest.toList) :
    Path.Plain (Hex.padded width index ++ rest) :=
  Path.plain_of_digits (Hex.padded_ne_empty width index) (fun _ => Hex.isUpperDigit_of_mem_padded)
    hrest

theorem Path.plain_padded (width index : Nat) : Path.Plain (Hex.padded width index) := by
  have hplain : Path.Plain (Hex.padded width index ++ "") :=
    Path.plain_padded_append width index List.not_mem_nil
  rwa [String.append_empty] at hplain

theorem NamedString.plain_file (bank : Nat) (index : Nat) :
    Path.Plain (NamedString.idText bank index ++ ".str") := by
  have hne : NamedString.idText bank index ≠ "" := by
    intro hempty
    have hlength : (NamedString.idText bank index).toList.length = 0 := by
      rw [hempty]
      rfl
    have hpos := Hex.length_padded_pos 4 index
    rw [NamedString.toList_idText, List.length_append] at hlength
    omega
  exact Path.plain_of_digits hne (fun _ => NamedString.isUpperDigit_of_mem_idText) (by decide)

/-- A string becomes a new file in its directory, or replaces one there. -/
theorem NamedString.assemble_ok {string marked : NamedString} {target path : Path} {index : Nat}
    {location : Location} (hdir : site.disk.directory? target = some location)
    (h : outcome (string.assemble target index) site = (.ok (marked, path), after)) :
    marked = { string with state := .assembled index } ∧ after.held = site.held ∧
      site.disk.tree.isDirectory (marked.file.1 :: location) = false ∧
      after.disk = site.disk.withEntry (marked.file.1 :: location) marked.file.2 := by
  unfold NamedString.assemble at h
  obtain ⟨between, hwrite, h⟩ := outcome_seq_ok.1 h
  obtain ⟨written, hwritten, rfl⟩ := outcome_onDisk_ok.1 hwrite
  obtain ⟨marked', between, hmark, h⟩ := outcome_bind_ok.1 h
  obtain ⟨⟨_, rfl⟩, rfl⟩ := Assembly.mark_ok.1 hmark
  cases h
  have hplain := NamedString.plain_file string.bank index
  obtain ⟨hfile, rfl⟩ := Disk.writeText_div_ok hdir hplain hwritten
  exact ⟨rfl, rfl, hfile, rfl⟩

namespace Assembly

/-- What numbering strings leaves when others are numbered before them. Their files come to those in
the directory when it holds none of them yet. -/
structure StringsNumbered (done : List (Identifier × NamedString)) (used : List (Nat × Nat))
    (entries : List (Identifier × NamedString)) (location : Location)
    (site after : Site Exports) : Prop where
  held : after.held = { site.held with strings := after.held.strings }
  entries_eq : after.held.strings.entries = done ++ sectioned used entries
  numbers_le : ∀ entry ∈ sectioned used entries, entry.2.number ≤ lastString
  keeps : Disk.KeepsOutside location site.disk after.disk
  files : ((sectioned used entries).map fun entry => entry.2.file.1).Nodup →
    (∀ entry ∈ sectioned used entries,
      site.disk.tree.get? (entry.2.file.1 :: location) = none) →
    (after.disk.tree.children location).Perm
      (((sectioned used entries).map fun entry => entry.2.file) ++
        site.disk.tree.children location)

/-- Files of strings come to those in a directory after a first one has come there. -/
theorem children_perm_cons {before between after : Disk} {location : Location}
    {first : Identifier × NamedString} {others : List (Identifier × NamedString)}
    (hbetween : between = before.withEntry (first.2.file.1 :: location) first.2.file.2)
    (hothers : (others.map fun entry => entry.2.file.1).Nodup →
      (∀ entry ∈ others, between.tree.get? (entry.2.file.1 :: location) = none) →
        (after.tree.children location).Perm
          ((others.map fun entry => entry.2.file) ++ between.tree.children location))
    (hnodup : ((first :: others).map fun entry => entry.2.file.1).Nodup)
    (hmissing : ∀ entry ∈ first :: others,
      before.tree.get? (entry.2.file.1 :: location) = none) :
    (after.tree.children location).Perm
      (((first :: others).map fun entry => entry.2.file) ++ before.tree.children location) := by
  obtain ⟨hfresh, hrest⟩ := List.nodup_cons.1 hnodup
  obtain ⟨hfirst, hmissing⟩ := List.forall_mem_cons.1 hmissing
  have hstill : ∀ entry ∈ others, between.tree.get? (entry.2.file.1 :: location) = none := by
    intro entry hentry
    rw [hbetween, Disk.get?_withEntry_of_ne (List.cons_ne_nil _ _)]
    · exact hmissing entry hentry
    · intro heq
      exact hfresh (List.mem_map.2 ⟨entry, hentry, (List.cons.inj heq).1⟩)
  have hput := FileTree.children_put first.2.file.2 hfirst
  refine (hothers hrest hstill).trans ?_
  rw [hbetween, List.map_cons, List.cons_append]
  exact (hput.append_left _).trans List.perm_middle

/-- The induction is on the strings that are left. -/
theorem numberStrings_ok {target : Path} {location : Location} {used : List (Nat × Nat)}
    {done entries : List (Identifier × NamedString)}
    (hheld : site.held.strings.entries = done ++ entries)
    (hdir : site.disk.directory? target = some location)
    (h : outcome (numberStrings target used entries) site = (.ok (), after)) :
    StringsNumbered done used entries location site after := by
  induction entries generalizing site used done with
  | nil =>
    cases h
    exact ⟨rfl, hheld, by simp [sectioned], Disk.KeepsOutside.refl _ _,
      fun _ _ => List.Perm.refl _⟩
  | cons entry rest ih =>
    obtain ⟨id, string⟩ := entry
    rw [numberStrings] at h
    dsimp only at h
    split at h
    · obtain ⟨_, hrefused, _⟩ := outcome_seq_ok.1 h
      cases hrefused
    next hlast =>
    obtain ⟨⟨marked, path⟩, between, hone, h⟩ := outcome_bind_ok.1 h
    obtain ⟨hmarked, hsame, hfile, hwritten⟩ := NamedString.assemble_ok hdir hone
    have hnumber : marked.number = nextIn used string.bank := by
      rw [hmarked]
      rfl
    have hcons : sectioned used ((id, string) :: rest) =
        (id, marked) :: sectioned ((string.bank, nextIn used string.bank + 1) :: used) rest := by
      rw [sectioned, hmarked]
    dsimp only at h
    rw [Work.outcome_hold_bind, Work.outcome_note_bind] at h
    have hset :
        (between.held.strings.set id marked).entries = (done ++ [(id, marked)]) ++ rest := by
      rw [hsame]
      exact Registry.entries_set_of_entries hheld
    have hkeeps : Disk.KeepsOutside location site.disk between.disk := by
      rw [hwritten]
      exact .withChild hfile
    have hothers := ih hset (by exact hkeeps.directory? hdir) h
    constructor
    case held => rw [hothers.held, hsame]
    case entries_eq => rw [hothers.entries_eq, hcons, ← List.append_cons]
    case numbers_le =>
      rw [hcons]
      refine List.forall_mem_cons.2 ⟨?_, hothers.numbers_le⟩
      rw [hnumber]
      exact Nat.le_of_not_lt hlast
    case keeps => exact hkeeps.trans hothers.keeps
    case files =>
      rw [hcons]
      exact children_perm_cons hwritten hothers.files

end Assembly

/-! ## Actors -/

/-- The script that is read for an actor, to be saved under its index. -/
def Assembly.Drafted (disk : Disk) (target : Path) (actor : Actor) (index : Nat) (script : Script) :
    Prop :=
  ∃ read, (Script.load disk actor.sourcePackage actor.scriptPath).result = .ok read ∧
    script = { read with path := target / (Hex.padded 2 index ++ "_" ++ actor.name ++ ".bpat") }

/-- Assembling an actor drafts its script and leaves all but the log as it is. -/
theorem Actor.assemble_ok {actor marked : Actor} {target : Path} {index : Nat} {script : Script}
    (h : outcome (actor.assemble target index) site = (.ok (marked, script), after)) :
    marked = { actor with state := .assembled index } ∧
      Assembly.Drafted site.disk target actor index script ∧
      ∃ events, after = { site with events } := by
  unfold Actor.assemble at h
  rw [Work.outcome_disk_bind] at h
  obtain ⟨read, between, hread, h⟩ := outcome_bind_ok.1 h
  obtain ⟨hload, rfl⟩ := outcome_ofReport_ok.1 hread
  obtain ⟨marked', between, hmark, h⟩ := outcome_bind_ok.1 h
  obtain ⟨⟨_, rfl⟩, rfl⟩ := Assembly.mark_ok.1 hmark
  cases h
  exact ⟨rfl, ⟨read, hload, rfl⟩, _, rfl⟩

namespace Assembly

theorem introduction_ok {actor id : Identifier} {field : String} {string : NamedString} :
    outcome (introduction actor field id) site = (.ok string, after) ↔
      site.held.strings.get? id = some string ∧ site = after := by
  unfold introduction
  rw [Work.outcome_held_bind]
  cases site.held.strings.get? id with
  | none => simp [refuse, Work.outcome_throw]
  | some found => simp [Work.outcome_pure]

/-- The row of an actor: its index and the ids of the strings that introduce it. -/
def ActorRow (strings : Registry NamedString) (index : Nat) (actor : Actor) (row : String) : Prop :=
  ∃ name tattle nameId tattleId, strings.get? actor.displayName = some name ∧
    strings.get? actor.tattle = some tattle ∧ name.hexId = .ok nameId ∧
    tattle.hexId = .ok tattleId ∧ row = actorRow index nameId tattleId

/-- Numbers one actor and gives its row and its script. -/
def numberActor (target : Path) (index : Nat) (entry : Identifier × Actor) :
    Build (String × Script) := do
  let (id, actor) := entry
  let name ← introduction id "name" actor.displayName
  let tattle ← introduction id "tattle" actor.tattle
  let nameId ← Work.ofExcept (name.hexId.mapError .index)
  let tattleId ← Work.ofExcept (tattle.hexId.mapError .index)
  let (marked, script) ← actor.assemble target index
  Work.hold fun exports => { exports with actors := exports.actors.set id marked }
  Work.note (.actorNumbered index id)
  return (actorRow index nameId tattleId, script)

theorem numberActors_cons (target : Path) (index : Nat) (entry : Identifier × Actor)
    (rest : List (Identifier × Actor)) :
    numberActors target index (entry :: rest) = (do
      let (row, script) ← numberActor target index entry
      let (rows, scripts) ← numberActors target (index + 1) rest
      return (row :: rows, script :: scripts)) := by
  simp only [numberActors, numberActor, bind_assoc, pure_bind]

theorem numberActor_ok {target : Path} {index : Nat} {id : Identifier} {actor : Actor}
    {row : String} {script : Script}
    (h : outcome (numberActor target index (id, actor)) site = (.ok (row, script), after)) :
    ActorRow site.held.strings index actor row ∧ Drafted site.disk target actor index script ∧
      ∃ events, after = { site with
        held := { site.held with
          actors := site.held.actors.set id { actor with state := .assembled index } }
        events } := by
  unfold numberActor at h
  obtain ⟨name, between, hrun, h⟩ := outcome_bind_ok.1 h
  obtain ⟨hname, rfl⟩ := introduction_ok.1 hrun
  obtain ⟨tattle, between, hrun, h⟩ := outcome_bind_ok.1 h
  obtain ⟨htattle, rfl⟩ := introduction_ok.1 hrun
  obtain ⟨nameId, between, hrun, h⟩ := outcome_bind_ok.1 h
  obtain ⟨hnameId, rfl⟩ := outcome_ofExcept_ok.1 hrun
  obtain ⟨tattleId, between, hrun, h⟩ := outcome_bind_ok.1 h
  obtain ⟨htattleId, rfl⟩ := outcome_ofExcept_ok.1 hrun
  obtain ⟨⟨marked, read⟩, between, hone, h⟩ := outcome_bind_ok.1 h
  obtain ⟨rfl, hdrafted, _, rfl⟩ := Actor.assemble_ok hone
  cases h
  refine ⟨⟨name, tattle, nameId, tattleId, hname, htattle, ?_, ?_, rfl⟩, hdrafted, _, rfl⟩
  · exact mapError_eq_ok.1 hnameId
  · exact mapError_eq_ok.1 htattleId

/-- What numbering actors leaves when others are numbered before them. -/
structure ActorsNumbered (target : Path) (done : List (Identifier × Actor)) (index : Nat)
    (entries : List (Identifier × Actor)) (rows : List String) (scripts : List Script)
    (site after : Site Exports) : Prop where
  held : after.held = { site.held with actors := after.held.actors }
  entries_eq : after.held.actors.entries = done ++ numbered index entries
  disk_eq : after.disk = site.disk
  rows : List.Forall₂ (fun ((_, actor), index) row => ActorRow site.held.strings index actor row)
    (entries.zipIdx index) rows
  drafted : List.Forall₂
    (fun ((_, actor), index) script => Drafted site.disk target actor index script)
    (entries.zipIdx index) scripts

/-- The induction is on the actors that are left. -/
theorem numberActors_ok {target : Path} {index : Nat} {done entries : List (Identifier × Actor)}
    {rows : List String} {scripts : List Script}
    (hheld : site.held.actors.entries = done ++ entries)
    (h : outcome (numberActors target index entries) site = (.ok (rows, scripts), after)) :
    ActorsNumbered target done index entries rows scripts site after := by
  induction entries generalizing site index done rows scripts with
  | nil =>
    cases h
    exact ⟨rfl, hheld, rfl, .nil, .nil⟩
  | cons entry rest ih =>
    obtain ⟨id, actor⟩ := entry
    rw [numberActors_cons] at h
    obtain ⟨⟨row, script⟩, between, hone, h⟩ := outcome_bind_ok.1 h
    obtain ⟨hrow, hdrafted, _, rfl⟩ := numberActor_ok hone
    obtain ⟨⟨later, others⟩, final, hrest, h⟩ := outcome_bind_ok.1 h
    cases h
    have hothers := ih (Registry.entries_set_of_entries hheld) hrest
    refine ⟨hothers.held, ?_, hothers.disk_eq, .cons hrow hothers.rows,
      .cons hdrafted hothers.drafted⟩
    rw [hothers.entries_eq, ← List.append_cons]
    rfl

end Assembly

end ModPack
