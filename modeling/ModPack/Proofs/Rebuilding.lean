import ModPack.Proofs.DeclarationOrder
import ModPack.Proofs.Leftovers
import ModPack.Proofs.SecondBuild

/-!
# Building over an earlier build

A package is built twice from the same sources, into directories that held different things at
first. Step by step both builds read the same and put the same on their disks, so all that they
differ in afterwards is what was left over in the directories that are not cleared: those of sprites
and of scripts. Main statements: `run_abreast`, `builds_settle` and `builds_leave_stale`.
-/
namespace ModPack

open Work (outcome outcome_bind_ok outcome_seq_ok outcome_onDisk_ok outcome_ofExcept_ok
  outcome_ofReport_ok Tied)

namespace Assembly

/-- Where a build puts the files of sprites. -/
def spritePlace (build : Location) : Location :=
  "npc" :: "sprite" :: build

/-- Where it puts strings. -/
def stringPlace (build : Location) : Location :=
  "strings" :: build

/-- Two builds into the directory `build` at the same point, begun on the disks `first` and
`second`. -/
structure Abreast (build : Location) (first second : Disk) (site other : Site Exports) : Prop where
  held : other.held = site.held
  workingDirectory : site.disk.workingDirectory = first.workingDirectory
  outside : Disk.SameOutside build site.disk other.disk
  settled : Disk.Settled (spritePlace build) first second site.disk other.disk
  kinds : Disk.KeepsKinds (spritePlace build) first site.disk
  kinds' : Disk.KeepsKinds (spritePlace build) second other.disk

variable {build : Location} {first second : Disk} {site other after beside : Site Exports}
  {dir target path : Path}

namespace Abreast

theorem spot_eq (h : Abreast build first second site other) (path : Path) :
    site.disk.spot path = first.spot path := by
  rw [Disk.spot, Disk.spot, Disk.start, Disk.start, h.workingDirectory]

/-- The builds go on with other logs. -/
theorem logging (h : Abreast build first second site other) (events others : List Event) :
    Abreast build first second { site with events } { other with events := others } :=
  ⟨h.held, h.workingDirectory, h.outside, h.settled, h.kinds, h.kinds'⟩

/-- The builds go on with other exports. -/
theorem holding (h : Abreast build first second site other) (held : Exports)
    (events others : List Event) :
    Abreast build first second ⟨site.disk, events, held⟩ ⟨other.disk, others, held⟩ :=
  ⟨rfl, h.workingDirectory, h.outside, h.settled, h.kinds, h.kinds'⟩

/-- Both disks are changed in a step. -/
theorem step (h : Abreast build first second site other) {disk disk' : Disk}
    (hworking : disk.workingDirectory = site.disk.workingDirectory)
    (houtside : Disk.SameOutside build disk disk')
    (hsettled : Disk.Settled (spritePlace build) site.disk other.disk disk disk')
    (hkinds : Disk.KeepsKinds (spritePlace build) site.disk disk)
    (hkinds' : Disk.KeepsKinds (spritePlace build) other.disk disk') :
    Abreast build first second { site with disk } { other with disk := disk' } :=
  ⟨h.held, hworking.trans h.workingDirectory, houtside,
    h.settled.trans hsettled hkinds hkinds', h.kinds.trans hkinds, h.kinds'.trans hkinds'⟩

theorem makeDirectories (h : Abreast build first second site other) {existOk : Bool}
    {error : OsError → AssemblyFailure} :
    Tied (Abreast build first second) (Work.onDisk (Disk.makeDirectories existOk path) error) site
      other := by
  refine .onDisk fun _ disk hdisk _ disk' hdisk' => ⟨rfl, ?_⟩
  have hgrows := Disk.grows_of_makeDirectories hdisk
  have hgrows' := Disk.grows_of_makeDirectories hdisk'
  exact h.step hgrows.workingDirectory (Disk.makeDirectories_sameOutside h.outside hdisk hdisk')
    (Disk.makeDirectories_settled h.outside.workingDirectory hdisk hdisk' _)
    (hgrows.keepsKinds _) (hgrows'.keepsKinds _)

theorem writeText (h : Abreast build first second site other) {text : String}
    {error : OsError → AssemblyFailure} :
    Tied (Abreast build first second) (Work.onDisk (Disk.writeText path text) error) site
      other := by
  refine .onDisk fun _ disk hdisk _ disk' hdisk' => ⟨rfl, ?_⟩
  have hkinds := Disk.writeText_keepsKinds hdisk (spritePlace build)
  have hkinds' := Disk.writeText_keepsKinds hdisk' (spritePlace build)
  obtain ⟨location, hlocate, hfile, rfl⟩ := Disk.outcome_writeText_ok.1 hdisk
  obtain ⟨there, hthere, _, rfl⟩ := Disk.outcome_writeText_ok.1 hdisk'
  obtain rfl : there = location := by
    rw [Disk.eq_spot_of_locate hthere, h.outside.spot_eq, Disk.eq_spot_of_locate hlocate]
  have hfits : Disk.Fits site.disk there (.file (Utf8.encode text)) := hfile
  exact h.step rfl (h.outside.withEntry _ _) (.withEntry hfits.ne_nil _ _ _ _) hkinds hkinds'

end Abreast

end Assembly

open Assembly (Abreast spritePlace stringPlace)

variable {build : Location} {first second : Disk} {site other after beside : Site Exports}
  {dir target path : Path}

/-! ## Sprites -/

/-- The files of a sprite are copied in both builds to a place among those of sprites. -/
theorem Sprite.assemble_tied (h : Abreast build first second site other) {sprite : Sprite}
    {index : Int} (hapart : Location.Apart (first.spot sprite.dir) build)
    (htarget : (first.spot target).within (spritePlace build) = true) :
    Tied (Abreast build first second) (sprite.assemble target index) site other := by
  refine h.makeDirectories.bind fun _ made made' hmade hmade' h => ?_
  obtain ⟨disk, hdisk, rfl⟩ := outcome_onDisk_ok.1 hmade
  obtain ⟨disk', hdisk', rfl⟩ := outcome_onDisk_ok.1 hmade'
  -- Both builds have made the directory that the sprite goes to, at the same place.
  have hto := Disk.directory?_of_makeDirectories hdisk
  have hto' := Disk.directory?_of_makeDirectories hdisk'
  rw [h.outside.spot_eq] at hto'
  have hplace := h.spot_eq target
  dsimp only at hplace
  rw [hplace] at hto hto'
  have hbuild : (first.spot target).within build = true :=
    Location.within_trans htarget (Location.within_append ["npc", "sprite"] _)
  rw [← h.spot_eq] at hapart
  refine Tied.bind (.onDisk fun _ copied hcopied _ copied' hcopied' => ⟨rfl, ?_⟩)
    fun _ _ _ _ _ h => .ofExcept h _
  have hputs := Disk.puts_of_copyChildren hto hcopied
  have hputs' := Disk.puts_of_copyChildren hto' hcopied'
  exact h.step hputs.keeps.workingDirectory
    (h.outside.of_keepsOutside (hputs.keepsOutside.mono hbuild) (hputs'.keepsOutside.mono hbuild))
    (Disk.copyChildren_settled h.outside hapart hbuild htarget hto hto' hcopied hcopied')
    (hputs.keepsKinds _) (hputs'.keepsKinds _)

namespace Assembly

/-- The induction is on the sprites that are left. -/
theorem numberSprites_tied {entries : List (Identifier × Sprite)}
    (h : Abreast build first second site other)
    (hapart : ∀ entry ∈ entries, Location.Apart (first.spot entry.2.dir) build)
    (htarget : (first.spot target).within (spritePlace build) = true) (index : Nat) :
    Tied (Abreast build first second) (numberSprites target index entries) site other := by
  induction entries generalizing site other index with
  | nil => exact .pure h _
  | cons entry rest ih =>
    obtain ⟨id, sprite⟩ := entry
    obtain ⟨hfirst, hrest⟩ := List.forall_mem_cons.1 hapart
    have hplace : (first.spot (target / Hex.padded 2 index)).within (spritePlace build) = true := by
      rw [Disk.spot_div (Path.plain_padded 2 index)]
      exact Location.cons_within _ htarget
    rw [numberSprites]
    refine (Sprite.assemble_tied h hfirst hplace).bind fun marked between beside _ _ h => ?_
    refine .hold_bind (.note_bind ?_)
    rw [h.held]
    exact (ih (h.holding _ _ _) hrest _).bind fun _ _ _ _ _ h => .pure h _

theorem sprites_tied (h : Abreast (first.spot path) first second site other)
    (hclear : site.held.sprites.All fun _ sprite =>
      Location.Apart (first.spot sprite.dir) (first.spot path)) :
    Tied (Abreast (first.spot path) first second) (sprites (path / "sprite")) site other := by
  have hplace : (first.spot (path / "sprite" / "npc" / "src")).within
      (spritePlace (first.spot path)) = true := by
    rw [Disk.spot_div (Path.plain_of_not_mem (by decide)),
      Disk.spot_div (Path.plain_of_not_mem (by decide)),
      Disk.spot_div (Path.plain_of_not_mem (by decide))]
    exact Location.within_append ["src"] _
  unfold sprites
  refine .held_bind h.held ?_
  dsimp only
  split
  · exact Tied.bind (.throw _) fun _ _ _ hnever _ _ => by cases hnever
  · refine h.makeDirectories.bind fun _ made made' hmade _ h => ?_
    obtain ⟨_, _, rfl⟩ := outcome_onDisk_ok.1 hmade
    refine Tied.bind (numberSprites_tied h (fun entry hmem => ?_) hplace _) fun _ _ _ _ _ h =>
      h.writeText
    exact hclear entry.1 entry.2 hmem

/-! ## Strings -/

/-- Strings become the same files in both builds. The induction is on the strings that are left. -/
theorem numberStrings_inside {location : Location} {entries : List (Identifier × NamedString)}
    {used : List (Nat × Nat)} (hheld : other.held = site.held)
    (hinside : other.disk.tree.inside location = site.disk.tree.inside location)
    (hdir : site.disk.directory? target = some location)
    (hdir' : other.disk.directory? target = some location)
    (h : outcome (numberStrings target used entries) site = (.ok (), after))
    (h' : outcome (numberStrings target used entries) other = (.ok (), beside)) :
    beside.held = after.held ∧
      beside.disk.tree.inside location = after.disk.tree.inside location := by
  induction entries generalizing site other used with
  | nil =>
    cases h
    cases h'
    exact ⟨hheld, hinside⟩
  | cons entry rest ih =>
    obtain ⟨id, string⟩ := entry
    rw [numberStrings] at h h'
    dsimp only at h h'
    split at h
    · obtain ⟨_, hrefused, _⟩ := outcome_seq_ok.1 h
      cases hrefused
    next hlast =>
    rw [if_neg hlast] at h'
    obtain ⟨⟨marked, path⟩, between, hone, h⟩ := outcome_bind_ok.1 h
    obtain ⟨⟨marked', path'⟩, between', hone', h'⟩ := outcome_bind_ok.1 h'
    obtain ⟨hmarked, hsame, hfile, hdisk⟩ := NamedString.assemble_ok hdir hone
    obtain ⟨hmarked', hsame', hfile', hdisk'⟩ := NamedString.assemble_ok hdir' hone'
    -- The index is told by the strings before, so both builds write the same file.
    obtain rfl : marked' = marked := hmarked'.trans hmarked.symm
    dsimp only at h h'
    rw [Work.outcome_hold_bind, Work.outcome_note_bind] at h h'
    have hstill {before : Disk} (hbefore : before.directory? target = some location)
        (hfile : before.tree.isDirectory (marked'.file.1 :: location) = false) :
        (before.withEntry (marked'.file.1 :: location) marked'.file.2).directory? target =
          some location :=
      (Disk.Keeps.withEntry (List.cons_ne_nil _ _) (.inr hfile)).directory? hbefore
    refine ih ?_ ?_ ?_ ?_ h h'
    · rw [hsame, hsame', hheld]
    · rw [hdisk, hdisk']
      exact FileTree.inside_put_eq hinside _ _
    · rw [hdisk]
      exact hstill hdir hfile
    · rw [hdisk']
      exact hstill hdir' hfile'

/-- The directory of strings is made anew and nothing outside of it is changed. -/
theorem strings_anew {location : Location} (hrooted : site.disk.Rooted)
    (hbase : site.disk.directory? path = some location)
    (h : outcome (strings (path / "strings")) site = (.ok (), after)) :
    ∃ made, made.tree.inside (stringPlace location) = [(stringPlace location, .directory)] ∧
      made.directory? (path / "strings") = some (stringPlace location) ∧
      outcome (numberStrings (path / "strings") [] site.held.strings.entries)
        { site with disk := made } = (.ok (), after) ∧
      after.disk.workingDirectory = site.disk.workingDirectory ∧
      after.disk.tree.outside (stringPlace location) =
        site.disk.tree.outside (stringPlace location) := by
  obtain ⟨cleared, made, hcleared, hmade, hnumber⟩ := strings_steps h
  obtain ⟨hworking, houtside, hinside, hdir⟩ := Disk.makeDirectories_cleared
    (Path.plain_of_not_mem (by decide)) hrooted hbase hcleared hmade
  have hkeeps := (stringsNumbered hdir hnumber).keeps
  exact ⟨made, hinside, hdir, hnumber, hkeeps.workingDirectory.trans hworking,
    hkeeps.outside.trans houtside⟩

theorem apart_stringPlace (build : Location) :
    Location.Apart (spritePlace build) (stringPlace build) :=
  (Location.Apart.beside (by decide) build).mono (Location.within_append ["npc"] _)

/-- Strings are the same after both builds, whatever was in their directory. -/
theorem strings_abreast (h : Abreast build first second site other)
    (hrooted : site.disk.Rooted) (hrooted' : other.disk.Rooted)
    (hbase : site.disk.directory? path = some build)
    (hbase' : other.disk.directory? path = some build)
    (hrun : outcome (strings (path / "strings")) site = (.ok (), after))
    (hrun' : outcome (strings (path / "strings")) other = (.ok (), beside)) :
    Abreast build first second after beside ∧
      beside.disk.tree.inside (stringPlace build) = after.disk.tree.inside (stringPlace build) := by
  obtain ⟨made, hmade, hdir, hnumber, hworking, hout⟩ := strings_anew hrooted hbase hrun
  obtain ⟨made', hmade', hdir', hnumber', hworking', hout'⟩ := strings_anew hrooted' hbase' hrun'
  have hentries : other.held.strings.entries = site.held.strings.entries := by rw [h.held]
  rw [hentries] at hnumber'
  have hheld : ({ other with disk := made' } : Site Exports).held =
      ({ site with disk := made } : Site Exports).held := h.held
  obtain ⟨hheld, hinside⟩ := numberStrings_inside hheld (hmade'.trans hmade.symm) hdir hdir' hnumber
    hnumber'
  refine ⟨?_, hinside⟩
  have hwithin : (stringPlace build).within build = true :=
    Location.within_cons _ _
  have hkinds {before after : Disk} (hout : after.tree.outside (stringPlace build) =
      before.tree.outside (stringPlace build)) :
      Disk.KeepsKinds (spritePlace build) before after :=
    .of_get? fun location entry hin hentry => by
      rw [FileTree.get?_eq_of_outside_eq hout ((apart_stringPlace build).not_within hin)]
      exact hentry
  have houtside : Disk.SameOutside build after.disk beside.disk := by
    refine ⟨by rw [hworking, hworking', h.outside.workingDirectory], ?_⟩
    rw [FileTree.outside_eq_of_within hout hwithin, FileTree.outside_eq_of_within hout' hwithin,
      h.outside.outside]
  -- In their directory strings are the same, and everywhere else nothing has happened.
  have hsettled : Disk.Settled (spritePlace build) site.disk other.disk after.disk beside.disk := by
    intro location
    cases hlocation : location.within (stringPlace build) with
    | true => exact .inl (FileTree.get?_eq_of_inside_eq hinside hlocation)
    | false =>
      exact .inr (.inl ⟨FileTree.get?_eq_of_outside_eq hout hlocation,
        FileTree.get?_eq_of_outside_eq hout' hlocation⟩)
  have hnext := h.step hworking houtside hsettled (hkinds hout) (hkinds hout')
  obtain ⟨disk', events', _⟩ := beside
  cases hheld
  exact hnext.holding after.held after.events events'

/-! ## Actors and their scripts -/

theorem introduction_tied (h : Abreast build first second site other) (actor id : Identifier)
    (field : String) :
    Tied (Abreast build first second) (introduction actor field id) site other := by
  unfold introduction
  refine .held_bind h.held ?_
  split
  · exact .pure h _
  · exact .throw _

end Assembly

/-- The script of an actor is read outside of the build. -/
theorem Actor.assemble_tied (h : Abreast build first second site other) {actor : Actor}
    {index : Nat} (hname : Name.fault? actor.name = none)
    (hapart : Location.Apart (first.spot actor.dir) build) :
    Tied (Abreast build first second) (actor.assemble target index) site other := by
  have hplain : Path.Plain (actor.name ++ ".bscr") := Path.plain_of_fault? hname (by decide)
  have hout : (site.disk.spot actor.scriptPath).within build = false := by
    rw [h.spot_eq, Actor.scriptPath, Disk.spot_div hplain]
    exact hapart.not_within (Location.within_cons _ _)
  rintro ⟨marked, script⟩ after hrun ⟨marked', script'⟩ beside hrun'
  obtain ⟨rfl, ⟨read, hload, rfl⟩, events, rfl⟩ := Actor.assemble_ok hrun
  obtain ⟨rfl, ⟨read', hload', rfl⟩, events', rfl⟩ := Actor.assemble_ok hrun'
  obtain rfl : read' = read := Script.load_outside h.outside hout hload hload'
  exact ⟨rfl, h.logging events events'⟩

namespace Assembly

theorem numberActor_tied {id : Identifier} {actor : Actor}
    (h : Abreast build first second site other) (hname : Name.fault? actor.name = none)
    (hapart : Location.Apart (first.spot actor.dir) build) (index : Nat) :
    Tied (Abreast build first second) (numberActor target index (id, actor)) site other := by
  unfold numberActor
  refine (introduction_tied h _ _ _).bind fun name _ _ _ _ h => ?_
  refine (introduction_tied h _ _ _).bind fun tattle _ _ _ _ h => ?_
  refine Tied.bind (.ofExcept h _) fun nameId _ _ _ _ h => ?_
  refine Tied.bind (.ofExcept h _) fun tattleId _ _ _ _ h => ?_
  refine (Actor.assemble_tied h hname hapart).bind fun marked between beside _ _ h => ?_
  refine .hold_bind (.note_bind ?_)
  rw [h.held]
  exact .pure (h.holding _ _ _) _

/-- The induction is on the actors that are left. -/
theorem numberActors_tied {entries : List (Identifier × Actor)}
    (h : Abreast build first second site other)
    (hnames : ∀ entry ∈ entries, Name.fault? entry.2.name = none)
    (hapart : ∀ entry ∈ entries, Location.Apart (first.spot entry.2.dir) build) (index : Nat) :
    Tied (Abreast build first second) (numberActors target index entries) site other := by
  induction entries generalizing site other index with
  | nil => exact .pure h _
  | cons entry rest ih =>
    obtain ⟨id, actor⟩ := entry
    obtain ⟨hname, hnames⟩ := List.forall_mem_cons.1 hnames
    obtain ⟨hfirst, hrest⟩ := List.forall_mem_cons.1 hapart
    rw [numberActors_cons]
    refine (numberActor_tied h hname hfirst index).bind fun _ _ _ _ _ h => ?_
    exact (ih h hnames hrest _).bind fun _ _ _ _ _ h => .pure h _

theorem actors_tied (h : Abreast build first second site other)
    (hnamed : site.held.actors.All WellNamed)
    (hclear : site.held.actors.All fun _ actor => Location.Apart (first.spot actor.dir) build) :
    Tied (Abreast build first second) (actors dir) site other := by
  unfold actors
  refine .held_bind h.held ?_
  dsimp only
  split
  · exact Tied.bind (.throw _) fun _ _ _ hnever _ _ => by cases hnever
  · refine h.makeDirectories.bind fun _ made made' hmade _ h => ?_
    obtain ⟨_, _, rfl⟩ := outcome_onDisk_ok.1 hmade
    refine Tied.bind (numberActors_tied h (fun entry hmem => ?_) (fun entry hmem => ?_) _)
      fun _ _ _ _ _ h => h.writeText.bind fun _ _ _ _ _ h => .pure h _
    · have hwell := hnamed entry.1 entry.2 hmem
      have hcarried : entry.2.name = entry.1.name := hwell.carried
      exact hcarried ▸ hwell.name
    · exact hclear entry.1 entry.2 hmem

theorem saveScripts_tied (h : Abreast build first second site other) (scripts : List Script) :
    Tied (Abreast build first second) (saveScripts scripts) site other := by
  induction scripts generalizing site other with
  | nil => exact .pure h _
  | cons script rest ih =>
    rw [saveScripts]
    refine .held_bind h.held ?_
    refine Tied.bind (.ofReport (h.logging _ _)) fun _ _ _ _ _ h => ?_
    refine Tied.bind (.onDisk_bind ?_) fun _ _ _ _ _ h => .note_bind (ih (h.logging _ _))
    exact h.makeDirectories.bind fun _ _ _ _ _ h => h.writeText

/-! ## The whole build -/

/-- What comes after strings leaves their files alone. -/
theorem Steps.inside_strings {made : Disk} {drawn lettered staged : Site Exports}
    {scripts : List Script} (h : Steps site dir made drawn lettered scripts staged)
    (hnamed : site.held.WellNamed) (hsave : outcome (saveScripts scripts) staged = (.ok (), after)) :
    after.disk.tree.inside (stringPlace (site.disk.spot dir)) =
      lettered.disk.tree.inside (stringPlace (site.disk.spot dir)) :=
  FileTree.inside_eq_of_outside_eq (h.actorsDone hnamed (List.Subset.refl _) hsave).keeps.outside
    (Location.Apart.beside (by decide) _)

/-- Two builds of the same exports end abreast. -/
theorem run_abreast (h : Abreast (first.spot dir) first second site other)
    (hrooted : site.disk.Rooted) (hrooted' : other.disk.Rooted) (hnamed : site.held.WellNamed)
    (hclear : site.held.ClearOf first (first.spot dir))
    (hrun : outcome (run dir) site = (.ok (), after))
    (hrun' : outcome (run dir) other = (.ok (), beside)) :
    Abreast (first.spot dir) first second after beside ∧
      beside.disk.tree.inside (stringPlace (first.spot dir)) =
        after.disk.tree.inside (stringPlace (first.spot dir)) := by
  have hnamed' : other.held.WellNamed := h.held ▸ hnamed
  obtain ⟨made, drawn, lettered, scripts, staged, hsteps, hsave⟩ := steps_of_run hrooted hnamed hrun
  obtain ⟨made', drawn', lettered', scripts', staged', hsteps', hsave'⟩ :=
    steps_of_run hrooted' hnamed' hrun'
  have hbase := hsteps.directory_drawn
  have hbase' := hsteps'.directory_drawn
  have hinside := hsteps.inside_strings hnamed hsave
  have hinside' := hsteps'.inside_strings hnamed' hsave'
  -- All places are those that paths lead to on the disk of the first build, as it was at first.
  rw [h.outside.spot_eq] at hbase' hinside'
  rw [h.spot_eq] at hbase hinside hbase' hinside'
  obtain ⟨_, h⟩ := h.makeDirectories _ _ hsteps.onDisk_makes _ _ hsteps'.onDisk_makes
  obtain ⟨_, h⟩ := sprites_tied h hclear.sprites _ _ hsteps.draws _ _ hsteps'.draws
  obtain ⟨h, hletters⟩ := strings_abreast h hsteps.rooted hsteps'.rooted hbase hbase' hsteps.letters
    hsteps'.letters
  obtain ⟨rfl, h⟩ := actors_tied h (hsteps.actors_eq ▸ hnamed.actors)
    (hsteps.actors_eq ▸ hclear.actors) _ _ hsteps.stages _ _ hsteps'.stages
  obtain ⟨_, h⟩ := saveScripts_tied h _ _ _ hsave _ _ hsave'
  exact ⟨h, by rw [hinside, hinside', hletters]⟩

/-! ## Tables -/

theorem ActorRow.eq {strings : Registry NamedString} {index : Nat} {actor : Actor}
    {row other : String} (h : ActorRow strings index actor row)
    (h' : ActorRow strings index actor other) : row = other := by
  obtain ⟨name, tattle, nameId, tattleId, hname, htattle, hnameId, htattleId, rfl⟩ := h
  obtain ⟨name', tattle', nameId', tattleId', hname', htattle', hnameId', htattleId', rfl⟩ := h'
  cases hname.symm.trans hname'
  cases htattle.symm.trans htattle'
  cases hnameId.symm.trans hnameId'
  cases htattleId.symm.trans htattleId'
  rfl

/-- The tables of finished builds of the same exports are the same. -/
theorem Finished.tables {exports : Exports} {built rebuilt : Site Exports}
    (h : Finished exports dir built) (h' : Finished exports dir rebuilt)
    (hheld : rebuilt.held = built.held) :
    (∃ table, built.disk.readFile (dir / "sprite" / "SpriteTable.xml") = .ok table ∧
        rebuilt.disk.readFile (dir / "sprite" / "SpriteTable.xml") = .ok table) ∧
      ∃ table, built.disk.readFile (dir / "battle" / "ActorTypes.xml") = .ok table ∧
        rebuilt.disk.readFile (dir / "battle" / "ActorTypes.xml") = .ok table := by
  refine ⟨⟨_, h.spriteTable, h'.spriteTable⟩, ?_⟩
  obtain ⟨rows, hrows, htable⟩ := h.actorTable
  obtain ⟨others, hothers, htable'⟩ := h'.actorTable
  rw [hheld] at hothers
  have hunique : Relator.RightUnique fun (entry : (Identifier × Actor) × Nat) (row : String) =>
      ActorRow built.held.strings entry.2 entry.1.2 row := fun _ _ _ hrow hother => hrow.eq hother
  obtain rfl : rows = others := hunique.forall₂ hrows hothers
  exact ⟨_, htable, htable'⟩

end Assembly

namespace Package

/-- A package is built twice from the same sources, into a directory that held different things.
Both builds give every export the same index, leave the same in the directory of strings, and write
the same tables. Everywhere else they leave the same, or each leaves what it found; only where one of
them found a directory and the other one has put a file of a sprite, that file has gone into the
directory. So when the directory of sprites held the same at first, both builds leave the same
wherever they found the same. -/
theorem builds_settle {environment : Option String} {first second : Disk} {dir build : Path}
    {built rebuilt : Site Exports}
    (hsame : Disk.SameOutside (first.spot build) first second)
    (hrooted : first.Rooted) (hrooted' : second.Rooted) (hnamed : first.tree.Named)
    (hclear : ∀ start, first.directory? dir = some start →
      AllClearOf (.ofEnvironment environment) first (first.spot build) start)
    (hbuilt : Builds (.ofEnvironment environment) first dir build built)
    (hrebuilt : Builds (.ofEnvironment environment) second dir build rebuilt) :
    rebuilt.held = built.held ∧
      (∀ location, location.within (stringPlace (first.spot build)) = true →
        rebuilt.disk.tree.get? location = built.disk.tree.get? location) ∧
      (∃ table, built.disk.readFile (build / "sprite" / "SpriteTable.xml") = .ok table ∧
        rebuilt.disk.readFile (build / "sprite" / "SpriteTable.xml") = .ok table) ∧
      (∃ table, built.disk.readFile (build / "battle" / "ActorTypes.xml") = .ok table ∧
        rebuilt.disk.readFile (build / "battle" / "ActorTypes.xml") = .ok table) ∧
      Disk.Settled (spritePlace (first.spot build)) first second built.disk rebuilt.disk ∧
      ((∀ location, location.within (spritePlace (first.spot build)) = true →
          second.tree.get? location = first.tree.get? location) →
        ∀ location, second.tree.get? location = first.tree.get? location →
          rebuilt.disk.tree.get? location = built.disk.tree.get? location) := by
  obtain ⟨package, hload, hrun⟩ := hbuilt
  obtain ⟨other, hload', hrun'⟩ := hrebuilt
  obtain ⟨start, _, _, hstart, _⟩ := loadNested_ok.1 hload
  have hplain := Settings.plain_manifestName environment
  have hsource := Settings.plain_sourceDirectory environment
  obtain rfl : other = package := load_clear hsame hnamed hplain hsource hclear hload hload'
  have hloaded := loaded_of_load hload
  obtain ⟨hfinished, hwell⟩ := finished_of_assemble hload hrooted hrun
  obtain ⟨hfinished', _⟩ := finished_of_assemble hload' hrooted' hrun'
  have hexports : other.exports.ClearOf first (first.spot build) :=
    hloaded.clearOf hnamed hplain hsource (dir_of_loadNested hload ▸ hstart) (hclear start hstart)
  have hstart : Abreast (first.spot build) first second
      { disk := first, held := other.exports } { disk := second, held := other.exports } :=
    ⟨rfl, rfl, hsame, .refl _ _ _, .refl _ _, .refl _ _⟩
  obtain ⟨h, hstrings⟩ :=
    Assembly.run_abreast hstart hrooted hrooted' hwell hexports hrun hrun'
  obtain ⟨hsprites, hactors⟩ := hfinished.tables hfinished' h.held
  exact ⟨h.held, fun location => FileTree.get?_eq_of_inside_eq hstrings, hsprites, hactors,
    h.settled, fun hregion location => h.settled.eq_of_start hregion h.kinds h.kinds'⟩

/-- What is in the directory of the build was put there by a build of the package as it was then. -/
def LeftOver (settings : Settings) (disk : Disk) (dir build : Path) : Prop :=
  ∃ earlier built, Builds settings earlier dir build built ∧
    disk.tree.inside (disk.spot build) = built.disk.tree.inside (disk.spot build)

end Package

/-! ## A sprite that is removed between two builds -/

namespace Sample

/-- Packages without declarations depend on nothing. -/
theorem Inventory.allClearOf {disk : Disk} {region start : Location} (inventory : Inventory disk)
    (hnone : ∀ package ∈ inventory.packages, package.2.manifest.dependencies = [])
    (hclear : Package.ClearOf {} region start) : Package.AllClearOf {} disk region start := by
  intro there hreach
  obtain rfl | ⟨_, ⟨_, ⟨dir, manifest, hdir, hread, dependency, hmem, _⟩, _⟩, _⟩ :=
    Relation.ReflTransGen.cases_head hreach
  · exact hclear
  · obtain ⟨file, hknown, rfl⟩ := inventory.mem_of_readManifest hdir hread
    rw [hnone _ hknown] at hmem
    cases hmem

/-- The package with the second sprite only, not built yet. -/
def single : Disk :=
  atelier ["zed"]

theorem rooted_single : single.Rooted where
  tree := FileTree.rooted_of_entries (by decide +kernel)
  workingDirectory := rfl

theorem named_single : single.tree.Named := by
  have hnames : ∀ entry ∈ single.tree.entries, ∀ name ∈ entry.1,
      '/' ∉ name.toList ∧ name ≠ "" ∧ name ≠ "." ∧ name ≠ ".." := by decide +kernel
  exact fun entry hentry name hname => Path.plain_of_not_mem (hnames entry hentry name hname)

def singleInventory : Inventory single where
  packages := [(["atelier"], atelierFile)]
  complete := by decide +kernel
  files := by decide +kernel
  distinct := by decide

theorem allClearOf_single (start : Location) (h : single.directory? atelierPath = some start) :
    Package.AllClearOf {} single (single.spot atelierBuild) start := by
  have hstart : single.directory? atelierPath = some ["atelier"] := by decide +kernel
  cases hstart.symm.trans h
  exact singleInventory.allClearOf (by decide)
    ⟨by decide +kernel, by decide +kernel, by decide +kernel⟩

/-- The package with two sprites. -/
def pair : Disk :=
  atelier ["alf", "zed"]

theorem load_pair :
    (Package.load {} pair atelierPath).result = .ok (atelierPackage ["alf", "zed"]) :=
  load_atelier_of_sorted (by decide) (by decide +kernel)

/-- What its build leaves. -/
def paired : Site Exports :=
  ((atelierPackage ["alf", "zed"]).assemble pair atelierBuild).2

theorem builds_pair : Package.Builds {} pair atelierPath atelierBuild paired :=
  ⟨_, load_pair, eq_of_toOption (by decide +kernel)⟩

/-- What the build of the second sprite alone leaves. -/
def singled : Site Exports :=
  ((atelierPackage ["zed"]).assemble single atelierBuild).2

theorem builds_single : Package.Builds {} single atelierPath atelierBuild singled :=
  ⟨_, load_atelier_of_sorted (by decide) (by decide +kernel), eq_of_toOption (by decide +kernel)⟩

/-- The same package where that build left it when the first sprite was removed. -/
def halved : Disk :=
  paired.disk.without ["alf", "sprite", "src", "atelier"]

def renewed : Site Exports :=
  ((atelierPackage ["zed"]).assemble halved atelierBuild).2

/-- How the disk where the first sprite was removed is read, and what it has in common with the one
that is not built yet. -/
theorem disk_halved :
    (halved.directory? atelierPath = some ["atelier"] ∧
      halved.tree.get? ["starpkg.yaml", "atelier"] = some atelierFile.entry ∧
      (halved.isDirectory (atelierPath / "src" / "actor") = false ∧
        halved.isDirectory (atelierPath / "src" / "string") = false) ∧
      halved.directory? (atelierPath / "src" / "sprite") = some ["sprite", "src", "atelier"] ∧
      halved.tree.children ["sprite", "src", "atelier"] =
        ["zed"].map (fun name => (name, .directory)) ∧
      ∀ name ∈ ["zed"], Name.fault? (atelierPath / "src" / "sprite" / name).name = none ∧
        (halved.readFile (atelierPath / "src" / "sprite" / name / LoadError.sheetName)).toOption =
          some (Utf8.encode sheetText)) ∧
      (halved.workingDirectory = single.workingDirectory ∧
        halved.tree.outside (single.spot atelierBuild) =
          single.tree.outside (single.spot atelierBuild)) ∧
      (∀ entry ∈ halved.tree.entries, halved.tree.isDirectory entry.1.tail = true) ∧
      halved.tree.isDirectory halved.workingDirectory = true := by
  decide +kernel

theorem builds_halved : Package.Builds {} halved atelierPath atelierBuild renewed := by
  obtain ⟨⟨hdirectory, hfile, hothers, hthere, hlist, hnames⟩, _⟩ := disk_halved
  exact ⟨_, load_atelier hdirectory hfile hothers hthere hlist hnames,
    eq_of_toOption (by decide +kernel)⟩

theorem sameOutside_halved : Disk.SameOutside (single.spot atelierBuild) single halved where
  workingDirectory := disk_halved.2.1.1
  outside := disk_halved.2.1.2

theorem rooted_halved : halved.Rooted where
  tree := FileTree.rooted_of_entries disk_halved.2.2.1
  workingDirectory := disk_halved.2.2.2

/-- What lies in the directory of the second sprite of the earlier build. -/
def staleSheet : Location :=
  "SpriteSheet.xml" :: "02" :: "src" :: Assembly.spritePlace [".build", "atelier"]

end Sample

/-- The package is built where nothing was built before, and where it had another sprite. -/
theorem Package.builds_settle_single :
    Disk.SameOutside [".build", "atelier"] Sample.single Sample.halved ∧
      Builds {} Sample.single Sample.atelierPath Sample.atelierBuild Sample.singled ∧
      Builds {} Sample.halved Sample.atelierPath Sample.atelierBuild Sample.renewed ∧
      Sample.renewed.held = Sample.singled.held ∧
      Disk.Settled (spritePlace [".build", "atelier"]) Sample.single Sample.halved
        Sample.singled.disk Sample.renewed.disk := by
  have hclear : ∀ start, Sample.single.directory? Sample.atelierPath = some start →
      AllClearOf (.ofEnvironment none) Sample.single (Sample.single.spot Sample.atelierBuild) start :=
    Sample.allClearOf_single
  obtain ⟨hheld, _, _, _, hsettled, _⟩ := builds_settle Sample.sameOutside_halved
    Sample.rooted_single Sample.rooted_halved Sample.named_single hclear Sample.builds_single
    Sample.builds_halved
  exact ⟨Sample.sameOutside_halved, Sample.builds_single, Sample.builds_halved, hheld, hsettled⟩

/-- When a sprite is removed, the ones behind it move up, and the last directory of the earlier
build stays. -/
theorem Package.builds_leave_stale :
    ¬ ∀ (first second : Disk) (dir build : Path) (built rebuilt : Site Exports),
      Disk.SameOutside (first.spot build) first second → first.Fresh build →
        LeftOver {} second dir build → Builds {} first dir build built →
          Builds {} second dir build rebuilt →
            ∀ location, location.within (spritePlace (first.spot build)) = true →
              rebuilt.disk.tree.get? location = built.disk.tree.get? location := by
  intro hall
  have hfresh : Sample.single.Fresh Sample.atelierBuild := by decide +kernel
  have hleft : LeftOver {} Sample.halved Sample.atelierPath Sample.atelierBuild := by
    refine ⟨_, _, Sample.builds_pair, ?_⟩
    exact FileTree.inside_eq_of_outside_eq (FileTree.outside_remove _ _)
      ⟨by decide +kernel, by decide +kernel⟩
  have hwithin : Sample.staleSheet.within (spritePlace (Sample.single.spot Sample.atelierBuild)) =
      true := by decide +kernel
  have hsame := hall _ _ _ _ _ _ Sample.sameOutside_halved hfresh hleft Sample.builds_single
    Sample.builds_halved _ hwithin
  exact absurd hsame (by decide +kernel)

end ModPack
