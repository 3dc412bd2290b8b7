import ModPack.Proofs.AssemblySteps
import ModPack.Proofs.SteadyActions
import ModPack.Proofs.TwinRegistries

/-!
# Builds on disks that differ in the order of declarations

Two builds go side by side, step by step: each has twins of the exports that the other one has, on a
disk that differs from the other's in the order of dependencies only. A step that succeeds in one
build succeeds in the other, writes the same and gives the same indices. Directories that were there
at first stay, so the paths of twins lead to one place all along. Main statements: `Site.Twin` and
`Assembly.run_twin`.
-/
namespace ModPack

open Work (outcome outcome_bind_ok outcome_seq_ok outcome_onDisk_ok outcome_ofExcept_ok
  outcome_ofReport_ok)

variable {manifestName : String} {moved : Location → Prop} {first second : Disk}
  {site other after : Site Exports}

/-! ## Directories that stay -/

namespace Disk

variable {disk changed : Disk} {path : Path}

theorem keeps_makeDirectories {existOk : Bool}
    (h : outcome (makeDirectories existOk path) disk = (.ok (), changed)) : Keeps disk changed := by
  have hgrows := grows_of_makeDirectories h
  exact hgrows.keeps

theorem keeps_writeText {text : String} (h : outcome (writeText path text) disk = (.ok (), changed)) :
    Keeps disk changed := by
  obtain ⟨location, _, hfile, rfl⟩ := outcome_writeText_ok.1 h
  refine Keeps.withEntry ?_ (.inr hfile)
  rintro rfl
  rw [FileTree.isDirectory_root] at hfile
  cases hfile

/-- Directories stay when a region is removed that has none of them. -/
theorem Keeps.without {region : Location} (h : Keeps disk changed)
    (hregion : ∀ location, disk.tree.isDirectory location = true →
      location.within region = false) : Keeps disk (changed.without region) := by
  have hroot : region ≠ [] := by
    rintro rfl
    have hwithin := hregion [] (FileTree.isDirectory_root disk.tree)
    rw [Location.within_refl []] at hwithin
    cases hwithin
  exact ⟨h.workingDirectory, fun location hdirectory => isDirectory_without hroot
    (hregion location hdirectory) (h.directories location hdirectory)⟩

end Disk

/-! ## Two builds at one point -/

/-- Two builds, begun on the disks `first` and `second`, at the same point. -/
structure Site.Twin (manifestName : String) (moved : Location → Prop) (first second : Disk)
    (site other : Site Exports) : Prop where
  disks : Disk.Reordered manifestName moved site.disk other.disk
  keeps : Disk.Keeps first site.disk
  held : site.held.Twin moved first second other.held

namespace Site.Twin

variable {α : Type} {value : α} {dir twin path : Path} {location : Location}
  (h : Site.Twin manifestName moved first second site other)
include h

/-- Whatever is done to the disk is done to the other one. -/
theorem onDisk {op op' : Disk.Op α} {error : OsError → AssemblyFailure}
    (halong : Disk.Alongside manifestName moved op op' site.disk other.disk)
    (hkeeps : ∀ disk, Disk.outcome op site.disk = (.ok value, disk) → Disk.Keeps first disk)
    (hrun : outcome (Work.onDisk op error) site = (.ok value, after)) :
    ∃ beside, outcome (Work.onDisk op' error) other = (.ok value, beside) ∧
      Site.Twin manifestName moved first second after beside := by
  obtain ⟨disk, hdisk, rfl⟩ := outcome_onDisk_ok.1 hrun
  obtain ⟨disk', hdisk', hdisks⟩ := halong.outcome_ok hdisk
  exact ⟨_, outcome_onDisk_ok.2 ⟨disk', hdisk', rfl⟩, hdisks, hkeeps disk hdisk, h.held⟩

theorem makeDirectories {existOk : Bool} {error : OsError → AssemblyFailure}
    (hrun : outcome (Work.onDisk (Disk.makeDirectories existOk path) error) site =
      (.ok (), after)) :
    ∃ beside, outcome (Work.onDisk (Disk.makeDirectories existOk path) error) other =
        (.ok (), beside) ∧
      Site.Twin manifestName moved first second after beside := by
  refine h.onDisk (Disk.steady_makeDirectories existOk path _ _ h.disks) (fun disk hdisk => ?_) hrun
  exact h.keeps.trans (Disk.keeps_makeDirectories hdisk)

theorem writeText {text : String} {error : OsError → AssemblyFailure}
    (hrun : outcome (Work.onDisk (Disk.writeText path text) error) site = (.ok (), after)) :
    ∃ beside, outcome (Work.onDisk (Disk.writeText path text) error) other = (.ok (), beside) ∧
      Site.Twin manifestName moved first second after beside := by
  refine h.onDisk (Disk.steady_writeText path text _ _ h.disks) (fun disk hdisk => ?_) hrun
  exact h.keeps.trans (Disk.keeps_writeText hdisk)

/-- A script is saved in both builds. -/
theorem save {script : Script} {error : OsError → AssemblyFailure}
    (hrun : outcome (Work.onDisk script.save error) site = (.ok (), after)) :
    ∃ beside, outcome (Work.onDisk script.save error) other = (.ok (), beside) ∧
      Site.Twin manifestName moved first second after beside := by
  unfold Script.save at hrun ⊢
  have hsteady : Disk.Steady manifestName moved script.save :=
    (Disk.steady_makeDirectories true script.path.parent).bind fun _ =>
      Disk.steady_writeText script.path script.dumps
  refine h.onDisk (hsteady _ _ h.disks) (fun disk hdisk => ?_) hrun
  obtain ⟨_, made, hmade, hwritten⟩ := Disk.outcome_bind_ok.1 hdisk
  exact (h.keeps.trans (Disk.keeps_makeDirectories hmade)).trans (Disk.keeps_writeText hwritten)

/-- The builds go on with other exports that are twins again. What they report need not agree: it
shows paths. -/
theorem holding {held twins : Exports} (events others : List Event)
    (hheld : held.Twin moved first second twins) :
    Site.Twin manifestName moved first second ⟨site.disk, events, held⟩
      ⟨other.disk, others, twins⟩ :=
  ⟨h.disks, h.keeps, hheld⟩

variable (hstart : Disk.Reordered manifestName moved first second)
include hstart

/-- Paths that led to one directory at first still do. -/
theorem directories (hdir : first.directory? dir = some location)
    (htwin : second.directory? twin = some location) :
    site.disk.directory? dir = some location ∧ other.disk.directory? twin = some location := by
  have hkeeps : Disk.Keeps second other.disk := by
    refine ⟨?_, fun location hdirectory => ?_⟩
    · rw [h.disks.workingDirectory, h.keeps.workingDirectory, hstart.workingDirectory]
    · rw [hstart.tree.isDirectory_eq] at hdirectory
      rw [h.disks.tree.isDirectory_eq]
      exact h.keeps.directories location hdirectory
  exact ⟨h.keeps.directory? hdir, hkeeps.directory? htwin⟩

end Site.Twin

/-! ## Single exports -/

theorem Sprite.assemble_twin {sprite twin marked : Sprite} {target : Path} {index : Int}
    (hstart : Disk.Reordered manifestName moved first second)
    (h : Site.Twin manifestName moved first second site other)
    (htwin : sprite.Copied moved first second twin)
    (hrun : outcome (sprite.assemble target index) site = (.ok marked, after)) :
    ∃ markedTwin beside, outcome (twin.assemble target index) other = (.ok markedTwin, beside) ∧
      Site.Twin manifestName moved first second after beside ∧
      marked.Copied moved first second markedTwin := by
  unfold Sprite.assemble at hrun
  obtain ⟨between, hmake, hrun⟩ := outcome_seq_ok.1 hrun
  obtain ⟨between', hmake', h⟩ := h.makeDirectories hmake
  obtain ⟨made, hmade, rfl⟩ := outcome_onDisk_ok.1 hmake
  have htarget := Disk.directory?_of_makeDirectories hmade
  obtain ⟨between, hcopy, hrun⟩ := outcome_seq_ok.1 hrun
  obtain ⟨location, hdir, hother⟩ := htwin.dir
  obtain ⟨hdirNow, hotherNow⟩ := h.directories hstart hdir hother
  have halong := Disk.copyChildren_alongside h.disks hdirNow hotherNow (htwin.apart location hdir)
    htarget
  obtain ⟨copied', hcopy', h⟩ := h.onDisk halong (fun disk hdisk =>
    h.keeps.trans (Disk.puts_of_copyChildren htarget hdisk).keeps) hcopy
  obtain ⟨⟨hstate, rfl⟩, rfl⟩ := Assembly.mark_ok.1 hrun
  refine ⟨_, copied', ?_, h, htwin.withState (.assembled index)⟩
  unfold Sprite.assemble
  refine outcome_seq_ok.2 ⟨between', hmake', outcome_seq_ok.2 ⟨copied', hcopy', ?_⟩⟩
  exact Assembly.mark_ok.2 ⟨⟨htwin.state.trans hstate, rfl⟩, rfl⟩

theorem NamedString.assemble_twin {string twin marked : NamedString} {target path : Path}
    {index : Int} (h : Site.Twin manifestName moved first second site other)
    (htwin : string.Twin first second twin)
    (hrun : outcome (string.assemble target index) site = (.ok (marked, path), after)) :
    ∃ markedTwin beside,
      outcome (twin.assemble target index) other = (.ok (markedTwin, path), beside) ∧
      Site.Twin manifestName moved first second after beside ∧
      marked.Twin first second markedTwin := by
  unfold NamedString.assemble at hrun
  obtain ⟨between, hwrite, hrun⟩ := outcome_seq_ok.1 hrun
  obtain ⟨between', hwrite', h⟩ := h.writeText hwrite
  obtain ⟨_, between, hmark, hrun⟩ := outcome_bind_ok.1 hrun
  obtain ⟨⟨hstate, rfl⟩, rfl⟩ := Assembly.mark_ok.1 hmark
  cases hrun
  have hwritten : twin.written index = string.written index := by
    rw [written, written, htwin.bank, htwin.text]
  refine ⟨_, between', ?_, h, htwin.withState (.assembled index)⟩
  unfold NamedString.assemble
  rw [htwin.bank, hwritten]
  refine outcome_seq_ok.2 ⟨between', hwrite', outcome_bind_ok.2 ⟨_, between', ?_, rfl⟩⟩
  exact Assembly.mark_ok.2 ⟨⟨htwin.state.trans hstate, rfl⟩, rfl⟩

/-- The battle scripts of twins are one file, which is no manifest. -/
theorem Actor.assemble_twin {actor twin marked : Actor} {target : Path} {index : Int}
    {script : Script} (hscripts : ∀ name, name ++ ".bscr" ≠ manifestName)
    (hstart : Disk.Reordered manifestName moved first second)
    (h : Site.Twin manifestName moved first second site other)
    (htwin : actor.Scripted first second twin)
    (hrun : outcome (actor.assemble target index) site = (.ok (marked, script), after)) :
    ∃ markedTwin beside,
      outcome (twin.assemble target index) other = (.ok (markedTwin, script), beside) ∧
      Site.Twin manifestName moved first second after beside ∧
      marked.Scripted first second markedTwin := by
  unfold Actor.assemble at hrun
  rw [Work.outcome_disk_bind] at hrun
  obtain ⟨read, between, hread, hrun⟩ := outcome_bind_ok.1 hrun
  obtain ⟨hload, rfl⟩ := outcome_ofReport_ok.1 hread
  obtain ⟨_, between, hmark, hrun⟩ := outcome_bind_ok.1 hrun
  obtain ⟨⟨hstate, rfl⟩, rfl⟩ := Assembly.mark_ok.1 hmark
  cases hrun
  obtain ⟨location, hdir, hother⟩ := htwin.dir
  obtain ⟨hdirNow, hotherNow⟩ := h.directories hstart hdir hother
  have haligned : Disk.Aligned site.disk other.disk actor.dir twin.dir :=
    ⟨location, hdirNow, hotherNow⟩
  have hplain : Path.Plain (actor.name ++ ".bscr") := Path.plain_of_fault? htwin.named (by decide)
  have hplace : other.disk.locate twin.scriptPath = site.disk.locate actor.scriptPath := by
    rw [scriptPath, scriptPath, htwin.name]
    exact haligned.locate_join h.disks _
  have hfile (content : ByteArray) (hcontent : site.disk.readFile actor.scriptPath = .ok content) :
      other.disk.readFile twin.scriptPath = .ok content :=
    h.disks.readFile_eq hplace hcontent fun location hlocate =>
      h.disks.not_moved hplain (hscripts actor.name) hlocate
  have hload' := Script.load_along hfile hload
  rw [← htwin.sourcePackage] at hload'
  let events := other.events ++ (Script.load other.disk twin.sourcePackage twin.scriptPath).events
  refine ⟨_, { other with events }, ?_, ⟨h.disks, h.keeps, h.held⟩,
    htwin.withState (.assembled index)⟩
  unfold Actor.assemble
  rw [Work.outcome_disk_bind, htwin.name]
  refine outcome_bind_ok.2 ⟨_, _, outcome_ofReport_ok.2 ⟨hload', rfl⟩, ?_⟩
  exact outcome_bind_ok.2 ⟨_, _, Assembly.mark_ok.2 ⟨⟨htwin.state.trans hstate, rfl⟩, rfl⟩, rfl⟩

namespace Assembly

/-! ## The loops -/

/-- The induction is on the sprites that are left, side by side. -/
theorem numberSprites_twin {target : Path} {index : Nat} {entries others : List (Identifier × Sprite)}
    {rows : List String} (hstart : Disk.Reordered manifestName moved first second)
    (h : Site.Twin manifestName moved first second site other)
    (hentries : List.Forall₂ (fun old new =>
      new.1 = old.1 ∧ Sprite.Copied moved first second old.2 new.2) entries others)
    (hrun : outcome (numberSprites target index entries) site = (.ok rows, after)) :
    ∃ beside, outcome (numberSprites target index others) other = (.ok rows, beside) ∧
      Site.Twin manifestName moved first second after beside := by
  induction hentries generalizing site other index rows with
  | nil =>
    cases hrun
    exact ⟨other, rfl, h⟩
  | @cons old new entries others hhead _ ih =>
    obtain ⟨id, sprite⟩ := old
    obtain ⟨key, twin⟩ := new
    obtain ⟨rfl, htwin⟩ := hhead
    rw [numberSprites] at hrun
    obtain ⟨marked, between, hone, hrun⟩ := outcome_bind_ok.1 hrun
    obtain ⟨markedTwin, between', hone', h, hmarked⟩ := Sprite.assemble_twin hstart h htwin hone
    rw [Work.outcome_hold_bind, Work.outcome_note_bind] at hrun
    obtain ⟨later, final, hrest, hrun⟩ := outcome_bind_ok.1 hrun
    cases hrun
    have hheld : Exports.Twin moved first second
        { between.held with sprites := between.held.sprites.set key marked }
        { between'.held with sprites := between'.held.sprites.set key markedTwin } :=
      ⟨h.held.sprites.set key hmarked, h.held.actors, h.held.strings⟩
    let events := between'.events ++ [.spriteNumbered index key]
    obtain ⟨beside, hbeside, h⟩ := ih (h.holding _ events hheld) hrest
    refine ⟨beside, ?_, h⟩
    rw [numberSprites]
    refine outcome_bind_ok.2 ⟨markedTwin, between', hone', ?_⟩
    rw [Work.outcome_hold_bind, Work.outcome_note_bind]
    exact outcome_bind_ok.2 ⟨later, beside, hbeside, rfl⟩

/-- The induction is on the strings that are left, side by side; their sections are the same. -/
theorem numberStrings_twin {target : Path} {used : List (Nat × Nat)}
    {entries others : List (Identifier × NamedString)}
    (h : Site.Twin manifestName moved first second site other)
    (hentries : List.Forall₂ (fun old new =>
      new.1 = old.1 ∧ NamedString.Twin first second old.2 new.2) entries others)
    (hrun : outcome (numberStrings target used entries) site = (.ok (), after)) :
    ∃ beside, outcome (numberStrings target used others) other = (.ok (), beside) ∧
      Site.Twin manifestName moved first second after beside := by
  induction hentries generalizing site other used with
  | nil =>
    cases hrun
    exact ⟨other, rfl, h⟩
  | @cons old new entries others hhead _ ih =>
    obtain ⟨id, string⟩ := old
    obtain ⟨key, twin⟩ := new
    obtain ⟨rfl, htwin⟩ := hhead
    rw [numberStrings] at hrun
    dsimp only at hrun htwin
    split at hrun
    · obtain ⟨_, hrefused, _⟩ := outcome_seq_ok.1 hrun
      cases hrefused
    next hlast =>
    obtain ⟨⟨marked, path⟩, between, hone, hrun⟩ := outcome_bind_ok.1 hrun
    obtain ⟨markedTwin, between', hone', h, hmarked⟩ := NamedString.assemble_twin h htwin hone
    dsimp only at hrun
    rw [Work.outcome_hold_bind, Work.outcome_note_bind] at hrun
    have hheld : Exports.Twin moved first second
        { between.held with strings := between.held.strings.set key marked }
        { between'.held with strings := between'.held.strings.set key markedTwin } :=
      ⟨h.held.sprites, h.held.actors, h.held.strings.set key hmarked⟩
    let events := between'.events ++
      [.stringNumbered (NamedString.idText string.bank (nextIn used string.bank)) key]
    obtain ⟨beside, hbeside, h⟩ := ih (h.holding _ events hheld) hrun
    refine ⟨beside, ?_, h⟩
    rw [numberStrings]
    dsimp only
    rw [htwin.bank, if_neg hlast]
    refine outcome_bind_ok.2 ⟨(markedTwin, path), between', hone', ?_⟩
    dsimp only
    rw [Work.outcome_hold_bind, Work.outcome_note_bind]
    exact hbeside

theorem introduction_twin {actor id : Identifier} {field : String} {string : NamedString}
    (h : Site.Twin manifestName moved first second site other)
    (hrun : outcome (introduction actor field id) site = (.ok string, after)) :
    site = after ∧ ∃ twin, outcome (introduction actor field id) other = (.ok twin, other) ∧
      string.Twin first second twin := by
  obtain ⟨hfound, rfl⟩ := introduction_ok.1 hrun
  have hrel := h.held.strings.get? id
  rw [hfound] at hrel
  obtain ⟨twin, htwin, hstring⟩ := exists_of_optionRel hrel
  exact ⟨rfl, twin, introduction_ok.2 ⟨htwin, rfl⟩, hstring⟩

theorem numberActor_twin {target : Path} {index : Nat} {id : Identifier} {actor twin : Actor}
    {row : String} {script : Script} (hscripts : ∀ name, name ++ ".bscr" ≠ manifestName)
    (hstart : Disk.Reordered manifestName moved first second)
    (h : Site.Twin manifestName moved first second site other)
    (htwin : Actor.Scripted first second actor twin)
    (hrun : outcome (numberActor target index (id, actor)) site = (.ok (row, script), after)) :
    ∃ beside, outcome (numberActor target index (id, twin)) other = (.ok (row, script), beside) ∧
      Site.Twin manifestName moved first second after beside := by
  unfold numberActor at hrun
  obtain ⟨name, between, hname, hrun⟩ := outcome_bind_ok.1 hrun
  obtain ⟨rfl, nameTwin, hname', hnameTwin⟩ := introduction_twin h hname
  obtain ⟨tattle, between, htattle, hrun⟩ := outcome_bind_ok.1 hrun
  obtain ⟨rfl, tattleTwin, htattle', htattleTwin⟩ := introduction_twin h htattle
  obtain ⟨nameId, between, hfirst, hrun⟩ := outcome_bind_ok.1 hrun
  obtain ⟨hnameId, rfl⟩ := outcome_ofExcept_ok.1 hfirst
  obtain ⟨tattleId, between, hsecond, hrun⟩ := outcome_bind_ok.1 hrun
  obtain ⟨htattleId, rfl⟩ := outcome_ofExcept_ok.1 hsecond
  obtain ⟨⟨marked, drafted⟩, between, hone, hrun⟩ := outcome_bind_ok.1 hrun
  obtain ⟨markedTwin, between', hone', h, hmarked⟩ :=
    Actor.assemble_twin hscripts hstart h htwin hone
  cases hrun
  have hheld : Exports.Twin moved first second
      { between.held with actors := between.held.actors.set id marked }
      { between'.held with actors := between'.held.actors.set id markedTwin } :=
    ⟨h.held.sprites, h.held.actors.set id hmarked, h.held.strings⟩
  refine ⟨_, ?_, h.holding _ (between'.events ++ [.actorNumbered index id]) hheld⟩
  unfold numberActor
  dsimp only
  rw [htwin.displayName, htwin.tattle]
  refine outcome_bind_ok.2 ⟨nameTwin, other, hname', ?_⟩
  refine outcome_bind_ok.2 ⟨tattleTwin, other, htattle', ?_⟩
  rw [hnameTwin.hexId_eq, htattleTwin.hexId_eq]
  refine outcome_bind_ok.2 ⟨nameId, other, outcome_ofExcept_ok.2 ⟨hnameId, rfl⟩, ?_⟩
  refine outcome_bind_ok.2 ⟨tattleId, other, outcome_ofExcept_ok.2 ⟨htattleId, rfl⟩, ?_⟩
  exact outcome_bind_ok.2 ⟨(markedTwin, script), between', hone', rfl⟩

/-- The induction is on the actors that are left, side by side. -/
theorem numberActors_twin {target : Path} {index : Nat} {entries others : List (Identifier × Actor)}
    {rows : List String} {scripts : List Script} (hscripts : ∀ name, name ++ ".bscr" ≠ manifestName)
    (hstart : Disk.Reordered manifestName moved first second)
    (h : Site.Twin manifestName moved first second site other)
    (hentries : List.Forall₂ (fun old new =>
      new.1 = old.1 ∧ Actor.Scripted first second old.2 new.2) entries others)
    (hrun : outcome (numberActors target index entries) site = (.ok (rows, scripts), after)) :
    ∃ beside, outcome (numberActors target index others) other = (.ok (rows, scripts), beside) ∧
      Site.Twin manifestName moved first second after beside := by
  induction hentries generalizing site other index rows scripts with
  | nil =>
    cases hrun
    exact ⟨other, rfl, h⟩
  | @cons old new entries others hhead _ ih =>
    obtain ⟨id, actor⟩ := old
    obtain ⟨key, twin⟩ := new
    obtain ⟨rfl, htwin⟩ := hhead
    rw [numberActors_cons] at hrun
    obtain ⟨⟨row, script⟩, between, hone, hrun⟩ := outcome_bind_ok.1 hrun
    obtain ⟨between', hone', h⟩ := numberActor_twin hscripts hstart h htwin hone
    obtain ⟨⟨later, following⟩, final, hrest, hrun⟩ := outcome_bind_ok.1 hrun
    cases hrun
    obtain ⟨beside, hbeside, h⟩ := ih h hrest
    refine ⟨beside, ?_, h⟩
    rw [numberActors_cons]
    refine outcome_bind_ok.2 ⟨(row, script), between', hone', ?_⟩
    exact outcome_bind_ok.2 ⟨(later, following), beside, hbeside, rfl⟩

/-! ## The steps -/

theorem sprites_twin {dir : Path} (hstart : Disk.Reordered manifestName moved first second)
    (h : Site.Twin manifestName moved first second site other)
    (hrun : outcome (sprites dir) site = (.ok (), after)) :
    ∃ beside, outcome (sprites dir) other = (.ok (), beside) ∧
      Site.Twin manifestName moved first second after beside := by
  unfold sprites at hrun ⊢
  rw [Work.outcome_held_bind] at hrun ⊢
  dsimp only at hrun ⊢
  rw [h.held.sprites.size_eq]
  split at hrun
  · obtain ⟨_, hrefused, _⟩ := outcome_seq_ok.1 hrun
    cases hrefused
  next hcount =>
  rw [if_neg hcount]
  obtain ⟨between, hmake, hrun⟩ := outcome_seq_ok.1 hrun
  have hentries := h.held.sprites
  obtain ⟨made, hmake', h⟩ := h.makeDirectories hmake
  obtain ⟨rows, between, hrows, hrun⟩ := outcome_bind_ok.1 hrun
  obtain ⟨numbered, hrows', h⟩ := numberSprites_twin hstart h hentries hrows
  obtain ⟨beside, hwrite, h⟩ := h.writeText hrun
  exact ⟨beside, outcome_seq_ok.2 ⟨made, hmake', outcome_bind_ok.2 ⟨rows, numbered, hrows', hwrite⟩⟩,
    h⟩

/-- The directory of strings is cleared in both builds or in none. No directory that was there at
first is in it. -/
theorem strings_twin {dir : Path}
    (hfresh : ∀ location, first.tree.isDirectory location = true →
      location.within (first.spot dir) = false)
    (h : Site.Twin manifestName moved first second site other)
    (hrun : outcome (strings dir) site = (.ok (), after)) :
    ∃ beside, outcome (strings dir) other = (.ok (), beside) ∧
      Site.Twin manifestName moved first second after beside := by
  unfold strings at hrun ⊢
  rw [Work.outcome_disk_bind] at hrun ⊢
  dsimp only at hrun ⊢
  rw [h.disks.pathExists_eq (h.disks.locate_eq dir)]
  -- What is done once the directory is cleared.
  have hrest {cleared clearedTwin : Site Exports}
      (h : Site.Twin manifestName moved first second cleared clearedTwin)
      (hrun : outcome (do
        onDisk (Disk.makeDirectories false dir)
        numberStrings dir [] (← Work.held).strings.entries) cleared = (.ok (), after)) :
      ∃ beside, outcome (do
        onDisk (Disk.makeDirectories false dir)
        numberStrings dir [] (← Work.held).strings.entries) clearedTwin = (.ok (), beside) ∧
        Site.Twin manifestName moved first second after beside := by
    obtain ⟨between, hmake, hrun⟩ := outcome_seq_ok.1 hrun
    obtain ⟨made, hmake', h⟩ := h.makeDirectories hmake
    rw [Work.outcome_held_bind] at hrun
    obtain ⟨beside, hnumber, h⟩ := numberStrings_twin h h.held.strings hrun
    refine ⟨beside, outcome_seq_ok.2 ⟨made, hmake', ?_⟩, h⟩
    rwa [Work.outcome_held_bind]
  split at hrun
  · next hthere =>
    rw [if_pos hthere]
    obtain ⟨between, hremove, hrun⟩ := outcome_seq_ok.1 hrun
    have hkeeps (disk : Disk)
        (hdisk : Disk.outcome (Disk.removeTree dir) site.disk = (.ok (), disk)) :
        Disk.Keeps first disk := by
      obtain ⟨location, hlocation, rfl⟩ := Disk.outcome_removeTree_ok.1 hdisk
      rw [Disk.eq_spot_of_directory? hlocation, h.keeps.spot_eq]
      exact h.keeps.without hfresh
    obtain ⟨cleared, hremove', h⟩ :=
      h.onDisk (Disk.steady_removeTree dir _ _ h.disks) hkeeps hremove
    obtain ⟨beside, hbeside, h⟩ := hrest h hrun
    exact ⟨beside, outcome_seq_ok.2 ⟨cleared, hremove', hbeside⟩, h⟩
  · next hmissing =>
    rw [if_neg hmissing]
    exact hrest h hrun

theorem actors_twin {dir : Path} {scripts : List Script}
    (hscripts : ∀ name, name ++ ".bscr" ≠ manifestName)
    (hstart : Disk.Reordered manifestName moved first second)
    (h : Site.Twin manifestName moved first second site other)
    (hrun : outcome (actors dir) site = (.ok scripts, after)) :
    ∃ beside, outcome (actors dir) other = (.ok scripts, beside) ∧
      Site.Twin manifestName moved first second after beside := by
  unfold actors at hrun ⊢
  rw [Work.outcome_held_bind] at hrun ⊢
  dsimp only at hrun ⊢
  rw [h.held.actors.size_eq]
  split at hrun
  · obtain ⟨_, hrefused, _⟩ := outcome_seq_ok.1 hrun
    cases hrefused
  next hcount =>
  rw [if_neg hcount]
  obtain ⟨between, hmake, hrun⟩ := outcome_seq_ok.1 hrun
  have hentries := h.held.actors
  obtain ⟨made, hmake', h⟩ := h.makeDirectories hmake
  obtain ⟨⟨rows, found⟩, between, hrows, hrun⟩ := outcome_bind_ok.1 hrun
  obtain ⟨numbered, hrows', h⟩ := numberActors_twin hscripts hstart h hentries hrows
  dsimp only at hrun
  obtain ⟨last, hwrite, hrun⟩ := outcome_seq_ok.1 hrun
  cases hrun
  obtain ⟨beside, hwrite', h⟩ := h.writeText hwrite
  refine ⟨beside, outcome_seq_ok.2 ⟨made, hmake', ?_⟩, h⟩
  exact outcome_bind_ok.2 ⟨(rows, scripts), numbered, hrows', outcome_seq_ok.2 ⟨beside, hwrite', rfl⟩⟩

/-- Scripts are resolved and saved alike. -/
theorem saveScripts_twin {scripts : List Script}
    (h : Site.Twin manifestName moved first second site other)
    (hrun : outcome (saveScripts scripts) site = (.ok (), after)) :
    ∃ beside, outcome (saveScripts scripts) other = (.ok (), beside) ∧
      Site.Twin manifestName moved first second after beside := by
  induction scripts generalizing site other with
  | nil =>
    cases hrun
    exact ⟨other, rfl, h⟩
  | cons script rest ih =>
    rw [saveScripts, Work.outcome_held_bind] at hrun ⊢
    dsimp only at hrun ⊢
    rw [Script.resolve_eq h.held]
    obtain ⟨between, hresolve, hrun⟩ := outcome_seq_ok.1 hrun
    obtain ⟨hresolved, rfl⟩ := outcome_ofReport_ok.1 hresolve
    obtain ⟨between, hsave, hrun⟩ := outcome_seq_ok.1 hrun
    rw [Work.outcome_note_bind] at hrun
    have hresolution := h.holding (site.events ++ (script.resolve site.held).events)
      (other.events ++ (script.resolve site.held).events) h.held
    obtain ⟨saved, hsave', h⟩ := hresolution.save hsave
    obtain ⟨beside, hbeside, h⟩ := ih (h.holding _ (saved.events ++ [.wroteScript script.path]) h.held)
      hrun
    refine ⟨beside, ?_, h⟩
    refine outcome_seq_ok.2 ⟨_, outcome_ofReport_ok.2 ⟨hresolved, rfl⟩, ?_⟩
    refine outcome_seq_ok.2 ⟨saved, hsave', ?_⟩
    rw [Work.outcome_note_bind]
    exact hbeside

/-- Two builds of twins write the same: what succeeds on one disk does on the other. Nothing may be
below the directory for strings at first. -/
theorem run_twin {dir : Path} (hscripts : ∀ name, name ++ ".bscr" ≠ manifestName)
    (hstart : Disk.Reordered manifestName moved first second)
    (hfresh : ∀ location, first.tree.isDirectory location = true →
      location.within (first.spot (dir / "strings")) = false)
    (h : Site.Twin manifestName moved first second site other)
    (hrun : outcome (run dir) site = (.ok (), after)) :
    ∃ beside, outcome (run dir) other = (.ok (), beside) ∧
      Site.Twin manifestName moved first second after beside := by
  unfold run at hrun ⊢
  obtain ⟨between, hmake, hrun⟩ := outcome_seq_ok.1 hrun
  obtain ⟨made, hmake', h⟩ := h.makeDirectories hmake
  obtain ⟨between, hsprites, hrun⟩ := outcome_seq_ok.1 hrun
  obtain ⟨withSprites, hsprites', h⟩ := sprites_twin hstart h hsprites
  obtain ⟨between, hstrings, hrun⟩ := outcome_seq_ok.1 hrun
  obtain ⟨withStrings, hstrings', h⟩ := strings_twin hfresh h hstrings
  obtain ⟨scripts, between, hactors, hrun⟩ := outcome_bind_ok.1 hrun
  obtain ⟨withActors, hactors', h⟩ := actors_twin hscripts hstart h hactors
  obtain ⟨beside, hsave, h⟩ := saveScripts_twin h hrun
  refine ⟨beside, outcome_seq_ok.2 ⟨made, hmake', ?_⟩, h⟩
  refine outcome_seq_ok.2 ⟨withSprites, hsprites', outcome_seq_ok.2 ⟨withStrings, hstrings', ?_⟩⟩
  exact outcome_bind_ok.2 ⟨scripts, withActors, hactors', hsave⟩

end Assembly

end ModPack
