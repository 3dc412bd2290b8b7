import ModPack.Proofs.Rebuilding
import ModPack.Proofs.ScriptFiles

/-!
# What a build changes

However a build ends, it has put entries into its directory and nowhere else, but for directories on
the way there, and all that it removes is its directory of strings. What is apart from both stays as
it was: the sources of packages, and the directories of other builds. Main statements:
`run_changes`, `Changes.keeps`, `Changes.inside_eq` and `Changes.get?_or`.
-/
namespace ModPack

open Assembly (stringPlace)

/-- The path leads on from the directory, and not back. -/
def Path.Below (dir path : Path) : Prop :=
  ∃ rest, ".." ∉ rest ∧ path = { dir with parts := dir.parts ++ rest }

namespace Path.Below

variable {disk : Disk} {dir path : Path} {parts : List String} {name : String}

theorem refl (dir : Path) : Below dir dir :=
  ⟨[], List.not_mem_nil, by rw [List.append_nil]⟩

theorem div (h : Below dir path) (hname : Plain name) : Below dir (path / name) := by
  obtain ⟨rest, hrest, rfl⟩ := h
  refine ⟨rest ++ [name], ?_, ?_⟩
  · rw [List.mem_append, List.mem_singleton]
    exact fun hmem => hmem.elim hrest fun heq => hname.ne_parent heq.symm
  · rw [div_of_plain _ hname, List.append_assoc]

/-- Along the path one is on the way to the directory, or in it. -/
theorem front (h : Below dir path) (disk : Disk) (hparts : parts <+: path.parts) :
    parts <+: dir.parts ∧ { path with parts } = { dir with parts } ∨
      (disk.spot { path with parts }).within (disk.spot dir) = true := by
  obtain ⟨rest, hrest, rfl⟩ := h
  rcases List.prefix_or_prefix_of_prefix hparts (List.prefix_append dir.parts rest) with
    hshort | ⟨more, rfl⟩
  · exact .inl ⟨hshort, rfl⟩
  · have hmore := (List.prefix_append_right_inj dir.parts).1 hparts
    refine .inr ?_
    rw [Disk.spot, List.foldl_append]
    exact Disk.within_foldl_stepTo (Location.within_refl _)
      fun hmem => hrest (hmore.subset hmem)

theorem within_spot (h : Below dir path) (disk : Disk) :
    (disk.spot path).within (disk.spot dir) = true := by
  obtain ⟨rest, hrest, rfl⟩ := h
  rw [Disk.spot, List.foldl_append]
  exact Disk.within_foldl_stepTo (Location.within_refl _) hrest

end Path.Below

namespace Disk

variable {disk before between after : Disk} {dir path : Path} {location region : Location}
  {entry : Entry} {name : String}

/-- Work that builds into the directory may put the entry there: in the directory, or, when it is a
directory itself, on the way. -/
def MayPut (disk : Disk) (dir : Path) (location : Location) (entry : Entry) : Prop :=
  location.within (disk.spot dir) = true ∨
    entry = .directory ∧ ∃ parts, parts <+: dir.parts ∧ location = disk.spot { dir with parts }

/-- Along the path directories may be put. -/
theorem mayPut_of_below {parts : List String} (h : Path.Below dir path)
    (hparts : parts <+: path.parts) :
    disk.MayPut dir (disk.spot { path with parts }) .directory := by
  rcases h.front disk hparts with ⟨hfront, heq⟩ | hwithin
  · exact .inr ⟨rfl, parts, hfront, by rw [heq]⟩
  · exact .inl hwithin

/-- One disk becomes the other by steps of a build into the directory. -/
inductive Changes (dir : Path) (before : Disk) : Disk → Prop
  | refl : Changes dir before before
  | put {between : Disk} {location : Location} {entry : Entry}
      (earlier : Changes dir before between) (place : MayPut before dir location entry)
      (fits : Fits between location entry) : Changes dir before (between.withEntry location entry)
  | clear {between : Disk} (earlier : Changes dir before between) :
      Changes dir before (between.without (stringPlace (before.spot dir)))

/-! ## What stays -/

/-- Nothing happened at the location, but that a directory may have been made where nothing was. -/
def Untouched (location : Location) (before after : Disk) : Prop :=
  after.tree.get? location = before.tree.get? location ∨
    before.tree.get? location = none ∧ after.tree.get? location = some .directory

namespace Changes

theorem workingDirectory (h : Changes dir before after) :
    after.workingDirectory = before.workingDirectory := by
  induction h with
  | refl => rfl
  | put _ _ _ ih => exact ih
  | clear _ ih => exact ih

theorem start_eq (h : Changes dir before after) (path : Path) :
    after.start path = before.start path := by
  rw [start, start, h.workingDirectory]

theorem spot_eq (h : Changes dir before after) (path : Path) :
    after.spot path = before.spot path := by
  rw [spot, spot, h.start_eq]

theorem trans (h : Changes dir before between) (h' : Changes dir between after) :
    Changes dir before after := by
  induction h' with
  | refl => exact h
  | put _ hplace hfits ih =>
    refine ih.put ?_ hfits
    simpa only [MayPut, h.spot_eq] using hplace
  | clear _ ih =>
    rw [h.spot_eq]
    exact ih.clear

theorem of_puts (h : Puts region before after) (hregion : region.within (before.spot dir) = true) :
    Changes dir before after := by
  induction h with
  | refl => exact .refl
  | put _ hwithin hfits _ ih =>
    exact ih.put (.inl (Location.within_trans hwithin hregion)) hfits

theorem stringPlace_ne_nil (build : Location) : stringPlace build ≠ [] :=
  List.cons_ne_nil _ _

/-- Directories stay, but for those among the strings. -/
theorem isDirectory (h : Changes dir before after)
    (hlocation : location.within (stringPlace (before.spot dir)) = false)
    (hdirectory : before.tree.isDirectory location = true) :
    after.tree.isDirectory location = true := by
  induction h with
  | refl => exact hdirectory
  | put _ _ hfits ih => exact FileTree.isDirectory_put hfits.ne_nil hfits.replaces ih
  | clear _ ih => exact isDirectory_without (stringPlace_ne_nil _) hlocation ih

/-- All directories stay when the build has a fresh directory. -/
theorem keeps (h : Changes dir before after) (hfresh : before.Fresh dir) : Keeps before after := by
  refine ⟨h.workingDirectory, fun location hdirectory => h.isDirectory ?_ hdirectory⟩
  have hstrings : Path.Plain "strings" := Path.plain_of_not_mem (by decide)
  have hout := hfresh.within_div hstrings hdirectory
  rwa [spot_div hstrings] at hout

/-- A region that the build does not come to stays as it is. -/
theorem inside_eq (h : Changes dir before after)
    (hapart : Location.Apart region (before.spot dir))
    (hway : ∀ parts, parts <+: dir.parts →
      before.tree.get? (before.spot { dir with parts }) = none →
        (before.spot { dir with parts }).within region = false) :
    after.tree.inside region = before.tree.inside region := by
  induction h with
  | refl => rfl
  | @put between location entry _ hplace hfits ih =>
    have hout : location.within region = false := by
      rcases hplace with hbuild | ⟨rfl, parts, hparts, rfl⟩
      · exact hapart.symm.not_within hbuild
      · rw [Bool.eq_false_iff]
        intro hwithin
        -- What is made on the way was missing in the region from the beginning.
        have hmissing : between.tree.get? (before.spot { dir with parts }) = none := hfits
        rw [FileTree.get?_eq_of_inside_eq ih hwithin] at hmissing
        rw [hway parts hparts hmissing] at hwithin
        cases hwithin
    have hfilter : (between.tree.put location entry).inside region = if location.within region
        then FileTree.putEntry location entry (between.tree.inside region)
        else between.tree.inside region :=
      FileTree.filter_putEntry (p := fun key => key.within region)
    change (between.tree.put location entry).inside region = _
    rw [hfilter, hout]
    exact ih
  | @clear between _ ih =>
    have hplace : (stringPlace (before.spot dir)).within (before.spot dir) = true :=
      Location.within_cons _ _
    refine Eq.trans ?_ ih
    exact FileTree.inside_eq_of_outside_eq (FileTree.outside_remove _ _)
      (hapart.symm.mono hplace).symm

/-- Outside of its directory a build makes directories at most, where nothing was. -/
theorem get?_or (h : Changes dir before after)
    (hlocation : location.within (before.spot dir) = false) :
    after.tree.get? location = before.tree.get? location ∨
      before.tree.get? location = none ∧ after.tree.get? location = some .directory := by
  induction h with
  | refl => exact .inl rfl
  | @put between other entry _ hplace hfits ih =>
    rw [get?_withEntry hfits.ne_nil]
    split
    · next hsame =>
      rcases hplace with hbuild | ⟨rfl, _⟩
      · rw [← hsame, hlocation] at hbuild
        cases hbuild
      · have hmissing : between.tree.get? other = none := hfits
        rw [← hsame] at hmissing
        rcases ih with hstill | ⟨_, hmade⟩
        · exact .inr ⟨hstill.symm.trans hmissing, rfl⟩
        · rw [hmissing] at hmade
          cases hmade
    · exact ih
  | @clear between _ ih =>
    have hout : location.within (stringPlace (before.spot dir)) = false :=
      Location.not_within_below hlocation
    rw [get?_without_of_not_within (stringPlace_ne_nil _) hout]
    exact ih

/-- Files of a build stay files, but for those among the strings. -/
theorem isFile (h : Changes dir before after)
    (hlocation : location.within (stringPlace (before.spot dir)) = false)
    (hfile : ∃ content, before.tree.get? location = some (.file content)) :
    ∃ content, after.tree.get? location = some (.file content) := by
  induction h with
  | refl => exact hfile
  | @put between other entry _ _ hfits ih =>
    rw [get?_withEntry hfits.ne_nil]
    split
    · next hsame =>
      obtain ⟨content, hcontent⟩ := ih
      cases entry with
      | file written => exact ⟨written, rfl⟩
      | directory =>
        have hmissing : between.tree.get? other = none := hfits
        rw [← hsame, hcontent] at hmissing
        cases hmissing
    · exact ih
  | @clear between _ ih =>
    rw [get?_without_of_not_within (stringPlace_ne_nil _) hlocation]
    exact ih

/-- Where a build writes no file everything is as before, but for new directories. -/
theorem untouched (h : Changes dir before after) (hadds : AddsNoFile location before after)
    (hlocation : location.within (stringPlace (before.spot dir)) = false) :
    Untouched location before after := by
  cases hbefore : before.tree.get? location with
  | none =>
    cases hafter : after.tree.get? location with
    | none => exact .inl (hafter.trans hbefore.symm)
    | some entry =>
      cases entry with
      | directory => exact .inr ⟨hbefore, hafter⟩
      | file content =>
        rw [hadds.file content hafter] at hbefore
        cases hbefore
  | some entry =>
    refine .inl ?_
    rw [hbefore]
    cases entry with
    | directory =>
      exact FileTree.isDirectory_iff.1 (h.isDirectory hlocation (FileTree.isDirectory_iff.2 hbefore))
    | file content =>
      obtain ⟨written, hwritten⟩ := h.isFile hlocation ⟨content, hbefore⟩
      rw [hwritten, ← hbefore, hadds.file written hwritten]

end Changes

theorem Untouched.trans_eq (h : Untouched location before between)
    (h' : after.tree.get? location = between.tree.get? location) :
    Untouched location before after := by
  rwa [Untouched, h']

/-! ## Steps of a build -/

/-- One directory on the way to a path, or the last one. -/
theorem changes_makeDirectory {parts : List String} (h : Path.Below dir path)
    (hparts : parts <+: path.parts) (existOk : Bool) (disk : Disk) :
    Changes dir disk (outcome (makeDirectory existOk { path with parts }) disk).2 := by
  rw [outcome_makeDirectory]
  split
  · exact .refl
  · next location hlocate =>
    split
    · next hnone =>
      refine Changes.refl.put ?_ hnone
      rw [eq_spot_of_locate hlocate]
      exact mayPut_of_below h hparts
    · exact .refl
    · exact .refl

theorem changes_makeDirectories (h : Path.Below dir path) (existOk : Bool) (disk : Disk) :
    Changes dir disk (outcome (makeDirectories existOk path) disk).2 :=
  makeDirectories_steps path (fun _ => .refl) (fun _ _ _ => .trans)
    (fun existOk _ disk hparts => changes_makeDirectory h hparts existOk disk) existOk disk

theorem changes_writeText (h : Path.Below dir path) (text : String) (disk : Disk) :
    Changes dir disk (outcome (writeText path text) disk).2 := by
  unfold writeText writeBytes
  rw [outcome_get_bind, outcome_ofExcept_bind]
  cases hlocate : disk.locate path with
  | error error => exact .refl
  | ok location =>
    dsimp only
    split
    · exact .refl
    · next hfile =>
      have hplace := h.within_spot disk
      rw [← eq_spot_of_locate hlocate] at hplace
      exact Changes.refl.put (.inl hplace) (Bool.eq_false_iff.2 hfile)

theorem changes_removeTree (dir : Path) (disk : Disk) :
    Changes dir disk (outcome (removeTree (dir / "strings")) disk).2 := by
  unfold removeTree
  rw [outcome_get_bind, outcome_ofExcept_bind]
  cases hfind : disk.find (dir / "strings") with
  | error error => exact .refl
  | ok found =>
    obtain ⟨location, entry⟩ := found
    cases entry with
    | file content => exact .refl
    | directory =>
      have hlocation := eq_spot_of_locate (find_ok.1 hfind).1
      rw [spot_div (Path.plain_of_not_mem (by decide))] at hlocation
      change Changes dir disk (disk.without location)
      rw [hlocation]
      exact Changes.refl.clear

theorem changes_copyChildren (h : Path.Below dir path) (source : Path)
    (hdir : disk.directory? path = some location) :
    Changes dir disk (outcome (copyChildren source path) disk).2 := by
  refine .of_puts (copyChildren_puts source hdir) ?_
  rw [eq_spot_of_directory? hdir]
  exact h.within_spot disk

end Disk

open Disk (Changes)
open Work (outcome outcome_bind_ok outcome_onDisk_ok Leaves)

namespace Assembly

variable {site : Site Exports} {dir path target : Path}

theorem changes_bind {α β : Type} {first : Build α} {next : α → Build β}
    (h : Leaves (Changes dir) first site)
    (hnext : ∀ value between, outcome first site = (.ok value, between) →
      Leaves (Changes dir) (next value) between) : Leaves (Changes dir) (first >>= next) site :=
  .bind (fun _ _ _ => .trans) h hnext

/-- Work that does not touch the disk. -/
theorem changes_of_disk_eq {α : Type} {work : Build α}
    (h : (outcome work site).2.disk = site.disk) : Leaves (Changes dir) work site := by
  rw [Leaves, h]
  exact .refl

/-- The induction is on the sprites that are left. -/
theorem numberSprites_changes {index : Nat} {entries : List (Identifier × Sprite)}
    (h : Path.Below dir target) :
    Leaves (Changes dir) (numberSprites target index entries) site := by
  induction entries generalizing site index with
  | nil => exact changes_of_disk_eq rfl
  | cons entry rest ih =>
    obtain ⟨id, sprite⟩ := entry
    have hone := h.div (Path.plain_padded 2 index)
    rw [numberSprites]
    refine changes_bind ?_ fun _ _ _ => .hold_bind (.note_bind ?_)
    · unfold Sprite.assemble
      refine changes_bind (.onDisk (Disk.changes_makeDirectories hone _ _)) fun _ made hmade => ?_
      obtain ⟨disk, hdisk, rfl⟩ := outcome_onDisk_ok.1 hmade
      have hthere := Disk.directory?_of_makeDirectories hdisk
      refine changes_bind (.onDisk (Disk.changes_copyChildren hone _ hthere)) fun _ _ _ => ?_
      exact changes_of_disk_eq rfl
    · exact changes_bind ih fun _ _ _ => changes_of_disk_eq rfl

theorem sprites_changes (h : Path.Below dir path) : Leaves (Changes dir) (sprites path) site := by
  have hrows : Path.Below dir (path / "npc" / "src") :=
    (h.div (Path.plain_of_not_mem (by decide))).div (Path.plain_of_not_mem (by decide))
  have htable : Path.Below dir (path / "SpriteTable.xml") :=
    h.div (Path.plain_of_not_mem (by decide))
  unfold sprites
  refine .held_bind ?_
  dsimp only
  split
  · exact changes_of_disk_eq rfl
  · refine changes_bind (.onDisk (Disk.changes_makeDirectories h _ _)) fun _ _ _ => ?_
    refine changes_bind (numberSprites_changes hrows) fun _ _ _ => ?_
    exact .onDisk (Disk.changes_writeText htable _ _)

/-- The induction is on the strings that are left. -/
theorem numberStrings_changes {used : List (Nat × Nat)}
    {entries : List (Identifier × NamedString)} (h : Path.Below dir target) :
    Leaves (Changes dir) (numberStrings target used entries) site := by
  induction entries generalizing site used with
  | nil => exact changes_of_disk_eq rfl
  | cons entry rest ih =>
    obtain ⟨id, string⟩ := entry
    rw [numberStrings]
    dsimp only
    split
    · exact changes_of_disk_eq rfl
    refine changes_bind ?_ fun _ _ _ => .hold_bind (.note_bind ih)
    unfold NamedString.assemble
    refine changes_bind (.onDisk (Disk.changes_writeText (h.div (NamedString.plain_file _ _)) _ _))
      fun _ _ _ => ?_
    exact changes_bind (changes_of_disk_eq rfl) fun _ _ _ => changes_of_disk_eq rfl

theorem strings_changes (dir : Path) (site : Site Exports) :
    Leaves (Changes dir) (strings (dir / "strings")) site := by
  have hbelow : Path.Below dir (dir / "strings") :=
    (Path.Below.refl dir).div (Path.plain_of_not_mem (by decide))
  have hrest (site : Site Exports) : Leaves (Changes dir) (do
      onDisk (Disk.makeDirectories false (dir / "strings"))
      numberStrings (dir / "strings") [] (← Work.held).strings.entries) site :=
    changes_bind (.onDisk (Disk.changes_makeDirectories hbelow _ _)) fun _ _ _ =>
      .held_bind (numberStrings_changes hbelow)
  unfold strings
  refine .disk_bind ?_
  dsimp only
  split
  · exact changes_bind (.onDisk (Disk.changes_removeTree dir _)) fun _ _ _ => hrest _
  · exact hrest site

theorem below_scriptDirectory (h : Path.Below dir path) :
    Path.Below dir (scriptDirectory path) :=
  ((h.div (Path.plain_of_not_mem (by decide))).div (Path.plain_of_not_mem (by decide))).div
    (Path.plain_of_not_mem (by decide))

theorem actors_changes (h : Path.Below dir path) : Leaves (Changes dir) (actors path) site := by
  have htable : Path.Below dir (path / "ActorTypes.xml") :=
    h.div (Path.plain_of_not_mem (by decide))
  unfold actors
  refine .held_bind ?_
  dsimp only
  split
  · exact changes_of_disk_eq rfl
  · refine changes_bind
      (.onDisk (Disk.changes_makeDirectories (below_scriptDirectory h) _ _)) fun _ _ _ => ?_
    refine changes_bind (changes_of_disk_eq numberActors_leaves.symm) fun _ _ _ => ?_
    exact changes_bind (.onDisk (Disk.changes_writeText htable _ _)) fun _ _ _ =>
      changes_of_disk_eq rfl

/-- The script is saved to a file of the directory. -/
def SavedBelow (dir : Path) (script : Script) : Prop :=
  Path.Below dir script.path.parent ∧ Path.Below dir script.path

theorem save_changes {script : Script} (h : SavedBelow dir script) (disk : Disk) :
    Changes dir disk (Disk.outcome script.save disk).2 := by
  have hmade := Disk.changes_makeDirectories h.1 true disk
  unfold Script.save
  rw [Disk.outcome_bind]
  split
  · next between hrun =>
    rw [hrun] at hmade
    exact hmade.trans (Disk.changes_writeText h.2 _ _)
  · next hrun =>
    rwa [hrun] at hmade

/-- The induction is on the scripts that are left. -/
theorem saveScripts_changes {scripts : List Script}
    (h : ∀ script ∈ scripts, SavedBelow dir script) :
    Leaves (Changes dir) (saveScripts scripts) site := by
  induction scripts generalizing site with
  | nil => exact changes_of_disk_eq rfl
  | cons script rest ih =>
    obtain ⟨hfirst, hrest⟩ := List.forall_mem_cons.1 h
    rw [saveScripts]
    refine .held_bind (changes_bind (changes_of_disk_eq rfl) fun _ _ _ => ?_)
    have hsaved : SavedBelow dir (script.resolve site.held).script := hfirst
    exact changes_bind (.onDisk (save_changes hsaved _)) fun _ _ _ => .note_bind (ih hrest)

/-- The scripts of well-named actors are saved to the directory of scripts. -/
theorem savedBelow_of_prepare {after : Site Exports} {scripts : List Script}
    (hnamed : site.held.actors.All WellNamed)
    (h : outcome (prepare dir) site = (.ok scripts, after)) :
    ∀ script ∈ scripts, SavedBelow dir script := by
  intro script hmem
  obtain ⟨_, _, hdrafted⟩ := drafted_of_prepare h
  obtain ⟨id, actor, index, hactor, hpath⟩ := exists_of_drafted hdrafted hmem
  have hplain := plain_script (hnamed id actor hactor) index
  have htarget : Path.Below dir (scriptDirectory (dir / "battle")) :=
    below_scriptDirectory ((Path.Below.refl dir).div (Path.plain_of_not_mem (by decide)))
  rw [SavedBelow, hpath, Path.parent_div _ hplain]
  exact ⟨htarget, htarget.div hplain⟩

theorem beforeActors_changes (dir : Path) (site : Site Exports) :
    Leaves (Changes dir) (beforeActors dir) site := by
  have hself := Path.Below.refl dir
  refine changes_bind ?_ fun _ _ _ => changes_bind ?_ fun _ _ _ => ?_
  · exact .onDisk (Disk.changes_makeDirectories hself _ _)
  · exact sprites_changes (hself.div (Path.plain_of_not_mem (by decide)))
  · exact strings_changes dir _

theorem prepare_changes (dir : Path) (site : Site Exports) :
    Leaves (Changes dir) (prepare dir) site :=
  changes_bind (beforeActors_changes dir site) fun _ _ _ =>
    actors_changes ((Path.Below.refl dir).div (Path.plain_of_not_mem (by decide)))

theorem run_changes (hnamed : site.held.actors.All WellNamed) :
    Leaves (Changes dir) (run dir) site := by
  rw [run_eq]
  exact changes_bind (prepare_changes dir site) fun scripts ready hready =>
    saveScripts_changes (savedBelow_of_prepare hnamed hready)

end Assembly

end ModPack
