import ModPack.Proofs.CopySteps
import ModPack.Proofs.FinishedBuild
import ModPack.Proofs.IndicesOnce
import ModPack.Proofs.PrivateReferences

/-!
# Which scripts are written

However a build ends, a file in the directory of scripts is one that was there before, or the one
script that is to be saved there has been resolved. Each actor's script is to be saved to a file of
its own, whose name begins with the index of the actor. Main statements: `saveScripts_addsNoFile`,
`run_addsNoFile` and `Package.privateKept`.
-/
namespace ModPack

open Work (outcome outcome_bind_ok outcome_seq_ok outcome_onDisk_ok outcome_ofReport_ok Leaves)

/-! ## Files that are not written -/

namespace Disk

variable {disk before between after : Disk} {location region target : Location} {path : Path}

/-- A file at the location was there before with the same content. -/
structure AddsNoFile (location : Location) (before after : Disk) : Prop where
  workingDirectory : after.workingDirectory = before.workingDirectory
  file : ∀ content, after.tree.get? location = some (.file content) →
    before.tree.get? location = some (.file content)

namespace AddsNoFile

theorem refl (location : Location) (disk : Disk) : AddsNoFile location disk disk :=
  ⟨rfl, fun _ h => h⟩

theorem trans (h : AddsNoFile location before between) (h' : AddsNoFile location between after) :
    AddsNoFile location before after :=
  ⟨h'.workingDirectory.trans h.workingDirectory, fun content hfile =>
    h.file content (h'.file content hfile)⟩

theorem spot_eq (h : AddsNoFile location before after) (path : Path) :
    after.spot path = before.spot path := by
  rw [spot, spot, start, start, h.workingDirectory]

/-- Directories are no files, and what is put elsewhere does not matter. -/
theorem withEntry {other : Location} {entry : Entry} (hother : other ≠ [])
    (h : entry = .directory ∨ location ≠ other) :
    AddsNoFile location disk (disk.withEntry other entry) := by
  refine ⟨rfl, fun content hfile => ?_⟩
  rw [get?_withEntry hother] at hfile
  split at hfile
  · next hsame =>
    rcases h with rfl | hne
    · cases hfile
    · exact absurd hsame hne
  · exact hfile

theorem of_puts (h : Puts region before after) (hlocation : location.within region = false) :
    AddsNoFile location before after := by
  refine ⟨h.keeps.workingDirectory, fun content hfile => ?_⟩
  rwa [h.keepsOutside.get?_eq hlocation] at hfile

end AddsNoFile

theorem makeDirectories_addsNoFile (location : Location) (existOk : Bool) (path : Path)
    (disk : Disk) : AddsNoFile location disk (outcome (makeDirectories existOk path) disk).2 := by
  refine makeDirectories_steps path (AddsNoFile.refl location) (fun _ _ _ => AddsNoFile.trans)
    (fun existOk parts disk _ => ?_) existOk disk
  rw [outcome_makeDirectory]
  split
  · exact .refl _ _
  · split
    · next hnone => exact .withEntry (FileTree.ne_nil_of_get?_eq_none hnone) (.inl rfl)
    · exact .refl _ _
    · exact .refl _ _

theorem writeText_addsNoFile {text : String} (h : disk.spot path ≠ location) :
    AddsNoFile location disk (outcome (writeText path text) disk).2 := by
  unfold writeText writeBytes
  rw [outcome_get_bind, outcome_ofExcept_bind]
  cases hlocate : disk.locate path with
  | error error => exact .refl _ _
  | ok there =>
    have hthere := eq_spot_of_locate hlocate
    dsimp only
    split
    · exact .refl _ _
    · next hfile =>
      have hne : there ≠ [] := by
        rintro rfl
        exact hfile (FileTree.isDirectory_root disk.tree)
      exact .withEntry hne (.inr fun heq => h (hthere.symm.trans heq.symm))

theorem removeTree_addsNoFile (location : Location) (path : Path) (disk : Disk) :
    AddsNoFile location disk (outcome (removeTree path) disk).2 := by
  unfold removeTree
  rw [outcome_get_bind, outcome_ofExcept_bind]
  cases disk.find path with
  | error error => exact .refl _ _
  | ok found =>
    obtain ⟨there, entry⟩ := found
    cases entry with
    | file content => exact .refl _ _
    | directory =>
      refine ⟨rfl, fun content hfile => ?_⟩
      change (disk.without there).tree.get? location = _ at hfile
      by_cases hthere : there = []
      · -- Without the root nothing is left.
        have hnone : (disk.without there).tree.entries = [] := by
          rw [hthere]
          exact List.filter_eq_nil_iff.2 fun entry _ => by
            simp [Location.within_iff.2 (List.nil_suffix)]
        rw [FileTree.get?, hnone] at hfile
        split at hfile
        · cases hfile
        · cases hfile
      · rw [get?_without hthere] at hfile
        split at hfile
        · cases hfile
        · exact hfile

end Disk

open Disk (AddsNoFile)

variable {site after : Site Exports} {dir target : Path} {location : Location}

/-- A script is written to its own path and nowhere else. -/
theorem Script.save_addsNoFile {script : Script} {disk : Disk}
    (h : disk.spot script.path ≠ location) :
    AddsNoFile location disk (Disk.outcome script.save disk).2 := by
  have hmade := Disk.makeDirectories_addsNoFile location true script.path.parent disk
  unfold Script.save
  rw [Disk.outcome_bind]
  split
  · next between hrun =>
    rw [hrun] at hmade
    refine hmade.trans (Disk.writeText_addsNoFile ?_)
    rwa [hmade.spot_eq]
  · next hrun =>
    rwa [hrun] at hmade

namespace Assembly

theorem addsNoFile_bind {α β : Type} {first : Build α} {next : α → Build β}
    (h : Leaves (AddsNoFile location) first site)
    (hnext : ∀ value between, outcome first site = (.ok value, between) →
      Leaves (AddsNoFile location) (next value) between) :
    Leaves (AddsNoFile location) (first >>= next) site :=
  .bind (fun _ _ _ hfirst hsecond => hfirst.trans hsecond) h hnext

/-- Work that does not touch the disk. -/
theorem addsNoFile_of_disk_eq {α : Type} {work : Build α}
    (h : (outcome work site).2.disk = site.disk) : Leaves (AddsNoFile location) work site := by
  rw [Leaves, h]
  exact .refl _ _

/-- Only a script that resolves is written. The induction is on the scripts that are left. -/
theorem saveScripts_addsNoFile {scripts : List Script}
    (h : ∀ script ∈ scripts, site.disk.spot script.path = location →
      (script.resolve site.held).failure.isSome) :
    Leaves (AddsNoFile location) (saveScripts scripts) site := by
  induction scripts generalizing site with
  | nil => exact addsNoFile_of_disk_eq rfl
  | cons script rest ih =>
    obtain ⟨hfirst, hrest⟩ := List.forall_mem_cons.1 h
    rw [saveScripts]
    refine .held_bind (addsNoFile_bind (addsNoFile_of_disk_eq rfl) fun _ told htold => ?_)
    obtain ⟨hresolved, rfl⟩ := outcome_ofReport_ok.1 htold
    have hspot : site.disk.spot script.path ≠ location := by
      intro heq
      obtain ⟨failure, hfailure⟩ := Option.isSome_iff_exists.1 (hfirst heq)
      dsimp only at hresolved
      rw [hfailure] at hresolved
      cases hresolved
    have hsave : AddsNoFile location site.disk
        (Disk.outcome (script.resolve site.held).script.save site.disk).2 :=
      Script.save_addsNoFile hspot
    refine addsNoFile_bind (.onDisk hsave) fun _ saved hsaved => ?_
    obtain ⟨disk, hdisk, rfl⟩ := outcome_onDisk_ok.1 hsaved
    rw [hdisk] at hsave
    refine .note_bind (ih fun other hother hspot => hrest other hother ?_)
    rwa [← hsave.spot_eq]

/-! ## Steps before scripts are saved -/

theorem numberSprites_addsNoFile {index : Nat} {entries : List (Identifier × Sprite)}
    (h : location.within (site.disk.spot target) = false) :
    Leaves (AddsNoFile location) (numberSprites target index entries) site := by
  induction entries generalizing site index with
  | nil => exact addsNoFile_of_disk_eq rfl
  | cons entry rest ih =>
    obtain ⟨id, sprite⟩ := entry
    have hplain := Path.plain_padded 2 index
    have hone : Leaves (AddsNoFile location)
        (sprite.assemble (target / Hex.padded 2 index) index) site := by
      have hmake := Disk.makeDirectories_addsNoFile location true (target / Hex.padded 2 index)
        site.disk
      refine addsNoFile_bind (.onDisk hmake) fun _ made hmade => ?_
      obtain ⟨disk, hdisk, rfl⟩ := outcome_onDisk_ok.1 hmade
      rw [hdisk] at hmake
      refine addsNoFile_bind ?_ fun _ _ _ => addsNoFile_of_disk_eq rfl
      have hthere := Disk.directory?_of_makeDirectories hdisk
      refine .onDisk (.of_puts (Disk.copyChildren_puts sprite.dir hthere) ?_)
      rw [hmake.spot_eq, Disk.spot_div hplain]
      exact Location.not_within_below h
    rw [numberSprites]
    refine addsNoFile_bind hone fun marked between hbetween => ?_
    have hspot := (hone.of_outcome hbetween).spot_eq target
    refine .hold_bind (.note_bind (addsNoFile_bind (ih ?_) fun _ _ _ => addsNoFile_of_disk_eq rfl))
    exact hspot ▸ h

theorem sprites_addsNoFile (h : location.within (site.disk.spot dir) = false) :
    Leaves (AddsNoFile location) (sprites dir) site := by
  have hnpc : Path.Plain "npc" := Path.plain_of_not_mem (by decide)
  have hsrc : Path.Plain "src" := Path.plain_of_not_mem (by decide)
  have htable : Path.Plain "SpriteTable.xml" := Path.plain_of_not_mem (by decide)
  unfold sprites
  refine .held_bind ?_
  dsimp only
  split
  · exact addsNoFile_of_disk_eq rfl
  have hmake := Disk.makeDirectories_addsNoFile location true dir site.disk
  refine addsNoFile_bind (.onDisk hmake) fun _ made hmade => ?_
  obtain ⟨disk, hdisk, rfl⟩ := outcome_onDisk_ok.1 hmade
  rw [hdisk] at hmake
  have hrows : Leaves (AddsNoFile location) (numberSprites (dir / "npc" / "src") firstSprite
      site.held.sprites.entries) { site with disk } := by
    refine numberSprites_addsNoFile ?_
    change location.within (disk.spot (dir / "npc" / "src")) = false
    rw [hmake.spot_eq, Disk.spot_div hsrc, Disk.spot_div hnpc]
    exact Location.not_within_below (Location.not_within_below h)
  refine addsNoFile_bind hrows fun rows between hbetween => ?_
  refine .onDisk (Disk.writeText_addsNoFile ?_)
  rw [(hrows.of_outcome hbetween).spot_eq, hmake.spot_eq, Disk.spot_div htable]
  exact Location.ne_of_not_within h

theorem numberStrings_addsNoFile {used : List (Nat × Nat)}
    {entries : List (Identifier × NamedString)}
    (h : location.within (site.disk.spot target) = false) :
    Leaves (AddsNoFile location) (numberStrings target used entries) site := by
  induction entries generalizing site used with
  | nil => exact addsNoFile_of_disk_eq rfl
  | cons entry rest ih =>
    obtain ⟨id, string⟩ := entry
    rw [numberStrings]
    dsimp only
    split
    · exact addsNoFile_of_disk_eq rfl
    have hone : Leaves (AddsNoFile location)
        (string.assemble target (nextIn used string.bank)) site := by
      have hwrite : AddsNoFile location site.disk (Disk.outcome (Disk.writeText
          (target / (NamedString.idText string.bank (nextIn used string.bank) ++ ".str"))
          (string.written (nextIn used string.bank))) site.disk).2 := by
        refine Disk.writeText_addsNoFile ?_
        rw [Disk.spot_div (NamedString.plain_file _ _)]
        exact Location.ne_of_not_within h
      unfold NamedString.assemble
      refine addsNoFile_bind (.onDisk hwrite) fun _ _ _ => ?_
      exact addsNoFile_bind (addsNoFile_of_disk_eq rfl) fun _ _ _ => addsNoFile_of_disk_eq rfl
    refine addsNoFile_bind hone fun marked between hbetween => ?_
    have hspot := (hone.of_outcome hbetween).spot_eq target
    exact .hold_bind (.note_bind (ih (hspot ▸ h)))

theorem strings_addsNoFile (h : location.within (site.disk.spot dir) = false) :
    Leaves (AddsNoFile location) (strings dir) site := by
  have hrest {site : Site Exports} (h : location.within (site.disk.spot dir) = false) :
      Leaves (AddsNoFile location) (do
        onDisk (Disk.makeDirectories false dir)
        numberStrings dir [] (← Work.held).strings.entries) site := by
    have hmake := Disk.makeDirectories_addsNoFile location false dir site.disk
    refine addsNoFile_bind (.onDisk hmake) fun _ made hmade => ?_
    refine .held_bind (numberStrings_addsNoFile ?_)
    obtain ⟨disk, hdisk, rfl⟩ := outcome_onDisk_ok.1 hmade
    rw [hdisk] at hmake
    rwa [hmake.spot_eq]
  unfold strings
  refine .disk_bind ?_
  dsimp only
  split
  · have hremove := Disk.removeTree_addsNoFile location dir site.disk
    refine addsNoFile_bind (.onDisk hremove) fun _ removed hremoved => hrest ?_
    obtain ⟨disk, hdisk, rfl⟩ := outcome_onDisk_ok.1 hremoved
    rw [hdisk] at hremove
    rwa [hremove.spot_eq]
  · exact hrest h

/-- Reading a script leaves the disk as it is, even if it cannot be read. -/
theorem numberActor_leaves {index : Nat} {entry : Identifier × Actor} :
    Leaves Eq (numberActor target index entry) site := by
  have htrans (before between after : Disk) : before = between → between = after → before = after :=
    Eq.trans
  have hintroduced (id : Identifier) (field : String) (string : Identifier) (site : Site Exports) :
      Leaves Eq (introduction id field string) site := by
    unfold introduction
    refine .held_bind ?_
    split
    · exact .pure Eq.refl _ _
    · exact .throw Eq.refl _ _
  have hassembled (actor : Actor) (site : Site Exports) :
      Leaves Eq (actor.assemble target index) site := by
    unfold Actor.assemble
    refine .disk_bind (.bind htrans (.ofReport Eq.refl _ _ _) fun _ _ _ => ?_)
    exact .bind htrans (.ofExcept Eq.refl _ _) fun _ _ _ => .pure Eq.refl _ _
  unfold numberActor
  refine .bind htrans (hintroduced _ _ _ _) fun _ _ _ => ?_
  refine .bind htrans (hintroduced _ _ _ _) fun _ _ _ => ?_
  refine .bind htrans (.ofExcept Eq.refl _ _) fun _ _ _ => ?_
  refine .bind htrans (.ofExcept Eq.refl _ _) fun _ _ _ => ?_
  exact .bind htrans (hassembled _ _) fun _ _ _ => .hold_bind (.note_bind (.pure Eq.refl _ _))

theorem numberActors_leaves {index : Nat} {entries : List (Identifier × Actor)} :
    Leaves Eq (numberActors target index entries) site := by
  induction entries generalizing site index with
  | nil => exact .pure Eq.refl _ _
  | cons entry rest ih =>
    have htrans (before between after : Disk) :
        before = between → between = after → before = after := Eq.trans
    rw [numberActors_cons]
    refine .bind htrans numberActor_leaves fun _ _ _ => ?_
    exact .bind htrans ih fun _ _ _ => .pure Eq.refl _ _

theorem actors_addsNoFile (h : site.disk.spot (dir / "ActorTypes.xml") ≠ location) :
    Leaves (AddsNoFile location) (actors dir) site := by
  unfold actors
  refine .held_bind ?_
  dsimp only
  split
  · exact addsNoFile_of_disk_eq rfl
  have hmake := Disk.makeDirectories_addsNoFile location true (scriptDirectory dir) site.disk
  refine addsNoFile_bind (.onDisk hmake) fun _ made hmade => ?_
  obtain ⟨disk, hdisk, rfl⟩ := outcome_onDisk_ok.1 hmade
  change Disk.outcome (Disk.makeDirectories true (scriptDirectory dir)) _ = _ at hdisk
  rw [hdisk] at hmake
  refine addsNoFile_bind (addsNoFile_of_disk_eq numberActors_leaves.symm) fun _ between hrows => ?_
  have hsame : disk = between.disk := numberActors_leaves.of_outcome hrows
  refine addsNoFile_bind (.onDisk (Disk.writeText_addsNoFile ?_)) fun _ _ _ =>
    addsNoFile_of_disk_eq rfl
  rwa [← hsame, hmake.spot_eq]

theorem spot_scriptDirectory (disk : Disk) (dir : Path) :
    disk.spot (scriptDirectory dir) = "actor" :: "import" :: "formation" :: disk.spot dir := by
  have hactor : Path.Plain "actor" := Path.plain_of_not_mem (by decide)
  have himport : Path.Plain "import" := Path.plain_of_not_mem (by decide)
  have hformation : Path.Plain "formation" := Path.plain_of_not_mem (by decide)
  rw [scriptDirectory, Disk.spot_div hactor, Disk.spot_div himport, Disk.spot_div hformation]

/-- A file of the directory of scripts. -/
def scriptFile (disk : Disk) (dir : Path) (name : String) : Location :=
  name :: disk.spot (scriptDirectory (dir / "battle"))

/-- The steps before the actors write files into two directories only. -/
theorem beforeActors_addsNoFile
    (hsprites : location.within ("sprite" :: site.disk.spot dir) = false)
    (hstrings : location.within ("strings" :: site.disk.spot dir) = false) :
    Leaves (AddsNoFile location) (beforeActors dir) site := by
  have hspriteName : Path.Plain "sprite" := Path.plain_of_not_mem (by decide)
  have hstringsName : Path.Plain "strings" := Path.plain_of_not_mem (by decide)
  have hmake := Disk.makeDirectories_addsNoFile location true dir site.disk
  refine addsNoFile_bind (.onDisk hmake) fun _ made hmade => ?_
  obtain ⟨disk, hdisk, rfl⟩ := outcome_onDisk_ok.1 hmade
  rw [hdisk] at hmake
  have hdrawn : Leaves (AddsNoFile location) (sprites (dir / "sprite")) { site with disk } := by
    refine sprites_addsNoFile ?_
    rwa [hmake.spot_eq, Disk.spot_div hspriteName]
  refine addsNoFile_bind hdrawn fun _ drawn hrun => strings_addsNoFile ?_
  rwa [(hdrawn.of_outcome hrun).spot_eq, hmake.spot_eq, Disk.spot_div hstringsName]

/-- Where a table and the files of scripts go is in neither of them. -/
theorem outside_of_battle {build : Location}
    (h : location.within ("battle" :: build) = true) :
    location.within ("sprite" :: build) = false ∧ location.within ("strings" :: build) = false :=
  ⟨(Location.Apart.beside (by decide) _).not_within h,
    (Location.Apart.beside (by decide) _).not_within h⟩

/-- The steps before scripts are saved write one file into the directory of actors. -/
theorem prepare_addsNoFile_of_ne
    (hbattle : location.within ("battle" :: site.disk.spot dir) = true)
    (htable : location ≠ "ActorTypes.xml" :: "battle" :: site.disk.spot dir) :
    Leaves (AddsNoFile location) (prepare dir) site := by
  have hbattleName : Path.Plain "battle" := Path.plain_of_not_mem (by decide)
  have htableName : Path.Plain "ActorTypes.xml" := Path.plain_of_not_mem (by decide)
  obtain ⟨hsprites, hstrings⟩ := outside_of_battle hbattle
  have hbefore := beforeActors_addsNoFile hsprites hstrings
  refine addsNoFile_bind hbefore fun _ between hrun => actors_addsNoFile ?_
  rw [(hbefore.of_outcome hrun).spot_eq, Disk.spot_div htableName, Disk.spot_div hbattleName]
  exact htable.symm

theorem scriptFile_within (disk : Disk) (dir : Path) (name : String) :
    (scriptFile disk dir name).within ("battle" :: disk.spot dir) = true := by
  rw [scriptFile, spot_scriptDirectory, Disk.spot_div (Path.plain_of_not_mem (by decide))]
  exact Location.within_append [name, "actor", "import", "formation"] _

theorem scriptFile_ne_table (disk : Disk) (dir : Path) (name : String) :
    scriptFile disk dir name ≠ "ActorTypes.xml" :: "battle" :: disk.spot dir := by
  rw [scriptFile, spot_scriptDirectory, Disk.spot_div (Path.plain_of_not_mem (by decide))]
  intro heq
  have hlength := congrArg List.length heq
  simp only [List.length_cons] at hlength
  omega

/-- The steps before scripts are saved write none of them. -/
theorem prepare_addsNoFile (dir : Path) (name : String) (site : Site Exports) :
    Leaves (AddsNoFile (scriptFile site.disk dir name)) (prepare dir) site :=
  prepare_addsNoFile_of_ne (scriptFile_within _ _ _) (scriptFile_ne_table _ _ _)

/-- However a build ends, a file in the directory of scripts was there before, unless the build came
to the scripts and the one that is to be saved there resolves. -/
theorem run_addsNoFile {name : String}
    (h : ∀ scripts ready, outcome (prepare dir) site = (.ok scripts, ready) →
      ∀ script ∈ scripts, ready.disk.spot script.path = scriptFile site.disk dir name →
        (script.resolve ready.held).failure.isSome) :
    Leaves (AddsNoFile (scriptFile site.disk dir name)) (run dir) site := by
  rw [run_eq]
  exact addsNoFile_bind (prepare_addsNoFile dir name site) fun scripts ready hready =>
    saveScripts_addsNoFile (h scripts ready hready)

/-! ## Scripts and their files -/

/-- Scripts are read for all actors in order, and there are no more than two digits can tell
apart. -/
theorem drafted_of_actors {scripts : List Script}
    (h : outcome (actors dir) site = (.ok scripts, after)) :
    site.held.actors.size ≤ lastActor + 1 ∧ ∃ disk,
      List.Forall₂ (fun ((_, actor), index) script =>
        Drafted disk (scriptDirectory dir) actor index script)
          (site.held.actors.entries.zipIdx 0) scripts := by
  obtain ⟨hcount, made, _, _, _, _, hnumbered, _⟩ := actors_steps h
  exact ⟨hcount, made, hnumbered.drafted⟩

theorem drafted_of_prepare {scripts : List Script}
    (h : outcome (prepare dir) site = (.ok scripts, after)) :
    site.held.actors.size ≤ lastActor + 1 ∧ ∃ disk,
      List.Forall₂ (fun ((_, actor), index) script =>
        Drafted disk (scriptDirectory (dir / "battle")) actor index script)
          (site.held.actors.entries.zipIdx 0) scripts := by
  obtain ⟨between, hbefore, hactors⟩ := outcome_seq_ok.1 h
  have hdrafted := drafted_of_actors hactors
  rwa [(beforeActors_ok hbefore).1] at hdrafted

/-- Two digits in front of the name tell files of scripts apart. -/
theorem scriptFile_inj {first second : Nat} {name other : String} (hfirst : first ≤ lastActor)
    (hsecond : second ≤ lastActor)
    (h : Hex.padded 2 first ++ "_" ++ name ++ ".bpat" =
      Hex.padded 2 second ++ "_" ++ other ++ ".bpat") : first = second := by
  have hlength {index : Nat} (hle : index ≤ lastActor) :
      (Hex.padded 2 index).toList.length = 2 := by
    refine Hex.length_padded (by omega) ?_
    change index ≤ 0xFF at hle
    omega
  have htake {index : Nat} (hle : index ≤ lastActor) (name : String) :
      (Hex.padded 2 index ++ "_" ++ name ++ ".bpat").toList.take 2 =
        (Hex.padded 2 index).toList := by
    rw [String.append_assoc, String.append_assoc, String.toList_append]
    exact List.take_left' (hlength hle)
  have hdigits := htake hfirst name
  rw [h, htake hsecond other] at hdigits
  exact (Hex.padded_inj (String.toList_inj.1 hdigits)).symm

/-- The file of an actor's script is written only by that script, when it resolves. -/
theorem run_addsNoFile_of_actor {index : Nat} {id : Identifier} {actor : Actor}
    (hnamed : site.held.actors.All WellNamed)
    (hentry : site.held.actors.entries[index]? = some (id, actor))
    (h : ∀ scripts ready script, outcome (prepare dir) site = (.ok scripts, ready) →
      scripts[index]? = some script → (script.resolve ready.held).failure.isSome) :
    Leaves (AddsNoFile (scriptFile site.disk dir
      (Hex.padded 2 index ++ "_" ++ actor.name ++ ".bpat"))) (run dir) site := by
  refine run_addsNoFile fun scripts ready hready script hmem hspot => ?_
  obtain ⟨hcount, between, hdrafted⟩ := drafted_of_prepare hready
  obtain ⟨place, hplace⟩ := List.mem_iff_getElem?.1 hmem
  obtain ⟨⟨key, other⟩, hother, read, hread, hscript⟩ := exists_counted hdrafted hplace
  have hbound {place : Nat} {item : Identifier × Actor}
      (hitem : site.held.actors.entries[place]? = some item) : place ≤ lastActor := by
    have hlt : place < site.held.actors.size := (List.getElem?_eq_some_iff.1 hitem).1
    omega
  -- The script is saved under its own place, so it is the one for the actor.
  have hplain := plain_script (hnamed key other (List.mem_of_getElem? hother)) place
  rw [hscript, Disk.spot_div hplain,
    ((prepare_addsNoFile dir "" site).of_outcome hready).spot_eq, scriptFile] at hspot
  have hsame := scriptFile_inj (hbound hother) (hbound hentry) (List.cons.inj hspot).1
  rw [hsame] at hplace
  exact h scripts ready script hready hplace

end Assembly

theorem Script.package_of_load {disk : Disk} {package : String} {path : Path} {script : Script}
    (h : (Script.load disk package path).result = .ok script) : script.package = package := by
  unfold Script.load Script.parse at h
  obtain ⟨text, _, h⟩ := Report.result_bind_ok.1 h
  obtain ⟨blocks, _, h⟩ := Report.result_bind_ok.1 h
  dsimp only at h
  split at h
  · obtain ⟨_, h⟩ := Report.result_seq_ok.1 h
    cases h
    rfl
  · cases h
    rfl

namespace Sample

/-- A script that names a private export of another package. -/
def intruding : String :=
  "\x7bString:other/_secret\x7d\n"

theorem load_stage_intruding :
    (Package.load {} (stage sidecar intruding) stagePath).result =
      .ok (stagePackage hello hint) :=
  load_stage "hello" "_hint" (by decide +kernel) (by decide +kernel) (by decide +kernel)
    (by decide +kernel)

def stageBuild : Path :=
  ⟨.root, ["stage", ".build"]⟩

/-- The script as it is read to be saved in the build. -/
def intruder : Script where
  path := Assembly.scriptDirectory (stageBuild / "battle") / "00_goomba.bpat"
  blocks := [⟨⟨1, "\x7bString:other/_secret\x7d"⟩, [], .other⟩]
  package := "stage"

theorem namesPrivate_intruder : intruder.NamesPrivate := by
  refine ⟨⟨1, "\x7bString:other/_secret\x7d"⟩, List.mem_singleton.2 rfl,
    ⟨.text, ["other/_secret"]⟩, by decide +kernel, rfl, _, _, "other", "_secret", rfl, ?_⟩
  exact ⟨by decide, by decide, by decide, by decide⟩

/-- All that is read for the actors of the package. -/
theorem prepare_intruding :
    (outcome (Assembly.prepare stageBuild)
      { disk := stage sidecar intruding, held := (stagePackage hello hint).exports }).1.toOption =
        some [intruder] := by
  decide +kernel

end Sample

end ModPack
