import ModPack.Proofs.FailedBuilds
import ModPack.Proofs.FoundReferences

/-!
# Actors of dependencies

What an actor asks for is its introductions, its script, and what the script names. A package covers
what each of its dependencies exports, so an actor that it inherits from a dependency has all that
it asks for, when that dependency can be built by itself. Main statements: `supplied_of_run`,
`FailsAt.of_dangling` and `Package.composes`.
-/
namespace ModPack

open Work (outcome outcome_bind_ok outcome_ofExcept_ok FailsIn)
open Disk (AddsNoFile Changes)
open Assembly (stringPlace)

/-! ## Files that a build leaves alone -/

namespace Disk

variable {disk before after : Disk} {dir path source : Path} {location : Location} {name : String}

/-- A build into the directory copies nothing to where the path leads, and clears nothing on the way
there. -/
structure Spares (disk : Disk) (dir path : Path) : Prop where
  copied : (disk.spot path).within ("sprite" :: disk.spot dir) = false
  cleared : ∀ parts, parts <+: path.parts →
    (disk.spot { path with parts }).within (stringPlace (disk.spot dir)) = false

/-- A directory with something in it is not in a fresh one. -/
theorem Fresh.not_within {other : String} (hfresh : disk.Fresh dir)
    (hheld : (disk.tree.get? (other :: location)).isSome) :
    location.within (disk.spot dir) = false := by
  rw [Bool.eq_false_iff]
  intro hwithin
  obtain ⟨entry, hentry⟩ := Option.isSome_iff_exists.1 hheld
  have hsuffix := Location.within_iff.1 hwithin
  have hbelow := Location.within_iff.2 (hsuffix.trans (List.suffix_cons other location))
  have hsame := hfresh _ (FileTree.mem_of_get? (List.cons_ne_nil _ _) hentry) hbelow
  have hplace : other :: location = disk.spot dir := congrArg Prod.fst hsame
  have hlength := hsuffix.length_le
  rw [← hplace, List.length_cons] at hlength
  omega

/-- When the build has a fresh directory, that is so for all files of a directory with something
in it. -/
theorem Spares.of_fresh {other : String} (hfresh : disk.Fresh dir)
    (hsource : disk.directory? source = some location)
    (hheld : (disk.tree.get? (other :: location)).isSome) (hname : Path.Plain name) :
    disk.Spares dir (source / name) := by
  have hstrings : Path.Plain "strings" := Path.plain_of_not_mem (by decide)
  have hspot : disk.spot (source / name) = name :: location :=
    (eq_spot_of_locate (locate_div hsource hname)).symm
  have hfree := hfresh.not_within hheld
  have hout (place : String) :
      Location.within (name :: location) (place :: disk.spot dir) = false := by
    rw [Bool.eq_false_iff] at hfree ⊢
    intro hwithin
    refine hfree (Location.within_iff.2 ?_)
    rcases List.suffix_cons_iff.1 (Location.within_iff.1 hwithin) with heq | hsuffix
    · have hsame : disk.spot dir = location := (List.cons.inj heq).2
      exact hsame ▸ List.suffix_refl _
    · exact (List.suffix_cons _ _).trans hsuffix
  refine ⟨by rw [hspot]; exact hout _, fun parts hparts => ?_⟩
  rw [Path.div_of_plain source hname] at hparts hspot ⊢
  rcases List.prefix_concat_iff.1 hparts with rfl | hparts
  · rw [hspot]
    exact hout _
  · have hbeside := hfresh.within_div hstrings (isDirectory_of_front hsource hparts)
    rwa [spot_div hstrings] at hbeside

theorem Spares.locate (h : before.Spares dir path) (hchanges : Changes dir before after)
    (hlocate : before.locate path = .ok location) : after.locate path = .ok location := by
  have hwalk : walk before.tree (before.start path) path.parts = .ok location := hlocate
  change walk after.tree (after.start path) path.parts = .ok location
  rw [hchanges.start_eq]
  exact walk_of_isDirectory
    (fun front hfront => hchanges.isDirectory (h.cleared front hfront)) hwalk

/-- So the file is read as before. -/
theorem Spares.readFile_ok_iff (h : before.Spares dir path) (hchanges : Changes dir before after)
    (hadds : AddsNoFile (before.spot path) before after)
    (hlocate : before.locate path = .ok location) {content : ByteArray} :
    after.readFile path = .ok content ↔ before.readFile path = .ok content := by
  have hlocate' := h.locate hchanges hlocate
  have hspot := eq_spot_of_locate hlocate
  rw [← hspot] at hadds
  have hstrings : location.within (stringPlace (before.spot dir)) = false := by
    rw [hspot]
    exact h.cleared path.parts (List.prefix_refl _)
  rw [readFile_ok, readFile_ok]
  constructor
  · rintro ⟨there, hthere, hfile⟩
    cases hlocate'.symm.trans hthere
    exact ⟨location, hlocate, hadds.file content hfile⟩
  · rintro ⟨there, hthere, hfile⟩
    cases hlocate.symm.trans hthere
    obtain ⟨written, hwritten⟩ := hchanges.isFile hstrings ⟨content, hfile⟩
    cases (hadds.file written hwritten).symm.trans hfile
    exact ⟨location, hlocate', hwritten⟩

end Disk

theorem Script.load_ok_iff {first second : Disk} {package : String} {path : Path} {script : Script}
    (h : ∀ content, second.readFile path = .ok content ↔ first.readFile path = .ok content) :
    (Script.load second package path).result = .ok script ↔
      (Script.load first package path).result = .ok script := by
  constructor
  · intro hload
    obtain ⟨content, hread⟩ := exists_readFile_of_load hload
    rwa [load_of_readFile (hread.trans ((h content).1 hread).symm)] at hload
  · intro hload
    obtain ⟨content, hread⟩ := exists_readFile_of_load hload
    rwa [load_of_readFile (((h content).2 hread).trans hread.symm)]

theorem Script.exists_locate_of_load {disk : Disk} {package : String} {path : Path}
    {script : Script} (h : (Script.load disk package path).result = .ok script) :
    ∃ location, disk.locate path = .ok location := by
  obtain ⟨content, hread⟩ := exists_readFile_of_load h
  obtain ⟨location, hlocate, _⟩ := Disk.readFile_ok.1 hread
  exact ⟨location, hlocate⟩

/-! ## What an actor asks for -/

/-- What the actor asks for is there: among the exports, and on the disk. -/
structure Actor.Supplied (actor : Actor) (exports : Exports) (disk : Disk) : Prop where
  displayName : (exports.record? .text actor.displayName).isSome
  tattle : (exports.record? .text actor.tattle).isSome
  script : ∃ script, (Script.load disk actor.sourcePackage actor.scriptPath).result = .ok script ∧
    script.Found exports

theorem Actor.Supplied.mono {actor : Actor} {exports other : Exports} {disk now : Disk}
    (h : actor.Supplied exports disk) (hcovers : other.Covers exports)
    (hread : ∀ content, disk.readFile actor.scriptPath = .ok content →
      now.readFile actor.scriptPath = .ok content) : actor.Supplied other now := by
  obtain ⟨script, hload, hfound⟩ := h.script
  obtain ⟨content, hcontent⟩ := Script.exists_readFile_of_load hload
  refine ⟨hcovers _ _ h.displayName, hcovers _ _ h.tattle, script, ?_, hfound.mono hcovers⟩
  rwa [Script.load_of_readFile ((hread content hcontent).trans hcontent.symm)]

namespace Assembly

variable {site staged ready built after : Site Exports} {dir : Path} {failure : AssemblyFailure}
  {id : Identifier} {actor : Actor} {location : Location}

/-- Numbering does not change under which identifiers there is something. -/
theorem isSome_record?_of_prepare {scripts : List Script}
    (h : outcome (prepare dir) site = (.ok scripts, ready)) (kind : ExportKind) (id : Identifier) :
    (ready.held.record? kind id).isSome = (site.held.record? kind id).isSome := by
  obtain ⟨hsprites, hstrings, hactors⟩ := prepare_ok h
  cases kind with
  | sprite =>
    have hkeys : ready.held.sprites.keys = site.held.sprites.keys := by
      rw [Registry.keys, Registry.keys, hsprites, keys_numbered]
    simpa [Exports.record?] using Registry.isSome_get?_of_keys hkeys id
  | actor =>
    have hkeys : ready.held.actors.keys = site.held.actors.keys := by
      rw [Registry.keys, Registry.keys, hactors, keys_numbered]
    simpa [Exports.record?] using Registry.isSome_get?_of_keys hkeys id
  | text =>
    have hkeys : ready.held.strings.keys = site.held.strings.keys := by
      rw [Registry.keys, Registry.keys, hstrings, keys_sectioned]
    simpa [Exports.record?] using Registry.isSome_get?_of_keys hkeys id

theorem isSome_get?_of_beforeNumbering {entries : List (Identifier × Actor)}
    (h : outcome (beforeNumbering dir) site = (.ok entries, staged)) (id : Identifier) :
    (staged.held.strings.get? id).isSome = (site.held.record? .text id).isSome := by
  obtain ⟨_, _, hstrings, _⟩ := beforeNumbering_ok h
  have hkeys : staged.held.strings.keys = site.held.strings.keys := by
    rw [Registry.keys, Registry.keys, hstrings, keys_sectioned]
  simpa [Exports.record?] using Registry.isSome_get?_of_keys hkeys id

/-- A script that the build spares is read as before when the actors are numbered. -/
theorem load_ok_iff_of_beforeNumbering {entries : List (Identifier × Actor)} {path : Path}
    {package : String} {script : Script} (hspares : site.disk.Spares dir path)
    (hlocate : site.disk.locate path = .ok location)
    (h : outcome (beforeNumbering dir) site = (.ok entries, staged)) :
    (Script.load staged.disk package path).result = .ok script ↔
      (Script.load site.disk package path).result = .ok script := by
  have hadds := (beforeNumbering_addsNoFile hspares.copied
    (hspares.cleared _ (List.prefix_refl _))).of_outcome h
  have hchanges := (beforeNumbering_changes dir site).of_outcome h
  exact Script.load_ok_iff fun _ => hspares.readFile_ok_iff hchanges hadds hlocate

/-- When a build succeeds each of its actors has all that it asks for, in its exports and on the
disk that it starts from. -/
theorem supplied_of_run (hspares : site.disk.Spares dir actor.scriptPath)
    (hlocate : site.disk.locate actor.scriptPath = .ok location)
    (hentry : (id, actor) ∈ site.held.actors.entries)
    (h : outcome (run dir) site = (.ok (), built)) : actor.Supplied site.held site.disk := by
  rw [run_eq] at h
  obtain ⟨scripts, ready, hprepare, hsave⟩ := outcome_bind_ok.1 h
  obtain ⟨_, _, staged, hstart, ⟨rows, hrows⟩, hdrafted⟩ := prepare_drafted hprepare
  obtain ⟨index, hindex⟩ := List.mem_iff_getElem?.1 hentry
  have hheld {text : Identifier} {string : NamedString}
      (hget : staged.held.strings.get? text = some string) :
      (site.held.record? .text text).isSome := by
    rw [← isSome_get?_of_beforeNumbering hstart, hget]
    rfl
  obtain ⟨row, _, name, tattle, _, _, hname, htattle, _⟩ := getElem?_of_counted hrows hindex
  obtain ⟨script, hscript, read, hread, rfl⟩ := getElem?_of_counted hdrafted hindex
  refine ⟨hheld hname, hheld htattle, read, ?_, ?_⟩
  · have hadds := (beforeNumbering_addsNoFile hspares.copied
      (hspares.cleared _ (List.prefix_refl _))).of_outcome hstart
    have hchanges := (beforeNumbering_changes dir site).of_outcome hstart
    exact (Script.load_ok_iff fun _ => hspares.readFile_ok_iff hchanges hadds hlocate).1 hread
  · obtain ⟨_, hresolved⟩ := saveScripts_resolved hsave
    have hfound := Script.Found.of_resolve (hresolved _ (List.mem_of_getElem? hscript))
    have hcovers : site.held.Covers ready.held := fun kind other hother => by
      rwa [← isSome_record?_of_prepare hprepare]
    exact ((Script.Found.withPath_iff _).1 hfound).mono hcovers

/-! ## Failures -/

/-- Failures for other reasons than what an actor asks for. -/
theorem permits_not_dangling : Permits AssemblyFailure.NotDangling where
  system := fun _ h => by cases h
  sprites := fun _ h => by cases h
  strings := fun _ _ h => by cases h
  actors := fun _ h => by cases h

theorem marks_not_dangling {α : Type} [Export α] (item : α) :
    Marks AssemblyFailure.NotDangling item :=
  marks_of_index (fun _ h => by cases h) item

/-- Before actors are numbered nothing is asked for. -/
theorem beforeNumbering_failsIn (dir : Path) (site : Site Exports) :
    FailsIn AssemblyFailure.NotDangling (beforeNumbering dir) site := by
  refine (beforeActors_failsIn permits_not_dangling (fun _ _ => marks_not_dangling _)
    (fun _ _ => marks_not_dangling _) dir).bind fun _ between _ => .held_bind ?_
  dsimp only
  split
  · exact (refuse_failsIn (permits_not_dangling.actors _) _).bind fun _ _ h => by cases h
  · exact (onDisk_failsIn permits_not_dangling _ _).bind fun _ _ _ => .pure _ _

theorem introduction_failsIn_of_isSome {errors : AssemblyFailure → Prop} {text : Identifier}
    (h : (site.held.strings.get? text).isSome) (id : Identifier) (field : String) :
    FailsIn errors (introduction id field text) site := by
  obtain ⟨string, hstring⟩ := Option.isSome_iff_exists.1 h
  unfold introduction
  refine .held_bind ?_
  rw [hstring]
  exact .pure _ _

/-- An actor that has all that it asks for can be numbered, but for indices. -/
theorem numberActor_failsIn_of_supplied {target : Path} {index : Nat}
    (hname : (site.held.strings.get? actor.displayName).isSome)
    (htattle : (site.held.strings.get? actor.tattle).isSome) {script : Script}
    (hscript : (Script.load site.disk actor.sourcePackage actor.scriptPath).result = .ok script) :
    FailsIn AssemblyFailure.NotDangling (numberActor target index (id, actor)) site := by
  refine numberActor_failsIn (introduction_failsIn_of_isSome hname _ _)
    (introduction_failsIn_of_isSome htattle _ _)
    (fun _ string _ => index_failsIn (fun _ h => by cases h) string.hexId site) ?_
  refine Actor.assemble_failsIn (marks_not_dangling _) _ _ _ fun error herror => ?_
  rw [hscript] at herror
  cases herror

/-- A script that resolves is saved, but for the disk. -/
theorem saveScript_failsIn {script : Script}
    (h : ∀ failure, (script.resolve site.held).failure = some failure →
      failure.toAssembly.NotDangling) :
    FailsIn AssemblyFailure.NotDangling (saveScript script) site := by
  unfold saveScript
  refine .held_bind (FailsIn.bind (.ofReport (fun failure hfailure => ?_) _) fun _ _ _ => ?_)
  · dsimp only at hfailure
    split at hfailure
    · next hstopped =>
      cases hfailure
      exact h failure hstopped
    · cases hfailure
  · exact (onDisk_failsIn permits_not_dangling _ _).bind fun _ _ _ => fun _ _ h => by cases h

theorem strings_of_numberActor {target : Path} {index : Nat} {entry : Identifier × Actor}
    {numbered : String × Script}
    (h : outcome (numberActor target index entry) site = (.ok numbered, after)) :
    after.held.strings = site.held.strings := by
  obtain ⟨_, _, _, rfl⟩ := numberActor_ok h
  rfl

theorem strings_of_numberActors {target : Path} {index : Nat} {entries : List (Identifier × Actor)}
    {rows : List String} {scripts : List Script}
    (h : outcome (numberActors target index entries) site = (.ok (rows, scripts), after)) :
    after.held.strings = site.held.strings := by
  induction entries generalizing site index rows scripts with
  | nil =>
    cases h
    rfl
  | cons entry rest ih =>
    rw [numberActors_cons] at h
    obtain ⟨_, between, hone, h⟩ := outcome_bind_ok.1 h
    obtain ⟨⟨_, _⟩, _, hrest, hlast⟩ := outcome_bind_ok.1 h
    cases hlast
    exact (ih hrest).trans (strings_of_numberActor hone)

/-- A failure over what an actor asks for is at one of the actors, which does not have it. -/
theorem FailsAt.of_dangling {stage : Stage} (h : FailsAt dir site stage failure after)
    (hdangling : failure.Dangling) :
    ∃ index id actor, (stage = .numbering index ∨ stage = .resolving index) ∧
      site.held.actors.entries[index]? = some (id, actor) ∧
      (site.disk.Spares dir actor.scriptPath → ¬ actor.Supplied site.held site.disk) := by
  cases h with
  | before hrun => exact absurd hdangling (beforeNumbering_failsIn dir site _ _ hrun)
  | @numbering index entries staged between _ _ _ entry _ hstart hearlier hhere hrun =>
    obtain ⟨rfl, hsame, _⟩ := beforeNumbering_ok hstart
    obtain ⟨id, actor⟩ := entry
    refine ⟨index, id, actor, .inl rfl, hhere, fun hspares hsupplied => ?_⟩
    obtain ⟨script, hscript, _⟩ := hsupplied.script
    obtain ⟨location, hlocate⟩ := Script.exists_locate_of_load hscript
    have hstrings := strings_of_numberActors hearlier
    have hdisk := numberActors_leaves.of_outcome hearlier
    have hread : (Script.load between.disk actor.sourcePackage actor.scriptPath).result =
        .ok script := by
      rw [← hdisk]
      exact (load_ok_iff_of_beforeNumbering hspares hlocate hstart).2 hscript
    refine numberActor_failsIn_of_supplied ?_ ?_ hread _ _ hrun hdangling
    · rw [hstrings, isSome_get?_of_beforeNumbering hstart]
      exact hsupplied.displayName
    · rw [hstrings, isSome_get?_of_beforeNumbering hstart]
      exact hsupplied.tattle
  | table hstart hrun => exact absurd hdangling (onDisk_failsIn permits_not_dangling _ _ _ _ hrun)
  | @resolving index scripts ready between script cause hstart hearlier hhere hrun =>
    obtain ⟨_, _, staged, hbefore, _, hdrafted⟩ := prepare_drafted hstart
    obtain ⟨⟨id, actor⟩, hentry, read, hread, rfl⟩ := exists_counted hdrafted hhere
    refine ⟨index, id, actor, .inr rfl, hentry, fun hspares hsupplied => ?_⟩
    obtain ⟨found, hload, hnames⟩ := hsupplied.script
    obtain ⟨location, hlocate⟩ := Script.exists_locate_of_load hload
    cases ((load_ok_iff_of_beforeNumbering hspares hlocate hbefore).1 hread).symm.trans hload
    obtain ⟨hheld, _⟩ := saveScripts_resolved hearlier
    have hcovers : between.held.Covers site.held := fun kind other hother => by
      rwa [hheld, isSome_record?_of_prepare hstart]
    have hfound := hnames.mono hcovers
    exact ((Script.Found.withPath_iff _).2 hfound).not_dangling hrun hdangling
  | saving hstart hearlier hhere hresolved hrun =>
    refine absurd hdangling (saveScript_failsIn (fun failure hfailure => ?_) _ _ hrun)
    rw [hresolved] at hfailure
    cases hfailure

end Assembly

namespace Package

open Assembly (FailsAt Stage supplied_of_run)

variable {settings : Settings} {disk : Disk} {package needed : Package} {id : Identifier}
  {actor : Actor}

/-- A package covers what its dependencies export. -/
theorem Loaded.covers (h : Loaded settings disk package) (hmem : needed ∈ package.dependencies) :
    package.exports.Covers needed.exports :=
  fun _ _ hheld => h.isSome_record? hmem hheld

/-- An actor lies in a directory with a sidecar file. -/
theorem Loaded.exists_sidecar (h : Loaded settings disk package)
    (hget : package.exports.actors.get? id = some actor) :
    ∃ location other, disk.directory? actor.dir = some location ∧
      (disk.tree.get? (other :: location)).isSome ∧ Path.Plain (actor.name ++ ".bscr") := by
  obtain ⟨_, dir, hload⟩ := h.exists_load_of_actor hget
  obtain ⟨hname, _, _, _, _, hread, _, _, _, rfl⟩ := Actor.load_ok.1 hload
  obtain ⟨there, hlocate, hfile⟩ := Disk.readFile_ok.1 hread
  have hsidecar : Path.Plain (_ ++ ".yaml") := Path.plain_of_fault? hname (by decide)
  obtain ⟨location, hdir, rfl⟩ := Disk.directory?_of_locate_div hsidecar hlocate
  exact ⟨location, _, hdir, by rw [hfile]; rfl, Path.plain_of_fault? hname (by decide)⟩

theorem Loaded.locate_script (h : Loaded settings disk package)
    (hget : package.exports.actors.get? id = some actor) :
    ∃ location, disk.locate actor.scriptPath = .ok location := by
  obtain ⟨location, _, hdir, _, hplain⟩ := h.exists_sidecar hget
  exact ⟨_, Disk.locate_div hdir hplain⟩

theorem Loaded.spares_of_fresh {build : Path} (h : Loaded settings disk package)
    (hget : package.exports.actors.get? id = some actor) (hfresh : disk.Fresh build) :
    disk.Spares build actor.scriptPath := by
  obtain ⟨location, _, hdir, hheld, hplain⟩ := h.exists_sidecar hget
  exact .of_fresh hfresh hdir hheld hplain

/-- Each of the packages that are needed can be built by itself, into a fresh directory. -/
def DependenciesBuild (disk : Disk) (package : Package) : Prop :=
  ∀ needed ∈ package.dependencies, ∃ build built, disk.Fresh build ∧
    needed.assemble disk build = (.ok (), built)

/-- What a package inherits comes from one of its dependencies. -/
theorem Loaded.exists_dependency (h : Loaded settings disk package)
    (hget : package.exports.actors.get? id = some actor)
    (hown : own? settings disk package .actor id = none) :
    ∃ needed ∈ package.dependencies, needed.exports.actors.get? id = some actor := by
  have hrecord : package.exports.record? .actor id = some (.actor actor) := by
    rw [Exports.record?, hget]
    rfl
  rw [h.record?_eq, hown, Option.none_or, record?_mergedExports] at hrecord
  obtain ⟨needed, hmem, hneeded⟩ := List.exists_of_findSome?_eq_some hrecord
  obtain ⟨_, hfound, heq⟩ := Option.map_eq_some_iff.1 hneeded
  cases heq
  exact ⟨needed, List.mem_reverse.1 hmem, hfound⟩

/-- So an actor that is inherited has what it asks for, as long as its script is there. -/
theorem Loaded.supplied {now : Disk} (h : Loaded settings disk package)
    (hbuilds : package.DependenciesBuild disk)
    (hget : package.exports.actors.get? id = some actor)
    (hown : own? settings disk package .actor id = none)
    (hread : ∀ content, disk.readFile actor.scriptPath = .ok content →
      now.readFile actor.scriptPath = .ok content) :
    actor.Supplied package.exports now := by
  obtain ⟨needed, hmem, hneeded⟩ := h.exists_dependency hget hown
  obtain ⟨build, built, hfresh, hbuilt⟩ := hbuilds needed hmem
  have hloaded := h.of_mem hmem
  obtain ⟨location, hlocate⟩ := hloaded.locate_script hneeded
  obtain ⟨index, hentry⟩ := Registry.exists_getElem?_of_get? hneeded
  have hrun : outcome (Assembly.run build) { disk, held := needed.exports } = (.ok (), built) :=
    hbuilt
  exact (supplied_of_run (hloaded.spares_of_fresh hneeded hfresh) hlocate
    (List.mem_of_getElem? hentry) hrun).mono (h.covers hmem) hread

/-- The scripts of the actors that the package inherits are as when it was loaded, and a build into
the directory leaves them alone. -/
def ScriptsKept (settings : Settings) (disk now : Disk) (package : Package) (dir : Path) : Prop :=
  ∀ id actor, package.exports.actors.get? id = some actor →
    own? settings disk package .actor id = none →
      (∀ content, disk.readFile actor.scriptPath = .ok content →
        now.readFile actor.scriptPath = .ok content) ∧ now.Spares dir actor.scriptPath

/-- They are when the package has just been loaded, and the directory is fresh. -/
theorem Loaded.scriptsKept_of_fresh {dir : Path} (h : Loaded settings disk package)
    (hfresh : disk.Fresh dir) : package.ScriptsKept settings disk disk dir :=
  fun _ _ hget _ => ⟨fun _ hread => hread, h.spares_of_fresh hget hfresh⟩

/-- When a build into the directory fails over what an actor asks for, it does so at an actor that
the package defined itself when it was loaded. -/
def BlamesOwn (settings : Settings) (disk now : Disk) (package : Package) (dir : Path) : Prop :=
  ∀ failure after, package.assemble now dir = (.error failure, after) → failure.Dangling →
    (∃ stage, FailsAt dir { disk := now, held := package.exports } stage failure after) ∧
      ∀ stage, FailsAt dir { disk := now, held := package.exports } stage failure after →
        ∃ index id actor, (stage = .numbering index ∨ stage = .resolving index) ∧
          package.exports.actors.entries[index]? = some (id, actor) ∧
          (own? settings disk package .actor id).isSome

/-- Packages compose. A package has something under every identifier under which one of its
dependencies has, and when all of these can be built by themselves, what the package inherits from
them does not stop its own build: not for a string, a script or a reference that is missing. -/
theorem composes {place : Path} (hload : (load settings disk place).result = .ok package) :
    (∀ needed ∈ package.dependencies, ∀ kind id, (needed.exports.record? kind id).isSome →
        (package.exports.record? kind id).isSome) ∧
      (package.DependenciesBuild disk → ∀ now dir, package.ScriptsKept settings disk now dir →
        package.BlamesOwn settings disk now dir) := by
  have hloaded := loaded_of_load hload
  refine ⟨fun needed hmem => hloaded.covers hmem, fun hbuilds now dir hkept => ?_⟩
  intro failure after hfailed hdangling
  refine ⟨Assembly.run_error hfailed, fun stage hstage => ?_⟩
  obtain ⟨index, id, actor, hat, hentry, hmissing⟩ := hstage.of_dangling hdangling
  refine ⟨index, id, actor, hat, hentry, Option.isSome_iff_ne_none.2 fun hown => ?_⟩
  have hget := Registry.get?_of_getElem? hentry
  obtain ⟨hread, hspares⟩ := hkept id actor hget hown
  exact hmissing hspares (hloaded.supplied hbuilds hget hown hread)

end Package

/-! ## Builds of a package with an actor of another one -/

namespace Sample

/-- The dependency can be built by itself. -/
def castBuild : Path :=
  ⟨.root, ["cast", ".build"]⟩

theorem dependenciesBuild_play {disk : Disk} (hfresh : disk.Fresh castBuild)
    (hbuilt : (castPackage.assemble disk castBuild).1.toOption = some ()) :
    Package.DependenciesBuild disk playPackage := by
  intro needed hmem
  cases List.mem_singleton.1 hmem
  exact ⟨castBuild, _, hfresh, eq_of_toOption hbuilt⟩

/-- All that the scripts name is there. -/
def soundTheatre : Disk :=
  theatre "\x7bActor:hero\x7d\n"

theorem load_soundTheatre : (Package.load {} soundTheatre playPath).result = .ok playPackage :=
  load_theatre (by decide +kernel)

/-- A directory in which the strings of a build go where the inherited actor is. -/
def actorsBuild : Path :=
  ⟨.root, ["cast", "src", "actor"]⟩

def soundSite : Site Exports where
  disk := soundTheatre
  held := playPackage.exports

/-- What is told of the inherited actor. -/
def lostScript : LoadError :=
  .unreadableScript puppet.scriptPath (.system .notFound)

/-- The script of the first actor cannot be read any more when it is numbered. -/
theorem failsAt_soundTheatre : ∃ after,
    Assembly.FailsAt actorsBuild soundSite (.numbering 0) (.script lostScript) after := by
  have hfirst : (outcome (Assembly.beforeNumbering actorsBuild) soundSite).1.toOption =
      some playPackage.exports.actors.entries := by decide +kernel
  have hstart : outcome (Assembly.beforeNumbering actorsBuild) soundSite =
      (.ok playPackage.exports.actors.entries,
        (outcome (Assembly.beforeNumbering actorsBuild) soundSite).2) :=
    eq_of_toOption hfirst
  have hentry : playPackage.exports.actors.entries[0]? = some (⟨"cast", "strings"⟩, puppet) := by
    decide +kernel
  have hlost : (outcome (Assembly.numberActor (Assembly.scriptDirectory (actorsBuild / "battle")) 0
      (⟨"cast", "strings"⟩, puppet))
      (outcome (Assembly.beforeNumbering actorsBuild) soundSite).2).1.map (fun _ => ()) =
        .error (.script lostScript) := by decide +kernel
  exact ⟨_, .numbering hstart rfl hentry (Prod.ext (error_of_map hlost) rfl)⟩

end Sample

namespace Package

/-- A build can clear the script of an inherited actor away, before it reads it. -/
theorem blames_inherited : ¬ ∀ (settings : Settings) (disk : Disk) (place : Path)
    (package : Package), (load settings disk place).result = .ok package →
      package.DependenciesBuild disk → ∀ dir, package.BlamesOwn settings disk disk dir := by
  intro h
  obtain ⟨after, hfails⟩ := Sample.failsAt_soundTheatre
  have hbuilds : Sample.playPackage.DependenciesBuild Sample.soundTheatre :=
    Sample.dependenciesBuild_play (by decide +kernel) (by decide +kernel)
  obtain ⟨_, hstages⟩ := h {} Sample.soundTheatre Sample.playPath Sample.playPackage
    Sample.load_soundTheatre hbuilds Sample.actorsBuild _ after hfails.run (.script _)
  obtain ⟨index, id, actor, hat, hentry, hown⟩ := hstages _ hfails
  obtain rfl : 0 = index := by
    rcases hat with hat | hat <;> cases hat
    rfl
  obtain ⟨_, hrecord⟩ := Option.isSome_iff_exists.1 hown
  have hplay : id.package = Sample.playPackage.name := package_eq_of_ownRecord? hrecord
  have hcast : (Sample.playPackage.exports.actors.entries[0]?.map fun entry => entry.1.package) =
      some "cast" := by decide +kernel
  rw [hentry] at hcast
  have hsame : "cast" = "play" := (Option.some.inj hcast).symm.trans hplay
  exact absurd hsame (by decide)

/-- The build that stops at the script of the package's own actor. -/
theorem composes_stray : ∃ failure after, ∃ (index : Nat) (id : Identifier) (actor : Actor),
    (load {} Sample.strayTheatre Sample.playPath).result = .ok Sample.playPackage ∧
      Sample.playPackage.DependenciesBuild Sample.strayTheatre ∧
      Sample.playPackage.ScriptsKept {} Sample.strayTheatre Sample.strayTheatre Sample.playBuild ∧
      Sample.playPackage.assemble Sample.strayTheatre Sample.playBuild = (.error failure, after) ∧
      failure.Dangling ∧
      Assembly.FailsAt Sample.playBuild Sample.playSite (.resolving index) failure after ∧
      Sample.playPackage.exports.actors.entries[index]? = some (id, actor) ∧
      (own? {} Sample.strayTheatre Sample.playPackage .actor id).isSome := by
  obtain ⟨after, hfails⟩ := Sample.failsAt_strayTheatre
  obtain ⟨_, hcomposed⟩ := composes Sample.load_strayTheatre
  have hbuilds : Sample.playPackage.DependenciesBuild Sample.strayTheatre :=
    Sample.dependenciesBuild_play (by decide +kernel) (by decide +kernel)
  have hkept := (loaded_of_load Sample.load_strayTheatre).scriptsKept_of_fresh
    (show Sample.strayTheatre.Fresh Sample.playBuild by decide +kernel)
  have hdangling : (AssemblyFailure.unresolved Sample.strayError).Dangling :=
    .unresolved _ _ (.unknown .actor ⟨"play", "nobody"⟩)
  obtain ⟨_, hstages⟩ := hcomposed hbuilds Sample.strayTheatre Sample.playBuild hkept _ after
    hfails.run hdangling
  obtain ⟨index, id, actor, hat, hentry, hown⟩ := hstages _ hfails
  obtain rfl : 1 = index := by
    rcases hat with hat | hat <;> cases hat
    rfl
  exact ⟨_, after, 1, id, actor, Sample.load_strayTheatre, hbuilds, hkept, hfails.run, hdangling,
    hfails, hentry, hown⟩

end Package

end ModPack
