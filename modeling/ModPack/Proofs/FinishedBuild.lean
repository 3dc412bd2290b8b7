import ModPack.Proofs.IndicesOnce
import ModPack.Proofs.LoadedExports

/-!
# What a finished build leaves

The steps of assembling put together, as `Steps` names them: every registry with the indices of its
exports, and the three places where these are written, as they are when all steps are done. Main
statements: `steps_of_prepare`, `finished_of_prepare` and `finished_of_assemble`.
-/
namespace ModPack

open Work (outcome outcome_bind_ok outcome_seq_ok outcome_onDisk_ok)

namespace Assembly

/-- A finished build of some exports in a directory: what is held and what is on the disk. -/
structure Finished (exports : Exports) (dir : Path) (built : Site Exports) : Prop where
  sprites : built.held.sprites.entries = numbered firstSprite exports.sprites.entries
  sprites_le : exports.sprites.size ≤ lastSprite
  strings : built.held.strings.entries = sectioned [] exports.strings.entries
  numbers_le : ∀ entry ∈ sectioned [] exports.strings.entries, entry.2.number ≤ lastString
  actors : built.held.actors.entries = numbered 0 exports.actors.entries
  actors_le : exports.actors.size ≤ lastActor + 1
  spriteTable : built.disk.readFile (dir / "sprite" / "SpriteTable.xml") =
    .ok (Utf8.encode (spriteTable (spriteRows firstSprite exports.sprites.entries)))
  stringFiles : ∃ listing, built.disk.list (dir / "strings") = .ok listing ∧
    listing.Perm ((sectioned [] exports.strings.entries).map fun entry => entry.2.file)
  actorTable : ∃ rows, List.Forall₂ (fun ((_, actor), index) row =>
      ActorRow built.held.strings index actor row) (exports.actors.entries.zipIdx 0) rows ∧
    built.disk.readFile (dir / "battle" / "ActorTypes.xml") =
      .ok (Utf8.encode (actorTable rows))

variable {site built : Site Exports} {dir : Path}

/-- Each script is that of an actor. -/
theorem exists_of_drafted {disk : Disk} {target : Path} {entries : List (Identifier × Actor)}
    {scripts : List Script} {script : Script}
    (h : List.Forall₂ (fun ((_, actor), index) script => Drafted disk target actor index script)
      (entries.zipIdx 0) scripts) (hmem : script ∈ scripts) :
    ∃ id actor, ∃ index : Nat, (id, actor) ∈ entries ∧
      script.path = target / (Hex.padded 2 index ++ "_" ++ actor.name ++ ".bpat") := by
  obtain ⟨place, hplace⟩ := List.mem_iff_getElem?.1 hmem
  obtain ⟨⟨⟨id, actor⟩, index⟩, hitem, _, _, rfl⟩ := getElem?_of_forall₂ h.flip hplace
  exact ⟨id, actor, index, List.fst_mem_of_mem_zipIdx (List.mem_of_getElem? hitem), rfl⟩

/-- Names of the scripts of well-named actors lead nowhere but to the directory of scripts. -/
theorem plain_script {id : Identifier} {actor : Actor} (h : WellNamed id actor) (index : Nat) :
    Path.Plain (Hex.padded 2 index ++ "_" ++ actor.name ++ ".bpat") := by
  have hname : Name.fault? actor.name = none := by
    have hcarried : actor.name = id.name := h.carried
    rw [hcarried]
    exact h.name
  have hslash : '/' ∉ ("_" ++ actor.name ++ ".bpat").toList := by
    rw [String.toList_append, String.toList_append, List.mem_append, List.mem_append]
    rintro ((hmem | hmem) | hmem)
    · exact absurd hmem (by decide)
    · exact Name.not_mem_of_fault? hname (by decide) hmem
    · exact absurd hmem (by decide)
  have hall := Path.plain_padded_append 2 index hslash
  rwa [← String.append_assoc, ← String.append_assoc] at hall

/-- What is done for actors, with scripts of theirs that are saved, stays within their directory,
and leaves the table that lists them. -/
theorem battle_ok {between after : Site Exports} {location : Location}
    {scripts saved : List Script} (hnamed : Registry.All WellNamed site.held.actors)
    (hbase : site.disk.directory? dir = some location)
    (hactors : outcome (actors (dir / "battle")) site = (.ok scripts, between))
    (hsubset : saved ⊆ scripts) (hsave : outcome (saveScripts saved) between = (.ok (), after)) :
    ActorsDone site (dir / "battle") ("battle" :: location) after := by
  have hbattleName : Path.Plain "battle" := Path.plain_of_not_mem (by decide)
  obtain ⟨hstaged, hscriptDir, _, hscripts⟩ := actors_ok hbattleName hbase hactors
  have hplainScripts : ∀ script ∈ saved, ∃ name, Path.Plain name ∧
      script.path = scriptDirectory (dir / "battle") / name := by
    intro script hmem
    obtain ⟨id, actor, index, hentry, hpath⟩ := exists_of_drafted hscripts (hsubset hmem)
    exact ⟨_, plain_script (hnamed id actor hentry) index, hpath⟩
  obtain ⟨hsame, hkeeps⟩ := saveScripts_ok hscriptDir hplainScripts hsave
  have hwithin : Location.within ("actor" :: "import" :: "formation" :: "battle" :: location)
      ("battle" :: location) = true :=
    Location.within_append ["actor", "import", "formation"] _
  -- Scripts are saved deeper than the table of actors.
  have houtside : Location.within ("ActorTypes.xml" :: "battle" :: location)
      ("actor" :: "import" :: "formation" :: "battle" :: location) = false :=
    Location.within_of_length_lt (by simp)
  obtain ⟨rows, hrows, htable⟩ := hstaged.table
  constructor
  case held => rw [hsame, hstaged.held]
  case entries_eq =>
    rw [hsame]
    exact hstaged.entries_eq
  case size_le => exact hstaged.size_le
  case keeps => exact hstaged.keeps.trans (hkeeps.mono hwithin)
  case directory => exact hkeeps.directory? hstaged.directory
  case table => exact ⟨rows, hrows, (hkeeps.get?_eq houtside).trans htable⟩

/-- The steps of a build before scripts are saved, one after the other, and what the first ones
leave. -/
structure Steps (site : Site Exports) (dir : Path) (made : Disk) (drawn lettered : Site Exports)
    (scripts : List Script) (staged : Site Exports) : Prop where
  makes : Disk.outcome (Disk.makeDirectories true dir) site.disk = (.ok (), made)
  draws : outcome (sprites (dir / "sprite")) { site with disk := made } = (.ok (), drawn)
  letters : outcome (strings (dir / "strings")) drawn = (.ok (), lettered)
  stages : outcome (actors (dir / "battle")) lettered = (.ok scripts, staged)
  rooted : drawn.disk.Rooted
  sprites : SpritesDone { site with disk := made } (dir / "sprite") drawn
  strings : StringsDone drawn (dir / "strings") lettered

theorem steps_of_prepare {scripts : List Script} {staged : Site Exports}
    (hrooted : site.disk.Rooted) (hnamed : site.held.WellNamed)
    (h : outcome (prepare dir) site = (.ok scripts, staged)) :
    ∃ made drawn lettered, Steps site dir made drawn lettered scripts staged := by
  have hstringsName : Path.Plain "strings" := Path.plain_of_not_mem (by decide)
  obtain ⟨lettered, hbefore, hactors⟩ := outcome_seq_ok.1 h
  unfold beforeActors at hbefore
  obtain ⟨_, hmake, hbefore⟩ := outcome_seq_ok.1 hbefore
  obtain ⟨made, hmade, rfl⟩ := outcome_onDisk_ok.1 hmake
  obtain ⟨drawn, hsprites, hstrings⟩ := outcome_seq_ok.1 hbefore
  have hdrawn := sprites_ok hsprites
  have hdrawnRooted := hdrawn.rooted (hrooted.makeDirectories hmade)
  have hbanks : ∀ entry ∈ drawn.held.strings.entries, entry.2.bank ≤ LoadError.maxSection := by
    rw [hdrawn.held]
    exact fun entry hmem => (hnamed.strings entry.1 entry.2 hmem).section_le
  exact ⟨made, drawn, lettered, hmade, hsprites, hstrings, hactors, hdrawnRooted, hdrawn,
    strings_ok hstringsName hdrawnRooted hbanks hstrings⟩

theorem steps_of_run (hrooted : site.disk.Rooted) (hnamed : site.held.WellNamed)
    (h : outcome (run dir) site = (.ok (), built)) :
    ∃ made drawn lettered scripts staged, Steps site dir made drawn lettered scripts staged ∧
      outcome (saveScripts scripts) staged = (.ok (), built) := by
  rw [run_eq] at h
  obtain ⟨scripts, staged, hprepare, hsave⟩ := outcome_bind_ok.1 h
  obtain ⟨made, drawn, lettered, hsteps⟩ := steps_of_prepare hrooted hnamed hprepare
  exact ⟨made, drawn, lettered, scripts, staged, hsteps, hsave⟩

namespace Steps

variable {made : Disk} {drawn lettered staged : Site Exports} {scripts saved : List Script}

theorem onDisk_makes (h : Steps site dir made drawn lettered scripts staged) :
    outcome (onDisk (Disk.makeDirectories true dir)) site = (.ok (), { site with disk := made }) :=
  outcome_onDisk_ok.2 ⟨made, h.makes, rfl⟩

/-- Strings are those that the build starts with when they come. -/
theorem strings_eq (h : Steps site dir made drawn lettered scripts staged) :
    drawn.held.strings = site.held.strings := by
  rw [h.sprites.held]

/-- So are actors. -/
theorem actors_eq (h : Steps site dir made drawn lettered scripts staged) :
    lettered.held.actors = site.held.actors := by
  rw [h.strings.held, h.sprites.held]

theorem spot_made (h : Steps site dir made drawn lettered scripts staged) (path : Path) :
    made.spot path = site.disk.spot path :=
  (Disk.grows_of_makeDirectories h.makes).keeps.spot_eq path

theorem spot_drawn (h : Steps site dir made drawn lettered scripts staged) (path : Path) :
    drawn.disk.spot path = site.disk.spot path :=
  (h.sprites.keeps.spot_eq path).trans (h.spot_made path)

theorem spot_sprite (h : Steps site dir made drawn lettered scripts staged) :
    made.spot (dir / "sprite") = "sprite" :: site.disk.spot dir := by
  rw [h.spot_made, Disk.spot_div (Path.plain_of_not_mem (by decide))]

theorem spot_strings (h : Steps site dir made drawn lettered scripts staged) :
    drawn.disk.spot (dir / "strings") = "strings" :: site.disk.spot dir := by
  rw [h.spot_drawn, Disk.spot_div (Path.plain_of_not_mem (by decide))]

theorem directory_drawn (h : Steps site dir made drawn lettered scripts staged) :
    drawn.disk.directory? dir = some (site.disk.spot dir) := by
  have hdir := h.sprites.keeps.directory? (Disk.directory?_of_makeDirectories h.makes)
  rwa [h.spot_made] at hdir

theorem spriteDirectory (h : Steps site dir made drawn lettered scripts staged) :
    drawn.disk.directory? (dir / "sprite") = some ("sprite" :: site.disk.spot dir) :=
  h.sprites.directory.trans (congrArg some h.spot_sprite)

theorem stringDirectory (h : Steps site dir made drawn lettered scripts staged) :
    lettered.disk.directory? (dir / "strings") = some ("strings" :: site.disk.spot dir) :=
  h.strings.directory.trans (congrArg some h.spot_strings)

theorem directory_lettered (h : Steps site dir made drawn lettered scripts staged) :
    lettered.disk.directory? dir = some (site.disk.spot dir) :=
  Disk.directory?_of_div (Path.plain_of_not_mem (by decide)) h.stringDirectory

theorem spriteTable (h : Steps site dir made drawn lettered scripts staged) :
    drawn.disk.tree.get? ("SpriteTable.xml" :: "sprite" :: site.disk.spot dir) = some (.file
      (Utf8.encode (Assembly.spriteTable (spriteRows firstSprite site.held.sprites.entries)))) := by
  rw [← h.spot_sprite]
  exact h.sprites.table

/-- What the directory of strings does not hold is there after it is filled. -/
theorem found (h : Steps site dir made drawn lettered scripts staged) {location : Location}
    {entry : Entry} (hout : location.within ("strings" :: site.disk.spot dir) = false)
    (hentry : drawn.disk.tree.get? location = some entry) :
    lettered.disk.tree.get? location = some entry := by
  rw [← h.spot_strings] at hout
  exact h.strings.found location entry hout hentry

/-- What is done for actors when some of their scripts are saved. -/
theorem actorsDone (h : Steps site dir made drawn lettered scripts staged)
    (hnamed : site.held.WellNamed) (hsubset : saved ⊆ scripts)
    (hsave : outcome (saveScripts saved) staged = (.ok (), built)) :
    ActorsDone lettered (dir / "battle") ("battle" :: site.disk.spot dir) built := by
  refine battle_ok ?_ h.directory_lettered h.stages hsubset hsave
  rw [h.actors_eq]
  exact hnamed.actors

end Steps

/-- A build is finished but for scripts when these come, whichever of them are saved: what later
steps do leaves alone what earlier ones wrote. -/
theorem finished_of_prepare {scripts saved : List Script} {staged : Site Exports}
    (hrooted : site.disk.Rooted) (hnamed : site.held.WellNamed)
    (hprepare : outcome (prepare dir) site = (.ok scripts, staged)) (hsubset : saved ⊆ scripts)
    (hsave : outcome (saveScripts saved) staged = (.ok (), built)) :
    Finished site.held dir built := by
  obtain ⟨made, drawn, lettered, hsteps⟩ := steps_of_prepare hrooted hnamed hprepare
  have hdrawn := hsteps.sprites
  have hlettered := hsteps.strings
  have hbuilt := hsteps.actorsDone hnamed hsubset hsave
  have hstringEntries := hlettered.entries_eq
  have hnumbers := hlettered.numbers_le
  have hfiles := hlettered.files
  rw [hsteps.strings_eq] at hstringEntries hnumbers hfiles
  rw [hsteps.spot_strings] at hfiles
  have hactorEntries := hbuilt.entries_eq
  have hactorCount := hbuilt.size_le
  obtain ⟨rows, hrows, hactorTable⟩ := hbuilt.table
  rw [hsteps.actors_eq] at hactorEntries hactorCount hrows
  have hheldStrings : built.held.strings = lettered.held.strings := by
    rw [hbuilt.held]
  constructor
  case sprites =>
    rw [hbuilt.held, hlettered.held]
    exact hdrawn.entries_eq
  case sprites_le => exact hdrawn.size_le
  case strings =>
    rw [hheldStrings]
    exact hstringEntries
  case numbers_le => exact hnumbers
  case actors => exact hactorEntries
  case actors_le => exact hactorCount
  case spriteTable =>
    -- The table of sprites is outside of what strings and actors change.
    have hspriteName : Path.Plain "sprite" := Path.plain_of_not_mem (by decide)
    have hdirectory := FileTree.isDirectory_iff.1
      (Disk.directory?_eq_some.1 hsteps.spriteDirectory).2
    have hdir := Disk.directory?_div hsteps.directory_lettered hspriteName
      (FileTree.isDirectory_iff.2 (hsteps.found (Location.within_beside (by decide)) hdirectory))
    exact hbuilt.keeps.readFile_div hdir (Path.plain_of_not_mem (by decide))
      (Location.within_sibling (by decide))
      (hsteps.found (Location.within_sibling (by decide)) hsteps.spriteTable)
  case stringFiles =>
    have hlist := hbuilt.keeps.list_eq hsteps.stringDirectory
      fun _ => Location.within_sibling (by decide)
    exact ⟨_, hlist, hfiles⟩
  case actorTable =>
    refine ⟨rows, ?_, Disk.readFile_div hbuilt.directory (Path.plain_of_not_mem (by decide))
      hactorTable⟩
    rw [hheldStrings]
    exact hrows

/-- A build that succeeds is finished. -/
theorem run_ok (hrooted : site.disk.Rooted) (hnamed : site.held.WellNamed)
    (h : outcome (run dir) site = (.ok (), built)) : Finished site.held dir built := by
  rw [run_eq] at h
  obtain ⟨scripts, staged, hprepare, hsave⟩ := outcome_bind_ok.1 h
  exact finished_of_prepare hrooted hnamed hprepare (List.Subset.refl _) hsave

end Assembly

/-- Assembling a loaded package finishes the build of its exports, which are well-named. -/
theorem Package.finished_of_assemble {settings : Settings} {source disk : Disk} {place dir : Path}
    {package : Package} {built : Site Exports}
    (hload : (Package.load settings source place).result = .ok package) (hrooted : disk.Rooted)
    (h : package.assemble disk dir = (.ok (), built)) :
    Assembly.Finished package.exports dir built ∧ package.exports.WellNamed := by
  have hnamed := (Package.loaded_of_load hload).wellNamed
  have hrun : outcome (Assembly.run dir) { disk, held := package.exports } = (.ok (), built) := h
  exact ⟨Assembly.run_ok hrooted hnamed hrun, hnamed⟩

end ModPack
