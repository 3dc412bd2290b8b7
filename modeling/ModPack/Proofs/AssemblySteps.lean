import ModPack.Proofs.NumberingLoops

/-!
# The steps of assembling

What each step of assembling a package leaves when it succeeds: the registry that it numbers, the
files that it writes, and what it leaves alone for the steps before it. `SpritesDone`, `StringsDone`
and `ActorsDone` say this of a step as a whole. Main statements: `sprites_ok`, `strings_ok`,
`actors_ok` and `saveScripts_ok`.
-/
namespace ModPack.Assembly

open Work (outcome outcome_bind_ok outcome_seq_ok outcome_onDisk_ok outcome_ofExcept_ok
  outcome_ofReport_ok)

variable {site after : Site Exports} {base dir : Path} {name : String}

/-- Sections in range and indices that the loop accepts fit in four digits. -/
theorem fits_of_mem_sectioned {entries : List (Identifier × NamedString)}
    {used : List (Nat × Nat)}
    (hbanks : ∀ entry ∈ entries, entry.2.bank ≤ LoadError.maxSection)
    (hnumbers : ∀ entry ∈ sectioned used entries, entry.2.number ≤ lastString) :
    ∀ entry ∈ sectioned used entries, entry.2.bank < 16 ^ 4 ∧ entry.2.number < 16 ^ 4 := by
  rintro ⟨id, string⟩ hmem
  obtain ⟨before, hbefore, heq, _⟩ := of_mem_sectioned hmem
  have hbank : string.bank = before.bank := by rw [heq]
  have hle : before.bank ≤ 0xFE := hbanks _ hbefore
  have hnumber : string.number ≤ 0xFFFF := hnumbers _ hmem
  constructor
  · change string.bank < 16 ^ 4
    omega
  · change string.number < 16 ^ 4
    omega

/-- Different strings go into different files. -/
theorem nodup_files_sectioned {entries : List (Identifier × NamedString)}
    {used : List (Nat × Nat)}
    (hfit : ∀ entry ∈ sectioned used entries,
      entry.2.bank < 16 ^ 4 ∧ entry.2.number < 16 ^ 4) :
    ((sectioned used entries).map fun entry => entry.2.file.1).Nodup := by
  have hids := nodup_ids_sectioned hfit
  have hmap : (sectioned used entries).map (fun entry => entry.2.file.1) =
      ((sectioned used entries).map fun entry =>
        NamedString.idText entry.2.bank entry.2.number).map (· ++ ".str") := by
    rw [List.map_map]
    rfl
  rw [hmap]
  refine hids.map ?_
  intro first second heq
  have hlists := congrArg String.toList heq
  rw [String.toList_append, String.toList_append] at hlists
  exact String.toList_inj.1 (List.append_cancel_right hlists)

/-- Assembling sprites makes their directory, numbers them there and writes their table. -/
theorem sprites_steps (h : outcome (sprites dir) site = (.ok (), after)) :
    site.held.sprites.size ≤ lastSprite ∧ ∃ made rows marked written,
      Disk.outcome (Disk.makeDirectories true dir) site.disk = (.ok (), made) ∧
      outcome (numberSprites (dir / "npc" / "src") firstSprite site.held.sprites.entries)
        { site with disk := made } = (.ok rows, marked) ∧
      SpritesNumbered [] firstSprite site.held.sprites.entries rows { site with disk := made }
        marked ∧
      Disk.outcome (Disk.writeText (dir / "SpriteTable.xml") (spriteTable rows)) marked.disk =
        (.ok (), written) ∧
      after = { marked with disk := written } := by
  unfold sprites at h
  rw [Work.outcome_held_bind] at h
  dsimp only at h
  split at h
  · obtain ⟨_, hrefused, _⟩ := outcome_seq_ok.1 h
    cases hrefused
  next hcount =>
  obtain ⟨between, hmake, h⟩ := outcome_seq_ok.1 h
  obtain ⟨made, hmade, rfl⟩ := outcome_onDisk_ok.1 hmake
  obtain ⟨rows, marked, hrows, h⟩ := outcome_bind_ok.1 h
  obtain ⟨written, hwritten, rfl⟩ := outcome_onDisk_ok.1 h
  have hnone : ({ site with disk := made } : Site Exports).held.sprites.entries =
      [] ++ site.held.sprites.entries := rfl
  refine ⟨?_, made, rows, marked, written, hmade, hrows, numberSprites_ok hnone hrows, hwritten,
    rfl⟩
  change site.held.sprites.size ≤ 0xFF
  have hle := Nat.le_of_not_lt hcount
  change site.held.sprites.size ≤ 0xFF - 1 + 1 at hle
  omega

/-- What assembling the sprites leaves. -/
structure SpritesDone (site : Site Exports) (dir : Path) (after : Site Exports) : Prop where
  held : after.held = { site.held with sprites := after.held.sprites }
  entries_eq : after.held.sprites.entries = numbered firstSprite site.held.sprites.entries
  size_le : site.held.sprites.size ≤ lastSprite
  keeps : Disk.Keeps site.disk after.disk
  rooted : site.disk.Rooted → after.disk.Rooted
  directory : after.disk.directory? dir = some (site.disk.spot dir)
  table : after.disk.tree.get? ("SpriteTable.xml" :: site.disk.spot dir) = some (.file
    (Utf8.encode (spriteTable (spriteRows firstSprite site.held.sprites.entries))))

theorem sprites_ok (h : outcome (sprites dir) site = (.ok (), after)) :
    SpritesDone site dir after := by
  obtain ⟨hcount, made, rows, marked, written, hmade, _, hnumbered, hwritten, rfl⟩ :=
    sprites_steps h
  obtain rfl := hnumbered.rows_eq
  have hgrows := Disk.grows_of_makeDirectories hmade
  have hdir := hnumbered.keeps.directory? (Disk.directory?_of_makeDirectories hmade)
  have hplain : Path.Plain "SpriteTable.xml" := Path.plain_of_not_mem (by decide)
  have hspot : made.spot dir = site.disk.spot dir := hgrows.keeps.spot_eq dir
  rw [hspot] at hdir
  obtain ⟨hput, hputRooted, htable⟩ := Disk.writeText_div_frame hdir hplain hwritten
  constructor
  case held => exact hnumbered.held
  case entries_eq => exact hnumbered.entries_eq
  case size_le => exact hcount
  case keeps => exact (hgrows.keeps.trans hnumbered.keeps).trans hput.toKeeps
  case rooted =>
    exact fun hrooted => hputRooted (hnumbered.rooted (hrooted.makeDirectories hmade))
  case directory => exact hput.directory? hdir
  case table => exact htable

/-- Assembling strings clears their directory, makes it and numbers them there. -/
theorem strings_steps (h : outcome (strings dir) site = (.ok (), after)) :
    ∃ cleared made, (cleared = site.disk ∨ cleared = site.disk.without (site.disk.spot dir)) ∧
      Disk.outcome (Disk.makeDirectories false dir) cleared = (.ok (), made) ∧
      outcome (numberStrings dir [] site.held.strings.entries) { site with disk := made } =
        (.ok (), after) := by
  unfold strings at h
  rw [Work.outcome_disk_bind] at h
  dsimp only at h
  split at h
  · obtain ⟨between, hremove, h⟩ := outcome_seq_ok.1 h
    obtain ⟨removed, hremoved, rfl⟩ := outcome_onDisk_ok.1 hremove
    obtain ⟨location, hlocation, rfl⟩ := Disk.outcome_removeTree_ok.1 hremoved
    obtain ⟨between, hmake, h⟩ := outcome_seq_ok.1 h
    obtain ⟨made, hmade, rfl⟩ := outcome_onDisk_ok.1 hmake
    rw [Work.outcome_held_bind] at h
    rw [Disk.eq_spot_of_directory? hlocation] at hmade
    exact ⟨_, made, .inr rfl, hmade, h⟩
  · obtain ⟨between, hmake, h⟩ := outcome_seq_ok.1 h
    obtain ⟨made, hmade, rfl⟩ := outcome_onDisk_ok.1 hmake
    rw [Work.outcome_held_bind] at h
    exact ⟨_, made, .inl rfl, hmade, h⟩

/-- All strings are numbered in a directory that is there. -/
theorem stringsNumbered {made : Disk} {location : Location}
    (hdir : made.directory? dir = some location)
    (h : outcome (numberStrings dir [] site.held.strings.entries) { site with disk := made } =
      (.ok (), after)) :
    StringsNumbered [] [] site.held.strings.entries location { site with disk := made } after := by
  have hnone : ({ site with disk := made } : Site Exports).held.strings.entries =
      [] ++ site.held.strings.entries := rfl
  exact numberStrings_ok hnone hdir h

/-- What assembling the strings leaves: they go into a directory that holds nothing else, and nothing
outside of it is lost. -/
structure StringsDone (site : Site Exports) (dir : Path) (after : Site Exports) : Prop where
  held : after.held = { site.held with strings := after.held.strings }
  entries_eq : after.held.strings.entries = sectioned [] site.held.strings.entries
  numbers_le : ∀ entry ∈ sectioned [] site.held.strings.entries, entry.2.number ≤ lastString
  workingDirectory : after.disk.workingDirectory = site.disk.workingDirectory
  directory : after.disk.directory? dir = some (site.disk.spot dir)
  files : (after.disk.tree.children (site.disk.spot dir)).Perm
    ((sectioned [] site.held.strings.entries).map fun entry => entry.2.file)
  found : ∀ location entry, location.within (site.disk.spot dir) = false →
    site.disk.tree.get? location = some entry → after.disk.tree.get? location = some entry

theorem strings_ok (hname : Path.Plain name) (hrooted : site.disk.Rooted)
    (hbanks : ∀ entry ∈ site.held.strings.entries, entry.2.bank ≤ LoadError.maxSection)
    (h : outcome (strings (base / name)) site = (.ok (), after)) :
    StringsDone site (base / name) after := by
  obtain ⟨cleared, made, hcleared, hmade, hnumber⟩ := strings_steps h
  obtain ⟨hworking, hempty, hfound⟩ := Disk.makeDirectories_anew hname hrooted hcleared hmade
  have hdir := Disk.directory?_of_makeDirectories hmade
  have hspot : made.spot (base / name) = site.disk.spot (base / name) := by
    rw [Disk.spot, Disk.spot, Disk.start, Disk.start, hworking]
  rw [hspot] at hdir hempty
  have hnumbered := stringsNumbered hdir hnumber
  constructor
  case held => exact hnumbered.held
  case entries_eq => exact hnumbered.entries_eq
  case numbers_le => exact hnumbered.numbers_le
  case workingDirectory => exact hnumbered.keeps.workingDirectory.trans hworking
  case directory => exact hnumbered.keeps.directory? hdir
  case files =>
    have hnodup := nodup_files_sectioned (fits_of_mem_sectioned hbanks hnumbered.numbers_le)
    have hperm := hnumbered.files hnodup
      fun entry _ => FileTree.get?_eq_none_of_children_eq_nil hempty _
    change (after.disk.tree.children _).Perm (_ ++ made.tree.children _) at hperm
    rwa [hempty, List.append_nil] at hperm
  case found =>
    intro location entry hout hentry
    rw [hnumbered.keeps.get?_eq hout]
    exact hfound location entry hout hentry

/-- Where the scripts of actors go. -/
def scriptDirectory (dir : Path) : Path :=
  dir / "formation" / "import" / "actor"

theorem scriptDirectory_div (hname : Path.Plain name) (base : Path) :
    scriptDirectory (base / name) =
      { base with parts := base.parts ++ [name, "formation", "import", "actor"] } := by
  have hactor : Path.Plain "actor" := Path.plain_of_not_mem (by decide)
  have himport : Path.Plain "import" := Path.plain_of_not_mem (by decide)
  have hformation : Path.Plain "formation" := Path.plain_of_not_mem (by decide)
  rw [scriptDirectory, Path.div_of_plain _ hactor, Path.div_of_plain _ himport,
    Path.div_of_plain _ hformation, Path.div_of_plain _ hname]
  simp

/-- The directory of scripts is made within the directory of actors, and both are there then. -/
theorem makeDirectories_scriptDirectory {disk made : Disk} {location : Location}
    (hname : Path.Plain name) (hbase : disk.directory? base = some location)
    (hmade : Disk.outcome (Disk.makeDirectories true (scriptDirectory (base / name))) disk =
      (.ok (), made)) :
    Disk.KeepsOutside (name :: location) disk made ∧
      made.directory? (base / name) = some (name :: location) ∧
      made.directory? (scriptDirectory (base / name)) =
        some ("actor" :: "import" :: "formation" :: name :: location) := by
  rw [scriptDirectory_div hname] at hmade ⊢
  have hrest : ".." ∉ ["formation", "import", "actor"] := by decide
  have hkeeps := Disk.makeDirectories_keepsOutside_below hbase hname.ne_parent hrest
  rw [hmade] at hkeeps
  have hbase' := hkeeps.directory? hbase
  have hlocation : location = base.parts.foldl Disk.stepTo (made.start base) :=
    Disk.eq_spot_of_directory? hbase'
  have hscript := Disk.directory?_of_makeDirectories hmade
  have hdirectory : made.tree.isDirectory (name :: location) = true := by
    have hfront : base.parts ++ [name] <+: base.parts ++ [name, "formation", "import", "actor"] :=
      (List.prefix_append_right_inj _).2 (by simp)
    have hon := Disk.isDirectory_of_front hscript hfront
    rw [List.foldl_append] at hon
    change made.tree.isDirectory
      (Disk.stepTo (base.parts.foldl Disk.stepTo (made.start base)) name) = true at hon
    rwa [← hlocation, Disk.stepTo, if_neg hname.ne_parent] at hon
  have hspot : made.spot { base with
      parts := base.parts ++ [name, "formation", "import", "actor"] } =
      "actor" :: "import" :: "formation" :: name :: location := by
    rw [Disk.spot, List.foldl_append]
    change ([name, "formation", "import", "actor"].foldl Disk.stepTo
      (base.parts.foldl Disk.stepTo (made.start base))) = _
    rw [← hlocation]
    simp [Disk.stepTo, hname.ne_parent]
  rw [hspot] at hscript
  exact ⟨hkeeps, Disk.directory?_div hbase' hname hdirectory, hscript⟩

/-- Assembling actors makes the directory of their scripts, numbers them and writes their table. -/
theorem actors_steps {scripts : List Script}
    (h : outcome (actors dir) site = (.ok scripts, after)) :
    site.held.actors.size ≤ lastActor + 1 ∧ ∃ made rows marked written,
      Disk.outcome (Disk.makeDirectories true (scriptDirectory dir)) site.disk = (.ok (), made) ∧
      ActorsNumbered (scriptDirectory dir) [] 0 site.held.actors.entries rows scripts
        { site with disk := made } marked ∧
      Disk.outcome (Disk.writeText (dir / "ActorTypes.xml") (actorTable rows)) marked.disk =
        (.ok (), written) ∧
      after = { marked with disk := written } := by
  unfold actors at h
  rw [Work.outcome_held_bind] at h
  dsimp only at h
  split at h
  · obtain ⟨_, hrefused, _⟩ := outcome_seq_ok.1 h
    cases hrefused
  next hcount =>
  obtain ⟨between, hmake, h⟩ := outcome_seq_ok.1 h
  obtain ⟨made, hmade, rfl⟩ := outcome_onDisk_ok.1 hmake
  obtain ⟨⟨rows, others⟩, marked, hrows, h⟩ := outcome_bind_ok.1 h
  obtain ⟨last, hwrite, h⟩ := outcome_seq_ok.1 h
  cases h
  obtain ⟨written, hwritten, rfl⟩ := outcome_onDisk_ok.1 hwrite
  have hnone : ({ site with disk := made } : Site Exports).held.actors.entries =
      [] ++ site.held.actors.entries := rfl
  exact ⟨Nat.le_of_not_lt hcount, made, rows, marked, written, hmade, numberActors_ok hnone hrows,
    hwritten, rfl⟩

/-- What is done for actors in a directory at a location: it stays within this directory. -/
structure ActorsDone (site : Site Exports) (dir : Path) (location : Location)
    (after : Site Exports) : Prop where
  held : after.held = { site.held with actors := after.held.actors }
  entries_eq : after.held.actors.entries = numbered 0 site.held.actors.entries
  size_le : site.held.actors.size ≤ lastActor + 1
  keeps : Disk.KeepsOutside location site.disk after.disk
  directory : after.disk.directory? dir = some location
  table : ∃ rows, List.Forall₂ (fun ((_, actor), index) row =>
      ActorRow site.held.strings index actor row) (site.held.actors.entries.zipIdx 0) rows ∧
    after.disk.tree.get? ("ActorTypes.xml" :: location) = some (.file
      (Utf8.encode (actorTable rows)))

/-- Besides, assembling actors makes the directory of their scripts, and drafts these. -/
theorem actors_ok {location : Location} {scripts : List Script}
    (hname : Path.Plain name) (hbase : site.disk.directory? base = some location)
    (h : outcome (actors (base / name)) site = (.ok scripts, after)) :
    ActorsDone site (base / name) (name :: location) after ∧
      after.disk.directory? (scriptDirectory (base / name)) =
        some ("actor" :: "import" :: "formation" :: name :: location) ∧
      ∃ disk, List.Forall₂ (fun ((_, actor), index) script =>
        Drafted disk (scriptDirectory (base / name)) actor index script)
          (site.held.actors.entries.zipIdx 0) scripts := by
  obtain ⟨hcount, made, rows, marked, written, hmade, hnumbered, hwritten, rfl⟩ := actors_steps h
  obtain ⟨hkeeps, hdir, hscript⟩ := makeDirectories_scriptDirectory hname hbase hmade
  have hdisk : marked.disk = made := hnumbered.disk_eq
  rw [hdisk] at hwritten
  have hplain : Path.Plain "ActorTypes.xml" := Path.plain_of_not_mem (by decide)
  obtain ⟨hput, _, hfile⟩ := Disk.writeText_div_frame hdir hplain hwritten
  exact ⟨⟨hnumbered.held, hnumbered.entries_eq, hcount, hkeeps.trans hput, hput.directory? hdir,
    rows, hnumbered.rows, hfile⟩, hput.directory? hscript, made, hnumbered.drafted⟩

/-- Resolves one script and saves it. -/
def saveScript (script : Script) : Build Unit := do
  let resolution := script.resolve (← Work.held)
  Work.ofReport ⟨resolution.events, match resolution.failure with
    | some failure => .error failure
    | none => .ok ()⟩ ResolveFailure.toAssembly
  onDisk resolution.script.save
  Work.note (.wroteScript script.path)

theorem saveScripts_cons (script : Script) (rest : List Script) :
    saveScripts (script :: rest) = (do saveScript script; saveScripts rest) := by
  conv_rhs => simp only [saveScript, bind_assoc]
  rfl

/-- A script that is saved is resolved, and what is held stays. -/
theorem saveScript_steps {script : Script}
    (h : outcome (saveScript script) site = (.ok (), after)) :
    (script.resolve site.held).failure = none ∧ after.held = site.held ∧
      Disk.outcome (script.resolve site.held).script.save site.disk = (.ok (), after.disk) := by
  unfold saveScript at h
  rw [Work.outcome_held_bind] at h
  dsimp only at h
  obtain ⟨between, hresolve, h⟩ := outcome_seq_ok.1 h
  obtain ⟨hresolved, rfl⟩ := outcome_ofReport_ok.1 hresolve
  obtain ⟨between, hsave, h⟩ := outcome_seq_ok.1 h
  obtain ⟨saved, hsaved, rfl⟩ := outcome_onDisk_ok.1 hsave
  cases h
  refine ⟨?_, rfl, hsaved⟩
  cases hfailure : (script.resolve site.held).failure with
  | none => rfl
  | some failure =>
    rw [hfailure] at hresolved
    cases hresolved

/-- So are all scripts that are saved, one after the other. -/
theorem saveScripts_resolved {scripts : List Script}
    (h : outcome (saveScripts scripts) site = (.ok (), after)) :
    after.held = site.held ∧ ∀ script ∈ scripts, (script.resolve site.held).failure = none := by
  induction scripts generalizing site with
  | nil =>
    cases h
    exact ⟨rfl, by simp⟩
  | cons script rest ih =>
    rw [saveScripts_cons] at h
    obtain ⟨between, hone, h⟩ := outcome_seq_ok.1 h
    obtain ⟨hresolved, hheld, _⟩ := saveScript_steps hone
    obtain ⟨hheld', hrest⟩ := ih h
    rw [hheld] at hheld' hrest
    exact ⟨hheld', List.forall_mem_cons.2 ⟨hresolved, hrest⟩⟩

/-- A script that is saved becomes an entry of the directory that it goes to. -/
theorem saveScript_ok {target : Path} {location : Location} {script : Script}
    (hdir : site.disk.directory? target = some location) (hname : Path.Plain name)
    (hpath : script.path = target / name)
    (h : outcome (saveScript script) site = (.ok (), after)) :
    (script.resolve site.held).failure = none ∧ after.held = site.held ∧
      site.disk.tree.isDirectory (name :: location) = false ∧
      after.disk = site.disk.withEntry (name :: location)
        (.file (Utf8.encode (script.resolve site.held).script.dumps)) := by
  obtain ⟨hresolved, hheld, hsaved⟩ := saveScript_steps h
  have hkept : (script.resolve site.held).script.path = script.path := rfl
  unfold Script.save at hsaved
  obtain ⟨_, made, hmade, hwritten⟩ := Disk.outcome_bind_ok.1 hsaved
  change Disk.outcome (Disk.makeDirectories true (script.resolve site.held).script.path.parent)
    site.disk = _ at hmade
  rw [hkept, hpath, Path.parent_div target hname,
    Disk.makeDirectories_of_directory? hdir] at hmade
  cases hmade
  rw [hkept, hpath] at hwritten
  obtain ⟨hfile, hafter⟩ := Disk.writeText_div_ok hdir hname hwritten
  exact ⟨hresolved, hheld, hfile, hafter⟩

/-- Saving scripts changes nothing but files in the directory that they go to. -/
theorem saveScripts_ok {target : Path} {location : Location} {scripts : List Script}
    (hdir : site.disk.directory? target = some location)
    (hscripts : ∀ script ∈ scripts, ∃ name, Path.Plain name ∧ script.path = target / name)
    (h : outcome (saveScripts scripts) site = (.ok (), after)) :
    after.held = site.held ∧ Disk.KeepsOutside location site.disk after.disk := by
  induction scripts generalizing site with
  | nil =>
    cases h
    exact ⟨rfl, Disk.KeepsOutside.refl _ _⟩
  | cons script rest ih =>
    obtain ⟨⟨name, hname, hpath⟩, hrest⟩ := List.forall_mem_cons.1 hscripts
    rw [saveScripts_cons] at h
    obtain ⟨between, hone, h⟩ := outcome_seq_ok.1 h
    obtain ⟨_, hheld, hfile, hdisk⟩ := saveScript_ok hdir hname hpath hone
    have hkeeps : Disk.KeepsOutside location site.disk between.disk := by
      rw [hdisk]
      exact .withChild hfile
    obtain ⟨hheld', hkeeps'⟩ := ih (hkeeps.directory? hdir) hrest h
    exact ⟨hheld'.trans hheld, hkeeps.trans hkeeps'⟩

end ModPack.Assembly
