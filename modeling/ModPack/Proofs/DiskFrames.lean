import ModPack.Proofs.DiskSteps
import ModPack.Proofs.TextPieces

/-!
# What stays of a disk when work changes it

`Keeps` says that directories stay, `Grows` that whatever is there stays, and `KeepsOutside` that
nothing changes outside of a region. Each composes along a run. A disk is rooted when its tree is and
when the work takes place in one of its directories. Main statements: `Keeps.directory?`,
`isDirectory_of_walk_out` and `writeText_div_frame`.
-/
namespace ModPack.Disk

variable {disk before between after : Disk} {location region here : Location} {dir path : Path}
  {entry : Entry} {name : String} {parts : List String}

/-- The same working directory, and every directory is still one. -/
structure Keeps (before after : Disk) : Prop where
  workingDirectory : after.workingDirectory = before.workingDirectory
  directories : ∀ location, before.tree.isDirectory location = true →
    after.tree.isDirectory location = true

/-- Everything that is there stays as it is. -/
structure Grows (before after : Disk) : Prop where
  workingDirectory : after.workingDirectory = before.workingDirectory
  found : ∀ location entry, before.tree.get? location = some entry →
    after.tree.get? location = some entry

/-- Nothing changes outside of a region, and directories stay everywhere. -/
structure KeepsOutside (region : Location) (before after : Disk) : Prop extends
    Keeps before after where
  outside : after.tree.outside region = before.tree.outside region

/-- Every entry lies in a directory, and so does the work. -/
structure Rooted (disk : Disk) : Prop where
  tree : disk.tree.Rooted
  workingDirectory : disk.tree.isDirectory disk.workingDirectory = true

/-! ## Composition -/

theorem Keeps.refl (disk : Disk) : Keeps disk disk :=
  ⟨rfl, fun _ h => h⟩

theorem Keeps.trans (h : Keeps before between) (h' : Keeps between after) : Keeps before after :=
  ⟨h'.workingDirectory.trans h.workingDirectory,
    fun location hdirectory => h'.directories location (h.directories location hdirectory)⟩

theorem Grows.refl (disk : Disk) : Grows disk disk :=
  ⟨rfl, fun _ _ h => h⟩

theorem Grows.trans (h : Grows before between) (h' : Grows between after) : Grows before after :=
  ⟨h'.workingDirectory.trans h.workingDirectory,
    fun location entry hfound => h'.found location entry (h.found location entry hfound)⟩

theorem Grows.keeps (h : Grows before after) : Keeps before after :=
  ⟨h.workingDirectory, fun location hdirectory =>
    FileTree.isDirectory_iff.2 (h.found location _ (FileTree.isDirectory_iff.1 hdirectory))⟩

theorem KeepsOutside.refl (region : Location) (disk : Disk) : KeepsOutside region disk disk :=
  ⟨Keeps.refl disk, rfl⟩

theorem KeepsOutside.trans (h : KeepsOutside region before between)
    (h' : KeepsOutside region between after) : KeepsOutside region before after :=
  ⟨h.toKeeps.trans h'.toKeeps, h'.outside.trans h.outside⟩

/-- A smaller region leaves more alone. -/
theorem KeepsOutside.mono {inner : Location} (h : KeepsOutside inner before after)
    (hinner : inner.within region = true) : KeepsOutside region before after :=
  ⟨h.toKeeps, FileTree.outside_eq_of_within h.outside hinner⟩

theorem KeepsOutside.get?_eq (h : KeepsOutside region before after)
    (hlocation : location.within region = false) :
    after.tree.get? location = before.tree.get? location :=
  FileTree.get?_eq_of_outside_eq h.outside hlocation

theorem KeepsOutside.children_eq (h : KeepsOutside region before after)
    (hlocation : ∀ name : String, Location.within (name :: location) region = false) :
    after.tree.children location = before.tree.children location :=
  FileTree.children_eq_of_outside_eq h.outside hlocation

/-! ## Entries that are put -/

theorem Keeps.withEntry (hlocation : location ≠ [])
    (hentry : entry = .directory ∨ disk.tree.isDirectory location = false) :
    Keeps disk (disk.withEntry location entry) :=
  ⟨rfl, fun _ h => FileTree.isDirectory_put hlocation hentry h⟩

theorem Grows.withEntry (h : disk.tree.get? location = none) :
    Grows disk (disk.withEntry location entry) := by
  have hlocation := FileTree.ne_nil_of_get?_eq_none h
  refine ⟨rfl, fun other found hfound => ?_⟩
  rw [get?_withEntry_of_ne hlocation]
  · exact hfound
  · rintro rfl
    rw [h] at hfound
    cases hfound

theorem KeepsOutside.withEntry (hlocation : location ≠ [])
    (hentry : entry = .directory ∨ disk.tree.isDirectory location = false)
    (hregion : location.within region = true) :
    KeepsOutside region disk (disk.withEntry location entry) :=
  ⟨Keeps.withEntry hlocation hentry, FileTree.outside_put hregion⟩

/-- An entry of a directory is put without changing anything outside of it. -/
theorem KeepsOutside.withChild (hfile : disk.tree.isDirectory (name :: location) = false) :
    KeepsOutside location disk (disk.withEntry (name :: location) entry) :=
  .withEntry (List.cons_ne_nil _ _) (.inr hfile) (Location.within_cons name location)

theorem Rooted.withEntry (h : disk.Rooted) (hlocation : location ≠ [])
    (hparent : disk.tree.isDirectory location.tail = true)
    (hentry : entry = .directory ∨ disk.tree.isDirectory location = false) :
    (disk.withEntry location entry).Rooted :=
  ⟨h.tree.put hlocation hparent hentry,
    FileTree.isDirectory_put hlocation hentry h.workingDirectory⟩

/-! ## Walks -/

/-- A walk goes on in another tree when the directories that it comes through are there, too. -/
theorem walk_of_isDirectory {tree other : FileTree}
    (hdirectories : ∀ front, front <+: parts →
      tree.isDirectory (front.foldl stepTo here) = true →
        other.isDirectory (front.foldl stepTo here) = true)
    (hwalk : walk tree here parts = .ok location) : walk other here parts = .ok location := by
  induction parts generalizing here with
  | nil => exact hwalk
  | cons part rest ih =>
    obtain ⟨hhere, hrest⟩ := walk_cons_ok.1 hwalk
    refine walk_cons_ok.2 ⟨hdirectories [] List.nil_prefix hhere, ih (fun front hfront => ?_) hrest⟩
    exact hdirectories (part :: front) (List.cons_prefix_cons.2 ⟨rfl, hfront⟩)

theorem Keeps.walk (h : Keeps before after)
    (hwalk : walk before.tree here parts = .ok location) :
    Disk.walk after.tree here parts = .ok location :=
  walk_of_isDirectory (fun _ _ => h.directories _) hwalk

theorem Keeps.start_eq (h : Keeps before after) (path : Path) :
    after.start path = before.start path := by
  rw [start, start, h.workingDirectory]

theorem Keeps.spot_eq (h : Keeps before after) (path : Path) :
    after.spot path = before.spot path := by
  rw [spot, spot, h.start_eq]

theorem Keeps.locate (h : Keeps before after) (hlocate : before.locate path = .ok location) :
    after.locate path = .ok location := by
  have hwalk : Disk.walk before.tree (before.start path) path.parts = .ok location := hlocate
  change Disk.walk after.tree (after.start path) path.parts = .ok location
  rw [h.start_eq]
  exact h.walk hwalk

theorem Keeps.directory? (h : Keeps before after) (hdir : before.directory? dir = some location) :
    after.directory? dir = some location := by
  obtain ⟨hlocate, hdirectory⟩ := directory?_eq_some.1 hdir
  exact directory?_eq_some.2 ⟨h.locate hlocate, h.directories location hdirectory⟩

/-- All along a walk that succeeds stand directories. -/
theorem isDirectory_of_walk_append {front back : List String} (hback : back ≠ [])
    (h : walk disk.tree here (front ++ back) = .ok location) :
    disk.tree.isDirectory (front.foldl stepTo here) = true := by
  obtain ⟨between, hfront, hrest⟩ := walk_append_ok.1 h
  rw [← eq_of_walk hfront]
  cases back with
  | nil => exact absurd rfl hback
  | cons part rest => exact (walk_cons_ok.1 hrest).1

/-- So do they all along the path to a directory. -/
theorem isDirectory_of_front (h : disk.directory? dir = some location)
    (hfront : parts <+: dir.parts) :
    disk.tree.isDirectory (parts.foldl stepTo (disk.start dir)) = true := by
  obtain ⟨hlocate, hdirectory⟩ := directory?_eq_some.1 h
  obtain ⟨back, hback⟩ := hfront
  cases back with
  | nil =>
    rw [List.append_nil] at hback
    rw [eq_spot_of_locate hlocate, spot, ← hback] at hdirectory
    exact hdirectory
  | cons part rest =>
    have hwalk : Disk.walk disk.tree (disk.start dir) dir.parts = .ok location := hlocate
    rw [← hback] at hwalk
    exact isDirectory_of_walk_append (List.cons_ne_nil _ _) hwalk

/-- A walk that leaves a region goes through the directory at its top. -/
theorem isDirectory_of_walk_out {tree : FileTree} (hhere : here.within region = true)
    (hlocation : location.within region = false) (h : walk tree here parts = .ok location) :
    tree.isDirectory region = true := by
  induction parts generalizing here with
  | nil =>
    cases h
    rw [hhere] at hlocation
    cases hlocation
  | cons part rest ih =>
    obtain ⟨hdirectory, hrest⟩ := walk_cons_ok.1 h
    have hsuffix := Location.within_iff.1 hhere
    by_cases htop : here = region
    · rwa [← htop]
    refine ih ?_ hrest
    rw [stepTo]
    split
    · cases here with
      | nil => exact absurd (List.suffix_nil.1 hsuffix).symm htop
      | cons name parent =>
        rcases List.suffix_cons_iff.1 hsuffix with heq | htail
        · exact absurd heq.symm htop
        · exact Location.within_iff.2 htail
    · exact Location.within_iff.2 (hsuffix.trans (List.suffix_cons part here))

/-! ## Components of a directory -/

section Div

variable (h : disk.directory? dir = some location) (hname : Path.Plain name)
include h hname

theorem locate_div : disk.locate (dir / name) = .ok (name :: location) := by
  have hrelative : (Path.ofString name).isAbsolute = false := by
    rw [hname.ofString_eq]
    rfl
  have hlocate := locate_join_of_relative h hrelative
  rw [hname.ofString_eq] at hlocate
  change disk.locate (dir.join (Path.ofString name)) = _
  rw [hname.ofString_eq, hlocate, walk_cons_of_isDirectory (directory?_eq_some.1 h).2, stepTo,
    if_neg hname.ne_parent]
  rfl

theorem directory?_div (hdirectory : disk.tree.isDirectory (name :: location) = true) :
    disk.directory? (dir / name) = some (name :: location) :=
  directory?_eq_some.2 ⟨locate_div h hname, hdirectory⟩

omit h in
/-- The way to a component of a path leads through a directory. -/
theorem directory?_of_locate_div {there : Location} (hlocate : disk.locate (dir / name) = .ok there) :
    ∃ parent, disk.directory? dir = some parent ∧ there = name :: parent := by
  have hwalk : Disk.walk disk.tree (disk.start (dir / name)) (dir / name).parts = .ok there :=
    hlocate
  rw [Path.div_of_plain dir hname] at hwalk
  obtain ⟨parent, hparent, hlast⟩ := walk_append_ok.1 hwalk
  obtain ⟨hdirectory, hend⟩ := walk_cons_ok.1 hlast
  rw [stepTo, if_neg hname.ne_parent] at hend
  cases hend
  exact ⟨parent, directory?_eq_some.2 ⟨hparent, hdirectory⟩, rfl⟩

omit h in
/-- A component of a path is a directory only in a directory. -/
theorem directory?_of_div (hdir : disk.directory? (dir / name) = some (name :: location)) :
    disk.directory? dir = some location := by
  obtain ⟨parent, hparent, heq⟩ := directory?_of_locate_div hname (directory?_eq_some.1 hdir).1
  cases heq
  exact hparent

theorem readFile_div {content : ByteArray}
    (hcontent : disk.tree.get? (name :: location) = some (.file content)) :
    disk.readFile (dir / name) = .ok content :=
  readFile_ok.2 ⟨_, locate_div h hname, hcontent⟩

/-- A text that is written to a component of a directory becomes an entry of it. -/
theorem writeText_div_ok {text : String}
    (hwrite : outcome (writeText (dir / name) text) disk = (.ok (), after)) :
    disk.tree.isDirectory (name :: location) = false ∧
      after = disk.withEntry (name :: location) (.file (Utf8.encode text)) := by
  obtain ⟨found, hlocate, hfile, hafter⟩ := outcome_writeText_ok.1 hwrite
  rw [locate_div h hname] at hlocate
  cases hlocate
  exact ⟨hfile, hafter.symm⟩

/-- Writing a text to a component of a directory changes nothing outside of the directory. -/
theorem writeText_div_frame {text : String}
    (hwrite : outcome (writeText (dir / name) text) disk = (.ok (), after)) :
    KeepsOutside location disk after ∧ (disk.Rooted → after.Rooted) ∧
      after.tree.get? (name :: location) = some (.file (Utf8.encode text)) := by
  obtain ⟨hfile, rfl⟩ := writeText_div_ok h hname hwrite
  refine ⟨.withChild hfile, fun hrooted => ?_, get?_withEntry_self (List.cons_ne_nil _ _)⟩
  exact hrooted.withEntry (List.cons_ne_nil _ _) (directory?_eq_some.1 h).2 (.inr hfile)

end Div

/-! ## What a region leaves -/

/-- A file outside of a region is read as before. -/
theorem KeepsOutside.readFile_div {content : ByteArray} (h : KeepsOutside region before after)
    (hdir : before.directory? dir = some location) (hname : Path.Plain name)
    (hout : Location.within (name :: location) region = false)
    (hfile : before.tree.get? (name :: location) = some (.file content)) :
    after.readFile (dir / name) = .ok content := by
  have hstill := h.get?_eq hout
  rw [hfile] at hstill
  exact Disk.readFile_div (h.directory? hdir) hname hstill

/-- A directory outside of a region is listed as before. -/
theorem KeepsOutside.list_eq (h : KeepsOutside region before after)
    (hdir : before.directory? dir = some location)
    (hout : ∀ name : String, Location.within (name :: location) region = false) :
    after.list dir = .ok (before.tree.children location) := by
  rw [← h.children_eq hout]
  exact list_ok.2 ⟨location, h.directory? hdir, rfl⟩

end ModPack.Disk
