import ModPack.Proofs.CopySteps

/-!
# Copying again

Where a copy has succeeded, the same copy succeeds again: directories are where directories are to
be, and files are where files are to be, whatever they hold by then. Main statement:
`copyChildren_again`.
-/
namespace ModPack.Disk

variable {disk before between after : Disk} {source target path region : Location} {entry : Entry}

/-- A file is found there. -/
def HoldsFile (disk : Disk) (location : Location) : Prop :=
  ∃ content, disk.tree.get? location = some (.file content)

/-- In a region directories stay directories, and files stay files. -/
structure KeepsKinds (region : Location) (before after : Disk) : Prop where
  directories : ∀ location, location.within region = true →
    before.tree.isDirectory location = true → after.tree.isDirectory location = true
  files : ∀ location, location.within region = true →
    before.HoldsFile location → after.HoldsFile location

theorem KeepsKinds.refl (region : Location) (disk : Disk) : KeepsKinds region disk disk :=
  ⟨fun _ _ h => h, fun _ _ h => h⟩

theorem KeepsKinds.trans (h : KeepsKinds region before between)
    (h' : KeepsKinds region between after) : KeepsKinds region before after :=
  ⟨fun location hin hdirectory =>
      h'.directories location hin (h.directories location hin hdirectory),
    fun location hin hfile => h'.files location hin (h.files location hin hfile)⟩

theorem KeepsKinds.mono {inner : Location} (h : KeepsKinds region before after)
    (hinner : inner.within region = true) : KeepsKinds inner before after := by
  have hin {location : Location} (hlocation : location.within inner = true) :
      location.within region = true :=
    Location.within_trans hlocation hinner
  exact ⟨fun location hlocation => h.directories location (hin hlocation),
    fun location hlocation => h.files location (hin hlocation)⟩

/-- What stays as it is keeps its kind. -/
theorem KeepsKinds.of_get? (h : ∀ location entry, location.within region = true →
    before.tree.get? location = some entry → after.tree.get? location = some entry) :
    KeepsKinds region before after := by
  constructor
  · intro location hin hdirectory
    exact FileTree.isDirectory_iff.2 (h location _ hin (FileTree.isDirectory_iff.1 hdirectory))
  · rintro location hin ⟨content, hfile⟩
    exact ⟨content, h location _ hin hfile⟩

theorem Grows.keepsKinds (h : Grows before after) (region : Location) :
    KeepsKinds region before after :=
  .of_get? fun location entry _ => h.found location entry

theorem KeepsOutside.keepsKinds {inner : Location} (h : KeepsOutside inner before after)
    (hapart : Location.Apart region inner) : KeepsKinds region before after :=
  .of_get? fun location entry hin hentry => by
    rw [h.get?_eq (hapart.not_within hin)]
    exact hentry

theorem isDirectory_eq_false_of_holdsFile {location : Location} (h : disk.HoldsFile location) :
    disk.tree.isDirectory location = false := by
  obtain ⟨content, hfile⟩ := h
  simp [FileTree.isDirectory, hfile]

/-- An entry that is put where it fits takes no place of another kind. -/
theorem KeepsKinds.withEntry {location : Location} (h : Fits disk location entry)
    (region : Location) : KeepsKinds region disk (disk.withEntry location entry) := by
  constructor
  · intro other _ hdirectory
    exact FileTree.isDirectory_put h.ne_nil h.replaces hdirectory
  · rintro other _ ⟨content, hfile⟩
    by_cases hother : other = location
    · subst hother
      cases entry with
      | directory =>
        rw [Fits, hfile] at h
        cases h
      | file renewed => exact ⟨renewed, get?_withEntry_self h.ne_nil⟩
    · exact ⟨content, (get?_withEntry_of_ne h.ne_nil hother).trans hfile⟩

theorem writeText_keepsKinds {file : Path} {text : String}
    (h : outcome (writeText file text) before = (.ok (), after)) (region : Location) :
    KeepsKinds region before after := by
  obtain ⟨location, _, hfile, rfl⟩ := outcome_writeText_ok.1 h
  have hfits : Fits before location (.file (Utf8.encode text)) := hfile
  exact .withEntry hfits region

theorem Puts.keepsKinds {inner : Location} (h : Puts inner before after) (region : Location) :
    KeepsKinds region before after := by
  induction h with
  | refl => exact .refl region before
  | put _ _ hfits _ ih => exact ih.trans (.withEntry hfits region)

/-! ## Entries that were copied -/

/-- What a copy of an entry leaves: a directory at its target, or a file where files go. -/
def Copied (disk : Disk) (source target : Location) : Entry → Prop
  | .directory => disk.tree.isDirectory target = true
  | .file _ => disk.HoldsFile (copyPlace disk source target)

/-- The copy of an entry lies in the directory of its target, and is there. -/
def Stands (disk : Disk) (source target : Location) (item : Location × Entry) : Prop :=
  disk.tree.isDirectory (item.1.tail ++ target) = true ∧
    Copied disk (item.1 ++ source) (item.1 ++ target) item.2

theorem within_copyPlace (disk : Disk) (source : Location) (h : target.within region = true) :
    (copyPlace disk source target).within region = true := by
  rw [copyPlace]
  split
  · exact Location.cons_within _ h
  · exact h

theorem Copied.mono (h : Copied before source target entry) (hin : target.within region = true)
    (hkinds : KeepsKinds region before after) : Copied after source target entry := by
  cases entry with
  | directory => exact hkinds.directories target hin h
  | file content =>
    rw [Copied, copyPlace] at h ⊢
    by_cases hdirectory : before.tree.isDirectory target = true
    · rw [if_pos hdirectory] at h
      rw [if_pos (hkinds.directories target hin hdirectory)]
      refine hkinds.files _ ?_ h
      exact Location.cons_within _ hin
    · rw [if_neg hdirectory] at h
      have hfile := hkinds.files target hin h
      rwa [if_neg (by simp [isDirectory_eq_false_of_holdsFile hfile])]

theorem Stands.mono {item : Location × Entry} (h : Stands before source target item)
    (hkinds : KeepsKinds target before after) : Stands after source target item := by
  have hbelow (path : Location) : (path ++ target).within target = true :=
    Location.within_append _ _
  exact ⟨hkinds.directories _ (hbelow _) h.1, h.2.mono (hbelow _) hkinds⟩

/-- A file that is copied is where it goes, and stays the one that goes there. -/
theorem copied_of_copyFile {content : ByteArray}
    (h : outcome (copyFile source content target) before = (.ok (), after)) :
    Copied after source target (.file content) := by
  rw [outcome_copyFile] at h
  split at h
  · cases h
  split at h
  · cases h
  · next hfile =>
    cases h
    have hfits : Fits before (copyPlace before source target) (.file content) :=
      Bool.eq_false_iff.2 hfile
    have hheld : (before.withEntry (copyPlace before source target) (.file content)).HoldsFile
        (copyPlace before source target) := ⟨content, get?_withEntry_self hfits.ne_nil⟩
    have hplace : copyPlace (before.withEntry (copyPlace before source target) (.file content))
        source target = copyPlace before source target := by
      by_cases hdirectory : before.tree.isDirectory target = true
      · have hstill := FileTree.isDirectory_put hfits.ne_nil hfits.replaces hdirectory
        rw [copyPlace]
        change (if (before.tree.put _ _).isDirectory target = true then _ else _) = _
        rw [if_pos hstill, copyPlace, if_pos hdirectory]
      · have hself : copyPlace before source target = target := if_neg hdirectory
        rw [hself] at hheld ⊢
        rw [copyPlace, if_neg (by simp [isDirectory_eq_false_of_holdsFile hheld])]
    rw [Copied, hplace]
    exact hheld

theorem isDirectory_of_enter (h : outcome (enter target) before = (.ok (), after)) :
    after.tree.isDirectory target = true := by
  rw [outcome_enter] at h
  split at h
  · next hnone =>
    cases h
    exact FileTree.isDirectory_iff.2
      (get?_withEntry_self (FileTree.ne_nil_of_get?_eq_none hnone))
  · next hdirectory =>
    cases h
    exact FileTree.isDirectory_iff.2 hdirectory
  · cases h

theorem puts_of_copyEntry {result : Except OsError Unit}
    (h : outcome (copyEntry source target path entry) before = (result, after)) :
    Puts target before after := by
  have hself : target.within target = true := Location.within_refl target
  have hputs : Puts target before (outcome (copyEntry source target path entry) before).2 :=
    copyEntry_puts source path entry hself
  rwa [h] at hputs

theorem copyEntry_stands
    (h : outcome (copyEntry source target path entry) before = (.ok (), after)) :
    Stands after source target (path, entry) := by
  have hputs := puts_of_copyEntry h
  rw [outcome_copyEntry] at h
  split at h
  · next hparent =>
    refine ⟨hputs.keeps.directories _ hparent, ?_⟩
    cases entry with
    | directory => exact isDirectory_of_enter h
    | file content => exact copied_of_copyFile h
  · cases h

/-- The induction is on the entries; what stands stays there while the others are copied. -/
theorem copyEntries_stands {items : List (Location × Entry)}
    (h : outcome (copyEntries source target items) before = (.ok (), after)) :
    ∀ item ∈ items, Stands after source target item := by
  induction items generalizing before with
  | nil => exact fun _ hmem => by cases hmem
  | cons item items ih =>
    rw [copyEntries_cons, outcome_seq_ok] at h
    obtain ⟨between, hitem, hrest⟩ := h
    have hputs := copyEntries_puts source target items between
    rw [hrest] at hputs
    exact List.forall_mem_cons.2
      ⟨(copyEntry_stands hitem).mono (hputs.keepsKinds target), ih hrest⟩

/-- Where an entry stands it is copied again. -/
theorem copyEntry_again (hapart : Location.Apart source target)
    (h : Stands disk source target (path, entry)) :
    ∃ after, outcome (copyEntry source target path entry) disk = (.ok (), after) := by
  obtain ⟨hparent, hcopied⟩ := h
  rw [outcome_copyEntry, if_pos hparent]
  cases entry with
  | directory =>
    dsimp only
    rw [outcome_enter, FileTree.isDirectory_iff.1 hcopied]
    exact ⟨disk, rfl⟩
  | file content =>
    dsimp only
    rw [outcome_copyFile]
    have hin : (copyPlace disk (path ++ source) (path ++ target)).within target = true :=
      within_copyPlace _ _ (Location.within_append _ _)
    have hout := hapart.symm.not_within hin
    have hne : copyPlace disk (path ++ source) (path ++ target) ≠ path ++ source := by
      intro heq
      rw [heq, Location.within_append _ _] at hout
      cases hout
    rw [if_neg hne, if_neg (by simp [isDirectory_eq_false_of_holdsFile hcopied])]
    exact ⟨_, rfl⟩

theorem copyEntries_again (hapart : Location.Apart source target)
    {items : List (Location × Entry)} (h : ∀ item ∈ items, Stands disk source target item) :
    ∃ after, outcome (copyEntries source target items) disk = (.ok (), after) := by
  induction items generalizing disk with
  | nil => exact ⟨disk, rfl⟩
  | cons item items ih =>
    obtain ⟨hitem, hrest⟩ := List.forall_mem_cons.1 h
    obtain ⟨between, hbetween⟩ := copyEntry_again hapart hitem
    have hputs := puts_of_copyEntry hbetween
    obtain ⟨after, hafter⟩ := ih fun other hmem =>
      (hrest other hmem).mono (hputs.keepsKinds target)
    rw [copyEntries_cons]
    exact ⟨after, outcome_seq_ok.2 ⟨between, hbetween, hafter⟩⟩

/-- The directory at a path is there before and after with the same in it, and lies apart from a
region. -/
def KeepsSource (region : Location) (before after : Disk) (dir : Path) : Prop :=
  ∃ source, before.directory? dir = some source ∧ after.directory? dir = some source ∧
    after.tree.inside source = before.tree.inside source ∧ Location.Apart source region

/-- A copy that succeeded succeeds again on a disk that has its source, with no more in it than it
had, and on which everything at its target still is of the kind that the copy left. -/
theorem copyChildren_again {dir destination : Path} {first copied : Disk}
    (hapart : Location.Apart source target)
    (hdir : first.directory? dir = some source)
    (hto : first.directory? destination = some target)
    (h : outcome (copyChildren dir destination) first = (.ok (), copied))
    (hdir' : disk.directory? dir = some source)
    (hto' : disk.directory? destination = some target)
    (hsource : ∀ entry ∈ disk.tree.entries, entry.1.within source = true →
      entry ∈ first.tree.entries)
    (hkinds : KeepsKinds target copied disk) :
    ∃ after, outcome (copyChildren dir destination) disk = (.ok (), after) := by
  have hcopied := (copyChildren_ok hdir hto hapart).1 h
  have hstands : ∀ item ∈ disk.tree.below source, Stands disk source target item :=
    fun item hitem => (copyEntries_stands hcopied item
      (FileTree.below_subset hsource hitem)).mono hkinds
  obtain ⟨after, hafter⟩ := copyEntries_again hapart hstands
  exact ⟨after, (copyChildren_ok hdir' hto' hapart).2 hafter⟩

end ModPack.Disk
