import ModPack.Proofs.MakingDirectories

/-!
# What copying leaves of a disk

Copying puts files and directories into directories that are there, whatever it comes across and
wherever it stops. So nothing changes outside of the directory that is copied into, every directory
stays one and a rooted disk stays rooted. Main statements: `Puts.keepsOutside`, `Puts.rooted` and
`copyChildren_puts`.
-/
namespace ModPack.Disk

variable {α β : Type} {disk before between after : Disk} {location target : Location}
  {entry : Entry}

/-- What a copy may put at a location: a directory where nothing is, or a file where no directory
is. -/
def Fits (disk : Disk) (location : Location) : Entry → Prop
  | .directory => disk.tree.get? location = none
  | .file _ => disk.tree.isDirectory location = false

/-- One disk becomes the other by entries that are put into a region, each where it fits. In a
rooted disk each of them lies in a directory. -/
inductive Puts (region : Location) (before : Disk) : Disk → Prop
  | refl : Puts region before before
  | put {between : Disk} {location : Location} {entry : Entry}
      (earlier : Puts region before between)
      (within : location.within region = true) (fits : Fits between location entry)
      (parent : between.Rooted → between.tree.isDirectory location.tail = true) :
      Puts region before (between.withEntry location entry)

theorem Fits.ne_nil (h : Fits disk location entry) : location ≠ [] := by
  rintro rfl
  cases entry with
  | directory => cases h
  | file content =>
    rw [Fits, FileTree.isDirectory_root] at h
    cases h

theorem Fits.replaces (h : Fits disk location entry) :
    entry = .directory ∨ disk.tree.isDirectory location = false := by
  cases entry with
  | directory => exact .inl rfl
  | file content => exact .inr h

namespace Puts

variable {region : Location}

theorem one (hwithin : location.within region = true) (hfits : Fits disk location entry)
    (hparent : disk.Rooted → disk.tree.isDirectory location.tail = true) :
    Puts region disk (disk.withEntry location entry) :=
  .put .refl hwithin hfits hparent

theorem trans (h : Puts region before between) (h' : Puts region between after) :
    Puts region before after := by
  induction h' with
  | refl => exact h
  | put _ hwithin hfits hparent ih => exact ih.put hwithin hfits hparent

/-- Nothing changes outside of the region. -/
theorem keepsOutside (h : Puts region before after) : KeepsOutside region before after := by
  induction h with
  | refl => exact KeepsOutside.refl region before
  | put _ hwithin hfits _ ih =>
    exact ih.trans (KeepsOutside.withEntry hfits.ne_nil hfits.replaces hwithin)

theorem keeps (h : Puts region before after) : Keeps before after :=
  h.keepsOutside.toKeeps

theorem rooted (h : Puts region before after) (hrooted : before.Rooted) : after.Rooted := by
  induction h with
  | refl => exact hrooted
  | put _ _ hfits hparent ih => exact ih.withEntry hfits.ne_nil (hparent ih) hfits.replaces

end Puts

/-- A sequence puts what its first action puts and its second one puts after that. -/
theorem puts_bind {first : Op α} {next : α → Op β}
    (h : Puts region disk (outcome first disk).2)
    (hnext : ∀ value between, outcome first disk = (.ok value, between) →
      Puts region between (outcome (next value) between).2) :
    Puts region disk (outcome (first >>= next) disk).2 := by
  rw [outcome_bind]
  split
  · next value between hfirst =>
    rw [hfirst] at h
    exact h.trans (hnext value between hfirst)
  · next hfirst =>
    rwa [hfirst] at h

theorem outcome_tryCatch (body : Op α) (handler : OsError → Op α) (disk : Disk) :
    outcome (tryCatch body handler) disk =
      match outcome body disk with
      | (.ok value, after) => (.ok value, after)
      | (.error error, after) => outcome (handler error) after := by
  rcases hbody : outcome body disk with ⟨error | value, after⟩
  all_goals
    change body.run disk = _ at hbody
    change (ExceptT.tryCatch body handler).run disk = _
    unfold ExceptT.tryCatch
    rw [ExceptT.run_mk]
    change StateT.bind body.run _ disk = _
    simp [StateT.bind, hbody]
    rfl

theorem puts_tryCatch {body : Op α} {handler : OsError → Op α}
    (h : Puts region disk (outcome body disk).2)
    (hhandler : ∀ error disk, Puts region disk (outcome (handler error) disk).2) :
    Puts region disk (outcome (tryCatch body handler) disk).2 := by
  rw [outcome_tryCatch]
  split
  · next hbody =>
    rwa [hbody] at h
  · next error after hbody =>
    rw [hbody] at h
    exact h.trans (hhandler error after)

/-- The induction is on the list. -/
theorem puts_mapM {items : List α} {work : α → Op β}
    (h : ∀ item disk, Puts region disk (outcome (work item) disk).2) (disk : Disk) :
    Puts region disk (outcome (items.mapM work) disk).2 := by
  induction items generalizing disk with
  | nil => exact Puts.refl
  | cons item items ih =>
    rw [List.mapM_cons]
    refine puts_bind (h item disk) fun _ _ _ => ?_
    exact puts_bind (ih _) fun _ after _ => Puts.refl

/-! ## Copies -/

/-- Where a file is copied: to the target, or into it when it is a directory. -/
def copyPlace (disk : Disk) (source target : Location) : Location :=
  if disk.tree.isDirectory target then source.headD "" :: target else target

theorem outcome_copyFile (source : Location) (content : ByteArray) (target : Location)
    (disk : Disk) :
    outcome (copyFile source content target) disk =
      if copyPlace disk source target = source then (.error .sameFile, disk)
      else if disk.tree.isDirectory (copyPlace disk source target) then (.error .isDirectory, disk)
      else (.ok (), disk.withEntry (copyPlace disk source target) (.file content)) := by
  unfold copyFile
  rw [outcome_get_bind]
  change outcome (do
    if copyPlace disk source target = source then throw .sameFile
    if disk.tree.isDirectory (copyPlace disk source target) then throw .isDirectory
    put (copyPlace disk source target) (.file content)) disk = _
  dsimp only
  split
  · rfl
  · split <;> rfl

/-- Copying a file puts it where it goes, or nothing. -/
theorem copyFile_puts (source : Location) (content : ByteArray)
    (hregion : target.within region = true)
    (h : disk.Rooted → disk.tree.isDirectory target.tail = true) :
    Puts region disk (outcome (copyFile source content target) disk).2 := by
  rw [outcome_copyFile]
  split
  · exact .refl
  split
  · exact .refl
  · next hfile =>
    refine .one ?_ (Bool.eq_false_iff.2 hfile) fun hrooted => ?_
    · rw [copyPlace]
      split
      · exact Location.cons_within _ hregion
      · exact hregion
    · rw [copyPlace]
      split
      · next hdirectory => exact hdirectory
      · exact h hrooted

theorem outcome_enter (target : Location) (disk : Disk) :
    outcome (enter target) disk =
      match disk.tree.get? target with
      | none => (.ok (), disk.withEntry target .directory)
      | some .directory => (.ok (), disk)
      | some (.file _) => (.error .alreadyExists, disk) := by
  unfold enter
  rw [outcome_get_bind]
  cases disk.tree.get? target with
  | none => rfl
  | some found => cases found <;> rfl

theorem enter_puts (hregion : target.within region = true)
    (h : disk.Rooted → disk.tree.isDirectory target.tail = true) :
    Puts region disk (outcome (enter target) disk).2 := by
  rw [outcome_enter]
  split
  · next hnone => exact .one hregion hnone h
  · exact .refl
  · exact .refl

theorem outcome_copyEntry (source target path : Location) (entry : Entry) (disk : Disk) :
    outcome (copyEntry source target path entry) disk =
      if disk.tree.isDirectory (path.tail ++ target) then
        match entry with
        | .directory => outcome (enter (path ++ target)) disk
        | .file content => outcome (copyFile (path ++ source) content (path ++ target)) disk
      else (.error .notDirectory, disk) := by
  unfold copyEntry
  rw [outcome_get_bind]
  dsimp only
  split
  · cases entry <;> rfl
  · rfl

/-- An entry is copied into a directory only. -/
theorem copyEntry_puts (source path : Location) (entry : Entry)
    (hregion : target.within region = true) :
    Puts region disk (outcome (copyEntry source target path entry) disk).2 := by
  have hwithin : (path ++ target).within region = true :=
    Location.append_within _ hregion
  have hparent (hdirectory : disk.tree.isDirectory (path.tail ++ target) = true)
      (hrooted : disk.Rooted) : disk.tree.isDirectory (path ++ target).tail = true := by
    cases path with
    | nil =>
      have hfound : disk.tree.get? target = some .directory := FileTree.isDirectory_iff.1 hdirectory
      exact hrooted.tree target (by rw [hfound]; rfl)
    | cons name above => exact hdirectory
  rw [outcome_copyEntry]
  split
  · next hdirectory =>
    cases entry with
    | directory => exact enter_puts hwithin (hparent hdirectory)
    | file content => exact copyFile_puts _ _ hwithin (hparent hdirectory)
  · exact .refl

theorem copyTree_puts (source : Location) (hregion : target.within region = true)
    (h : disk.Rooted → disk.tree.isDirectory target.tail = true) :
    Puts region disk (outcome (copyTree source target) disk).2 := by
  unfold copyTree
  rw [outcome_get_bind]
  refine puts_bind (enter_puts hregion h) fun _ entered _ => ?_
  refine puts_bind (puts_mapM (fun item disk => ?_) entered) fun copied after _ => ?_
  · refine puts_tryCatch ?_ fun _ disk => .refl
    exact puts_bind (copyEntry_puts _ _ _ hregion) fun _ after _ => .refl
  · split <;> exact .refl

/-- The induction is on the list; the directory that is copied into stays one on the way. -/
theorem puts_forIn {items : List α} {work : α → PUnit → Op (ForInStep PUnit)}
    {destination : Location}
    (h : ∀ item disk, disk.tree.isDirectory destination = true →
      Puts region disk (outcome (work item ⟨⟩) disk).2)
    (disk : Disk) (hdirectory : disk.tree.isDirectory destination = true) :
    Puts region disk (outcome (forIn items PUnit.unit work) disk).2 := by
  induction items generalizing disk with
  | nil => exact .refl
  | cons item items ih =>
    have hitem := h item disk hdirectory
    rw [List.forIn_cons]
    refine puts_bind hitem fun step between hstep => ?_
    rw [hstep] at hitem
    cases step with
    | done value => exact .refl
    | yield value => exact ih between (hitem.keeps.directories _ hdirectory)

/-- Copying into a directory puts entries there and nowhere else, however far it gets. -/
theorem copyChildren_puts (source : Path) {path : Path} (h : disk.directory? path = some target) :
    Puts target disk (outcome (copyChildren source path) disk).2 := by
  obtain ⟨hlocate, hdirectory⟩ := directory?_eq_some.1 h
  have hfind : disk.find path = .ok (target, .directory) :=
    find_ok.2 ⟨hlocate, FileTree.isDirectory_iff.1 hdirectory⟩
  have hbelow (name : String) : Location.within (name :: target) target = true :=
    Location.within_cons _ _
  unfold copyChildren
  rw [outcome_get_bind, outcome_ofExcept_bind]
  split
  · rw [outcome_ofExcept_bind]
    split
    · rw [hfind, outcome_ofExcept_bind]
      dsimp only
      refine puts_bind (puts_forIn (fun item disk hdirectory => ?_) disk hdirectory)
        fun _ after _ => .refl
      obtain ⟨name, entry⟩ := item
      cases entry with
      | directory =>
        exact puts_bind (copyTree_puts _ (hbelow name) fun _ => hdirectory) fun _ after _ => .refl
      | file content =>
        exact puts_bind (copyFile_puts _ _ (hbelow name) fun _ => hdirectory) fun _ after _ => .refl
    · exact .refl
  · exact .refl

theorem puts_of_copyChildren {source path : Path} {result : Except OsError Unit}
    (hdir : disk.directory? path = some target)
    (h : outcome (copyChildren source path) disk = (result, after)) : Puts target disk after := by
  have hputs := copyChildren_puts source hdir
  rwa [h] at hputs

end ModPack.Disk
