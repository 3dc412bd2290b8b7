import ModPack.Proofs.DiskWalk
import ModPack.Proofs.TreeFrames

/-!
# Outcomes of actions on a disk

What an action does to a disk, told by what it finds there. Proofs about work on a disk open an
outcome with these lemmas and never unfold an action. Main statements: `outcome_bind_ok`,
`outcome_makeDirectory_ok`, `outcome_writeText_ok` and `outcome_removeTree_ok`.
-/
namespace ModPack.Disk

variable {α β : Type} {disk after : Disk} {location : Location} {path : Path}

/-- The disk with an entry put at a location. -/
def withEntry (disk : Disk) (location : Location) (entry : Entry) : Disk :=
  { disk with tree := disk.tree.put location entry }

/-- The disk without a location and everything below it. -/
def without (disk : Disk) (location : Location) : Disk :=
  { disk with tree := disk.tree.remove location }

section

variable {other : Location} {entry : Entry}

theorem get?_withEntry (hlocation : location ≠ []) :
    (disk.withEntry location entry).tree.get? other =
      if other = location then some entry else disk.tree.get? other :=
  FileTree.get?_put disk.tree location other entry hlocation

theorem get?_withEntry_self (hlocation : location ≠ []) :
    (disk.withEntry location entry).tree.get? location = some entry := by
  rw [get?_withEntry hlocation, if_pos rfl]

theorem get?_withEntry_of_ne (hlocation : location ≠ []) (hne : other ≠ location) :
    (disk.withEntry location entry).tree.get? other = disk.tree.get? other := by
  rw [get?_withEntry hlocation, if_neg hne]

theorem get?_without (hlocation : location ≠ []) :
    (disk.without location).tree.get? other =
      if other.within location then none else disk.tree.get? other :=
  FileTree.get?_remove hlocation

theorem get?_without_of_not_within (hlocation : location ≠ [])
    (hout : other.within location = false) :
    (disk.without location).tree.get? other = disk.tree.get? other := by
  rw [get?_without hlocation, if_neg (Bool.eq_false_iff.1 hout)]

theorem isDirectory_without (hlocation : location ≠ []) (hout : other.within location = false)
    (h : disk.tree.isDirectory other = true) :
    (disk.without location).tree.isDirectory other = true := by
  rw [FileTree.isDirectory_iff, get?_without_of_not_within hlocation hout]
  exact FileTree.isDirectory_iff.1 h

end

/-- What an action gives on a disk, and the disk it leaves. -/
def outcome (op : Op α) (disk : Disk) : Except OsError α × Disk :=
  op.run disk

theorem outcome_bind (first : Op α) (next : α → Op β) (disk : Disk) :
    outcome (first >>= next) disk =
      match outcome first disk with
      | (.ok value, between) => outcome (next value) between
      | (.error error, between) => (.error error, between) := by
  change (ExceptT.bindCont next (first.run disk).1) (first.run disk).2 = _
  unfold outcome
  rcases first.run disk with ⟨_ | _, _⟩ <;> rfl

/-- A sequence of actions succeeds when the first one does and the second one does after it. -/
theorem outcome_bind_ok {first : Op α} {next : α → Op β} {value : β} :
    outcome (first >>= next) disk = (.ok value, after) ↔
      ∃ middle between, outcome first disk = (.ok middle, between) ∧
        outcome (next middle) between = (.ok value, after) := by
  rw [outcome_bind]
  rcases outcome first disk with ⟨error | middle, between⟩
  · simp
  · constructor
    · intro h
      exact ⟨middle, between, rfl, h⟩
    · rintro ⟨_, _, heq, h⟩
      cases heq
      exact h

theorem outcome_throw (error : OsError) (disk : Disk) :
    outcome (throw error : Op α) disk = (.error error, disk) := rfl

theorem outcome_put (location : Location) (entry : Entry) (disk : Disk) :
    outcome (put location entry) disk = (.ok (), disk.withEntry location entry) := rfl

theorem outcome_get_bind (next : Disk → Op β) (disk : Disk) :
    outcome (get >>= next) disk = outcome (next disk) disk := rfl

theorem outcome_ofExcept_bind (result : Except OsError α) (next : α → Op β) (disk : Disk) :
    outcome ((result : Op α) >>= next) disk =
      match result with
      | .ok value => outcome (next value) disk
      | .error error => (.error error, disk) := by
  cases result <;> rfl

theorem outcome_makeDirectory (existOk : Bool) (path : Path) (disk : Disk) :
    outcome (makeDirectory existOk path) disk =
      match disk.locate path with
      | .error error => (.error error, disk)
      | .ok location =>
        match disk.tree.get? location with
        | none => (.ok (), disk.withEntry location .directory)
        | some .directory => (if existOk then .ok () else .error .alreadyExists, disk)
        | some (.file _) => (.error .alreadyExists, disk) := by
  unfold makeDirectory
  rw [outcome_get_bind, outcome_ofExcept_bind]
  cases disk.locate path with
  | error error => rfl
  | ok location =>
    dsimp only
    cases disk.tree.get? location with
    | none => exact outcome_put location .directory disk
    | some entry =>
      cases entry with
      | directory => cases existOk <;> rfl
      | file content => rfl

/-- A directory is made where nothing is, or is there already and that is accepted. -/
theorem outcome_makeDirectory_ok {existOk : Bool} :
    outcome (makeDirectory existOk path) disk = (.ok (), after) ↔
      ∃ location, disk.locate path = .ok location ∧
        ((disk.tree.get? location = none ∧ disk.withEntry location .directory = after) ∨
          (existOk = true ∧ disk.tree.isDirectory location = true ∧ disk = after)) := by
  rw [outcome_makeDirectory]
  cases disk.locate path with
  | error error => simp
  | ok location =>
    cases hentry : disk.tree.get? location with
    | none => simp [FileTree.isDirectory, hentry]
    | some entry =>
      cases entry with
      | directory => cases existOk <;> simp [FileTree.isDirectory, hentry]
      | file content => simp [FileTree.isDirectory, hentry]

/-- Making directories is making one directory, after the ones above it when the way to it is
missing. -/
theorem outcome_makeDirectories (existOk : Bool) (path : Path) (disk : Disk) :
    outcome (makeDirectories existOk path) disk = outcome (makeDirectory existOk path) disk ∨
      disk.locate path = .error .notFound ∧
        (path.parts = [] ∧
            outcome (makeDirectories existOk path) disk = (.error .notFound, disk) ∨
          path.parts ≠ [] ∧ outcome (makeDirectories existOk path) disk =
            outcome (makeDirectories true path.parent >>= fun _ => makeDirectory existOk path)
              disk) := by
  rw [makeDirectories, outcome_get_bind]
  split
  · next hlocate =>
    refine .inr ⟨hlocate, ?_⟩
    split
    · next hparts => exact .inl ⟨hparts, rfl⟩
    · next hparts => exact .inr ⟨hparts, rfl⟩
  · exact .inl rfl

/-- A file is written where no directory is. -/
theorem outcome_writeText_ok {text : String} :
    outcome (writeText path text) disk = (.ok (), after) ↔
      ∃ location, disk.locate path = .ok location ∧ disk.tree.isDirectory location = false ∧
        disk.withEntry location (.file (Utf8.encode text)) = after := by
  unfold writeText writeBytes
  rw [outcome_get_bind, outcome_ofExcept_bind]
  cases disk.locate path with
  | error error => simp
  | ok location =>
    dsimp only
    split
    · next hdirectory =>
      simp [outcome_throw, hdirectory]
    · next hdirectory =>
      simp [outcome_put, hdirectory]

/-- A tree is removed where a directory is. -/
theorem outcome_removeTree_ok :
    outcome (removeTree path) disk = (.ok (), after) ↔
      ∃ location, disk.directory? path = some location ∧ disk.without location = after := by
  simp only [directory?_eq_some, FileTree.isDirectory, decide_eq_true_eq, ← find_ok]
  unfold removeTree
  rw [outcome_get_bind, outcome_ofExcept_bind]
  cases disk.find path with
  | error error => simp
  | ok found =>
    obtain ⟨there, entry⟩ := found
    cases entry with
    | directory =>
      change (Except.ok (), disk.without there) = (.ok (), after) ↔ _
      simp
    | file content => simp [outcome_throw]

end ModPack.Disk
