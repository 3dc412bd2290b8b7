import ModPack.Disk

/-!
# Where paths lead

A walk that succeeds ends where its components lead when they are read one by one, so its end does
not depend on the tree, and a walk goes on where another one ends. Main statements: `walk_append`
and `locate_join`: where a path from a directory leads depends on the directory and not on how it is
spelled.
-/
namespace ModPack.Disk

variable {tree : FileTree} {disk : Disk} {here location : Location} {dir path : Path}

/-- Where a component leads. -/
def stepTo (here : Location) (part : String) : Location :=
  if part = ".." then here.tail else part :: here

/-- Where a walk starts. -/
def start (disk : Disk) (path : Path) : Location :=
  if path.isAbsolute then [] else disk.workingDirectory

/-- Where a path leads when all of it is there. -/
def spot (disk : Disk) (path : Path) : Location :=
  path.parts.foldl stepTo (disk.start path)

theorem walk_cons_of_isDirectory {part : String} {rest : List String}
    (h : tree.isDirectory here = true) :
    walk tree here (part :: rest) = walk tree (stepTo here part) rest := by
  have hentry : tree.get? here = some .directory := of_decide_eq_true h
  rw [walk, hentry]
  rfl

/-- A walk gets past a component only in a directory. -/
theorem walk_cons_ok {part : String} {rest : List String} :
    walk tree here (part :: rest) = .ok location ↔
      tree.isDirectory here = true ∧ walk tree (stepTo here part) rest = .ok location := by
  cases hentry : tree.get? here with
  | none => simp [walk, FileTree.isDirectory, hentry]
  | some entry => cases entry <;> simp [walk, FileTree.isDirectory, hentry, stepTo]

theorem walk_append (front back : List String) :
    walk tree here (front ++ back) =
      walk tree here front >>= fun there => walk tree there back := by
  induction front generalizing here with
  | nil => rfl
  | cons part front ih =>
    rw [List.cons_append, walk, walk]
    split
    · rfl
    · rfl
    · exact ih

theorem walk_append_ok {front back : List String} :
    walk tree here (front ++ back) = .ok location ↔
      ∃ between, walk tree here front = .ok between ∧ walk tree between back = .ok location := by
  rw [walk_append]
  cases walk tree here front <;> simp [bind, Except.bind]

/-- The end of a walk is read off its components. -/
theorem eq_of_walk {parts : List String} (h : walk tree here parts = .ok location) :
    location = parts.foldl stepTo here := by
  induction parts generalizing here with
  | nil => exact (Except.ok.inj h).symm
  | cons part rest ih => exact ih (walk_cons_ok.1 h).2

theorem eq_spot_of_locate (h : disk.locate path = .ok location) : location = disk.spot path :=
  eq_of_walk h

theorem directory?_eq_some :
    disk.directory? path = some location ↔
      disk.locate path = .ok location ∧ disk.tree.isDirectory location = true := by
  unfold directory?
  cases h : disk.locate path with
  | error error => simp
  | ok there => by_cases hdirectory : disk.tree.isDirectory there = true <;> grind

theorem find_ok {entry : Entry} :
    disk.find path = .ok (location, entry) ↔
      disk.locate path = .ok location ∧ disk.tree.get? location = some entry := by
  unfold find
  cases disk.locate path with
  | error error => simp [bind, Except.bind]
  | ok there =>
    cases hentry : disk.tree.get? there with
    | none =>
      simp only [bind, Except.bind, hentry]
      grind
    | some found =>
      simp only [bind, Except.bind, hentry]
      grind

theorem find_error {error : OsError} :
    disk.find path = .error error ↔ disk.locate path = .error error ∨
      ∃ location, disk.locate path = .ok location ∧ disk.tree.get? location = none ∧
        .notFound = error := by
  unfold find
  cases disk.locate path with
  | error cause => simp [bind, Except.bind]
  | ok there =>
    cases hentry : disk.tree.get? there with
    | none => simp [bind, Except.bind, hentry]
    | some found => simp [bind, Except.bind, hentry]

theorem readFile_ok {content : ByteArray} :
    disk.readFile path = .ok content ↔
      ∃ location, disk.locate path = .ok location ∧
        disk.tree.get? location = some (.file content) := by
  simp only [← find_ok]
  unfold readFile
  cases disk.find path with
  | error error => simp [bind, Except.bind]
  | ok found =>
    obtain ⟨there, entry⟩ := found
    cases entry <;> simp [bind, Except.bind]

theorem list_ok {listing : List (String × Entry)} :
    disk.list path = .ok listing ↔
      ∃ location, disk.directory? path = some location ∧ disk.tree.children location = listing := by
  simp only [directory?_eq_some, FileTree.isDirectory, decide_eq_true_eq, ← find_ok]
  unfold list
  cases disk.find path with
  | error error => simp [bind, Except.bind]
  | ok found =>
    obtain ⟨there, entry⟩ := found
    cases entry <;> simp [bind, Except.bind]

theorem eq_spot_of_directory? (h : disk.directory? path = some location) :
    location = disk.spot path :=
  eq_spot_of_locate (directory?_eq_some.1 h).1

/-- From a directory a relative path goes on where the path of the directory ends. -/
theorem locate_join_of_relative (h : disk.directory? dir = some location)
    (hpath : path.isAbsolute = false) :
    disk.locate (dir.join path) = walk disk.tree location path.parts := by
  have hdir : walk disk.tree (disk.start dir) dir.parts = .ok location := (directory?_eq_some.1 h).1
  have hjoin : disk.locate (dir.join path) =
      walk disk.tree (disk.start dir) (dir.parts ++ path.parts) := by
    rw [Path.join, hpath]
    rfl
  rw [hjoin, walk_append, hdir]
  rfl

/-- Where a path from a directory leads depends on the directory and not on how it is spelled. -/
theorem locate_join {other : Path} (h : disk.directory? dir = some location)
    (hother : disk.directory? other = some location) (path : Path) :
    disk.locate (dir.join path) = disk.locate (other.join path) := by
  cases habsolute : path.isAbsolute with
  | true => rw [Path.join_of_isAbsolute habsolute, Path.join_of_isAbsolute habsolute]
  | false => rw [locate_join_of_relative h habsolute, locate_join_of_relative hother habsolute]

theorem directory?_join {other : Path} (h : disk.directory? dir = some location)
    (hother : disk.directory? other = some location) (path : Path) :
    disk.directory? (dir.join path) = disk.directory? (other.join path) := by
  rw [directory?, directory?, locate_join h hother]

theorem readFile_join {other : Path} (h : disk.directory? dir = some location)
    (hother : disk.directory? other = some location) (path : Path) :
    disk.readFile (dir.join path) = disk.readFile (other.join path) := by
  rw [readFile, readFile, find, find, locate_join h hother]

end ModPack.Disk
