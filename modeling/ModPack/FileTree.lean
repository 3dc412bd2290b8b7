import ModPack.Path

/-!
# File trees

A finite tree of directories and files, kept as a list of entries under their locations. A location
names its components from the innermost outwards, so a parent is a tail and everything below a
directory has it as a suffix. The root is always a directory. Main statements: what a lookup finds
after an entry is put, and that every directory a lookup finds is in the list of directories.
-/
namespace ModPack

/-- A place in a tree, innermost component first; the root is the empty list. -/
abbrev Location := List String

inductive Entry
  | directory
  | file (content : ByteArray)
  deriving Inhabited

instance : DecidableEq Entry
  | .directory, .directory => isTrue rfl
  | .directory, .file _ => isFalse Entry.noConfusion
  | .file _, .directory => isFalse Entry.noConfusion
  | .file first, .file second =>
    match ByteArray.instDecidableEq first second with
    | isTrue h => isTrue (congrArg Entry.file h)
    | isFalse h => isFalse fun hfile => h (Entry.file.inj hfile)

structure FileTree where
  entries : List (Location × Entry) := []
  deriving DecidableEq, Inhabited

def Location.toPath (location : Location) : Path :=
  ⟨.root, location.reverse⟩

/-- `below` is `above` or lies under it. -/
def Location.within (below above : Location) : Bool :=
  above.isSuffixOf below

namespace FileTree

def get? (tree : FileTree) (location : Location) : Option Entry :=
  if location = [] then some .directory else tree.entries.lookup location

def isDirectory (tree : FileTree) (location : Location) : Bool :=
  tree.get? location = some .directory

/-- Replaces the entry of a location, or adds it behind the others. -/
def putEntry (location : Location) (entry : Entry) :
    List (Location × Entry) → List (Location × Entry)
  | [] => [(location, entry)]
  | (key, old) :: rest =>
    if key = location then (location, entry) :: rest else (key, old) :: putEntry location entry rest

def put (tree : FileTree) (location : Location) (entry : Entry) : FileTree :=
  ⟨putEntry location entry tree.entries⟩

/-- The tree without a location and everything below it. -/
def remove (tree : FileTree) (location : Location) : FileTree :=
  ⟨tree.entries.filter fun (key, _) => !key.within location⟩

/-- Names and entries directly inside a directory, ordered by name. -/
def children (tree : FileTree) (location : Location) : List (String × Entry) :=
  let inside := tree.entries.filterMap fun (key, entry) =>
    match key with
    | name :: parent => if parent = location then some (name, entry) else none
    | [] => none
  inside.mergeSort fun first second => first.1 ≤ second.1

/-- Everything strictly below a location, each entry under the path that leads to it from there
(innermost component first), directories before what they hold. -/
def contents (tree : FileTree) (location : Location) : List (Location × Entry) :=
  let inside := tree.entries.filterMap fun (key, entry) =>
    if key.within location ∧ key ≠ location then
      some (key.take (key.length - location.length), entry)
    else none
  inside.mergeSort fun first second => first.1.length ≤ second.1.length

/-- The locations of all directories. -/
def directories (tree : FileTree) : List Location :=
  [] :: tree.entries.filterMap fun (key, entry) => if entry = .directory then some key else none

theorem lookup_putEntry (location other : Location) (entry : Entry)
    (entries : List (Location × Entry)) :
    (putEntry location entry entries).lookup other =
      if other = location then some entry else entries.lookup other := by
  induction entries with
  | nil => by_cases h : other = location <;> simp [putEntry, List.lookup_cons, h, beq_eq_false_iff_ne.2]
  | cons head rest ih =>
    obtain ⟨key, old⟩ := head
    rw [putEntry]
    split
    · next hkey =>
      subst hkey
      by_cases h : other = key <;> simp [List.lookup_cons, h, beq_eq_false_iff_ne.2]
    · next hkey =>
      by_cases h : other = key
      · subst h; simp [hkey]
      · simp [List.lookup_cons, beq_eq_false_iff_ne.2 h, ih]

theorem get?_put (tree : FileTree) (location other : Location) (entry : Entry)
    (h : location ≠ []) :
    (tree.put location entry).get? other =
      if other = location then some entry else tree.get? other := by
  by_cases hroot : other = []
  · subst hroot; simp [get?, Ne.symm h]
  · simp [get?, hroot, put, lookup_putEntry]

theorem mem_directories_of_isDirectory {tree : FileTree} {location : Location}
    (h : tree.isDirectory location = true) : location ∈ tree.directories := by
  have h : tree.get? location = some .directory := of_decide_eq_true h
  rw [get?] at h
  split at h
  · next hroot => simp [directories, hroot]
  · obtain ⟨before, after, hentries, -⟩ := List.lookup_eq_some_iff.1 h
    refine List.mem_cons_of_mem _ (List.mem_filterMap.2 ⟨(location, .directory), ?_, by simp⟩)
    simp [hentries]

end FileTree

end ModPack
