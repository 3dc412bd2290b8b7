import ModPack.Proofs.DiskSteps
import ModPack.Proofs.ManifestOrder
import ModPack.Yaml.Document

/-!
# Disks that differ in the order of declarations

Two disks hold the same, except that manifests at some locations have their dependencies in another
order. Every path leads to the same place on both, and what is found there is the same or two such
manifests; what is put on one disk and on the other keeps them so. Paths are compared by where they
lead, since one directory may be reached in several ways. Main statements: `Reordered.locate_eq`,
`Aligned.locate_join` and `Reordered.withEntry`.
-/
namespace ModPack

/-- Lists that are related item by item stay so when both are sorted by what related items agree
on. -/
theorem forall₂_mergeSort {α β : Type} {R : α → β → Prop} {le : α → α → Bool} {le' : β → β → Bool}
    {items : List α} {others : List β} (h : List.Forall₂ R items others)
    (hle : ∀ first other second another, R first other → R second another →
      le first second = le' other another) :
    List.Forall₂ R (items.mergeSort le) (others.mergeSort le') := by
  -- Both lists are columns of one list of related pairs.
  obtain ⟨pairs, rfl, rfl⟩ : ∃ pairs : List { pair : α × β // R pair.1 pair.2 },
      pairs.map (·.1.1) = items ∧ pairs.map (·.1.2) = others := by
    induction h with
    | nil => exact ⟨[], rfl, rfl⟩
    | cons hhead _ ih =>
      obtain ⟨pairs, rfl, rfl⟩ := ih
      exact ⟨⟨(_, _), hhead⟩ :: pairs, rfl, rfl⟩
  have hfirst := List.map_mergeSort (r := fun pair other => le pair.1.1 other.1.1)
    (s := le) (f := fun pair : { pair : α × β // R pair.1 pair.2 } => pair.1.1) (l := pairs)
    fun _ _ _ _ => rfl
  have hsecond := List.map_mergeSort (r := fun pair other => le pair.1.1 other.1.1)
    (s := le') (f := fun pair : { pair : α × β // R pair.1 pair.2 } => pair.1.2) (l := pairs)
    fun pair _ other _ => hle _ _ _ _ pair.2 other.2
  rw [← hfirst, ← hsecond, List.forall₂_map_left_iff, List.forall₂_map_right_iff]
  exact List.forall₂_same.2 fun pair _ => pair.2

theorem exists_of_forall₂_left {α β : Type} {R : α → β → Prop} {items : List α} {others : List β}
    {item : α} (h : List.Forall₂ R items others) (hmem : item ∈ items) :
    ∃ other ∈ others, R item other := by
  induction h with
  | nil => cases hmem
  | cons hhead _ ih =>
    rcases List.mem_cons.1 hmem with rfl | hmem
    · exact ⟨_, List.mem_cons_self, hhead⟩
    · obtain ⟨other, hother, hrel⟩ := ih hmem
      exact ⟨other, List.mem_cons_of_mem _ hother, hrel⟩

theorem exists_of_forall₂_right {α β : Type} {R : α → β → Prop} {items : List α} {others : List β}
    {other : β} (h : List.Forall₂ R items others) (hmem : other ∈ others) :
    ∃ item ∈ items, R item other :=
  exists_of_forall₂_left h.flip hmem

theorem exists_of_optionRel {α β : Type} {R : α → β → Prop} {item : α} {found : Option β}
    (h : Option.Rel R (some item) found) : ∃ other, found = some other ∧ R item other := by
  cases h with
  | some hrel => exact ⟨_, rfl, hrel⟩

theorem eq_none_of_optionRel {α β : Type} {R : α → β → Prop} {found : Option β}
    (h : Option.Rel R none found) : found = none := by
  cases h
  rfl

/-- The same entry twice, or, where manifests may differ, files with documents that differ in the
order of their dependencies. -/
inductive Entry.Reordered (allowed : Prop) : Entry → Entry → Prop
  | same (entry : Entry) : Reordered allowed entry entry
  | manifest {content other : ByteArray} {document renewed : Value} (moved : allowed)
      (read : Yaml.read content = .ok document) (readOther : Yaml.read other = .ok renewed)
      (documents : Manifest.Reordered document renewed) :
      Reordered allowed (.file content) (.file other)

namespace Entry.Reordered

variable {allowed : Prop} {entry other : Entry}

theorem symm (h : Reordered allowed entry other) : Reordered allowed other entry := by
  cases h with
  | same => exact .same entry
  | manifest moved read readOther documents => exact .manifest moved readOther read documents.symm

theorem directory_iff (h : Reordered allowed entry other) :
    other = .directory ↔ entry = .directory := by
  cases h with
  | same => exact Iff.rfl
  | manifest => exact ⟨nofun, nofun⟩

theorem eq_of_not (h : Reordered allowed entry other) (hnot : ¬ allowed) : other = entry := by
  cases h with
  | same => rfl
  | manifest moved => exact absurd moved hnot

end Entry.Reordered

/-- The same entries under the same locations, but for manifests at the locations `moved`. -/
def FileTree.Reordered (moved : Location → Prop) (first second : FileTree) : Prop :=
  List.Forall₂ (fun old new => old.1 = new.1 ∧ Entry.Reordered (moved old.1) old.2 new.2)
    first.entries second.entries

/-- What a listing shows of two such trees, seen from a location. -/
def Listed {κ : Type} (moved : κ → Prop) (old new : κ × Entry) : Prop :=
  old.1 = new.1 ∧ Entry.Reordered (moved old.1) old.2 new.2

namespace FileTree.Reordered

variable {moved : Location → Prop} {first second : FileTree} {location : Location} {entry : Entry}

theorem refl (moved : Location → Prop) (tree : FileTree) : Reordered moved tree tree :=
  List.forall₂_same.2 fun entry _ => ⟨rfl, .same entry.2⟩

theorem symm (h : Reordered moved first second) : Reordered moved second first := by
  refine (List.Forall₂.flip h).imp ?_
  rintro ⟨key, entry⟩ ⟨_, other⟩ ⟨rfl, hentry⟩
  exact ⟨rfl, hentry.symm⟩

theorem get? (h : Reordered moved first second) (location : Location) :
    Option.Rel (Entry.Reordered (moved location)) (first.get? location) (second.get? location) := by
  by_cases hroot : location = []
  · rw [FileTree.get?, FileTree.get?, if_pos hroot, if_pos hroot]
    exact .some (.same _)
  rw [FileTree.get?, FileTree.get?, if_neg hroot, if_neg hroot]
  obtain ⟨entries⟩ := first
  obtain ⟨others⟩ := second
  change List.Forall₂ _ entries others at h
  induction h with
  | nil => exact .none
  | @cons old new olds news hhead _ ih =>
    obtain ⟨key, entry⟩ := old
    obtain ⟨_, other⟩ := new
    obtain ⟨rfl, hentry⟩ := hhead
    rw [List.lookup_cons, List.lookup_cons]
    by_cases hkey : location = key
    · subst hkey
      simpa using hentry
    · rw [beq_eq_false_iff_ne.2 hkey]
      exact ih

theorem get?_eq_some (h : Reordered moved first second) (hfound : first.get? location = some entry) :
    ∃ other, second.get? location = some other ∧
      Entry.Reordered (moved location) entry other := by
  have hrel := h.get? location
  rw [hfound] at hrel
  exact exists_of_optionRel hrel

theorem get?_eq_none (h : Reordered moved first second) (hnone : first.get? location = none) :
    second.get? location = none := by
  have hrel := h.get? location
  rw [hnone] at hrel
  exact eq_none_of_optionRel hrel

theorem isDirectory_eq (h : Reordered moved first second) (location : Location) :
    second.isDirectory location = first.isDirectory location := by
  rw [isDirectory, isDirectory]
  cases hfound : first.get? location with
  | none => rw [h.get?_eq_none hfound]
  | some entry =>
    obtain ⟨other, hother, hentry⟩ := h.get?_eq_some hfound
    rw [hother]
    simp [hentry.directory_iff]

theorem put (h : Reordered moved first second) (location : Location) (entry : Entry) :
    Reordered moved (first.put location entry) (second.put location entry) := by
  obtain ⟨entries⟩ := first
  obtain ⟨others⟩ := second
  change List.Forall₂ _ entries others at h
  change List.Forall₂ _ (putEntry location entry entries) (putEntry location entry others)
  induction h with
  | nil => exact .cons ⟨rfl, .same entry⟩ .nil
  | @cons old new olds news hhead htail ih =>
    obtain ⟨key, found⟩ := old
    obtain ⟨_, other⟩ := new
    obtain ⟨rfl, hentry⟩ := hhead
    rw [putEntry, putEntry]
    split
    · exact .cons ⟨rfl, .same entry⟩ htail
    · exact .cons ⟨rfl, hentry⟩ ih

/-- A tree in which one manifest is put anew. -/
theorem of_put {tree : FileTree} {old new : Entry} (hlocation : location ≠ [])
    (hfound : tree.get? location = some old) (h : Entry.Reordered (moved location) old new) :
    Reordered moved tree (tree.put location new) := by
  obtain ⟨entries⟩ := tree
  rw [FileTree.get?, if_neg hlocation] at hfound
  change List.Forall₂ _ entries (putEntry location new entries)
  change entries.lookup location = some old at hfound
  induction entries with
  | nil => cases hfound
  | cons head rest ih =>
    obtain ⟨key, entry⟩ := head
    rw [putEntry]
    by_cases hkey : key = location
    · subst hkey
      rw [List.lookup_cons_self] at hfound
      cases hfound
      rw [if_pos rfl]
      exact .cons ⟨rfl, h⟩ (List.forall₂_same.2 fun entry _ => ⟨rfl, .same entry.2⟩)
    · rw [List.lookup_cons, beq_eq_false_iff_ne.2 (Ne.symm hkey)] at hfound
      rw [if_neg hkey]
      exact .cons ⟨rfl, .same entry⟩ (ih hfound)

theorem remove (h : Reordered moved first second) (region : Location) :
    Reordered moved (first.remove region) (second.remove region) := by
  refine List.rel_filter ?_ h
  rintro ⟨key, entry⟩ ⟨_, other⟩ ⟨rfl, _⟩
  exact Iff.rfl

/-- The listings of a directory show the same names. -/
theorem children (h : Reordered moved first second) (location : Location) :
    List.Forall₂ (Listed fun name => moved (name :: location)) (first.children location)
      (second.children location) := by
  unfold FileTree.children
  refine forall₂_mergeSort (List.rel_filterMap ?_ h) ?_
  · rintro ⟨key, entry⟩ ⟨_, other⟩ ⟨rfl, hentry⟩
    cases key with
    | nil => exact .none
    | cons name parent =>
      dsimp only
      split
      · next hparent =>
        subst hparent
        exact .some ⟨rfl, hentry⟩
      · exact .none
  · rintro ⟨name, _⟩ ⟨_, _⟩ ⟨another, _⟩ ⟨_, _⟩ ⟨rfl, _⟩ ⟨rfl, _⟩
    rfl

/-- So do the listings of all that is below it. -/
theorem contents (h : Reordered moved first second) (location : Location) :
    List.Forall₂ (Listed fun path => moved (path ++ location)) (first.contents location)
      (second.contents location) := by
  unfold FileTree.contents
  refine forall₂_mergeSort (List.rel_filterMap ?_ h) ?_
  · rintro ⟨key, entry⟩ ⟨_, other⟩ ⟨rfl, hentry⟩
    dsimp only
    split
    · next hbelow =>
      obtain ⟨path, rfl⟩ := Location.within_iff.1 hbelow.1
      have htake : (path ++ location).take ((path ++ location).length - location.length) = path := by
        simp
      rw [htake]
      exact .some ⟨rfl, hentry⟩
    · exact .none
  · rintro ⟨path, _⟩ ⟨_, _⟩ ⟨another, _⟩ ⟨_, _⟩ ⟨rfl, _⟩ ⟨rfl, _⟩
    rfl

end FileTree.Reordered

/-- Listings agree when nothing in them may differ. -/
theorem eq_of_listed {κ : Type} {moved : κ → Prop} {listing other : List (κ × Entry)}
    (h : List.Forall₂ (Listed moved) listing other) (hnot : ∀ key, ¬ moved key) :
    other = listing := by
  induction h with
  | nil => rfl
  | @cons old new _ _ hhead _ ih =>
    obtain ⟨key, entry⟩ := old
    obtain ⟨_, found⟩ := new
    obtain ⟨rfl, hentry⟩ := hhead
    have hsame : found = entry := hentry.eq_of_not (hnot key)
    rw [ih, hsame]

namespace Disk

/-- Two disks that hold the same, but for the order of dependencies in the manifests at the
locations `moved`. -/
structure Reordered (manifestName : String) (moved : Location → Prop) (first second : Disk) :
    Prop where
  named : ∀ location, moved location → location.head? = some manifestName
  workingDirectory : second.workingDirectory = first.workingDirectory
  tree : first.tree.Reordered moved second.tree

variable {manifestName : String} {moved : Location → Prop} {first second : Disk}
  {path other dir otherDir : Path} {location here : Location}

namespace Reordered

theorem refl (manifestName : String) (disk : Disk) :
    Reordered manifestName (fun _ => False) disk disk :=
  ⟨fun _ h => h.elim, rfl, .refl _ disk.tree⟩

theorem symm (h : Reordered manifestName moved first second) :
    Reordered manifestName moved second first :=
  ⟨h.named, h.workingDirectory.symm, h.tree.symm⟩

theorem walk_eq (h : Reordered manifestName moved first second) (here : Location)
    (parts : List String) : walk second.tree here parts = walk first.tree here parts := by
  induction parts generalizing here with
  | nil => rfl
  | cons part rest ih =>
    rw [walk, walk]
    cases hfound : first.tree.get? here with
    | none => rw [h.tree.get?_eq_none hfound]
    | some entry =>
      obtain ⟨other, hother, hentry⟩ := h.tree.get?_eq_some hfound
      rw [hother]
      cases hentry with
      | same =>
        cases entry with
        | directory => exact ih _
        | file content => rfl
      | manifest => rfl

theorem start_eq (h : Reordered manifestName moved first second) (path : Path) :
    second.start path = first.start path := by
  rw [start, start, h.workingDirectory]

theorem spot_eq (h : Reordered manifestName moved first second) (path : Path) :
    second.spot path = first.spot path := by
  rw [spot, spot, h.start_eq]

theorem locate_eq (h : Reordered manifestName moved first second) (path : Path) :
    second.locate path = first.locate path := by
  change walk second.tree (second.start path) path.parts = walk first.tree (first.start path) _
  rw [h.start_eq, h.walk_eq]

theorem withEntry (h : Reordered manifestName moved first second) (location : Location)
    (entry : Entry) :
    Reordered manifestName moved (first.withEntry location entry)
      (second.withEntry location entry) :=
  ⟨h.named, h.workingDirectory, h.tree.put location entry⟩

theorem without (h : Reordered manifestName moved first second) (location : Location) :
    Reordered manifestName moved (first.without location) (second.without location) :=
  ⟨h.named, h.workingDirectory, h.tree.remove location⟩

section Place

variable (h : Reordered manifestName moved first second)
  (hplace : second.locate other = first.locate path)
include h hplace

theorem directory?_eq : second.directory? other = first.directory? path := by
  rw [directory?, directory?, hplace]
  cases first.locate path with
  | error error => rfl
  | ok location => simp only [h.tree.isDirectory_eq]

theorem isDirectory_eq : second.isDirectory other = first.isDirectory path := by
  rw [isDirectory, isDirectory, h.directory?_eq hplace]

theorem find_ok {entry : Entry} (hfind : first.find path = .ok (location, entry)) :
    ∃ found, second.find other = .ok (location, found) ∧
      Entry.Reordered (moved location) entry found := by
  obtain ⟨hlocate, hentry⟩ := Disk.find_ok.1 hfind
  obtain ⟨found, hfound, hrel⟩ := h.tree.get?_eq_some hentry
  exact ⟨found, Disk.find_ok.2 ⟨hplace.trans hlocate, hfound⟩, hrel⟩

theorem find_error {error : OsError} (hfind : first.find path = .error error) :
    second.find other = .error error := by
  rw [Disk.find_error, hplace]
  refine (Disk.find_error.1 hfind).imp id ?_
  rintro ⟨location, hlocate, hmissing, herror⟩
  exact ⟨location, hlocate, h.tree.get?_eq_none hmissing, herror⟩

theorem pathExists_eq : second.pathExists other = first.pathExists path := by
  rw [pathExists, pathExists]
  cases hfind : first.find path with
  | error error => rw [h.find_error hplace hfind]
  | ok found =>
    obtain ⟨entry, hentry, _⟩ := h.find_ok hplace hfind
    rw [hentry]
    rfl

/-- What can be read on one disk can be read on the other. -/
theorem readFile_ok {content : ByteArray} (hread : first.readFile path = .ok content) :
    ∃ location found, first.locate path = .ok location ∧ second.readFile other = .ok found ∧
      Entry.Reordered (moved location) (.file content) (.file found) := by
  obtain ⟨location, hlocate, hentry⟩ := Disk.readFile_ok.1 hread
  obtain ⟨entry, hfound, hrel⟩ := h.tree.get?_eq_some hentry
  have hother := hplace.trans hlocate
  cases hrel with
  | same =>
    exact ⟨location, content, hlocate, Disk.readFile_ok.2 ⟨location, hother, hfound⟩, .same _⟩
  | manifest moved read readOther documents =>
    exact ⟨location, _, hlocate, Disk.readFile_ok.2 ⟨location, hother, hfound⟩,
      .manifest moved read readOther documents⟩

/-- A file that is no manifest by its name is the same on both disks. -/
theorem readFile_eq {content : ByteArray} (hread : first.readFile path = .ok content)
    (hname : ∀ location, first.locate path = .ok location → ¬ moved location) :
    second.readFile other = .ok content := by
  obtain ⟨location, found, hlocate, hfound, hrel⟩ := h.readFile_ok hplace hread
  cases hrel.eq_of_not (hname location hlocate)
  exact hfound

theorem list_ok {listing : List (String × Entry)} (hlist : first.list path = .ok listing) :
    ∃ location others, first.directory? path = some location ∧ second.list other = .ok others ∧
      List.Forall₂ (Listed fun name => moved (name :: location)) listing others := by
  obtain ⟨location, hdirectory, rfl⟩ := Disk.list_ok.1 hlist
  have hother := (h.directory?_eq hplace).trans hdirectory
  exact ⟨location, _, hdirectory, Disk.list_ok.2 ⟨location, hother, rfl⟩, h.tree.children location⟩

end Place

end Reordered

/-- Two paths to one directory, each on its own disk. -/
def Aligned (first second : Disk) (dir other : Path) : Prop :=
  ∃ location, first.directory? dir = some location ∧ second.directory? other = some location

/-- Whatever is reached from paths to one directory is one place. -/
theorem Aligned.locate_join (h : Aligned first second dir otherDir)
    (hdisks : Reordered manifestName moved first second) (path : Path) :
    second.locate (otherDir.join path) = first.locate (dir.join path) := by
  obtain ⟨location, hdir, hother⟩ := h
  cases habsolute : path.isAbsolute with
  | true =>
    rw [Path.join_of_isAbsolute habsolute, Path.join_of_isAbsolute habsolute]
    exact hdisks.locate_eq path
  | false =>
    rw [locate_join_of_relative hdir habsolute, locate_join_of_relative hother habsolute]
    exact hdisks.walk_eq location path.parts

end Disk

end ModPack
