import ModPack.Proofs.CopyFrames

/-!
# Copies entry by entry

Copying the children of a directory copies each of them with everything below it, so a copy that
succeeds is a run over the entries below its source, each under the path that leads to it. The
source is apart from the target, so what is to be copied does not change on the way. Main statement:
`copyChildren_ok`.
-/
namespace ModPack

/-- Neither location is the other one or below it. -/
structure Location.Apart (first second : Location) : Prop where
  left : first.within second = false
  right : second.within first = false

/-- Of two places that hold one location, one holds the other. -/
theorem Location.within_or_within {location first second : Location}
    (h : location.within first = true) (h' : location.within second = true) :
    first.within second = true ∨ second.within first = true := by
  rw [within_iff, within_iff]
  rw [within_iff] at h h'
  exact List.suffix_or_suffix_of_suffix h' h

namespace Location.Apart

variable {first second inner location : Location}

theorem symm (h : Apart first second) : Apart second first :=
  ⟨h.right, h.left⟩

/-- Entries of one directory are apart. -/
theorem beside {name other : String} (h : name ≠ other) (parent : Location) :
    Apart (name :: parent) (other :: parent) :=
  ⟨within_beside h.symm, within_beside h⟩

/-- Nothing is in both of them. -/
theorem not_within (h : Apart first second) (hfirst : location.within first = true) :
    location.within second = false := by
  rw [Bool.eq_false_iff]
  intro hsecond
  rcases within_or_within hfirst hsecond with hwithin | hwithin
  · rw [h.left] at hwithin
    cases hwithin
  · rw [h.right] at hwithin
    cases hwithin

theorem mono (h : Apart first second) (hinner : inner.within first = true) :
    Apart inner second := by
  refine ⟨h.not_within hinner, ?_⟩
  rw [Bool.eq_false_iff]
  intro hwithin
  have hsecond : second.within second = true := within_refl _
  have hout := h.symm.not_within hsecond
  rw [within_trans hwithin hinner] at hout
  cases hout

end Location.Apart

namespace FileTree

variable {tree before after : FileTree} {location region inner : Location}

/-- The entries at a location and below it. -/
def inside (tree : FileTree) (region : Location) : List (Location × Entry) :=
  tree.entries.filter fun (key, _) => key.within region

/-- What is inside of a region stays when nothing changes outside of another one. -/
theorem inside_eq_of_outside_eq (h : after.outside region = before.outside region)
    (hapart : Location.Apart inner region) : after.inside inner = before.inside inner := by
  have hfilter (tree : FileTree) : tree.inside inner =
      (tree.outside region).filter fun (key, _) => key.within inner := by
    rw [inside, outside, List.filter_filter]
    refine List.filter_congr fun entry _ => ?_
    obtain ⟨key, entry⟩ := entry
    cases hkey : key.within inner with
    | false => simp [hkey]
    | true => simp [hkey, hapart.not_within hkey]
  rw [hfilter, hfilter, h]

theorem contents_eq_of_inside_eq (h : after.inside region = before.inside region)
    (hlocation : location.within region = true) :
    after.contents location = before.contents location := by
  have hinside (tree : FileTree) : tree.contents location =
      ((tree.inside region).filterMap fun (key, entry) =>
        if key.within location ∧ key ≠ location then
          some (key.take (key.length - location.length), entry)
        else none).mergeSort fun first second => first.1.length ≤ second.1.length := by
    rw [inside, List.filterMap_filter, contents]
    dsimp only
    congr 2
    funext ⟨key, entry⟩
    dsimp only
    split
    · next hkey =>
      have hwithin : key.within region = true := Location.within_trans hkey.1 hlocation
      rw [if_pos hwithin]
    · split <;> rfl
  rw [hinside, hinside, h]

theorem children_eq_of_inside_eq (h : after.inside region = before.inside region) :
    after.children region = before.children region := by
  have hinside (tree : FileTree) : (tree.inside region).filterMap (childOf? region) =
      tree.entries.filterMap (childOf? region) := by
    rw [inside, List.filterMap_filter]
    congr 1
    funext ⟨key, entry⟩
    cases key with
    | nil => simp [childOf?]
    | cons name parent =>
      by_cases hparent : parent = region
      · subst hparent
        have hwithin : Location.within (name :: parent) parent = true :=
          Location.within_cons _ _
        simp [hwithin]
      · simp [childOf?, hparent]
  rw [children_eq, children_eq, ← hinside after, ← hinside before, h]

/-- What is below a location is told by the path to it. -/
theorem mem_contents {path : Location} {entry : Entry} :
    (path, entry) ∈ tree.contents location ↔
      path ≠ [] ∧ (path ++ location, entry) ∈ tree.entries := by
  rw [contents, (List.mergeSort_perm _ _).mem_iff, List.mem_filterMap]
  constructor
  · rintro ⟨⟨key, found⟩, hmem, hkey⟩
    dsimp only at hkey
    split at hkey
    · next hbelow =>
      obtain ⟨hwithin, hne⟩ := hbelow
      cases hkey
      obtain ⟨front, rfl⟩ := Location.within_iff.1 hwithin
      have htake : (front ++ location).take ((front ++ location).length - location.length) =
          front := by simp
      rw [htake]
      refine ⟨?_, hmem⟩
      rintro rfl
      exact hne rfl
    · cases hkey
  · rintro ⟨hne, hmem⟩
    have hkey : path ++ location ≠ location := by
      intro heq
      exact hne (List.append_left_eq_self.1 heq)
    refine ⟨_, hmem, ?_⟩
    dsimp only
    rw [if_pos ⟨Location.within_append _ _, hkey⟩]
    simp

theorem mem_children_iff {name : String} {entry : Entry} :
    (name, entry) ∈ tree.children location ↔ (name :: location, entry) ∈ tree.entries := by
  refine ⟨mem_children, fun hmem => ?_⟩
  exact (children_perm tree location).mem_iff.2
    (List.mem_filterMap.2 ⟨_, hmem, by simp [childOf?]⟩)

/-- What comes with a child that is copied: below a directory all that it holds. -/
def withContents (tree : FileTree) (location : Location) :
    String × Entry → List (Location × Entry)
  | (name, .directory) => ([name], .directory) ::
      (tree.contents (name :: location)).map fun (path, entry) => (path ++ [name], entry)
  | (name, .file content) => [([name], .file content)]

/-- Everything below a location in the order in which it is copied, each entry under the path that
leads to it. -/
def below (tree : FileTree) (location : Location) : List (Location × Entry) :=
  (tree.children location).flatMap (tree.withContents location)

theorem withContents_subset {child : String × Entry}
    (h : ∀ entry ∈ after.entries, entry.1.within location = true → entry ∈ before.entries) :
    after.withContents location child ⊆ before.withContents location child := by
  obtain ⟨name, entry⟩ := child
  cases entry with
  | file content => exact List.Subset.refl _
  | directory =>
    refine List.cons_subset_cons _ (List.map_subset _ ?_)
    rintro ⟨path, entry⟩ hmem
    obtain ⟨hne, hmem⟩ := mem_contents.1 hmem
    exact mem_contents.2 ⟨hne, h _ hmem (Location.append_within _ (Location.within_cons _ _))⟩

/-- Less lies below a location in a tree that holds less there. -/
theorem below_subset
    (h : ∀ entry ∈ after.entries, entry.1.within location = true → entry ∈ before.entries) :
    after.below location ⊆ before.below location := by
  intro item hmem
  obtain ⟨⟨name, entry⟩, hchild, hitem⟩ := List.mem_flatMap.1 hmem
  have hkey := mem_children_iff.1 hchild
  have hwithin : Location.within (name :: location) location = true :=
    Location.within_cons _ _
  exact List.mem_flatMap.2
    ⟨(name, entry), mem_children_iff.2 (h _ hkey hwithin), withContents_subset h hitem⟩

end FileTree

namespace Disk

variable {α : Type} {disk before after : Disk} {source target path : Location} {entry : Entry}

/-- Copies entries in order, each under the path that leads to it. -/
def copyEntries (source target : Location) (items : List (Location × Entry)) : Op Unit :=
  items.forM fun item => copyEntry source target item.1 item.2

theorem copyEntries_cons (source target : Location) (item : Location × Entry)
    (items : List (Location × Entry)) :
    copyEntries source target (item :: items) =
      copyEntry source target item.1 item.2 >>= fun _ => copyEntries source target items := rfl

theorem copyEntries_append (source target : Location) (items others : List (Location × Entry)) :
    copyEntries source target (items ++ others) =
      copyEntries source target items >>= fun _ => copyEntries source target others :=
  List.forM_append

/-- A sequence whose first part gives no value. -/
theorem outcome_seq_ok {first : Op Unit} {next : Unit → Op α} {value : α} :
    outcome (first >>= next) disk = (.ok value, after) ↔
      ∃ between, outcome first disk = (.ok (), between) ∧
        outcome (next ()) between = (.ok value, after) := by
  rw [outcome_bind_ok]
  exact ⟨fun ⟨(), h⟩ => h, fun h => ⟨(), h⟩⟩

/-- Work on all items that is not to stop at a failure went well when every piece of it did. The
induction is on the items. -/
theorem mapM_tryCatch_ok {items : List α} {work : α → Op Unit} :
    (∃ flags : List Bool, outcome (items.mapM fun item =>
        tryCatch (do work item; pure true) fun _ => pure false) disk = (.ok flags, after) ∧
        flags.all id = true) ↔ outcome (items.forM work) disk = (.ok (), after) := by
  induction items generalizing disk with
  | nil =>
    constructor
    · rintro ⟨flags, h, _⟩
      cases h
      rfl
    · intro h
      cases h
      exact ⟨[], rfl, rfl⟩
  | cons item items ih =>
    have hone : outcome (tryCatch (do work item; pure true) fun _ => pure false) disk =
        match outcome (work item) disk with
        | (.ok (), between) => (.ok true, between)
        | (.error _, between) => (.ok false, between) := by
      rw [outcome_tryCatch, outcome_bind]
      rcases outcome (work item) disk with ⟨_ | _, _⟩ <;> rfl
    have hcons : (item :: items).forM work = work item >>= fun _ => items.forM work := rfl
    rw [List.mapM_cons, hcons]
    simp only [outcome_bind, hone]
    rcases outcome (work item) disk with ⟨error | done, between⟩
    · dsimp only
      constructor
      · rintro ⟨flags, h, hall⟩
        split at h
        · cases h
          cases hall
        · cases h
      · intro h
        cases h
    · dsimp only
      rw [← ih]
      constructor
      · rintro ⟨flags, h, hall⟩
        split at h
        · next flags' between' hrest =>
          cases h
          exact ⟨flags', hrest, hall⟩
        · cases h
      · rintro ⟨flags, h, hall⟩
        rw [h]
        exact ⟨true :: flags, rfl, hall⟩

/-- An entry below a child of the source is copied as one below the source. -/
theorem copyEntry_append (source target path : Location) (name : String) (entry : Entry)
    (h : path ≠ []) :
    copyEntry (name :: source) (name :: target) path entry =
      copyEntry source target (path ++ [name]) entry := by
  obtain ⟨top, rest, rfl⟩ := List.exists_cons_of_ne_nil h
  simp [copyEntry]

theorem copyEntries_append_name (source target : Location) (name : String)
    {items : List (Location × Entry)} (h : ∀ item ∈ items, item.1 ≠ []) :
    copyEntries source target (items.map fun (path, entry) => (path ++ [name], entry)) =
      copyEntries (name :: source) (name :: target) items := by
  induction items with
  | nil => rfl
  | cons item items ih =>
    obtain ⟨hitem, hrest⟩ := List.forall_mem_cons.1 h
    rw [List.map_cons, copyEntries_cons, copyEntries_cons, ih hrest,
      copyEntry_append _ _ _ _ _ hitem]

/-- A directory is copied as an entry of the directory around it, with all its contents. -/
theorem copyTree_ok {name : String} (h : disk.tree.isDirectory target = true) :
    outcome (copyTree (name :: source) (name :: target)) disk = (.ok (), after) ↔
      outcome (copyEntries source target (disk.tree.withContents source (name, .directory))) disk =
        (.ok (), after) := by
  have henter : outcome (copyEntry source target [name] .directory) disk =
      outcome (enter (name :: target)) disk := by
    rw [outcome_copyEntry]
    exact if_pos h
  have hpaths : ∀ item ∈ disk.tree.contents (name :: source), item.1 ≠ [] :=
    fun item hitem => (FileTree.mem_contents.1 hitem).1
  have hrun (between : Disk) :
      outcome (copyEntries (name :: source) (name :: target)
        (disk.tree.contents (name :: source))) between = (.ok (), after) ↔ _ :=
    mapM_tryCatch_ok.symm
  rw [FileTree.withContents, copyEntries_cons, outcome_seq_ok, henter,
    copyEntries_append_name _ _ _ hpaths]
  simp only [hrun]
  unfold copyTree
  rw [outcome_get_bind, outcome_seq_ok]
  refine exists_congr fun between => and_congr_right fun _ => ?_
  rw [outcome_bind_ok]
  refine exists_congr fun flags => ?_
  constructor
  · rintro ⟨copied, hcopied, hend⟩
    split at hend
    · next hall =>
      cases hend
      exact ⟨hcopied, hall⟩
    · cases hend
  · rintro ⟨hcopied, hall⟩
    refine ⟨after, hcopied, ?_⟩
    rw [if_pos hall]
    rfl

/-- Copies a child of a directory under its name. -/
def copyChild (source target : Location) : String × Entry → Op Unit
  | (name, .directory) => copyTree (name :: source) (name :: target)
  | (name, .file content) => copyFile (name :: source) content (name :: target)

/-- A child is copied with its contents. -/
theorem copyChild_ok {child : String × Entry} (h : disk.tree.isDirectory target = true) :
    outcome (copyChild source target child) disk = (.ok (), after) ↔
      outcome (copyEntries source target (disk.tree.withContents source child)) disk =
        (.ok (), after) := by
  obtain ⟨name, entry⟩ := child
  cases entry with
  | directory => exact copyTree_ok h
  | file content =>
    have hone : outcome (copyEntry source target [name] (.file content)) disk =
        outcome (copyFile (name :: source) content (name :: target)) disk := by
      rw [outcome_copyEntry]
      exact if_pos h
    rw [FileTree.withContents, copyEntries_cons, outcome_seq_ok, hone]
    constructor
    · intro hcopy
      exact ⟨after, hcopy, rfl⟩
    · rintro ⟨between, hcopy, hend⟩
      cases hend
      exact hcopy

theorem copyEntries_puts (source target : Location) (items : List (Location × Entry))
    (disk : Disk) : Puts target disk (outcome (copyEntries source target items) disk).2 := by
  induction items generalizing disk with
  | nil => exact .refl
  | cons item items ih =>
    have hself : target.within target = true := Location.within_refl _
    rw [copyEntries_cons]
    exact puts_bind (copyEntry_puts _ _ _ hself) fun _ between _ => ih between

/-- The children of a directory are copied one after the other. The induction is on the children
that are left; what is below the source stays as it is. -/
theorem copyChildren_loop {tree : FileTree} (hapart : Location.Apart source target)
    {items : List (String × Entry)} (hdirectory : disk.tree.isDirectory target = true)
    (hinside : disk.tree.inside source = tree.inside source) :
    outcome (items.forM (copyChild source target)) disk = (.ok (), after) ↔
      outcome (copyEntries source target (items.flatMap (tree.withContents source))) disk =
        (.ok (), after) := by
  induction items generalizing disk with
  | nil => rfl
  | cons item items ih =>
    have hcons : (item :: items).forM (copyChild source target) =
        copyChild source target item >>= fun _ => items.forM (copyChild source target) := rfl
    have hitem : disk.tree.withContents source item = tree.withContents source item := by
      obtain ⟨name, entry⟩ := item
      have hwithin : Location.within (name :: source) source = true :=
        Location.within_cons _ _
      cases entry with
      | directory => simp [FileTree.withContents, FileTree.contents_eq_of_inside_eq hinside hwithin]
      | file content => rfl
    rw [hcons, List.flatMap_cons, copyEntries_append, outcome_seq_ok, outcome_seq_ok]
    refine exists_congr fun between => ?_
    rw [copyChild_ok hdirectory, hitem]
    refine and_congr_right fun hrun => ?_
    have hputs := copyEntries_puts source target (tree.withContents source item) disk
    rw [hrun] at hputs
    refine ih (hputs.keeps.directories _ hdirectory) ?_
    rw [FileTree.inside_eq_of_outside_eq hputs.keepsOutside.outside hapart, hinside]

theorem forIn_yield {α : Type} (items : List α) (work : α → Op Unit) :
    (forIn items PUnit.unit fun item _ => do
      work item
      pure (ForInStep.yield PUnit.unit)) = items.forM work := by
  induction items with
  | nil => rfl
  | cons item items ih =>
    have hcons : (item :: items).forM work = work item >>= fun _ => items.forM work := rfl
    rw [hcons, ← ih, List.forIn_cons]
    simp

/-- A copy that succeeds is a run over the entries below its source. -/
theorem copyChildren_ok {dir path : Path} (hdir : disk.directory? dir = some source)
    (hpath : disk.directory? path = some target) (hapart : Location.Apart source target) :
    outcome (copyChildren dir path) disk = (.ok (), after) ↔
      outcome (copyEntries source target (disk.tree.below source)) disk = (.ok (), after) := by
  have hfind {path : Path} {location : Location} (h : disk.directory? path = some location) :
      disk.find path = .ok (location, .directory) := by
    obtain ⟨hlocate, hdirectory⟩ := directory?_eq_some.1 h
    exact find_ok.2 ⟨hlocate, FileTree.isDirectory_iff.1 hdirectory⟩
  have hlist : disk.list dir = .ok (disk.tree.children source) := list_ok.2 ⟨source, hdir, rfl⟩
  have hrun : outcome (copyChildren dir path) disk =
      outcome ((disk.tree.children source).forM (copyChild source target)) disk := by
    unfold copyChildren
    rw [outcome_get_bind, hlist, outcome_ofExcept_bind]
    dsimp only
    rw [hfind hdir, outcome_ofExcept_bind]
    dsimp only
    rw [hfind hpath, outcome_ofExcept_bind]
    dsimp only
    rw [bind_pure_unit, ← forIn_yield]
    congr 2
    funext ⟨name, entry⟩ _
    cases entry <;> rfl
  rw [hrun]
  exact copyChildren_loop hapart (directory?_eq_some.1 hpath).2 rfl

end Disk

end ModPack
