import ModPack.FileTree

/-!
# What stays of a file tree when it changes

Writing below a location leaves alone what is outside it, in the lookups as well as in the listings
of directories. In a rooted tree every entry lies in a directory, so nothing lies below a location
that is missing. Main statements: `outside_put`, `Rooted.put` and `children_put`.
-/
namespace ModPack

theorem Location.within_iff {below above : Location} :
    below.within above = true ↔ above <:+ below :=
  List.isSuffixOf_iff_suffix

theorem Location.within_refl (location : Location) : location.within location = true :=
  Location.within_iff.2 (List.suffix_refl location)

theorem Location.within_cons (name : String) (location : Location) :
    Location.within (name :: location) location = true :=
  Location.within_iff.2 (List.suffix_cons name location)

theorem Location.within_append (front location : Location) :
    Location.within (front ++ location) location = true :=
  Location.within_iff.2 (List.suffix_append front location)

theorem Location.within_trans {below between above : Location} (h : below.within between = true)
    (h' : between.within above = true) : below.within above = true :=
  Location.within_iff.2 ((Location.within_iff.1 h').trans (Location.within_iff.1 h))

theorem Location.cons_within {location region : Location} (name : String)
    (h : location.within region = true) : Location.within (name :: location) region = true :=
  Location.within_trans (Location.within_cons name location) h

theorem Location.append_within {location region : Location} (front : Location)
    (h : location.within region = true) : Location.within (front ++ location) region = true :=
  Location.within_trans (Location.within_append front location) h

theorem Location.within_of_length_lt {below above : Location} (h : below.length < above.length) :
    below.within above = false := by
  rw [Bool.eq_false_iff]
  intro hwithin
  have hle := (Location.within_iff.1 hwithin).length_le
  omega

theorem Location.within_beside {other top : String} {parent : Location} (h : top ≠ other) :
    Location.within (other :: parent) (top :: parent) = false := by
  rw [Bool.eq_false_iff]
  intro hwithin
  rcases List.suffix_cons_iff.1 (Location.within_iff.1 hwithin) with heq | hsuffix
  · exact h (List.cons.inj heq).1
  · have hle := hsuffix.length_le
    rw [List.length_cons] at hle
    omega

/-- What lies in one directory does not lie in another one beside it. -/
theorem Location.within_sibling {name other top : String} {parent : Location} (h : top ≠ other) :
    Location.within (name :: other :: parent) (top :: parent) = false := by
  rw [Bool.eq_false_iff]
  intro hwithin
  rcases List.suffix_cons_iff.1 (Location.within_iff.1 hwithin) with heq | hsuffix
  · have hlength := congrArg List.length heq
    simp at hlength
  · have hbeside : within (other :: parent) (top :: parent) = false := within_beside h
    rw [within_iff.2 hsuffix] at hbeside
    cases hbeside

theorem Location.not_within_below {location region : Location} {name : String}
    (h : location.within region = false) : location.within (name :: region) = false := by
  rw [Bool.eq_false_iff] at h ⊢
  intro hwithin
  exact h (Location.within_trans hwithin (Location.within_cons name region))

theorem Location.ne_of_not_within {location region : Location} {name : String}
    (h : location.within region = false) : name :: region ≠ location := by
  rintro rfl
  rw [Location.within_cons _ _] at h
  cases h

namespace FileTree

variable {tree before after : FileTree} {location other region : Location} {entry : Entry}
  {name : String}

theorem isDirectory_iff :
    tree.isDirectory location = true ↔ tree.get? location = some .directory := by
  simp [isDirectory]

theorem isDirectory_root (tree : FileTree) : tree.isDirectory [] = true := by
  simp [isDirectory, get?]

theorem ne_nil_of_get?_eq_none (h : tree.get? location = none) : location ≠ [] := by
  rintro rfl
  cases h

/-! ## Outside a region -/

/-- The entries that are neither at a location nor below it. -/
def outside (tree : FileTree) (region : Location) : List (Location × Entry) :=
  tree.entries.filter fun (key, _) => !key.within region

theorem outside_put (h : location.within region = true) :
    (tree.put location entry).outside region = tree.outside region := by
  have hentries (entries : List (Location × Entry)) :
      (putEntry location entry entries).filter (fun (key, _) => !key.within region) =
        entries.filter fun (key, _) => !key.within region := by
    induction entries with
    | nil => simp [putEntry, h]
    | cons head rest ih =>
      obtain ⟨key, old⟩ := head
      rw [putEntry]
      split
      · next hkey => simp [hkey, h]
      · simp [List.filter_cons, ih]
  exact hentries tree.entries

/-- What is outside of a region is outside of every part of it. -/
theorem outside_eq_of_within {inner : Location} (h : after.outside inner = before.outside inner)
    (hinner : inner.within region = true) : after.outside region = before.outside region := by
  have hfilter (tree : FileTree) : tree.outside region =
      (tree.outside inner).filter fun (key, _) => !key.within region := by
    rw [outside, outside, List.filter_filter]
    refine List.filter_congr fun entry _ => ?_
    obtain ⟨key, entry⟩ := entry
    cases hkey : key.within region with
    | true => simp [hkey]
    | false =>
      have hout : key.within inner = false := by
        rw [Bool.eq_false_iff]
        intro hwithin
        rw [Location.within_trans hwithin hinner] at hkey
        cases hkey
      simp [hkey, hout]
  rw [hfilter, hfilter, h]

theorem lookup_filter_key {κ β : Type} [BEq κ] [LawfulBEq κ] {p : κ → Bool} {location : κ}
    (h : p location = true) (entries : List (κ × β)) :
    (entries.filter fun (key, _) => p key).lookup location = entries.lookup location := by
  induction entries with
  | nil => rfl
  | cons head rest ih =>
    obtain ⟨key, old⟩ := head
    by_cases hkey : location = key
    · subst hkey
      simp [h]
    · have hne : (location == key) = false := beq_eq_false_iff_ne.2 hkey
      by_cases hp : p key = true
      · rw [List.filter_cons_of_pos (by exact hp), List.lookup_cons, List.lookup_cons, hne, ih]
      · rw [List.filter_cons_of_neg (by exact hp), List.lookup_cons, hne, ih]

/-- What is outside of a region is found as before when nothing outside changed. -/
theorem get?_eq_of_outside_eq (h : after.outside region = before.outside region)
    (hlocation : location.within region = false) : after.get? location = before.get? location := by
  have hkeep : (!location.within region) = true := by simp [hlocation]
  have hafter := lookup_filter_key (p := fun key => !key.within region) hkeep after.entries
  have hbefore := lookup_filter_key (p := fun key => !key.within region) hkeep before.entries
  have hlookup : after.entries.lookup location = before.entries.lookup location := by
    rw [← hafter, ← hbefore]
    exact congrArg (List.lookup location) h
  rw [get?, get?, hlookup]

/-! ## Listings -/

/-- The name and entry of what lies directly in a location. -/
def childOf? (location : Location) : Location × Entry → Option (String × Entry)
  | (name :: parent, entry) => if parent = location then some (name, entry) else none
  | ([], _) => none

theorem children_eq (tree : FileTree) (location : Location) :
    tree.children location = (tree.entries.filterMap (childOf? location)).mergeSort
      fun first second => first.1 ≤ second.1 := by
  unfold children
  dsimp only
  congr 2
  funext ⟨key, entry⟩
  cases key <;> rfl

/-- A listing has what lies directly in the location, in an order of its own. -/
theorem children_perm (tree : FileTree) (location : Location) :
    (tree.children location).Perm (tree.entries.filterMap (childOf? location)) := by
  rw [children_eq]
  exact List.mergeSort_perm _ _

/-- The listing of a directory outside of a region is the same when nothing outside changed. -/
theorem children_eq_of_outside_eq (h : after.outside region = before.outside region)
    (hlocation : ∀ name : String, Location.within (name :: location) region = false) :
    after.children location = before.children location := by
  have hinside (tree : FileTree) : (tree.outside region).filterMap (childOf? location) =
      tree.entries.filterMap (childOf? location) := by
    rw [outside, List.filterMap_filter]
    congr 1
    funext ⟨key, entry⟩
    cases key with
    | nil => simp [childOf?]
    | cons name parent =>
      by_cases hparent : parent = location
      · subst hparent
        simp [hlocation name]
      · simp [childOf?, hparent]
  rw [children_eq, children_eq, ← hinside after, ← hinside before, h]

theorem putEntry_of_lookup_eq_none {entries : List (Location × Entry)}
    (h : entries.lookup location = none) :
    putEntry location entry entries = entries ++ [(location, entry)] := by
  induction entries with
  | nil => rfl
  | cons head rest ih =>
    obtain ⟨key, old⟩ := head
    rw [List.lookup_cons] at h
    split at h
    · cases h
    · next hkey =>
      have hne : key ≠ location := fun heq => beq_eq_false_iff_ne.1 hkey heq.symm
      rw [putEntry, if_neg hne, ih h, List.cons_append]

theorem lookup_eq_none_of_get? (h : tree.get? location = none) :
    tree.entries.lookup location = none := by
  rwa [get?, if_neg (ne_nil_of_get?_eq_none h)] at h

/-- A new entry comes to the listing of the directory that it is put in. -/
theorem children_put (entry : Entry) (h : tree.get? (name :: location) = none) :
    ((tree.put (name :: location) entry).children location).Perm
      ((name, entry) :: tree.children location) := by
  have hentries : (tree.put (name :: location) entry).entries =
      tree.entries ++ [(name :: location, entry)] :=
    putEntry_of_lookup_eq_none (lookup_eq_none_of_get? h)
  refine (children_perm _ _).trans ?_
  rw [hentries, List.filterMap_append]
  have hnew : [(name :: location, entry)].filterMap (childOf? location) = [(name, entry)] := by
    simp [childOf?]
  rw [hnew]
  exact (List.perm_append_singleton _ _).trans ((children_perm tree location).symm.cons _)

/-- An entry is not in the listing of its own location. -/
theorem children_put_self (entry : Entry) (h : tree.get? location = none) :
    ((tree.put location entry).children location).Perm (tree.children location) := by
  have hentries : (tree.put location entry).entries = tree.entries ++ [(location, entry)] :=
    putEntry_of_lookup_eq_none (lookup_eq_none_of_get? h)
  have hself : [(location, entry)].filterMap (childOf? location) = [] := by
    cases location with
    | nil => rfl
    | cons name parent =>
      have hne : parent ≠ name :: parent := fun heq => by
        simpa using congrArg List.length heq
      simp [childOf?, hne]
  refine (children_perm _ _).trans ?_
  rw [hentries, List.filterMap_append, hself, List.append_nil]
  exact (children_perm tree location).symm

theorem mem_children (h : (name, entry) ∈ tree.children location) :
    (name :: location, entry) ∈ tree.entries := by
  have hmem := (children_perm tree location).mem_iff.1 h
  obtain ⟨⟨key, found⟩, hkey, hchild⟩ := List.mem_filterMap.1 hmem
  unfold childOf? at hchild
  split at hchild
  · next heq =>
    split at hchild
    · next hparent =>
      cases hchild
      rw [← hparent]
      exact heq ▸ hkey
    · cases hchild
  · cases hchild

/-- What is found is an entry, but for the directory that everything is in. -/
theorem mem_of_get? (hlocation : location ≠ [])
    (h : tree.get? location = some entry) : (location, entry) ∈ tree.entries := by
  rw [get?, if_neg hlocation] at h
  obtain ⟨before, after, hentries, _⟩ := List.lookup_eq_some_iff.1 h
  simp [hentries]

/-- Nothing is found directly in a location whose listing is empty. -/
theorem get?_eq_none_of_children_eq_nil (h : tree.children location = []) (name : String) :
    tree.get? (name :: location) = none := by
  rw [Option.eq_none_iff_forall_not_mem]
  intro entry hfound
  have hentry := mem_of_get? (List.cons_ne_nil _ _) hfound
  have hmem : (name, entry) ∈ tree.entries.filterMap (childOf? location) :=
    List.mem_filterMap.2 ⟨(name :: location, entry), hentry, by simp [childOf?]⟩
  have hchild := (children_perm tree location).mem_iff.2 hmem
  rw [h] at hchild
  cases hchild

/-! ## Rooted trees -/

/-- Every entry lies in a directory. -/
def Rooted (tree : FileTree) : Prop :=
  ∀ location, (tree.get? location).isSome → tree.isDirectory location.tail = true

theorem rooted_of_entries (h : ∀ entry ∈ tree.entries, tree.isDirectory entry.1.tail = true) :
    tree.Rooted := by
  intro location hfound
  by_cases hroot : location = []
  · rw [hroot]
    exact of_decide_eq_true rfl
  · obtain ⟨entry, hentry⟩ := Option.isSome_iff_exists.1 hfound
    exact h _ (mem_of_get? hroot hentry)

theorem isSome_get?_of_mem (h : (location, entry) ∈ tree.entries) :
    (tree.get? location).isSome := by
  rw [get?]
  split
  · rfl
  · cases hlookup : tree.entries.lookup location with
    | some found => rfl
    | none =>
      have hne := List.lookup_eq_none_iff.1 hlookup (location, entry) h
      simp at hne

/-- Nothing is directly below a location that is missing from a rooted tree. -/
theorem Rooted.children_eq_nil (h : tree.Rooted) (hmissing : tree.get? location = none) :
    tree.children location = [] := by
  rw [List.eq_nil_iff_forall_not_mem]
  rintro ⟨name, entry⟩ hmem
  have hparent : tree.isDirectory location = true :=
    h (name :: location) (isSome_get?_of_mem (mem_children hmem))
  rw [isDirectory_iff, hmissing] at hparent
  cases hparent

/-- Nor is anything below it at any depth. The induction is on the way down. -/
theorem Rooted.get?_eq_none_of_within (h : tree.Rooted) (hmissing : tree.get? region = none)
    (hwithin : location.within region = true) : tree.get? location = none := by
  obtain ⟨front, rfl⟩ := Location.within_iff.1 hwithin
  induction front with
  | nil => exact hmissing
  | cons name front ih =>
    have habove := ih (Location.within_append _ _)
    cases hfound : tree.get? (name :: front ++ region) with
    | none => rfl
    | some entry =>
      have hparent := h (name :: front ++ region) (by rw [hfound]; rfl)
      rw [isDirectory_iff, List.cons_append, List.tail_cons, habove] at hparent
      cases hparent

/-- Directories stay where something else is put, and where a directory is put again. -/
theorem isDirectory_put (hlocation : location ≠ [])
    (hentry : entry = .directory ∨ tree.isDirectory location = false)
    (h : tree.isDirectory other = true) : (tree.put location entry).isDirectory other = true := by
  rw [isDirectory_iff, get?_put _ _ _ _ hlocation]
  split
  · next heq =>
    subst heq
    rcases hentry with rfl | hfile
    · rfl
    · rw [h] at hfile
      cases hfile
  · exact isDirectory_iff.1 h

/-- A tree stays rooted when something is put in a directory and does not replace one. -/
theorem Rooted.put (h : tree.Rooted) (hlocation : location ≠ [])
    (hparent : tree.isDirectory location.tail = true)
    (hentry : entry = .directory ∨ tree.isDirectory location = false) :
    (tree.put location entry).Rooted := by
  intro key hkey
  apply isDirectory_put hlocation hentry
  rw [get?_put _ _ _ _ hlocation] at hkey
  split at hkey
  · next heq => rwa [heq]
  · exact h key hkey

theorem get?_remove (hregion : region ≠ []) :
    (tree.remove region).get? location =
      if location.within region then none else tree.get? location := by
  cases hwithin : location.within region with
  | false =>
    have hkeep : (!location.within region) = true := by simp [hwithin]
    have hlookup := lookup_filter_key (p := fun key => !key.within region) hkeep tree.entries
    rw [get?, get?, ← hlookup]
    rfl
  | true =>
    have hsuffix := Location.within_iff.1 hwithin
    have hne : location ≠ [] := by
      rintro rfl
      exact hregion (List.suffix_nil.1 hsuffix)
    rw [get?, if_neg hne, if_pos rfl, List.lookup_eq_none_iff]
    rintro ⟨key, found⟩ hmem
    have hkey := (List.mem_filter.1 hmem).2
    rw [bne_iff_ne]
    rintro rfl
    simp [hwithin] at hkey

theorem Rooted.remove (h : tree.Rooted) (hregion : region ≠ []) : (tree.remove region).Rooted := by
  intro location hlocation
  rw [get?_remove hregion] at hlocation
  split at hlocation
  · cases hlocation
  · next hwithin =>
    rw [isDirectory_iff, get?_remove hregion, if_neg]
    · exact isDirectory_iff.1 (h location hlocation)
    · intro htail
      exact hwithin (Location.within_iff.2
        ((Location.within_iff.1 htail).trans (List.tail_suffix location)))

end FileTree

end ModPack
