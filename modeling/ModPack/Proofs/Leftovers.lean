import ModPack.Proofs.ClearSources
import ModPack.Proofs.CopyAgain

/-!
# What two disks have left over

The same work is done on two disks that differ in what they held at first. Afterwards both hold the
same wherever the work has put something, and elsewhere each of them still holds what it held: that
is left over. There is one thing between: where one disk has a directory a file cannot be copied,
and goes into that directory. Main statements: `Settled.trans`, `makeDirectories_settled` and
`copyEntries_settled`.
-/
namespace ModPack

namespace FileTree

variable {before after : FileTree} {region location : Location} {entry : Entry}

theorem filter_putEntry {p : Location → Bool} {entries : List (Location × Entry)} :
    (putEntry location entry entries).filter (fun (key, _) => p key) =
      if p location then putEntry location entry (entries.filter fun (key, _) => p key)
      else entries.filter fun (key, _) => p key := by
  induction entries with
  | nil => cases h : p location <;> simp [putEntry, h]
  | cons head rest ih =>
    obtain ⟨key, old⟩ := head
    rw [putEntry]
    by_cases hkey : key = location
    · subst hkey
      cases h : p key <;> simp [putEntry, h]
    · rw [if_neg hkey, List.filter_cons, List.filter_cons, ih]
      cases h : p location with
      | false => rfl
      | true => cases hp : p key <;> simp [putEntry, hkey, hp]

/-- The same entry is put into both trees. -/
theorem outside_put_eq (h : after.outside region = before.outside region) (location : Location)
    (entry : Entry) :
    (after.put location entry).outside region = (before.put location entry).outside region := by
  have hfilter (tree : FileTree) : (tree.put location entry).outside region =
      if !location.within region then putEntry location entry (tree.outside region)
      else tree.outside region :=
    filter_putEntry (p := fun key => !key.within region)
  rw [hfilter, hfilter, h]

theorem inside_put_eq (h : after.inside region = before.inside region) (location : Location)
    (entry : Entry) :
    (after.put location entry).inside region = (before.put location entry).inside region := by
  have hfilter (tree : FileTree) : (tree.put location entry).inside region =
      if location.within region then putEntry location entry (tree.inside region)
      else tree.inside region :=
    filter_putEntry (p := fun key => key.within region)
  rw [hfilter, hfilter, h]

theorem get?_eq_of_inside_eq (h : after.inside region = before.inside region)
    (hlocation : location.within region = true) : after.get? location = before.get? location := by
  have hafter := lookup_filter_key (p := fun key => key.within region) hlocation after.entries
  have hbefore := lookup_filter_key (p := fun key => key.within region) hlocation before.entries
  have hlookup : after.entries.lookup location = before.entries.lookup location := by
    rw [← hafter, ← hbefore]
    exact congrArg (List.lookup location) h
  rw [get?, get?, hlookup]

/-- Nothing is inside of a region that is missing from a rooted tree. -/
theorem Rooted.inside_eq_nil {tree : FileTree} (h : tree.Rooted)
    (hmissing : tree.get? region = none) : tree.inside region = [] := by
  rw [List.eq_nil_iff_forall_not_mem]
  rintro ⟨key, entry⟩ hmem
  obtain ⟨hentry, hwithin⟩ := List.mem_filter.1 hmem
  have hfound := isSome_get?_of_mem hentry
  rw [h.get?_eq_none_of_within hmissing hwithin] at hfound
  cases hfound

theorem inside_remove (tree : FileTree) (region : Location) :
    (tree.remove region).inside region = [] := by
  rw [inside, remove, List.filter_filter]
  simp

theorem outside_remove (tree : FileTree) (region : Location) :
    (tree.remove region).outside region = tree.outside region := by
  rw [outside, remove, List.filter_filter]
  simp [outside]

/-- What is copied from a place is what lies inside of it. -/
theorem below_eq_of_inside_eq (h : after.inside region = before.inside region) :
    after.below region = before.below region := by
  have hcontents (child : String × Entry) :
      after.withContents region child = before.withContents region child := by
    obtain ⟨name, entry⟩ := child
    have hwithin : Location.within (name :: region) region = true :=
      Location.within_cons _ _
    cases entry with
    | directory => rw [withContents, withContents, contents_eq_of_inside_eq h hwithin]
    | file content => rfl
  rw [below, below, children_eq_of_inside_eq h]
  exact congrArg (List.flatMap · _) (funext hcontents)

end FileTree

namespace Disk

variable {first second built rebuilt now now' after after' : Disk} {region location : Location}
  {source target path : Location} {entry : Entry} {dir : Path}

theorem SameOutside.withEntry (h : SameOutside region first second) (location : Location)
    (entry : Entry) :
    SameOutside region (first.withEntry location entry) (second.withEntry location entry) :=
  ⟨h.workingDirectory, FileTree.outside_put_eq h.outside location entry⟩

/-- At or above the location, in the region, one disk held a directory at first and the other one
holds a file now. -/
def Obstructed (region : Location) (first second built rebuilt : Disk) (location : Location) :
    Prop :=
  ∃ above, location.within above = true ∧ above.within region = true ∧
    (first.tree.isDirectory above = true ∧ rebuilt.HoldsFile above ∨
      second.tree.isDirectory above = true ∧ built.HoldsFile above)

/-- Two disks at first and now: at every location that is not obstructed both hold the same now, or
both still hold what they held. -/
def Settled (region : Location) (first second built rebuilt : Disk) : Prop :=
  ∀ location, rebuilt.tree.get? location = built.tree.get? location ∨
    (built.tree.get? location = first.tree.get? location ∧
      rebuilt.tree.get? location = second.tree.get? location) ∨
    Obstructed region first second built rebuilt location

namespace Obstructed

theorem symm (h : Obstructed region first second built rebuilt location) :
    Obstructed region second first rebuilt built location := by
  obtain ⟨above, hlocation, hregion, h⟩ := h
  exact ⟨above, hlocation, hregion, h.symm⟩

theorem below {inner : Location} (h : Obstructed region first second built rebuilt location)
    (hinner : inner.within location = true) :
    Obstructed region first second built rebuilt inner := by
  obtain ⟨above, hlocation, hregion, h⟩ := h
  exact ⟨above, Location.within_trans hinner hlocation, hregion, h⟩

/-- Files stay files. -/
theorem later (h : Obstructed region first second built rebuilt location)
    (hbuilt : KeepsKinds region built after) (hrebuilt : KeepsKinds region rebuilt after') :
    Obstructed region first second after after' location := by
  obtain ⟨above, hlocation, hregion, h⟩ := h
  refine ⟨above, hlocation, hregion, h.imp ?_ ?_⟩
  · exact fun ⟨hdirectory, hfile⟩ => ⟨hdirectory, hrebuilt.files above hregion hfile⟩
  · exact fun ⟨hdirectory, hfile⟩ => ⟨hdirectory, hbuilt.files above hregion hfile⟩

end Obstructed

namespace Settled

theorem refl (region : Location) (first second : Disk) :
    Settled region first second first second :=
  fun _ => .inr (.inl ⟨rfl, rfl⟩)

theorem symm (h : Settled region first second built rebuilt) :
    Settled region second first rebuilt built := fun location => by
  rcases h location with hsame | ⟨hbuilt, hrebuilt⟩ | hobstructed
  · exact .inl hsame.symm
  · exact .inr (.inl ⟨hrebuilt, hbuilt⟩)
  · exact .inr (.inr hobstructed.symm)

/-- A directory that stands in the way of a file later on stood there at first: what was put there
in between was put on both disks. -/
theorem obstructed (h : Settled region first second now now')
    (hkinds' : KeepsKinds region now' after') {above : Location}
    (hregion : above.within region = true)
    (hdirectory : now.tree.isDirectory above = true) (hfile : after'.HoldsFile above)
    (hkinds : KeepsKinds region now after) :
    Obstructed region first second after after' above := by
  have hself : above.within above = true := Location.within_refl _
  rcases h above with hsame | ⟨hbuilt, _⟩ | hobstructed
  · rw [FileTree.isDirectory_iff, ← hsame, ← FileTree.isDirectory_iff] at hdirectory
    have hstill := hkinds'.directories above hregion hdirectory
    rw [isDirectory_eq_false_of_holdsFile hfile] at hstill
    cases hstill
  · rw [FileTree.isDirectory_iff, hbuilt, ← FileTree.isDirectory_iff] at hdirectory
    exact ⟨above, hself, hregion, .inl ⟨hdirectory, hfile⟩⟩
  · exact hobstructed.later hkinds hkinds'

/-- Work after work, as long as directories stay directories and files stay files. -/
theorem trans (h : Settled region first second now now')
    (h' : Settled region now now' after after') (hkinds : KeepsKinds region now after)
    (hkinds' : KeepsKinds region now' after') : Settled region first second after after' := by
  intro location
  rcases h' location with hsame | ⟨hafter, hafter'⟩ | ⟨above, hbelow, hregion, hfound⟩
  · exact .inl hsame
  · rw [hafter, hafter']
    exact (h location).imp id fun hrest => hrest.imp id (·.later hkinds hkinds')
  · right
    right
    rcases hfound with ⟨hdirectory, hfile⟩ | ⟨hdirectory, hfile⟩
    · exact (h.obstructed hkinds' hregion hdirectory hfile hkinds).below hbelow
    · exact (h.symm.obstructed hkinds hregion hdirectory hfile hkinds').symm.below hbelow

/-- The same entry is put on both disks. -/
theorem withEntry (hlocation : location ≠ []) (region : Location) (first second : Disk)
    (entry : Entry) :
    Settled region first second (first.withEntry location entry)
      (second.withEntry location entry) := by
  intro other
  by_cases hother : other = location
  · rw [hother]
    exact .inl ((get?_withEntry_self hlocation).trans (get?_withEntry_self hlocation).symm)
  · exact .inr (.inl
      ⟨get?_withEntry_of_ne hlocation hother, get?_withEntry_of_ne hlocation hother⟩)

/-- Disks that held the same in the region hold the same wherever they held the same. -/
theorem eq_of_start (h : Settled region first second built rebuilt)
    (hregion : ∀ other, other.within region = true →
      second.tree.get? other = first.tree.get? other)
    (hbuilt : KeepsKinds region first built) (hrebuilt : KeepsKinds region second rebuilt)
    (hlocation : second.tree.get? location = first.tree.get? location) :
    rebuilt.tree.get? location = built.tree.get? location := by
  have hnever {above : Location} {disk : Disk} (hdirectory : disk.tree.isDirectory above = true)
      (hfile : disk.HoldsFile above) : False := by
    rw [isDirectory_eq_false_of_holdsFile hfile] at hdirectory
    cases hdirectory
  rcases h location with hsame | ⟨hleft, hleft'⟩ | ⟨above, _, hin, hfound⟩
  · exact hsame
  · rw [hleft, hleft', hlocation]
  · have hsame : second.tree.isDirectory above = first.tree.isDirectory above := by
      rw [FileTree.isDirectory, FileTree.isDirectory, hregion above hin]
    rcases hfound with ⟨hdirectory, hfile⟩ | ⟨hdirectory, hfile⟩
    · rw [← hsame] at hdirectory
      exact (hnever (hrebuilt.directories above hin hdirectory) hfile).elim
    · rw [hsame] at hdirectory
      exact (hnever (hbuilt.directories above hin hdirectory) hfile).elim

end Settled

/-! ## Directories that are made on both disks -/

theorem makeDirectories_settled {existOk : Bool}
    (hworking : second.workingDirectory = first.workingDirectory)
    (h : outcome (makeDirectories existOk dir) first = (.ok (), built))
    (h' : outcome (makeDirectories existOk dir) second = (.ok (), rebuilt)) (region : Location) :
    Settled region first second built rebuilt := by
  intro location
  have hspot (path : Path) : second.spot path = first.spot path := by
    rw [spot, spot, start, start, hworking]
  by_cases hlocation : ∀ parts, parts <+: dir.parts → location ≠ first.spot { dir with parts }
  · have hbuilt := (makeDirectories_keepsOff existOk dir first).2 location hlocation
    have hrebuilt := (makeDirectories_keepsOff existOk dir second).2 location
    simp only [hspot] at hrebuilt
    rw [h] at hbuilt
    rw [h'] at hrebuilt
    exact .inr (.inl ⟨hbuilt, hrebuilt hlocation⟩)
  · push Not at hlocation
    obtain ⟨parts, hparts, rfl⟩ := hlocation
    have hmade {disk after : Disk}
        (h : outcome (makeDirectories existOk dir) disk = (.ok (), after)) :
        after.tree.get? (disk.spot { dir with parts }) = some .directory := by
      have hgrows := grows_of_makeDirectories h
      have hfront := isDirectory_of_front (directory?_of_makeDirectories h) hparts
      rw [← hgrows.keeps.spot_eq]
      exact FileTree.isDirectory_iff.1 hfront
    left
    rw [hmade h, ← hspot, hmade h']

theorem makeDirectory_sameOutside {existOk : Bool} (hsame : SameOutside region first second)
    (h : outcome (makeDirectory existOk dir) first = (.ok (), built))
    (h' : outcome (makeDirectory existOk dir) second = (.ok (), rebuilt)) :
    SameOutside region built rebuilt := by
  obtain ⟨location, hlocate, hmade⟩ := outcome_makeDirectory_ok.1 h
  obtain ⟨there, hthere, hmade'⟩ := outcome_makeDirectory_ok.1 h'
  obtain rfl : there = location := by
    rw [eq_spot_of_locate hthere, hsame.spot_eq, eq_spot_of_locate hlocate]
  cases hwithin : there.within region with
  | true =>
    -- Whether the directory is put or not, it lies in the region.
    have hkeeps {disk after : Disk} (hmade : (disk.tree.get? there = none ∧
        disk.withEntry there .directory = after) ∨
          (existOk = true ∧ disk.tree.isDirectory there = true ∧ disk = after)) :
        KeepsOutside region disk after := by
      rcases hmade with ⟨hnone, rfl⟩ | ⟨_, _, rfl⟩
      · exact KeepsOutside.withEntry (FileTree.ne_nil_of_get?_eq_none hnone) (.inl rfl) hwithin
      · exact KeepsOutside.refl region disk
    exact hsame.of_keepsOutside (hkeeps hmade) (hkeeps hmade')
  | false =>
    have hentry := hsame.get?_eq hwithin
    rcases hmade with ⟨hnone, rfl⟩ | ⟨_, hdirectory, rfl⟩
    · rcases hmade' with ⟨_, rfl⟩ | ⟨_, hdirectory', _⟩
      · exact hsame.withEntry there .directory
      · rw [FileTree.isDirectory_iff, hentry, hnone] at hdirectory'
        cases hdirectory'
    · rcases hmade' with ⟨hnone', _⟩ | ⟨_, _, rfl⟩
      · rw [FileTree.isDirectory_iff, ← hentry, hnone'] at hdirectory
        cases hdirectory
      · exact hsame

/-- Where one disk has all directories on the way, the other one makes such in the region only. -/
theorem makeDirectories_parent_sameOutside (hsame : SameOutside region first second)
    (hdir : dir.parts ≠ []) (hlocate : first.locate dir = .ok location)
    (h : outcome (makeDirectories true dir.parent) second = (.ok (), rebuilt)) :
    SameOutside region first rebuilt := by
  have hcovered : Covered region dir.parent second := by
    rintro parts ⟨back, hback⟩
    obtain ⟨last, hlast⟩ : ∃ last, dir.parts = dir.parts.dropLast ++ [last] :=
      ⟨_, (List.dropLast_append_getLast hdir).symm⟩
    have hwalk : walk first.tree (first.start dir) (parts ++ (back ++ [last])) = .ok location := by
      rw [← List.append_assoc, hback]
      change walk first.tree (first.start dir) (dir.parts.dropLast ++ [last]) = .ok location
      rw [← hlast]
      exact hlocate
    have hdirectory := isDirectory_of_walk_append (by simp) hwalk
    cases hwithin : (second.spot { dir.parent with parts }).within region with
    | true => exact .inl rfl
    | false =>
      rw [hsame.isDirectory_eq hwithin, hsame.spot_eq]
      exact .inr hdirectory
  have hkeeps := makeDirectories_keepsOutside true dir.parent second hcovered
  rw [h] at hkeeps
  exact hsame.of_keepsOutside (KeepsOutside.refl region first) hkeeps

/-- Making directories keeps the disks the same outside of the region. The recursion goes up the
path, as long as on both disks the way to it is missing. -/
theorem makeDirectories_sameOutside {existOk : Bool} {dir : Path}
    {first second built rebuilt : Disk} (hsame : SameOutside region first second)
    (h : outcome (makeDirectories existOk dir) first = (.ok (), built))
    (h' : outcome (makeDirectories existOk dir) second = (.ok (), rebuilt)) :
    SameOutside region built rebuilt := by
  have hfound {disk after : Disk}
      (h : outcome (makeDirectory existOk dir) disk = (.ok (), after)) :
      ∃ location, disk.locate dir = .ok location := by
    obtain ⟨location, hlocate, _⟩ := outcome_makeDirectory_ok.1 h
    exact ⟨location, hlocate⟩
  rcases outcome_makeDirectories existOk dir first with hone | ⟨_, ⟨_, hone⟩ | ⟨hparts, hone⟩⟩
  · rw [hone] at h
    rcases outcome_makeDirectories existOk dir second with
      hother | ⟨_, ⟨_, hother⟩ | ⟨hparts, hother⟩⟩
    · rw [hother] at h'
      exact makeDirectory_sameOutside hsame h h'
    · rw [hother] at h'
      cases h'
    · rw [hother] at h'
      obtain ⟨_, between, hparent, hlast⟩ := outcome_bind_ok.1 h'
      obtain ⟨location, hlocate⟩ := hfound h
      exact makeDirectory_sameOutside
        (makeDirectories_parent_sameOutside hsame hparts hlocate hparent) h hlast
  · rw [hone] at h
    cases h
  · rw [hone] at h
    obtain ⟨_, between, hparent, hlast⟩ := outcome_bind_ok.1 h
    rcases outcome_makeDirectories existOk dir second with
      hother | ⟨_, ⟨_, hother⟩ | ⟨_, hother⟩⟩
    · rw [hother] at h'
      obtain ⟨location, hlocate⟩ := hfound h'
      exact makeDirectory_sameOutside
        (makeDirectories_parent_sameOutside hsame.symm hparts hlocate hparent).symm hlast h'
    · rw [hother] at h'
      cases h'
    · rw [hother] at h'
      obtain ⟨_, between', hparent', hlast'⟩ := outcome_bind_ok.1 h'
      have hbetween := makeDirectories_sameOutside hsame hparent hparent'
      exact makeDirectory_sameOutside hbetween hlast hlast'
termination_by dir.parts.length
decreasing_by
  have hpos := List.length_pos_iff.2 hparts
  simp only [Path.parent, List.length_dropLast]
  omega

/-! ## A directory that is made anew -/

/-- A directory is made in one that is there when nothing has its name yet. -/
theorem makeDirectories_div_ok {disk made : Disk} {base : Path} {name : String}
    (hname : Path.Plain name) (hbase : disk.directory? base = some location)
    (h : outcome (makeDirectories false (base / name)) disk = (.ok (), made)) :
    disk.tree.get? (name :: location) = none ∧
      made = disk.withEntry (name :: location) .directory := by
  have hplace := locate_div hbase hname
  rcases outcome_makeDirectories false (base / name) disk with hone | ⟨hmissing, _⟩
  · rw [hone] at h
    obtain ⟨there, hlocate, ⟨hnone, hmade⟩ | ⟨hfalse, _⟩⟩ := outcome_makeDirectory_ok.1 h
    · cases hplace.symm.trans hlocate
      exact ⟨hnone, hmade.symm⟩
    · cases hfalse
  · rw [hplace] at hmissing
    cases hmissing

/-- What is left of a directory that is cleared and made anew. -/
theorem makeDirectories_cleared {disk cleared made : Disk} {base : Path} {name : String}
    (hname : Path.Plain name) (hrooted : disk.Rooted) (hbase : disk.directory? base = some location)
    (hcleared : cleared = disk ∨ cleared = disk.without (disk.spot (base / name)))
    (h : outcome (makeDirectories false (base / name)) cleared = (.ok (), made)) :
    made.workingDirectory = disk.workingDirectory ∧
      made.tree.outside (name :: location) = disk.tree.outside (name :: location) ∧
      made.tree.inside (name :: location) = [(name :: location, .directory)] ∧
      made.directory? (base / name) = some (name :: location) := by
  have hself : Location.within (name :: location) (name :: location) = true :=
    Location.within_refl _
  have hfront := fun parts (hparts : parts <+: base.parts) =>
    front_outside_of_makeDirectories hname hrooted hcleared h hparts
  rw [spot_div hname, ← eq_spot_of_directory? hbase] at hfront hcleared
  obtain ⟨hworking, houtside, hinside, hbase'⟩ :
      cleared.workingDirectory = disk.workingDirectory ∧
        cleared.tree.outside (name :: location) = disk.tree.outside (name :: location) ∧
        cleared.tree.inside (name :: location) = [] ∧ cleared.directory? base = some location := by
    rcases hcleared with rfl | rfl
    · -- Something that is there would not be made.
      have hnone := (makeDirectories_div_ok hname hbase h).1
      exact ⟨rfl, rfl, hrooted.tree.inside_eq_nil hnone, hbase⟩
    · exact ⟨rfl, FileTree.outside_remove _ _, FileTree.inside_remove _ _,
        directory?_without (List.cons_ne_nil _ _) hfront hbase⟩
  obtain ⟨_, rfl⟩ := makeDirectories_div_ok hname hbase' h
  refine ⟨hworking, (FileTree.outside_put hself).trans houtside, ?_, ?_⟩
  · have hempty : cleared.tree.inside (name :: location) =
        ({} : FileTree).inside (name :: location) := hinside
    refine (FileTree.inside_put_eq hempty (name :: location) .directory).trans ?_
    simp [FileTree.put, FileTree.putEntry, FileTree.inside, hself]
  · have hkeeps : Keeps cleared (cleared.withEntry (name :: location) .directory) :=
      .withEntry (List.cons_ne_nil name location) (.inl rfl)
    exact directory?_div (hkeeps.directory? hbase') hname
      (FileTree.isDirectory_iff.2 (get?_withEntry_self (List.cons_ne_nil _ _)))

/-! ## Entries that are copied on both disks -/

theorem withEntry_of_copyFile {disk : Disk} {content : ByteArray}
    (h : outcome (copyFile source content target) disk = (.ok (), after)) :
    copyPlace disk source target ≠ [] ∧
      after = disk.withEntry (copyPlace disk source target) (.file content) := by
  rw [outcome_copyFile] at h
  split at h
  · cases h
  split at h
  · cases h
  · next hfile =>
    cases h
    have hfits : Fits disk (copyPlace disk source target) (.file content) :=
      Bool.eq_false_iff.2 hfile
    exact ⟨hfits.ne_nil, rfl⟩

/-- A file that goes to its target on one disk and into a directory there on the other one. -/
theorem settled_of_obstructed {content : ByteArray} {name : String}
    (hregion : target.within region = true) (htarget : target ≠ [])
    (hdirectory : first.tree.isDirectory target = true) :
    Settled region first second (first.withEntry (name :: target) (.file content))
      (second.withEntry target (.file content)) := by
  intro location
  by_cases hlocation : location.within target = true
  · refine .inr (.inr ⟨target, hlocation, hregion, .inl ⟨hdirectory, content, ?_⟩⟩)
    exact get?_withEntry_self htarget
  · have hother : location ≠ name :: target := by
      rintro rfl
      exact hlocation (Location.within_cons _ _)
    have hself : location ≠ target := by
      rintro rfl
      exact hlocation (Location.within_refl _)
    exact .inr (.inl ⟨get?_withEntry_of_ne (List.cons_ne_nil _ _) hother,
      get?_withEntry_of_ne htarget hself⟩)

theorem copyFile_settled {content : ByteArray} (hregion : target.within region = true)
    (h : outcome (copyFile source content target) first = (.ok (), built))
    (h' : outcome (copyFile source content target) second = (.ok (), rebuilt)) :
    Settled region first second built rebuilt := by
  obtain ⟨hplace, rfl⟩ := withEntry_of_copyFile h
  obtain ⟨hplace', rfl⟩ := withEntry_of_copyFile h'
  rw [copyPlace] at hplace hplace'
  rw [copyPlace, copyPlace]
  by_cases hdirectory : first.tree.isDirectory target = true
  · by_cases hdirectory' : second.tree.isDirectory target = true
    · rw [if_pos hdirectory, if_pos hdirectory']
      exact .withEntry (List.cons_ne_nil _ _) _ _ _ _
    · rw [if_neg hdirectory'] at hplace' ⊢
      rw [if_pos hdirectory]
      exact settled_of_obstructed hregion hplace' hdirectory
  · rw [if_neg hdirectory] at hplace ⊢
    by_cases hdirectory' : second.tree.isDirectory target = true
    · rw [if_pos hdirectory']
      exact (settled_of_obstructed hregion hplace hdirectory').symm
    · rw [if_neg hdirectory']
      exact .withEntry hplace _ _ _ _

theorem enter_settled (h : outcome (enter target) first = (.ok (), built))
    (h' : outcome (enter target) second = (.ok (), rebuilt)) (region : Location) :
    Settled region first second built rebuilt := by
  have hentered {disk after : Disk} (h : outcome (enter target) disk = (.ok (), after)) :
      after.tree.get? target = some .directory ∧ ∀ other, other ≠ target →
        after.tree.get? other = disk.tree.get? other := by
    refine ⟨FileTree.isDirectory_iff.1 (isDirectory_of_enter h), fun other hother => ?_⟩
    rw [outcome_enter] at h
    split at h
    · next hnone =>
      cases h
      exact get?_withEntry_of_ne (FileTree.ne_nil_of_get?_eq_none hnone) hother
    · cases h
      rfl
    · cases h
  obtain ⟨hdirectory, hothers⟩ := hentered h
  obtain ⟨hdirectory', hothers'⟩ := hentered h'
  intro location
  by_cases hlocation : location = target
  · rw [hlocation, hdirectory, hdirectory']
    exact .inl rfl
  · exact .inr (.inl ⟨hothers location hlocation, hothers' location hlocation⟩)

theorem copyEntry_settled (hregion : target.within region = true)
    (h : outcome (copyEntry source target path entry) first = (.ok (), built))
    (h' : outcome (copyEntry source target path entry) second = (.ok (), rebuilt)) :
    Settled region first second built rebuilt := by
  have hbelow : (path ++ target).within region = true := Location.append_within _ hregion
  rw [outcome_copyEntry] at h h'
  split at h
  · split at h'
    · cases entry with
      | directory => exact enter_settled h h' region
      | file content => exact copyFile_settled hbelow h h'
    · cases h'
  · cases h

/-- The induction is on the entries. -/
theorem copyEntries_settled {items : List (Location × Entry)}
    (hregion : target.within region = true)
    (h : outcome (copyEntries source target items) first = (.ok (), built))
    (h' : outcome (copyEntries source target items) second = (.ok (), rebuilt)) :
    Settled region first second built rebuilt := by
  induction items generalizing first second with
  | nil =>
    cases h
    cases h'
    exact .refl region _ _
  | cons item items ih =>
    rw [copyEntries_cons, outcome_seq_ok] at h h'
    obtain ⟨between, hitem, hrest⟩ := h
    obtain ⟨between', hitem', hrest'⟩ := h'
    have hkinds {disk after : Disk}
        (h : outcome (copyEntries source target items) disk = (.ok (), after)) :
        KeepsKinds region disk after := by
      have hputs := copyEntries_puts source target items disk
      rw [h] at hputs
      exact hputs.keepsKinds region
    exact (copyEntry_settled hregion hitem hitem').trans (ih hrest hrest') (hkinds hrest)
      (hkinds hrest')

/-- What is copied was there. -/
theorem directory?_of_copyChildren {disk : Disk} {origin destination : Path}
    (h : outcome (copyChildren origin destination) disk = (.ok (), after)) :
    ∃ location, disk.directory? origin = some location := by
  unfold copyChildren at h
  rw [outcome_get_bind, outcome_ofExcept_bind] at h
  split at h
  · next hlist =>
    obtain ⟨location, hlocation, _⟩ := list_ok.1 hlist
    exact ⟨location, hlocation⟩
  · cases h

/-- The children of a directory that is the same on both disks. -/
theorem copyChildren_settled {origin destination : Path} {inner : Location}
    (hsame : SameOutside region first second)
    (hapart : Location.Apart (first.spot origin) region) (hregion : target.within region = true)
    (hinner : target.within inner = true) (hto : first.directory? destination = some target)
    (hto' : second.directory? destination = some target)
    (h : outcome (copyChildren origin destination) first = (.ok (), built))
    (h' : outcome (copyChildren origin destination) second = (.ok (), rebuilt)) :
    Settled inner first second built rebuilt := by
  obtain ⟨there, hthere⟩ := directory?_of_copyChildren h
  obtain ⟨there', hthere'⟩ := directory?_of_copyChildren h'
  obtain rfl : there' = there := by
    rw [eq_spot_of_directory? hthere', hsame.spot_eq, eq_spot_of_directory? hthere]
  rw [← eq_spot_of_directory? hthere] at hapart
  have hbelow : second.tree.below there' = first.tree.below there' :=
    FileTree.below_eq_of_inside_eq (FileTree.inside_eq_of_outside_eq hsame.outside hapart)
  have htarget := (hapart.symm.mono hregion).symm
  rw [copyChildren_ok hthere hto htarget] at h
  rw [copyChildren_ok hthere' hto' htarget, hbelow] at h'
  exact copyEntries_settled hinner h h'

end Disk

end ModPack
