import ModPack.Proofs.BuildChanges
import ModPack.Proofs.MatchedRuns

/-!
# The same build from two disks

A build reads the sources of its exports, its own directory and the way there, and nothing else. So
it goes alike from two disks that agree on these, also when it fails: with the same result, the same
indices, the same events and the same entries in its directory. Other directories that the second
disk has on the way do not matter. This module tells what agreeing means, and that every operation
of a build keeps it. Main statements: `Vacant.of_undisturbed`, `beside_of_makeDirectories` and
`Beside.copyChildren`.
-/
namespace ModPack

open Assembly (stringPlace)

namespace Disk

variable {sources : Location → Prop} {disk before between after : Disk} {dir path : Path}
  {location : Location}

/-- A place for a build: nothing is in the directory yet, and neither the directory nor what has to
be made on the way there lies among the sources. -/
structure Vacant (sources : Location → Prop) (disk : Disk) (dir : Path) : Prop where
  fresh : disk.Fresh dir
  way : ∀ parts, parts <+: dir.parts → disk.tree.get? (disk.spot { dir with parts }) = none →
    ∀ source, sources source → (disk.spot { dir with parts }).within source = false
  clear : ∀ source, sources source → Location.Apart source (disk.spot dir)

/-- There is no file on the way to the directory, nor in its place. -/
def Open (disk : Disk) (dir : Path) : Prop :=
  ∀ parts, parts <+: dir.parts → ∀ content,
    disk.tree.get? (disk.spot { dir with parts }) ≠ some (.file content)

/-- Work elsewhere: sources and the place for a build are as before, and on the way to the place
there is no more than directories that were missing. -/
structure Undisturbed (sources : Location → Prop) (dir : Path) (before after : Disk) : Prop extends
    Keeps before after where
  sources : ∀ source, sources source → after.tree.inside source = before.tree.inside source
  place : after.tree.inside (before.spot dir) = before.tree.inside (before.spot dir)
  way : ∀ parts, parts <+: dir.parts →
    after.tree.get? (before.spot { dir with parts }) =
        before.tree.get? (before.spot { dir with parts }) ∨
      before.tree.get? (before.spot { dir with parts }) = none ∧
        after.tree.get? (before.spot { dir with parts }) = some .directory

theorem Undisturbed.refl (sources : Location → Prop) (dir : Path) (disk : Disk) :
    Undisturbed sources dir disk disk :=
  ⟨.refl disk, fun _ _ => rfl, rfl, fun _ _ => .inl rfl⟩

theorem Undisturbed.trans (h : Undisturbed sources dir before between)
    (h' : Undisturbed sources dir between after) : Undisturbed sources dir before after := by
  have hplace := h'.place
  have hway := h'.way
  simp only [h.spot_eq] at hplace hway
  refine ⟨h.toKeeps.trans h'.toKeeps, fun source hsource => ?_, hplace.trans h.place,
    fun parts hparts => ?_⟩
  · rw [h'.sources source hsource, h.sources source hsource]
  · rcases hway parts hparts with hsame | ⟨hmissing, hmade⟩
    · rw [hsame]
      exact h.way parts hparts
    · rcases h.way parts hparts with hsame | ⟨_, hdirectory⟩
      · exact .inr ⟨hsame.symm.trans hmissing, hmade⟩
      · rw [hmissing] at hdirectory
        cases hdirectory

theorem Vacant.of_undisturbed (h : Vacant sources before dir)
    (hsame : Undisturbed sources dir before after) : Vacant sources after dir := by
  constructor
  · intro entry hentry hwithin
    rw [hsame.spot_eq] at hwithin ⊢
    have hinside : entry ∈ after.tree.inside (before.spot dir) :=
      List.mem_filter.2 ⟨hentry, hwithin⟩
    rw [hsame.place] at hinside
    exact h.fresh entry (List.mem_filter.1 hinside).1 hwithin
  · intro parts hparts hmissing
    rw [hsame.spot_eq] at hmissing ⊢
    rcases hsame.way parts hparts with hstill | ⟨_, hmade⟩
    · exact h.way parts hparts (hstill.symm.trans hmissing)
    · rw [hmissing] at hmade
      cases hmade
  · intro source hsource
    rw [hsame.spot_eq]
    exact h.clear source hsource

/-- In a directory that is there nothing has to be made on the way. -/
theorem Vacant.of_parent (hfresh : disk.Fresh dir)
    (hparent : disk.directory? dir.parent = some location)
    (hclear : ∀ source, sources source → Location.Apart source (disk.spot dir)) :
    Vacant sources disk dir := by
  refine ⟨hfresh, fun parts hparts hmissing source hsource => ?_, hclear⟩
  obtain ⟨back, hback⟩ := hparts
  rcases List.eq_nil_or_concat back with rfl | ⟨init, last, rfl⟩
  · rw [List.append_nil] at hback
    rw [hback]
    exact (hclear source hsource).right
  · have habove : dir.parts.dropLast = parts ++ init := by
      rw [← hback, List.concat_eq_append, ← List.append_assoc, List.dropLast_concat]
    obtain ⟨hwalk, hdirectory⟩ := directory?_eq_some.1 hparent
    have hthere : disk.tree.isDirectory (disk.spot { dir with parts }) = true := by
      by_cases hinit : init = []
      · rw [hinit, List.append_nil] at habove
        rw [eq_spot_of_locate hwalk, Path.parent, habove] at hdirectory
        exact hdirectory
      · have hthrough : walk disk.tree (disk.start dir) (parts ++ init) = .ok location := by
          rw [← habove]
          exact hwalk
        exact isDirectory_of_walk_append hinit hthrough
    rw [FileTree.isDirectory_iff.1 hthere] at hmissing
    cases hmissing

/-- Whether files are on the way is told by either disk. -/
theorem Undisturbed.open_iff (hsame : Undisturbed sources dir before after) :
    after.Open dir ↔ before.Open dir := by
  refine forall_congr' fun parts => forall_congr' fun hparts => forall_congr' fun content => ?_
  rw [hsame.spot_eq]
  rcases hsame.way parts hparts with hstill | ⟨hmissing, hmade⟩
  · rw [hstill]
  · simp [hmissing, hmade]

/-! ## The directory of the build -/

/-- The same is found where the same is. -/
theorem find_congr {first second : Disk} (hlocate : second.locate path = first.locate path)
    (hget : ∀ location, first.locate path = .ok location →
      second.tree.get? location = first.tree.get? location) :
    second.find path = first.find path := by
  rw [find, find, hlocate]
  cases hthere : first.locate path with
  | error error => rfl
  | ok location => simp only [bind, Except.bind, hget location hthere]

/-- A walk stops where nothing is, or at a file. -/
theorem walk_error {tree : FileTree} {here : Location} {parts : List String} {error : OsError}
    (h : walk tree here parts = .error error) :
    error = .notFound ∨ ∃ front, front <+: parts ∧
      ∃ content, tree.get? (front.foldl stepTo here) = some (.file content) := by
  induction parts generalizing here with
  | nil => cases h
  | cons part rest ih =>
    rw [walk] at h
    split at h
    · exact .inl (Except.error.inj h).symm
    · next content hfile => exact .inr ⟨[], List.nil_prefix, content, hfile⟩
    · rcases ih h with hmissing | ⟨front, hfront, hfile⟩
      · exact .inl hmissing
      · exact .inr ⟨part :: front, List.cons_prefix_cons.2 ⟨rfl, hfront⟩, hfile⟩

/-- A directory is made where no file is. -/
theorem exists_makeDirectory {path : Path} {there : Location}
    (hlocate : disk.locate path = .ok there)
    (hfile : ∀ content, disk.tree.get? (disk.spot path) ≠ some (.file content)) :
    ∃ made, outcome (makeDirectory true path) disk = (.ok (), made) := by
  rw [← eq_spot_of_locate hlocate] at hfile
  rw [outcome_makeDirectory, hlocate]
  dsimp only
  split
  · exact ⟨_, rfl⟩
  · exact ⟨_, rfl⟩
  · next content hthere => exact absurd hthere (hfile content)

/-- From the directory above it a path leads on. -/
theorem exists_locate_of_parent {path : Path} {location : Location} (hparts : path.parts ≠ [])
    (hparent : disk.directory? path.parent = some location) :
    ∃ there, disk.locate path = .ok there := by
  obtain ⟨hwalk, hdirectory⟩ := directory?_eq_some.1 hparent
  obtain ⟨name, hname⟩ : ∃ name, path.parts = path.parts.dropLast ++ [name] :=
    ⟨_, (List.dropLast_append_getLast hparts).symm⟩
  refine ⟨stepTo location name, ?_⟩
  change walk disk.tree (disk.start path) path.parts = _
  rw [hname]
  exact walk_append_ok.2 ⟨_, hwalk, walk_cons_ok.2 ⟨hdirectory, rfl⟩⟩

/-- Where no file is on the way, a directory can be made. The recursion goes up the path. -/
theorem Open.makeDirectories {path : Path} {disk : Disk} (hopen : disk.Open path) :
    ∃ made, outcome (Disk.makeDirectories true path) disk = (.ok (), made) := by
  have hself := hopen path.parts (List.prefix_refl _)
  rw [Disk.makeDirectories, outcome_get_bind]
  cases hlocate : disk.locate path with
  | ok there => exact exists_makeDirectory hlocate hself
  | error error =>
    rcases walk_error hlocate with rfl | ⟨front, hfront, content, hfile⟩
    · dsimp only
      split
      · next hparts =>
        have hstart : disk.locate path = .ok (disk.start path) := by
          rw [locate, hparts]
          rfl
        cases hlocate.symm.trans hstart
      · next hparts =>
        have hparent : disk.Open path.parent := fun parts hfront =>
          hopen parts (hfront.trans (List.dropLast_prefix _))
        obtain ⟨made, hmade⟩ := hparent.makeDirectories
        have hfiles := makeDirectories_addsNoFile (disk.spot path) true path.parent disk
        rw [hmade] at hfiles
        obtain ⟨there, hthere⟩ :=
          exists_locate_of_parent hparts (directory?_of_makeDirectories hmade)
        obtain ⟨last, hdone⟩ := exists_makeDirectory hthere fun content hfile => by
          rw [hfiles.spot_eq] at hfile
          exact hself content (hfiles.file content hfile)
        exact ⟨last, outcome_bind_ok.2 ⟨(), made, hmade, hdone⟩⟩
    · exact absurd hfile (hopen front hfront content)
termination_by path.parts.length
decreasing_by
  have hpos := List.length_pos_iff.2 ‹¬path.parts = []›
  simp only [Path.parent, List.length_dropLast]
  omega

/-- Past a file no directory can be made: all that is there stays. -/
theorem Open.of_makeDirectories {existOk : Bool} {made : Disk}
    (h : outcome (Disk.makeDirectories existOk dir) disk = (.ok (), made)) : disk.Open dir := by
  intro parts hparts content hfile
  have hgrows := grows_of_makeDirectories h
  have hfront := isDirectory_of_front (directory?_of_makeDirectories h) hparts
  have hspot : parts.foldl stepTo (made.start dir) = disk.spot { dir with parts } :=
    hgrows.keeps.spot_eq { dir with parts }
  rw [hspot, FileTree.isDirectory_iff, hgrows.found _ _ hfile] at hfront
  cases hfront

/-- Where a directory was made there are directories all along the way. -/
theorem covered_of_makeDirectories {existOk : Bool} {made : Disk} (region : Location)
    (h : outcome (makeDirectories existOk dir) disk = (.ok (), made)) :
    Covered region dir made := by
  intro parts hparts
  have hfront := isDirectory_of_front (directory?_of_makeDirectories h) hparts
  exact .inr hfront

/-! ## Two disks -/

/-- The disks of two builds into one directory at the same point, begun on the disks `start` and
`start'`. -/
structure Beside (dir : Path) (start start' first second : Disk) : Prop where
  changes : Changes dir start first
  changes' : Changes dir start' second
  covered : Covered (start.spot dir) dir first
  covered' : Covered (start.spot dir) dir second
  inside : ∀ location, location.within (start.spot dir) = true →
    second.tree.get? location = first.tree.get? location

/-- A walk is told by what is at the places that it comes through. -/
theorem walk_eq_of_get?_eq {tree other : FileTree} {here : Location} {parts : List String}
    (h : ∀ front, front <+: parts →
      other.get? (front.foldl stepTo here) = tree.get? (front.foldl stepTo here)) :
    walk other here parts = walk tree here parts := by
  induction parts generalizing here with
  | nil => rfl
  | cons part rest ih =>
    have hhere : other.get? here = tree.get? here := h [] List.nil_prefix
    rw [walk, walk, hhere]
    split
    · rfl
    · rfl
    · exact ih fun front hfront => h (part :: front) (List.cons_prefix_cons.2 ⟨rfl, hfront⟩)

section Beside

variable {start start' first second : Disk} {source target : Location} {entry : Entry}
  {goal : Path} {parts : List String}
  (hsame : Undisturbed sources dir start start') (h : Beside dir start start' first second)

include hsame

/-- The first step of both builds. -/
theorem beside_of_makeDirectories {made made' : Disk}
    (hmade : outcome (makeDirectories true dir) start = (.ok (), made))
    (hmade' : outcome (makeDirectories true dir) start' = (.ok (), made')) :
    Beside dir start start' made made' := by
  have hchanges := changes_makeDirectories (Path.Below.refl dir) true start
  have hchanges' := changes_makeDirectories (Path.Below.refl dir) true start'
  have hoff := makeDirectories_keepsOff true dir start
  have hoff' := makeDirectories_keepsOff true dir start'
  rw [hmade] at hchanges hoff
  rw [hmade'] at hchanges' hoff'
  refine ⟨hchanges, hchanges', covered_of_makeDirectories _ hmade,
    covered_of_makeDirectories _ hmade', fun location hlocation => ?_⟩
  by_cases hway : ∀ parts, parts <+: dir.parts → location ≠ start.spot { dir with parts }
  · have hbefore := hoff'.2 location
    simp only [hsame.spot_eq] at hbefore
    rw [hoff.2 location hway, hbefore hway]
    exact FileTree.get?_eq_of_inside_eq hsame.place hlocation
  · push Not at hway
    obtain ⟨parts, hparts, rfl⟩ := hway
    have hdirectory := isDirectory_of_front (directory?_of_makeDirectories hmade) hparts
    have hdirectory' := isDirectory_of_front (directory?_of_makeDirectories hmade') hparts
    have hspot : parts.foldl stepTo (made.start dir) = start.spot { dir with parts } :=
      hchanges.spot_eq { dir with parts }
    have hspot' : parts.foldl stepTo (made'.start dir) = start.spot { dir with parts } :=
      (hchanges'.spot_eq { dir with parts }).trans (hsame.spot_eq _)
    rw [hspot, FileTree.isDirectory_iff] at hdirectory
    rw [hspot', FileTree.isDirectory_iff] at hdirectory'
    rw [hdirectory, hdirectory']

namespace Beside

include h

omit hsame in
theorem spot_eq (path : Path) : first.spot path = start.spot path :=
  h.changes.spot_eq path

theorem spot_eq' (path : Path) : second.spot path = start.spot path :=
  (h.changes'.spot_eq path).trans (hsame.spot_eq path)

omit hsame in
theorem isDirectory_eq (hlocation : location.within (start.spot dir) = true) :
    second.tree.isDirectory location = first.tree.isDirectory location := by
  rw [FileTree.isDirectory, FileTree.isDirectory, h.inside location hlocation]

/-- The same is found on both disks along a path that leads to the directory and on from it. -/
theorem get?_front (hgoal : Path.Below dir goal) (hparts : parts <+: goal.parts) :
    second.tree.get? (start.spot { goal with parts }) =
      first.tree.get? (start.spot { goal with parts }) := by
  rcases hgoal.front start hparts with ⟨hfront, heq⟩ | hwithin
  · have hhere := h.covered parts hfront
    have hhere' := h.covered' parts hfront
    rw [heq]
    rw [h.spot_eq] at hhere
    rw [h.spot_eq' hsame] at hhere'
    rcases hhere with hwithin | hdirectory
    · exact h.inside _ hwithin
    · rcases hhere' with hwithin | hdirectory'
      · exact h.inside _ hwithin
      · rw [FileTree.isDirectory_iff.1 hdirectory, FileTree.isDirectory_iff.1 hdirectory']
  · exact h.inside _ hwithin

theorem locate_eq (hgoal : Path.Below dir goal) (hparts : parts <+: goal.parts) :
    second.locate { goal with parts } = first.locate { goal with parts } := by
  have hstart : second.start { goal with parts } = first.start { goal with parts } := by
    rw [h.changes.start_eq, h.changes'.start_eq, hsame.start_eq]
  change walk second.tree (second.start { goal with parts }) parts =
    walk first.tree (first.start { goal with parts }) parts
  rw [hstart, h.changes.start_eq]
  exact walk_eq_of_get?_eq fun front hfront => h.get?_front hsame hgoal (hfront.trans hparts)

/-- Both builds put the same entry. -/
theorem withEntry (hplace : start.MayPut dir location entry) (hfits : Fits first location entry)
    (hfits' : Fits second location entry) :
    Beside dir start start' (first.withEntry location entry) (second.withEntry location entry) := by
  have hplace' : start'.MayPut dir location entry := by
    simpa only [MayPut, hsame.spot_eq] using hplace
  refine ⟨h.changes.put hplace hfits, h.changes'.put hplace' hfits',
    h.covered.of_keeps (.withEntry hfits.ne_nil hfits.replaces),
    h.covered'.of_keeps (.withEntry hfits'.ne_nil hfits'.replaces), fun other hother => ?_⟩
  rw [Disk.get?_withEntry hfits.ne_nil, Disk.get?_withEntry hfits.ne_nil, h.inside other hother]

theorem makeDirectory (hgoal : Path.Below dir goal) (hparts : parts <+: goal.parts)
    (existOk : Bool) :
    Matched (Beside dir start start') (makeDirectory existOk { goal with parts })
      (makeDirectory existOk { goal with parts }) first second := by
  have hone := outcome_makeDirectory existOk { goal with parts } first
  have htwo := outcome_makeDirectory existOk { goal with parts } second
  rw [h.locate_eq hsame hgoal hparts] at htwo
  cases hlocate : first.locate { goal with parts } with
  | error error =>
    rw [hlocate] at hone htwo
    exact .of_outcomes hone htwo h
  | ok location =>
    obtain rfl : location = start.spot { goal with parts } :=
      (eq_spot_of_locate hlocate).trans (h.spot_eq _)
    rw [hlocate] at hone htwo
    dsimp only at hone htwo
    have hfound' := h.get?_front hsame hgoal hparts
    rw [hfound'] at htwo
    cases hfound : first.tree.get? (start.spot { goal with parts }) with
    | none =>
      rw [hfound] at hone htwo hfound'
      exact .of_outcomes hone htwo (h.withEntry hsame (mayPut_of_below hgoal hparts) hfound hfound')
    | some entry =>
      rw [hfound] at hone htwo
      cases entry with
      | directory => exact .of_outcomes hone htwo h
      | file content => exact .of_outcomes hone htwo h

/-- The recursion goes up the path, which may lead above the directory of the build. -/
theorem makeDirectories {parts : List String} (hgoal : Path.Below dir goal)
    (hparts : parts <+: goal.parts) (existOk : Bool) :
    Matched (Beside dir start start') (makeDirectories existOk { goal with parts })
      (makeDirectories existOk { goal with parts }) first second := by
  rw [Disk.makeDirectories]
  refine .get_bind ?_
  rw [h.locate_eq hsame hgoal hparts]
  split
  · split
    · exact .throw h _
    · have hparent := (List.dropLast_prefix parts).trans hparts
      exact (Beside.makeDirectories hgoal hparent true).bind fun _ _ _ h =>
        h.makeDirectory hsame hgoal hparts existOk
  · exact h.makeDirectory hsame hgoal hparts existOk
termination_by parts.length
decreasing_by
  have hpos := List.length_pos_iff.2 ‹¬parts = []›
  simp only [List.length_dropLast]
  omega

theorem find_eq (hgoal : Path.Below dir goal) : second.find goal = first.find goal := by
  have hlocate : second.locate goal = first.locate goal :=
    h.locate_eq hsame hgoal (List.prefix_refl _)
  refine find_congr hlocate fun location hthere => ?_
  rw [(eq_spot_of_locate hthere).trans (h.spot_eq goal)]
  exact h.get?_front hsame hgoal (List.prefix_refl _)

theorem put (hplace : start.MayPut dir location entry) (hfits : Fits first location entry)
    (hfits' : Fits second location entry) :
    Matched (Beside dir start start') (Disk.put location entry) (Disk.put location entry) first
      second :=
  ⟨rfl, h.withEntry hsame hplace hfits hfits'⟩

/-- Both builds clear the directory of strings. -/
theorem removeTree :
    Matched (Beside dir start start') (Disk.removeTree (dir / "strings"))
      (Disk.removeTree (dir / "strings")) first second := by
  have hstrings : Path.Plain "strings" := Path.plain_of_not_mem (by decide)
  unfold Disk.removeTree
  refine .get_bind ?_
  rw [h.find_eq hsame ((Path.Below.refl dir).div hstrings)]
  refine .ofExcept_bind h fun found hfound => ?_
  obtain ⟨location, entry⟩ := found
  cases entry with
  | file content => exact .throw h _
  | directory =>
    obtain rfl : location = stringPlace (start.spot dir) := by
      rw [eq_spot_of_locate (find_ok.1 hfound).1, h.spot_eq, spot_div hstrings]
      rfl
    have hclear := h.changes.clear
    have hclear' := h.changes'.clear
    rw [hsame.spot_eq] at hclear'
    have hplace : stringPlace (start.spot dir) ≠ [] := List.cons_ne_nil _ _
    have hcovered {disk : Disk} (hdisk : Covered (start.spot dir) dir disk) :
        Covered (start.spot dir) dir (disk.without (stringPlace (start.spot dir))) := by
      intro parts hparts
      change (disk.spot { dir with parts }).within (start.spot dir) = true ∨
        (disk.without _).tree.isDirectory (disk.spot { dir with parts }) = true
      cases hwithin : (disk.spot { dir with parts }).within (start.spot dir) with
      | true => exact .inl rfl
      | false =>
        have hout : (disk.spot { dir with parts }).within (stringPlace (start.spot dir)) = false :=
          Location.not_within_below hwithin
        refine .inr (Disk.isDirectory_without hplace hout ((hdisk parts hparts).resolve_left ?_))
        rw [hwithin]
        exact Bool.false_ne_true
    refine ⟨rfl, hclear, hclear', hcovered h.covered, hcovered h.covered',
      fun location hlocation => ?_⟩
    change (second.without _).tree.get? location = (first.without _).tree.get? location
    rw [Disk.get?_without hplace, Disk.get?_without hplace, h.inside location hlocation]

theorem writeText (hgoal : Path.Below dir goal) (text : String) :
    Matched (Beside dir start start') (Disk.writeText goal text) (Disk.writeText goal text) first
      second := by
  have hlocate : second.locate goal = first.locate goal :=
    h.locate_eq hsame hgoal (List.prefix_refl _)
  unfold Disk.writeText writeBytes
  refine .get_bind ?_
  rw [hlocate]
  refine .ofExcept_bind h fun location hthere => ?_
  obtain rfl : location = start.spot goal := (eq_spot_of_locate hthere).trans (h.spot_eq _)
  have hwithin := hgoal.within_spot start
  have hdirectory := h.isDirectory_eq hwithin
  dsimp only
  rw [hdirectory]
  split
  · next hthere =>
    exact Matched.throw h _
  · next hfile =>
    have hfile := Bool.eq_false_iff.2 hfile
    exact h.put hsame (.inl hwithin) hfile (hdirectory.trans hfile)

/-! ## Copies -/

theorem copyFile (hgoal : target.within (start.spot dir) = true) (content : ByteArray) :
    Matched (Beside dir start start') (Disk.copyFile source content target)
      (Disk.copyFile source content target) first second := by
  have hone := outcome_copyFile source content target first
  have htwo := outcome_copyFile source content target second
  have hplace : copyPlace second source target = copyPlace first source target := by
    rw [copyPlace, copyPlace, h.isDirectory_eq hgoal]
  have hwithin := within_copyPlace first source hgoal
  rw [hplace, h.isDirectory_eq hwithin] at htwo
  split at hone
  · next heq =>
    rw [if_pos heq] at htwo
    exact .of_outcomes hone htwo h
  next hother =>
  rw [if_neg hother] at htwo
  split at hone
  · next hdirectory =>
    rw [if_pos hdirectory] at htwo
    exact .of_outcomes hone htwo h
  · next hfile =>
    rw [if_neg hfile] at htwo
    have hfile := Bool.eq_false_iff.2 hfile
    have hfile' := (h.isDirectory_eq hwithin).trans hfile
    exact .of_outcomes hone htwo (h.withEntry hsame (.inl hwithin) hfile hfile')

theorem enter (hgoal : target.within (start.spot dir) = true) :
    Matched (Beside dir start start') (Disk.enter target) (Disk.enter target) first second := by
  have hone := outcome_enter target first
  have htwo := outcome_enter target second
  rw [h.inside target hgoal] at htwo
  cases hfound : first.tree.get? target with
  | none =>
    have hfound' := (h.inside target hgoal).trans hfound
    rw [hfound] at hone htwo
    exact .of_outcomes hone htwo (h.withEntry hsame (.inl hgoal) hfound hfound')
  | some found =>
    rw [hfound] at hone htwo
    cases found with
    | directory => exact .of_outcomes hone htwo h
    | file content => exact .of_outcomes hone htwo h

theorem copyEntry (hgoal : target.within (start.spot dir) = true) (path : Location)
    (entry : Entry) :
    Matched (Beside dir start start') (Disk.copyEntry source target path entry)
      (Disk.copyEntry source target path entry) first second := by
  have hbelow (front : Location) : (front ++ target).within (start.spot dir) = true :=
    Location.append_within _ hgoal
  unfold Disk.copyEntry
  refine .get_bind ?_
  rw [h.isDirectory_eq (hbelow path.tail)]
  dsimp only
  split
  · cases entry with
    | directory => exact h.enter hsame (hbelow path)
    | file content => exact h.copyFile hsame (hbelow path) content
  · exact (Matched.throw h _).bind fun _ _ _ h => by
      cases entry with
      | directory => exact h.enter hsame (hbelow path)
      | file content => exact h.copyFile hsame (hbelow path) content

/-- A directory is copied alike when it holds the same on both disks. -/
theorem copyTree (hgoal : target.within (start.spot dir) = true)
    (hcontents : second.tree.contents source = first.tree.contents source) :
    Matched (Beside dir start start') (Disk.copyTree source target)
      (Disk.copyTree source target) first second := by
  unfold Disk.copyTree
  refine .get_bind ?_
  rw [hcontents]
  refine (h.enter hsame hgoal).bind fun _ _ _ h => ?_
  refine Matched.bind (.mapM h fun item _ _ _ h => ?_) fun _ _ _ h => ?_
  · refine .tryCatch ?_ fun _ _ _ h => .pure h false
    exact (h.copyEntry hsame hgoal _ _).bind fun _ _ _ h => .pure h true
  · split
    · exact .pure h _
    · exact .throw h _

end Beside

/-! ## Sources -/

omit hsame in
theorem Vacant.inside_eq (hvacant : Vacant sources disk dir) (hchanges : Changes dir disk after)
    (hsource : sources source) : after.tree.inside source = disk.tree.inside source :=
  hchanges.inside_eq (hvacant.clear source hsource) fun parts hparts hmissing =>
    hvacant.way parts hparts hmissing source hsource

namespace Beside

variable (hvacant : Vacant sources start dir)
include h hvacant

/-- Neither build changes its sources. -/
theorem sources_eq (hsource : sources source) :
    second.tree.inside source = first.tree.inside source := by
  rw [hvacant.inside_eq h.changes hsource,
    (hvacant.of_undisturbed hsame).inside_eq h.changes' hsource, hsame.sources source hsource]

theorem directory?_eq (hthere : start.directory? path = some location) :
    first.directory? path = some location ∧ second.directory? path = some location := by
  have hkeeps := h.changes.keeps hvacant.fresh
  have hkeeps' := h.changes'.keeps (hvacant.of_undisturbed hsame).fresh
  exact ⟨hkeeps.directory? hthere, (hsame.toKeeps.trans hkeeps').directory? hthere⟩

/-- The children of a source are copied alike. -/
theorem copyChildren (hgoal : Path.Below dir goal) (hthere : start.directory? path = some source)
    (hsource : sources source) :
    Matched (Beside dir start start') (Disk.copyChildren path goal)
      (Disk.copyChildren path goal) first second := by
  obtain ⟨hfirst, hsecond⟩ := h.directory?_eq hsame hvacant hthere
  have hchildren := FileTree.children_eq_of_inside_eq (h.sources_eq hsame hvacant hsource)
  have hlist : first.list path = .ok (first.tree.children source) :=
    list_ok.2 ⟨source, hfirst, rfl⟩
  have hlist' : second.list path = .ok (first.tree.children source) :=
    list_ok.2 ⟨source, hsecond, hchildren⟩
  have hfind {disk : Disk} (hdir : disk.directory? path = some source) :
      disk.find path = .ok (source, .directory) := by
    obtain ⟨hlocate, hdirectory⟩ := directory?_eq_some.1 hdir
    exact find_ok.2 ⟨hlocate, FileTree.isDirectory_iff.1 hdirectory⟩
  unfold Disk.copyChildren
  refine .get_bind ?_
  rw [hlist, hlist', hfind hfirst, hfind hsecond, h.find_eq hsame hgoal]
  refine .ofExcept_bind h fun _ hlisting => .ofExcept_bind h fun _ horigin =>
    .ofExcept_bind h fun found hdestination => ?_
  cases hlisting
  cases horigin
  obtain ⟨destination, _⟩ := found
  obtain rfl : destination = start.spot goal :=
    (eq_spot_of_locate (find_ok.1 hdestination).1).trans (h.spot_eq _)
  have hbelow (name : String) : Location.within (name :: start.spot goal) (start.spot dir) = true :=
    Location.cons_within _ (hgoal.within_spot start)
  dsimp only
  refine Matched.bind (.forIn h fun item _ first second h => ?_) fun _ _ _ h => .pure h _
  obtain ⟨name, entry⟩ := item
  cases entry with
  | directory =>
    have hcontents := FileTree.contents_eq_of_inside_eq (h.sources_eq hsame hvacant hsource)
      (Location.within_cons name source)
    exact (h.copyTree hsame (hbelow name) hcontents).bind fun _ _ _ h => .pure h _
  | file content => exact (h.copyFile hsame (hbelow name) content).bind fun _ _ _ h => .pure h _

/-- A file of a source is read alike. -/
theorem readFile_div {name : String} (hthere : start.directory? path = some source)
    (hname : Path.Plain name) (hsource : sources source) :
    second.readFile (path / name) = first.readFile (path / name) := by
  obtain ⟨hfirst, hsecond⟩ := h.directory?_eq hsame hvacant hthere
  have hfile : second.tree.get? (name :: source) = first.tree.get? (name :: source) :=
    FileTree.get?_eq_of_inside_eq (h.sources_eq hsame hvacant hsource)
      (Location.within_cons _ _)
  have hlocate := locate_div hfirst hname
  have hfind : second.find (path / name) = first.find (path / name) := by
    refine find_congr ((locate_div hsecond hname).trans hlocate.symm) fun location hlocation => ?_
    cases hlocate.symm.trans hlocation
    exact hfile
  rw [readFile, readFile, hfind]

end Beside

end Beside

end Disk

end ModPack
