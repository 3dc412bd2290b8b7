import ModPack.Proofs.MatchedRuns
import ModPack.Proofs.ReorderedDisks

/-!
# Actions on disks that differ in the order of declarations

An action that is done on two disks that differ in the order of dependencies has the same result on
both, also when it fails, and the disks still differ in nothing else. Copying is the exception: it
repeats what it finds, so nothing that is copied may be a manifest that differs. Main statements:
`steady_makeDirectories`, `steady_writeText` and `copyChildren_alongside`.
-/
namespace ModPack.Disk

variable {α β : Type} {manifestName : String} {moved : Location → Prop} {first second : Disk}
  {source target : Location}

/-- Two actions, each on its own disk, that have the same result and leave disks that differ in the
order of dependencies only. -/
structure Alongside (manifestName : String) (moved : Location → Prop) (op op' : Op α)
    (first second : Disk) : Prop where
  result : (outcome op' second).1 = (outcome op first).1
  disks : Reordered manifestName moved (outcome op first).2 (outcome op' second).2

/-- The action does the same on all disks that differ in the order of dependencies only. -/
def Steady (manifestName : String) (moved : Location → Prop) (op : Op α) : Prop :=
  ∀ first second, Reordered manifestName moved first second →
    Alongside manifestName moved op op first second

/-! ## Composition -/

/-- So the actions match, and what holds of actions that match holds of them. -/
theorem alongside_iff {op op' : Op α} :
    Alongside manifestName moved op op' first second ↔
      Matched (Reordered manifestName moved) op op' first second :=
  ⟨fun h => ⟨h.result, h.disks⟩, fun h => ⟨h.result, h.disks⟩⟩

theorem Alongside.of_outcomes {op op' : Op α} {result : Except OsError α} {after after' : Disk}
    (h : outcome op first = (result, after)) (h' : outcome op' second = (result, after'))
    (hdisks : Reordered manifestName moved after after') :
    Alongside manifestName moved op op' first second :=
  alongside_iff.2 (.of_outcomes h h' hdisks)

/-- What succeeds on one disk succeeds on the other. -/
theorem Alongside.outcome_ok {op op' : Op α} {value : α} {after : Disk}
    (h : Alongside manifestName moved op op' first second)
    (hfirst : outcome op first = (.ok value, after)) :
    ∃ after', outcome op' second = (.ok value, after') ∧
      Reordered manifestName moved after after' :=
  (alongside_iff.1 h).outcome_ok hfirst

theorem Alongside.get_bind {next next' : Disk → Op α}
    (h : Alongside manifestName moved (next first) (next' second) first second) :
    Alongside manifestName moved (get >>= next) (get >>= next') first second :=
  alongside_iff.2 (.get_bind (alongside_iff.1 h))

theorem Alongside.ofExcept_bind {result : Except OsError α} {next next' : α → Op β}
    (hdisks : Reordered manifestName moved first second)
    (h : ∀ value, result = .ok value →
      Alongside manifestName moved (next value) (next' value) first second) :
    Alongside manifestName moved ((result : Op α) >>= next) ((result : Op α) >>= next') first
      second :=
  alongside_iff.2 (.ofExcept_bind hdisks fun value hvalue => alongside_iff.1 (h value hvalue))

theorem steady_pure (value : α) : Steady manifestName moved (pure value : Op α) :=
  fun _ _ hdisks => alongside_iff.2 (.pure hdisks value)

theorem steady_throw (error : OsError) : Steady manifestName moved (throw error : Op α) :=
  fun _ _ hdisks => alongside_iff.2 (.throw hdisks error)

theorem steady_put (location : Location) (entry : Entry) :
    Steady manifestName moved (put location entry) :=
  fun _ _ hdisks => ⟨rfl, hdisks.withEntry location entry⟩

theorem Steady.matched {op : Op α} (h : Steady manifestName moved op)
    (hdisks : Reordered manifestName moved first second) :
    Matched (Reordered manifestName moved) op op first second :=
  alongside_iff.1 (h first second hdisks)

theorem Steady.bind {op : Op α} {next : α → Op β} (h : Steady manifestName moved op)
    (hnext : ∀ value, Steady manifestName moved (next value)) :
    Steady manifestName moved (op >>= next) :=
  fun _ _ hdisks => alongside_iff.2
    ((h.matched hdisks).bind fun value _ _ hafter => (hnext value).matched hafter)

theorem Steady.tryCatch {body : Op α} {handler : OsError → Op α}
    (h : Steady manifestName moved body)
    (hhandler : ∀ error, Steady manifestName moved (handler error)) :
    Steady manifestName moved (tryCatch body handler) :=
  fun _ _ hdisks => alongside_iff.2
    ((h.matched hdisks).tryCatch fun error _ _ hafter => (hhandler error).matched hafter)

theorem steady_mapM {items : List α} {work : α → Op β}
    (h : ∀ item ∈ items, Steady manifestName moved (work item)) :
    Steady manifestName moved (items.mapM work) :=
  fun _ _ hdisks => alongside_iff.2
    (.mapM hdisks fun item hitem _ _ hafter => (h item hitem).matched hafter)

theorem steady_forIn {items : List α} {work : α → PUnit → Op (ForInStep PUnit)}
    (h : ∀ item ∈ items, Steady manifestName moved (work item ⟨⟩)) :
    Steady manifestName moved (forIn items PUnit.unit work) :=
  fun _ _ hdisks => alongside_iff.2
    (.forIn hdisks fun item hitem _ _ hafter => (h item hitem).matched hafter)

/-! ## Directories and files -/

theorem steady_makeDirectory (existOk : Bool) (path : Path) :
    Steady manifestName moved (makeDirectory existOk path) := by
  intro first second hdisks
  have hone := outcome_makeDirectory existOk path first
  have htwo := outcome_makeDirectory existOk path second
  rw [hdisks.locate_eq path] at htwo
  cases hlocate : first.locate path with
  | error error =>
    rw [hlocate] at hone htwo
    exact .of_outcomes hone htwo hdisks
  | ok location =>
    rw [hlocate] at hone htwo
    dsimp only at hone htwo
    cases hfound : first.tree.get? location with
    | none =>
      rw [hfound] at hone
      rw [hdisks.tree.get?_eq_none hfound] at htwo
      exact .of_outcomes hone htwo (hdisks.withEntry location .directory)
    | some entry =>
      obtain ⟨other, hother, hentry⟩ := hdisks.tree.get?_eq_some hfound
      rw [hfound] at hone
      rw [hother] at htwo
      cases hentry with
      | same =>
        cases entry with
        | directory => exact .of_outcomes hone htwo hdisks
        | file content => exact .of_outcomes hone htwo hdisks
      | manifest => exact .of_outcomes hone htwo hdisks

/-- The recursion is on the length of the path, as in the definition. -/
theorem steady_makeDirectories (existOk : Bool) (path : Path) :
    Steady manifestName moved (makeDirectories existOk path) := by
  intro first second hdisks
  rw [makeDirectories]
  refine Alongside.get_bind ?_
  rw [hdisks.locate_eq path]
  split
  · split
    · exact steady_throw _ first second hdisks
    · refine Steady.bind ?_ (fun _ => steady_makeDirectory existOk path) first second hdisks
      exact steady_makeDirectories true path.parent
  · exact steady_makeDirectory existOk path first second hdisks
termination_by path.parts.length
decreasing_by
  have := List.length_pos_iff.2 ‹¬path.parts = []›
  simp only [Path.parent, List.length_dropLast]
  omega

theorem steady_writeText (path : Path) (text : String) :
    Steady manifestName moved (writeText path text) := by
  intro first second hdisks
  unfold writeText writeBytes
  refine Alongside.get_bind ?_
  rw [hdisks.locate_eq path]
  refine Alongside.ofExcept_bind hdisks fun location _ => ?_
  dsimp only
  rw [hdisks.tree.isDirectory_eq location]
  split
  · exact (steady_throw _).bind (fun _ => steady_put _ _) first second hdisks
  · exact steady_put _ _ first second hdisks

theorem steady_removeTree (path : Path) : Steady manifestName moved (removeTree path) := by
  intro first second hdisks
  have hplace := hdisks.locate_eq path
  unfold removeTree
  refine Alongside.get_bind ?_
  cases hfind : first.find path with
  | error error =>
    rw [hdisks.find_error hplace hfind]
    exact Alongside.ofExcept_bind hdisks nofun
  | ok found =>
    obtain ⟨location, entry⟩ := found
    obtain ⟨other, hother, hentry⟩ := hdisks.find_ok hplace hfind
    rw [hother]
    cases hentry with
    | same =>
      cases entry with
      | directory => exact ⟨rfl, hdisks.without location⟩
      | file content => exact ⟨rfl, hdisks⟩
    | manifest => exact ⟨rfl, hdisks⟩

/-! ## Copies -/

theorem copyPlace_eq (hdisks : Reordered manifestName moved first second)
    (source target : Location) : copyPlace second source target = copyPlace first source target := by
  rw [copyPlace, copyPlace, hdisks.tree.isDirectory_eq]

theorem steady_copyFile (source : Location) (content : ByteArray) (target : Location) :
    Steady manifestName moved (copyFile source content target) := by
  intro first second hdisks
  have hone := outcome_copyFile source content target first
  have htwo := outcome_copyFile source content target second
  rw [copyPlace_eq hdisks, hdisks.tree.isDirectory_eq] at htwo
  split at hone
  · next hsame =>
    rw [if_pos hsame] at htwo
    exact .of_outcomes hone htwo hdisks
  next hother =>
  rw [if_neg hother] at htwo
  split at hone
  · next hdirectory =>
    rw [if_pos hdirectory] at htwo
    exact .of_outcomes hone htwo hdisks
  · next hdirectory =>
    rw [if_neg hdirectory] at htwo
    exact .of_outcomes hone htwo (hdisks.withEntry _ _)

theorem steady_enter (target : Location) : Steady manifestName moved (enter target) := by
  intro first second hdisks
  unfold enter
  refine Alongside.get_bind ?_
  cases hfound : first.tree.get? target with
  | none =>
    rw [hdisks.tree.get?_eq_none hfound]
    exact steady_put _ _ first second hdisks
  | some entry =>
    obtain ⟨other, hother, hentry⟩ := hdisks.tree.get?_eq_some hfound
    rw [hother]
    cases hentry with
    | same =>
      cases entry with
      | directory => exact steady_pure _ first second hdisks
      | file content => exact steady_throw _ first second hdisks
    | manifest => exact steady_throw _ first second hdisks

theorem steady_copyEntry (source target path : Location) (entry : Entry) :
    Steady manifestName moved (copyEntry source target path entry) := by
  intro first second hdisks
  unfold copyEntry
  refine Alongside.get_bind ?_
  dsimp only
  rw [hdisks.tree.isDirectory_eq]
  split
  · cases entry with
    | directory => exact steady_enter _ first second hdisks
    | file content => exact steady_copyFile _ _ _ first second hdisks
  · exact ⟨rfl, hdisks⟩

/-- A directory is copied alike when no manifest that differs is in it. -/
theorem steady_copyTree (target : Location)
    (hstay : ∀ below, below.within source = true → ¬ moved below) :
    Steady manifestName moved (copyTree source target) := by
  intro first second hdisks
  unfold copyTree
  refine Alongside.get_bind ?_
  have hcontents : second.tree.contents source = first.tree.contents source :=
    eq_of_listed (hdisks.tree.contents source) fun path =>
      hstay _ (Location.within_append path source)
  rw [hcontents]
  refine (steady_enter target).bind (fun _ => ?_) first second hdisks
  refine (steady_mapM fun item _ => ?_).bind fun copied => ?_
  · refine Steady.tryCatch ?_ fun _ => steady_pure false
    exact (steady_copyEntry _ _ _ _).bind fun _ => steady_pure true
  · split
    · exact steady_pure _
    · exact steady_throw _

/-- Along two paths to one directory its entries are copied alike. -/
theorem copyChildren_alongside {dir other path : Path} {location : Location}
    (hdisks : Reordered manifestName moved first second)
    (hdir : first.directory? dir = some location) (hother : second.directory? other = some location)
    (hstay : ∀ below, below.within location = true → ¬ moved below)
    (htarget : first.directory? path = some target) :
    Alongside manifestName moved (copyChildren dir path) (copyChildren other path) first second := by
  have hfind {disk : Disk} {path : Path} {location : Location}
      (h : disk.directory? path = some location) : disk.find path = .ok (location, .directory) := by
    obtain ⟨hlocate, hdirectory⟩ := directory?_eq_some.1 h
    exact find_ok.2 ⟨hlocate, FileTree.isDirectory_iff.1 hdirectory⟩
  have hlist : first.list dir = .ok (first.tree.children location) :=
    list_ok.2 ⟨location, hdir, rfl⟩
  have hlistOther : second.list other = .ok (first.tree.children location) := by
    refine list_ok.2 ⟨location, hother, eq_of_listed (hdisks.tree.children location) ?_⟩
    exact fun name => hstay _ (Location.within_cons name location)
  have htargetOther := (hdisks.directory?_eq (hdisks.locate_eq path)).trans htarget
  unfold copyChildren
  refine Alongside.get_bind ?_
  rw [hlist, hlistOther, hfind hdir, hfind hother, hfind htarget, hfind htargetOther]
  refine Alongside.ofExcept_bind hdisks fun listing hlisting => ?_
  refine Alongside.ofExcept_bind hdisks fun origin horigin => ?_
  refine Alongside.ofExcept_bind hdisks fun destination hdestination => ?_
  cases hlisting
  cases horigin
  cases hdestination
  dsimp only
  refine (steady_forIn fun item _ => ?_).bind (fun _ => steady_pure _) first second hdisks
  obtain ⟨name, entry⟩ := item
  cases entry with
  | directory =>
    refine (steady_copyTree _ fun below hbelow => hstay below ?_).bind fun _ => steady_pure _
    have hname : location <:+ name :: location := List.suffix_cons name location
    exact Location.within_iff.2 (hname.trans (Location.within_iff.1 hbelow))
  | file content => exact (steady_copyFile _ _ _).bind fun _ => steady_pure _

end ModPack.Disk
