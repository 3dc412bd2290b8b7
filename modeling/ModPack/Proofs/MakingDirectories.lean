import ModPack.Proofs.DiskFrames

/-!
# Making directories

Making a directory makes the missing ones above it, so what happens is told by what every single one
of them preserves. A directory that is made anew is empty, even when the old one was removed before
it. Main statements: `makeDirectories_grows`, `makeDirectories_keepsOutside`, `makeDirectories_ok`
and `children_of_makeDirectories`.
-/
namespace ModPack.Disk

variable {disk after : Disk} {location region here : Location} {dir path : Path} {name : String}
  {parts : List String}

/-- What every single directory that is made on the way preserves, making all of them preserves. The
recursion goes up the path, as in the definition. -/
theorem makeDirectories_steps {R : Disk → Disk → Prop} (path : Path)
    (hrefl : ∀ disk, R disk disk)
    (htrans : ∀ before between after, R before between → R between after → R before after)
    (hstep : ∀ existOk parts disk, parts <+: path.parts →
      R disk (outcome (makeDirectory existOk { path with parts }) disk).2)
    (existOk : Bool) (disk : Disk) : R disk (outcome (makeDirectories existOk path) disk).2 := by
  rcases outcome_makeDirectories existOk path disk with h | ⟨_, ⟨_, h⟩ | ⟨hparts, h⟩⟩
  · rw [h]
    exact hstep existOk path.parts disk (List.prefix_refl _)
  · rw [h]
    exact hrefl disk
  · have hparent := makeDirectories_steps (R := R) path.parent hrefl htrans
      (fun existOk parts disk hfront =>
        hstep existOk parts disk (hfront.trans (List.dropLast_prefix _))) true disk
    rw [h, outcome_bind]
    split
    · next hrun =>
      rw [hrun] at hparent
      exact htrans _ _ _ hparent (hstep existOk path.parts _ (List.prefix_refl _))
    · next hrun =>
      rwa [hrun] at hparent
termination_by path.parts.length
decreasing_by
  have hpos := List.length_pos_iff.2 hparts
  simp only [Path.parent, List.length_dropLast]
  omega

/-- What is there stays there when a directory is made. -/
theorem makeDirectory_grows (existOk : Bool) (path : Path) (disk : Disk) :
    Grows disk (outcome (makeDirectory existOk path) disk).2 := by
  rw [outcome_makeDirectory]
  split
  · exact Grows.refl disk
  · split
    · next hnone => exact Grows.withEntry hnone
    · exact Grows.refl disk
    · exact Grows.refl disk

theorem makeDirectories_grows (existOk : Bool) (path : Path) (disk : Disk) :
    Grows disk (outcome (makeDirectories existOk path) disk).2 :=
  makeDirectories_steps path Grows.refl (fun _ _ _ => Grows.trans)
    (fun existOk _ disk _ => makeDirectory_grows existOk _ disk) existOk disk

theorem grows_of_makeDirectories {existOk : Bool} {result : Except OsError Unit}
    (h : outcome (makeDirectories existOk path) disk = (result, after)) : Grows disk after := by
  have hgrows := makeDirectories_grows existOk path disk
  rwa [h] at hgrows

/-- Every entry of the tree stays one of its entries when directories are made. -/
theorem makeDirectories_entries (existOk : Bool) (path : Path) (disk : Disk) :
    disk.tree.entries ⊆ (outcome (makeDirectories existOk path) disk).2.tree.entries := by
  refine makeDirectories_steps (R := fun before after => before.tree.entries ⊆ after.tree.entries)
    path (fun _ => List.Subset.refl _) (fun _ _ _ => List.Subset.trans) ?_ existOk disk
  intro existOk parts disk _
  rw [outcome_makeDirectory]
  split
  · exact List.Subset.refl _
  · next location _ =>
    split
    · next hnone =>
      have hentries : (disk.withEntry location .directory).tree.entries =
          disk.tree.entries ++ [(location, .directory)] :=
        FileTree.putEntry_of_lookup_eq_none (FileTree.lookup_eq_none_of_get? hnone)
      rw [hentries]
      exact List.subset_append_left _ _
    · exact List.Subset.refl _
    · exact List.Subset.refl _

/-- In a rooted tree a walk ends in a directory, even where nothing is at its end. -/
theorem isDirectory_tail_of_walk {tree : FileTree} (hrooted : tree.Rooted)
    (hhere : tree.isDirectory here.tail = true) (h : walk tree here parts = .ok location) :
    tree.isDirectory location.tail = true := by
  induction parts generalizing here with
  | nil =>
    cases h
    exact hhere
  | cons part rest ih =>
    obtain ⟨hdirectory, hrest⟩ := walk_cons_ok.1 h
    refine ih ?_ hrest
    rw [stepTo]
    split
    · exact hrooted here.tail (by simp [FileTree.isDirectory_iff.1 hhere])
    · exact hdirectory

theorem Rooted.isDirectory_start (h : disk.Rooted) (path : Path) :
    disk.tree.isDirectory (disk.start path) = true := by
  rw [start]
  split
  · exact FileTree.isDirectory_root disk.tree
  · exact h.workingDirectory

/-- All directories stay, and a rooted tree stays rooted when the path starts in a directory. -/
def KeepsTree (path : Path) (before after : Disk) : Prop :=
  Keeps before after ∧ (before.tree.Rooted →
    before.tree.isDirectory (before.start path) = true → after.tree.Rooted)

theorem KeepsTree.refl (path : Path) (disk : Disk) : KeepsTree path disk disk :=
  ⟨Keeps.refl disk, fun hrooted _ => hrooted⟩

theorem KeepsTree.trans {before between after : Disk} (h : KeepsTree path before between)
    (h' : KeepsTree path between after) : KeepsTree path before after := by
  refine ⟨h.1.trans h'.1, fun hrooted hstart => h'.2 (h.2 hrooted hstart) ?_⟩
  rw [h.1.start_eq]
  exact h.1.directories _ hstart

theorem makeDirectory_keepsTree (existOk : Bool) (path : Path) (disk : Disk) :
    KeepsTree path disk (outcome (makeDirectory existOk path) disk).2 := by
  refine ⟨(makeDirectory_grows _ _ _).keeps, fun hrooted hstart => ?_⟩
  rw [outcome_makeDirectory]
  split
  · exact hrooted
  · next location hlocate =>
    split
    · next hnone =>
      have htail := hrooted (disk.start path) (by simp [FileTree.isDirectory_iff.1 hstart])
      exact hrooted.put (FileTree.ne_nil_of_get?_eq_none hnone)
        (isDirectory_tail_of_walk hrooted htail hlocate) (.inl rfl)
    · exact hrooted
    · exact hrooted

/-- A tree stays rooted when directories are made on a path that starts in a directory. -/
theorem makeDirectories_rooted (existOk : Bool) (path : Path) (disk : Disk)
    (hrooted : disk.tree.Rooted) (hstart : disk.tree.isDirectory (disk.start path) = true) :
    (outcome (makeDirectories existOk path) disk).2.tree.Rooted := by
  have hall : KeepsTree path disk (outcome (makeDirectories existOk path) disk).2 :=
    makeDirectories_steps path (KeepsTree.refl path) (fun _ _ _ => KeepsTree.trans)
      (fun existOk parts disk _ => makeDirectory_keepsTree existOk { path with parts } disk)
      existOk disk
  exact hall.2 hrooted hstart

/-- Nothing changes but at the places that the path leads through. -/
def KeepsOff (path : Path) (before after : Disk) : Prop :=
  after.workingDirectory = before.workingDirectory ∧ ∀ location,
    (∀ parts, parts <+: path.parts → location ≠ before.spot { path with parts }) →
      after.tree.get? location = before.tree.get? location

theorem KeepsOff.refl (path : Path) (disk : Disk) : KeepsOff path disk disk :=
  ⟨rfl, fun _ _ => rfl⟩

theorem KeepsOff.trans {before between after : Disk} (h : KeepsOff path before between)
    (h' : KeepsOff path between after) : KeepsOff path before after := by
  refine ⟨h'.1.trans h.1, fun location hout => ?_⟩
  have hspot (path : Path) : between.spot path = before.spot path := by
    rw [spot, spot, start, start, h.1]
  have hlater := h'.2 location
  simp only [hspot] at hlater
  rw [hlater hout, h.2 location hout]

theorem makeDirectory_keepsOff (existOk : Bool) (disk : Disk) (hparts : parts <+: path.parts) :
    KeepsOff path disk (outcome (makeDirectory existOk { path with parts }) disk).2 := by
  rw [outcome_makeDirectory]
  split
  · exact .refl path disk
  · next location hlocate =>
    split
    · next hnone =>
      refine ⟨rfl, fun other hout => ?_⟩
      rw [eq_spot_of_locate hlocate] at hnone ⊢
      exact get?_withEntry_of_ne (FileTree.ne_nil_of_get?_eq_none hnone) (hout parts hparts)
    · exact .refl path disk
    · exact .refl path disk

theorem makeDirectories_keepsOff (existOk : Bool) (path : Path) (disk : Disk) :
    KeepsOff path disk (outcome (makeDirectories existOk path) disk).2 :=
  makeDirectories_steps path (KeepsOff.refl path) (fun _ _ _ => KeepsOff.trans)
    (fun existOk _ disk hparts => makeDirectory_keepsOff existOk disk hparts) existOk disk

/-- Every directory along the path lies in the region, or is there. -/
def Covered (region : Location) (path : Path) (disk : Disk) : Prop :=
  ∀ parts, parts <+: path.parts →
    (disk.spot { path with parts }).within region = true ∨
      disk.tree.isDirectory (disk.spot { path with parts }) = true

theorem Covered.of_keeps {before after : Disk} (h : Covered region path before)
    (hkeeps : Keeps before after) : Covered region path after := by
  intro parts hparts
  rw [hkeeps.spot_eq]
  exact (h parts hparts).imp_right (hkeeps.directories _)

/-- One directory changes nothing outside of a region when it lies there or is there already. -/
theorem makeDirectory_keepsOutside (existOk : Bool)
    (h : (disk.spot path).within region = true ∨ disk.tree.isDirectory (disk.spot path) = true) :
    KeepsOutside region disk (outcome (makeDirectory existOk path) disk).2 := by
  rw [outcome_makeDirectory]
  split
  · exact KeepsOutside.refl region disk
  · next location hlocate =>
    split
    · next hnone =>
      have hspot := eq_spot_of_locate hlocate
      refine KeepsOutside.withEntry (FileTree.ne_nil_of_get?_eq_none hnone) (.inl rfl) ?_
      rcases h with hwithin | hdirectory
      · rwa [hspot]
      · rw [← hspot, FileTree.isDirectory_iff, hnone] at hdirectory
        cases hdirectory
    · exact KeepsOutside.refl region disk
    · exact KeepsOutside.refl region disk

/-- Nothing changes outside of a region when every directory on the path either is there or lies in
the region. -/
theorem makeDirectories_keepsOutside (existOk : Bool) (path : Path) (disk : Disk)
    (h : Covered region path disk) :
    KeepsOutside region disk (outcome (makeDirectories existOk path) disk).2 := by
  have hall : Covered region path disk →
      KeepsOutside region disk (outcome (makeDirectories existOk path) disk).2 := by
    refine makeDirectories_steps (R := fun before after =>
      Covered region path before → KeepsOutside region before after) path ?_ ?_ ?_ existOk disk
    · intro disk _
      exact KeepsOutside.refl region disk
    · intro before between after hfirst hsecond hcovered
      have hkeeps := hfirst hcovered
      exact hkeeps.trans (hsecond (hcovered.of_keeps hkeeps.toKeeps))
    · intro existOk parts disk hparts hcovered
      exact makeDirectory_keepsOutside existOk (hcovered parts hparts)
  exact hall h

/-- The last directory is made on a disk that has grown only by directories above it. -/
theorem makeDirectories_ok {existOk : Bool}
    (h : outcome (makeDirectories existOk path) disk = (.ok (), after)) :
    ∃ between, Grows disk between ∧
      (disk.tree.Rooted → disk.tree.isDirectory (disk.start path) = true → between.tree.Rooted) ∧
      outcome (makeDirectory existOk path) between = (.ok (), after) := by
  rcases outcome_makeDirectories existOk path disk with hone | ⟨_, ⟨_, hone⟩ | ⟨_, hone⟩⟩
  · exact ⟨disk, Grows.refl disk, fun hrooted _ => hrooted, hone ▸ h⟩
  · rw [hone] at h
    cases h
  · rw [hone] at h
    obtain ⟨_, between, hparent, hlast⟩ := outcome_bind_ok.1 h
    have hrooted := makeDirectories_rooted true path.parent disk
    rw [hparent] at hrooted
    exact ⟨between, grows_of_makeDirectories hparent, hrooted, hlast⟩

/-- Where directories were made there is one. -/
theorem directory?_of_makeDirectories {existOk : Bool}
    (h : outcome (makeDirectories existOk path) disk = (.ok (), after)) :
    after.directory? path = some (after.spot path) := by
  obtain ⟨between, _, _, hlast⟩ := makeDirectories_ok h
  have hkeeps := (makeDirectory_grows existOk path between).keeps
  obtain ⟨location, hlocate, hmade⟩ := outcome_makeDirectory_ok.1 hlast
  rw [hlast] at hkeeps
  have hafter := hkeeps.locate hlocate
  rw [← eq_spot_of_locate hafter, directory?_eq_some]
  refine ⟨hafter, ?_⟩
  rcases hmade with ⟨hnone, rfl⟩ | ⟨_, hdirectory, rfl⟩
  · exact FileTree.isDirectory_iff.2
      (get?_withEntry_self (FileTree.ne_nil_of_get?_eq_none hnone))
  · exact hdirectory

/-- Directories that are there are not made again. -/
theorem makeDirectories_of_directory? (h : disk.directory? path = some location) :
    outcome (makeDirectories true path) disk = (.ok (), disk) := by
  obtain ⟨hlocate, hdirectory⟩ := directory?_eq_some.1 h
  rcases outcome_makeDirectories true path disk with hone | ⟨hmissing, _⟩
  · rw [hone]
    exact outcome_makeDirectory_ok.2 ⟨location, hlocate, .inr ⟨rfl, hdirectory, rfl⟩⟩
  · rw [hlocate] at hmissing
    cases hmissing

/-! ## Below a directory -/

theorem within_foldl_stepTo (hhere : here.within region = true) (hparts : ".." ∉ parts) :
    (parts.foldl stepTo here).within region = true := by
  induction parts generalizing here with
  | nil => exact hhere
  | cons part rest ih =>
    rw [List.mem_cons, not_or] at hparts
    obtain ⟨hpart, hrest⟩ := hparts
    refine ih ?_ hrest
    rw [stepTo, if_neg fun heq => hpart heq.symm]
    exact Location.cons_within _ hhere

/-- Directories that are made below a directory are all in the first of them. -/
theorem makeDirectories_keepsOutside_below {first : String} {rest : List String}
    (h : disk.directory? dir = some location) (hfirst : first ≠ "..") (hrest : ".." ∉ rest) :
    KeepsOutside (first :: location) disk
      (outcome (makeDirectories true { dir with parts := dir.parts ++ first :: rest }) disk).2 := by
  refine makeDirectories_keepsOutside true _ disk fun parts hfront => ?_
  change (parts.foldl stepTo (disk.start dir)).within (first :: location) = true ∨
    disk.tree.isDirectory (parts.foldl stepTo (disk.start dir)) = true
  rcases List.prefix_or_prefix_of_prefix hfront (List.prefix_append dir.parts (first :: rest)) with
    hshort | ⟨more, rfl⟩
  · exact .inr (isDirectory_of_front h hshort)
  · cases more with
    | nil =>
      rw [List.append_nil]
      exact .inr (isDirectory_of_front h (List.prefix_refl _))
    | cons second more =>
      left
      obtain ⟨rfl, hmore⟩ :=
        List.cons_prefix_cons.1 ((List.prefix_append_right_inj dir.parts).1 hfront)
      have hlocation : location = dir.parts.foldl stepTo (disk.start dir) :=
        eq_spot_of_directory? h
      rw [List.foldl_append, ← hlocation, List.foldl_cons, stepTo, if_neg hfirst]
      exact within_foldl_stepTo (Location.within_refl _)
        fun hmem => hrest (hmore.subset hmem)

/-! ## Directories made anew -/

theorem spot_div (hname : Path.Plain name) (disk : Disk) (dir : Path) :
    disk.spot (dir / name) = name :: disk.spot dir := by
  rw [Path.div_of_plain dir hname, spot, List.foldl_append]
  change stepTo (dir.parts.foldl stepTo (disk.start dir)) name = _
  rw [stepTo, if_neg hname.ne_parent]
  rfl

/-- A directory that is made in a rooted tree, and was not there before, is empty. -/
theorem children_of_makeDirectories (hrooted : disk.tree.Rooted)
    (hstart : disk.tree.isDirectory (disk.start path) = true)
    (h : outcome (makeDirectories false path) disk = (.ok (), after)) :
    after.tree.children (after.spot path) = [] := by
  obtain ⟨between, _, hbetween, hlast⟩ := makeDirectories_ok h
  have hkeeps := (makeDirectory_grows false path between).keeps
  rw [hlast] at hkeeps
  obtain ⟨location, hlocate, ⟨hnone, rfl⟩ | ⟨hfalse, _⟩⟩ := outcome_makeDirectory_ok.1 hlast
  · rw [hkeeps.spot_eq, ← eq_spot_of_locate hlocate]
    have hempty := (hbetween hrooted hstart).children_eq_nil hnone
    have hperm := FileTree.children_put_self .directory hnone
    rw [hempty] at hperm
    exact hperm.eq_nil
  · cases hfalse

/-- A directory that was removed is made anew only on a path that starts in a directory: the way out
of what was removed leads through the directory itself. -/
theorem isDirectory_start_of_makeDirectories (hname : Path.Plain name) (hrooted : disk.Rooted)
    (h : outcome (makeDirectories false (dir / name)) (disk.without (disk.spot (dir / name))) =
      (.ok (), after)) :
    (disk.without (disk.spot (dir / name))).tree.isDirectory (disk.start (dir / name)) = true := by
  have hspot := spot_div hname disk dir
  have hregion : disk.spot (dir / name) ≠ [] := by
    rw [hspot]
    exact List.cons_ne_nil _ _
  cases hwithin : (disk.start (dir / name)).within (disk.spot (dir / name)) with
  | false => exact isDirectory_without hregion hwithin (hrooted.isDirectory_start (dir / name))
  | true =>
    exfalso
    obtain ⟨between, hgrows, _, hlast⟩ := makeDirectories_ok h
    obtain ⟨location, hlocate, ⟨hnone, _⟩ | ⟨hfalse, _⟩⟩ := outcome_makeDirectory_ok.1 hlast
    · have hlocation : location = disk.spot (dir / name) :=
        (eq_spot_of_locate hlocate).trans (hgrows.keeps.spot_eq (dir / name))
      have hstart : disk.start (dir / name) = disk.start dir := by
        rw [Path.div_of_plain dir hname]
        rfl
      have hwalk : walk between.tree (between.start (dir / name)) (dir / name).parts =
          .ok location := hlocate
      have hbetween : between.start (dir / name) = disk.start (dir / name) :=
        hgrows.keeps.start_eq (dir / name)
      rw [hbetween, hstart, Path.div_of_plain dir hname] at hwalk
      obtain ⟨base, hbase, _⟩ := walk_append_ok.1 hwalk
      have hout : base.within (disk.spot (dir / name)) = false := by
        rw [hspot, eq_of_walk hbase]
        exact Location.within_of_length_lt (Nat.lt_succ_self _)
      rw [hstart] at hwithin
      have htop := isDirectory_of_walk_out hwithin hout hbase
      rw [← hlocation, FileTree.isDirectory_iff, hnone] at htop
      cases htop
    · cases hfalse

/-- The path to a directory that is made anew does not lead through what was there before it: once
the directory is gone, so is everything in it. -/
theorem front_outside_of_makeDirectories {cleared : Disk} (hname : Path.Plain name)
    (hrooted : disk.Rooted)
    (hcleared : cleared = disk ∨ cleared = disk.without (disk.spot (dir / name)))
    (h : outcome (makeDirectories false (dir / name)) cleared = (.ok (), after))
    (hfront : parts <+: dir.parts) :
    (parts.foldl stepTo (disk.start dir)).within (disk.spot (dir / name)) = false := by
  have hregion : disk.spot (dir / name) ≠ [] := by
    rw [spot_div hname]
    exact List.cons_ne_nil _ _
  have hparts : (dir / name).parts = dir.parts ++ [name] := by
    rw [Path.div_of_plain dir hname]
  have hstart (disk : Disk) : disk.start (dir / name) = disk.start dir := by
    rw [Path.div_of_plain dir hname]
    rfl
  have hclearedRooted : cleared.tree.Rooted ∧
      cleared.tree.isDirectory (cleared.start (dir / name)) = true ∧
        cleared.workingDirectory = disk.workingDirectory := by
    rcases hcleared with rfl | rfl
    · exact ⟨hrooted.tree, hrooted.isDirectory_start _, rfl⟩
    · exact ⟨hrooted.tree.remove hregion, isDirectory_start_of_makeDirectories hname hrooted h, rfl⟩
  obtain ⟨htree, hdirectory, hworking⟩ := hclearedRooted
  obtain ⟨between, hgrows, hbetween, hlast⟩ := makeDirectories_ok h
  obtain ⟨location, hlocate, ⟨hnone, _⟩ | ⟨hfalse, _⟩⟩ := outcome_makeDirectory_ok.1 hlast
  · have hsame : between.workingDirectory = disk.workingDirectory :=
      hgrows.workingDirectory.trans hworking
    have hlocation : location = disk.spot (dir / name) := by
      rw [eq_spot_of_locate hlocate, spot, spot, start, start, hsame]
    have hwalk : walk between.tree (disk.start dir) (dir.parts ++ [name]) = .ok location := by
      have hwalk : walk between.tree (between.start (dir / name)) (dir / name).parts =
          .ok location := hlocate
      rwa [hparts, hstart, start, hsame] at hwalk
    obtain ⟨back, hback⟩ := hfront
    rw [← hback, List.append_assoc] at hwalk
    have hthere := isDirectory_of_walk_append (by simp) hwalk
    rw [Bool.eq_false_iff]
    intro hwithin
    rw [hlocation] at hnone
    have hgone := (hbetween htree hdirectory).get?_eq_none_of_within hnone hwithin
    rw [FileTree.isDirectory_iff, hgone] at hthere
    cases hthere
  · cases hfalse

/-- A walk that does not come into a region goes on without it. -/
theorem walk_without {tree : FileTree} (hregion : region ≠ [])
    (hfront : ∀ front, front <+: parts → (front.foldl stepTo here).within region = false)
    (h : walk tree here parts = .ok location) :
    walk (tree.remove region) here parts = .ok location := by
  refine walk_of_isDirectory (fun front hprefix hdirectory => ?_) h
  rw [FileTree.isDirectory_iff, FileTree.get?_remove hregion, hfront front hprefix]
  exact FileTree.isDirectory_iff.1 hdirectory

theorem directory?_without (hregion : region ≠ [])
    (hfront : ∀ parts, parts <+: dir.parts →
      (parts.foldl stepTo (disk.start dir)).within region = false)
    (h : disk.directory? dir = some location) :
    (disk.without region).directory? dir = some location := by
  obtain ⟨hlocate, hdirectory⟩ := directory?_eq_some.1 h
  have hout : location.within region = false := by
    rw [eq_spot_of_locate hlocate]
    exact hfront dir.parts (List.prefix_refl _)
  exact directory?_eq_some.2
    ⟨walk_without hregion hfront hlocate, isDirectory_without hregion hout hdirectory⟩

/-- A directory that was removed is made again when the path to it does not lead through it, and
holds nothing then. -/
theorem makeDirectories_without (hname : Path.Plain name)
    (hdir : disk.directory? (dir / name) = some (name :: location))
    (hfront : ∀ parts, parts <+: dir.parts →
      (parts.foldl stepTo (disk.start dir)).within (name :: location) = false) :
    ∃ made, outcome (makeDirectories false (dir / name)) (disk.without (name :: location)) =
        (.ok (), made) ∧
      made.directory? (dir / name) = some (name :: location) ∧
      ∀ file : String, made.tree.get? (file :: name :: location) = none := by
  have hbase := directory?_without (List.cons_ne_nil _ _) hfront (directory?_of_div hname hdir)
  have hlocate := locate_div hbase hname
  have hgone {other : Location} (hother : other.within (name :: location) = true) :
      (disk.without (name :: location)).tree.get? other = none := by
    rw [get?_without (List.cons_ne_nil _ _), if_pos hother]
  have hself : Location.within (name :: location) (name :: location) = true :=
    Location.within_refl _
  refine ⟨(disk.without (name :: location)).withEntry (name :: location) .directory, ?_, ?_, ?_⟩
  · rcases outcome_makeDirectories false (dir / name) (disk.without (name :: location)) with
      hone | ⟨hmissing, _⟩
    · rw [hone]
      exact outcome_makeDirectory_ok.2 ⟨_, hlocate, .inl ⟨hgone hself, rfl⟩⟩
    · rw [hlocate] at hmissing
      cases hmissing
  · have hkeeps : Keeps (disk.without (name :: location))
        ((disk.without (name :: location)).withEntry (name :: location) .directory) :=
      .withEntry (List.cons_ne_nil name location) (.inl rfl)
    exact directory?_div (hkeeps.directory? hbase) hname
      (FileTree.isDirectory_iff.2 (get?_withEntry_self (List.cons_ne_nil _ _)))
  · intro file
    rw [get?_withEntry_of_ne (List.cons_ne_nil _ _) (List.cons_ne_self _ _)]
    exact hgone (Location.within_cons _ _)

/-- A directory that is made anew, after the old one was removed if there was one, is empty, and
leaves everything outside of it where it was. -/
theorem makeDirectories_anew {cleared : Disk} (hname : Path.Plain name) (hrooted : disk.Rooted)
    (hcleared : cleared = disk ∨ cleared = disk.without (disk.spot (dir / name)))
    (h : outcome (makeDirectories false (dir / name)) cleared = (.ok (), after)) :
    after.workingDirectory = disk.workingDirectory ∧
      after.tree.children (after.spot (dir / name)) = [] ∧
      ∀ location entry, location.within (disk.spot (dir / name)) = false →
        disk.tree.get? location = some entry → after.tree.get? location = some entry := by
  have hgrows := grows_of_makeDirectories h
  rcases hcleared with rfl | rfl
  · refine ⟨hgrows.workingDirectory, ?_, fun location entry _ => hgrows.found location entry⟩
    exact children_of_makeDirectories hrooted.tree (hrooted.isDirectory_start _) h
  · have hregion : disk.spot (dir / name) ≠ [] := by
      rw [spot_div hname]
      exact List.cons_ne_nil _ _
    refine ⟨hgrows.workingDirectory, ?_, fun location entry hout hfound => ?_⟩
    · exact children_of_makeDirectories (hrooted.tree.remove hregion)
        (isDirectory_start_of_makeDirectories hname hrooted h) h
    · exact hgrows.found location entry ((get?_without_of_not_within hregion hout).trans hfound)

end ModPack.Disk
