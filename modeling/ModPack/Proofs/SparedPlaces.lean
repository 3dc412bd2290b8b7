import ModPack.Proofs.BuildChanges

/-!
# Places that are spared

Making the directory of a build makes missing directories on its path and changes nothing else, so
below the directory only what its own path leads through can be new: nothing when the directory was
there, and nothing when the path does not lead back. Once the directory is there, sprites and
strings are assembled in directories of their own, and all other places are as before. Main
statements: `makeDirectories_spares`, `leftAlone_of_makeDirectories` and
`leftAlone_of_beforeActors`.
-/
namespace ModPack

open Work (outcome outcome_seq_ok outcome_onDisk_ok)

namespace Disk

variable {disk before between after : Disk} {dir path : Path} {location : Location}
  {parts : List String} {name : String}

/-- Nothing happened at the location, but that a directory that the path leads through may have been
made there. -/
def Spared (path : Path) (location : Location) (before after : Disk) : Prop :=
  after.tree.get? location = before.tree.get? location ∨
    before.tree.get? location = none ∧ after.tree.get? location = some .directory ∧
      ∃ parts, parts <+: path.parts ∧ location = before.spot { path with parts }

/-- If the path leads through the location, something is there. -/
def Laid (disk : Disk) (path : Path) (location : Location) : Prop :=
  ∀ parts, parts <+: path.parts → location = disk.spot { path with parts } →
    disk.tree.get? location ≠ none

theorem laid_of_directory? {found : Location} (h : disk.directory? path = some found)
    (location : Location) : disk.Laid path location := by
  rintro parts hparts rfl hnone
  have hdirectory := isDirectory_of_front h hparts
  rw [FileTree.isDirectory_iff] at hdirectory
  cases hnone.symm.trans hdirectory

theorem Laid.of_get?_eq (h : before.Laid path location)
    (hspot : ∀ path, after.spot path = before.spot path)
    (hget : after.tree.get? location = before.tree.get? location) : after.Laid path location := by
  intro parts hparts hplace
  rw [hget]
  exact h parts hparts (hplace.trans (hspot _))

namespace Spared

theorem refl (path : Path) (location : Location) (disk : Disk) : Spared path location disk disk :=
  .inl rfl

theorem trans (hspot : ∀ path, between.spot path = before.spot path)
    (h : Spared path location before between) (h' : Spared path location between after) :
    Spared path location before after := by
  rcases h' with heq | ⟨hnone, hmade, parts, hparts, hplace⟩
  · rwa [Spared, heq]
  · rcases h with heq | ⟨_, hthere, _⟩
    · exact .inr ⟨heq ▸ hnone, hmade, parts, hparts, hplace.trans (hspot _)⟩
    · rw [hnone] at hthere
      cases hthere

theorem get?_eq (h : Spared path location before after) (hlaid : before.Laid path location) :
    after.tree.get? location = before.tree.get? location := by
  rcases h with heq | ⟨hnone, _, parts, hparts, hplace⟩
  · exact heq
  · exact absurd hnone (hlaid parts hparts hplace)

/-- Nothing is made below the end of a path that does not lead back. -/
theorem get?_eq_of_below (h : Spared path location before after) (hback : ".." ∉ path.parts)
    (hbelow : location.within (before.spot path) = true) (hne : location ≠ before.spot path) :
    after.tree.get? location = before.tree.get? location := by
  refine h.get?_eq fun parts hparts hplace _ => hne ?_
  obtain ⟨rest, hrest⟩ := hparts
  have hwithin : (before.spot path).within location = true := by
    rw [spot, ← hrest, List.foldl_append, hplace]
    exact within_foldl_stepTo (Location.within_refl _)
      fun hmem => hback (hrest ▸ List.mem_append_right _ hmem)
  exact (Location.within_iff.1 hbelow).eq_of_length_le
    (Location.within_iff.1 hwithin).length_le |>.symm

end Spared

theorem makeDirectory_spares {parts : List String} (hparts : parts <+: path.parts) (existOk : Bool)
    (disk : Disk) (location : Location) :
    Spared path location disk (outcome (makeDirectory existOk { path with parts }) disk).2 := by
  rw [outcome_makeDirectory]
  split
  · exact .refl _ _ _
  · next found hfound =>
    split
    · next hnone =>
      by_cases hsame : location = found
      · refine .inr ⟨hsame ▸ hnone, ?_, parts, hparts, hsame.trans (eq_spot_of_locate hfound)⟩
        rw [hsame]
        exact get?_withEntry_self (FileTree.ne_nil_of_get?_eq_none hnone)
      · exact .inl (get?_withEntry_of_ne (FileTree.ne_nil_of_get?_eq_none hnone) hsame)
    · exact .refl _ _ _
    · exact .refl _ _ _

/-- Only directories that the path leads through are made. -/
theorem makeDirectories_spares (existOk : Bool) (path : Path) (disk : Disk) (location : Location) :
    Spared path location disk (outcome (makeDirectories existOk path) disk).2 := by
  have hsteps := makeDirectories_steps path
    (R := fun before after => (∀ path, after.spot path = before.spot path) ∧
      Spared path location before after)
    (fun disk => ⟨fun _ => rfl, .refl path location disk⟩)
    (fun _ _ _ h h' => ⟨fun path => (h'.1 path).trans (h.1 path), h.2.trans h.1 h'.2⟩)
    (fun existOk _ disk hparts => ⟨(makeDirectory_grows existOk _ disk).keeps.spot_eq,
      makeDirectory_spares hparts existOk disk location⟩) existOk disk
  exact hsteps.2

/-- A place below a directory is left alone: nothing happened there, but that a directory may have
been made which the path to the directory above leads through, by way of the place and back. When
the directory above was there before, or the path does not lead back, not even that happened. -/
structure LeftAlone (dir : Path) (location : Location) (before after : Disk) : Prop where
  spared : Spared dir location before after
  same : (before.directory? dir).isSome ∨ ".." ∉ dir.parts →
    after.tree.get? location = before.tree.get? location

theorem LeftAlone.of_get?_eq (h : LeftAlone dir location before between)
    (heq : after.tree.get? location = between.tree.get? location) :
    LeftAlone dir location before after := by
  refine ⟨?_, fun hcase => heq.trans (h.same hcase)⟩
  have hspared := h.spared
  rwa [Spared, ← heq] at hspared

/-- Making a directory leaves alone what is below it. -/
theorem leftAlone_of_makeDirectories {made : Disk}
    (hmade : outcome (makeDirectories true dir) disk = (.ok (), made))
    (hbelow : location.within (disk.spot dir) = true) (hne : location ≠ disk.spot dir) :
    LeftAlone dir location disk made := by
  have hspared := makeDirectories_spares true dir disk location
  rw [hmade] at hspared
  refine ⟨hspared, ?_⟩
  rintro (hthere | hback)
  · obtain ⟨found, hfound⟩ := Option.isSome_iff_exists.1 hthere
    rw [makeDirectories_of_directory? hfound] at hmade
    cases hmade
    rfl
  · exact hspared.get?_eq_of_below hback hbelow hne

/-- Outside of its directory a build makes only directories that lead there. -/
theorem Changes.spared (h : Changes dir before after)
    (hlocation : location.within (before.spot dir) = false) : Spared dir location before after := by
  induction h with
  | refl => exact .refl _ _ _
  | @put between other entry earlier hplace hfits ih =>
    refine ih.trans earlier.spot_eq ?_
    by_cases hsame : location = other
    · rcases hplace with hbuild | ⟨rfl, parts, hparts, hplace⟩
      · rw [← hsame, hlocation] at hbuild
        cases hbuild
      · have hmissing : between.tree.get? other = none := hfits
        refine .inr ⟨hsame ▸ hmissing, ?_, parts, hparts, ?_⟩
        · rw [hsame]
          exact get?_withEntry_self hfits.ne_nil
        · rw [hsame, hplace, earlier.spot_eq]
    · exact .inl (get?_withEntry_of_ne hfits.ne_nil hsame)
  | @clear between earlier ih =>
    have hout : location.within (Assembly.stringPlace (before.spot dir)) = false :=
      Location.not_within_below hlocation
    exact ih.trans earlier.spot_eq
      (.inl (get?_without_of_not_within (Changes.stringPlace_ne_nil _) hout))

/-- A build in a directory of its own changes nothing beside it when the path is laid. -/
theorem Changes.get?_eq_of_laid (h : Changes (dir / name) before after) (hname : Path.Plain name)
    (hlocation : location.within (name :: before.spot dir) = false)
    (hlaid : before.Laid dir location) :
    after.tree.get? location = before.tree.get? location := by
  rw [← spot_div hname] at hlocation
  refine (h.spared hlocation).get?_eq fun parts hparts hplace => ?_
  rw [Path.div_of_plain dir hname] at hparts
  rcases List.prefix_concat_iff.1 hparts with rfl | hfront
  · have hwhole : { dir / name with parts := dir.parts ++ [name] } = dir / name := by
      rw [Path.div_of_plain dir hname]
    rw [hplace, hwhole, Location.within_refl _] at hlocation
    cases hlocation
  · refine hlaid parts hfront ?_
    rw [hplace, Path.div_of_plain dir hname]

end Disk

namespace Assembly

open Disk (Changes)

variable {site after : Site Exports} {dir : Path} {location : Location}

theorem get?_of_sprites {result : Except AssemblyFailure Unit}
    (hlocation : location.within ("sprite" :: site.disk.spot dir) = false)
    (hlaid : site.disk.Laid dir location)
    (h : outcome (sprites (dir / "sprite")) site = (result, after)) :
    (∀ path, after.disk.spot path = site.disk.spot path) ∧
      after.disk.tree.get? location = site.disk.tree.get? location := by
  have hchanges : Changes (dir / "sprite") site.disk after.disk :=
    (sprites_changes (Path.Below.refl _)).of_outcome h
  exact ⟨hchanges.spot_eq,
    hchanges.get?_eq_of_laid (Path.plain_of_not_mem (by decide)) hlocation hlaid⟩

/-- Strings may clear their directory first, but the location is not in it. -/
theorem get?_of_strings (hlocation : location.within ("strings" :: site.disk.spot dir) = false)
    (hlaid : site.disk.Laid dir location)
    (h : outcome (strings (dir / "strings")) site = (.ok (), after)) :
    after.disk.tree.get? location = site.disk.tree.get? location := by
  have hname : Path.Plain "strings" := Path.plain_of_not_mem (by decide)
  obtain ⟨cleared, made, hcleared, hmade, hnumber⟩ := strings_steps h
  have hspot (path : Path) : cleared.spot path = site.disk.spot path := by
    rcases hcleared with rfl | rfl <;> rfl
  have hget : cleared.tree.get? location = site.disk.tree.get? location := by
    rcases hcleared with rfl | rfl
    · rfl
    · rw [Disk.spot_div hname]
      exact Disk.get?_without_of_not_within (List.cons_ne_nil _ _) hlocation
  have hchanges : Changes (dir / "strings") cleared after.disk := by
    have hmake := Disk.changes_makeDirectories (Path.Below.refl (dir / "strings")) false cleared
    rw [hmade] at hmake
    exact hmake.trans ((numberStrings_changes (Path.Below.refl _)).of_outcome hnumber)
  rw [← hspot] at hlocation
  rw [hchanges.get?_eq_of_laid hname hlocation (hlaid.of_get?_eq hspot hget), hget]

/-- Sprites and strings are assembled in places of their own, and all others below the directory are
left alone. -/
theorem leftAlone_of_beforeActors (hbelow : location.within (site.disk.spot dir) = true)
    (hne : location ≠ site.disk.spot dir)
    (hsprites : location.within ("sprite" :: site.disk.spot dir) = false)
    (hstrings : location.within ("strings" :: site.disk.spot dir) = false)
    (h : outcome (beforeActors dir) site = (.ok (), after)) :
    Disk.LeftAlone dir location site.disk after.disk := by
  unfold beforeActors at h
  obtain ⟨_, hmake, h⟩ := outcome_seq_ok.1 h
  obtain ⟨made, hmade, rfl⟩ := outcome_onDisk_ok.1 hmake
  obtain ⟨between, hspritesRun, hstringsRun⟩ := outcome_seq_ok.1 h
  have hspot : made.spot dir = site.disk.spot dir :=
    (Disk.grows_of_makeDirectories hmade).keeps.spot_eq dir
  have hlaid : made.Laid dir location :=
    Disk.laid_of_directory? (Disk.directory?_of_makeDirectories hmade) location
  rw [← hspot] at hsprites hstrings
  obtain ⟨hkept, hget⟩ := get?_of_sprites hsprites hlaid hspritesRun
  rw [← hkept] at hstrings
  refine (Disk.leftAlone_of_makeDirectories hmade hbelow hne).of_get?_eq ?_
  rw [get?_of_strings hstrings (hlaid.of_get?_eq hkept hget) hstringsRun, hget]

end Assembly

end ModPack
