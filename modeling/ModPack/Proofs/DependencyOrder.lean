import ModPack.Proofs.ManifestFiles

/-!
# The order of flattened dependencies

A package's flattened dependencies hold no name twice, hold every declared dependency, and hold what
a package needs before the package. Lists that are flattened already are put one behind the other
and lose their repeats, so the order is stated against the identities that stand before: it carries
over to a larger set of them, which is all that leaving out a repeat does. Main statement:
`dependencies_ordered`.
-/
namespace ModPack.Package

/-- Everything that a package in the list depends on is known by its identity when the package comes
up: it is in `known`, or it stands further to the front. -/
def Ordered (known : List (String × String)) : List Package → Prop
  | [] => True
  | package :: rest =>
    (∀ needed ∈ package.dependencies, needed.identity ∈ known) ∧
      Ordered (package.identity :: known) rest

namespace Ordered

variable {known seen : List (String × String)} {packages : List Package}

theorem mono (h : Ordered known packages) (hsubset : known ⊆ seen) : Ordered seen packages := by
  induction packages generalizing known seen with
  | nil => trivial
  | cons package rest ih =>
    refine ⟨fun needed hneeded => hsubset (h.1 needed hneeded), ?_⟩
    exact ih h.2 (List.cons_subset_cons _ hsubset)

/-- A list may go on with what is ordered once the list itself is known. -/
theorem append {more : List Package} (h : Ordered known packages)
    (hmore : Ordered (packages.map identity ++ known) more) : Ordered known (packages ++ more) := by
  induction packages generalizing known with
  | nil => exact hmore
  | cons package rest ih =>
    refine ⟨h.1, ih h.2 (hmore.mono ?_)⟩
    intro id hid
    simp only [List.map_cons, List.mem_append, List.mem_cons] at hid ⊢
    tauto

/-- Leaving out the packages of identities seen before keeps the order. -/
theorem distinct (h : Ordered known packages) (hsubset : known ⊆ seen) :
    Ordered seen (Package.distinct seen packages) := by
  fun_induction Package.distinct seen packages generalizing known with
  | case1 => trivial
  | case2 seen package rest hseen ih =>
    exact ih h.2 (List.cons_subset.2 ⟨hseen, hsubset⟩)
  | case3 seen package rest _ ih =>
    refine ⟨fun needed hneeded => hsubset (h.1 needed hneeded), ?_⟩
    exact ih h.2 (List.cons_subset_cons _ hsubset)

/-- The order told by places. -/
theorem identity_mem_take {place : Nat} {package needed : Package} (h : Ordered known packages)
    (hplace : packages[place]? = some package) (hneeded : needed ∈ package.dependencies) :
    needed.identity ∈ known ∨ needed.identity ∈ (packages.take place).map identity := by
  induction packages generalizing known place with
  | nil => cases hplace
  | cons head rest ih =>
    cases place with
    | zero =>
      cases hplace
      exact .inl (h.1 needed hneeded)
    | succ place =>
      rcases ih h.2 hplace with hmem | hmem
      · rcases List.mem_cons.1 hmem with heq | hmem
        · exact .inr (by simp [heq])
        · exact .inl hmem
      · exact .inr (List.mem_cons_of_mem _ hmem)

/-- Packages, each behind its own dependencies, are in order when those are. -/
theorem flatMap {direct : List Package} (h : ∀ package ∈ direct, Ordered [] package.dependencies) :
    Ordered known (direct.flatMap fun package => package.dependencies ++ [package]) := by
  induction direct generalizing known with
  | nil => trivial
  | cons package rest ih =>
    rw [List.flatMap_cons]
    refine append (append ((h package List.mem_cons_self).mono (List.nil_subset _)) ?_)
      (ih fun other hother => h other (List.mem_cons_of_mem _ hother))
    exact ⟨fun needed hneeded => List.mem_append_left _ (List.mem_map_of_mem hneeded), trivial⟩

end Ordered

variable {settings : Settings} {disk : Disk} {dir : Path} {package : Package}

/-- An identity that is not seen before stays when repeats are left out. -/
theorem identity_mem_distinct {packages : List Package} (seen : List (String × String))
    (h : package ∈ packages) :
    package.identity ∈ seen ∨ package.identity ∈ (distinct seen packages).map identity := by
  fun_induction distinct seen packages with
  | case1 => cases h
  | case2 seen head rest hseen ih =>
    rcases List.mem_cons.1 h with rfl | h
    · exact .inl hseen
    · exact ih h
  | case3 seen head rest hseen ih =>
    rcases List.mem_cons.1 h with rfl | h
    · exact .inr List.mem_cons_self
    · rcases ih h with hmem | hmem
      · rcases List.mem_cons.1 hmem with heq | hmem
        · exact .inr (by simp [heq])
        · exact .inl hmem
      · exact .inr (List.mem_cons_of_mem _ hmem)

theorem identity_mem_flatten {direct : List Package} (h : package ∈ direct) :
    package.identity ∈ (flatten direct).map identity := by
  have hmem : package ∈ direct.flatMap fun package => package.dependencies ++ [package] :=
    List.mem_flatMap.2 ⟨package, h, by simp⟩
  exact (identity_mem_distinct [] hmem).resolve_left List.not_mem_nil

/-- A loaded package's dependencies are in order by themselves. -/
theorem Loaded.ordered (h : Loaded settings disk package) : Ordered [] package.dependencies := by
  induction h with
  | intro direct _ _ _ _ _ hdependencies _ ih =>
    have hdirect : Ordered [] (direct.flatMap fun package => package.dependencies ++ [package]) :=
      Ordered.flatMap ih
    rw [hdependencies]
    exact hdirect.distinct (List.Subset.refl _)

theorem Loaded.nodup_name (h : Loaded settings disk package) :
    (package.dependencies.map name).Nodup := by
  obtain ⟨direct, _, _, _, _, hagreed, hdependencies, _⟩ := h
  rw [hdependencies]
  exact conflict?_eq_none.1 hagreed

/-- A declared dependency is among the flattened ones, by the name and version of its manifest. -/
theorem Loaded.declared_mem (h : Loaded settings disk package) {dependency : Dependency}
    (hdeclared : dependency ∈ package.manifest.dependencies) :
    ∃ manifest, readManifest settings disk (package.dir.join dependency.path) = .ok manifest ∧
      (manifest.name, manifest.version) ∈ package.dependencies.map identity := by
  obtain ⟨direct, _, _, hdirs, hloaded, _, hdependencies, _⟩ := h
  have hdir : package.dir.join dependency.path ∈ direct.map Package.dir := by
    rw [hdirs]
    exact List.mem_map_of_mem hdeclared
  obtain ⟨needed, hneeded, hpath⟩ := List.mem_map.1 hdir
  obtain ⟨_, hmanifest, _⟩ := hloaded needed hneeded
  refine ⟨needed.manifest, hpath ▸ hmanifest, ?_⟩
  rw [hdependencies]
  exact identity_mem_flatten hneeded

/-- The flattened dependencies of a loaded package: no name comes up twice, every declared
dependency is there, and everything that a package in the list depends on comes before it. -/
theorem dependencies_ordered (h : (load settings disk dir).result = .ok package) :
    (package.dependencies.map name).Nodup ∧
      (readManifest settings disk dir = .ok package.manifest ∧
        ∀ dependency ∈ package.manifest.dependencies, ∃ manifest,
          readManifest settings disk (dir.join dependency.path) = .ok manifest ∧
            (manifest.name, manifest.version) ∈ package.dependencies.map identity) ∧
      ∀ place needing, package.dependencies[place]? = some needing →
        ∀ needed ∈ needing.dependencies,
          needed.identity ∈ (package.dependencies.take place).map identity := by
  have hloaded := loaded_of_load h
  refine ⟨hloaded.nodup_name, ⟨manifest_of_loadNested h, ?_⟩, ?_⟩
  · intro dependency hdeclared
    rw [← dir_of_loadNested h]
    exact hloaded.declared_mem hdeclared
  · intro place needing hplace needed hneeded
    have hmem := hloaded.ordered.identity_mem_take hplace hneeded
    exact hmem.resolve_left List.not_mem_nil

/-- The order of three packages, each of which needs the one before it. -/
theorem dependencies_ordered_game :
    (load {} Sample.disk Sample.gamePath).result = .ok Sample.gamePackage ∧
      (Sample.gamePackage.dependencies.map name).Nodup ∧
      ("hub", "1.0.0") ∈ Sample.gamePackage.dependencies.map identity ∧
      ("base", "1.0.0") ∈ (Sample.gamePackage.dependencies.take 1).map identity := by
  obtain ⟨hnodup, ⟨_, hdeclared⟩, hbefore⟩ := dependencies_ordered Sample.load_game
  obtain ⟨manifest, hread, hmem⟩ := hdeclared _ List.mem_cons_self
  have hhub : readManifest {} Sample.disk Sample.hubPath = .ok Sample.hub :=
    manifest_of_loadNested (Sample.load_hub List.not_mem_nil List.not_mem_nil)
  cases hhub.symm.trans hread
  exact ⟨Sample.load_game, hnodup, hmem,
    hbefore 1 Sample.hubPackage rfl Sample.basePackage List.mem_cons_self⟩

end ModPack.Package
