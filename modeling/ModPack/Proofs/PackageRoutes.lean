import ModPack.Proofs.LoadedExports
import ModPack.Proofs.LoadSteps
import ModPack.Workshop

/-!
# Routes tell the packages of a load apart

Every package of a load has a route that ends in the route of the package that needs it, and the
declarations of one manifest are numbered, so no two packages have the same route. A workshop keeps
what was assembled by routes: packages of one load that differ are kept apart. Main statements:
`routed_of_loadNested` and `Handle.key_ne_of_load`.
-/
namespace ModPack

namespace Package

variable {settings : Settings} {disk : Disk} {stack : List Location} {route : List Nat} {dir : Path}
  {package : Package}

/-- The package and what it depends on have routes that end in this one, each its own. -/
structure Routed (route : List Nat) (package : Package) : Prop where
  below : ∀ needed ∈ package :: package.dependencies, route <:+ needed.route
  unique : ∀ needed ∈ package :: package.dependencies,
    ∀ other ∈ package :: package.dependencies, needed.route = other.route → needed = other

theorem eq_of_suffix {number other : Nat} {place : List Nat} (h : number :: route <:+ place)
    (h' : other :: route <:+ place) : number = other := by
  have hsuffix := List.suffix_of_suffix_length_le h h' (by simp)
  exact (List.cons.inj (hsuffix.eq_of_length (by simp))).1

/-- Declarations are numbered from `number` on. The induction is on the declarations that are
left. -/
theorem routed_of_loadDependencies {manifest : Manifest} {number : Nat}
    {declared : List Dependency} {packages : List Package}
    (hone : ∀ number path needed,
      (loadNested settings disk stack (number :: route) path).result = .ok needed →
        Routed (number :: route) needed)
    (h : (loadDependencies settings disk stack route dir manifest number declared).result =
      .ok packages) :
    (∀ needed ∈ packages, ∃ place, number ≤ place ∧ Routed (place :: route) needed) ∧
      ∀ first ∈ packages, ∀ second ∈ packages, ∀ needed ∈ first :: first.dependencies,
        ∀ other ∈ second :: second.dependencies, needed.route = other.route → needed = other := by
  induction declared generalizing number packages with
  | nil =>
    cases loadDependencies_nil.symm.trans h
    exact ⟨nofun, nofun⟩
  | cons dependency rest ih =>
    obtain ⟨-, package, hload, others, hrest, rfl⟩ := loadDependencies_cons_ok.1 h
    have hfirst := hone number _ package hload
    obtain ⟨hothers, hunique⟩ := ih hrest
    -- Nothing of the first package has the route of something of a later one.
    have hapart : ∀ later ∈ others, ∀ needed ∈ package :: package.dependencies,
        ∀ other ∈ later :: later.dependencies, needed.route ≠ other.route := by
      intro later hlater needed hneeded other hother heq
      obtain ⟨place, hplace, hrouted⟩ := hothers later hlater
      have hbelow := hrouted.below other hother
      rw [← heq] at hbelow
      have hnumber := eq_of_suffix (hfirst.below needed hneeded) hbelow
      omega
    refine ⟨?_, ?_⟩
    · intro needed hneeded
      rcases List.mem_cons.1 hneeded with rfl | hneeded
      · exact ⟨number, Nat.le_refl _, hfirst⟩
      · obtain ⟨place, hplace, hrouted⟩ := hothers needed hneeded
        exact ⟨place, by omega, hrouted⟩
    · intro first hmem second hmem' needed hneeded other hother heq
      rcases List.mem_cons.1 hmem with rfl | hlater
      · rcases List.mem_cons.1 hmem' with rfl | hlater'
        · exact hfirst.unique needed hneeded other hother heq
        · exact absurd heq (hapart second hlater' needed hneeded other hother)
      · rcases List.mem_cons.1 hmem' with rfl | hlater'
        · exact absurd heq.symm (hapart first hlater other hother needed hneeded)
        · exact hunique first hlater second hlater' needed hneeded other hother heq

/-- The recursion is on the directories that are not on the stack, as in the definition. -/
theorem routed_of_loadNested {stack : List Location} {route : List Nat} {dir : Path}
    {package : Package} (h : (loadNested settings disk stack route dir).result = .ok package) :
    Routed route package := by
  obtain ⟨location, manifest, direct, hdir, hstack, _, hdirect, hparts⟩ := loadNested_ok.1 h
  obtain ⟨_, exports, _, rfl⟩ := ofParts_ok.1 hparts
  obtain ⟨hnumbered, hunique⟩ := routed_of_loadDependencies
    (fun number path needed hload => routed_of_loadNested hload) hdirect
  have hneeded {needed : Package} (hmem : needed ∈ flatten direct) :
      ∃ between ∈ direct, needed ∈ between :: between.dependencies := by
    obtain ⟨between, hbetween, hmem | rfl⟩ := mem_flatten hmem
    · exact ⟨between, hbetween, List.mem_cons_of_mem _ hmem⟩
    · exact ⟨needed, hbetween, List.mem_cons_self⟩
  have hbelow {needed : Package} (hmem : needed ∈ flatten direct) :
      ∃ number, number :: route <:+ needed.route := by
    obtain ⟨between, hbetween, hmem⟩ := hneeded hmem
    obtain ⟨number, _, hrouted⟩ := hnumbered between hbetween
    exact ⟨number, hrouted.below needed hmem⟩
  have hlonger {needed : Package} (hmem : needed ∈ flatten direct) : route ≠ needed.route := by
    obtain ⟨number, hsuffix⟩ := hbelow hmem
    intro heq
    have hlength := hsuffix.length_le
    rw [← heq, List.length_cons] at hlength
    omega
  constructor
  · intro needed hmem
    rcases List.mem_cons.1 hmem with rfl | hmem
    · exact List.suffix_refl _
    · obtain ⟨number, hsuffix⟩ := hbelow hmem
      exact (List.suffix_cons _ _).trans hsuffix
  · intro needed hmem other hother heq
    rcases List.mem_cons.1 hmem with rfl | hmem
    · rcases List.mem_cons.1 hother with rfl | hother
      · rfl
      · exact absurd heq (hlonger hother)
    · rcases List.mem_cons.1 hother with rfl | hother
      · exact absurd heq.symm (hlonger hmem)
      · obtain ⟨first, hfirst, hmem⟩ := hneeded hmem
        obtain ⟨second, hsecond, hother⟩ := hneeded hother
        exact hunique first hfirst second hsecond needed hmem other hother heq
termination_by untouched disk stack
decreasing_by exact untouched_cons_lt (Disk.directory?_mem hdir) hstack

end Package

/-- Different packages of one load are kept apart. -/
theorem Handle.key_ne_of_load {settings : Settings} {disk : Disk} {dir : Path} {package : Package}
    {needed other : Package} (h : (Package.load settings disk dir).result = .ok package)
    (hneeded : needed ∈ package :: package.dependencies)
    (hother : other ∈ package :: package.dependencies) (hne : needed ≠ other) (load : Nat) :
    (⟨load, needed⟩ : Handle).key ≠ (⟨load, other⟩ : Handle).key := by
  intro heq
  exact hne ((Package.routed_of_loadNested h).unique needed hneeded other hother
    (Prod.ext_iff.1 heq).2)

end ModPack
