import ModPack.Proofs.DependencyGraph
import ModPack.Proofs.ExportErrors
import ModPack.Proofs.ManifestFiles
import ModPack.Proofs.SharedStack
import Mathlib.Data.List.Chain
import Mathlib.Data.List.Nodup

/-!
# Cycles of dependencies

Loading ends on every disk and tells cycles exactly. A load refuses for a cycle only where one is:
the chain that it reports leads from where the load began, along declared dependencies and without
going through a directory twice, to a package that depends on a directory of the chain. The
invariant is `OnTrail`, which ties the stack to the path that is loaded next. Main statement:
`load_detects_cycles`.
-/
namespace ModPack

/-- The failure does not tell of a cycle. -/
def LoadFailure.NotCyclic (failure : LoadFailure) : Prop :=
  ∀ path chain, failure ≠ .refused (.cyclic path chain)

theorem LoadFailure.OfExport.notCyclic {failure : LoadFailure} (h : failure.OfExport) :
    failure.NotCyclic := by
  rintro path chain rfl
  exact h

namespace Package

open Report (FailsIn)
open Relation (ReflTransGen TransGen)

variable {settings : Settings} {disk : Disk} {stack : List Location} {route : List Nat}
  {dir path : Path} {chain : List Path} {location : Location}

/-! ## Where a refusal for a cycle comes from -/

theorem readManifest_failsIn (settings : Settings) (disk : Disk) (dir : Path) :
    FailsIn LoadFailure.NotCyclic (Report.ofExcept (readManifest settings disk dir)) := by
  intro failure h
  change readManifest settings disk dir = .error failure at h
  rintro path chain rfl
  unfold readManifest at h
  dsimp only at h
  split at h
  · cases h
  · cases h
  · split at h
    · cases h
    · cases h
    · simp at h

theorem checkedManifest_failsIn (settings : Settings) (disk : Disk) (dir : Path) :
    FailsIn LoadFailure.NotCyclic (checkedManifest settings disk dir) := by
  refine FailsIn.bind (readManifest_failsIn settings disk dir) fun manifest => ?_
  refine FailsIn.bind (FailsIn.mapError_any fun cause => ?_) fun _ => FailsIn.pure _
  rintro path chain h
  cases h

theorem declaredPath_failsIn (settings : Settings) (dir : Path) (manifest : Manifest)
    (dependency : Dependency) :
    FailsIn LoadFailure.NotCyclic (declaredPath settings dir manifest dependency) := by
  unfold declaredPath
  refine FailsIn.bind (FailsIn.mapError_any fun cause => ?_) fun _ => ?_
  · rintro path chain h
    cases h
  split
  · refine FailsIn.bind (FailsIn.note _) fun _ => ?_
    exact FailsIn.bind (FailsIn.note _) fun _ => FailsIn.pure _
  · exact FailsIn.bind (FailsIn.note _) fun _ => FailsIn.pure _

theorem ofParts_failsIn (settings : Settings) (disk : Disk) (route : List Nat) (dir : Path)
    (manifest : Manifest) (direct : List Package) :
    FailsIn LoadFailure.NotCyclic (ofParts settings disk route dir manifest direct) := by
  unfold ofParts
  dsimp only
  split
  · refine FailsIn.fail ?_
    rintro path chain h
    cases h
  · refine FailsIn.bind (fun failure h => ?_) fun _ => FailsIn.pure _
    exact (ownExports_failsIn _ _ _ _ _ failure h).notCyclic

/-- When declared dependencies are refused for a cycle, one of them is. -/
theorem exists_cyclic_of_loadDependencies {manifest : Manifest} {number : Nat}
    {declared : List Dependency}
    (h : (loadDependencies settings disk stack route dir manifest number declared).result =
      .error (.refused (.cyclic path chain))) :
    ∃ dependency ∈ declared, ∃ route, (loadNested settings disk stack route
      (dir.join dependency.path)).result = .error (.refused (.cyclic path chain)) := by
  induction declared generalizing number with
  | nil =>
    rw [loadDependencies] at h
    cases h
  | cons dependency rest ih =>
    rw [loadDependencies] at h
    rcases Report.result_bind_error.1 h with h | ⟨declaredTo, hpath, h⟩
    · exact absurd rfl (declaredPath_failsIn settings dir manifest dependency _ h path chain)
    obtain ⟨-, rfl⟩ := declaredPath_ok.1 hpath
    rcases Report.result_bind_error.1 h with h | ⟨package, _, h⟩
    · exact ⟨dependency, List.mem_cons_self, _, h⟩
    have hrest : (loadDependencies settings disk stack route dir manifest (number + 1)
        rest).result = .error (.refused (.cyclic path chain)) := by
      split at h <;> simpa using h
    obtain ⟨other, hother, hload⟩ := ih hrest
    exact ⟨other, List.mem_cons_of_mem _ hother, hload⟩

/-- A refusal for a cycle is made at this level, or by a load below it. -/
theorem loadNested_cyclic
    (h : (loadNested settings disk stack route dir).result =
      .error (.refused (.cyclic path chain))) :
    ∃ location, disk.directory? dir = some location ∧
      ((location ∈ stack ∧ path = dir ∧ chain = stack.reverse.map Location.toPath) ∨
        (location ∉ stack ∧ ∃ manifest, readManifest settings disk dir = .ok manifest ∧
          ∃ dependency ∈ manifest.dependencies, ∃ route,
            (loadNested settings disk (location :: stack) route
              (dir.join dependency.path)).result = .error (.refused (.cyclic path chain)))) := by
  rcases loadNested_error.1 h with ⟨_, h⟩ | ⟨location, hdir, h⟩
  · cases h
  refine ⟨location, hdir, ?_⟩
  rcases h with ⟨hmem, h⟩ | ⟨hmem, h⟩
  · cases h
    exact .inl ⟨hmem, rfl, rfl⟩
  refine .inr ⟨hmem, ?_⟩
  rcases h with h | ⟨manifest, hmanifest, h⟩
  · exact absurd rfl (checkedManifest_failsIn settings disk dir _ h path chain)
  refine ⟨manifest, (checkedManifest_ok.1 hmanifest).1, ?_⟩
  rcases h with h | ⟨direct, _, h⟩
  · exact exists_cyclic_of_loadDependencies h
  · exact absurd rfl (ofParts_failsIn settings disk route dir manifest direct _ h path chain)

/-! ## The trail to a cycle -/

/-- The stack is the trail to the path that is loaded next: no directory is on it twice, each one
depends on the one pushed after it, and the innermost one declares the dependency at the path. -/
structure OnTrail (settings : Settings) (disk : Disk) (stack : List Location) (dir : Path) :
    Prop where
  nodup : stack.Nodup
  linked : stack.IsChain fun inner outer => DependsOn settings disk outer inner
  declared : ∀ top ∈ stack.head?, DeclaredAt settings disk top dir

theorem OnTrail.nil (dir : Path) : OnTrail settings disk [] dir :=
  ⟨List.nodup_nil, List.isChain_nil, fun _ h => by cases h⟩

theorem OnTrail.push {manifest : Manifest} {dependency : Dependency}
    (h : OnTrail settings disk stack dir) (hdir : disk.directory? dir = some location)
    (hmem : location ∉ stack) (hread : readManifest settings disk dir = .ok manifest)
    (hdependency : dependency ∈ manifest.dependencies) :
    OnTrail settings disk (location :: stack) (dir.join dependency.path) where
  nodup := List.nodup_cons.2 ⟨hmem, h.nodup⟩
  linked := List.isChain_cons.2 ⟨fun top htop => ⟨dir, h.declared top htop, hdir⟩, h.linked⟩
  declared := by
    intro top htop
    cases htop
    exact ⟨dir, manifest, hdir, hread, dependency, hdependency, rfl⟩

/-- The directories lead along declared dependencies, none of them twice, to one that declares a
dependency at `path`, and that is one of the directories. -/
structure LeadsBack (settings : Settings) (disk : Disk) (locations : List Location) (path : Path) :
    Prop where
  nodup : locations.Nodup
  linked : locations.IsChain (DependsOn settings disk)
  declared : ∃ last ∈ locations.getLast?, DeclaredAt settings disk last path
  back : ∃ repeated ∈ locations, disk.directory? path = some repeated

/-- Directories that lead back hold a cycle of dependencies. -/
theorem LeadsBack.cycle {locations : List Location} {repeated : Location}
    (h : LeadsBack settings disk locations path) (hmem : repeated ∈ locations)
    (hdir : disk.directory? path = some repeated) :
    TransGen (DependsOn settings disk) repeated repeated := by
  obtain ⟨last, hlast, hdeclared⟩ := h.declared
  obtain ⟨front, after, rfl⟩ := List.append_of_mem hmem
  have htail : (repeated :: after).getLast (List.cons_ne_nil _ _) = last := by
    have hlast := Option.mem_def.1 hlast
    rw [List.getLast?_append_of_ne_nil _ (List.cons_ne_nil _ _),
      List.getLast?_eq_some_getLast (List.cons_ne_nil _ _)] at hlast
    exact Option.some.inj hlast
  have hreach : ReflTransGen (DependsOn settings disk) repeated last :=
    List.relationReflTransGen_of_exists_isChain_cons after h.linked.right_of_append htail
  exact TransGen.tail' hreach ⟨path, hdeclared, hdir⟩

/-- What a refusal for a cycle reports leads back, and begins with the stack and the directory of
the load. The recursion is on the directories that are not on the stack. -/
theorem leadsBack_of_loadNested {stack : List Location} {route : List Nat} {dir : Path}
    (h : (loadNested settings disk stack route dir).result =
      .error (.refused (.cyclic path chain)))
    (htrail : OnTrail settings disk stack dir) :
    ∃ locations, chain = locations.map Location.toPath ∧
      LeadsBack settings disk locations path ∧ stack.reverse <+: locations ∧
      ∀ location, disk.directory? dir = some location → location ∉ stack →
        (location :: stack).reverse <+: locations := by
  obtain ⟨location, hdir, ⟨hmem, rfl, hchain⟩ | ⟨hmem, manifest, hread, dependency, hdependency,
    route, hload⟩⟩ := loadNested_cyclic h
  · refine ⟨stack.reverse, hchain, ?_, List.prefix_refl _, ?_⟩
    · refine ⟨List.nodup_reverse.2 htrail.nodup, List.isChain_reverse.2 htrail.linked, ?_, ?_⟩
      · obtain ⟨top, htop⟩ : ∃ top, top ∈ stack.head? := by
          cases stack with
          | nil => cases hmem
          | cons top rest => exact ⟨top, rfl⟩
        exact ⟨top, by rwa [List.getLast?_reverse], htrail.declared top htop⟩
      · exact ⟨location, List.mem_reverse.2 hmem, hdir⟩
    · intro other hother hnot
      rw [hdir] at hother
      cases hother
      exact absurd hmem hnot
  · obtain ⟨locations, hchain, hback, hfront, _⟩ :=
      leadsBack_of_loadNested hload (htrail.push hdir hmem hread hdependency)
    refine ⟨locations, hchain, hback, ?_, ?_⟩
    · rw [List.reverse_cons] at hfront
      exact (List.prefix_append _ _).trans hfront
    · intro other hother _
      rw [hdir] at hother
      cases hother
      exact hfront
termination_by untouched disk stack
decreasing_by exact untouched_cons_lt (Disk.directory?_mem hdir) hmem

/-- The directories that a refusal for a cycle reports begin with the one the load began in. -/
theorem leadsBack_of_load
    (h : (load settings disk dir).result = .error (.refused (.cyclic path chain))) :
    ∃ locations, chain = locations.map Location.toPath ∧
      LeadsBack settings disk locations path ∧ locations.head? = disk.directory? dir := by
  obtain ⟨locations, hchain, hback, _, hfront⟩ := leadsBack_of_loadNested h (.nil dir)
  obtain ⟨location, hdir, _⟩ := loadNested_cyclic h
  obtain ⟨rest, rfl⟩ := hfront location hdir List.not_mem_nil
  exact ⟨_, hchain, hback, hdir.symm⟩

/-- Loading ends and detects cycles exactly. With room for as many nested calls as the tree has
directories, and one more, every load on a shared stack ends with the report of `loadNested` and
gives the stack back as it was. A load from which a cycle of dependencies can be reached gives no
package. A refusal for a cycle reports directories without repeats that lead from where the load
began, along declared dependencies, to one that declares a dependency at `path`, and `path` leads to
a directory among them, which so lies on a cycle. -/
theorem load_detects_cycles (settings : Settings) (disk : Disk) (dir : Path) :
    (∀ depth stack route nested, disk.tree.directories.length < depth →
      loadShared settings disk depth route nested stack =
        some (loadNested settings disk stack route nested, stack)) ∧
    (∀ start looped, disk.directory? dir = some start →
      ReflTransGen (DependsOn settings disk) start looped →
      TransGen (DependsOn settings disk) looped looped →
      ∀ package, (load settings disk dir).result ≠ .ok package) ∧
    ∀ path chain, (load settings disk dir).result = .error (.refused (.cyclic path chain)) →
      ∃ locations : List Location, chain = locations.map Location.toPath ∧ locations.Nodup ∧
        locations.head? = disk.directory? dir ∧ locations.IsChain (DependsOn settings disk) ∧
        (∃ last ∈ locations.getLast?, DeclaredAt settings disk last path) ∧
        ∃ repeated ∈ locations, disk.directory? path = some repeated ∧
          TransGen (DependsOn settings disk) repeated repeated := by
  refine ⟨?_, ?_, ?_⟩
  · intro depth stack route nested hdepth
    exact loadShared_restores route nested (untouched_lt stack hdepth)
  · intro start looped hdir hreach hcycle package hload
    exact not_reaches_itself_of_load hdir hload hreach hcycle
  · intro path chain h
    obtain ⟨locations, hchain, hback, hhead⟩ := leadsBack_of_load h
    obtain ⟨repeated, hmem, hdir⟩ := hback.back
    exact ⟨locations, hchain, hback.nodup, hhead, hback.linked, hback.declared, repeated, hmem,
      hdir, hback.cycle hmem hdir⟩

/-- The cycle of a package that needs itself: no load of it ends with a package, and the refusal
reports it. -/
theorem load_detects_loop :
    (load {} Sample.disk Sample.loopPath).result =
        .error (.refused (.cyclic Sample.loopPath [Sample.loopPath])) ∧
      loadShared {} Sample.disk 20 [] Sample.loopPath [] =
        some (loadNested {} Sample.disk [] [] Sample.loopPath, []) ∧
      (∀ package, (load {} Sample.disk Sample.loopPath).result ≠ .ok package) ∧
      TransGen (DependsOn {} Sample.disk) ["loop"] ["loop"] := by
  obtain ⟨hends, hcycle, hrefused⟩ := load_detects_cycles {} Sample.disk Sample.loopPath
  have hdir : Sample.disk.directory? Sample.loopPath = some ["loop"] := by decide +kernel
  obtain ⟨_, _, _, _, _, _, repeated, _, hback, hloop⟩ := hrefused _ _ Sample.load_loop
  rw [hdir] at hback
  cases hback
  exact ⟨Sample.load_loop, hends 20 [] [] _ (by decide +kernel),
    hcycle _ _ hdir ReflTransGen.refl hloop, hloop⟩

end Package

end ModPack
