import ModPack.Proofs.ExportErrors
import ModPack.Proofs.ReorderedLoads
import Mathlib.Data.List.Permutation
import Mathlib.Data.String.Basic

/-!
# Conflicts between versions

The dependencies of a package are in conflict when what they bring along has two versions of one
package. The list of flattened dependencies depends on the order of the direct ones, but the names
and versions in it do not; so a conflict is told by these alone: the first name that has several
versions, and all of its versions, both in the order of texts. Main statements: `conflict?_eq_some`
and `conflicts_told`.
-/
namespace ModPack

/-- In a list in order the first item with a property is the least one that has it. -/
theorem le_of_find?_of_pairwise {items : List String} {p : String → Bool} {found other : String}
    (hsorted : items.Pairwise (· ≤ ·)) (hfound : items.find? p = some found)
    (hmem : other ∈ items) (hother : p other = true) : found ≤ other := by
  obtain ⟨_, before, after, rfl, hbefore⟩ := List.find?_eq_some_iff_append.1 hfound
  obtain ⟨-, hafter, -⟩ := List.pairwise_append.1 hsorted
  rcases List.mem_append.1 hmem with hmem | hmem
  · have hnot := hbefore other hmem
    rw [hother] at hnot
    cases hnot
  · rcases List.mem_cons.1 hmem with rfl | hmem
    · exact le_rfl
    · exact (List.pairwise_cons.1 hafter).1 other hmem

theorem pairwise_le_mergeSort (items : List String) :
    (items.mergeSort fun first second => first ≤ second).Pairwise (· ≤ ·) := by
  have htrans : ∀ first second third : String, decide (first ≤ second) = true →
      decide (second ≤ third) = true → decide (first ≤ third) = true := by
    simpa using fun first second third => le_trans
  have htotal : ∀ first second : String,
      (decide (first ≤ second) || decide (second ≤ first)) = true := by
    simpa using le_total
  simpa using List.pairwise_mergeSort htrans htotal items

namespace Package

variable {settings : Settings} {disk : Disk} {route : List Nat} {dir : Path} {manifest : Manifest}
  {direct other : List Package} {wanted version : String} {versions : List String}

/-- A package of the name and version is among the direct dependencies and what they depend on. -/
def Brings (direct : List Package) (wanted version : String) : Prop :=
  ∃ needed ∈ direct, ∃ package, (package = needed ∨ package ∈ needed.dependencies) ∧
    package.name = wanted ∧ package.version = version

/-- The name has several versions. -/
def Disputed (direct : List Package) (wanted : String) : Prop :=
  ∃ first second, Brings direct wanted first ∧ Brings direct wanted second ∧ first ≠ second

/-- The first name with several versions, and all of them in order, each once. -/
structure Conflict (direct : List Package) (wanted : String) (versions : List String) : Prop where
  disputed : Disputed direct wanted
  least : ∀ other, Disputed direct other → wanted ≤ other
  mem_iff : ∀ version, version ∈ versions ↔ Brings direct wanted version
  sorted : versions.Pairwise (· < ·)

theorem Conflict.unique {found : String} {others : List String}
    (h : Conflict direct wanted versions) (hother : Conflict direct found others) :
    found = wanted ∧ others = versions := by
  obtain rfl : found = wanted := le_antisymm (hother.least _ h.disputed) (h.least _ hother.disputed)
  refine ⟨rfl, ?_⟩
  have hperm : others.Perm versions :=
    (List.perm_ext_iff_of_nodup (hother.sorted.imp ne_of_lt) (h.sorted.imp ne_of_lt)).2
      fun version => (hother.mem_iff version).trans (h.mem_iff version).symm
  exact hperm.eq_of_pairwise (fun _ _ _ _ hlt hgt => absurd hgt hlt.asymm) hother.sorted h.sorted

/-! ## The versions in a flattened list -/

/-- What is brought along is in the flattened list, by name and version. -/
theorem brings_iff : Brings direct wanted version ↔
    (wanted, version) ∈ (flatten direct).map identity := by
  rw [mem_identities_flatten]
  refine exists_congr fun needed => and_congr_right fun _ => ?_
  constructor
  · rintro ⟨package, rfl | hmem, rfl, rfl⟩
    · exact .inl rfl
    · exact .inr (List.mem_map_of_mem hmem)
  · rintro (heq | hmem)
    · obtain ⟨hname, hversion⟩ := Prod.mk.inj heq
      exact ⟨needed, .inl rfl, hname, hversion⟩
    · obtain ⟨package, hpackage, heq⟩ := List.mem_map.1 hmem
      obtain ⟨hname, hversion⟩ := Prod.mk.inj heq
      exact ⟨package, .inr hpackage, hname, hversion⟩

theorem mem_versionsOf {packages : List Package} : version ∈ versionsOf packages wanted ↔
    (wanted, version) ∈ packages.map identity := by
  rw [versionsOf, (List.mergeSort_perm _ _).mem_iff, List.mem_map, List.mem_map]
  refine exists_congr fun package => ?_
  rw [List.mem_filter, decide_eq_true_eq, identity, Prod.mk.injEq, and_assoc]

/-- The versions of a name in a flattened list are in order, and none comes twice. -/
theorem pairwise_versionsOf_flatten (direct : List Package) (wanted : String) :
    (versionsOf (flatten direct) wanted).Pairwise (· < ·) := by
  have hnodup : (((flatten direct).filter (·.name = wanted)).map version).Nodup := by
    refine List.Nodup.of_map (fun version => (wanted, version)) ?_
    have hsame : (((flatten direct).filter (·.name = wanted)).map Package.version).map
        (fun version => (wanted, version)) =
          ((flatten direct).filter (·.name = wanted)).map identity := by
      rw [List.map_map]
      refine List.map_congr_left fun package hmem => ?_
      rw [Function.comp_apply, identity, of_decide_eq_true (List.mem_filter.1 hmem).2]
    rw [hsame]
    exact (nodup_flatten direct).sublist (List.filter_sublist.map _)
  have hdifferent : (versionsOf (flatten direct) wanted).Nodup :=
    (List.mergeSort_perm _ _).nodup_iff.2 hnodup
  exact (pairwise_le_mergeSort _).imp₂ (fun _ _ hle hne => lt_of_le_of_ne hle hne) hdifferent

theorem one_lt_length_iff {items : List String} (h : items.Nodup) :
    1 < items.length ↔ ∃ first second, first ∈ items ∧ second ∈ items ∧ first ≠ second := by
  constructor
  · intro hlength
    match items, h with
    | [], _ => cases hlength
    | [_], _ => exact absurd hlength (Nat.lt_irrefl 1)
    | first :: second :: rest, h =>
      obtain ⟨hfirst, -⟩ := List.nodup_cons.1 h
      exact ⟨first, second, by simp, by simp, fun heq => hfirst (by simp [heq])⟩
  · rintro ⟨first, second, hfirst, hsecond, hne⟩
    match items with
    | [] => cases hfirst
    | [_] =>
      rw [List.mem_singleton] at hfirst hsecond
      exact absurd (hfirst.trans hsecond.symm) hne
    | _ :: _ :: _ => simp

theorem disputed_iff :
    Disputed direct wanted ↔ 1 < (versionsOf (flatten direct) wanted).length := by
  have hnodup : (versionsOf (flatten direct) wanted).Nodup :=
    (pairwise_versionsOf_flatten direct wanted).imp ne_of_lt
  simp only [one_lt_length_iff hnodup, Disputed, brings_iff, mem_versionsOf]

/-! ## The conflict that is told -/

theorem conflict?_eq_some :
    conflict? (flatten direct) = some (wanted, versions) ↔ Conflict direct wanted versions := by
  have hsound {wanted : String} {versions : List String}
      (h : conflict? (flatten direct) = some (wanted, versions)) :
      Conflict direct wanted versions := by
    obtain ⟨found, hfound, heq⟩ := Option.map_eq_some_iff.1 h
    cases heq
    have hseveral := List.find?_some hfound
    rw [decide_eq_true_eq, ← disputed_iff] at hseveral
    refine ⟨hseveral, fun other hother => ?_,
      fun version => mem_versionsOf.trans brings_iff.symm, pairwise_versionsOf_flatten _ _⟩
    have hlength := disputed_iff.1 hother
    obtain ⟨first, -, hfirst, -⟩ := hother
    obtain ⟨package, hpackage, heq⟩ := List.mem_map.1 (brings_iff.1 hfirst)
    obtain ⟨rfl, -⟩ := Prod.mk.inj heq
    have hmem : package.name ∈ ((flatten direct).map name).mergeSort
        fun first second => first ≤ second :=
      (List.mergeSort_perm _ _).mem_iff.2 (List.mem_map_of_mem hpackage)
    exact le_of_find?_of_pairwise (pairwise_le_mergeSort _) hfound hmem
      (decide_eq_true hlength)
  refine ⟨hsound, fun h => ?_⟩
  cases hconflict : conflict? (flatten direct) with
  | none =>
    -- Names that are all different have one version each.
    have hnodup := conflict?_eq_none.1 hconflict
    have hlength := disputed_iff.1 h.disputed
    rw [length_versionsOf] at hlength
    exact absurd hlength (Nat.not_lt_of_le (List.nodup_iff_count_le_one.1 hnodup wanted))
  | some found =>
    obtain ⟨rfl, rfl⟩ := h.unique (hsound hconflict)
    rfl

theorem conflict?_eq_none_iff :
    conflict? (flatten direct) = none ↔ ∀ wanted, ¬ Disputed direct wanted := by
  constructor
  · intro h wanted hdisputed
    have hlength := disputed_iff.1 hdisputed
    rw [length_versionsOf] at hlength
    have hcount := List.nodup_iff_count_le_one.1 (conflict?_eq_none.1 h) wanted
    exact absurd hlength (Nat.not_lt_of_le hcount)
  · intro h
    cases hconflict : conflict? (flatten direct) with
    | none => rfl
    | some found => exact absurd (conflict?_eq_some.1 hconflict).disputed (h _)

/-- The load of a package stops at a conflict between its dependencies, and only there it tells of
one. -/
theorem ofParts_versionMismatch {path : Path} :
    (ofParts settings disk route dir manifest direct).result =
        .error (.refused (.versionMismatch path wanted versions)) ↔
      path = dir / settings.manifestName ∧ Conflict direct wanted versions := by
  rw [← conflict?_eq_some]
  unfold ofParts
  dsimp only
  cases conflict? (flatten direct) with
  | some found =>
    obtain ⟨name, others⟩ := found
    simp only [Loading.result_refuse, Except.error.injEq, LoadFailure.refused.injEq,
      LoadError.versionMismatch.injEq, Option.some.injEq, Prod.mk.injEq, eq_comm]
  | none =>
    refine iff_of_false (fun h => ?_) (by simp)
    rcases Report.result_bind_error.1 h with hexports | ⟨_, _, hlast⟩
    · exact ownExports_failsIn settings disk dir manifest.name _ _ hexports
    · cases hlast

/-! ## The order of the direct dependencies -/

theorem Brings.perm (hperm : direct.Perm other) :
    Brings other wanted version ↔ Brings direct wanted version :=
  exists_congr fun _ => and_congr_left fun _ => hperm.mem_iff.symm

theorem identities_perm (hperm : direct.Perm other) :
    ((flatten other).map identity).Perm ((flatten direct).map identity) := by
  rw [List.perm_ext_iff_of_nodup (nodup_flatten other) (nodup_flatten direct)]
  rintro ⟨wanted, version⟩
  rw [← brings_iff, ← brings_iff, Brings.perm hperm]

theorem conflict?_perm (hperm : direct.Perm other) :
    conflict? (flatten other) = conflict? (flatten direct) := by
  have hdisputed (wanted : String) : Disputed other wanted ↔ Disputed direct wanted := by
    simp only [Disputed, Brings.perm hperm]
  cases h : conflict? (flatten direct) with
  | none =>
    rw [conflict?_eq_none_iff] at h ⊢
    exact fun wanted => mt (hdisputed wanted).1 (h wanted)
  | some found =>
    obtain ⟨disputed, least, mem_iff, sorted⟩ := conflict?_eq_some.1 h
    refine conflict?_eq_some.2 ⟨(hdisputed _).2 disputed, fun name hname => ?_, fun version => ?_,
      sorted⟩
    · exact least name ((hdisputed name).1 hname)
    · exact (mem_iff version).trans (Brings.perm hperm).symm

/-- Flattening direct dependencies tells a conflict exactly when some name has two versions among
them and all that they depend on. It is the first such name, with all its versions in order. In any
other order the direct dependencies have the same conflict, and the same names and versions in their
flattened list. A load stops with the conflict, or has the flattened list. -/
theorem conflicts_told (direct : List Package) :
    ((∃ conflict, conflict? (flatten direct) = some conflict) ↔
        ∃ wanted, Disputed direct wanted) ∧
      (∀ wanted versions, conflict? (flatten direct) = some (wanted, versions) ↔
        Conflict direct wanted versions) ∧
      (∀ other, direct.Perm other →
        conflict? (flatten other) = conflict? (flatten direct) ∧
          ((flatten other).map identity).Perm ((flatten direct).map identity)) ∧
      ∀ settings disk route dir manifest,
        (∀ path wanted versions, (ofParts settings disk route dir manifest direct).result =
            .error (.refused (.versionMismatch path wanted versions)) ↔
          path = dir / settings.manifestName ∧ Conflict direct wanted versions) ∧
        ∀ package, (ofParts settings disk route dir manifest direct).result = .ok package →
          (∀ wanted, ¬ Disputed direct wanted) ∧ package.dependencies = flatten direct := by
  refine ⟨?_, fun wanted versions => conflict?_eq_some,
    fun other hperm => ⟨conflict?_perm hperm, identities_perm hperm⟩,
    fun settings disk route dir manifest =>
      ⟨fun path wanted versions => ofParts_versionMismatch, fun package hpackage => ?_⟩⟩
  · rw [← Option.isSome_iff_exists, ← Option.ne_none_iff_isSome, ne_eq, conflict?_eq_none_iff]
    push Not
    rfl
  · obtain ⟨hagreed, _, _, rfl⟩ := ofParts_ok.1 hpackage
    exact ⟨conflict?_eq_none_iff.1 hagreed, rfl⟩

end Package

namespace Sample

/-- A later version of a package that another one needs. -/
def laterBase : Package :=
  { basePackage with route := [1], manifest := { base with version := "2.0.0" } }

end Sample

/-- A package is needed in two versions, one of them by way of another package. -/
theorem Package.conflicts_told_bases :
    [Sample.hubPackage, Sample.laterBase].Perm [Sample.laterBase, Sample.hubPackage] ∧
      conflict? (flatten [Sample.laterBase, Sample.hubPackage]) =
        some ("base", ["1.0.0", "2.0.0"]) ∧
      Conflict [Sample.hubPackage, Sample.laterBase] "base" ["1.0.0", "2.0.0"] := by
  obtain ⟨_, htold, hperm, _⟩ := conflicts_told [Sample.hubPackage, Sample.laterBase]
  have hswap : [Sample.hubPackage, Sample.laterBase].Perm [Sample.laterBase, Sample.hubPackage] :=
    .swap _ _ _
  have hconflict : conflict? (flatten [Sample.hubPackage, Sample.laterBase]) =
      some ("base", ["1.0.0", "2.0.0"]) := by
    cbv
  exact ⟨hswap, (hperm _ hswap).1.trans hconflict, (htold _ _).1 hconflict⟩

end ModPack
