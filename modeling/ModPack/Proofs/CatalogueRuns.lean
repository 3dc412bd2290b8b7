import ModPack.Catalogue
import ModPack.Proofs.NumberedExports
import ModPack.Proofs.RegistryEntries
import ModPack.Proofs.TreeFrames
import Mathlib.Data.Finset.Card

/-!
# Runs of operations on a catalogue

Registries share records when one is inserted and copy them when one registry is merged into
another. A run of operations is told by what it writes: `written` lists the entries that it puts
into registries, the last one first, and a lookup finds the first one of them under its key. Records
are told by the marks: an assembled record stays as it is, and a copy is not changed by marks of
other records. Main statement: `run_spec`.
-/
namespace ModPack.Catalogue

/-- An operation on the records and registries of a catalogue. -/
inductive Step
  | define (item : AnyExport)
  | insert (name : String) (id : Identifier) (number : Nat)
  | get (name : String) (id : Identifier)
  | merge (name source : String)
  | mark (number : Nat) (index : Int)
  deriving DecidableEq

/-- What an operation answers. -/
inductive Answer
  | defined (number : Nat)
  | replaced (number : Option Nat)
  | found (number : Option Nat)
  | merged (size : Nat)
  | marked
  | refused (error : IndexError)
  /-- There is no such record. -/
  | unbound (number : Nat)
  deriving DecidableEq, Repr

variable {catalogue : Catalogue} {name source other : String} {id : Identifier} {number : Nat}
  {item : AnyExport} {index : Int} {step : Step}

def perform (catalogue : Catalogue) : Step → Answer × Catalogue
  | .define item =>
    let (number, catalogue) := catalogue.define item
    (.defined number, catalogue)
  | .insert name id number =>
    if number < catalogue.records.length then
      let (replaced, catalogue) := catalogue.insert name id number
      (.replaced replaced, catalogue)
    else (.unbound number, catalogue)
  | .get name id => (.found (catalogue.get? name id), catalogue)
  | .merge name source =>
    let merged := catalogue.merge name source
    (.merged (merged.registry name).size, merged)
  | .mark number index =>
    if number < catalogue.records.length then
      match catalogue.mark number index with
      | .ok marked => (.marked, marked)
      | .error error => (.refused error, catalogue)
    else (.unbound number, catalogue)

/-- The catalogue after operations in order. -/
def run (catalogue : Catalogue) (steps : List Step) : Catalogue :=
  steps.foldl (fun catalogue step => (catalogue.perform step).2) catalogue

/-- The entries that an operation puts into registries, each under the name of the registry and its
identifier there. -/
def writesOf (catalogue : Catalogue) : Step → List ((String × Identifier) × Nat)
  | .insert name id number =>
    if number < catalogue.records.length then [((name, id), number)] else []
  | .merge name source =>
    (catalogue.copy (catalogue.registry source).entries).1.map fun (id, number) =>
      ((name, id), number)
  | _ => []

/-- The entries that operations put into registries, the last one first. -/
def written (catalogue : Catalogue) : List Step → List ((String × Identifier) × Nat)
  | [] => []
  | step :: steps => written (catalogue.perform step).2 steps ++ catalogue.writesOf step

/-- The identifiers under which operations put entries into a registry. -/
def writtenIds (catalogue : Catalogue) (steps : List Step) (name : String) : List Identifier :=
  (catalogue.written steps).filterMap fun entry => if entry.1.1 = name then some entry.1.2 else none

/-- What a registry shows under an identifier. -/
def observed (catalogue : Catalogue) (name : String) (id : Identifier) : Option AnyExport :=
  (catalogue.get? name id).bind catalogue.record?

/-! ## Marks -/

/-- A mark that succeeds sets the state of one record, if there is one. -/
theorem mark_ok {marked : Catalogue} :
    catalogue.mark number index = .ok marked ↔
      (catalogue.record? number = none ∧ catalogue = marked) ∨
        ∃ item done, catalogue.record? number = some item ∧ Export.mark item index = .ok done ∧
          { catalogue with records := catalogue.records.set number done } = marked := by
  unfold mark
  cases hrecord : catalogue.record? number with
  | none => simp [pure, Except.pure]
  | some item =>
    cases hmark : Export.mark item index with
    | error error => simp [hmark, bind, Except.bind]
    | ok done => simp [hmark, bind, Except.bind, pure, Except.pure]

/-- It changes no registry and makes no record. -/
theorem mark_keeps {marked : Catalogue} (h : catalogue.mark number index = .ok marked) :
    marked.registries = catalogue.registries ∧
      marked.records.length = catalogue.records.length := by
  rcases mark_ok.1 h with ⟨_, rfl⟩ | ⟨item, done, _, _, rfl⟩
  · exact ⟨rfl, rfl⟩
  · exact ⟨rfl, List.length_set⟩

/-! ## Registries -/

theorem registry_putRegistry (catalogue : Catalogue) (name other : String)
    (registry : Registry Nat) :
    (catalogue.putRegistry name registry).registry other =
      if other = name then registry else catalogue.registry other := by
  by_cases hname : other = name
  · simp [Catalogue.registry, putRegistry, hname]
  · have hkeep : decide (other ≠ name) = true := by simpa using hname
    have hlookup := FileTree.lookup_filter_key (p := fun key => decide (key ≠ name)) hkeep
      catalogue.registries
    rw [Catalogue.registry, Catalogue.registry, putRegistry, List.lookup_cons,
      beq_eq_false_iff_ne.2 hname, if_neg hname]
    exact congrArg (Option.getD · ∅) hlookup

theorem get?_insert (catalogue : Catalogue) (name other : String) (id key : Identifier)
    (number : Nat) :
    (catalogue.insert name id number).2.get? other key =
      if other = name ∧ key = id then some number else catalogue.get? other key := by
  have hinsert : (catalogue.insert name id number).2 =
      catalogue.putRegistry name ((catalogue.registry name).set id number) := rfl
  rw [hinsert, Catalogue.get?, registry_putRegistry]
  by_cases hname : other = name
  · subst hname
    simp [Catalogue.get?, Registry.get?_set]
  · simp [Catalogue.get?, hname]

/-- Entries under the name of a registry are found under that name. -/
theorem lookup_named (entries : List (Identifier × Nat)) (name other : String) (id : Identifier) :
    (entries.map fun (id, number) => ((name, id), number)).lookup (other, id) =
      if other = name then entries.lookup id else none := by
  induction entries with
  | nil => simp
  | cons entry entries ih =>
    obtain ⟨key, number⟩ := entry
    by_cases hname : other = name
    · subst hname
      by_cases hkey : id = key
      · simp [hkey]
      · have hne : ((other, id) == (other, key)) = false := by simpa using hkey
        simp [List.lookup_cons, hne, beq_eq_false_iff_ne.2 hkey, ih]
    · have hne : ((other, id) == (name, key)) = false := by simp [hname]
      simp [List.lookup_cons, hne, ih, hname]

/-! ## Copies -/

theorem exists_record (h : number < catalogue.records.length) :
    ∃ item, catalogue.record? number = some item :=
  ⟨_, List.getElem?_eq_getElem h⟩

/-- Copies get the next numbers, in the order of the entries. -/
theorem copy_eq {entries : List (Identifier × Nat)}
    (h : ∀ entry ∈ entries, entry.2 < catalogue.records.length) :
    catalogue.copy entries =
      ((entries.zipIdx catalogue.records.length).map fun entry => (entry.1.1, entry.2),
        { catalogue with
          records :=
            catalogue.records ++ entries.filterMap fun entry => catalogue.record? entry.2 }) := by
  induction entries generalizing catalogue with
  | nil => simp [copy]
  | cons entry entries ih =>
    obtain ⟨id, number⟩ := entry
    obtain ⟨hnumber, hrest⟩ := List.forall_mem_cons.1 h
    obtain ⟨item, hitem⟩ := exists_record hnumber
    have hmore : ∀ entry ∈ entries, entry.2 < (catalogue.define item).2.records.length := by
      intro entry hentry
      have hbound := hrest entry hentry
      simp only [define, List.length_append, List.length_singleton]
      omega
    have hsame : entries.filterMap (fun entry => (catalogue.define item).2.record? entry.2) =
        entries.filterMap fun entry => catalogue.record? entry.2 :=
      List.filterMap_congr fun entry hentry => List.getElem?_append_left (hrest entry hentry)
    rw [copy, hitem]
    simp only [ih hmore, hsame]
    simp [define, hitem, List.zipIdx_cons]

/-- Copies are of the records that the entries point at. -/
theorem forall₂_copied {entries : List (Identifier × Nat)}
    (h : ∀ entry ∈ entries, entry.2 < catalogue.records.length) :
    List.Forall₂ (fun entry item => catalogue.record? entry.2 = some item) entries
      (entries.filterMap fun entry => catalogue.record? entry.2) := by
  induction entries with
  | nil => exact .nil
  | cons entry entries ih =>
    obtain ⟨hentry, hrest⟩ := List.forall_mem_cons.1 h
    obtain ⟨item, hitem⟩ := exists_record hentry
    rw [List.filterMap_cons, hitem]
    exact .cons hitem (ih hrest)

/-- Every record that a registry holds is defined. -/
def Bound (catalogue : Catalogue) : Prop :=
  ∀ name id number, catalogue.get? name id = some number → number < catalogue.records.length

namespace Bound

theorem empty : Bound {} := by
  intro name id number h
  cases h

theorem entries (h : catalogue.Bound) (name : String) :
    ∀ entry ∈ (catalogue.registry name).entries, entry.2 < catalogue.records.length :=
  fun entry hentry => h name entry.1 entry.2 (Registry.get?_of_mem hentry)

variable (h : catalogue.Bound)
include h

theorem records_merge (name source : String) :
    (catalogue.merge name source).records = catalogue.records ++
      (catalogue.registry source).entries.filterMap fun entry => catalogue.record? entry.2 := by
  unfold merge
  rw [copy_eq (h.entries source)]
  rfl

/-- The copies come under the identifiers of the registry that they are from. -/
theorem keys_copies (source : String) :
    (catalogue.copy (catalogue.registry source).entries).1.map Prod.fst =
      (catalogue.registry source).keys := by
  have hentries := List.zipIdx_map_fst catalogue.records.length (catalogue.registry source).entries
  rw [copy_eq (h.entries source), List.map_map, Registry.keys]
  nth_rewrite 2 [← hentries]
  rw [List.map_map]
  rfl

theorem copies_sorted (source : String) :
    (catalogue.copy (catalogue.registry source).entries).1.Pairwise Registry.Before := by
  have hsorted := (catalogue.registry source).pairwise_keys
  rw [← h.keys_copies, List.pairwise_map] at hsorted
  exact hsorted

/-- What a merge writes wins over what the registry held. -/
theorem get?_merge (name source other : String) (id : Identifier) :
    (catalogue.merge name source).get? other id =
      ((catalogue.writesOf (.merge name source)).lookup (other, id)).or
        (catalogue.get? other id) := by
  have hregistry (name : String) : (catalogue.copy (catalogue.registry source).entries).2.registry
      name = catalogue.registry name := by
    rw [copy_eq (h.entries source)]
    rfl
  rw [writesOf, lookup_named, Catalogue.get?, merge, registry_putRegistry]
  by_cases hname : other = name
  · rw [if_pos hname, if_pos hname, hname, hregistry]
    exact Registry.get?_foldl_set _ _ id (h.copies_sorted source)
  · rw [if_neg hname, if_neg hname, hregistry]
    rfl

/-- A merge writes nothing under an identifier that the other registry does not have. -/
theorem get?_merge_of_none (name : String) (hget : catalogue.get? source id = none) :
    (catalogue.merge name source).get? name id = catalogue.get? name id := by
  have hnothing : (catalogue.writesOf (.merge name source)).lookup (name, id) = none := by
    rw [writesOf, lookup_named, if_pos rfl]
    cases hcopy : (catalogue.copy (catalogue.registry source).entries).1.lookup id with
    | none => rfl
    | some copy =>
      have hmem : id ∈ (⟨_, h.copies_sorted source⟩ : Registry Nat).keys := by
        rw [Registry.mem_keys, Registry.get?, hcopy]
        rfl
      rw [Registry.keys, h.keys_copies, Registry.mem_keys] at hmem
      rw [Catalogue.get?] at hget
      rw [hget] at hmem
      cases hmem
  rw [h.get?_merge, hnothing, Option.none_or]

/-- A merge makes a new record for each entry that it copies. -/
theorem exists_copy (name : String) (hget : catalogue.get? source id = some number) :
    ∃ copy, catalogue.records.length ≤ copy ∧
      (catalogue.writesOf (.merge name source)).lookup (name, id) = some copy ∧
      (catalogue.merge name source).record? copy = catalogue.record? number := by
  obtain ⟨place, hplace⟩ := Registry.exists_getElem?_of_get? hget
  refine ⟨catalogue.records.length + place, Nat.le_add_right _ _, ?_, ?_⟩
  · have hcopy : (catalogue.copy (catalogue.registry source).entries).1[place]? =
        some (id, catalogue.records.length + place) := by
      rw [copy_eq (h.entries source), List.getElem?_map, List.getElem?_zipIdx, hplace]
      rfl
    let copies : Registry Nat := ⟨_, h.copies_sorted source⟩
    have hfound : copies.get? id = some (catalogue.records.length + place) :=
      Registry.get?_of_getElem? hcopy
    rw [writesOf, lookup_named, if_pos rfl]
    exact hfound
  · obtain ⟨item, hitem, hrecord⟩ := getElem?_of_forall₂ (forall₂_copied (h.entries source)) hplace
    rw [record?, h.records_merge, List.getElem?_append_right (Nat.le_add_right _ _),
      Nat.add_sub_cancel_left, hitem]
    exact hrecord.symm

/-- What an operation writes is what is found afterwards, before anything else. -/
theorem get?_perform (step : Step) (name : String) (id : Identifier) :
    (catalogue.perform step).2.get? name id =
      ((catalogue.writesOf step).lookup (name, id)).or (catalogue.get? name id) := by
  cases step with
  | define item => rfl
  | insert other key number =>
    rw [perform, writesOf]
    split
    · rw [get?_insert]
      by_cases hkey : name = other ∧ id = key
      · obtain ⟨rfl, rfl⟩ := hkey
        simp
      · have hne : ((name, id) == (other, key)) = false := by simpa using hkey
        rw [if_neg hkey, List.lookup_cons, hne]
        rfl
    · rfl
  | get => rfl
  | merge other source => exact h.get?_merge other source name id
  | mark number index =>
    rw [perform]
    split
    · split
      · next marked hmark =>
        rw [Catalogue.get?, Catalogue.registry, (mark_keeps hmark).1]
        rfl
      · rfl
    · rfl

/-! ## Records -/

theorem length_le_perform (step : Step) :
    catalogue.records.length ≤ (catalogue.perform step).2.records.length := by
  cases step with
  | define item => simp [Catalogue.perform, define]
  | insert name id number =>
    rw [Catalogue.perform]
    split <;> exact Nat.le_refl _
  | get => exact Nat.le_refl _
  | merge name source =>
    rw [Catalogue.perform, h.records_merge, List.length_append]
    exact Nat.le_add_right _ _
  | mark number index =>
    rw [Catalogue.perform]
    split
    · split
      · next marked hmark => exact (mark_keeps hmark).2.ge
      · exact Nat.le_refl _
    · exact Nat.le_refl _

/-- What an operation writes is defined after it. -/
theorem lt_of_mem_writesOf {entry : (String × Identifier) × Nat}
    (hentry : entry ∈ catalogue.writesOf step) :
    entry.2 < (catalogue.perform step).2.records.length := by
  cases step with
  | insert name id number =>
    rw [writesOf] at hentry
    rw [Catalogue.perform]
    split at hentry
    · next hnumber =>
      rw [if_pos hnumber, List.mem_singleton.1 hentry]
      exact hnumber
    · cases hentry
  | merge name source =>
    obtain ⟨copy, hcopy, rfl⟩ := List.mem_map.1 hentry
    rw [copy_eq (h.entries source)] at hcopy
    obtain ⟨⟨original, number⟩, horiginal, rfl⟩ := List.mem_map.1 hcopy
    have hplace := (List.mem_zipIdx horiginal).2.1
    rw [Catalogue.perform, h.records_merge, List.length_append,
      ← (forall₂_copied (h.entries source)).length_eq]
    exact hplace
  | define => cases hentry
  | get => cases hentry
  | mark => cases hentry

theorem perform (step : Step) : (catalogue.perform step).2.Bound := by
  intro name id number hget
  rw [h.get?_perform] at hget
  rcases Option.or_eq_some_iff.1 hget with hwritten | ⟨_, hbefore⟩
  · obtain ⟨before, after, hentries, _⟩ := List.lookup_eq_some_iff.1 hwritten
    have hentry : ((name, id), number) ∈ catalogue.writesOf step := by simp [hentries]
    exact h.lt_of_mem_writesOf hentry
  · exact Nat.lt_of_lt_of_le (h name id number hbefore) (h.length_le_perform step)

/-- Only a mark of a record changes it. -/
theorem record?_perform (hnumber : number < catalogue.records.length)
    (hstep : ∀ index, step ≠ .mark number index) :
    (catalogue.perform step).2.record? number = catalogue.record? number := by
  cases step with
  | define item => exact List.getElem?_append_left hnumber
  | insert name id other =>
    rw [Catalogue.perform]
    split <;> rfl
  | get => rfl
  | merge name source =>
    rw [Catalogue.perform, record?, h.records_merge]
    exact List.getElem?_append_left hnumber
  | mark other index =>
    have hne : other ≠ number := fun heq => hstep index (heq ▸ rfl)
    rw [Catalogue.perform]
    split
    · split
      · next marked hmark => exact record?_of_mark hmark hne
      · rfl
    · rfl

end Bound

/-- An assembled record is not marked again. -/
theorem perform_mark_of_assembled (hrecord : catalogue.record? number = some item)
    (hstate : item.state = .assembled index) (next : Int) :
    catalogue.perform (.mark number next) =
      (.refused (.alreadyAssembled item.kind item.name index), catalogue) := by
  have hnumber : number < catalogue.records.length := (List.getElem?_eq_some_iff.1 hrecord).1
  have hmark : Export.mark item next = .error (.alreadyAssembled item.kind item.name index) :=
    Export.mark_of_state_assembled hstate next
  rw [perform, if_pos hnumber, mark, hrecord]
  simp [hmark, bind, Except.bind]

/-! ## Runs -/

namespace Bound

variable (h : catalogue.Bound)
include h

theorem run (steps : List Step) : (catalogue.run steps).Bound := by
  induction steps generalizing catalogue with
  | nil => exact h
  | cons step steps ih => exact ih (h.perform step)

/-- A lookup finds what was written last. The induction is on the operations, from the first one
on. -/
theorem get?_run (steps : List Step) (name : String) (id : Identifier) :
    (catalogue.run steps).get? name id =
      ((catalogue.written steps).lookup (name, id)).or (catalogue.get? name id) := by
  induction steps generalizing catalogue with
  | nil => rfl
  | cons step steps ih =>
    have hrest := ih (h.perform step)
    rw [h.get?_perform, ← Option.or_assoc, ← List.lookup_append] at hrest
    exact hrest

/-- A record that is not marked on the way stays as it is. -/
theorem record?_run {steps : List Step} (hnumber : number < catalogue.records.length)
    (hsteps : ∀ index, .mark number index ∉ steps) :
    (catalogue.run steps).record? number = catalogue.record? number := by
  induction steps generalizing catalogue with
  | nil => rfl
  | cons step steps ih =>
    have hstep (index : Int) : step ≠ .mark number index :=
      fun heq => hsteps index (heq ▸ List.mem_cons_self)
    have hrest (index : Int) : .mark number index ∉ steps :=
      fun hmem => hsteps index (List.mem_cons_of_mem _ hmem)
    have hlater := ih (h.perform step) (Nat.lt_of_lt_of_le hnumber (h.length_le_perform step)) hrest
    exact hlater.trans (h.record?_perform hnumber hstep)

/-- An assembled record stays as it is whatever is done. -/
theorem record?_run_of_assembled (steps : List Step)
    (hrecord : catalogue.record? number = some item) (hstate : item.state = .assembled index) :
    (catalogue.run steps).record? number = some item := by
  induction steps generalizing catalogue with
  | nil => exact hrecord
  | cons step steps ih =>
    have hnumber : number < catalogue.records.length := (List.getElem?_eq_some_iff.1 hrecord).1
    have hnext : (catalogue.perform step).2.record? number = some item := by
      by_cases hstep : ∃ next, step = .mark number next
      · obtain ⟨next, rfl⟩ := hstep
        rw [perform_mark_of_assembled hrecord hstate]
        exact hrecord
      · rw [h.record?_perform hnumber (not_exists.1 hstep)]
        exact hrecord
    exact ih (h.perform step) hnext

/-- A merge leaves the registry with copies of its own. As long as nothing else is written in its
place, a copy shows what the original was at the merge until the copy itself is marked. -/
theorem observed_run_of_merge {steps : List Step} (hget : catalogue.get? source id = some number)
    (hsteps : ((catalogue.merge name source).written steps).lookup (name, id) = none) :
    ∃ copy, catalogue.records.length ≤ copy ∧
      let final := (catalogue.merge name source).run steps
      final.get? name id = some copy ∧
      (∀ object index, object ≠ copy →
        (final.perform (.mark object index)).2.observed name id = final.observed name id) ∧
      ((∀ index, .mark copy index ∉ steps) →
        final.observed name id = catalogue.record? number) := by
  obtain ⟨copy, hfresh, hwritten, hrecord⟩ := h.exists_copy name hget
  have hmerged : (catalogue.merge name source).Bound := h.perform (.merge name source)
  have hcopy : (catalogue.merge name source).get? name id = some copy := by
    rw [h.get?_merge, hwritten]
    rfl
  have hfinal : ((catalogue.merge name source).run steps).get? name id = some copy := by
    rw [hmerged.get?_run, hsteps, hcopy]
    rfl
  have hbound := hmerged.run steps
  refine ⟨copy, hfresh, hfinal, ?_, ?_⟩
  · intro object index hne
    have hsame := hbound.get?_perform (.mark object index) name id
    have hnothing : ((catalogue.merge name source).run steps).writesOf (.mark object index) = [] :=
      rfl
    rw [hnothing, List.lookup_nil, Option.none_or, hfinal] at hsame
    rw [observed, observed, hsame, hfinal]
    exact hbound.record?_perform (hbound name id copy hfinal) fun next heq =>
      hne (Step.mark.inj heq).1
  · intro hunmarked
    rw [observed, hfinal]
    exact (hmerged.record?_run (hmerged name id copy hcopy) hunmarked).trans hrecord

end Bound

theorem mem_writtenIds {steps : List Step} :
    id ∈ catalogue.writtenIds steps name ↔
      ((catalogue.written steps).lookup (name, id)).isSome := by
  constructor
  · intro h
    obtain ⟨⟨⟨other, key⟩, number⟩, hentry, hname⟩ := List.mem_filterMap.1 h
    split at hname
    · next hother =>
      cases hother
      cases hname
      cases hlookup : (catalogue.written steps).lookup (other, key) with
      | none =>
        have hne := List.lookup_eq_none_iff.1 hlookup _ hentry
        simp at hne
      | some found => rfl
    · cases hname
  · intro h
    obtain ⟨number, hnumber⟩ := Option.isSome_iff_exists.1 h
    obtain ⟨before, after, hentries, _⟩ := List.lookup_eq_some_iff.1 hnumber
    exact List.mem_filterMap.2 ⟨((name, id), number), by simp [hentries], by simp⟩

/-- From the start, a lookup finds what was written last and nothing else. -/
theorem get?_run_empty (steps : List Step) (name : String) (id : Identifier) :
    (run {} steps).get? name id = (written {} steps).lookup (name, id) := by
  have hnothing : get? {} name id = none := rfl
  rw [Bound.empty.get?_run, hnothing, Option.or_none]

/-- The keys of a registry are the identifiers that were written for it. -/
theorem mem_keys_run {steps : List Step} :
    id ∈ ((run {} steps).registry name).keys ↔ id ∈ writtenIds {} steps name := by
  rw [Registry.mem_keys, mem_writtenIds, ← get?_run_empty]
  rfl

/-- Registries over whole runs of operations. A lookup finds the entry that was written last, an
insertion answers the one that it displaces, and a registry enumerates the identifiers that were
written for it, each once and in order, whatever the history was. A merge writes new records with
what the merged registry held, and leaves other entries alone. An assembled record stays as it is,
and further marks of it are refused. A copy that a merge made is not changed by marks of any other
record. -/
theorem run_spec (steps : List Step) :
    (∀ name id, (run {} steps).get? name id = (written {} steps).lookup (name, id)) ∧
    (∀ name id number, number < (run {} steps).records.length →
      ((run {} steps).perform (.insert name id number)).1 =
        .replaced ((written {} steps).lookup (name, id))) ∧
    (∀ name, ((run {} steps).registry name).size = (writtenIds {} steps name).toFinset.card ∧
      ((run {} steps).registry name).keys.Pairwise
        (fun first second => first.precedes second = true) ∧
      ∀ id, id ∈ ((run {} steps).registry name).keys ↔ id ∈ writtenIds {} steps name) ∧
    (∀ name others, (∀ id, id ∈ writtenIds {} steps name ↔ id ∈ writtenIds {} others name) →
      ((run {} steps).registry name).keys = ((run {} others).registry name).keys) ∧
    (∀ name source id, match (run {} steps).get? source id with
      | some number => ∃ copy, (run {} steps).records.length ≤ copy ∧
          ((run {} steps).merge name source).get? name id = some copy ∧
          ((run {} steps).merge name source).record? copy = (run {} steps).record? number
      | none => ((run {} steps).merge name source).get? name id = (run {} steps).get? name id) ∧
    (∀ number item index, (run {} steps).record? number = some item →
      item.state = .assembled index → ∀ later,
        ((run {} steps).run later).record? number = some item ∧
        ∀ next, ((run {} steps).run later).perform (.mark number next) =
          (.refused (.alreadyAssembled item.kind item.name index), (run {} steps).run later)) ∧
    ∀ name source id number later, (run {} steps).get? source id = some number →
      (((run {} steps).merge name source).written later).lookup (name, id) = none →
      ∃ copy, (run {} steps).records.length ≤ copy ∧
        let final := ((run {} steps).merge name source).run later
        final.get? name id = some copy ∧
        (∀ object index, object ≠ copy →
          (final.perform (.mark object index)).2.observed name id = final.observed name id) ∧
        ((∀ index, .mark copy index ∉ later) →
          final.observed name id = (run {} steps).record? number) := by
  have hbound : (run {} steps).Bound := Bound.empty.run steps
  refine ⟨get?_run_empty steps, ?_, ?_, ?_, ?_, ?_, ?_⟩
  · intro name id number hnumber
    rw [← get?_run_empty, perform, if_pos hnumber]
    rfl
  · intro name
    refine ⟨?_, Registry.pairwise_keys _, fun id => mem_keys_run⟩
    have hset : ((run {} steps).registry name).keys.toFinset =
        (writtenIds {} steps name).toFinset := by
      ext id
      rw [List.mem_toFinset, List.mem_toFinset, mem_keys_run]
    rw [← hset, List.toFinset_card_of_nodup (Registry.nodup_keys _), Registry.keys, List.length_map]
    rfl
  · intro name others h
    apply Registry.keys_eq_of_mem_iff
    intro id
    rw [mem_keys_run, mem_keys_run, h]
  · intro name source id
    split
    · next number hget =>
      obtain ⟨copy, hfresh, hwritten, hrecord⟩ := hbound.exists_copy name hget
      refine ⟨copy, hfresh, ?_, hrecord⟩
      rw [hbound.get?_merge, hwritten]
      rfl
    · next hget => exact hbound.get?_merge_of_none name hget
  · intro number item index hrecord hstate later
    have hlater := hbound.record?_run_of_assembled later hrecord hstate
    exact ⟨hlater, perform_mark_of_assembled hlater hstate⟩
  · intro name source id number later hget hlater
    exact hbound.observed_run_of_merge hget hlater

end ModPack.Catalogue

namespace ModPack.Sample

open Catalogue (Step run)

def chimeId : Identifier :=
  ⟨"bell", "chime"⟩

def chime : NamedString where
  bank := 1
  name := "chime"
  text := "Ding!"

/-- A string that a registry holds. -/
def chimeSteps : List Step :=
  [.define (.string chime), .insert "bell" chimeId 0]

end ModPack.Sample

namespace ModPack.Catalogue

open Sample (chime chimeId chimeSteps)

/-- A string that is marked after a merge: its copy is as before, and it is not marked again. -/
theorem run_spec_chime :
    (((run {} chimeSteps).merge "tower" "bell").run [.mark 0 5]).observed "tower" chimeId =
        some (.string chime) ∧
      (run {} (chimeSteps ++ [.mark 0 5])).perform (.mark 0 4) =
        (.refused (.alreadyAssembled .text "chime" 5), run {} (chimeSteps ++ [.mark 0 5])) := by
  obtain ⟨_, _, _, _, _, _, hcopies⟩ := run_spec chimeSteps
  obtain ⟨_, _, _, _, _, hassembled, _⟩ := run_spec (chimeSteps ++ [.mark 0 5])
  constructor
  · obtain ⟨copy, hfresh, _, _, hobserved⟩ :=
      hcopies "tower" "bell" chimeId 0 [.mark 0 5] (by decide +kernel) (by decide +kernel)
    have hlength : (run {} chimeSteps).records.length = 1 := by decide +kernel
    have hrecord : (run {} chimeSteps).record? 0 = some (.string chime) := by decide +kernel
    rw [← hrecord]
    apply hobserved
    intro index hmem
    have heq := Step.mark.inj (List.mem_singleton.1 hmem)
    omega
  · have hrecord : (run {} (chimeSteps ++ [.mark 0 5])).record? 0 =
        some (.string { chime with state := .assembled 5 }) := by decide +kernel
    exact (hassembled 0 _ 5 hrecord rfl []).2 4

end ModPack.Catalogue
