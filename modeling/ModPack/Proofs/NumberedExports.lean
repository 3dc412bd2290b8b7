import ModPack.Assembly
import ModPack.Proofs.HexText
import Mathlib.Data.List.Nodup

/-!
# Numbered exports

The entries of a registry with the indices that assembling gives them: consecutive ones for sprites
and actors, and for strings consecutive ones within each section. Main statements:
`indices_numbered`, `indices_sectioned` and `nodup_ids_sectioned`.
-/
namespace ModPack

/-- The index of an export, if it has one. -/
def Export.index? {α : Type} [Export α] (item : α) : Option Int :=
  (Export.state item).index?

/-- The index of an assembled string. -/
def NamedString.number (string : NamedString) : Nat :=
  ((Export.index? string).getD 0).toNat

/-- The name and content of the file that an assembled string is written to. -/
def NamedString.file (string : NamedString) : String × Entry :=
  (NamedString.idText string.bank string.number ++ ".str",
    .file (Utf8.encode (string.written string.number)))

theorem getElem?_of_forall₂ {α β : Type} {R : α → β → Prop} {items : List α} {rows : List β}
    {place : Nat} {item : α} (h : List.Forall₂ R items rows) (hitem : items[place]? = some item) :
    ∃ row, rows[place]? = some row ∧ R item row := by
  induction h generalizing place with
  | nil => cases hitem
  | cons hfirst _ ih =>
    cases place with
    | zero =>
      cases hitem
      exact ⟨_, rfl, hfirst⟩
    | succ place => exact ih hitem

section Counted

variable {α β : Type} {R : α × Nat → β → Prop} {items : List α} {rows : List β} {place : Nat}
  (h : List.Forall₂ R (items.zipIdx 0) rows)
include h

/-- When items are counted from zero, each one's number is its place. -/
theorem getElem?_of_counted {item : α} (hitem : items[place]? = some item) :
    ∃ row, rows[place]? = some row ∧ R (item, place) row := by
  refine getElem?_of_forall₂ h ?_
  rw [List.getElem?_zipIdx, hitem, Nat.zero_add]
  rfl

theorem exists_counted {row : β} (hrow : rows[place]? = some row) :
    ∃ item, items[place]? = some item ∧ R (item, place) row := by
  obtain ⟨⟨item, number⟩, hplace, hrelated⟩ := getElem?_of_forall₂ h.flip hrow
  rw [List.getElem?_zipIdx, Nat.zero_add] at hplace
  obtain ⟨_, hitem, heq⟩ := Option.map_eq_some_iff.1 hplace
  cases heq
  exact ⟨item, hitem, hrelated⟩

end Counted

namespace Assembly

variable {α : Type} [Export α] {id : Identifier} {first place bank : Nat}
  {used : List (Nat × Nat)}

/-! ## Consecutive indices -/

/-- Entries with the indices from `first` on. -/
def numbered (first : Nat) (entries : List (Identifier × α)) : List (Identifier × α) :=
  (entries.zipIdx first).map fun ((id, item), index) =>
    (id, Export.withState (.assembled index) item)

@[simp] theorem numbered_cons (first : Nat) (id : Identifier) (item : α)
    (rest : List (Identifier × α)) :
    numbered first ((id, item) :: rest) =
      (id, Export.withState (.assembled first) item) :: numbered (first + 1) rest := rfl

@[simp] theorem length_numbered (first : Nat) (entries : List (Identifier × α)) :
    (numbered first entries).length = entries.length := by
  simp [numbered]

theorem getElem?_numbered (first : Nat) (entries : List (Identifier × α)) (place : Nat) :
    (numbered first entries)[place]? = entries[place]?.map fun (id, item) =>
      (id, Export.withState (.assembled (first + place : Nat)) item) := by
  rw [numbered, List.getElem?_map, List.getElem?_zipIdx, Option.map_map]
  rfl

theorem keys_numbered (first : Nat) (entries : List (Identifier × α)) :
    (numbered first entries).map (·.1) = entries.map (·.1) := by
  induction entries generalizing first with
  | nil => rfl
  | cons entry rest ih =>
    obtain ⟨id, item⟩ := entry
    rw [numbered_cons, List.map_cons, List.map_cons, ih]

theorem indices_numbered [LawfulExport α] (first : Nat) (entries : List (Identifier × α)) :
    (numbered first entries).map (fun entry => Export.index? entry.2) =
      (List.range' first entries.length).map fun index : Nat => some (index : Int) := by
  induction entries generalizing first with
  | nil => rfl
  | cons entry rest ih =>
    obtain ⟨id, item⟩ := entry
    have hindex :
        Export.index? (Export.withState (.assembled first) item) = some (first : Int) := by
      rw [Export.index?, LawfulExport.state_withState]
      rfl
    rw [numbered_cons, List.map_cons, hindex, ih, List.length_cons, List.range'_succ, List.map_cons]

/-! ## Indices within sections -/

/-- Strings with the indices that follow those used, each within its section. -/
def sectioned (used : List (Nat × Nat)) :
    List (Identifier × NamedString) → List (Identifier × NamedString)
  | [] => []
  | (id, string) :: rest =>
    (id, { string with state := .assembled (nextIn used string.bank) }) ::
      sectioned ((string.bank, nextIn used string.bank + 1) :: used) rest

theorem nextIn_cons (bank next other : Nat) (used : List (Nat × Nat)) :
    nextIn ((bank, next) :: used) other = if other = bank then next else nextIn used other := by
  by_cases h : other = bank
  · simp [nextIn, h]
  · simp [nextIn, h, List.lookup_cons, beq_eq_false_iff_ne.2 h]

theorem keys_sectioned (used : List (Nat × Nat)) (entries : List (Identifier × NamedString)) :
    (sectioned used entries).map (·.1) = entries.map (·.1) := by
  induction entries generalizing used with
  | nil => rfl
  | cons entry rest ih =>
    obtain ⟨id, string⟩ := entry
    rw [sectioned, List.map_cons, List.map_cons, ih]

/-- Every string gets an index, and keeps its place. -/
theorem getElem?_sectioned (used : List (Nat × Nat)) {entries : List (Identifier × NamedString)}
    {string : NamedString}
    (h : entries[place]? = some (id, string)) :
    ∃ index : Nat, (sectioned used entries)[place]? =
      some (id, { string with state := .assembled index }) := by
  induction entries generalizing used place with
  | nil => cases h
  | cons entry rest ih =>
    obtain ⟨key, first⟩ := entry
    rw [sectioned]
    cases place with
    | zero =>
      cases h
      exact ⟨_, rfl⟩
    | succ place => exact ih _ h

/-- A string that got an index is the one from before but for its index, which follows those used in
its section. -/
theorem of_mem_sectioned {entries : List (Identifier × NamedString)} {string : NamedString}
    (h : (id, string) ∈ sectioned used entries) :
    ∃ before, (id, before) ∈ entries ∧
      string = { before with state := .assembled string.number } ∧
      nextIn used string.bank ≤ string.number := by
  induction entries generalizing used with
  | nil => cases h
  | cons entry rest ih =>
    obtain ⟨key, first⟩ := entry
    rw [sectioned, List.mem_cons] at h
    rcases h with heq | hrest
    · cases heq
      exact ⟨first, List.mem_cons_self, rfl, Nat.le_refl _⟩
    · obtain ⟨before, hmem, heq, hle⟩ := ih hrest
      refine ⟨before, List.mem_cons_of_mem _ hmem, heq, ?_⟩
      rw [nextIn_cons] at hle
      split at hle
      · next hbank =>
        rw [hbank]
        omega
      · exact hle

/-- Within each section the indices follow one another. The induction is on the strings; a string of
another section leaves the section as it is. -/
theorem indices_sectioned (used : List (Nat × Nat)) (entries : List (Identifier × NamedString))
    (bank : Nat) :
    ((sectioned used entries).filter (·.2.bank = bank)).map (fun entry => Export.index? entry.2) =
      (List.range' (nextIn used bank) (entries.filter (·.2.bank = bank)).length).map
        fun index : Nat => some (index : Int) := by
  induction entries generalizing used with
  | nil => rfl
  | cons entry rest ih =>
    obtain ⟨id, string⟩ := entry
    rw [sectioned]
    by_cases hbank : string.bank = bank
    · rw [List.filter_cons_of_pos (by simpa using hbank),
        List.filter_cons_of_pos (by simpa using hbank), List.map_cons, ih, nextIn_cons,
        if_pos hbank.symm, List.length_cons, List.range'_succ, List.map_cons, hbank]
      rfl
    · rw [List.filter_cons_of_neg (by simpa using hbank),
        List.filter_cons_of_neg (by simpa using hbank), ih, nextIn_cons,
        if_neg (fun heq => hbank heq.symm)]

/-- No two strings get the same id while sections and indices fit in four digits. -/
theorem nodup_ids_sectioned {entries : List (Identifier × NamedString)}
    (h : ∀ entry ∈ sectioned used entries, entry.2.bank < 16 ^ 4 ∧ entry.2.number < 16 ^ 4) :
    ((sectioned used entries).map fun entry =>
      NamedString.idText entry.2.bank entry.2.number).Nodup := by
  induction entries generalizing used with
  | nil => exact List.nodup_nil
  | cons entry rest ih =>
    obtain ⟨id, string⟩ := entry
    rw [sectioned] at h ⊢
    obtain ⟨hfirst, hrest⟩ := List.forall_mem_cons.1 h
    rw [List.map_cons, List.nodup_cons]
    refine ⟨fun hmem => ?_, ih hrest⟩
    obtain ⟨⟨key, other⟩, hother, heq⟩ := List.mem_map.1 hmem
    obtain ⟨hbank, hnumber⟩ := NamedString.idText_inj (hrest _ hother).1 hfirst.1 heq
    obtain ⟨_, _, _, hle⟩ := of_mem_sectioned hother
    have hfresh : nextIn ((string.bank, nextIn used string.bank + 1) :: used) other.bank =
        nextIn used string.bank + 1 := by
      rw [nextIn_cons, if_pos hbank]
    rw [hfresh, hnumber] at hle
    exact Nat.lt_irrefl _ hle

end Assembly

end ModPack
