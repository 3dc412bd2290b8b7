import ModPack.Identifier

/-!
# Registries

A registry holds the exports of a package and its dependencies under their identifiers. Its entries
are kept in the order of enumeration, so the numbers exports get do not depend on the order in which
they were found. Main statements: what a registry holds under an identifier after an insertion and
after a merge.
-/
namespace ModPack

/-- The order in which a registry enumerates its entries. -/
def Registry.Before {α : Type} (first second : Identifier × α) : Prop :=
  first.1.precedes second.1 = true

structure Registry (α : Type) where
  entries : List (Identifier × α) := []
  sorted : entries.Pairwise Registry.Before := by exact .nil

namespace Registry

variable {α β : Type}

instance : EmptyCollection (Registry α) := ⟨{}⟩
instance : Inhabited (Registry α) := ⟨∅⟩

def get? (registry : Registry α) (id : Identifier) : Option α :=
  registry.entries.lookup id

def contains (registry : Registry α) (id : Identifier) : Bool :=
  (registry.get? id).isSome

def keys (registry : Registry α) : List Identifier :=
  registry.entries.map (·.1)

def size (registry : Registry α) : Nat :=
  registry.entries.length

/-- A registry as messages show it. -/
def description (registry : Registry α) : String :=
  "ExportRegistry([" ++ ", ".intercalate (registry.keys.map Identifier.qualified) ++ "])"

/-- Puts an entry in its place; an entry under the same identifier gives way. -/
def setEntry (id : Identifier) (value : α) : List (Identifier × α) → List (Identifier × α)
  | [] => [(id, value)]
  | (key, old) :: rest =>
    if id = key then (id, value) :: rest
    else if id.precedes key then (id, value) :: (key, old) :: rest
    else (key, old) :: setEntry id value rest

theorem eq_or_mem_of_mem_setEntry {id : Identifier} {value : α} {entry : Identifier × α}
    {entries : List (Identifier × α)} (h : entry ∈ setEntry id value entries) :
    entry = (id, value) ∨ entry ∈ entries := by
  induction entries with
  | nil => exact .inl (List.mem_singleton.1 h)
  | cons head rest ih =>
    rw [setEntry] at h
    split at h
    · exact (List.mem_cons.1 h).imp_right (List.mem_cons_of_mem _)
    · split at h
      · exact List.mem_cons.1 h
      · rcases List.mem_cons.1 h with rfl | h
        · exact .inr List.mem_cons_self
        · exact (ih h).imp_right (List.mem_cons_of_mem _)

theorem pairwise_setEntry {id : Identifier} {value : α} {entries : List (Identifier × α)}
    (h : entries.Pairwise Before) : (setEntry id value entries).Pairwise Before := by
  induction entries with
  | nil => exact List.pairwise_singleton _ _
  | cons head rest ih =>
    obtain ⟨hhead, hrest⟩ := List.pairwise_cons.1 h
    rw [setEntry]
    split
    · next hid => exact List.pairwise_cons.2 ⟨fun entry hentry => hid ▸ hhead entry hentry, hrest⟩
    · next hne =>
      split
      · next hbefore =>
        refine List.pairwise_cons.2 ⟨fun entry hentry => ?_, h⟩
        rcases List.mem_cons.1 hentry with rfl | hentry
        · exact hbefore
        · exact Identifier.precedes_trans hbefore (hhead entry hentry)
      · next hafter =>
        refine List.pairwise_cons.2 ⟨fun entry hentry => ?_, ih hrest⟩
        rcases eq_or_mem_of_mem_setEntry hentry with rfl | hentry
        · exact (Identifier.precedes_total hne).resolve_left hafter
        · exact hhead entry hentry

theorem lookup_setEntry (id other : Identifier) (value : α) (entries : List (Identifier × α)) :
    (setEntry id value entries).lookup other =
      if other = id then some value else entries.lookup other := by
  induction entries with
  | nil => by_cases h : other = id <;> simp [setEntry, List.lookup_cons, h, beq_eq_false_iff_ne.2]
  | cons head rest ih =>
    obtain ⟨key, old⟩ := head
    rw [setEntry]
    split
    · next hid =>
      subst hid
      by_cases h : other = id <;> simp [List.lookup_cons, h, beq_eq_false_iff_ne.2]
    · next hne =>
      split
      · by_cases h : other = id <;> simp [List.lookup_cons, h, beq_eq_false_iff_ne.2]
      · by_cases h : other = key
        · subst h; simp [Ne.symm hne]
        · simp [List.lookup_cons, beq_eq_false_iff_ne.2 h, ih]

def set (registry : Registry α) (id : Identifier) (value : α) : Registry α :=
  ⟨setEntry id value registry.entries, pairwise_setEntry registry.sorted⟩

/-- Sets an entry and gives the one it replaced. -/
def insert (registry : Registry α) (id : Identifier) (value : α) : Option α × Registry α :=
  (registry.get? id, registry.set id value)

/-- All entries of both registries; `other` wins where both have one. -/
def merge (registry other : Registry α) : Registry α :=
  other.entries.foldl (fun merged (id, value) => merged.set id value) registry

theorem get?_set (registry : Registry α) (id other : Identifier) (value : α) :
    (registry.set id value).get? other = if other = id then some value else registry.get? other :=
  lookup_setEntry id other value registry.entries

theorem get?_foldl_set (entries : List (Identifier × α)) (registry : Registry α) (id : Identifier)
    (h : entries.Pairwise Before) :
    (entries.foldl (fun merged (key, value) => merged.set key value) registry).get? id =
      (entries.lookup id).or (registry.get? id) := by
  induction entries generalizing registry with
  | nil => rfl
  | cons head rest ih =>
    obtain ⟨key, value⟩ := head
    obtain ⟨hhead, hrest⟩ := List.pairwise_cons.1 h
    rw [List.foldl_cons, ih _ hrest, get?_set, List.lookup_cons]
    by_cases hid : id = key
    · subst hid
      have : rest.lookup id = none := by
        rw [List.lookup_eq_none_iff]
        intro entry hentry
        have hbefore := hhead entry hentry
        rw [bne_iff_ne]
        rintro rfl
        rw [Before, Identifier.precedes_irrefl] at hbefore
        cases hbefore
      simp [this]
    · simp [hid, beq_eq_false_iff_ne.2 hid]

theorem get?_merge (registry other : Registry α) (id : Identifier) :
    (registry.merge other).get? id = (other.get? id).or (registry.get? id) :=
  get?_foldl_set other.entries registry id other.sorted

end Registry

end ModPack
