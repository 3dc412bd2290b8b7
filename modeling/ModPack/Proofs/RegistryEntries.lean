import ModPack.Registry

/-!
# The entries of a registry

A property of entries holds of all entries of a registry when it holds of every entry that was put
in. An entry that is set again keeps its place among the others. Main statements: `All.merge` and
`entries_set_of_entries`.
-/
namespace ModPack.Registry

variable {α : Type} {p : Identifier → α → Prop} {registry other : Registry α} {id : Identifier}
  {value : α}

/-- Every entry of the registry is one of these. -/
def All (p : Identifier → α → Prop) (registry : Registry α) : Prop :=
  ∀ id value, (id, value) ∈ registry.entries → p id value

theorem All.empty : All p (∅ : Registry α) := by
  intro id value h
  cases h

theorem All.set (h : All p registry) (hp : p id value) : All p (registry.set id value) := by
  intro key item hmem
  rcases eq_or_mem_of_mem_setEntry hmem with heq | hmem
  · cases heq
    exact hp
  · exact h key item hmem

/-- The induction is on the entries of the registry that is merged in. -/
theorem All.merge (h : All p registry) (hother : All p other) : All p (registry.merge other) := by
  have hfold (entries : List (Identifier × α)) (merged : Registry α) (hmerged : All p merged)
      (hentries : ∀ entry ∈ entries, p entry.1 entry.2) :
      All p (entries.foldl (fun merged entry => merged.set entry.1 entry.2) merged) := by
    induction entries generalizing merged with
    | nil => exact hmerged
    | cons entry entries ih =>
      obtain ⟨hentry, hrest⟩ := List.forall_mem_cons.1 hentries
      exact ih _ (hmerged.set hentry) hrest
  exact hfold other.entries registry h fun entry hentry => hother entry.1 entry.2 hentry

theorem All.of_get? (h : All p registry) (hget : registry.get? id = some value) : p id value := by
  obtain ⟨before, after, hentries, _⟩ := List.lookup_eq_some_iff.1 hget
  exact h id value (by simp [hentries])

/-- Every identifier of a registry comes before the next. -/
theorem pairwise_keys (registry : Registry α) :
    registry.keys.Pairwise fun first second => first.precedes second = true :=
  List.pairwise_map.2 registry.sorted

theorem exists_getElem?_of_get? (h : registry.get? id = some value) :
    ∃ place : Nat, registry.entries[place]? = some (id, value) := by
  have hmem : (id, value) ∈ registry.entries :=
    All.of_get? (p := fun id value => (id, value) ∈ registry.entries) (fun _ _ hentry => hentry) h
  exact List.mem_iff_getElem?.1 hmem

/-! ## Setting an entry again -/

theorem setEntry_of_sorted {before after : List (Identifier × α)} {old : α}
    (h : (before ++ (id, old) :: after).Pairwise Before) :
    setEntry id value (before ++ (id, old) :: after) = before ++ (id, value) :: after := by
  induction before with
  | nil => simp [setEntry]
  | cons entry before ih =>
    obtain ⟨key, other⟩ := entry
    obtain ⟨hbefore, hrest⟩ := List.pairwise_cons.1 h
    have hkey : key.precedes id = true := hbefore (id, old) (by simp)
    have hne : id ≠ key := by
      rintro rfl
      rw [Identifier.precedes_irrefl] at hkey
      cases hkey
    have hafter : id.precedes key = false := by
      rw [Bool.eq_false_iff]
      intro hid
      have hself := Identifier.precedes_trans hid hkey
      rw [Identifier.precedes_irrefl] at hself
      cases hself
    rw [List.cons_append, setEntry, if_neg hne, if_neg (by simp [hafter]), ih hrest,
      List.cons_append]

/-- An entry that is set again keeps its place. -/
theorem entries_set_of_entries {before after : List (Identifier × α)} {old : α}
    (h : registry.entries = before ++ (id, old) :: after) :
    (registry.set id value).entries = before ++ [(id, value)] ++ after := by
  have hsorted := registry.sorted
  have hset : (registry.set id value).entries = setEntry id value registry.entries := rfl
  rw [h] at hsorted hset
  rw [hset, setEntry_of_sorted hsorted, List.append_cons]

/-- An entry is what the registry holds under its identifier. -/
theorem get?_of_mem (h : (id, value) ∈ registry.entries) : registry.get? id = some value := by
  obtain ⟨before, after, hentries⟩ := List.append_of_mem h
  have hsorted := registry.sorted
  rw [hentries] at hsorted
  refine List.lookup_eq_some_iff.2 ⟨before, after, hentries, ?_⟩
  intro entry hentry
  have hbefore : entry.1.precedes id = true :=
    (List.pairwise_append.1 hsorted).2.2 entry hentry (id, value) (by simp)
  rw [bne_iff_ne]
  intro heq
  rw [← heq, Identifier.precedes_irrefl] at hbefore
  cases hbefore

theorem mem_keys : id ∈ registry.keys ↔ (registry.get? id).isSome := by
  constructor
  · intro h
    obtain ⟨⟨key, value⟩, hentry, rfl⟩ := List.mem_map.1 h
    rw [get?_of_mem hentry]
    rfl
  · intro h
    obtain ⟨value, hvalue⟩ := Option.isSome_iff_exists.1 h
    obtain ⟨before, after, hentries, _⟩ := List.lookup_eq_some_iff.1 hvalue
    exact List.mem_map.2 ⟨(id, value), by simp [hentries], rfl⟩

theorem isSome_get?_of_keys {β : Type} {other : Registry β} (h : other.keys = registry.keys)
    (id : Identifier) : (other.get? id).isSome = (registry.get? id).isSome := by
  rw [Bool.eq_iff_iff, ← mem_keys, ← mem_keys, h]

theorem nodup_keys (registry : Registry α) : registry.keys.Nodup := by
  refine registry.pairwise_keys.imp ?_
  rintro first _ hbefore rfl
  rw [Identifier.precedes_irrefl] at hbefore
  cases hbefore

/-- The identifiers of a registry are enumerated in the one order that they have. -/
theorem keys_eq_of_mem_iff {β : Type} {registry : Registry α} {other : Registry β}
    (h : ∀ id, id ∈ registry.keys ↔ id ∈ other.keys) : registry.keys = other.keys := by
  have hperm : registry.keys.Perm other.keys :=
    (List.perm_ext_iff_of_nodup registry.nodup_keys other.nodup_keys).2 h
  refine hperm.eq_of_pairwise ?_ registry.pairwise_keys other.pairwise_keys
  intro first second _ _ hfirst hsecond
  have hself := Identifier.precedes_trans hfirst hsecond
  rw [Identifier.precedes_irrefl] at hself
  cases hself

theorem get?_of_getElem? {place : Nat} (h : registry.entries[place]? = some (id, value)) :
    registry.get? id = some value :=
  get?_of_mem (List.mem_of_getElem? h)

end ModPack.Registry
