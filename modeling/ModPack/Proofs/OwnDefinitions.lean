import ModPack.Catalogue
import ModPack.Proofs.LoadedExports

/-!
# What a package defines itself

The directory of a package defines exports; loading puts them over those that its dependencies
bring along. What the directory defines does not depend on what is brought along, and under an
identifier the last definition wins. Main statements: `ownExports_ok`, which takes loading apart
into reading the definitions and putting them in place, and `record?_register`, which tells what a
registry holds then.
-/
namespace ModPack

/-! ## Records of any kind -/

/-- The record that is held under an identifier. -/
def Exports.record? (exports : Exports) (kind : ExportKind) (id : Identifier) : Option AnyExport :=
  match kind with
  | .sprite => (exports.sprites.get? id).map .sprite
  | .actor => (exports.actors.get? id).map .actor
  | .text => (exports.strings.get? id).map .string

theorem Exports.record?_empty (kind : ExportKind) (id : Identifier) :
    ({} : Exports).record? kind id = none := by
  cases kind <;> rfl

theorem Exports.record?_merge (exports other : Exports) (kind : ExportKind) (id : Identifier) :
    (exports.merge other).record? kind id =
      (other.record? kind id).or (exports.record? kind id) := by
  cases kind with
  | sprite =>
    have hget := Registry.get?_merge exports.sprites other.sprites id
    simp only [record?, merge, hget, Option.map_or]
  | actor =>
    have hget := Registry.get?_merge exports.actors other.actors id
    simp only [record?, merge, hget, Option.map_or]
  | text =>
    have hget := Registry.get?_merge exports.strings other.strings id
    simp only [record?, merge, hget, Option.map_or]

namespace Package

/-! ## Items of one kind -/

section Items

variable {α : Type} [Export α] {package : String} {path dir : Path} {items others : List α}
  {registry after : Registry α} {id : Identifier} {item : α} {wantsDirectories : Bool}
  {load : Path → Loading (List α)}

/-- A registry after items of a package are put into it, in order. -/
def registered (package : String) (items : List α) (registry : Registry α) : Registry α :=
  items.foldl (fun registry item => registry.set ⟨package, Export.name item⟩ item) registry

/-- The last of a package's items under an identifier. -/
def lastNamed (package : String) (items : List α) (id : Identifier) : Option α :=
  (items.filter fun item => (⟨package, Export.name item⟩ : Identifier) = id).getLast?

theorem lastNamed_append (package : String) (items others : List α) (id : Identifier) :
    lastNamed package (items ++ others) id =
      (lastNamed package others id).or (lastNamed package items id) := by
  rw [lastNamed, List.filter_append, List.getLast?_append]
  rfl

/-- Whatever stands under an identifier carries its name, and belongs to its package. -/
theorem of_lastNamed (h : lastNamed package items id = some item) :
    item ∈ items ∧ id = ⟨package, Export.name item⟩ := by
  have hmem := List.mem_of_getLast? h
  obtain ⟨hitem, hid⟩ := List.mem_filter.1 hmem
  exact ⟨hitem, (of_decide_eq_true hid).symm⟩

theorem lastNamed_cons (package : String) (item : α) (items : List α) (id : Identifier) :
    lastNamed package (item :: items) id = (lastNamed package items id).or
      (if id = ⟨package, Export.name item⟩ then some item else none) := by
  have hlast : lastNamed package (item :: items) id =
      (lastNamed package items id).or (lastNamed package [item] id) :=
    lastNamed_append package [item] items id
  have hone : lastNamed package [item] id =
      if id = ⟨package, Export.name item⟩ then some item else none := by
    by_cases hid : id = ⟨package, Export.name item⟩
    · simp [lastNamed, hid]
    · simp [lastNamed, hid, Ne.symm hid]
  rw [hlast, hone]

/-- Items that are put into a registry win, the last ones first. -/
theorem get?_registered (package : String) (items : List α) (registry : Registry α)
    (id : Identifier) :
    (registered package items registry).get? id =
      (lastNamed package items id).or (registry.get? id) := by
  induction items generalizing registry with
  | nil => rfl
  | cons item items ih =>
    have hstep : registered package (item :: items) registry =
        registered package items (registry.set ⟨package, Export.name item⟩ item) := rfl
    rw [hstep, ih, Registry.get?_set, lastNamed_cons, Option.or_assoc]
    congr 1
    split <;> rfl

theorem register_ok :
    (register package path items registry).result = .ok after ↔
      registered package items registry = after := by
  induction items generalizing registry with
  | nil =>
    rw [register, Report.result_pure, Except.ok.injEq]
    rfl
  | cons item items ih =>
    have hstep : registered package (item :: items) registry =
        registered package items (registry.set ⟨package, Export.name item⟩ item) := rfl
    rw [register, hstep, ← ih]
    dsimp only [Registry.insert]
    split
    · simp
    · simp

/-- What the entries of a directory define, in order. -/
def gathered (dir : Path) (wantsDirectories : Bool) (load : Path → Loading (List α)) :
    List (String × Entry) → Except LoadFailure (List α)
  | [] => .ok []
  | (name, entry) :: entries =>
    if (entry = .directory) = (wantsDirectories = true) then do
      let items ← (load (dir / name)).result
      let others ← gathered dir wantsDirectories load entries
      return items ++ others
    else gathered dir wantsDirectories load entries

omit [Export α] in
theorem gathered_cons_ok {name : String} {entry : Entry} {entries : List (String × Entry)} :
    gathered dir wantsDirectories load ((name, entry) :: entries) = .ok items ↔
      if (entry = .directory) = (wantsDirectories = true) then
        ∃ first, (load (dir / name)).result = .ok first ∧
          ∃ rest, gathered dir wantsDirectories load entries = .ok rest ∧ first ++ rest = items
      else gathered dir wantsDirectories load entries = .ok items := by
  rw [gathered]
  split
  · simp only [except_bind_ok, except_pure_ok]
  · rfl

theorem registerEntries_ok {entries : List (String × Entry)} :
    (registerEntries package dir wantsDirectories load entries registry).result = .ok after ↔
      ∃ items, gathered dir wantsDirectories load entries = .ok items ∧
        registered package items registry = after := by
  induction entries generalizing registry with
  | nil => simp [registerEntries, gathered, registered]
  | cons head entries ih =>
    obtain ⟨name, entry⟩ := head
    rw [registerEntries]
    simp only [gathered_cons_ok]
    split
    · simp only [Report.result_bind_ok, register_ok, ih]
      constructor
      · rintro ⟨first, hfirst, _, rfl, rest, hrest, rfl⟩
        refine ⟨first ++ rest, ⟨first, hfirst, rest, hrest, rfl⟩, ?_⟩
        rw [registered, List.foldl_append]
        rfl
      · rintro ⟨_, ⟨first, hfirst, rest, hrest, rfl⟩, rfl⟩
        refine ⟨first, hfirst, _, rfl, rest, hrest, ?_⟩
        rw [registered, registered, registered, List.foldl_append]
    · rw [Report.result_seq_ok, ih]
      simp

/-- What a directory of exports defines; it may be missing. -/
def gatheredAll (disk : Disk) (dir : Path) (wantsDirectories : Bool)
    (load : Path → Loading (List α)) : Except LoadFailure (List α) :=
  if disk.isDirectory dir then do
    let entries ← (disk.list dir).mapError .system
    gathered dir wantsDirectories load entries
  else .ok []

omit [Export α] in
theorem gatheredAll_of_not_isDirectory (h : disk.isDirectory dir = false) :
    gatheredAll disk dir wantsDirectories load = .ok [] := by
  rw [gatheredAll, if_neg (by simp [h])]

omit [Export α] in
/-- Each of the items is defined by one of the entries. -/
theorem exists_of_mem_gathered {entries : List (String × Entry)}
    (h : gathered dir wantsDirectories load entries = .ok items) (hmem : item ∈ items) :
    ∃ entry ∈ entries, ∃ found, (load (dir / entry.1)).result = .ok found ∧ item ∈ found := by
  induction entries generalizing items with
  | nil =>
    cases h
    cases hmem
  | cons head entries ih =>
    obtain ⟨name, entry⟩ := head
    have hcons := gathered_cons_ok.1 h
    split at hcons
    · obtain ⟨first, hfirst, rest, hrest, rfl⟩ := hcons
      rcases List.mem_append.1 hmem with hmem | hmem
      · exact ⟨_, List.mem_cons_self, first, hfirst, hmem⟩
      · obtain ⟨entry, hentry, hfound⟩ := ih hrest hmem
        exact ⟨entry, List.mem_cons_of_mem _ hentry, hfound⟩
    · obtain ⟨entry, hentry, hfound⟩ := ih hcons hmem
      exact ⟨entry, List.mem_cons_of_mem _ hentry, hfound⟩

omit [Export α] in
theorem exists_of_mem_gatheredAll {disk : Disk}
    (h : gatheredAll disk dir wantsDirectories load = .ok items) (hmem : item ∈ items) :
    ∃ listing, disk.list dir = .ok listing ∧ ∃ entry ∈ listing, ∃ found,
      (load (dir / entry.1)).result = .ok found ∧ item ∈ found := by
  unfold gatheredAll at h
  split at h
  · obtain ⟨listing, hlist, h⟩ := except_bind_ok.1 h
    exact ⟨listing, mapError_eq_ok.1 hlist, exists_of_mem_gathered h hmem⟩
  · cases h
    cases hmem

theorem registerAll_ok {disk : Disk} :
    (registerAll disk package dir wantsDirectories load registry).result = .ok after ↔
      ∃ items, gatheredAll disk dir wantsDirectories load = .ok items ∧
        registered package items registry = after := by
  unfold registerAll gatheredAll
  split
  · simp only [Report.result_bind_ok, Report.result_mapError_ok, Report.result_ofExcept,
      registerEntries_ok, except_bind_ok, mapError_eq_ok]
    constructor
    · rintro ⟨entries, hlist, items, hitems, rfl⟩
      exact ⟨items, ⟨entries, hlist, hitems⟩, rfl⟩
    · rintro ⟨items, ⟨entries, hlist, hitems⟩, rfl⟩
      exact ⟨entries, hlist, items, hitems, rfl⟩
  · simp [registered]

end Items

/-! ## All that a package defines -/

/-- The exports that a package defines, in order. -/
structure Definitions where
  sprites : List Sprite
  actors : List Actor
  strings : List NamedString

/-- The exports that are defined in the directory of a package. -/
def definitions (settings : Settings) (disk : Disk) (dir : Path) (package : String) :
    Except LoadFailure Definitions := do
  let source := dir / settings.sourceDirectory
  let sprites ← gatheredAll disk (source / "sprite") true
    fun path => do return [← Sprite.load disk path]
  let actors ← gatheredAll disk (source / "actor") true
    fun path => do return [← Actor.load disk package path]
  let strings ← gatheredAll disk (source / "string") false
    fun path => Loading.orRefuse (NamedString.load disk package path) id
  return { sprites, actors, strings }

/-- The definitions of a package over exports that it inherits. -/
def Definitions.register (definitions : Definitions) (package : String) (inherited : Exports) :
    Exports where
  sprites := registered package definitions.sprites inherited.sprites
  actors := registered package definitions.actors inherited.actors
  strings := registered package definitions.strings inherited.strings

/-- The last definition of a package under an identifier. -/
def Definitions.record? (definitions : Definitions) (package : String) (kind : ExportKind)
    (id : Identifier) : Option AnyExport :=
  match kind with
  | .sprite => (lastNamed package definitions.sprites id).map .sprite
  | .actor => (lastNamed package definitions.actors id).map .actor
  | .text => (lastNamed package definitions.strings id).map .string

variable {settings : Settings} {disk : Disk} {dir : Path} {package : String} {kind : ExportKind}
  {id : Identifier}

/-- Loading a package's exports is reading its definitions and putting them over what it inherits. -/
theorem ownExports_ok {inherited exports : Exports} :
    (ownExports settings disk dir package inherited).result = .ok exports ↔
      ∃ own, definitions settings disk dir package = .ok own ∧
        own.register package inherited = exports := by
  unfold ownExports definitions
  simp only [Report.result_bind_ok, registerAll_ok, except_bind_ok, except_pure_ok,
    Report.result_pure, Except.ok.injEq]
  constructor
  · rintro ⟨_, ⟨sprites, hsprites, rfl⟩, _, ⟨actors, hactors, rfl⟩, _, ⟨strings, hstrings, rfl⟩, rfl⟩
    exact ⟨_, ⟨sprites, hsprites, actors, hactors, strings, hstrings, rfl⟩, rfl⟩
  · rintro ⟨_, ⟨sprites, hsprites, actors, hactors, strings, hstrings, rfl⟩, rfl⟩
    exact ⟨_, ⟨sprites, hsprites, rfl⟩, _, ⟨actors, hactors, rfl⟩, _, ⟨strings, hstrings, rfl⟩, rfl⟩

/-- A definition hides what is inherited under its identifier. -/
theorem Definitions.record?_register (own : Definitions) (package : String) (inherited : Exports)
    (kind : ExportKind) (id : Identifier) :
    (own.register package inherited).record? kind id =
      (own.record? package kind id).or (inherited.record? kind id) := by
  cases kind with
  | sprite =>
    have hget := get?_registered package own.sprites inherited.sprites id
    simp only [Exports.record?, record?, register, hget, Option.map_or]
  | actor =>
    have hget := get?_registered package own.actors inherited.actors id
    simp only [Exports.record?, record?, register, hget, Option.map_or]
  | text =>
    have hget := get?_registered package own.strings inherited.strings id
    simp only [Exports.record?, record?, register, hget, Option.map_or]

/-- The record that the directory of a package defines under an identifier. -/
def ownRecord? (settings : Settings) (disk : Disk) (dir : Path) (package : String)
    (kind : ExportKind) (id : Identifier) : Option AnyExport :=
  (definitions settings disk dir package).toOption.bind fun own => own.record? package kind id

theorem ownRecord?_of_definitions {own : Definitions}
    (h : definitions settings disk dir package = .ok own) :
    ownRecord? settings disk dir package kind id = own.record? package kind id := by
  rw [ownRecord?, h]
  rfl

theorem exists_definitions_of_ownRecord? {record : AnyExport}
    (h : ownRecord? settings disk dir package kind id = some record) :
    ∃ own, definitions settings disk dir package = .ok own ∧
      own.record? package kind id = some record := by
  obtain ⟨own, hown, hrecord⟩ := Option.bind_eq_some_iff.1 h
  refine ⟨own, ?_, hrecord⟩
  cases hdefinitions : definitions settings disk dir package with
  | error error =>
    rw [hdefinitions] at hown
    cases hown
  | ok found =>
    rw [hdefinitions] at hown
    cases hown
    rfl

/-- A package defines exports of its own name only. -/
theorem Definitions.package_eq {own : Definitions} {record : AnyExport}
    (h : own.record? package kind id = some record) : id.package = package := by
  cases kind with
  | sprite =>
    obtain ⟨item, hitem, _⟩ := Option.map_eq_some_iff.1 h
    rw [(of_lastNamed hitem).2]
  | actor =>
    obtain ⟨item, hitem, _⟩ := Option.map_eq_some_iff.1 h
    rw [(of_lastNamed hitem).2]
  | text =>
    obtain ⟨item, hitem, _⟩ := Option.map_eq_some_iff.1 h
    rw [(of_lastNamed hitem).2]

theorem package_eq_of_ownRecord? {record : AnyExport}
    (h : ownRecord? settings disk dir package kind id = some record) : id.package = package := by
  obtain ⟨_, _, hrecord⟩ := exists_definitions_of_ownRecord? h
  exact Definitions.package_eq hrecord

end Package

end ModPack
