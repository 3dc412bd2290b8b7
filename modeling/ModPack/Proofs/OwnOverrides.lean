import ModPack.Proofs.NameClashes
import ModPack.Proofs.Redefinitions
import ModPack.Proofs.StringsFiles
import Mathlib.Data.Finset.Card
import Mathlib.Data.Finset.Dedup

/-!
# Definitions that override

A package's own directory is read entry by entry in the order of names, and a strings file block by
block. Every record that is found takes its place under its identifier; when there was one before,
inherited or defined earlier, a warning tells so. Hence the last definition of a name is the one
that is held, and every record that gives way is told once. `displacing` picks the definitions that
are told, given the identifiers that are held before; the proofs follow it through the loop over the
items of a path and the loop over the paths, where the registry is what is held. Main statements:
`length_displacing`, `ownExports_collected` and `own_definitions_override`.
-/
namespace ModPack

/-! ## Directories of sources -/

/-- The directory of a package's sources of one kind. -/
def ExportKind.directory : ExportKind → String
  | .sprite => "sprite"
  | .actor => "actor"
  | .text => "string"

/-- A directory is listed in the order of names. -/
theorem Disk.sorted_of_list {disk : Disk} {path : Path} {listing : List (String × Entry)}
    (h : disk.list path = .ok listing) :
    listing.Pairwise fun first second => first.1 ≤ second.1 := by
  obtain ⟨location, _, rfl⟩ := list_ok.1 h
  unfold FileTree.children
  refine (List.pairwise_mergeSort ?_ ?_ _).imp of_decide_eq_true
  · simp only [decide_eq_true_eq]
    exact fun _ _ _ => String.le_trans
  · intro first second
    simpa using String.le_total first.1 second.1

theorem Registry.contains_set {α : Type} (registry : Registry α) (id : Identifier) (item : α) :
    (registry.set id item).contains = fun other => registry.contains other || other = id := by
  funext other
  rw [contains, contains, get?_set]
  by_cases hid : other = id <;> simp [hid]

namespace Package

/-! ## One insertion after another -/

section Displacing

variable {held : Identifier → Bool} {found front back : List (Identifier × Path)} {id : Identifier}

/-- Of definitions in order, those that take the place of another record; `held` tells which
identifiers have one before. -/
def displacing (held : Identifier → Bool) : List (Identifier × Path) → List (Identifier × Path)
  | [] => []
  | (id, path) :: rest =>
    let later := displacing (fun other => held other || other = id) rest
    if held id then (id, path) :: later else later

theorem displacing_append (held : Identifier → Bool) (front back : List (Identifier × Path)) :
    displacing held (front ++ back) = displacing held front ++
      displacing (fun other => held other || other ∈ front.map Prod.fst) back := by
  induction front generalizing held with
  | nil => simp [displacing]
  | cons head front ih =>
    obtain ⟨id, path⟩ := head
    have hheld : (fun other => (held other || decide (other = id)) ||
        decide (other ∈ front.map Prod.fst)) =
          fun other => held other || decide (other ∈ ((id, path) :: front).map Prod.fst) := by
      funext other
      rw [Bool.eq_iff_iff]
      simp [or_assoc]
    rw [List.cons_append, displacing, displacing, ih, hheld]
    split <;> rfl

/-- Under one identifier all definitions displace a record, but for the first one when there was
none. -/
theorem filter_displacing (held : Identifier → Bool) (found : List (Identifier × Path))
    (id : Identifier) :
    (displacing held found).filter (·.1 = id) =
      (found.filter (·.1 = id)).drop (if held id then 0 else 1) := by
  induction found generalizing held with
  | nil => simp [displacing]
  | cons head rest ih =>
    obtain ⟨other, path⟩ := head
    rw [displacing]
    by_cases hid : other = id
    · subst hid
      cases hheld : held other <;> simp [ih]
    · cases hheld : held other <;> simp [ih, hid, Ne.symm hid]

/-- The identifiers that have no record before. -/
def fresh (held : Identifier → Bool) (found : List (Identifier × Path)) : Finset Identifier :=
  (found.map Prod.fst).toFinset.filter fun id => held id = false

theorem mem_fresh : id ∈ fresh held found ↔ id ∈ found.map Prod.fst ∧ held id = false := by
  simp [fresh]

/-- Every definition displaces a record or is the first one under a fresh identifier. -/
theorem length_displacing (held : Identifier → Bool) (found : List (Identifier × Path)) :
    (displacing held found).length + (fresh held found).card = found.length := by
  induction found generalizing held with
  | nil => simp [displacing, fresh]
  | cons head rest ih =>
    obtain ⟨id, path⟩ := head
    have hrest := ih fun other => held other || other = id
    have herase : fresh (fun other => held other || other = id) rest =
        (fresh held ((id, path) :: rest)).erase id := by
      ext other
      simp [mem_fresh]
      tauto
    rw [herase] at hrest
    rw [displacing, List.length_cons]
    by_cases hheld : held id = true
    · have hknown : id ∉ fresh held ((id, path) :: rest) := by simp [mem_fresh, hheld]
      rw [Finset.erase_eq_of_notMem hknown] at hrest
      rw [if_pos hheld, List.length_cons]
      omega
    · have hnew : id ∈ fresh held ((id, path) :: rest) := by simp [mem_fresh, hheld]
      rw [if_neg hheld]
      have hcard := Finset.card_erase_add_one hnew
      omega

end Displacing

/-! ## Definitions in order -/

section Collected

variable {α β : Type} {reads : Path → List α → Prop} {dir : Path} {wantsDirectories : Bool}
  {listing : List (String × Entry)} {found : List (Path × α)} {disk : Disk}

/-- What the entries of a listing define, one entry after another: each of the wanted kind defines
records in an order of its own, and the others define none. -/
inductive Collected (reads : Path → List α → Prop) (dir : Path) (wantsDirectories : Bool) :
    List (String × Entry) → List (Path × α) → Prop
  | nil : Collected reads dir wantsDirectories [] []
  | skip {name : String} {entry : Entry} {listing : List (String × Entry)}
      {found : List (Path × α)} (other : ¬ (entry = .directory ↔ wantsDirectories = true))
      (rest : Collected reads dir wantsDirectories listing found) :
      Collected reads dir wantsDirectories ((name, entry) :: listing) found
  | read {name : String} {entry : Entry} {listing : List (String × Entry)} {items : List α}
      {found : List (Path × α)} (wanted : entry = .directory ↔ wantsDirectories = true)
      (defined : reads (dir / name) items)
      (rest : Collected reads dir wantsDirectories listing found) :
      Collected reads dir wantsDirectories ((name, entry) :: listing)
        (items.map (Prod.mk (dir / name)) ++ found)

theorem Collected.map {reads' : Path → List β → Prop} (wrap : α → β)
    (hreads : ∀ path items, reads path items → reads' path (items.map wrap))
    (h : Collected reads dir wantsDirectories listing found) :
    Collected reads' dir wantsDirectories listing (found.map (Prod.map id wrap)) := by
  induction h with
  | nil => exact .nil
  | skip other _ ih => exact .skip other ih
  | @read name entry listing items found wanted defined _ ih =>
    have hitems : (items.map (Prod.mk (dir / name)) ++ found).map (Prod.map id wrap) =
        (items.map wrap).map (Prod.mk (dir / name)) ++ found.map (Prod.map id wrap) := by
      simp
    rw [hitems]
    exact .read wanted (hreads _ _ defined) ih

/-- What a directory defines: its entries are visited in the order of their names, and it may be
missing. -/
inductive CollectedIn (disk : Disk) (reads : Path → List α → Prop) (dir : Path)
    (wantsDirectories : Bool) : List (Path × α) → Prop
  | missing (absent : disk.isDirectory dir = false) :
      CollectedIn disk reads dir wantsDirectories []
  | there {listing : List (String × Entry)} {found : List (Path × α)}
      (list : disk.list dir = .ok listing)
      (sorted : listing.Pairwise fun first second => first.1 ≤ second.1)
      (collected : Collected reads dir wantsDirectories listing found) :
      CollectedIn disk reads dir wantsDirectories found

theorem CollectedIn.map {reads' : Path → List β → Prop} (wrap : α → β)
    (hreads : ∀ path items, reads path items → reads' path (items.map wrap))
    (h : CollectedIn disk reads dir wantsDirectories found) :
    CollectedIn disk reads' dir wantsDirectories (found.map (Prod.map id wrap)) := by
  cases h with
  | missing absent => exact .missing absent
  | there list sorted collected => exact .there list sorted (collected.map wrap hreads)

end Collected

section Loops

variable {α : Type} [Export α] {package : String} {path dir : Path} {items : List α}
  {registry after : Registry α} {id : Identifier} {wantsDirectories : Bool}
  {load : Path → Loading (List α)} {kind : ExportKind} {disk : Disk}

/-- The identifiers and paths of records that a package defines. -/
def keyed (package : String) (found : List (Path × α)) : List (Identifier × Path) :=
  found.map fun (path, item) => (⟨package, Export.name item⟩, path)

theorem keyed_append (package : String) (found others : List (Path × α)) :
    keyed package (found ++ others) = keyed package found ++ keyed package others :=
  List.map_append

/-- What is put into a registry is held in it. -/
theorem contains_registered (package : String) (items : List α) (registry : Registry α)
    (path : Path) :
    (registered package items registry).contains = fun other => registry.contains other ||
      other ∈ (keyed package (items.map (Prod.mk path))).map Prod.fst := by
  induction items generalizing registry with
  | nil => simp [registered, keyed]
  | cons item items ih =>
    have hstep : registered package (item :: items) registry =
        registered package items (registry.set ⟨package, Export.name item⟩ item) := rfl
    funext other
    rw [hstep, ih, Registry.contains_set, Bool.eq_iff_iff]
    simp [keyed, or_assoc]

/-- Putting the items of one path into a registry tells of those that displace a record. -/
theorem redefinitions_register (hkind : ∀ item : α, Export.kind item = kind) :
    redefinitions kind (register package path items registry).events =
      displacing registry.contains (keyed package (items.map (Prod.mk path))) := by
  induction items generalizing registry with
  | nil => rfl
  | cons item items ih =>
    have hstep : redefinitions kind
        (do
          Report.note (.loadedExport (Export.kind item) ⟨package, Export.name item⟩)
          register package path items (registry.set ⟨package, Export.name item⟩ item)).events =
        displacing (fun other => registry.contains other || other = ⟨package, Export.name item⟩)
          (keyed package (items.map (Prod.mk path))) := by
      rw [Report.redefinitions_bind (Report.result_note _), ih, Registry.contains_set]
      rfl
    have hitems : keyed package ((item :: items).map (Prod.mk path)) =
        (⟨package, Export.name item⟩, path) :: keyed package (items.map (Prod.mk path)) := rfl
    rw [hitems, displacing, ← hstep, register]
    dsimp only [Registry.insert]
    by_cases hheld : registry.contains ⟨package, Export.name item⟩ = true
    · have hsome : (registry.get? ⟨package, Export.name item⟩).isSome = true := hheld
      rw [if_pos hsome, if_pos hheld, Report.redefinitions_bind (Report.result_note _)]
      simp [Report.note, redefinitions, Event.redefinition?, hkind]
    · have hnone : ¬ (registry.get? ⟨package, Export.name item⟩).isSome = true := hheld
      rw [if_neg hnone, if_neg hheld]

/-- The entries of a listing one after another. The induction is on the listing; the registry grows
by what each entry defines. -/
theorem registerEntries_collected (hkind : ∀ item : α, Export.kind item = kind)
    (hload : ∀ path, (load path).Silent kind) {listing : List (String × Entry)}
    (h : (registerEntries package dir wantsDirectories load listing registry).result = .ok after) :
    ∃ found, Collected (fun path items => (load path).result = .ok items) dir wantsDirectories
        listing found ∧
      registered package (found.map Prod.snd) registry = after ∧
      redefinitions kind
          (registerEntries package dir wantsDirectories load listing registry).events =
        displacing registry.contains (keyed package found) := by
  induction listing generalizing registry with
  | nil => exact ⟨[], .nil, Except.ok.inj h, rfl⟩
  | cons head listing ih =>
    obtain ⟨name, entry⟩ := head
    rw [registerEntries] at h ⊢
    split at h
    · next hwanted =>
      rw [if_pos hwanted]
      obtain ⟨items, hitems, h⟩ := Report.result_bind_ok.1 h
      obtain ⟨between, hbetween, h⟩ := Report.result_bind_ok.1 h
      obtain ⟨found, hcollected, hafter, htold⟩ := ih h
      have hregistered : registered package items registry = between := register_ok.1 hbetween
      refine ⟨items.map (Prod.mk (dir / name)) ++ found,
        .read (iff_of_eq hwanted) hitems hcollected, ?_, ?_⟩
      · have hsnd : (items.map (Prod.mk (dir / name))).map Prod.snd = items := by
          rw [List.map_map]
          exact List.map_id items
        rw [List.map_append, hsnd, ← hafter, ← hregistered]
        exact List.foldl_append
      · rw [Report.redefinitions_bind hitems, hload, List.nil_append,
          Report.redefinitions_bind hbetween, redefinitions_register hkind, htold, ← hregistered,
          contains_registered package items registry (dir / name), keyed_append, displacing_append]
    · next hother =>
      rw [if_neg hother]
      obtain ⟨found, hcollected, hafter, htold⟩ := ih (Report.result_seq_ok.1 h).2
      refine ⟨found, .skip (fun hsame => hother (propext hsame)) hcollected, hafter, ?_⟩
      rw [Report.redefinitions_bind (Report.result_note _), htold]
      rfl

/-- All that a directory of sources defines. -/
theorem registerAll_collected (hkind : ∀ item : α, Export.kind item = kind)
    (hload : ∀ path, (load path).Silent kind)
    (h : (registerAll disk package dir wantsDirectories load registry).result = .ok after) :
    ∃ found, CollectedIn disk (fun path items => (load path).result = .ok items) dir
        wantsDirectories found ∧
      registered package (found.map Prod.snd) registry = after ∧
      redefinitions kind (registerAll disk package dir wantsDirectories load registry).events =
        displacing registry.contains (keyed package found) := by
  unfold registerAll at h ⊢
  split at h
  · next hdirectory =>
    rw [if_pos hdirectory]
    obtain ⟨listing, hlist, h⟩ := Report.result_bind_ok.1 h
    obtain ⟨found, hcollected, hafter, htold⟩ := registerEntries_collected hkind hload h
    have hlisting : disk.list dir = .ok listing := mapError_eq_ok.1 hlist
    refine ⟨found, .there hlisting (Disk.sorted_of_list hlisting) hcollected, hafter, ?_⟩
    rw [Report.redefinitions_bind hlist, htold]
    rfl
  · next hmissing =>
    rw [if_neg hmissing]
    exact ⟨[], .missing (by simpa using hmissing), Except.ok.inj h, rfl⟩

/-! ## Exports of other kinds -/

theorem register_silent (hkind : ∀ item : α, Export.kind item ≠ kind) :
    (register package path items registry).Silent kind := by
  induction items generalizing registry with
  | nil => exact .pure _
  | cons item items ih =>
    rw [register]
    apply Report.Silent.seq_if
    · exact .note (by simp [Event.redefinition?, hkind])
    · exact (Report.Silent.note rfl).bind fun _ => ih

theorem registerAll_silent (hkind : ∀ item : α, Export.kind item ≠ kind)
    (hload : ∀ path, (load path).Silent kind) :
    (registerAll disk package dir wantsDirectories load registry).Silent kind := by
  have hentries (listing : List (String × Entry)) (registry : Registry α) :
      (registerEntries package dir wantsDirectories load listing registry).Silent kind := by
    induction listing generalizing registry with
    | nil => exact .pure _
    | cons head listing ih =>
      rw [registerEntries]
      split
      · exact (hload _).bind fun _ => (register_silent hkind).bind fun _ => ih _
      · exact (Report.Silent.note rfl).bind fun _ => ih _
  unfold registerAll
  split
  · exact (Report.Silent.ofExcept _).mapError.bind fun _ => hentries _ _
  · exact .pure _

end Loops

/-! ## All that a package defines -/

section Wrapping

variable {α : Type} [Export α] {package : String} {dir : Path} {registry after : Registry α}
  {wantsDirectories : Bool} {load : Path → Loading (List α)} {kind : ExportKind} {disk : Disk}
  {reads : Path → List AnyExport → Prop} {wrap : α → AnyExport}
  (hname : ∀ item, (wrap item).name = Export.name item)
include hname

theorem keyed_map (package : String) (found : List (Path × α)) :
    keyed package (found.map (Prod.map id wrap)) = keyed package found := by
  simp only [keyed, List.map_map]
  refine List.map_congr_left fun head _ => ?_
  exact congrArg (fun name => ((⟨package, name⟩ : Identifier), head.1)) (hname head.2)

theorem lastNamed_map (package : String) (items : List α) (id : Identifier) :
    lastNamed package (items.map wrap) id = (lastNamed package items id).map wrap := by
  have hnames : ((fun record : AnyExport => decide (⟨package, Export.name record⟩ = id)) ∘ wrap) =
      fun item => decide ((⟨package, Export.name item⟩ : Identifier) = id) := by
    funext item
    exact congrArg (fun name => decide ((⟨package, name⟩ : Identifier) = id)) (hname item)
  rw [lastNamed, List.filter_map, List.getLast?_map, hnames, lastNamed]

/-- A registry that is filled from a directory of sources, with its items as records of any kind. -/
theorem registerAll_overrides (hkind : ∀ item : α, Export.kind item = kind)
    (hload : ∀ path, (load path).Silent kind)
    (hreads : ∀ path items, (load path).result = .ok items → reads path (items.map wrap))
    (h : (registerAll disk package dir wantsDirectories load registry).result = .ok after) :
    ∃ own, CollectedIn disk reads dir wantsDirectories own ∧
      (∀ id, (after.get? id).map wrap =
        (lastNamed package (own.map Prod.snd) id).or ((registry.get? id).map wrap)) ∧
      redefinitions kind (registerAll disk package dir wantsDirectories load registry).events =
        displacing (fun id => ((registry.get? id).map wrap).isSome) (keyed package own) := by
  obtain ⟨found, hcollected, hafter, htold⟩ := registerAll_collected hkind hload h
  refine ⟨found.map (Prod.map id wrap), hcollected.map wrap hreads, fun other => ?_, ?_⟩
  · have hitems : (found.map (Prod.map id wrap)).map Prod.snd =
        (found.map Prod.snd).map wrap := by
      simp
    rw [hitems, lastNamed_map hname, ← hafter, get?_registered, Option.map_or]
  · have hheld : (fun id => ((registry.get? id).map wrap).isSome) = registry.contains := by
      funext id
      simp [Registry.contains]
    rw [htold, keyed_map hname, hheld]

end Wrapping

section Own

variable {settings : Settings} {disk : Disk} {dir : Path} {package : String} {kind : ExportKind}
  {inherited exports : Exports}

/-- The records that a path defines, in order: a directory one sprite or one actor, a strings file a
string for each of its blocks. -/
inductive Reads (disk : Disk) (package : String) : ExportKind → Path → List AnyExport → Prop
  | sprite {path : Path} {item : Sprite} (load : (Sprite.load disk path).result = .ok item) :
      Reads disk package .sprite path [.sprite item]
  | actor {path : Path} {item : Actor} (load : (Actor.load disk package path).result = .ok item) :
      Reads disk package .actor path [.actor item]
  | text {path : Path} {script : Script} {strings : List NamedString}
      (load : (Script.load disk package path).result = .ok script)
      (blocks : List.Forall₂ (fun block string => (NamedString.ofBlock path block).result =
        .ok string) script.blocks strings) :
      Reads disk package .text path (strings.map .string)

/-- The records of one kind that the directory of a package defines, each with the path that it is
read from. -/
def Defines (settings : Settings) (disk : Disk) (dir : Path) (package : String) (kind : ExportKind)
    (own : List (Path × AnyExport)) : Prop :=
  CollectedIn disk (Reads disk package kind) (dir / settings.sourceDirectory / kind.directory)
    (kind ≠ .text) own

/-- The report of reading a directory that defines one record. -/
theorem reads_sprite {path : Path} {items : List Sprite}
    (h : (do return [← Sprite.load disk path] : Loading (List Sprite)).result = .ok items) :
    Reads disk package .sprite path (items.map .sprite) := by
  obtain ⟨item, hitem, hitems⟩ := Report.result_bind_ok.1 h
  cases hitems
  exact .sprite hitem

theorem reads_actor {path : Path} {items : List Actor}
    (h : (do return [← Actor.load disk package path] : Loading (List Actor)).result = .ok items) :
    Reads disk package .actor path (items.map .actor) := by
  obtain ⟨item, hitem, hitems⟩ := Report.result_bind_ok.1 h
  cases hitems
  exact .actor hitem

theorem reads_strings {path : Path} {items : List NamedString}
    (h : (Loading.orRefuse (NamedString.load disk package path) id).result = .ok items) :
    Reads disk package .text path (items.map .string) := by
  have hload : (NamedString.load disk package path).result = .ok items :=
    Loading.result_orRefuse_ok.1 h
  obtain ⟨script, hscript, hload⟩ := Report.result_bind_ok.1 hload
  obtain ⟨strings, hstrings, hload⟩ := Report.result_bind_ok.1 hload
  cases (Report.result_seq_ok.1 hload).2
  rw [NamedString.result_ofBlocks, mapM_eq_ok] at hstrings
  exact .text hscript hstrings

/-- The package's own definitions go over what it inherits, and tell of what they displace. -/
theorem ownExports_collected
    (h : (ownExports settings disk dir package inherited).result = .ok exports)
    (kind : ExportKind) :
    ∃ own, Defines settings disk dir package kind own ∧
      (∀ id, exports.record? kind id =
        (lastNamed package (own.map Prod.snd) id).or (inherited.record? kind id)) ∧
      redefinitions kind (ownExports settings disk dir package inherited).events =
        displacing (fun id => (inherited.record? kind id).isSome) (keyed package own) := by
  unfold ownExports at h ⊢
  dsimp only at h ⊢
  obtain ⟨sprites, hsprites, h⟩ := Report.result_bind_ok.1 h
  obtain ⟨actors, hactors, h⟩ := Report.result_bind_ok.1 h
  obtain ⟨strings, hstrings, h⟩ := Report.result_bind_ok.1 h
  cases h
  have hsprite (path : Path) : Report.Silent kind
      (do return [← Sprite.load disk path] : Loading (List Sprite)) :=
    (Sprite.load_silent path).bind fun _ => .pure _
  have hactor (path : Path) : Report.Silent kind
      (do return [← Actor.load disk package path] : Loading (List Actor)) :=
    (Actor.load_silent path).bind fun _ => .pure _
  have hstring (path : Path) : Report.Silent kind
      (Loading.orRefuse (NamedString.load disk package path) id) :=
    (NamedString.load_silent path).mapError
  rw [Report.redefinitions_bind hsprites, Report.redefinitions_bind hactors,
    Report.redefinitions_bind hstrings]
  -- Two of the three directories define exports of other kinds.
  cases kind with
  | sprite =>
    obtain ⟨own, hown, hrecord, htold⟩ := registerAll_overrides (fun _ => rfl) (fun _ => rfl)
      hsprite (fun _ _ => reads_sprite) hsprites
    refine ⟨own, hown, hrecord, ?_⟩
    rw [htold, registerAll_silent nofun hactor, registerAll_silent nofun hstring]
    exact List.append_nil _
  | actor =>
    obtain ⟨own, hown, hrecord, htold⟩ := registerAll_overrides (fun _ => rfl) (fun _ => rfl)
      hactor (fun _ _ => reads_actor) hactors
    refine ⟨own, hown, hrecord, ?_⟩
    rw [htold, registerAll_silent nofun hsprite, registerAll_silent nofun hstring]
    exact List.append_nil _
  | text =>
    obtain ⟨own, hown, hrecord, htold⟩ := registerAll_overrides (fun _ => rfl) (fun _ => rfl)
      hstring (fun _ _ => reads_strings) hstrings
    refine ⟨own, hown, hrecord, ?_⟩
    rw [htold, registerAll_silent nofun hsprite, registerAll_silent nofun hactor]
    exact List.append_nil _

end Own

/-! ## Packages -/

section Packages

variable {settings : Settings} {disk : Disk} {dir : Path} {package : Package} {kind : ExportKind}

/-- Whether a dependency holds something under the identifier. -/
def inherits (package : Package) (kind : ExportKind) (id : Identifier) : Bool :=
  package.dependencies.any fun needed => (needed.exports.record? kind id).isSome

theorem isSome_record?_mergedExports (package : Package) (kind : ExportKind) (id : Identifier) :
    ((mergedExports package.dependencies).record? kind id).isSome = package.inherits kind id := by
  rw [record?_mergedExports, Bool.eq_iff_iff, List.findSome?_isSome_iff, inherits, List.any_eq_true]
  simp only [List.mem_reverse]

/-- Loading what the directory of a package defines, over the exports of its dependencies. -/
def ownReport (settings : Settings) (disk : Disk) (package : Package) : Loading Exports :=
  ownExports settings disk package.dir package.name (mergedExports package.dependencies)

/-- A load ends with the package's own exports. -/
theorem ownReport_of_load (h : (load settings disk dir).result = .ok package) :
    (ownReport settings disk package).result = .ok package.exports ∧
      ∃ before, (load settings disk dir).events =
        before ++ (ownReport settings disk package).events := by
  obtain ⟨location, manifest, direct, hdir, hstack, hmanifest, hdirect, hparts⟩ := loadNested_ok.1 h
  obtain ⟨hagreed, exports, hexports, rfl⟩ := ofParts_ok.1 hparts
  have hevents : (ofParts settings disk [] dir manifest direct).events =
      (ownExports settings disk dir manifest.name (mergedExports (flatten direct))).events := by
    unfold ofParts
    dsimp only
    rw [hagreed, Report.bind_ok hexports]
    exact List.append_nil _
  refine ⟨hexports, ?_⟩
  rw [load, loadNested_of_not_mem hdir hstack, Report.bind_ok (Report.result_note _),
    Report.bind_ok hmanifest, Report.bind_ok hdirect, hevents]
  dsimp only
  simp only [← List.append_assoc]
  exact ⟨_, rfl⟩

/-- The last record of a name is the one that stays. -/
theorem lastNamed_of_append {α : Type} [Export α] {front back : List (Path × α)} {path : Path}
    {record : α} (name : String) (h : ∀ later ∈ back, Export.name later.2 ≠ Export.name record) :
    lastNamed name ((front ++ (path, record) :: back).map Prod.snd) ⟨name, Export.name record⟩ =
      some record := by
  have hback : lastNamed name (back.map Prod.snd) ⟨name, Export.name record⟩ = none := by
    rw [lastNamed, List.getLast?_eq_none_iff, List.filter_eq_nil_iff]
    intro other hother
    obtain ⟨later, hlater, rfl⟩ := List.mem_map.1 hother
    simpa using h later hlater
  rw [List.map_append, List.map_cons, lastNamed_append, lastNamed_cons, hback]
  simp

/-- Of the records of one name that a package defines, in the order of the names of files or
directories and of the blocks in a file, the last one is held, whatever is inherited. Loading the
package's own exports warns of the definitions that displace a record: for each kind these are as
many as its definitions without the different identifiers that are not inherited. Under one
identifier they are all the definitions in their order, but for the first one when nothing is
inherited there, so there is one warning for each record that is displaced. -/
theorem own_definitions_override (h : (load settings disk dir).result = .ok package)
    (kind : ExportKind) :
    ∃ own, Defines settings disk package.dir package.name kind own ∧
      (∀ front path record back, own = front ++ (path, record) :: back →
        (∀ later ∈ back, later.2.name ≠ record.name) →
          package.exports.record? kind ⟨package.name, record.name⟩ = some record) ∧
      ∃ before, (load settings disk dir).events =
          before ++ (ownReport settings disk package).events ∧
        (redefinitions kind (ownReport settings disk package).events).length +
            (fresh (package.inherits kind) (keyed package.name own)).card = own.length ∧
        ∀ id, (redefinitions kind (ownReport settings disk package).events).filter (·.1 = id) =
          ((keyed package.name own).filter (·.1 = id)).drop
            (if package.inherits kind id then 0 else 1) := by
  obtain ⟨hexports, before, hevents⟩ := ownReport_of_load h
  obtain ⟨own, hown, hrecord, htold⟩ := ownExports_collected hexports kind
  have hinherits : (fun id => ((mergedExports package.dependencies).record? kind id).isSome) =
      package.inherits kind :=
    funext (isSome_record?_mergedExports package kind)
  have hwarnings : redefinitions kind (ownReport settings disk package).events =
      displacing (package.inherits kind) (keyed package.name own) := by
    rw [← hinherits]
    exact htold
  refine ⟨own, hown, ?_, before, hevents, ?_, fun id => ?_⟩
  · rintro front path record back rfl hlast
    have hlater : ∀ later ∈ back, Export.name later.2 ≠ Export.name record := hlast
    rw [hrecord]
    exact congrArg (Option.or · _) (lastNamed_of_append package.name hlater)
  · rw [hwarnings, length_displacing, keyed, List.length_map]
  · rw [hwarnings, filter_displacing]

end Packages

end Package

/-! ## A name that is defined again and again -/

namespace Sample

/-- The dependency calls itself by the name of the package that needs it, so what it calls `hi` is
one of that package's identifiers, which defines two more. -/
def greetings : Disk where
  tree := ⟨[
    (["art"], .directory),
    (["starpkg.yaml", "art"], namesakeFile.entry),
    (["src", "art"], .directory),
    (["string", "src", "art"], .directory),
    (["lines.str", "string", "src", "art"], .file (Utf8.encode "#string:01:(hi)\nHello!\n")),
    (["game"], .directory),
    (["starpkg.yaml", "game"], originalFile.entry),
    (["src", "game"], .directory),
    (["string", "src", "game"], .directory),
    (["lines.str", "string", "src", "game"],
      .file (Utf8.encode "#string:01:(hi)\nHi!\n\n#string:01:(bye)\n\n#string:02:(hi)\nHey!\n"))]⟩

def greetingsPackage : Package :=
  packageOf greetings [] gamePath originalFile.manifest
    [packageOf greetings [0] namesakePath namesakeFile.manifest []]

def hiId : Identifier :=
  ⟨"game", "hi"⟩

def hiPath : Path :=
  gamePath / "src" / "string" / "lines.str"

/-- Where the packages are, and what they define. -/
theorem ownExports_greetings :
    greetings.directory? namesakePath = some ["art"] ∧
      greetings.directory? gamePath = some ["game"] ∧
      (exportsOf greetings namesakePath namesakeFile.manifest []).isSome ∧
      greetingsPackage.inherits .text hiId = true ∧
      let report := Package.ownExports {} greetings gamePath "game" (Package.mergedExports
        [packageOf greetings [0] namesakePath namesakeFile.manifest []])
      report.result.toOption.isSome ∧
        redefinitions .text report.events = [(hiId, hiPath), (hiId, hiPath)] := by
  decide +kernel

theorem load_greetings : (Package.load {} greetings gamePath).result = .ok greetingsPackage := by
  obtain ⟨hart, hgame, hnamesake, _, hown, _⟩ := ownExports_greetings
  exact load_beside_namesake hart hgame rfl rfl hnamesake hown

end Sample

open Sample in
/-- Both definitions of `hi` displace the one before, the first one what is inherited; `bye`
displaces nothing. -/
theorem Package.own_definitions_override_greetings :
    (load {} greetings gamePath).result = .ok greetingsPackage ∧
      redefinitions .text (ownReport {} greetings greetingsPackage).events =
        [(hiId, hiPath), (hiId, hiPath)] ∧
      ∃ own, Defines {} greetings gamePath "game" .text own ∧
        (keyed "game" own).filter (·.1 = hiId) = [(hiId, hiPath), (hiId, hiPath)] := by
  obtain ⟨_, _, _, hinherits, _, hreport⟩ := ownExports_greetings
  have htold : redefinitions .text (ownReport {} greetings greetingsPackage).events =
      [(hiId, hiPath), (hiId, hiPath)] := hreport
  obtain ⟨own, hown, _, _, _, _, heach⟩ := own_definitions_override load_greetings .text
  have hhi := heach hiId
  rw [htold, hinherits] at hhi
  exact ⟨load_greetings, htold, own, hown, hhi.symm⟩

end ModPack
