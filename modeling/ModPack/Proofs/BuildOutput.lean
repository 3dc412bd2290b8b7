import ModPack.Proofs.FinishedBuild
import ModPack.Proofs.ManifestFiles
import ModPack.Proofs.TableLines

/-!
# The output of a build

Whatever exports a package has, assembling it gives every kind its indices without gap or repeat,
and the tables and files that it writes say the same indices. Main statement: `assemble_builds`.
-/
namespace ModPack

/-- The indices of a list of exports, in order. -/
def Export.indices {α : Type} [Export α] (entries : List (Identifier × α)) : List (Option Int) :=
  entries.map fun entry => Export.index? entry.2

namespace Assembly

/-- Sprites are numbered from one on, and a table on the disk has one row for each of them. -/
structure SpritesBuilt (before after : Registry Sprite) (disk : Disk) (table : Path) : Prop where
  keys : after.keys = before.keys
  indices : Export.indices after.entries =
    (List.range' 1 before.size).map fun index : Nat => some (index : Int)
  size_le : before.size ≤ 255
  rows : ∃ text rows, disk.readFile table = .ok (Utf8.encode text) ∧
    Text.splitAt '\n' text = [markupDeclaration, "<SpriteTable>", "    <NpcSprites>"] ++ rows ++
      ["    </NpcSprites>"] ++ playerSprites ++ ["</SpriteTable>"] ∧
    List.Forall₂ (fun (id, index) row => SpriteRow index id row) (before.keys.zipIdx 1) rows

/-- The id of an assembled string: eight digits that tell its section and its index. -/
structure StringId (string : NamedString) (index : Nat) (id : String) : Prop where
  hexId : string.hexId = .ok id
  length : id.toList.length = 8
  digits : ∀ c ∈ id.toList, Hex.isUpperDigit c = true
  section_eq : Hex.value? (id.toList.take 4) = some string.bank
  index_eq : Hex.value? (id.toList.drop 4) = some index

/-- Strings are numbered from zero on within each section, their ids differ, and a directory on the
disk holds their files and nothing else. -/
structure StringsBuilt (before after : Registry NamedString) (disk : Disk) (dir : Path) : Prop where
  keys : after.keys = before.keys
  kept : ∀ entry ∈ after.entries, ∃ string, (entry.1, string) ∈ before.entries ∧
    entry.2 = { string with state := entry.2.state }
  indices : ∀ bank, Export.indices (after.entries.filter (·.2.bank = bank)) =
    (List.range (before.entries.filter (·.2.bank = bank)).length).map
      fun index : Nat => some (index : Int)
  ids : ∀ entry ∈ after.entries, ∃ index id, Export.index? entry.2 = some (index : Nat) ∧
    StringId entry.2 index id ∧
    entry.2.file = (id ++ ".str", .file (Utf8.encode (entry.2.written index)))
  nodup : (after.entries.map fun entry => entry.2.hexId).Nodup
  files : ∃ listing, disk.list dir = .ok listing ∧
    listing.Perm (after.entries.map fun entry => entry.2.file)

/-- A row of the table of actors: it gives the index, and the ids of the strings that introduce the
actor, which are names of files. -/
def ActorListed (strings : Registry NamedString) (names : List String) (index : Nat)
    (actor : Actor) (row : String) : Prop :=
  ∃ number name nameId tattle tattleId, row = "   <Actor id=\"" ++ number ++ "\" name=\"" ++
      nameId ++ "\" tattle=\"" ++ tattleId ++ "\"/>" ∧
    Hex.value? number.toList = some index ∧
    (strings.get? actor.displayName = some name ∧ name.hexId = .ok nameId ∧
      nameId ++ ".str" ∈ names) ∧
    (strings.get? actor.tattle = some tattle ∧ tattle.hexId = .ok tattleId ∧
      tattleId ++ ".str" ∈ names)

/-- Actors are numbered from zero on, and a table on the disk has one row for each of them, with ids
of strings that are files in a directory. -/
structure ActorsBuilt (before after : Registry Actor) (strings : Registry NamedString) (disk : Disk)
    (table dir : Path) : Prop where
  keys : after.keys = before.keys
  indices : Export.indices after.entries =
    (List.range before.size).map fun index : Nat => some (index : Int)
  size_le : before.size ≤ 256
  rows : ∃ text rows listing, disk.readFile table = .ok (Utf8.encode text) ∧
    Text.splitAt '\n' text = [markupDeclaration, "<ActorTypes>"] ++ rows ++ ["</ActorTypes>"] ∧
    disk.list dir = .ok listing ∧
    List.Forall₂ (fun ((_, actor), index) row =>
      ActorListed strings (listing.map (·.1)) index actor row) (before.entries.zipIdx 0) rows

variable {exports : Exports} {dir : Path} {built : Site Exports}

theorem Finished.spritesBuilt (h : Finished exports dir built) (hnamed : exports.WellNamed) :
    SpritesBuilt exports.sprites built.held.sprites built.disk
      (dir / "sprite" / "SpriteTable.xml") where
  keys := by
    rw [Registry.keys, h.sprites]
    exact keys_numbered _ _
  indices := by
    rw [Export.indices, h.sprites]
    exact indices_numbered _ _
  size_le := h.sprites_le
  rows := by
    refine ⟨_, spriteRows firstSprite exports.sprites.entries, h.spriteTable,
      splitAt_spriteTable ?_, ?_⟩
    · intro row hmem
      obtain ⟨⟨⟨id, sprite⟩, index⟩, hentry, rfl⟩ := List.mem_map.1 hmem
      have hwell := hnamed.sprites id sprite (List.fst_mem_of_mem_zipIdx hentry)
      exact oneLine_spriteRow hwell.oneLine_label
    · have hkeys : exports.sprites.keys.zipIdx 1 =
          (exports.sprites.entries.zipIdx firstSprite).map fun (entry, index) =>
            (entry.1, index) := by
        rw [Registry.keys, List.zipIdx_map]
        rfl
      rw [hkeys, spriteRows, List.forall₂_map_left_iff, List.forall₂_map_right_iff,
        List.forall₂_same]
      rintro ⟨⟨id, sprite⟩, index⟩ _
      exact spriteRow_reads index id

theorem Finished.fits (h : Finished exports dir built) (hnamed : exports.WellNamed) :
    ∀ entry ∈ sectioned [] exports.strings.entries,
      entry.2.bank < 16 ^ 4 ∧ entry.2.number < 16 ^ 4 :=
  fits_of_mem_sectioned (fun entry hmem => (hnamed.strings entry.1 entry.2 hmem).section_le)
    h.numbers_le

/-- What is known of each string of a finished build. -/
theorem Finished.stringId (h : Finished exports dir built) (hnamed : exports.WellNamed)
    {entry : Identifier × NamedString} (hmem : entry ∈ built.held.strings.entries) :
    Export.index? entry.2 = some (entry.2.number : Int) ∧
      StringId entry.2 entry.2.number (NamedString.idText entry.2.bank entry.2.number) := by
  rw [h.strings] at hmem
  obtain ⟨hfitBank, hfitNumber⟩ := h.fits hnamed entry hmem
  obtain ⟨id, string⟩ := entry
  obtain ⟨before, _, heq, _⟩ := of_mem_sectioned hmem
  have hstate : string.state = .assembled string.number := by
    rw [heq]
    rfl
  refine ⟨?_, ?_, NamedString.length_idText hfitBank hfitNumber,
    fun _ => NamedString.isUpperDigit_of_mem_idText, ?_, ?_⟩
  · change string.state.index? = _
    rw [hstate]
    rfl
  · have hindex : Export.index string = .ok (string.number : Int) := by
      have hexport : Export.state string = .assembled string.number := hstate
      simp [Export.index, hexport]
    rw [NamedString.hexId, hindex]
    rfl
  · rw [NamedString.take_idText hfitBank, Hex.value?_padded]
  · rw [NamedString.drop_idText hfitBank, Hex.value?_padded]

theorem Finished.stringsBuilt (h : Finished exports dir built) (hnamed : exports.WellNamed) :
    StringsBuilt exports.strings built.held.strings built.disk (dir / "strings") where
  keys := by
    rw [Registry.keys, h.strings]
    exact keys_sectioned _ _
  kept := by
    rintro ⟨id, string⟩ hmem
    rw [h.strings] at hmem
    obtain ⟨before, hbefore, heq, _⟩ := of_mem_sectioned hmem
    refine ⟨before, hbefore, ?_⟩
    change string = { before with state := string.state }
    rw [heq]
  indices := by
    intro bank
    rw [Export.indices, h.strings, indices_sectioned, List.range_eq_range']
    rfl
  ids := by
    intro entry hmem
    obtain ⟨hindex, hid⟩ := h.stringId hnamed hmem
    exact ⟨_, _, hindex, hid, rfl⟩
  nodup := by
    have hmap : (built.held.strings.entries.map fun entry => entry.2.hexId) =
        (built.held.strings.entries.map fun entry =>
          NamedString.idText entry.2.bank entry.2.number).map Except.ok := by
      rw [List.map_map]
      exact List.map_congr_left fun entry hmem => (h.stringId hnamed hmem).2.hexId
    rw [hmap, h.strings]
    exact (nodup_ids_sectioned (h.fits hnamed)).map fun _ _ heq => Except.ok.inj heq
  files := by
    obtain ⟨listing, hlist, hperm⟩ := h.stringFiles
    rw [h.strings]
    exact ⟨listing, hlist, hperm⟩

/-- A string that the build holds has the id that it tells, and a file under that id. -/
theorem Finished.file_mem (h : Finished exports dir built) (hnamed : exports.WellNamed)
    {listing : List (String × Entry)}
    (hperm : listing.Perm (built.held.strings.entries.map fun entry => entry.2.file))
    {id : Identifier} {string : NamedString} {word : String}
    (hget : built.held.strings.get? id = some string) (hword : string.hexId = .ok word) :
    word ++ ".str" ∈ listing.map (·.1) ∧ OneLine word := by
  have hmem : (id, string) ∈ built.held.strings.entries :=
    Registry.All.of_get? (p := fun id string => (id, string) ∈ built.held.strings.entries)
      (fun _ _ hentry => hentry) hget
  obtain ⟨_, hid⟩ := h.stringId hnamed hmem
  rw [hid.hexId] at hword
  cases hword
  refine ⟨?_, oneLine_of_isUpperDigit hid.digits⟩
  have hfile : string.file ∈ listing :=
    hperm.mem_iff.2 (List.mem_map.2 ⟨(id, string), hmem, rfl⟩)
  exact List.mem_map.2 ⟨string.file, hfile, rfl⟩

theorem Finished.actorsBuilt (h : Finished exports dir built) (hnamed : exports.WellNamed) :
    ActorsBuilt exports.actors built.held.actors built.held.strings built.disk
      (dir / "battle" / "ActorTypes.xml") (dir / "strings") where
  keys := by
    rw [Registry.keys, h.actors]
    exact keys_numbered _ _
  indices := by
    rw [Export.indices, h.actors, indices_numbered, List.range_eq_range']
    rfl
  size_le := h.actors_le
  rows := by
    obtain ⟨rows, hrows, htable⟩ := h.actorTable
    obtain ⟨listing, hlist, hperm⟩ := h.stringFiles
    rw [← h.strings] at hperm
    refine ⟨_, rows, listing, htable, splitAt_actorTable ?_, hlist, hrows.imp ?_⟩
    · refine forall_mem_of_forall₂ hrows ?_
      rintro ⟨⟨id, actor⟩, index⟩ row ⟨name, tattle, nameId, tattleId, hname, htattle, hnameId,
        htattleId, rfl⟩
      exact oneLine_actorRow (h.file_mem hnamed hperm hname hnameId).2
        (h.file_mem hnamed hperm htattle htattleId).2
    · rintro ⟨⟨id, actor⟩, index⟩ row ⟨name, tattle, nameId, tattleId, hname, htattle, hnameId,
        htattleId, rfl⟩
      exact ⟨Hex.padded 2 index, name, nameId, tattle, tattleId, rfl, Hex.value?_padded 2 index,
        ⟨hname, hnameId, (h.file_mem hnamed hperm hname hnameId).1⟩,
        htattle, htattleId, (h.file_mem hnamed hperm htattle htattleId).1⟩

end Assembly

namespace Sample

def buildPath : Path :=
  ⟨.root, ["game", ".build"]⟩

/-- What assembling the sample package leaves. -/
def built : Site Exports :=
  (gamePackage.assemble disk buildPath).2

theorem rooted_disk : disk.Rooted where
  tree := FileTree.rooted_of_entries (by decide +kernel)
  workingDirectory := rfl

theorem assemble_game : gamePackage.assemble disk buildPath = (.ok (), built) :=
  eq_of_toOption (by decide +kernel)

end Sample

end ModPack
