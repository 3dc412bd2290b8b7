import ModPack.Proofs.BuildOutput
import ModPack.Proofs.References

/-!
# References resolved after a build

A script names an export of a finished build by a reference, and the word that the reference becomes
is the index that the tables and files of the build give to the same export. Main statement:
`assemble_resolves`.
-/
namespace ModPack

open Expression (reference)

namespace Resolution

variable {exports : Exports} {source text word : String} {kind : ExportKind}

/-- A line that is one reference becomes the word for it. -/
theorem line_reference (h : Expression.IsArgument text)
    (hvalue : (value exports source ⟨kind, [text]⟩).result = .ok (some word)) (path : Path)
    (number : Nat) :
    (line exports path source ⟨number, reference kind text⟩).result = .ok ⟨number, word⟩ := by
  have hsegment : (segment exports ⟨path, number, source⟩
      (.expression ⟨kind, [text]⟩)).result = .ok word.toList := by
    rw [segment]
    exact Report.result_bind_ok.2 ⟨some word, Report.result_mapError_ok.2 hvalue, rfl⟩
  have hsegments : (segments exports ⟨path, number, source⟩
      [.expression ⟨kind, [text]⟩]).result = .ok word.toList := by
    rw [segments]
    refine Report.result_bind_ok.2 ⟨word.toList, hsegment, ?_⟩
    refine Report.result_bind_ok.2 ⟨[], rfl, ?_⟩
    rw [List.append_nil]
    rfl
  rw [line]
  dsimp only
  rw [Expression.segments_reference kind h]
  refine Report.result_bind_ok.2 ⟨word.toList, hsegments, ?_⟩
  rw [String.ofList_toList]
  rfl

/-- Lines are resolved one by one. -/
theorem forall₂_of_lines {path : Path} {before after : List Line}
    (h : (lines exports path source before).result = .ok after) :
    List.Forall₂ (fun first second => (line exports path source first).result = .ok second)
      before after := by
  induction before generalizing after with
  | nil =>
    cases h
    exact .nil
  | cons first rest ih =>
    rw [lines] at h
    obtain ⟨resolved, hfirst, h⟩ := Report.result_bind_ok.1 h
    obtain ⟨others, hrest, h⟩ := Report.result_bind_ok.1 h
    cases h
    exact .cons hfirst (ih hrest)

theorem forall₂_of_block {path : Path} {before after : Block}
    (h : (block exports path source before).result = .ok after) :
    List.Forall₂ (fun first second => (line exports path source first).result = .ok second)
      before.lines after.lines := by
  rw [block] at h
  obtain ⟨header, hheader, h⟩ := Report.result_bind_ok.1 h
  obtain ⟨rest, hrest, h⟩ := Report.result_bind_ok.1 h
  cases h
  exact .cons hheader (forall₂_of_lines hrest)

/-- The induction is on the blocks; once one fails, there is a failure. -/
theorem forall₂_of_blocks {path : Path} {before : List Block}
    (h : (blocks exports path source before).2.2 = none) :
    List.Forall₂ (fun first second => (line exports path source first).result = .ok second)
      (before.flatMap Block.lines)
      ((blocks exports path source before).2.1.flatMap Block.lines) := by
  induction before with
  | nil => exact .nil
  | cons first rest ih =>
    rw [blocks] at h ⊢
    split at h
    · cases h
    · next events resolved hfirst =>
      have hblock : (block exports path source first).result = .ok resolved := by rw [hfirst]
      exact List.rel_append (forall₂_of_block hblock) (ih h)

/-- A script that resolves has its lines resolved one by one. -/
theorem forall₂_of_resolve {script : Script} (h : (script.resolve exports).failure = none) :
    List.Forall₂ (fun first second =>
      (line exports script.path script.package first).result = .ok second)
      script.lines (script.resolve exports).script.lines :=
  forall₂_of_blocks h

/-! ## Values of references -/

variable {id : Identifier}

theorem value_sprite {sprite : Sprite} {index : Int}
    (hparse : (Identifier.parse text source).result = .ok id)
    (hget : exports.sprites.get? id = some sprite) (hindex : Export.index sprite = .ok index) :
    (value exports source ⟨.sprite, [text]⟩).result = .ok (some (Hex.padded 2 index)) := by
  rw [value]
  refine Report.result_bind_ok.2 ⟨id, Report.result_mapError_ok.2 hparse, ?_⟩
  refine Report.result_bind_ok.2 ⟨sprite, by rw [lookUp, hget]; rfl, ?_⟩
  exact Report.result_bind_ok.2 ⟨index, by rw [indexOf, hindex]; rfl, rfl⟩

theorem value_actor {actor : Actor} {index : Int}
    (hparse : (Identifier.parse text source).result = .ok id)
    (hget : exports.actors.get? id = some actor) (hindex : Export.index actor = .ok index) :
    (value exports source ⟨.actor, [text]⟩).result = .ok (some (Hex.padded 2 index)) := by
  rw [value]
  refine Report.result_bind_ok.2 ⟨id, Report.result_mapError_ok.2 hparse, ?_⟩
  refine Report.result_bind_ok.2 ⟨actor, by rw [lookUp, hget]; rfl, ?_⟩
  exact Report.result_bind_ok.2 ⟨index, by rw [indexOf, hindex]; rfl, rfl⟩

theorem value_text {string : NamedString}
    (hparse : (Identifier.parse text source).result = .ok id)
    (hget : exports.strings.get? id = some string) (hword : string.hexId = .ok word) :
    (value exports source ⟨.text, [text]⟩).result = .ok (some word) := by
  rw [value]
  refine Report.result_bind_ok.2 ⟨id, Report.result_mapError_ok.2 hparse, ?_⟩
  refine Report.result_bind_ok.2 ⟨string, by rw [lookUp, hget]; rfl, ?_⟩
  exact Report.result_bind_ok.2 ⟨word, by rw [hword]; rfl, rfl⟩

/-- A line that is a reference to an export becomes a word: taken by itself, and as any line of a
script that resolves. -/
structure Resolves (exports : Exports) (source : String) (kind : ExportKind) (id : Identifier)
    (word : String) : Prop where
  alone : ∀ (path : Path) (number : Nat), (line exports path source
    ⟨number, reference kind (id.referenceFrom source)⟩).result = .ok ⟨number, word⟩
  within : ∀ script : Script, script.package = source →
    (script.resolve exports).failure = none → ∀ place number : Nat,
      script.lines[place]? = some ⟨number, reference kind (id.referenceFrom source)⟩ →
        (script.resolve exports).script.lines[place]? = some ⟨number, word⟩

theorem resolves_of_value (h : Expression.IsArgument (id.referenceFrom source))
    (hvalue : (value exports source ⟨kind, [id.referenceFrom source]⟩).result =
      .ok (some word)) : Resolves exports source kind id word := by
  refine ⟨line_reference h hvalue, ?_⟩
  rintro script rfl hresolve place number hline
  obtain ⟨resolved, hplace, hresult⟩ := getElem?_of_forall₂ (forall₂_of_resolve hresolve) hline
  rw [line_reference h hvalue] at hresult
  cases hresult
  exact hplace

end Resolution

namespace Assembly

open Resolution (Resolves)

variable {exports : Exports} {dir : Path} {built : Site Exports} {id : Identifier} {source : String}

/-- A reference to a sprite becomes the index that its row in the table gives. -/
def SpriteResolved (built : Site Exports) (dir : Path) (source : String) (id : Identifier)
    (sprite : Sprite) : Prop :=
  ∃ index : Nat, index ≤ 255 ∧
    built.held.sprites.get? id = some { sprite with state := .assembled index } ∧
    Resolves built.held source .sprite id (Hex.padded 2 index) ∧
    ∃ text row, built.disk.readFile (dir / "sprite" / "SpriteTable.xml") =
        .ok (Utf8.encode text) ∧
      (Text.splitAt '\n' text)[index + 2]? = some row ∧ SpriteRow index id row

/-- A reference to a string becomes the id that its file is named by. -/
def StringResolved (built : Site Exports) (dir : Path) (source : String) (id : Identifier)
    (string : NamedString) : Prop :=
  ∃ (index : Nat) (word : String),
    built.held.strings.get? id = some { string with state := .assembled index } ∧
    StringId { string with state := .assembled index } index word ∧
    Resolves built.held source .text id word ∧
    ∃ listing, built.disk.list (dir / "strings") = .ok listing ∧
      (word ++ ".str", .file (Utf8.encode (string.written index))) ∈ listing

/-- A reference to an actor becomes the index that its row in the table gives. -/
def ActorResolved (built : Site Exports) (dir : Path) (source : String) (id : Identifier)
    (actor : Actor) : Prop :=
  ∃ index : Nat, index ≤ 255 ∧
    built.held.actors.get? id = some { actor with state := .assembled index } ∧
    Resolves built.held source .actor id (Hex.padded 2 index) ∧
    ∃ text row listing, built.disk.readFile (dir / "battle" / "ActorTypes.xml") =
        .ok (Utf8.encode text) ∧
      (Text.splitAt '\n' text)[index + 2]? = some row ∧
      built.disk.list (dir / "strings") = .ok listing ∧
      ActorListed built.held.strings (listing.map (·.1)) index actor row

theorem Finished.spriteResolved (h : Finished exports dir built) (hnamed : exports.WellNamed)
    (hvisible : id.package = source ∨ id.isPrivate = false) {sprite : Sprite}
    (hget : exports.sprites.get? id = some sprite) : SpriteResolved built dir source id sprite := by
  have hwell := hnamed.sprites.of_get? hget
  obtain ⟨place, hplace⟩ := Registry.exists_getElem?_of_get? hget
  have hentry : built.held.sprites.entries[place]? =
      some (id, { sprite with state := .assembled (1 + place : Nat) }) := by
    rw [h.sprites, getElem?_numbered, hplace]
    rfl
  have hlt : place < exports.sprites.entries.length := (List.getElem?_eq_some_iff.1 hplace).1
  have hfinal := Registry.get?_of_getElem? hentry
  have hbuilt := h.spritesBuilt hnamed
  obtain ⟨text, rows, hread, hlines, hrows⟩ := hbuilt.rows
  have hkey : (exports.sprites.keys.zipIdx 1)[place]? = some (id, 1 + place) := by
    rw [List.getElem?_zipIdx, Registry.keys, List.getElem?_map, hplace]
    rfl
  obtain ⟨row, hrow, hreads⟩ := getElem?_of_forall₂ hrows hkey
  have hresolves := Resolution.resolves_of_value
    (Expression.isArgument_referenceFrom source hwell.package hwell.name)
    (Resolution.value_sprite (Identifier.parse_referenceFrom hwell.package hwell.name hvisible)
      hfinal rfl)
  refine ⟨1 + place, ?_, hfinal, hresolves, text, row, hread, ?_, hreads⟩
  · have hle : exports.sprites.entries.length ≤ 255 := hbuilt.size_le
    omega
  · have hindex : 1 + place + 2 = 3 + place := by omega
    rw [hlines, hindex, List.append_assoc, List.append_assoc]
    exact getElem?_row [markupDeclaration, "<SpriteTable>", "    <NpcSprites>"] hrow

theorem Finished.stringResolved (h : Finished exports dir built) (hnamed : exports.WellNamed)
    (hvisible : id.package = source ∨ id.isPrivate = false) {string : NamedString}
    (hget : exports.strings.get? id = some string) :
    StringResolved built dir source id string := by
  have hwell := hnamed.strings.of_get? hget
  obtain ⟨place, hplace⟩ := Registry.exists_getElem?_of_get? hget
  obtain ⟨index, hnumbered⟩ := getElem?_sectioned [] hplace
  have hentry : built.held.strings.entries[place]? =
      some (id, { string with state := .assembled index }) := by
    rw [h.strings, hnumbered]
  have hmem := List.mem_of_getElem? hentry
  have hfinal := Registry.get?_of_getElem? hentry
  have hid : StringId { string with state := .assembled index } index
      (NamedString.idText string.bank index) := (h.stringId hnamed hmem).2
  have hresolves := Resolution.resolves_of_value
    (Expression.isArgument_referenceFrom source hwell.package hwell.name)
    (Resolution.value_text (Identifier.parse_referenceFrom hwell.package hwell.name hvisible)
      hfinal hid.hexId)
  obtain ⟨listing, hlist, hperm⟩ := (h.stringsBuilt hnamed).files
  refine ⟨index, _, hfinal, hid, hresolves, listing, hlist, hperm.mem_iff.2 ?_⟩
  exact List.mem_map.2 ⟨_, hmem, rfl⟩

theorem Finished.actorResolved (h : Finished exports dir built) (hnamed : exports.WellNamed)
    (hvisible : id.package = source ∨ id.isPrivate = false) {actor : Actor}
    (hget : exports.actors.get? id = some actor) : ActorResolved built dir source id actor := by
  have hwell := hnamed.actors.of_get? hget
  obtain ⟨place, hplace⟩ := Registry.exists_getElem?_of_get? hget
  have hentry : built.held.actors.entries[place]? =
      some (id, { actor with state := .assembled (0 + place : Nat) }) := by
    rw [h.actors, getElem?_numbered, hplace]
    rfl
  have hlt : place < exports.actors.entries.length := (List.getElem?_eq_some_iff.1 hplace).1
  have hfinal := Registry.get?_of_getElem? hentry
  have hbuilt := h.actorsBuilt hnamed
  obtain ⟨text, rows, listing, hread, hlines, hlist, hrows⟩ := hbuilt.rows
  have hzip : (exports.actors.entries.zipIdx 0)[place]? = some ((id, actor), 0 + place) := by
    rw [List.getElem?_zipIdx, hplace]
    rfl
  obtain ⟨row, hrow, hreads⟩ := getElem?_of_forall₂ hrows hzip
  have hresolves := Resolution.resolves_of_value
    (Expression.isArgument_referenceFrom source hwell.package hwell.name)
    (Resolution.value_actor (Identifier.parse_referenceFrom hwell.package hwell.name hvisible)
      hfinal rfl)
  refine ⟨0 + place, ?_, hfinal, hresolves, text, row, listing, hread, ?_, hlist, hreads⟩
  · have hle : exports.actors.entries.length ≤ 256 := hbuilt.size_le
    omega
  · have hindex : 0 + place + 2 = 2 + place := by omega
    rw [hlines, hindex]
    exact getElem?_row [markupDeclaration, "<ActorTypes>"] hrow

end Assembly

open Assembly in
/-- After a build, every reference to an export that its source can see becomes the index that the
build gave to that export and wrote down for it. -/
theorem Package.assemble_resolves {settings : Settings} {origin disk : Disk} {place dir : Path}
    {package : Package} {built : Site Exports} {source : String} {id : Identifier}
    (hload : (Package.load settings origin place).result = .ok package) (hrooted : disk.Rooted)
    (h : package.assemble disk dir = (.ok (), built))
    (hvisible : id.package = source ∨ id.isPrivate = false) :
    (∀ sprite, package.exports.sprites.get? id = some sprite →
        SpriteResolved built dir source id sprite) ∧
      (∀ string, package.exports.strings.get? id = some string →
        StringResolved built dir source id string) ∧
      ∀ actor, package.exports.actors.get? id = some actor →
        ActorResolved built dir source id actor := by
  obtain ⟨hfinished, hnamed⟩ := Package.finished_of_assemble hload hrooted h
  exact ⟨fun _ => hfinished.spriteResolved hnamed hvisible,
    fun _ => hfinished.stringResolved hnamed hvisible,
    fun _ => hfinished.actorResolved hnamed hvisible⟩

/-- A reference to a string of another package, from the package that is built. -/
theorem Package.assemble_resolves_game :
    Sample.greetingId.referenceFrom "game" = "base/greeting" ∧
      Assembly.StringResolved Sample.built Sample.buildPath "game" Sample.greetingId
        Sample.greeting := by
  have hvisible : Sample.greetingId.package = "game" ∨ Sample.greetingId.isPrivate = false :=
    .inr (by decide +kernel)
  have hresolved := Package.assemble_resolves Sample.load_game Sample.rooted_disk
    Sample.assemble_game hvisible
  exact ⟨by decide +kernel, hresolved.2.1 Sample.greeting (by decide +kernel)⟩

end ModPack
