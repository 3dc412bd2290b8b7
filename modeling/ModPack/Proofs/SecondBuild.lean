import ModPack.Proofs.CopyAgain
import ModPack.Proofs.FinishedBuild
import ModPack.Proofs.IndicesOnce
import ModPack.Proofs.TwinExports

/-!
# Building a second time

A build leaves its directory such that building there again goes as well as it did the first time,
up to the first export that is to get an index: it has one. What is held stays as it is. Main
statements: `firstBuilt_of_run` and `run_repeats`.
-/
namespace ModPack

open Disk (KeepsKinds)
open Work (outcome outcome_bind_ok outcome_seq_ok outcome_onDisk_ok outcome_bind_of_ok
  outcome_bind_of_error)

variable {site after built : Site Exports} {dir target : Path} {region source location : Location}

/-! ## What a build leaves for the next one -/

theorem Sprite.assemble_keepsKinds {sprite marked : Sprite} {index : Int}
    (h : outcome (sprite.assemble target index) site = (.ok marked, after)) (region : Location) :
    KeepsKinds region site.disk after.disk := by
  obtain ⟨_, made, copied, hmade, hcopied, rfl⟩ := Sprite.assemble_steps h
  have hgrows := Disk.grows_of_makeDirectories hmade
  have hputs := Disk.puts_of_copyChildren (Disk.directory?_of_makeDirectories hmade) hcopied
  exact (hgrows.keepsKinds region).trans (hputs.keepsKinds region)

namespace Assembly

/-- The induction is on the sprites that are left. -/
theorem numberSprites_keepsKinds {index : Nat} {entries : List (Identifier × Sprite)}
    {rows : List String} (h : outcome (numberSprites target index entries) site = (.ok rows, after))
    (region : Location) : KeepsKinds region site.disk after.disk := by
  induction entries generalizing site index rows with
  | nil =>
    cases h
    exact .refl region _
  | cons entry rest ih =>
    obtain ⟨id, sprite⟩ := entry
    rw [numberSprites] at h
    obtain ⟨marked, between, hone, h⟩ := outcome_bind_ok.1 h
    rw [Work.outcome_hold_bind, Work.outcome_note_bind] at h
    obtain ⟨later, final, hrest, h⟩ := outcome_bind_ok.1 h
    cases h
    have hrest' := ih hrest
    exact (Sprite.assemble_keepsKinds hone region).trans hrest'

/-- What the first build has left for the next one: it made its directory and assembled the sprites,
nothing that this left there has become another kind of entry, its directories are there, and the
path to the strings does not lead through them. -/
structure FirstBuilt (site : Site Exports) (dir : Path) (made : Disk)
    (drawn built : Site Exports) : Prop where
  makes : Disk.outcome (Disk.makeDirectories true dir) site.disk = (.ok (), made)
  draws : outcome (sprites (dir / "sprite")) { site with disk := made } = (.ok (), drawn)
  kinds : KeepsKinds ("sprite" :: site.disk.spot dir) drawn.disk built.disk
  base : built.disk.directory? dir = some (site.disk.spot dir)
  spriteDir : built.disk.directory? (dir / "sprite") = some ("sprite" :: site.disk.spot dir)
  table : built.disk.HoldsFile ("SpriteTable.xml" :: "sprite" :: site.disk.spot dir)
  stringDir : built.disk.directory? (dir / "strings") = some ("strings" :: site.disk.spot dir)
  front : ∀ parts, parts <+: dir.parts →
    (parts.foldl Disk.stepTo (built.disk.start dir)).within ("strings" :: site.disk.spot dir) = false

theorem firstBuilt_of_run (hrooted : site.disk.Rooted) (hnamed : site.held.WellNamed)
    (h : outcome (run dir) site = (.ok (), built)) :
    ∃ made drawn, FirstBuilt site dir made drawn built := by
  have hspriteName : Path.Plain "sprite" := Path.plain_of_not_mem (by decide)
  have hstringsName : Path.Plain "strings" := Path.plain_of_not_mem (by decide)
  obtain ⟨made, drawn, lettered, scripts, staged, hsteps, hsave⟩ := steps_of_run hrooted hnamed h
  have hdone := hsteps.actorsDone hnamed (List.Subset.refl _) hsave
  -- What the sprites left is in none of the two other directories.
  have hkinds : KeepsKinds ("sprite" :: site.disk.spot dir) drawn.disk built.disk := by
    have hstrings : KeepsKinds ("sprite" :: site.disk.spot dir) drawn.disk lettered.disk := by
      have hapart := Location.Apart.beside (show "sprite" ≠ "strings" by decide)
        (site.disk.spot dir)
      exact .of_get? fun location entry hin hentry => hsteps.found (hapart.not_within hin) hentry
    exact hstrings.trans (hdone.keeps.keepsKinds (.beside (by decide) _))
  have hbase := hdone.keeps.directory? hsteps.directory_lettered
  refine ⟨made, drawn, ?_⟩
  constructor
  case makes => exact hsteps.makes
  case draws => exact hsteps.draws
  case kinds => exact hkinds
  case base => exact hbase
  case spriteDir =>
    exact Disk.directory?_div hbase hspriteName (hkinds.directories _ (Location.within_refl _)
      (Disk.directory?_eq_some.1 hsteps.spriteDirectory).2)
  case table => exact hkinds.files _ (Location.within_cons _ _) ⟨_, hsteps.spriteTable⟩
  case stringDir => exact hdone.keeps.directory? hsteps.stringDirectory
  case front =>
    have hstart : built.disk.start dir = drawn.disk.start dir := by
      rw [Disk.start, Disk.start, hdone.keeps.workingDirectory, hsteps.strings.workingDirectory]
    obtain ⟨cleared, renewed, hcleared, hrenewed, _⟩ := strings_steps hsteps.letters
    intro parts hparts
    rw [hstart, ← hsteps.spot_strings]
    exact Disk.front_outside_of_makeDirectories hstringsName hsteps.rooted hcleared hrenewed hparts

/-- Actors are introduced by strings, so a finished build without strings has none. -/
theorem Finished.actors_eq_nil {exports : Exports} (h : Finished exports dir built)
    (hnone : exports.strings.entries = []) : exports.actors.entries = [] := by
  have hstrings := h.strings
  rw [hnone] at hstrings
  obtain ⟨rows, hrows, _⟩ := h.actorTable
  cases hactors : exports.actors.entries with
  | nil => rfl
  | cons entry rest =>
    rw [hactors, List.zipIdx_cons] at hrows
    obtain ⟨_, _, ⟨name, _, _, _, hname, _⟩, _⟩ := List.forall₂_cons_left_iff.1 hrows
    rw [Registry.get?, hstrings] at hname
    cases hname

/-! ## An index a second time -/

/-- The work stops because an export has an index already, and leaves what is held as it is. -/
def Repeats {α : Type} (work : Build α) (site : Site Exports) : Prop :=
  ∃ kind name index again,
    outcome work site = (.error (.index (.alreadyAssembled kind name index)), again) ∧
      again.held = site.held

namespace Repeats

theorem mark {α : Type} [Export α] {id : Identifier} {item : α} (h : Indexed id item)
    (index : Int) (site : Site Exports) : Repeats (mark item index) site := by
  obtain ⟨old, hstate⟩ := h
  refine ⟨Export.kind item, Export.name item, old, site, ?_, rfl⟩
  rw [Assembly.mark, Export.mark_of_state_assembled hstate]
  rfl

theorem bind {α β : Type} {first : Build α} {next : α → Build β} (h : Repeats first site) :
    Repeats (first >>= next) site := by
  obtain ⟨kind, name, index, again, hfirst, hheld⟩ := h
  exact ⟨kind, name, index, again, outcome_bind_of_error hfirst, hheld⟩

theorem bind_of_ok {α β : Type} {first : Build α} {next : α → Build β} {middle : α}
    {between : Site Exports} (hfirst : outcome first site = (.ok middle, between))
    (hheld : between.held = site.held) (h : Repeats (next middle) between) :
    Repeats (first >>= next) site := by
  obtain ⟨kind, name, index, again, hnext, hagain⟩ := h
  refine ⟨kind, name, index, again, ?_, hagain.trans hheld⟩
  rw [outcome_bind_of_ok hfirst, hnext]

theorem onDisk_bind {α β : Type} {op : Disk.Op α} {next : α → Build β} {value : α} {disk : Disk}
    (hop : Disk.outcome op site.disk = (.ok value, disk))
    (h : Repeats (next value) { site with disk }) : Repeats (onDisk op >>= next) site :=
  bind_of_ok (outcome_onDisk_ok.2 ⟨disk, hop, rfl⟩) rfl h

theorem held_bind {β : Type} {next : Exports → Build β} (h : Repeats (next site.held) site) :
    Repeats (Work.held >>= next) site :=
  h

theorem disk_bind {β : Type} {next : Disk → Build β} (h : Repeats (next site.disk) site) :
    Repeats (Work.disk >>= next) site :=
  h

end Repeats

/-- What the first build left of a directory is there in the second one. -/
theorem directory?_div_of_keepsKinds {before after : Disk} {base : Path} {name : String}
    (h : KeepsKinds region before after) (hname : Path.Plain name)
    (hin : location.within region = true)
    (hbefore : before.directory? (base / name) = some (name :: location))
    (hbase : after.directory? base = some location) :
    after.directory? (base / name) = some (name :: location) :=
  Disk.directory?_div hbase hname (h.directories _
    (Location.cons_within _ hin)
    (Disk.directory?_eq_some.1 hbefore).2)

/-- A sprite is copied again to where its copy is, and then has its index. -/
theorem numberSprites_repeats {disk : Disk} {id : Identifier} {sprite marked : Sprite}
    {rest : List (Identifier × Sprite)} {index : Nat}
    (hindexed : Indexed id marked) (hdir : marked.dir = sprite.dir)
    (hthere : disk.directory? (target / Hex.padded 2 index) = some location)
    (hcopy : ∃ copied, Disk.outcome (Disk.copyChildren sprite.dir (target / Hex.padded 2 index))
      disk = (.ok (), copied)) (held : Exports) (events : List Event) :
    Repeats (numberSprites target index ((id, marked) :: rest)) { disk, held, events } := by
  obtain ⟨copied, hcopied⟩ := hcopy
  rw [numberSprites, Sprite.assemble, hdir]
  exact .bind (.onDisk_bind (Disk.makeDirectories_of_directory? hthere)
    (.onDisk_bind hcopied (.mark hindexed _ _)))

/-- Where the files of the first sprite are copied to. -/
def firstTarget (dir : Path) : Path :=
  dir / "npc" / "src" / Hex.padded 2 firstSprite

/-- The first build has copied the files of the first sprite, and no later step of it takes what it
copied for another kind of entry. -/
theorem sprites_copied {id : Identifier} {sprite : Sprite} {rest : List (Identifier × Sprite)}
    (hentries : site.held.sprites.entries = (id, sprite) :: rest)
    (h : outcome (sprites dir) site = (.ok (), after)) :
    ∃ filled copied, Disk.Keeps site.disk filled ∧
      site.disk.tree.entries ⊆ filled.tree.entries ∧
      filled.directory? (firstTarget dir) =
        some (Hex.padded 2 firstSprite :: "src" :: "npc" :: site.disk.spot dir) ∧
      Disk.outcome (Disk.copyChildren sprite.dir (firstTarget dir)) filled = (.ok (), copied) ∧
      KeepsKinds (site.disk.spot dir) copied after.disk := by
  have hnpc : Path.Plain "npc" := Path.plain_of_not_mem (by decide)
  have hsrc : Path.Plain "src" := Path.plain_of_not_mem (by decide)
  have hone : Path.Plain (Hex.padded 2 firstSprite) := Path.plain_of_not_mem (by decide)
  obtain ⟨_, made, rows, marked, written, hmade, hrows, _, hwritten, rfl⟩ := sprites_steps h
  rw [hentries, numberSprites] at hrows
  obtain ⟨drawn, between, hdrawn, hrows⟩ := outcome_bind_ok.1 hrows
  rw [Work.outcome_hold_bind, Work.outcome_note_bind] at hrows
  obtain ⟨others, final, hrest, hrows⟩ := outcome_bind_ok.1 hrows
  cases hrows
  obtain ⟨_, filled, copied, hfilled, hcopied, rfl⟩ := Sprite.assemble_steps hdrawn
  change Disk.outcome (Disk.makeDirectories true (firstTarget dir)) made = _ at hfilled
  have hgrows := (Disk.grows_of_makeDirectories hmade).keeps
  have hgrows' := (Disk.grows_of_makeDirectories hfilled).keeps
  have hmore := Disk.makeDirectories_entries true dir site.disk
  have hmore' := Disk.makeDirectories_entries true (firstTarget dir) made
  rw [hmade] at hmore
  rw [hfilled] at hmore'
  have htarget := Disk.directory?_of_makeDirectories hfilled
  rw [(hgrows.trans hgrows').spot_eq, firstTarget, Disk.spot_div hone, Disk.spot_div hsrc,
    Disk.spot_div hnpc] at htarget
  exact ⟨filled, copied, hgrows.trans hgrows', List.Subset.trans hmore hmore', htarget, hcopied,
    (numberSprites_keepsKinds hrest _).trans (Disk.writeText_keepsKinds hwritten _)⟩

/-- The directory that the files of the first sprite were copied to stays one, when nothing that the
copy left has become another kind of entry. -/
theorem directory?_firstTarget {filled copied disk : Disk} {source : Path}
    (htarget : filled.directory? (firstTarget dir) =
      some (Hex.padded 2 firstSprite :: "src" :: "npc" :: location))
    (hcopied : Disk.outcome (Disk.copyChildren source (firstTarget dir)) filled = (.ok (), copied))
    (hkinds : KeepsKinds location copied disk) (hdir : disk.directory? dir = some location) :
    disk.directory? (firstTarget dir) =
      some (Hex.padded 2 firstSprite :: "src" :: "npc" :: location) := by
  have hnpc : Path.Plain "npc" := Path.plain_of_not_mem (by decide)
  have hsrc : Path.Plain "src" := Path.plain_of_not_mem (by decide)
  have hone : Path.Plain (Hex.padded 2 firstSprite) := Path.plain_of_not_mem (by decide)
  have hin (path : Location) : (path ++ location).within location = true :=
    Location.within_append _ _
  have hcopiedTarget := (Disk.puts_of_copyChildren htarget hcopied).keeps.directory? htarget
  have hcopiedSrc := Disk.directory?_of_div hone hcopiedTarget
  have hcopiedNpc := Disk.directory?_of_div hsrc hcopiedSrc
  have hthereNpc := directory?_div_of_keepsKinds hkinds hnpc (hin []) hcopiedNpc hdir
  have hthereSrc := directory?_div_of_keepsKinds hkinds hsrc (hin ["npc"]) hcopiedSrc hthereNpc
  exact directory?_div_of_keepsKinds hkinds hone (hin ["src", "npc"]) hcopiedTarget hthereSrc

/-- The first sprite stops a second build. -/
theorem sprites_repeats {disk : Disk} {id : Identifier} {sprite : Sprite}
    {rest : List (Identifier × Sprite)} {held : Exports}
    (hentries : site.held.sprites.entries = (id, sprite) :: rest)
    (hfirst : outcome (sprites dir) site = (.ok (), after))
    (hheld : held.sprites.entries = numbered firstSprite site.held.sprites.entries)
    (hkinds : KeepsKinds (site.disk.spot dir) after.disk disk)
    (hdir : disk.directory? dir = some (site.disk.spot dir))
    (hbefore : site.disk.directory? sprite.dir = some source)
    (hafter : disk.directory? sprite.dir = some source)
    (hsource : ∀ entry ∈ disk.tree.entries, entry.1.within source = true →
      entry ∈ site.disk.tree.entries)
    (hapart : Location.Apart source (site.disk.spot dir)) (events : List Event) :
    Repeats (sprites dir) { disk, held, events } := by
  obtain ⟨filled, copied, hkeeps, hmore, htarget, hcopied, hleft⟩ := sprites_copied hentries hfirst
  replace hleft := hleft.trans hkinds
  have hin (path : Location) : (path ++ site.disk.spot dir).within (site.disk.spot dir) = true :=
    Location.within_append _ _
  have hthere := directory?_firstTarget htarget hcopied hleft hdir
  have htargetIn := hin [Hex.padded 2 firstSprite, "src", "npc"]
  have hcopy := Disk.copyChildren_again (hapart.symm.mono htargetIn).symm
    (hkeeps.directory? hbefore) htarget hcopied hafter hthere
    (fun entry hmem hin => hmore (hsource entry hmem hin)) (hleft.mono htargetIn)
  have hmarked : held.sprites.entries =
      (id, { sprite with state := .assembled firstSprite }) :: numbered (firstSprite + 1) rest := by
    rw [hheld, hentries, numbered_cons]
    rfl
  have hfits : ¬ lastSprite - firstSprite + 1 < held.sprites.size := by
    have hcount : site.held.sprites.size ≤ lastSprite := (sprites_steps hfirst).1
    rw [Registry.size, hheld, length_numbered]
    exact Nat.not_lt.2 hcount
  unfold sprites
  refine .held_bind ?_
  dsimp only
  rw [if_neg hfits]
  refine .onDisk_bind (Disk.makeDirectories_of_directory? hdir) (.bind ?_)
  rw [hmarked]
  have hindexed : Indexed id { sprite with state := .assembled firstSprite } := ⟨firstSprite, rfl⟩
  exact numberSprites_repeats hindexed rfl hthere hcopy _ _

/-- Without sprites only their table is written again. -/
theorem sprites_again {disk : Disk} {held : Exports} (hnone : held.sprites.entries = [])
    (hdir : disk.directory? dir = some location)
    (htable : disk.HoldsFile ("SpriteTable.xml" :: location)) (events : List Event) :
    ∃ table, outcome (sprites dir) { disk, held, events } = (.ok (),
      { disk := disk.withEntry ("SpriteTable.xml" :: location) (.file table), held, events }) := by
  have hplain : Path.Plain "SpriteTable.xml" := Path.plain_of_not_mem (by decide)
  have hsize : ¬ lastSprite - firstSprite + 1 < held.sprites.size := by
    rw [Registry.size, hnone]
    decide
  refine ⟨Utf8.encode (spriteTable []), ?_⟩
  unfold sprites
  rw [Work.outcome_held_bind]
  dsimp only
  rw [if_neg hsize]
  refine outcome_seq_ok.2 ⟨_, outcome_onDisk_ok.2
    ⟨disk, Disk.makeDirectories_of_directory? hdir, rfl⟩, ?_⟩
  rw [hnone]
  refine outcome_onDisk_ok.2 ⟨_, Disk.outcome_writeText_ok.2
    ⟨_, Disk.locate_div hdir hplain, ?_, rfl⟩, rfl⟩
  exact Disk.isDirectory_eq_false_of_holdsFile htable

/-- The first string stops a second build, once its file is written again in a directory that is
made anew. -/
theorem strings_repeats {name : String} {base : Path} {id : Identifier} {string : NamedString}
    {rest : List (Identifier × NamedString)} (hname : Path.Plain name)
    (hentries : site.held.strings.entries = (id, string) :: rest) (hindexed : Indexed id string)
    (hdir : site.disk.directory? (base / name) = some (name :: location))
    (hfront : ∀ parts, parts <+: base.parts →
      (parts.foldl Disk.stepTo (site.disk.start base)).within (name :: location) = false) :
    Repeats (strings (base / name)) site := by
  have hbase := Disk.directory?_of_div hname hdir
  have hexists : site.disk.pathExists (base / name) = true := by
    obtain ⟨hlocate, hdirectory⟩ := Disk.directory?_eq_some.1 hdir
    rw [Disk.pathExists, Disk.find_ok.2 ⟨hlocate, FileTree.isDirectory_iff.1 hdirectory⟩]
    rfl
  have hremoved : Disk.outcome (Disk.removeTree (base / name)) site.disk =
      (.ok (), site.disk.without (name :: location)) :=
    Disk.outcome_removeTree_ok.2 ⟨_, hdir, rfl⟩
  obtain ⟨made, hmade, hthere, hnone⟩ := Disk.makeDirectories_without hname hdir hfront
  unfold strings
  refine .disk_bind ?_
  dsimp only
  rw [if_pos hexists]
  refine .onDisk_bind hremoved (.onDisk_bind hmade (.held_bind ?_))
  rw [hentries, numberStrings]
  have hfirst : ¬ lastString < nextIn [] string.bank := by
    change ¬ lastString < 0
    omega
  dsimp only
  rw [if_neg hfirst, NamedString.assemble]
  have hplain := NamedString.plain_file string.bank (nextIn [] string.bank)
  have hfree : made.tree.isDirectory
      ((NamedString.idText string.bank (nextIn [] string.bank) ++ ".str") :: name :: location) =
        false := by
    rw [FileTree.isDirectory, hnone]
    rfl
  obtain ⟨written, hwritten⟩ : ∃ written, Disk.outcome (Disk.writeText (base / name /
      (NamedString.idText string.bank (nextIn [] string.bank) ++ ".str"))
        (string.written (nextIn [] string.bank))) made = (.ok (), written) :=
    ⟨_, Disk.outcome_writeText_ok.2 ⟨_, Disk.locate_div hthere hplain, hfree, rfl⟩⟩
  exact .bind (.onDisk_bind hwritten (.bind (.mark hindexed _ _)))

/-- In the directory of the first build its first sprite stops the second one, as long as the files
of the sprite are there. -/
theorem FirstBuilt.sprites_repeat {made : Disk} {drawn : Site Exports} {id : Identifier}
    {sprite : Sprite} {rest : List (Identifier × Sprite)} (h : FirstBuilt site dir made drawn built)
    (hheld : built.held.sprites.entries = numbered firstSprite site.held.sprites.entries)
    (hentries : site.held.sprites.entries = (id, sprite) :: rest)
    (hsource : Disk.KeepsSource ("sprite" :: site.disk.spot dir) site.disk built.disk sprite.dir)
    (events : List Event) :
    Repeats (sprites (dir / "sprite")) { disk := built.disk, held := built.held, events } := by
  have hspriteName : Path.Plain "sprite" := Path.plain_of_not_mem (by decide)
  obtain ⟨source, hbefore, hafter, hinside, hapart⟩ := hsource
  have hkeeps := (Disk.grows_of_makeDirectories h.makes).keeps
  have hspot : made.spot (dir / "sprite") = "sprite" :: site.disk.spot dir := by
    rw [Disk.spot_div hspriteName, hkeeps.spot_eq]
  have hmore : site.disk.tree.entries ⊆ made.tree.entries := by
    have hmore := Disk.makeDirectories_entries true dir site.disk
    rwa [h.makes] at hmore
  have hstart : ({ site with disk := made } : Site Exports).held.sprites.entries =
      (id, sprite) :: rest := hentries
  apply sprites_repeats hstart h.draws hheld _ _ (hkeeps.directory? hbefore) hafter _ _ events
  · rw [hspot]
    exact h.kinds
  · rw [hspot]
    exact h.spriteDir
  · intro entry hmem hwithin
    have hkept : entry ∈ site.disk.tree.inside source := by
      rw [← hinside]
      exact List.mem_filter.2 ⟨hmem, hwithin⟩
    exact hmore (List.mem_filter.1 hkept).1
  · rw [hspot]
    exact hapart

/-- Without sprites their table is written again, and then the first string stops the second
build. -/
theorem FirstBuilt.strings_repeat {made : Disk} {drawn : Site Exports} {id : Identifier}
    {string : NamedString} {rest : List (Identifier × NamedString)}
    (h : FirstBuilt site dir made drawn built) (hnone : built.held.sprites.entries = [])
    (hentries : built.held.strings.entries = (id, string) :: rest) (hindexed : Indexed id string)
    (next : Build Unit) (events : List Event) :
    Repeats (do sprites (dir / "sprite"); strings (dir / "strings"); next)
      { disk := built.disk, held := built.held, events } := by
  have hstringsName : Path.Plain "strings" := Path.plain_of_not_mem (by decide)
  obtain ⟨table, hagain⟩ := sprites_again hnone h.spriteDir h.table events
  have hkeeps : Disk.Keeps built.disk (built.disk.withEntry
      ("SpriteTable.xml" :: "sprite" :: site.disk.spot dir) (.file table)) :=
    .withEntry (List.cons_ne_nil _ _) (.inr (Disk.isDirectory_eq_false_of_holdsFile h.table))
  apply Repeats.bind_of_ok hagain rfl
  apply Repeats.bind
  exact strings_repeats hstringsName hentries hindexed (hkeeps.directory? h.stringDir) h.front

/-- Building a second time with what is held from the first build stops at the first export. The
cases are by the kind of this export; it is no actor, since actors are introduced by strings. -/
theorem run_repeats (hrooted : site.disk.Rooted) (hnamed : site.held.WellNamed)
    (h : outcome (run dir) site = (.ok (), built))
    (hsources : ∀ entry ∈ site.held.sprites.entries,
      Disk.KeepsSource ("sprite" :: site.disk.spot dir) site.disk built.disk entry.2.dir)
    (hsome : 0 < site.held.sprites.size + site.held.actors.size + site.held.strings.size)
    (events : List Event) :
    Repeats (run dir) { disk := built.disk, held := built.held, events } := by
  have hfinished := run_ok hrooted hnamed h
  obtain ⟨made, drawn, hbuilt⟩ := firstBuilt_of_run hrooted hnamed h
  unfold run
  refine .onDisk_bind (Disk.makeDirectories_of_directory? hbuilt.base) ?_
  cases hsprites : site.held.sprites.entries with
  | cons entry rest =>
    have hfirst : entry ∈ site.held.sprites.entries := by
      rw [hsprites]
      exact List.mem_cons_self
    exact .bind (hbuilt.sprites_repeat hfinished.sprites hsprites (hsources entry hfirst) events)
  | nil =>
    have hnone : built.held.sprites.entries = [] := by
      rw [hfinished.sprites, hsprites]
      rfl
    cases hstrings : site.held.strings.entries with
    | cons entry rest =>
      have hentries := hfinished.strings
      rw [hstrings, sectioned] at hentries
      exact hbuilt.strings_repeat hnone hentries ⟨_, rfl⟩ _ events
    | nil =>
      have hactors := hfinished.actors_eq_nil hstrings
      simp [Registry.size, hsprites, hstrings, hactors] at hsome

end Assembly

/-- In a loaded package no export has an index. Its first build never asks for an index that is not
there and never gives one twice: sprites and strings have theirs when actors come, and all exports
have theirs when scripts are resolved. A build that succeeded is not repeated: with the same sources
and anything to export, building again stops at an export that has its index, and all exports keep
what they have. -/
theorem Package.assemble_indexes {settings : Settings} {source : Disk} {place : Path}
    {package : Package} (hload : (Package.load settings source place).result = .ok package)
    (disk : Disk) (dir : Path) :
    package.exports.Unindexed ∧
      (∀ error, (package.assemble disk dir).1 ≠ .error (.index error)) ∧
      (∀ site, outcome (Assembly.beforeActors dir) { disk, held := package.exports } =
          (.ok (), site) → site.held.sprites.All Indexed ∧ site.held.strings.All Indexed) ∧
      (∀ scripts site, outcome (Assembly.prepare dir) { disk, held := package.exports } =
          (.ok scripts, site) → site.held.Indexed ∧ ∀ sourcePackage expression error,
            (Resolution.value site.held sourcePackage expression).result ≠
              .error (.inr error)) ∧
      ∀ built, disk.Rooted → package.assemble disk dir = (.ok (), built) →
        (∀ entry ∈ package.exports.sprites.entries,
          Disk.KeepsSource ("sprite" :: disk.spot dir) disk built.disk entry.2.dir) →
        0 < package.exports.sprites.size + package.exports.actors.size +
          package.exports.strings.size →
        ∃ kind name index again,
          Package.assemble { package with exports := built.held } built.disk dir =
            (.error (.index (.alreadyAssembled kind name index)), again) ∧
          again.held = built.held := by
  have hnamed := (Package.loaded_of_load hload).wellNamed
  refine ⟨hnamed.unindexed, fun error herror => ?_, fun site => Assembly.indexed_of_beforeActors,
    fun scripts site hsite => ⟨Assembly.indexed_of_prepare hsite, ?_⟩,
    fun built hrooted h hsources hsome => ?_⟩
  · have hnone : Work.FailsIn AssemblyFailure.NotIndex (Assembly.run dir)
        ({ disk, held := package.exports } : Site Exports) :=
      Assembly.run_failsIn hnamed.unindexed dir
    exact hnone (.index error) (package.assemble disk dir).2 (Prod.ext herror rfl) error rfl
  · intro sourcePackage expression error herror
    have htold := Resolution.value_failsIn (Assembly.indexed_of_prepare hsite) sourcePackage
      expression _ herror
    cases htold
  · have hrun : outcome (Assembly.run dir) { disk, held := package.exports } = (.ok (), built) := h
    exact Assembly.run_repeats hrooted hnamed hrun hsources hsome []

/-- A document without a document type is the tree of its tokens. -/
theorem Markup.rootOf?_of_scan {standalone : Bool} {text : List Char} {tokens : List Token}
    (hstart : afterAsides? text = some text) (hplain : Doctype.word? "<!DOCTYPE" text = none)
    (hscan : Token.scan text = some tokens) :
    rootOf? standalone text = Element.root? { standalone } tokens := by
  have hprologue : prologue? standalone text = some ({ standalone }, text) := by
    simp [prologue?, hstart, hplain]
  simp [rootOf?, hprologue, hscan]

/-- A file of such a document is read as that tree. -/
theorem Markup.read_of_scan {text : String} {tokens : List Token} {root : Element}
    (htext : readText (Utf8.encode text).toList = .ok ({}, text.toList))
    (hstart : afterAsides? text.toList = some text.toList)
    (hplain : Doctype.word? "<!DOCTYPE" text.toList = none)
    (hscan : Token.scan text.toList = some tokens)
    (hroot : Element.root? { standalone := false } tokens = some root) :
    read (Utf8.encode text) = .ok root := by
  rw [read, htext]
  simp [bind, Except.bind, rootOf?_of_scan hstart hplain hscan, hroot, pure, Except.pure]

/-! ## A package with sprites -/

namespace Sample

open Package (gatheredAll)

variable {disk : Disk} {dir : Path} {location : Location} {names : List String}
  {name kind : String}

def sheetText : String :=
  "<Sheet><PaletteList/><AnimationList/></Sheet>"

/-- A tag without attributes. -/
def tag (name : String) (isClosed : Bool) : Markup.Token :=
  .start ⟨none, name⟩ [] isClosed

/-- A sheet without palettes and animations. -/
def sheet : Markup.Element :=
  ⟨⟨none, "Sheet"⟩, [], [⟨⟨none, "PaletteList"⟩, [], []⟩, ⟨⟨none, "AnimationList"⟩, [], []⟩]⟩

def sheetTokens : List Markup.Token :=
  [tag "Sheet" false, tag "PaletteList" true, tag "AnimationList" true, .stop ⟨none, "Sheet"⟩]

theorem root_sheet (standalone : Bool) :
    Markup.Element.root? { standalone } sheetTokens = some sheet := by
  have hstart (name : String) : Markup.OpenElement.ofStart? { standalone } Markup.Scope.outermost
      ⟨none, name⟩ [] = some ⟨⟨none, name⟩, ⟨none, name⟩, [], Markup.Scope.outermost, []⟩ := rfl
  simp [Markup.Element.root?, sheetTokens, tag, Markup.Element.forest?, hstart,
    Markup.OpenElement.close, Markup.Element.add, sheet]

theorem read_sheet : Markup.read (Utf8.encode sheetText) = .ok sheet :=
  Markup.read_of_scan (ok_of_toOption (by decide +kernel)) (by decide +kernel) (by decide +kernel)
    (by decide +kernel) (root_sheet false)

/-- A sprite of a directory with that sheet. -/
def picture (dir : Path) (name : String) : Sprite where
  dir := dir / name
  palettes := []
  animations := []

theorem load_picture {name : String} (hname : Name.fault? (dir / name).name = none)
    (hsheet : disk.readFile (dir / name / LoadError.sheetName) = .ok (Utf8.encode sheetText)) :
    (Sprite.load disk (dir / name)).result = .ok (picture dir name) :=
  Sprite.load_ok.2 ⟨hname, _, _, hsheet, read_sheet, by rfl⟩

/-- The sprites of a directory that holds nothing but directories with that sheet. -/
theorem gathered_pictures (hthere : disk.isDirectory dir = true)
    (hlist : disk.list dir = .ok (names.map fun name => (name, .directory)))
    (hnames : ∀ name ∈ names, Name.fault? (dir / name).name = none ∧
      disk.readFile (dir / name / LoadError.sheetName) = .ok (Utf8.encode sheetText)) :
    gatheredAll disk dir true (fun path => do return [← Sprite.load disk path]) =
      .ok (names.map (picture dir)) := by
  rw [gatheredAll, if_pos hthere]
  refine except_bind_ok.2 ⟨_, mapError_eq_ok.2 hlist, ?_⟩
  clear hlist
  induction names with
  | nil => rfl
  | cons name names ih =>
    obtain ⟨⟨hname, hsheet⟩, hrest⟩ := List.forall_mem_cons.1 hnames
    refine Package.gathered_cons_ok.2 ?_
    rw [if_pos (by simp)]
    exact ⟨_, Report.result_bind_ok.2 ⟨_, load_picture hname hsheet, rfl⟩, _, ih hrest, rfl⟩

def atelierFile : ManifestFile where
  manifest := { name := "atelier", version := "1.0.0" }
  text := "name: atelier\nversion: 1.0.0\ndependencies: \x7b\x7d\n"
  written := written_ofList (by decide +kernel)

def atelierPath : Path :=
  ⟨.root, ["atelier"]⟩

def atelierBuild : Path :=
  ⟨.root, ["atelier", ".build"]⟩

/-- The directory of a sprite. -/
def pictureEntries (name : String) : List (Location × Entry) := [
  ([name, "sprite", "src", "atelier"], .directory),
  (["SpriteSheet.xml", name, "sprite", "src", "atelier"], .file (Utf8.encode sheetText))]

/-- A package with sprites of some names. -/
def atelier (names : List String) : Disk where
  tree := ⟨[
    (["atelier"], .directory),
    (["starpkg.yaml", "atelier"], atelierFile.entry),
    (["src", "atelier"], .directory),
    (["sprite", "src", "atelier"], .directory)] ++ names.flatMap pictureEntries⟩

/-- The package when it has sprites of some names. -/
def atelierPackage (names : List String) : Package :=
  packageWith atelierPath atelierFile.manifest
    { sprites := names.map (picture (atelierPath / "src" / "sprite")), actors := [], strings := [] }

theorem load_atelier (hdirectory : disk.directory? atelierPath = some ["atelier"])
    (hfile : disk.tree.get? ["starpkg.yaml", "atelier"] = some atelierFile.entry)
    (hothers : disk.isDirectory (atelierPath / "src" / "actor") = false ∧
      disk.isDirectory (atelierPath / "src" / "string") = false)
    (hthere : disk.directory? (atelierPath / "src" / "sprite") = some ["sprite", "src", "atelier"])
    (hlist : disk.tree.children ["sprite", "src", "atelier"] =
      names.map fun name => (name, .directory))
    (hnames : ∀ name ∈ names, Name.fault? (atelierPath / "src" / "sprite" / name).name = none ∧
      (disk.readFile (atelierPath / "src" / "sprite" / name / LoadError.sheetName)).toOption =
        some (Utf8.encode sheetText)) :
    (Package.load {} disk atelierPath).result = .ok (atelierPackage names) := by
  have hsprites : gatheredAll disk (atelierPath / "src" / "sprite") true
      (fun path => do return [← Sprite.load disk path]) =
        .ok (names.map (picture (atelierPath / "src" / "sprite"))) :=
    gathered_pictures (by rw [Disk.isDirectory, hthere]; rfl)
      (Disk.list_ok.2 ⟨_, hthere, hlist⟩) fun name hmem =>
        ⟨(hnames name hmem).1, ok_of_toOption (hnames name hmem).2⟩
  refine load_packageWith hdirectory (atelierFile.checkedManifest hdirectory hfile) rfl ?_
  exact Package.definitions_ok.2 ⟨hsprites, Package.gatheredAll_of_not_isDirectory hothers.1,
    Package.gatheredAll_of_not_isDirectory hothers.2⟩

theorem get?_picture (h : name ∈ names) :
    (atelier names).tree.get? [name, "sprite", "src", "atelier"] = some .directory ∧
      (atelier names).tree.get? ["SpriteSheet.xml", name, "sprite", "src", "atelier"] =
        some (.file (Utf8.encode sheetText)) := by
  have hlookup : (names.flatMap pictureEntries).lookup [name, "sprite", "src", "atelier"] =
        some .directory ∧
      (names.flatMap pictureEntries).lookup ["SpriteSheet.xml", name, "sprite", "src", "atelier"] =
        some (.file (Utf8.encode sheetText)) := by
    induction names with
    | nil => cases h
    | cons head rest ih =>
      by_cases hname : name = head
      · subst hname
        simp [pictureEntries, List.lookup_cons]
      · have hrest := ih ((List.mem_cons.1 h).resolve_left hname)
        simpa [pictureEntries, List.lookup_cons, beq_eq_false_iff_ne.2 hname] using hrest
  simpa [atelier, FileTree.get?, List.lookup_cons] using hlookup

theorem get?_beside_pictures (hkind : kind ≠ "sprite") :
    (atelier names).tree.get? [kind, "src", "atelier"] = none := by
  have hlookup : (names.flatMap pictureEntries).lookup [kind, "src", "atelier"] = none := by
    induction names with
    | nil => rfl
    | cons head rest ih => simpa [pictureEntries, List.lookup_cons] using ih
  rw [FileTree.get?, if_neg (List.cons_ne_nil _ _), atelier]
  simp [List.lookup_cons, beq_eq_false_iff_ne.2 hkind, hlookup, -List.lookup_eq_none_iff]

theorem children_atelier (hsorted : names.Pairwise (· < ·)) :
    (atelier names).tree.children ["sprite", "src", "atelier"] =
      names.map fun name => (name, .directory) := by
  have hpictures : (names.flatMap pictureEntries).filterMap
      (FileTree.childOf? ["sprite", "src", "atelier"]) =
        names.map fun name => (name, .directory) := by
    clear hsorted
    induction names with
    | nil => rfl
    | cons head rest ih =>
      rw [List.flatMap_cons, List.filterMap_append, ih]
      simp [pictureEntries, FileTree.childOf?]
  have hinside : (atelier names).tree.entries.filterMap
      (FileTree.childOf? ["sprite", "src", "atelier"]) =
        names.map fun name => (name, .directory) := by
    rw [atelier, List.filterMap_append, hpictures]
    rfl
  rw [FileTree.children_eq, hinside]
  refine List.mergeSort_of_pairwise (List.pairwise_map.2 ?_)
  exact hsorted.imp fun h => decide_eq_true (String.not_lt.1 (String.lt_asymm h))

theorem plain_of_proper (h : Name.fault? name = none) : Path.Plain name := by
  have hplain : Path.Plain (name ++ "") := Path.plain_of_fault? h (by decide)
  rwa [String.append_empty] at hplain

theorem name_div (h : Name.fault? name = none) (dir : Path) : (dir / name).name = name := by
  rw [Path.div_of_plain dir (plain_of_proper h)]
  simp [Path.name]

theorem load_atelier_of_sorted (hsorted : names.Pairwise (· < ·))
    (hnames : ∀ name ∈ names, Name.fault? name = none) :
    (Package.load {} (atelier names) atelierPath).result = .ok (atelierPackage names) := by
  have hsource : (atelier names).directory? (atelierPath / "src") = some ["src", "atelier"] := rfl
  have hthere : (atelier names).directory? (atelierPath / "src" / "sprite") =
      some ["sprite", "src", "atelier"] := rfl
  have hnone {kind : String} (hkind : kind ≠ "sprite") (hplain : Path.Plain kind) :
      (atelier names).isDirectory (atelierPath / "src" / kind) = false := by
    rw [Disk.isDirectory, Disk.directory?, Disk.locate_div hsource hplain]
    simp [FileTree.isDirectory, get?_beside_pictures hkind]
  have hactors : (atelier names).isDirectory (atelierPath / "src" / "actor") = false :=
    hnone (by decide) (Path.plain_of_not_mem (by decide))
  have hstrings : (atelier names).isDirectory (atelierPath / "src" / "string") = false :=
    hnone (by decide) (Path.plain_of_not_mem (by decide))
  refine load_atelier rfl rfl ⟨hactors, hstrings⟩ hthere (children_atelier hsorted)
    fun name hmem => ?_
  have hname := plain_of_proper (hnames name hmem)
  have hsheet : Path.Plain LoadError.sheetName := Path.plain_of_not_mem (by decide)
  obtain ⟨hdirectory, hfile⟩ := get?_picture hmem
  have hdir := Disk.directory?_div hthere hname (FileTree.isDirectory_iff.2 hdirectory)
  constructor
  · rw [name_div (hnames name hmem)]
    exact hnames name hmem
  · rw [Disk.readFile_div hdir hsheet hfile]
    rfl

/-- A package with one sprite. -/
def frames : Disk :=
  atelier ["frame"]

theorem load_frames :
    (Package.load {} frames atelierPath).result = .ok (atelierPackage ["frame"]) :=
  load_atelier_of_sorted (by decide) (by decide +kernel)

theorem rooted_frames : frames.Rooted where
  tree := FileTree.rooted_of_entries (by decide +kernel)
  workingDirectory := rfl

/-- What the first build leaves. -/
def framed : Site Exports :=
  ((atelierPackage ["frame"]).assemble frames atelierBuild).2

theorem assemble_frames :
    (atelierPackage ["frame"]).assemble frames atelierBuild = (.ok (), framed) :=
  eq_of_toOption (by decide +kernel)

/-- The directory of the sprite is beside the build. -/
theorem keepsSource_frames : ∀ entry ∈ (atelierPackage ["frame"]).exports.sprites.entries,
    Disk.KeepsSource ("sprite" :: frames.spot atelierBuild) frames framed.disk entry.2.dir := by
  have hdirs : ∀ entry ∈ (atelierPackage ["frame"]).exports.sprites.entries,
      entry.2.dir = atelierPath / "src" / "sprite" / "frame" := by decide +kernel
  intro entry hmem
  rw [hdirs entry hmem]
  refine ⟨["frame", "sprite", "src", "atelier"], by decide +kernel, by decide +kernel,
    by decide +kernel, by decide +kernel, by decide +kernel⟩

end Sample

/-- The second build of a package with a sprite. -/
theorem Package.assemble_indexes_frames :
    (Package.load {} Sample.frames Sample.atelierPath).result =
        .ok (Sample.atelierPackage ["frame"]) ∧
      (Sample.atelierPackage ["frame"]).exports.Unindexed ∧
      Sample.frames.Rooted ∧
      (Sample.atelierPackage ["frame"]).assemble Sample.frames Sample.atelierBuild =
        (.ok (), Sample.framed) ∧
      ∃ kind name index again,
        Package.assemble { Sample.atelierPackage ["frame"] with exports := Sample.framed.held }
            Sample.framed.disk Sample.atelierBuild =
          (.error (.index (.alreadyAssembled kind name index)), again) ∧
        again.held = Sample.framed.held := by
  obtain ⟨hunindexed, _, _, _, hagain⟩ :=
    Package.assemble_indexes Sample.load_frames Sample.frames Sample.atelierBuild
  exact ⟨Sample.load_frames, hunindexed, Sample.rooted_frames, Sample.assemble_frames,
    hagain _ Sample.rooted_frames Sample.assemble_frames Sample.keepsSource_frames
      (by decide +kernel)⟩

end ModPack
