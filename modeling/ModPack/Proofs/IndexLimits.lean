import ModPack.Proofs.FailureStages
import ModPack.Proofs.SecondBuild
import ModPack.Proofs.SparedPlaces

/-!
# Limits of index spaces

Sprites have indices from one to what two digits hold, actors from zero. A package with more of
either is refused before any of them is numbered: with too many sprites a build makes its directory
and does no more, with too many actors it leaves off after the strings. So no build gives an index
out of these spaces, whether it fails or not. Main statements: `run_inSpaces`,
`FailsAt.warranted`, `run_of_tooManySprites`, `run_of_tooManyActors` and `Package.index_limits`.
-/
namespace ModPack

/-! ## What is held, whatever the work comes to -/

namespace Work

variable {σ ε α β : Type} {p : σ → Prop} {site : Site σ}

/-- Whatever the work comes to at this site, what is held then has the property. -/
def Holds (p : σ → Prop) (work : Work σ ε α) (site : Site σ) : Prop :=
  p (outcome work site).2.held

namespace Holds

theorem pure (h : p site.held) (value : α) : Holds p (pure value : Work σ ε α) site := h

theorem throw (h : p site.held) (error : ε) : Holds p (throw error : Work σ ε α) site := h

theorem onDisk (h : p site.held) (op : Disk.Op α) (error : OsError → ε) :
    Holds p (onDisk op error) site := h

theorem ofExcept (h : p site.held) (result : Except ε α) :
    Holds p (ofExcept result : Work σ ε α) site := h

theorem ofReport {ε' : Type} (h : p site.held) (report : Report ε' α) (error : ε' → ε) :
    Holds p (ofReport report error) site := h

theorem held_bind {next : σ → Work σ ε β} (h : Holds p (next site.held) site) :
    Holds p (held >>= next) site := h

theorem disk_bind {next : Disk → Work σ ε β} (h : Holds p (next site.disk) site) :
    Holds p (disk >>= next) site := h

theorem note_bind {event : Event} {next : Unit → Work σ ε β}
    (h : Holds p (next ()) { site with events := site.events ++ [event] }) :
    Holds p (note event >>= next) site := h

theorem hold_bind {f : σ → σ} {next : Unit → Work σ ε β}
    (h : Holds p (next ()) { site with held := f site.held }) :
    Holds p (hold f >>= next) site := h

theorem bind {first : Work σ ε α} {next : α → Work σ ε β} (h : Holds p first site)
    (hnext : ∀ value between, outcome first site = (.ok value, between) → p between.held →
      Holds p (next value) between) : Holds p (first >>= next) site := by
  unfold Holds at h ⊢
  rw [outcome_bind]
  rcases hfirst : outcome first site with ⟨error | middle, between⟩
  · rwa [hfirst] at h
  · rw [hfirst] at h
    exact hnext middle between hfirst h

end Holds

end Work

open Work (outcome outcome_bind_error outcome_onDisk_ok Holds FailsIn)

/-! ## Indices in their spaces -/

/-- If the export has an index, that is one from the first to the last of a space. -/
def InSpace {α : Type} [Export α] (first last : Nat) (_ : Identifier) (item : α) : Prop :=
  ∀ index, Export.state item = .assembled index → (first : Int) ≤ index ∧ index ≤ last

theorem inSpace_of_assembled {α : Type} [Export α] {id : Identifier} {item : α}
    {first last index : Nat} (h : Export.state item = .assembled index) (hfirst : first ≤ index)
    (hlast : index ≤ last) : InSpace first last id item := by
  intro other hother
  rw [h] at hother
  cases hother
  exact ⟨Int.ofNat_le.2 hfirst, Int.ofNat_le.2 hlast⟩

/-- The indices of sprites and of actors are in their spaces. -/
structure Exports.InSpaces (exports : Exports) : Prop where
  sprites : exports.sprites.All (InSpace 1 0xFF)
  actors : exports.actors.All (InSpace 0 0xFF)

theorem Exports.Unindexed.inSpaces {exports : Exports} (h : exports.Unindexed) :
    exports.InSpaces := by
  constructor
  · intro id sprite hmem index hindex
    rw [h.sprites id sprite hmem] at hindex
    cases hindex
  · intro id actor hmem index hindex
    rw [h.actors id actor hmem] at hindex
    cases hindex

variable {site after : Site Exports} {dir target path : Path} {location : Location}
  {failure : AssemblyFailure} {p : Exports → Prop}

/-! ### Steps that leave alone what is held -/

theorem Sprite.assemble_holds (h : p site.held) (sprite : Sprite) (target : Path) (index : Int) :
    Holds p (sprite.assemble target index) site :=
  (Holds.onDisk h _ _).bind fun _ _ _ h => (Holds.onDisk h _ _).bind fun _ _ _ h => .ofExcept h _

theorem NamedString.assemble_holds (h : p site.held) (string : NamedString) (target : Path)
    (index : Int) : Holds p (string.assemble target index) site :=
  (Holds.onDisk h _ _).bind fun _ _ _ h => (Holds.ofExcept h _).bind fun _ _ _ h => .pure h _

theorem Actor.assemble_holds (h : p site.held) (actor : Actor) (target : Path) (index : Int) :
    Holds p (actor.assemble target index) site := by
  unfold Actor.assemble
  refine .disk_bind ((Holds.ofReport h _ _).bind fun _ _ _ h => ?_)
  exact (Holds.ofExcept h _).bind fun _ _ _ h => .pure h _

namespace Assembly

theorem introduction_holds (h : p site.held) (actor id : Identifier) (field : String) :
    Holds p (introduction actor field id) site := by
  unfold introduction
  refine .held_bind ?_
  split
  · exact .pure h _
  · exact .throw h _

theorem saveScripts_holds (h : p site.held) (scripts : List Script) :
    Holds p (saveScripts scripts) site := by
  induction scripts generalizing site with
  | nil => exact .pure h _
  | cons script rest ih =>
    rw [saveScripts]
    refine .held_bind ((Holds.ofReport h _ _).bind fun _ _ _ h => ?_)
    exact (Holds.onDisk h _ _).bind fun _ _ _ h => .note_bind (ih h)

/-! ### Loops -/

/-- The loop stays in the space as long as the sprites that are left do. -/
theorem numberSprites_inSpaces {index : Nat} {entries : List (Identifier × Sprite)}
    (hfirst : 1 ≤ index) (hlast : index + entries.length ≤ 256) (h : site.held.InSpaces) :
    Holds Exports.InSpaces (numberSprites target index entries) site := by
  induction entries generalizing site index with
  | nil => exact .pure h _
  | cons entry rest ih =>
    obtain ⟨id, sprite⟩ := entry
    rw [List.length_cons] at hlast
    rw [numberSprites]
    refine (Sprite.assemble_holds h _ _ _).bind fun marked between hmarked h => ?_
    obtain ⟨rfl, _⟩ := Sprite.assemble_ok hmarked
    have hspace : InSpace 1 0xFF id { sprite with state := .assembled index } :=
      inSpace_of_assembled rfl hfirst (by omega)
    refine .hold_bind (.note_bind ?_)
    exact Holds.bind (ih (by omega) (by omega) ⟨h.sprites.set hspace, h.actors⟩)
      fun _ _ _ h => .pure h _

/-- Strings are not in these spaces. -/
theorem numberStrings_inSpaces {used : List (Nat × Nat)}
    {entries : List (Identifier × NamedString)} (h : site.held.InSpaces) :
    Holds Exports.InSpaces (numberStrings target used entries) site := by
  induction entries generalizing site used with
  | nil => exact .pure h _
  | cons entry rest ih =>
    obtain ⟨id, string⟩ := entry
    rw [numberStrings]
    dsimp only
    split
    · exact (Holds.throw h _).bind fun _ _ hthrow => by cases hthrow
    · refine (NamedString.assemble_holds h _ _ _).bind fun pair _ _ h => ?_
      exact .hold_bind (.note_bind (ih ⟨h.sprites, h.actors⟩))

theorem numberActor_inSpaces {index : Nat} (hlast : index < 256) (h : site.held.InSpaces)
    (entry : Identifier × Actor) :
    Holds Exports.InSpaces (numberActor target index entry) site := by
  obtain ⟨id, actor⟩ := entry
  unfold numberActor
  refine (introduction_holds h _ _ _).bind fun _ _ _ h => ?_
  refine (introduction_holds h _ _ _).bind fun _ _ _ h => ?_
  refine (Holds.ofExcept h _).bind fun _ _ _ h => (Holds.ofExcept h _).bind fun _ _ _ h => ?_
  refine (Actor.assemble_holds h _ _ _).bind fun pair between hmarked h => ?_
  obtain ⟨marked, script⟩ := pair
  obtain ⟨rfl, _⟩ := Actor.assemble_ok hmarked
  have hspace : InSpace 0 0xFF id { actor with state := .assembled index } :=
    inSpace_of_assembled rfl (Nat.zero_le index) (by omega)
  exact .hold_bind (.note_bind (.pure ⟨h.sprites, h.actors.set hspace⟩ _))

theorem numberActors_inSpaces {index : Nat} {entries : List (Identifier × Actor)}
    (hlast : index + entries.length ≤ 256) (h : site.held.InSpaces) :
    Holds Exports.InSpaces (numberActors target index entries) site := by
  induction entries generalizing site index with
  | nil => exact .pure h _
  | cons entry rest ih =>
    rw [List.length_cons] at hlast
    rw [numberActors_cons]
    refine (numberActor_inSpaces (by omega) h entry).bind fun _ _ _ h => ?_
    exact Holds.bind (ih (by omega) h) fun _ _ _ h => .pure h _

/-! ### Steps of a build -/

theorem sprites_inSpaces (h : site.held.InSpaces) (dir : Path) :
    Holds Exports.InSpaces (sprites dir) site := by
  unfold sprites
  refine .held_bind ?_
  dsimp only
  split
  · exact (Holds.throw h _).bind fun _ _ hthrow => by cases hthrow
  next hcount =>
  refine (Holds.onDisk h _ _).bind fun _ made hmade h => ?_
  obtain ⟨_, _, rfl⟩ := outcome_onDisk_ok.1 hmade
  have hspace : firstSprite + site.held.sprites.entries.length ≤ 256 := by
    have hsize : site.held.sprites.entries.length ≤ 255 := Nat.le_of_not_lt hcount
    change 1 + _ ≤ 256
    omega
  exact (numberSprites_inSpaces le_rfl hspace h).bind fun _ _ _ h => .onDisk h _ _

theorem strings_inSpaces (h : site.held.InSpaces) (dir : Path) :
    Holds Exports.InSpaces (strings dir) site := by
  have hrest {site : Site Exports} (h : site.held.InSpaces) : Holds Exports.InSpaces (do
      onDisk (Disk.makeDirectories false dir)
      numberStrings dir [] (← Work.held).strings.entries) site :=
    (Holds.onDisk h _ _).bind fun _ _ _ h => .held_bind (numberStrings_inSpaces h)
  unfold strings
  refine .disk_bind ?_
  dsimp only
  split
  · exact (Holds.onDisk h _ _).bind fun _ _ _ h => hrest h
  · exact hrest h

theorem actors_inSpaces (h : site.held.InSpaces) (dir : Path) :
    Holds Exports.InSpaces (actors dir) site := by
  unfold actors
  refine .held_bind ?_
  dsimp only
  split
  · exact (Holds.throw h _).bind fun _ _ hthrow => by cases hthrow
  next hcount =>
  refine (Holds.onDisk h _ _).bind fun _ made hmade h => ?_
  obtain ⟨_, _, rfl⟩ := outcome_onDisk_ok.1 hmade
  have hspace : 0 + site.held.actors.entries.length ≤ 256 := by
    rw [Nat.zero_add]
    exact Nat.le_of_not_lt hcount
  refine (numberActors_inSpaces hspace h).bind fun _ _ _ h => ?_
  exact (Holds.onDisk h _ _).bind fun _ _ _ h => .pure h _

/-- However a build ends, indices are in their spaces. -/
theorem run_inSpaces (h : site.held.InSpaces) (dir : Path) :
    Holds Exports.InSpaces (run dir) site := by
  unfold run
  refine (Holds.onDisk h _ _).bind fun _ _ _ h => (sprites_inSpaces h _).bind fun _ _ _ h => ?_
  refine (strings_inSpaces h _).bind fun _ _ _ h => (actors_inSpaces h _).bind fun _ _ _ h => ?_
  exact saveScripts_holds h _

/-! ## Too many sprites or actors -/

/-- It is told of too many sprites, or of too many actors, only when there are too many. -/
structure Warranted (exports : Exports) (failure : AssemblyFailure) : Prop where
  sprites : ∀ count, failure = .refused (.tooManySprites count) → 255 < exports.sprites.size
  actors : ∀ count, failure = .refused (.tooManyActors count) → 256 < exports.actors.size

variable {exports : Exports}

theorem warranted_system (cause : OsError) : Warranted exports (.system cause) :=
  ⟨nofun, nofun⟩

theorem warranted_index (error : IndexError) : Warranted exports (.index error) :=
  ⟨nofun, nofun⟩

theorem marks_warranted {α : Type} [Export α] (item : α) : Marks (Warranted exports) item :=
  marks_of_index warranted_index item

theorem sprites_warranted (dir : Path) (site : Site Exports) :
    FailsIn (Warranted site.held) (sprites dir) site := by
  unfold sprites
  refine .held_bind ?_
  dsimp only
  split
  · next hcount =>
    exact (refuse_failsIn ⟨fun _ _ => hcount, nofun⟩ _).bind fun _ _ h => by cases h
  · refine (FailsIn.onDisk warranted_system _).bind fun _ _ _ => ?_
    refine (numberSprites_failsIn warranted_system (fun _ _ => marks_warranted _) _ _ _).bind
      fun _ _ _ => ?_
    exact .onDisk warranted_system _

theorem beforeNumbering_warranted (dir : Path) (site : Site Exports) :
    FailsIn (Warranted site.held) (beforeNumbering dir) site := by
  have hbefore : FailsIn (Warranted site.held) (beforeActors dir) site := by
    unfold beforeActors
    refine (FailsIn.onDisk warranted_system _).bind fun _ made hmade => ?_
    obtain ⟨_, _, rfl⟩ := outcome_onDisk_ok.1 hmade
    refine FailsIn.bind (by exact sprites_warranted _ _) fun _ _ _ => ?_
    exact strings_failsIn warranted_system (fun _ _ => ⟨nofun, nofun⟩)
      (fun _ _ => marks_warranted _) _
  refine hbefore.bind fun _ between hrun => .held_bind ?_
  obtain ⟨hsame, _⟩ := beforeActors_ok hrun
  dsimp only
  rw [hsame]
  split
  · next hcount =>
    exact (refuse_failsIn ⟨nofun, fun _ _ => hcount⟩ _).bind fun _ _ h => by cases h
  · exact (FailsIn.onDisk warranted_system _).bind fun _ _ _ => .pure _ _

theorem numberActor_warranted (index : Nat) (entry : Identifier × Actor) (site : Site Exports) :
    FailsIn (Warranted exports) (numberActor target index entry) site := by
  have hmissing : ∀ actor field id,
      Warranted exports (.refused (.missingString actor field id)) := fun _ _ _ => ⟨nofun, nofun⟩
  exact numberActor_failsIn (introduction_failsIn hmissing _ _ _ _)
    (introduction_failsIn hmissing _ _ _ _) (fun _ _ _ => index_failsIn warranted_index _ _)
    (Actor.assemble_failsIn (marks_warranted _) _ _ _ fun _ _ => ⟨nofun, nofun⟩)

theorem saveScript_warranted (script : Script) (site : Site Exports) :
    FailsIn (Warranted exports) (saveScript script) site := by
  unfold saveScript
  refine .held_bind (FailsIn.bind (.ofReport (fun cause _ => ?_) _) fun _ _ _ => ?_)
  · cases cause <;> exact ⟨nofun, nofun⟩
  · exact (FailsIn.onDisk warranted_system _).bind fun _ _ _ => fun _ _ h => by cases h

/-- At every stage but the first one, builds fail for other reasons. -/
theorem FailsAt.warranted {stage : Stage} (h : FailsAt dir site stage failure after) :
    Warranted site.held failure := by
  cases h with
  | before hrun => exact beforeNumbering_warranted _ _ _ _ hrun
  | numbering _ _ _ hrun => exact numberActor_warranted _ _ _ _ _ hrun
  | table _ hrun => exact FailsIn.onDisk warranted_system _ _ _ hrun
  | @resolving _ _ _ _ _ cause => cases cause <;> exact ⟨nofun, nofun⟩
  | saving _ _ _ _ hrun => exact saveScript_warranted _ _ _ _ hrun

/-- With too many sprites a build makes its directory and does no more. -/
theorem run_of_tooManySprites {made : Disk}
    (hmade : Disk.outcome (Disk.makeDirectories true dir) site.disk = (.ok (), made))
    (hcount : 255 < site.held.sprites.size) :
    outcome (run dir) site =
      (.error (.refused (.tooManySprites site.held.sprites.size)), { site with disk := made }) := by
  have hlimit : lastSprite - firstSprite + 1 < site.held.sprites.size := hcount
  have hstop : outcome (sprites (dir / "sprite")) { site with disk := made } =
      (.error (.refused (.tooManySprites site.held.sprites.size)), { site with disk := made }) := by
    unfold sprites
    rw [Work.outcome_held_bind]
    dsimp only
    rw [if_pos hlimit]
    rfl
  unfold run
  exact outcome_bind_error.2 (.inr ⟨(), _, outcome_onDisk_ok.2 ⟨made, hmade, rfl⟩,
    outcome_bind_error.2 (.inl hstop)⟩)

/-- With too many actors it leaves off after the strings. -/
theorem run_of_tooManyActors {staged : Site Exports}
    (hbefore : outcome (beforeActors dir) site = (.ok (), staged))
    (hcount : 256 < site.held.actors.size) :
    outcome (run dir) site =
      (.error (.refused (.tooManyActors site.held.actors.size)), staged) := by
  obtain ⟨hsame, _⟩ := beforeActors_ok hbefore
  have hlimit : lastActor + 1 < site.held.actors.size := hcount
  refine (FailsAt.before ?_).run
  refine outcome_bind_error.2 (.inr ⟨(), staged, hbefore, ?_⟩)
  rw [Work.outcome_held_bind, hsame]
  dsimp only
  rw [if_pos hlimit]
  rfl

end Assembly

namespace Package

open Assembly (beforeActors)

/-- A loaded package that is assembled into a directory that is there or can be made is refused for
too many sprites exactly if it has more than 255; then nothing has an index, and all below the
directory is left alone. Once sprites and strings are assembled, it is refused for too many actors
exactly if it has more than 256; then no actor has an index, and the table of actors is left alone.
However the build ends, indices are in their spaces. -/
theorem index_limits {settings : Settings} {source : Disk} {place : Path} {package : Package}
    (hload : (load settings source place).result = .ok package) (disk : Disk) (dir : Path) :
    (∀ made, Disk.outcome (Disk.makeDirectories true dir) disk = (.ok (), made) →
      ((∃ count, (package.assemble disk dir).1 = .error (.refused (.tooManySprites count))) ↔
        255 < package.exports.sprites.size) ∧
      (255 < package.exports.sprites.size →
        (package.assemble disk dir).2.held = package.exports ∧ package.exports.Unindexed ∧
        ∀ location : Location, location.within (disk.spot dir) = true →
          location ≠ disk.spot dir →
            Disk.LeftAlone dir location disk (package.assemble disk dir).2.disk)) ∧
    (∀ staged, outcome (beforeActors dir) { disk, held := package.exports } = (.ok (), staged) →
      ((∃ count, (package.assemble disk dir).1 = .error (.refused (.tooManyActors count))) ↔
        256 < package.exports.actors.size) ∧
      (256 < package.exports.actors.size →
        (package.assemble disk dir).2.held.actors = package.exports.actors ∧
        package.exports.actors.All Unindexed ∧
        Disk.LeftAlone dir ("ActorTypes.xml" :: "battle" :: disk.spot dir) disk
          (package.assemble disk dir).2.disk)) ∧
    (package.assemble disk dir).2.held.InSpaces := by
  have hunindexed := (loaded_of_load hload).wellNamed.unindexed
  have hrun : package.assemble disk dir =
      outcome (Assembly.run dir) { disk, held := package.exports } := rfl
  have hwarranted {failure : AssemblyFailure}
      (h : (package.assemble disk dir).1 = .error failure) :
      Assembly.Warranted package.exports failure := by
    obtain ⟨_, hfails⟩ := Assembly.run_error (Prod.ext (hrun ▸ h) rfl)
    exact hfails.warranted
  refine ⟨fun made hmade => ?_, fun staged hstaged => ?_,
    Assembly.run_inSpaces hunindexed.inSpaces dir⟩
  · have hstop (hcount : 255 < package.exports.sprites.size) : outcome (Assembly.run dir)
        { disk, held := package.exports } = _ := Assembly.run_of_tooManySprites hmade hcount
    refine ⟨⟨fun ⟨count, h⟩ => (hwarranted h).sprites count rfl, fun hcount => ?_⟩,
      fun hcount => ?_⟩
    · exact ⟨_, by rw [hrun, hstop hcount]⟩
    · rw [hrun, hstop hcount]
      exact ⟨rfl, hunindexed, fun location hbelow hne =>
        Disk.leftAlone_of_makeDirectories hmade hbelow hne⟩
  · have hstop := Assembly.run_of_tooManyActors hstaged
    refine ⟨⟨fun ⟨count, h⟩ => (hwarranted h).actors count rfl, fun hcount => ?_⟩,
      fun hcount => ?_⟩
    · exact ⟨_, by rw [hrun, hstop hcount]⟩
    · rw [hrun, hstop hcount]
      obtain ⟨hsame, _⟩ := Assembly.beforeActors_ok hstaged
      have hbelow : Location.within ("ActorTypes.xml" :: "battle" :: disk.spot dir)
          (disk.spot dir) = true :=
        Location.within_append ["ActorTypes.xml", "battle"] _
      have hne : "ActorTypes.xml" :: "battle" :: disk.spot dir ≠ disk.spot dir := by
        intro heq
        have hlength := congrArg List.length heq
        rw [List.length_cons, List.length_cons] at hlength
        omega
      have hbattle : Location.within ("ActorTypes.xml" :: "battle" :: disk.spot dir)
          ("battle" :: disk.spot dir) = true := Location.within_cons _ _
      obtain ⟨hsprites, hstrings⟩ := Assembly.outside_of_battle hbattle
      exact ⟨hsame, hunindexed.actors,
        Assembly.leftAlone_of_beforeActors hbelow hne hsprites hstrings hstaged⟩

end Package

/-- Items of different names all have a place of their own. -/
theorem Package.length_le_size_registered {α : Type} [Export α] (package : String)
    {items : List α} (h : (items.map Export.name).Nodup) (registry : Registry α) :
    items.length ≤ (registered package items registry).size := by
  have hkeys : (items.map Export.name).map (Identifier.mk package) ⊆
      (registered package items registry).keys := by
    intro id hid
    obtain ⟨_, hname, rfl⟩ := List.mem_map.1 hid
    obtain ⟨item, hitem, rfl⟩ := List.mem_map.1 hname
    have hget := get?_registered package items registry ⟨package, Export.name item⟩
    cases hlast : lastNamed package items ⟨package, Export.name item⟩ with
    | none =>
      have hnone := List.getLast?_eq_none_iff.1 hlast
      exact absurd (List.filter_eq_nil_iff.1 hnone item hitem) (by simp)
    | some last =>
      rw [hlast, Option.some_or] at hget
      have hall : (registered package items registry).All fun id _ =>
          id ∈ (registered package items registry).keys :=
        fun _ _ hmem => List.mem_map.2 ⟨_, hmem, rfl⟩
      exact hall.of_get? hget
  have hnodup : ((items.map Export.name).map (Identifier.mk package)).Nodup :=
    h.map fun _ _ heq => (Identifier.mk.inj heq).2
  simpa [Registry.size, Registry.keys] using hnodup.length_le_of_subset hkeys

/-! ## A package with too many sprites -/

namespace Sample

variable {names : List String}

/-- All its sprites are registered. -/
theorem length_le_size_atelier (hsorted : names.Pairwise (· < ·))
    (hnames : ∀ name ∈ names, Name.fault? name = none) :
    names.length ≤ (atelierPackage names).exports.sprites.size := by
  have hlabels :
      (names.map (picture (atelierPath / "src" / "sprite"))).map Export.name = names := by
    have hlabel : ∀ name ∈ names,
        (Export.name ∘ picture (atelierPath / "src" / "sprite")) name = id name :=
      fun name hmem => name_div (hnames name hmem) _
    rw [List.map_map, List.map_congr_left hlabel, List.map_id]
  have hnodup : names.Nodup := by
    refine hsorted.imp fun {first second} hlt heq => ?_
    rw [heq] at hlt
    exact String.lt_irrefl _ hlt
  rw [← hlabels] at hnodup
  have hsize := Package.length_le_size_registered "atelier" hnodup ∅
  rwa [List.length_map] at hsize

def alphabet : List Char :=
  ['a', 'b', 'c', 'd', 'e', 'f', 'g', 'h', 'i', 'j', 'k', 'l', 'm', 'n', 'o', 'p']

/-- One name more than sprites can have indices. -/
def crowd : List String :=
  alphabet.flatMap fun first => alphabet.map fun second => String.ofList [first, second]

theorem length_crowd : crowd.length = 256 := by
  decide +kernel

theorem sorted_crowd : crowd.Pairwise (· < ·) := by
  have hchain : crowd.IsChain (· < ·) := by decide +kernel
  exact List.isChain_iff_pairwise.1 hchain

theorem proper_crowd : ∀ name ∈ crowd, Name.fault? name = none := by
  decide +kernel

theorem load_crowd :
    (Package.load {} (atelier crowd) atelierPath).result = .ok (atelierPackage crowd) :=
  load_atelier_of_sorted sorted_crowd proper_crowd

theorem lt_size_crowd : 255 < (atelierPackage crowd).exports.sprites.size := by
  have hsize := length_le_size_atelier sorted_crowd proper_crowd
  rw [length_crowd] at hsize
  exact hsize

def crowdedSite : Site Exports where
  disk := atelier crowd
  held := (atelierPackage crowd).exports

/-- What a build of that package comes to. -/
def crowdedBuild (dir : Path) : Except AssemblyFailure Unit × Site Exports :=
  (atelierPackage crowd).assemble (atelier crowd) dir

/-- A directory that is not there, by way of one below it. -/
def detour : Path :=
  ⟨.root, ["out", "x", ".."]⟩

def framesSite : Site Exports where
  disk := frames
  held := (atelierPackage ["frame"]).exports

end Sample

namespace Package

open Assembly (beforeActors)
open Sample (atelier atelierPath atelierBuild atelierPackage crowd crowdedBuild crowdedSite detour
  frames framesSite)

/-- With a crowd of sprites the build is refused, nothing has an index and nothing is copied; one
sprite and no actors are not too many. -/
theorem index_limits_crowd :
    (load {} (atelier crowd) atelierPath).result = .ok (atelierPackage crowd) ∧
      (∃ count, (crowdedBuild atelierBuild).1 = .error (.refused (.tooManySprites count))) ∧
      (crowdedBuild atelierBuild).2.held.Unindexed ∧
      (crowdedBuild atelierBuild).2.disk.tree.get? ["sprite", ".build", "atelier"] = none ∧
      (load {} frames atelierPath).result = .ok (atelierPackage ["frame"]) ∧
      (∃ staged, outcome (beforeActors atelierBuild) framesSite = (.ok (), staged)) ∧
      ¬ ∃ count, ((atelierPackage ["frame"]).assemble frames atelierBuild).1 =
        .error (.refused (.tooManyActors count)) := by
  have hmade := Sample.eq_of_toOption
    (show (Disk.outcome (Disk.makeDirectories true atelierBuild) (atelier crowd)).1.toOption =
      some () by decide +kernel)
  have hstaged := Sample.eq_of_toOption
    (show (outcome (beforeActors atelierBuild) framesSite).1.toOption = some () by decide +kernel)
  obtain ⟨hsprites, _⟩ := index_limits Sample.load_crowd (atelier crowd) atelierBuild
  obtain ⟨_, hactors, _⟩ := index_limits Sample.load_frames frames atelierBuild
  obtain ⟨hrefused, hleft⟩ := hsprites _ hmade
  obtain ⟨hheld, hunindexed, hbelow⟩ := hleft Sample.lt_size_crowd
  obtain ⟨hfew, _⟩ := hactors _ hstaged
  have hplace : (crowdedBuild atelierBuild).2.disk.tree.get? ["sprite", ".build", "atelier"] =
      (atelier crowd).tree.get? ["sprite", ".build", "atelier"] :=
    (hbelow _ (by decide +kernel) (by decide +kernel)).same (.inr (by decide +kernel))
  refine ⟨Sample.load_crowd, hrefused.2 Sample.lt_size_crowd, ?_, ?_, Sample.load_frames,
    ⟨_, hstaged⟩, ?_⟩
  · rw [crowdedBuild, hheld]
    exact hunindexed
  · rw [hplace]
    decide +kernel
  · rw [hfew]
    decide +kernel

/-- When the directory of the build is not there and the path to it leads by way of one below it,
that one is made although there are too many sprites. -/
theorem assemble_crowd_makes :
    (load {} (atelier crowd) atelierPath).result = .ok (atelierPackage crowd) ∧
      (∃ made, Disk.outcome (Disk.makeDirectories true detour) (atelier crowd) = (.ok (), made)) ∧
      255 < (atelierPackage crowd).exports.sprites.size ∧
      (∃ count, (crowdedBuild detour).1 = .error (.refused (.tooManySprites count))) ∧
      (atelier crowd).spot detour = ["out"] ∧
      (atelier crowd).tree.get? ["x", "out"] = none ∧
      (crowdedBuild detour).2.disk.tree.get? ["x", "out"] = some .directory := by
  have hmade := Sample.eq_of_toOption
    (show (Disk.outcome (Disk.makeDirectories true detour) (atelier crowd)).1.toOption =
      some () by decide +kernel)
  have hbuild : outcome (Assembly.run detour) crowdedSite = _ :=
    Assembly.run_of_tooManySprites hmade Sample.lt_size_crowd
  refine ⟨Sample.load_crowd, ⟨_, hmade⟩, Sample.lt_size_crowd, ⟨_, congrArg Prod.fst hbuild⟩,
    rfl, ?_, ?_⟩
  · decide +kernel
  · change (outcome (Assembly.run detour) crowdedSite).2.disk.tree.get? _ = _
    rw [hbuild]
    decide +kernel

end Package

end ModPack
