import ModPack.Proofs.AssemblySteps
import ModPack.Proofs.Introductions

/-!
# Indices are given before they are read

In the first build of a loaded package nothing has an index yet, every loop comes to each of its
exports once, and indices are read of exports that have theirs: strings have theirs before the
actors that they introduce, and all exports before scripts are resolved. Main statements:
`prepare_ok`, `value_failsIn`, `resolve_failure` and `run_failsIn`.
-/
namespace ModPack

open Work (outcome outcome_bind_ok outcome_seq_ok outcome_onDisk_ok outcome_ofExcept_ok
  outcome_ofReport_ok FailsIn)

/-- The export has its index. -/
def Indexed {α : Type} [Export α] (_ : Identifier) (item : α) : Prop :=
  ∃ index, Export.state item = .assembled index

/-- The export has no index yet. -/
def Unindexed {α : Type} [Export α] (_ : Identifier) (item : α) : Prop :=
  Export.state item = .unassembled

/-- No export has an index yet. -/
structure Exports.Unindexed (exports : Exports) : Prop where
  sprites : exports.sprites.All ModPack.Unindexed
  actors : exports.actors.All ModPack.Unindexed
  strings : exports.strings.All ModPack.Unindexed

theorem Exports.WellNamed.unindexed {exports : Exports} (h : exports.WellNamed) :
    exports.Unindexed :=
  ⟨fun id item hmem => (h.sprites id item hmem).unmarked,
    fun id item hmem => (h.actors id item hmem).unmarked,
    fun id item hmem => (h.strings id item hmem).unmarked⟩

/-- All exports have their indices. -/
structure Exports.Indexed (exports : Exports) : Prop where
  sprites : exports.sprites.All ModPack.Indexed
  actors : exports.actors.All ModPack.Indexed
  strings : exports.strings.All ModPack.Indexed

theorem Indexed.index {α : Type} [Export α] {id : Identifier} {item : α} (h : Indexed id item) :
    ∃ index, Export.index item = .ok index := by
  obtain ⟨index, hstate⟩ := h
  exact ⟨index, by rw [Export.index, hstate]⟩

theorem Indexed.hexId {id : Identifier} {string : NamedString} (h : Indexed id string) :
    ∃ word, string.hexId = .ok word := by
  obtain ⟨index, hindex⟩ := h.index
  exact ⟨_, by rw [NamedString.hexId, hindex]; rfl⟩

namespace Assembly

theorem indexed_of_numbered {α : Type} [Export α] [LawfulExport α] {registry : Registry α}
    {first : Nat} {entries : List (Identifier × α)}
    (h : registry.entries = numbered first entries) :
    registry.All Indexed := by
  intro id item hmem
  rw [h, numbered] at hmem
  obtain ⟨⟨⟨_, before⟩, index⟩, _, heq⟩ := List.mem_map.1 hmem
  cases heq
  exact ⟨_, LawfulExport.state_withState _ _⟩

theorem indexed_of_sectioned {registry : Registry NamedString} {used : List (Nat × Nat)}
    {entries : List (Identifier × NamedString)} (h : registry.entries = sectioned used entries) :
    registry.All Indexed := by
  intro id string hmem
  rw [h] at hmem
  obtain ⟨before, _, heq, _⟩ := of_mem_sectioned hmem
  exact ⟨string.number, by rw [heq]; rfl⟩

end Assembly

/-! ## Indices that are read -/

namespace Resolution

variable {exports : Exports} {source : String} {path : Path} {place : Place} {id : Identifier}

/-- The failure is not about an index. -/
def Told (failure : Unresolved ⊕ IndexError) : Prop :=
  failure.isLeft = true

theorem identifier_failsIn (source text : String) :
    Report.FailsIn Told (identifier source text) :=
  Report.FailsIn.mapError_any fun _ => rfl

theorem lookUp_failsIn {α : Type} {kind : ExportKind} {registry : Registry α} :
    Report.FailsIn Told (lookUp kind registry id) := by
  unfold lookUp
  split
  · exact .pure _
  · exact .fail rfl

theorem lookUp_ok {α : Type} {kind : ExportKind} {registry : Registry α} {item : α} :
    (lookUp kind registry id).result = .ok item ↔ registry.get? id = some item := by
  unfold lookUp
  cases registry.get? id <;> simp

theorem indexOf_failsIn {α : Type} [Export α] {item : α} (h : Indexed id item) :
    Report.FailsIn Told (indexOf item) := by
  obtain ⟨index, hindex⟩ := h.index
  intro failure hfailure
  rw [indexOf, hindex] at hfailure
  cases hfailure

theorem animation_failsIn (id : Identifier) (sprite : Sprite) (name : String) :
    Report.FailsIn Told (animation id sprite name) := by
  unfold animation
  split
  · exact .pure _
  · exact .fail rfl

theorem palette_failsIn (id : Identifier) (sprite : Sprite) (name : String) :
    Report.FailsIn Told (palette id sprite name) := by
  unfold palette
  split
  · exact .pure _
  · exact .fail rfl

/-- Looking up an export with its index, and then what needs the index. -/
theorem lookUp_bind_failsIn {α β : Type} [Export α] {kind : ExportKind} {registry : Registry α}
    (h : registry.All Indexed) {next : α → Value β}
    (hnext : ∀ item, Indexed id item → Report.FailsIn Told (next item)) :
    Report.FailsIn Told (lookUp kind registry id >>= next) :=
  lookUp_failsIn.bind_of_ok fun item hitem => hnext item (h.of_get? (lookUp_ok.1 hitem))

/-- Once all exports have their indices, no expression fails for want of one. -/
theorem value_failsIn (h : exports.Indexed) (source : String) (expression : Expression) :
    Report.FailsIn Told (value exports source expression) := by
  unfold value
  split
  · refine (identifier_failsIn _ _).bind fun id =>
      lookUp_bind_failsIn h.sprites fun sprite hindex => ?_
    exact (indexOf_failsIn hindex).bind fun _ => .pure _
  · refine (identifier_failsIn _ _).bind fun id =>
      lookUp_bind_failsIn h.sprites fun sprite hindex => ?_
    refine (animation_failsIn _ _ _).bind fun slot => ?_
    exact (indexOf_failsIn hindex).bind fun _ => .pure _
  · refine (identifier_failsIn _ _).bind fun id =>
      lookUp_bind_failsIn h.sprites fun sprite hindex => ?_
    refine (animation_failsIn _ _ _).bind fun slot => (palette_failsIn _ _ _).bind fun _ => ?_
    exact (indexOf_failsIn hindex).bind fun _ => .pure _
  · refine (identifier_failsIn _ _).bind fun id =>
      lookUp_bind_failsIn h.strings fun string hindex => ?_
    obtain ⟨word, hword⟩ := hindex.hexId
    refine Report.FailsIn.bind (fun failure hfailure => ?_) fun _ => .pure _
    rw [hword] at hfailure
    cases hfailure
  · refine (identifier_failsIn _ _).bind fun id =>
      lookUp_bind_failsIn h.actors fun actor hindex => ?_
    exact (indexOf_failsIn hindex).bind fun _ => .pure _
  · exact .pure _

/-! ## What stops resolving -/

variable {failure : ResolveFailure} {cause : Unresolved ⊕ IndexError}

/-- A piece of a line fails when it is an expression without a value. -/
theorem segment_error {piece : Segment}
    (h : (segment exports place piece).result = .error failure) :
    ∃ expression cause, piece = .expression expression ∧
      (value exports place.source expression).result = .error cause ∧
      place.failure cause = failure := by
  cases piece with
  | plain c => cases h
  | expression expression =>
    rw [segment] at h
    rcases Report.result_bind_error.1 h with hvalue | ⟨word, _, hword⟩
    · obtain ⟨cause, hcause, hfailure⟩ := Report.result_mapError_error.1 hvalue
      exact ⟨expression, cause, rfl, hcause, hfailure⟩
    · cases word with
      | some word => cases hword
      | none => cases hword

theorem segments_error {pieces : List Segment}
    (h : (segments exports place pieces).result = .error failure) :
    ∃ expression cause, .expression expression ∈ pieces ∧
      (value exports place.source expression).result = .error cause ∧
      place.failure cause = failure := by
  induction pieces with
  | nil => cases h
  | cons piece pieces ih =>
    rw [segments] at h
    rcases Report.result_bind_error.1 h with hpiece | ⟨_, _, h⟩
    · obtain ⟨expression, cause, rfl, hcause⟩ := segment_error hpiece
      exact ⟨expression, cause, List.mem_cons_self, hcause⟩
    rcases Report.result_bind_error.1 h with hrest | ⟨_, _, hlast⟩
    · obtain ⟨expression, cause, hmem, hcause⟩ := ih hrest
      exact ⟨expression, cause, List.mem_cons_of_mem _ hmem, hcause⟩
    · cases hlast

/-- The failure is that of an expression in one of the lines, which has no value. -/
def StoppedIn (exports : Exports) (path : Path) (source : String) (all : List Line)
    (failure : ResolveFailure) : Prop :=
  ∃ stopped ∈ all, ∃ expression cause,
    .expression expression ∈ Expression.segments stopped.text.toList ∧
    (value exports source expression).result = .error cause ∧
    Place.failure ⟨path, stopped.number, source⟩ cause = failure

theorem StoppedIn.mono {all more : List Line} (h : StoppedIn exports path source all failure)
    (hsubset : all ⊆ more) : StoppedIn exports path source more failure := by
  obtain ⟨stopped, hmem, hrest⟩ := h
  exact ⟨stopped, hsubset hmem, hrest⟩

theorem line_error {first : Line}
    (h : (line exports path source first).result = .error failure) :
    StoppedIn exports path source [first] failure := by
  rcases Report.result_bind_error.1 h with hsegments | ⟨_, _, hlast⟩
  · obtain ⟨expression, cause, hrest⟩ := segments_error hsegments
    exact ⟨first, List.mem_singleton.2 rfl, expression, cause, hrest⟩
  · cases hlast

theorem lines_error {all : List Line}
    (h : (lines exports path source all).result = .error failure) :
    StoppedIn exports path source all failure := by
  induction all with
  | nil => cases h
  | cons first rest ih =>
    rw [lines] at h
    rcases Report.result_bind_error.1 h with hfirst | ⟨_, _, h⟩
    · exact (line_error hfirst).mono (by simp)
    rcases Report.result_bind_error.1 h with hrest | ⟨_, _, hlast⟩
    · exact (ih hrest).mono (List.subset_cons_self _ _)
    · cases hlast

theorem block_error {first : Block}
    (h : (block exports path source first).result = .error failure) :
    StoppedIn exports path source first.lines failure := by
  rcases Report.result_bind_error.1 h with hheader | ⟨_, _, h⟩
  · exact (line_error hheader).mono (by simp [Block.lines])
  rcases Report.result_bind_error.1 h with hrest | ⟨_, _, hlast⟩
  · exact (lines_error hrest).mono (by simp [Block.lines])
  · cases hlast

/-- The induction is on the blocks; the first one that fails is told. -/
theorem blocks_failure {all : List Block}
    (h : (blocks exports path source all).2.2 = some failure) :
    StoppedIn exports path source (all.flatMap Block.lines) failure := by
  induction all with
  | nil => cases h
  | cons first rest ih =>
    rw [blocks] at h
    split at h
    · next hfirst =>
      cases h
      have hblock : (block exports path source first).result = .error failure := by rw [hfirst]
      exact (block_error hblock).mono (by simp)
    · exact (ih h).mono (by simp)

/-- What stops a script is an expression without a value in one of its lines. -/
theorem resolve_failure {script : Script}
    (h : (script.resolve exports).failure = some failure) :
    StoppedIn exports script.path script.package script.lines failure :=
  blocks_failure h

/-- Once all exports have their indices, no script is stopped for want of one. -/
theorem resolve_failure_of_indexed (h : exports.Indexed) {script : Script}
    (hfailure : (script.resolve exports).failure = some failure) (error : IndexError) :
    failure ≠ .index error := by
  obtain ⟨_, _, expression, cause, _, hcause, rfl⟩ := resolve_failure hfailure
  have htold := value_failsIn h script.package expression cause hcause
  cases cause with
  | inl problem => exact nofun
  | inr cause => cases htold

end Resolution

/-! ## Assembling -/

/-- What stops the assembly is no index. -/
def AssemblyFailure.NotIndex (failure : AssemblyFailure) : Prop :=
  ∀ error, failure ≠ .index error

variable {site after : Site Exports} {dir target : Path} {errors : AssemblyFailure → Prop}

namespace Assembly

/-- Among the errors are those of the disk and those about numbers of exports. -/
structure Permits (errors : AssemblyFailure → Prop) : Prop where
  system : ∀ cause, errors (.system cause)
  sprites : ∀ count, errors (.refused (.tooManySprites count))
  strings : ∀ bank id, errors (.refused (.tooManyStrings bank id))
  actors : ∀ count, errors (.refused (.tooManyActors count))

theorem permits_notIndex : Permits AssemblyFailure.NotIndex where
  system := fun _ _ h => by cases h
  sprites := fun _ _ h => by cases h
  strings := fun _ _ _ h => by cases h
  actors := fun _ _ h => by cases h

/-- Whatever stops giving the export an index is among the errors. -/
def Marks {α : Type} [Export α] (errors : AssemblyFailure → Prop) (item : α) : Prop :=
  ∀ (index : Int) (site : Site Exports), FailsIn errors (mark item index) site

theorem marks_of_unassembled {α : Type} [Export α] {item : α}
    (h : Export.state item = .unassembled) : Marks errors item := by
  refine fun index site => .ofExcept (fun error herror => ?_) site
  rw [Export.mark, h] at herror
  cases herror

theorem index_failsIn {α : Type} (h : ∀ error, errors (.index error))
    (result : Except IndexError α) (site : Site Exports) :
    FailsIn errors (Work.ofExcept (result.mapError .index)) site := by
  refine .ofExcept (fun failure hfailure => ?_) site
  obtain ⟨error, _, rfl⟩ := mapError_eq_error.1 hfailure
  exact h error

theorem marks_of_index {α : Type} [Export α] (h : ∀ error, errors (.index error)) (item : α) :
    Marks errors item :=
  fun index site => index_failsIn h (Export.mark item index) site

theorem onDisk_failsIn {α : Type} (h : Permits errors) (op : Disk.Op α) (site : Site Exports) :
    FailsIn errors (Work.onDisk op .system) site :=
  .onDisk h.system site

theorem refuse_failsIn {α : Type} {error : AssemblyError} (h : errors (.refused error))
    (site : Site Exports) : FailsIn errors (refuse error : Build α) site :=
  .throw h site

end Assembly

open Assembly (Permits Marks marks_of_unassembled permits_notIndex onDisk_failsIn)

theorem Sprite.assemble_failsIn (hsystem : ∀ cause, errors (.system cause)) {sprite : Sprite}
    (h : Marks errors sprite) (target : Path) (index : Int) (site : Site Exports) :
    FailsIn errors (sprite.assemble target index) site :=
  (FailsIn.onDisk hsystem _).bind fun _ _ _ => (FailsIn.onDisk hsystem _).bind fun _ _ _ => h _ _

theorem NamedString.assemble_failsIn (hsystem : ∀ cause, errors (.system cause))
    {string : NamedString} (h : Marks errors string) (target : Path) (index : Int)
    (site : Site Exports) : FailsIn errors (string.assemble target index) site :=
  (FailsIn.onDisk hsystem _).bind fun _ _ _ => (h _ _).bind fun _ _ _ => .pure _ _

theorem Actor.assemble_failsIn {actor : Actor} (h : Marks errors actor) (target : Path)
    (index : Int) (site : Site Exports)
    (hscript : ∀ error, (Script.load site.disk actor.sourcePackage actor.scriptPath).result =
      .error error → errors (.script error)) :
    FailsIn errors (actor.assemble target index) site := by
  unfold Actor.assemble
  refine .disk_bind ((FailsIn.ofReport hscript _).bind fun script _ _ => ?_)
  exact (h _ _).bind fun _ _ _ => .pure _ _

namespace Assembly

/-- The loop comes to each sprite once, with the state that it starts with. -/
theorem numberSprites_failsIn (hsystem : ∀ cause, errors (.system cause))
    {entries : List (Identifier × Sprite)} (h : ∀ entry ∈ entries, Marks errors entry.2)
    (target : Path) (index : Nat) (site : Site Exports) :
    FailsIn errors (numberSprites target index entries) site := by
  induction entries generalizing site index with
  | nil => exact .pure _ _
  | cons entry rest ih =>
    obtain ⟨id, sprite⟩ := entry
    obtain ⟨hfirst, hrest⟩ := List.forall_mem_cons.1 h
    rw [numberSprites]
    refine (Sprite.assemble_failsIn hsystem hfirst _ _ _).bind fun marked between _ => ?_
    exact .hold_bind (.note_bind ((ih hrest _ _).bind fun _ _ _ => .pure _ _))

theorem sprites_failsIn (herrors : Permits errors)
    (h : ∀ entry ∈ site.held.sprites.entries, Marks errors entry.2) (dir : Path) :
    FailsIn errors (sprites dir) site := by
  unfold sprites
  refine .held_bind ?_
  dsimp only
  split
  · exact (refuse_failsIn (herrors.sprites _) _).bind fun _ _ h => by cases h
  · refine (onDisk_failsIn herrors _ _).bind fun _ made hmade => ?_
    obtain ⟨_, _, rfl⟩ := outcome_onDisk_ok.1 hmade
    exact (numberSprites_failsIn herrors.system h _ _ _).bind fun rows _ _ =>
      onDisk_failsIn herrors _ _

/-- So does the loop over strings. -/
theorem numberStrings_failsIn (hsystem : ∀ cause, errors (.system cause))
    (hcount : ∀ bank id, errors (.refused (.tooManyStrings bank id)))
    {entries : List (Identifier × NamedString)} (h : ∀ entry ∈ entries, Marks errors entry.2)
    (target : Path) (used : List (Nat × Nat)) (site : Site Exports) :
    FailsIn errors (numberStrings target used entries) site := by
  induction entries generalizing site used with
  | nil => exact .pure _ _
  | cons entry rest ih =>
    obtain ⟨id, string⟩ := entry
    obtain ⟨hfirst, hrest⟩ := List.forall_mem_cons.1 h
    rw [numberStrings]
    dsimp only
    split
    · exact (refuse_failsIn (hcount _ _) _).bind fun _ _ h => by cases h
    · refine (NamedString.assemble_failsIn hsystem hfirst _ _ _).bind fun marked between _ => ?_
      exact .hold_bind (.note_bind (ih hrest _ _))

theorem strings_failsIn (hsystem : ∀ cause, errors (.system cause))
    (hcount : ∀ bank id, errors (.refused (.tooManyStrings bank id)))
    (h : ∀ entry ∈ site.held.strings.entries, Marks errors entry.2) (dir : Path) :
    FailsIn errors (strings dir) site := by
  unfold strings
  refine .disk_bind ?_
  dsimp only
  split
  · refine (FailsIn.onDisk hsystem _).bind fun _ removed hremoved => ?_
    obtain ⟨_, _, rfl⟩ := outcome_onDisk_ok.1 hremoved
    refine (FailsIn.onDisk hsystem _).bind fun _ made hmade => ?_
    obtain ⟨_, _, rfl⟩ := outcome_onDisk_ok.1 hmade
    exact .held_bind (numberStrings_failsIn hsystem hcount h _ _ _)
  · refine (FailsIn.onDisk hsystem _).bind fun _ made hmade => ?_
    obtain ⟨_, _, rfl⟩ := outcome_onDisk_ok.1 hmade
    exact .held_bind (numberStrings_failsIn hsystem hcount h _ _ _)

theorem introduction_failsIn
    (h : ∀ actor field id, errors (.refused (.missingString actor field id)))
    (actor id : Identifier) (field : String) (site : Site Exports) :
    FailsIn errors (introduction actor field id) site := by
  unfold introduction
  refine .held_bind ?_
  split
  · exact .pure _ _
  · exact refuse_failsIn (h _ _ _) _

/-- Numbering an actor fails where one of its introductions, one of their ids or the assembling
fails. -/
theorem numberActor_failsIn {target : Path} {index : Nat} {id : Identifier} {actor : Actor}
    (hname : FailsIn errors (introduction id "name" actor.displayName) site)
    (htattle : FailsIn errors (introduction id "tattle" actor.tattle) site)
    (hword : ∀ other string, site.held.strings.get? other = some string →
      FailsIn errors (Work.ofExcept (string.hexId.mapError .index) : Build String) site)
    (hassemble : FailsIn errors (actor.assemble target index) site) :
    FailsIn errors (numberActor target index (id, actor)) site := by
  unfold numberActor
  refine hname.bind fun name between hrun => ?_
  obtain ⟨hfound, rfl⟩ := introduction_ok.1 hrun
  refine htattle.bind fun tattle between hrun => ?_
  obtain ⟨hfound', rfl⟩ := introduction_ok.1 hrun
  refine (hword _ name hfound).bind fun nameId between hrun => ?_
  obtain ⟨_, rfl⟩ := outcome_ofExcept_ok.1 hrun
  refine (hword _ tattle hfound').bind fun tattleId between hrun => ?_
  obtain ⟨_, rfl⟩ := outcome_ofExcept_ok.1 hrun
  exact hassemble.bind fun _ _ _ => .hold_bind (.note_bind (.pure _ _))

/-- The loop over actors reads the ids of strings, which have theirs by then. -/
theorem numberActors_failsIn {entries : List (Identifier × Actor)}
    (h : ∀ entry ∈ entries, entry.2.state = .unassembled)
    (hstrings : site.held.strings.All Indexed) (target : Path) (index : Nat) :
    FailsIn AssemblyFailure.NotIndex (numberActors target index entries) site := by
  have hmissing : ∀ actor field id,
      AssemblyFailure.NotIndex (.refused (.missingString actor field id)) :=
    fun _ _ _ _ h => by cases h
  induction entries generalizing site index with
  | nil => exact .pure _ _
  | cons entry rest ih =>
    obtain ⟨id, actor⟩ := entry
    obtain ⟨hfirst, hrest⟩ := List.forall_mem_cons.1 h
    have hone : FailsIn AssemblyFailure.NotIndex (numberActor target index (id, actor)) site := by
      refine numberActor_failsIn (introduction_failsIn hmissing _ _ _ _)
        (introduction_failsIn hmissing _ _ _ _) (fun other string hfound => ?_) ?_
      · obtain ⟨word, hword⟩ := (hstrings.of_get? hfound).hexId
        refine .ofExcept (fun error herror => ?_) site
        rw [hword] at herror
        cases herror
      · exact Actor.assemble_failsIn (marks_of_unassembled hfirst) _ _ _ fun _ _ _ h => by cases h
    rw [numberActors_cons]
    refine hone.bind fun pair between hrun => ?_
    obtain ⟨row, script⟩ := pair
    obtain ⟨_, _, _, rfl⟩ := numberActor_ok hrun
    exact (ih hrest (by exact hstrings) _).bind fun _ _ _ => .pure _ _

theorem actors_failsIn (h : ∀ entry ∈ site.held.actors.entries, entry.2.state = .unassembled)
    (hstrings : site.held.strings.All Indexed) (dir : Path) :
    FailsIn AssemblyFailure.NotIndex (actors dir) site := by
  unfold actors
  refine .held_bind ?_
  dsimp only
  split
  · exact (refuse_failsIn (permits_notIndex.actors _) _).bind fun _ _ h => by cases h
  · refine (onDisk_failsIn permits_notIndex _ _).bind fun _ made hmade => ?_
    obtain ⟨_, _, rfl⟩ := outcome_onDisk_ok.1 hmade
    refine FailsIn.bind (numberActors_failsIn h (by exact hstrings) _ _) fun _ _ _ => ?_
    exact (onDisk_failsIn permits_notIndex _ _).bind fun _ _ _ => .pure _ _

/-- Scripts are resolved with what is held, and saving one leaves that as it is. -/
theorem saveScripts_failsIn (h : site.held.Indexed) (scripts : List Script) :
    FailsIn AssemblyFailure.NotIndex (saveScripts scripts) site := by
  induction scripts generalizing site with
  | nil => exact .pure _ _
  | cons script rest ih =>
    rw [saveScripts]
    refine .held_bind ?_
    refine FailsIn.bind (.ofReport (fun failure hfailure => ?_) _) fun _ told htold => ?_
    · dsimp only at hfailure
      split at hfailure
      · next hstopped =>
        cases hfailure
        have hsound := Resolution.resolve_failure_of_indexed h hstopped
        cases failure with
        | unresolved error => exact fun _ h => by cases h
        | index error => exact absurd rfl (hsound error)
      · cases hfailure
    · obtain ⟨_, rfl⟩ := outcome_ofReport_ok.1 htold
      refine (onDisk_failsIn permits_notIndex _ _).bind fun _ saved hsaved => ?_
      obtain ⟨_, _, rfl⟩ := outcome_onDisk_ok.1 hsaved
      exact .note_bind (ih h)

/-! ## Steps and what is held after them -/

/-- The steps that do not ask for any index. -/
def beforeActors (dir : Path) : Build Unit := do
  onDisk (Disk.makeDirectories true dir)
  sprites (dir / "sprite")
  strings (dir / "strings")

/-- All steps but the last one, which saves the scripts. -/
def prepare (dir : Path) : Build (List Script) := do
  beforeActors dir
  actors (dir / "battle")

theorem run_eq (dir : Path) : run dir = prepare dir >>= saveScripts := by
  simp [run, prepare, beforeActors]

theorem held_of_strings (h : outcome (strings dir) site = (.ok (), after)) :
    after.held = { site.held with strings := after.held.strings } ∧
      after.held.strings.entries = sectioned [] site.held.strings.entries := by
  obtain ⟨_, made, _, hmade, hnumber⟩ := strings_steps h
  have hnumbered := stringsNumbered (Disk.directory?_of_makeDirectories hmade) hnumber
  exact ⟨hnumbered.held, hnumbered.entries_eq⟩

theorem held_of_actors {scripts : List Script}
    (h : outcome (actors dir) site = (.ok scripts, after)) :
    after.held = { site.held with actors := after.held.actors } ∧
      after.held.actors.entries = numbered 0 site.held.actors.entries := by
  obtain ⟨_, made, rows, marked, written, _, hnumbered, _, rfl⟩ := actors_steps h
  exact ⟨hnumbered.held, hnumbered.entries_eq⟩

/-- Sprites and strings have their indices when the actors come. -/
theorem beforeActors_ok (h : outcome (beforeActors dir) site = (.ok (), after)) :
    after.held.actors = site.held.actors ∧
      after.held.sprites.entries = numbered firstSprite site.held.sprites.entries ∧
      after.held.strings.entries = sectioned [] site.held.strings.entries := by
  unfold beforeActors at h
  obtain ⟨_, hmake, h⟩ := outcome_seq_ok.1 h
  obtain ⟨made, hmade, rfl⟩ := outcome_onDisk_ok.1 hmake
  obtain ⟨between, hsprites, hstrings⟩ := outcome_seq_ok.1 h
  have hdrawn := sprites_ok hsprites
  obtain ⟨hheld, hsectioned⟩ := held_of_strings hstrings
  rw [hheld, hdrawn.held]
  rw [hdrawn.held] at hsectioned
  exact ⟨rfl, hdrawn.entries_eq, hsectioned⟩

/-- All exports have their indices when the scripts come. -/
theorem prepare_ok {scripts : List Script}
    (h : outcome (prepare dir) site = (.ok scripts, after)) :
    after.held.sprites.entries = numbered firstSprite site.held.sprites.entries ∧
      after.held.strings.entries = sectioned [] site.held.strings.entries ∧
      after.held.actors.entries = numbered 0 site.held.actors.entries := by
  obtain ⟨between, hbefore, hactors⟩ := outcome_seq_ok.1 h
  obtain ⟨hsame, hnumbered, hsectioned⟩ := beforeActors_ok hbefore
  obtain ⟨hheld, hentries⟩ := held_of_actors hactors
  rw [hsame] at hentries
  rw [hheld]
  exact ⟨hnumbered, hsectioned, hentries⟩

theorem indexed_of_beforeActors (h : outcome (beforeActors dir) site = (.ok (), after)) :
    after.held.sprites.All Indexed ∧ after.held.strings.All Indexed := by
  obtain ⟨_, hsprites, hstrings⟩ := beforeActors_ok h
  exact ⟨indexed_of_numbered hsprites, indexed_of_sectioned hstrings⟩

theorem indexed_of_prepare {scripts : List Script}
    (h : outcome (prepare dir) site = (.ok scripts, after)) : after.held.Indexed := by
  obtain ⟨hsprites, hstrings, hactors⟩ := prepare_ok h
  exact ⟨indexed_of_numbered hsprites, indexed_of_numbered hactors, indexed_of_sectioned hstrings⟩

theorem beforeActors_failsIn (herrors : Permits errors)
    (hsprites : ∀ entry ∈ site.held.sprites.entries, Marks errors entry.2)
    (hstrings : ∀ entry ∈ site.held.strings.entries, Marks errors entry.2) (dir : Path) :
    FailsIn errors (beforeActors dir) site := by
  unfold beforeActors
  refine (onDisk_failsIn herrors _ _).bind fun _ made hmade => ?_
  obtain ⟨_, _, rfl⟩ := outcome_onDisk_ok.1 hmade
  refine (sprites_failsIn herrors (by exact hsprites) _).bind fun _ between hbetween => ?_
  refine strings_failsIn herrors.system herrors.strings ?_ _
  rw [(sprites_ok hbetween).held]
  exact hstrings

/-- Where nothing has an index yet, assembling does not fail for one. -/
theorem run_failsIn (h : site.held.Unindexed) (dir : Path) :
    FailsIn AssemblyFailure.NotIndex (run dir) site := by
  have hbefore := beforeActors_failsIn permits_notIndex
    (fun entry hmem => marks_of_unassembled (h.sprites entry.1 entry.2 hmem))
    (fun entry hmem => marks_of_unassembled (h.strings entry.1 entry.2 hmem))
  rw [run_eq]
  refine FailsIn.bind ((hbefore dir).bind fun _ between hbetween => ?_)
    fun scripts ready hready => ?_
  · obtain ⟨hsame, _, hstrings⟩ := beforeActors_ok hbetween
    refine actors_failsIn ?_ (indexed_of_sectioned hstrings) _
    rw [hsame]
    exact fun entry => h.actors entry.1 entry.2
  · exact saveScripts_failsIn (indexed_of_prepare hready) scripts

end Assembly

end ModPack
