import ModPack.Actor
import ModPack.NamedString
import ModPack.Sprite

/-!
# Events that tell of redefinitions

Loading warns where an export takes the place of another one. `redefinitions` are these warnings for
one kind of export, and a report without them is silent. Whatever is read for a single sprite, actor
or strings file is read silently, so all the warnings are those of putting exports into registries.
Main statements: `Report.Silent.bind`, `Sprite.load_silent`, `Actor.load_silent` and
`NamedString.load_silent`.
-/
namespace ModPack

/-! ## Warnings -/

/-- The identifier and the path of an event that tells that an export of this kind took the place of
another one. -/
def Event.redefinition? (kind : ExportKind) : Event → Option (Identifier × Path)
  | .redefined other id path => if other = kind then some (id, path) else none
  | _ => none

/-- All that events tell about exports of this kind that took the place of others, in order. -/
def redefinitions (kind : ExportKind) (events : List Event) : List (Identifier × Path) :=
  events.filterMap (Event.redefinition? kind)

theorem redefinitions_append (kind : ExportKind) (events others : List Event) :
    redefinitions kind (events ++ others) =
      redefinitions kind events ++ redefinitions kind others :=
  List.filterMap_append

namespace Report

variable {ε ε' α β : Type} {kind : ExportKind}

/-- The report tells of no such export. -/
def Silent (kind : ExportKind) (report : Report ε α) : Prop :=
  redefinitions kind report.events = []

theorem redefinitions_bind {first : Report ε α} {value : α} (h : first.result = .ok value)
    (next : α → Report ε β) :
    redefinitions kind (first >>= next).events =
      redefinitions kind first.events ++ redefinitions kind (next value).events := by
  rw [bind_ok h, redefinitions_append]

namespace Silent

theorem pure (value : α) : Silent kind (pure value : Report ε α) := rfl

theorem fail (error : ε) : Silent kind (fail error : Report ε α) := rfl

theorem ofExcept (result : Except ε α) : Silent kind (ofExcept result) := rfl

theorem note {event : Event} (h : event.redefinition? kind = none) :
    Silent kind (note event : Report ε Unit) := by
  simp [Silent, Report.note, redefinitions, h]

theorem mapError {f : ε → ε'} {report : Report ε α} (h : Silent kind report) :
    Silent kind (report.mapError f) := h

theorem bind {first : Report ε α} {next : α → Report ε β} (h : Silent kind first)
    (hnext : ∀ value, Silent kind (next value)) : Silent kind (first >>= next) := by
  cases hfirst : first.result with
  | error error =>
    rw [Silent, bind_error hfirst]
    exact h
  | ok value =>
    rw [Silent, redefinitions_bind hfirst, h, hnext value, List.append_nil]

/-- What is reported or checked on one condition only comes before the rest. -/
theorem seq_if {condition : Prop} [Decidable condition] {first : Report ε Unit}
    {next : Unit → Report ε α} (h : Silent kind first) (hnext : Silent kind (next ())) :
    Silent kind (if condition then first >>= next else next ()) := by
  split
  · exact h.bind fun _ => hnext
  · exact hnext

end Silent

end Report

/-! ## Reading a definition -/

section Reading

variable {kind : ExportKind} {disk : Disk} {package : String}

open Report (Silent)

theorem Name.checkExport_silent (name : String) : Silent kind (checkExport name) := by
  unfold checkExport
  apply Silent.seq_if
  · exact .note rfl
  · split
    · exact .pure ()
    · exact .fail _

theorem Identifier.parse_silent (text source : String) : Silent kind (parse text source) := by
  have hname (name : String) : Silent kind
      ((Name.checkExport name).mapError (ReferenceError.exportName text)) :=
    (Name.checkExport_silent name).mapError
  unfold parse
  apply Silent.seq_if (.fail _)
  split
  · exact (hname _).bind fun _ => .pure _
  · apply Silent.seq_if (.fail _)
    refine (hname _).bind fun _ => ?_
    apply Silent.seq_if (.fail _)
    exact (Silent.ofExcept _).mapError.bind fun _ => .pure _

theorem Sprite.load_silent (path : Path) : Silent kind (Sprite.load disk path) := by
  unfold load
  refine (Name.checkExport_silent _).mapError.bind fun _ => ?_
  refine (Silent.ofExcept _).bind fun sheet => ?_
  refine (Silent.ofExcept _).mapError.bind fun sprite => ?_
  exact (Silent.note rfl).bind fun _ => .pure _

theorem Actor.field_silent (sidecar : Path) (entries : List (Value × Value)) (name : String) :
    Silent kind (field sidecar entries package name) := by
  unfold field
  split
  · exact (Identifier.parse_silent _ _).mapError
  · exact .fail _

theorem Actor.load_silent (path : Path) : Silent kind (Actor.load disk package path) := by
  unfold load
  refine (Name.checkExport_silent _).mapError.bind fun _ => ?_
  refine (Silent.ofExcept _).bind fun sidecar => ?_
  split
  · refine (field_silent _ _ _).bind fun displayName => ?_
    exact (field_silent _ _ _).bind fun tattle => .pure _
  · exact .fail _

theorem Block.classify_silent (path : Path) (header : Line) (rest : List Line) :
    Silent kind (classify path header rest) := by
  unfold classify
  split
  · exact .pure _
  · split
    · exact .fail _
    · exact (Silent.note rfl).bind fun _ => .pure _

theorem Script.close_silent (path : Path) (pending : List Line) :
    Silent kind (close path pending) := by
  unfold close
  split
  · exact .pure _
  · exact (Block.classify_silent _ _ _).bind fun _ => .pure _

theorem Script.blocksOf_silent (path : Path) (pending lines : List Line) :
    Silent kind (blocksOf path pending lines) := by
  induction lines generalizing pending with
  | nil => exact close_silent path pending
  | cons line lines ih =>
    rw [blocksOf]
    split
    · refine (close_silent path pending).bind fun block => ?_
      exact (ih []).bind fun blocks => .pure _
    · exact ih _

theorem Script.load_silent (path : Path) : Silent kind (Script.load disk package path) := by
  unfold load
  refine (Silent.ofExcept _).mapError.bind fun source => ?_
  unfold parse
  refine (blocksOf_silent _ _ _).bind fun blocks => ?_
  exact Silent.seq_if (.note rfl) (.pure _)

theorem NamedString.ofBlock_silent (path : Path) (block : Block) :
    Silent kind (ofBlock path block) := by
  unfold ofBlock
  split
  · exact .fail _
  · refine (Name.checkExport_silent _).mapError.bind fun _ => ?_
    exact Silent.seq_if (.fail _) (.pure _)

theorem NamedString.ofBlocks_silent (path : Path) (blocks : List Block) :
    Silent kind (ofBlocks path blocks) := by
  induction blocks with
  | nil => exact .pure _
  | cons block blocks ih =>
    rw [ofBlocks]
    exact (ofBlock_silent path block).bind fun _ => ih.bind fun _ => .pure _

theorem NamedString.load_silent (path : Path) :
    Silent kind (NamedString.load disk package path) := by
  unfold load
  refine (Script.load_silent path).bind fun script => ?_
  refine (ofBlocks_silent _ _).bind fun strings => ?_
  exact (Silent.note rfl).bind fun _ => .pure _

end Reading

end ModPack
