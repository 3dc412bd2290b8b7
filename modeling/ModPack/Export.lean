import ModPack.Identifier
import ModPack.Text.Hex

/-!
# Exports and their final index

An export gets its index when it is assembled, and gets it once. Main statements: marking gives the
index that is read afterwards, and an assembled export keeps its index.
-/
namespace ModPack

inductive AssemblyState
  | unassembled
  | assembled (index : Int)
  deriving DecidableEq, Repr, Inhabited

/-- An index was asked for too early, or given a second time. -/
inductive IndexError
  | notAssembled (kind : ExportKind) (name : String)
  | alreadyAssembled (kind : ExportKind) (name : String) (index : Int)
  deriving DecidableEq, Repr

def IndexError.message : IndexError → String
  | notAssembled kind name => kind.keyword ++ " '" ++ name ++ "' was not assembled"
  | alreadyAssembled kind name index =>
    kind.keyword ++ " '" ++ name ++ "' was already assembled with index " ++ Hex.padded 2 index

def AssemblyState.index? : AssemblyState → Option Int
  | unassembled => none
  | assembled index => some index

/-- What sprites, actors and strings have in common. -/
class Export (α : Type) where
  kind : α → ExportKind
  name : α → String
  state : α → AssemblyState
  withState : AssemblyState → α → α

/-- Replacing the state of an export leaves the rest as it is. -/
class LawfulExport (α : Type) [Export α] : Prop where
  kind_withState (state : AssemblyState) (item : α) :
    Export.kind (Export.withState state item) = Export.kind item
  name_withState (state : AssemblyState) (item : α) :
    Export.name (Export.withState state item) = Export.name item
  state_withState (state : AssemblyState) (item : α) :
    Export.state (Export.withState state item) = state

namespace Export

variable {α : Type} [Export α]

/-- The final index of an assembled export. -/
def index (item : α) : Except IndexError Int :=
  match state item with
  | .unassembled => .error (.notAssembled (kind item) (name item))
  | .assembled index => .ok index

/-- The export with its final index. -/
def mark (item : α) (index : Int) : Except IndexError α :=
  match state item with
  | .unassembled => .ok (withState (.assembled index) item)
  | .assembled old => .error (.alreadyAssembled (kind item) (name item) old)

theorem index_of_mark [LawfulExport α] {item marked : α} {index : Int}
    (h : mark item index = .ok marked) : Export.index marked = .ok index := by
  rw [mark] at h
  split at h
  · cases h
    simp [Export.index, LawfulExport.state_withState]
  · cases h

theorem mark_of_state_assembled {item : α} {index : Int} (h : state item = .assembled index)
    (next : Int) :
    mark item next = .error (.alreadyAssembled (kind item) (name item) index) := by
  simp [mark, h]

end Export

end ModPack
