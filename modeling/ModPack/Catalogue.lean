import ModPack.Exports

/-!
# Registries over shared records

Several registries can hold one export: inserting shares a record, merging copies it. A catalogue
keeps the records apart from the registries that point at them, so marking an export is seen through
every registry that shares its record and through no other. Main statement: a mark changes no other
record.
-/
namespace ModPack

/-- An export of any kind. -/
inductive AnyExport
  | sprite (item : Sprite)
  | actor (item : Actor)
  | string (item : NamedString)
  deriving DecidableEq, Repr, Inhabited

namespace AnyExport

def kind : AnyExport → ExportKind
  | sprite _ => .sprite
  | actor _ => .actor
  | string _ => .text

def name : AnyExport → String
  | sprite item => item.name
  | actor item => item.name
  | string item => item.name

def state : AnyExport → AssemblyState
  | sprite item => item.state
  | actor item => item.state
  | string item => item.state

def withState (state : AssemblyState) : AnyExport → AnyExport
  | sprite item => sprite { item with state }
  | actor item => actor { item with state }
  | string item => string { item with state }

instance : Export AnyExport where
  kind := kind
  name := name
  state := state
  withState := withState

instance : LawfulExport AnyExport where
  kind_withState _ item := by cases item <;> rfl
  name_withState _ item := by cases item <;> rfl
  state_withState _ item := by cases item <;> rfl

end AnyExport

/-- Records by number, and registries of record numbers by name. -/
structure Catalogue where
  records : List AnyExport := []
  registries : List (String × Registry Nat) := []
  deriving Inhabited

namespace Catalogue

/-- A registry that nothing was put into is empty. -/
def registry (catalogue : Catalogue) (name : String) : Registry Nat :=
  (catalogue.registries.lookup name).getD ∅

def putRegistry (catalogue : Catalogue) (name : String) (registry : Registry Nat) : Catalogue :=
  { catalogue with
    registries := (name, registry) :: catalogue.registries.filter fun (other, _) => other ≠ name }

def record? (catalogue : Catalogue) (number : Nat) : Option AnyExport :=
  catalogue.records[number]?

/-- Adds a record and gives its number. -/
def define (catalogue : Catalogue) (item : AnyExport) : Nat × Catalogue :=
  (catalogue.records.length, { catalogue with records := catalogue.records ++ [item] })

/-- Gives a record its index. -/
def mark (catalogue : Catalogue) (number : Nat) (index : Int) : Except IndexError Catalogue := do
  match catalogue.record? number with
  | none => return catalogue
  | some item =>
    let marked ← Export.mark item index
    return { catalogue with records := catalogue.records.set number marked }

/-- The number of the record that a registry holds. -/
def get? (catalogue : Catalogue) (name : String) (id : Identifier) : Option Nat :=
  (catalogue.registry name).get? id

/-- Shares a record with a registry and gives the number of the one that gave way. -/
def insert (catalogue : Catalogue) (name : String) (id : Identifier) (number : Nat) :
    Option Nat × Catalogue :=
  let (replaced, registry) := (catalogue.registry name).insert id number
  (replaced, catalogue.putRegistry name registry)

/-- Copies of records with their new numbers. -/
def copy (catalogue : Catalogue) : List (Identifier × Nat) → List (Identifier × Nat) × Catalogue
  | [] => ([], catalogue)
  | (id, number) :: rest =>
    match catalogue.record? number with
    | none => copy catalogue rest
    | some item =>
      let (fresh, catalogue) := catalogue.define item
      let (copies, catalogue) := copy catalogue rest
      ((id, fresh) :: copies, catalogue)

/-- Copies the records of a registry into another one, where they win. -/
def merge (catalogue : Catalogue) (name source : String) : Catalogue :=
  let (copies, catalogue) := catalogue.copy (catalogue.registry source).entries
  let merged := copies.foldl (fun (registry : Registry Nat) (id, number) => registry.set id number)
    (catalogue.registry name)
  catalogue.putRegistry name merged

theorem record?_of_mark {catalogue marked : Catalogue} {number other : Nat} {index : Int}
    (h : catalogue.mark number index = .ok marked) (hne : number ≠ other) :
    marked.record? other = catalogue.record? other := by
  unfold mark at h
  split at h
  · cases h
    rfl
  · next item _ =>
    cases hmark : Export.mark item index with
    | error error => simp [hmark, bind, Except.bind] at h
    | ok item =>
      simp only [hmark, bind, Except.bind, pure, Except.pure, Except.ok.injEq] at h
      subst h
      exact List.getElem?_set_ne hne

end Catalogue

end ModPack
