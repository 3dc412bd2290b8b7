import ModPack.Proofs.LoadSteps

/-!
# Loading on a stack that all levels share

`loadNested` hands every level its own stack. Here one stack is shared: a level pushes its directory
before it loads what it depends on and pops it afterwards, also when that fails, and calls nest only
as deep as they are allowed to. Main statement: `loadShared_restores`. With room for more calls than
the tree has directories, a load never runs out of depth, leaves the shared stack as it was, and
reports what `loadNested` reports.
-/
namespace ModPack

/-- Loading on a shared stack. It gives nothing when its calls nest deeper than allowed. -/
def Shared (α : Type) : Type :=
  List Location → Option (Loading α × List Location)

namespace Shared

variable {α β : Type}

protected def pure (value : α) : Shared α := fun stack =>
  some (pure value, stack)

/-- An error ends the work; the stack stays as it is then. -/
protected def bind (first : Shared α) (next : α → Shared β) : Shared β := fun stack =>
  match first stack with
  | none => none
  | some (report, stack) =>
    match report.result with
    | .error failure => some (⟨report.events, .error failure⟩, stack)
    | .ok value => (next value stack).map fun (later, stack) =>
        (⟨report.events ++ later.events, later.result⟩, stack)

instance : Monad Shared where
  pure := Shared.pure
  bind := Shared.bind

/-- The allowed depth is used up. -/
def tooDeep : Shared α := fun _ => none

/-- Work that does not look at the stack. -/
def ofReport (report : Loading α) : Shared α := fun stack => some (report, stack)

def stack : Shared (List Location) := fun stack => some (pure stack, stack)

/-- Pushes a location, does `work`, and pops the stack whether the work fails or not. -/
def pushed (location : Location) (work : Shared α) : Shared α := fun stack =>
  (work (location :: stack)).map fun (report, stack) => (report, stack.tail)

/-- The work reports this on the stack and gives the stack back as it was. -/
def Restores (work : Shared α) (stack : List Location) (report : Loading α) : Prop :=
  work stack = some (report, stack)

theorem restores_pure (value : α) (stack : List Location) :
    Restores (pure value) stack (pure value) := rfl

theorem restores_ofReport (report : Loading α) (stack : List Location) :
    Restores (ofReport report) stack report := rfl

/-- Parts that restore the stack make a sequence that restores it; the second part counts only for
the values that the first one gives. -/
theorem Restores.bind {first : Shared α} {next : α → Shared β} {stack : List Location}
    {report : Loading α} {reports : α → Loading β} (h : Restores first stack report)
    (hnext : ∀ value, report.result = .ok value → Restores (next value) stack (reports value)) :
    Restores (first >>= next) stack (report >>= reports) := by
  have hbind : (first >>= next) stack = Shared.bind first next stack := rfl
  rw [Restores, hbind, Shared.bind, h]
  cases hresult : report.result with
  | error failure => simp [hresult, Report.bind_error hresult]
  | ok value =>
    have hvalue : next value stack = some (reports value, stack) := hnext value hresult
    simp [hresult, Report.bind_ok hresult, hvalue]

theorem Restores.stack_bind {next : List Location → Shared β} {stack : List Location}
    {report : Loading β} (h : Restores (next stack) stack report) :
    Restores (Shared.stack >>= next) stack report := by
  have hstack : Restores Shared.stack stack (pure stack) := rfl
  have hbind : Restores (Shared.stack >>= next) stack (pure stack >>= fun _ => report) :=
    hstack.bind fun _ hvalue => Except.ok.inj hvalue ▸ h
  exact hbind

/-- Work between a push and the pop gives back the stack from before the push. -/
theorem Restores.pushed {work : Shared α} {stack : List Location} {location : Location}
    {report : Loading α} (h : Restores work (location :: stack) report) :
    Restores (Shared.pushed location work) stack report := by
  have hwork : work (location :: stack) = some (report, location :: stack) := h
  simp [Restores, Shared.pushed, hwork]

end Shared

namespace Package

/-- Loads declared dependencies, each by `load`, on the shared stack. -/
def dependenciesShared (settings : Settings) (load : List Nat → Path → Shared Package)
    (route : List Nat) (dir : Path) (manifest : Manifest) (number : Nat) :
    List Dependency → Shared (List Package)
  | [] => return []
  | dependency :: rest => do
    let path ← Shared.ofReport (declaredPath settings dir manifest dependency)
    let package ← load (number :: route) path
    if package.name ≠ dependency.name then
      Shared.ofReport (Report.note (.dependencyNamed dependency.name package.name))
    let packages ← dependenciesShared settings load route dir manifest (number + 1) rest
    return package :: packages

/-- Loads the package of a directory with calls that nest up to `depth` deep. The stack holds the
directories of the packages being loaded, the innermost first, and is the same for all calls. -/
def loadShared (settings : Settings) (disk : Disk) : Nat → List Nat → Path → Shared Package
  | 0, _, _ => Shared.tooDeep
  | depth + 1, route, dir =>
    match disk.directory? dir with
    | none => Shared.ofReport (Loading.refuse (.notDirectory dir))
    | some location => do
      let stack ← Shared.stack
      if stack.contains location then
        Shared.ofReport (Loading.refuse (.cyclic dir (stack.reverse.map Location.toPath)))
      else
        Shared.ofReport (Report.note (.loadingPackage dir))
        let manifest ← Shared.ofReport (checkedManifest settings disk dir)
        let direct ← Shared.pushed location (dependenciesShared settings
          (loadShared settings disk depth) route dir manifest 0 manifest.dependencies)
        Shared.ofReport (ofParts settings disk route dir manifest direct)

variable {settings : Settings} {disk : Disk}

open Shared in
/-- Declared dependencies restore the stack when every single load does. -/
theorem dependenciesShared_restores {load : List Nat → Path → Shared Package}
    {stack : List Location} {manifest : Manifest} (route : List Nat) (dir : Path)
    (h : ∀ route dir, Restores (load route dir) stack (loadNested settings disk stack route dir))
    (number : Nat) (declared : List Dependency) :
    Restores (dependenciesShared settings load route dir manifest number declared) stack
      (loadDependencies settings disk stack route dir manifest number declared) := by
  induction declared generalizing number with
  | nil =>
    rw [loadDependencies]
    exact restores_pure [] stack
  | cons dependency rest ih =>
    rw [loadDependencies, dependenciesShared]
    refine (restores_ofReport _ stack).bind fun path _ => (h _ path).bind fun package _ => ?_
    split
    · refine (restores_ofReport _ stack).bind fun _ _ => (ih (number + 1)).bind fun packages _ => ?_
      exact restores_pure _ stack
    · exact (ih (number + 1)).bind fun packages _ => restores_pure _ stack

open Shared in
/-- With room for every directory that is not on the stack, a load on the shared stack ends, restores
the stack and reports what `loadNested` reports. The induction is on the depth: each level takes its
directory off those that are left. -/
theorem loadShared_restores {depth : Nat} {stack : List Location} (route : List Nat) (dir : Path)
    (h : untouched disk stack < depth) :
    Restores (loadShared settings disk depth route dir) stack
      (loadNested settings disk stack route dir) := by
  induction depth generalizing stack route dir with
  | zero => omega
  | succ depth ih =>
    rw [loadShared]
    split
    · next hdir =>
      rw [loadNested_of_no_directory hdir]
      exact restores_ofReport _ stack
    · next location hdir =>
      apply Restores.stack_bind
      split
      · next hon =>
        have hmem : location ∈ stack := by simpa using hon
        rw [loadNested_of_mem hdir hmem]
        exact restores_ofReport _ stack
      · next hon =>
        have hmem : location ∉ stack := by simpa using hon
        have hless := untouched_cons_lt (Disk.directory?_mem hdir) hmem
        have hnested (route : List Nat) (dir : Path) :
            Restores (loadShared settings disk depth route dir) (location :: stack)
              (loadNested settings disk (location :: stack) route dir) :=
          ih route dir (by omega)
        rw [loadNested_of_not_mem hdir hmem]
        refine (restores_ofReport _ stack).bind fun _ _ => ?_
        refine (restores_ofReport _ stack).bind fun manifest _ => ?_
        refine Restores.bind ?_ fun direct _ => restores_ofReport _ stack
        exact (dependenciesShared_restores route dir hnested 0 manifest.dependencies).pushed

/-- Calls that may nest deeper than the tree has directories are enough for every load. -/
theorem untouched_lt {depth : Nat} (stack : List Location)
    (h : disk.tree.directories.length < depth) : untouched disk stack < depth :=
  Nat.lt_of_le_of_lt (List.length_filter_le _ _) h

end Package

end ModPack
