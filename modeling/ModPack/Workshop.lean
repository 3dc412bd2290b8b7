import ModPack.Assembly

/-!
# Packages that are worked on

The packages of one load share what they depend on: assembling a package gives its exports their
indices wherever that very package is in use, and no other package's. A handle names a package of a
load; the workshop keeps the exports of those that were assembled. Main statement: assembling one
package leaves the exports of the others alone.
-/
namespace ModPack

/-- A package with the load it came from. -/
structure Handle where
  load : Nat
  package : Package
  deriving Inhabited

/-- Which package a handle names, as far as sharing goes. -/
def Handle.key (handle : Handle) : Nat × List Nat :=
  (handle.load, handle.package.route)

structure Workshop where
  loads : Nat := 0
  assembled : List ((Nat × List Nat) × Exports) := []
  deriving Inhabited

namespace Workshop

/-- Takes in the package of a new load. -/
def receive (workshop : Workshop) (package : Package) : Handle × Workshop :=
  (⟨workshop.loads, package⟩, { workshop with loads := workshop.loads + 1 })

/-- The package of a handle with its exports as they are now. -/
def current (workshop : Workshop) (handle : Handle) : Package :=
  { handle.package with
    exports := (workshop.assembled.lookup handle.key).getD handle.package.exports }

/-- A package that another one depends on, by its number among the flattened ones. -/
def dependency? (handle : Handle) (number : Nat) : Option Handle :=
  handle.package.dependencies[number]?.map fun package => { handle with package }

def keep (workshop : Workshop) (handle : Handle) (exports : Exports) : Workshop :=
  { workshop with assembled := (handle.key, exports) :: workshop.assembled }

/-- Assembles a package: the outcome, the site and the workshop afterwards. -/
def assemble (workshop : Workshop) (handle : Handle) (disk : Disk) (dir : Path) :
    Except AssemblyFailure Unit × Site Exports × Workshop :=
  let (result, site) := (workshop.current handle).assemble disk dir
  (result, site, workshop.keep handle site.held)

theorem current_assemble_of_key_ne (workshop : Workshop) {handle other : Handle}
    (h : other.key ≠ handle.key) (disk : Disk) (dir : Path) :
    (workshop.assemble handle disk dir).2.2.current other = workshop.current other := by
  simp [assemble, keep, current, List.lookup_cons, beq_eq_false_iff_ne.2 h]

end Workshop

end ModPack
