import ModPack.Exports
import ModPack.Manifest
import ModPack.Settings

/-!
# Packages

A loaded package: its directory, its manifest, everything it depends on and all exports of the
whole. Two packages are the same when name and version agree. Dependencies are flattened: what a
package needs comes before it, and of the same package the first stays. Main statement: the
flattened list has no package twice.
-/
namespace ModPack

structure Package where
  /-- Which of the packages of one load this is: the numbers of the dependency declarations that
  lead to it, the last one first. -/
  route : List Nat
  dir : Path
  manifest : Manifest
  /-- Everything the package depends on, flattened. -/
  dependencies : List Package
  exports : Exports
  deriving Inhabited

namespace Package

def name (package : Package) : String :=
  package.manifest.name

def version (package : Package) : String :=
  package.manifest.version

/-- Packages of one name and version are the same package. -/
def identity (package : Package) : String × String :=
  (package.name, package.version)

def manifestPath (settings : Settings) (package : Package) : Path :=
  package.dir / settings.manifestName

def buildPath (settings : Settings) (package : Package) : Path :=
  package.dir / settings.buildDirectory

/-- The name and version as messages show them. -/
def label (package : Package) : String :=
  package.name ++ " v" ++ package.version

/-- A whole package as messages show it. -/
def description (package : Package) : String :=
  "Package(" ++ Text.quoted package.name ++ ", " ++ Text.quoted package.version ++ ", dir=" ++
    Text.quoted package.dir.toString ++ ", dependencies=[" ++
    ", ".intercalate (package.dependencies.map fun dependency => Text.quoted dependency.label) ++
    "], sprites=" ++ package.exports.sprites.description ++ ", actors=" ++
    package.exports.actors.description ++ ", texts=" ++ package.exports.strings.description ++ ")"

/-- The packages that are not among those seen, the first of each identity. -/
def distinct (seen : List (String × String)) : List Package → List Package
  | [] => []
  | package :: rest =>
    if package.identity ∈ seen then distinct seen rest
    else package :: distinct (package.identity :: seen) rest

/-- Direct dependencies with everything they depend on, each once, what is needed first. -/
def flatten (direct : List Package) : List Package :=
  distinct [] (direct.flatMap fun package => package.dependencies ++ [package])

/-- The versions of a name in a list of packages, in order. -/
def versionsOf (packages : List Package) (name : String) : List String :=
  ((packages.filter (·.name = name)).map version).mergeSort fun first second => first ≤ second

/-- The first name, in order, that a list of different packages holds in several versions. -/
def conflict? (packages : List Package) : Option (String × List String) :=
  let names := (packages.map name).mergeSort fun first second => first ≤ second
  (names.find? fun name => 1 < (versionsOf packages name).length).map fun name =>
    (name, versionsOf packages name)

/-- The exports of a list of packages; later ones win. -/
def mergedExports (packages : List Package) : Exports :=
  packages.foldl (fun exports package => exports.merge package.exports) {}

theorem nodup_distinct (seen : List (String × String)) (packages : List Package) :
    ((distinct seen packages).map identity).Nodup ∧
      ∀ package ∈ distinct seen packages, package.identity ∉ seen := by
  fun_induction distinct seen packages with
  | case1 => simp
  | case2 _ _ _ _ ih => exact ih
  | case3 seen package rest hseen ih =>
    obtain ⟨hnodup, hfresh⟩ := ih
    constructor
    · rw [List.map_cons, List.nodup_cons]
      refine ⟨fun h => ?_, hnodup⟩
      obtain ⟨other, hother, heq⟩ := List.mem_map.1 h
      exact hfresh other hother (heq ▸ List.mem_cons_self)
    · intro other hother
      rcases List.mem_cons.1 hother with rfl | hother
      · exact hseen
      · exact fun h => hfresh other hother (List.mem_cons_of_mem _ h)

theorem nodup_flatten (direct : List Package) : ((flatten direct).map identity).Nodup :=
  (nodup_distinct [] _).1

end Package

end ModPack
