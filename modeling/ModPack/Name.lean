import ModPack.Report

/-!
# Rules for names

Every name that ends up in a build is checked here: package names, export names and the names
dependencies are declared under. A name is refused for the first rule it breaks, in a fixed order.
The rules that all kinds share come last in each kind's order. Main statement: a name accepted as a
package name is accepted as the name of a dependency of any other package.
-/
namespace ModPack.Name

/-- The shared rules, in the order in which they are checked. -/
inductive Fault
  | tooLong
  | tooShort
  | badCharacter
  | leadingDigit
  | onlyUnderscores
  | trailingUnderscore
  deriving DecidableEq, Repr

inductive PackageFault
  | leadingUnderscore
  | reserved
  | shared (fault : Fault)
  deriving DecidableEq, Repr

inductive DependencyFault
  | sameAsPackage
  | shared (fault : Fault)
  deriving DecidableEq, Repr

end Name

/-- A refused name with the rule it breaks, as the kind of name it was checked for. -/
inductive NameError
  | shared (name : String) (fault : Name.Fault)
  | package (name : String) (fault : Name.PackageFault)
  | exported (name : String) (fault : Name.Fault)
  | dependency (name : String) (fault : Name.DependencyFault)
  deriving DecidableEq, Repr

namespace Name

def maxLength : Nat := 40

/-- Package names that belong to the base game. -/
def reserved : List String := ["pm64"]

def Fault.message (fault : Fault) (name : String) : String :=
  "'" ++ name ++ "'" ++ match fault with
    | .tooLong => " is too long (max " ++ toString maxLength ++ " chars)"
    | .tooShort => " is too short (min 1 char)"
    | .badCharacter => " has non-alphanumeric/underscore chars"
    | .leadingDigit => " begins with a number"
    | .onlyUnderscores => " is just underscores"
    | .trailingUnderscore => " ends in an underscore"

def PackageFault.message (fault : PackageFault) (name : String) : String :=
  match fault with
  | .leadingUnderscore => "'" ++ name ++ "' begins with an underscore"
  | .reserved => "'" ++ name ++ "' is reserved"
  | .shared fault => fault.message name

def DependencyFault.message (fault : DependencyFault) (name : String) : String :=
  match fault with
  | .sameAsPackage => "'" ++ name ++ "' is the same as the current package name"
  | .shared fault => fault.message name

/-- Letters, digits and the underscore of ASCII. -/
def isNameChar (c : Char) : Bool :=
  c.isAlphanum || c = '_'

def beginsWith (p : Char → Bool) (name : String) : Bool :=
  (name.toList.head?.map p).getD false

def endsWithUnderscore (name : String) : Bool :=
  name.toList.getLast? = some '_'

/-- The first of the shared rules that a name breaks. -/
def fault? (name : String) : Option Fault :=
  if maxLength < name.length then some .tooLong
  else if name.isEmpty then some .tooShort
  else if !name.toList.all isNameChar then some .badCharacter
  else if beginsWith Char.isDigit name then some .leadingDigit
  else if !name.toList.any Char.isAlphanum then some .onlyUnderscores
  else if endsWithUnderscore name then some .trailingUnderscore
  else none

def packageFault? (name : String) : Option PackageFault :=
  if Identifier.isPrivateName name then some .leadingUnderscore
  else if name ∈ reserved then some .reserved
  else (fault? name).map .shared

def dependencyFault? (name package : String) : Option DependencyFault :=
  if name = package then some .sameAsPackage else (fault? name).map .shared

def checkShared (name : String) : Except NameError Unit :=
  match fault? name with
  | none => .ok ()
  | some fault => .error (.shared name fault)

/-- Package names cannot look private and cannot shadow the base game. -/
def checkPackage (name : String) : Except NameError Unit :=
  match packageFault? name with
  | none => .ok ()
  | some fault => .error (.package name fault)

/-- A capital first letter is allowed for an export, but reported. -/
def checkExport (name : String) : Report NameError Unit := do
  if beginsWith Char.isUpper name then Report.note (.capitalName name)
  match fault? name with
  | none => pure ()
  | some fault => Report.fail (.exported name fault)

/-- A dependency cannot be declared under the name of the package that declares it. -/
def checkDependency (name package : String) : Except NameError Unit :=
  match dependencyFault? name package with
  | none => .ok ()
  | some fault => .error (.dependency name fault)

theorem dependencyFault?_of_packageFault? {name package : String}
    (h : packageFault? name = none) (hne : name ≠ package) :
    dependencyFault? name package = none := by
  simp only [packageFault?] at h
  split at h
  · cases h
  · split at h
    · cases h
    · simpa [dependencyFault?, hne] using h

end Name

namespace NameError

def name : NameError → String
  | shared name _ | package name _ | exported name _ | dependency name _ => name

def message : NameError → String
  | shared name fault => fault.message name
  | package name fault => "invalid package name: " ++ fault.message name
  | exported name fault => "invalid export name: " ++ fault.message name
  | dependency name fault => "invalid dependency name: " ++ fault.message name

/-- The shared rule behind a refusal, if it was one. -/
def sharedFault? : NameError → Option Name.Fault
  | shared _ _ => none
  | package _ (.shared fault) | exported _ fault | dependency _ (.shared fault) => some fault
  | package _ _ | dependency _ _ => none

/-- The refusal that this one wraps. -/
def cause? (error : NameError) : Option NameError :=
  error.sharedFault?.map (.shared error.name)

end NameError

end ModPack
