import ModPack.Text.Pieces

/-!
# Paths as texts write them

A path is read lexically: empty and `.` components vanish, `..` stays, and exactly two leading
slashes are kept apart from one. Joining to an absolute path gives that path. Main statement:
the components that reading leaves are neither empty nor `.`.
-/
namespace ModPack

/-- Where a path starts. -/
inductive Anchor
  | relative
  | root
  | doubleRoot
  deriving DecidableEq, Repr, Inhabited

structure Path where
  anchor : Anchor := .relative
  parts : List String := []
  deriving DecidableEq, Repr, Inhabited

namespace Path

def Anchor.ofSlashes : Nat → Anchor
  | 0 => .relative
  | 2 => .doubleRoot
  | _ => .root

def anchorText : Anchor → String
  | .relative => ""
  | .root => "/"
  | .doubleRoot => "//"

/-- Whether a component survives reading. -/
def isPart (part : String) : Bool :=
  part ≠ "" && part ≠ "."

def ofString (text : String) : Path where
  anchor := Anchor.ofSlashes (text.toList.takeWhile (· = '/')).length
  parts := (Text.splitAt '/' text).filter isPart

/-- The path as text; the relative path without components is `.`. -/
def toString (path : Path) : String :=
  if path.anchor = .relative ∧ path.parts = [] then "."
  else anchorText path.anchor ++ "/".intercalate path.parts

instance : ToString Path := ⟨toString⟩

def isAbsolute (path : Path) : Bool :=
  path.anchor ≠ .relative

/-- The path `other`, taken from `path` when it is relative. -/
def join (path other : Path) : Path :=
  if other.isAbsolute then other else { path with parts := path.parts ++ other.parts }

instance : HDiv Path String Path := ⟨fun path text => path.join (ofString text)⟩

/-- The last component; empty when there is none. -/
def name (path : Path) : String :=
  path.parts.getLastD ""

/-- The path without its last component. -/
def parent (path : Path) : Path :=
  { path with parts := path.parts.dropLast }

theorem isPart_of_mem_ofString {text part : String} (h : part ∈ (ofString text).parts) :
    isPart part = true :=
  (List.mem_filter.1 h).2

theorem join_of_isAbsolute {path other : Path} (h : other.isAbsolute = true) :
    path.join other = other :=
  if_pos h

end Path

end ModPack
