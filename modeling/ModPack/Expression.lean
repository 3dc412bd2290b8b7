import ModPack.Identifier
import ModPack.Text.Pieces

/-!
# Expressions in script lines

An expression is a keyword and at least one argument between braces, each argument behind a colon.
A line is cut into expressions and single characters; every other use of braces is plain text. Main
statement: the pieces of a line put together give the line back.
-/
namespace ModPack

structure Expression where
  kind : ExportKind
  arguments : List String
  deriving DecidableEq, Repr

/-- A piece of a line. -/
inductive Segment
  | plain (c : Char)
  | expression (value : Expression)
  deriving DecidableEq, Repr

/-- The kind that a keyword stands for. -/
def ExportKind.ofKeyword? (word : String) : Option ExportKind :=
  [ExportKind.sprite, .actor, .text].find? (·.keyword = word)

namespace Expression

def text (expression : Expression) : String :=
  "\x7b" ++ ":".intercalate (expression.kind.keyword :: expression.arguments) ++ "\x7d"

def isBrace (c : Char) : Bool :=
  c = '\x7b' || c = '\x7d'

/-- The expression that stands between two braces. -/
def ofInside? (inside : List Char) : Option Expression :=
  match (Text.pieces ':' inside).map String.ofList with
  | [] | [_] => none
  | keyword :: arguments => (ExportKind.ofKeyword? keyword).map fun kind => ⟨kind, arguments⟩

/-- The expression whose opening brace stands before a text, and the text after it. -/
def opened? (text : List Char) : Option (Expression × List Char) :=
  match text.dropWhile fun c => !isBrace c with
  | '\x7d' :: after => (ofInside? (text.takeWhile fun c => !isBrace c)).map (·, after)
  | _ => none

theorem length_le_of_opened? {text after : List Char} {expression : Expression}
    (h : opened? text = some (expression, after)) : after.length ≤ text.length := by
  unfold opened? at h
  split at h
  · next hdrop =>
    obtain ⟨_, _, heq⟩ := Option.map_eq_some_iff.1 h
    cases heq
    have := (List.dropWhile_suffix (p := fun c => !isBrace c) (l := text)).length_le
    rw [hdrop, List.length_cons] at this
    omega
  · cases h

/-- The pieces of a line, cut from left to right. -/
def segments (line : List Char) : List Segment :=
  match line with
  | [] => []
  | c :: rest =>
    if c = '\x7b' then
      match _ : opened? rest with
      | some (expression, after) => .expression expression :: segments after
      | none => .plain c :: segments rest
    else .plain c :: segments rest
termination_by line.length
decreasing_by
  · have := length_le_of_opened? ‹_›
    simp only [List.length_cons]
    omega
  · simp
  · simp

end Expression

namespace Segment

def text : Segment → List Char
  | plain c => [c]
  | expression value => value.text.toList

/-- The expressions among pieces of a line, each with the position it starts at. -/
def expressionsFrom (position : Nat) : List Segment → List (Nat × Expression)
  | [] => []
  | plain _ :: rest => expressionsFrom (position + 1) rest
  | expression value :: rest =>
    (position, value) :: expressionsFrom (position + value.text.length) rest

end Segment

namespace Expression

/-- The expressions of a line with their positions, from left to right. -/
def scan (line : String) : List (Nat × Expression) :=
  Segment.expressionsFrom 0 (segments line.toList)

theorem keyword_of_ofKeyword? {word : String} {kind : ExportKind}
    (h : ExportKind.ofKeyword? word = some kind) : kind.keyword = word := by
  simpa using List.find?_some h

theorem text_of_ofInside? {inside : List Char} {expression : Expression}
    (h : ofInside? inside = some expression) :
    expression.text.toList = '\x7b' :: inside ++ ['\x7d'] := by
  unfold ofInside? at h
  split at h
  · cases h
  · cases h
  · next keyword arguments _ hpieces =>
    obtain ⟨kind, hkind, rfl⟩ := Option.map_eq_some_iff.1 h
    have hinside := Text.intercalate_pieces ':' inside
    have hlists : (keyword :: arguments).map String.toList = Text.pieces ':' inside := by
      rw [← hpieces, List.map_map]
      simp [Function.comp_def]
    simp only [text, keyword_of_ofKeyword? hkind, String.toList_append, String.toList_intercalate]
    rw [hlists]
    simp [hinside]

theorem text_segments (line : List Char) :
    (segments line).flatMap Segment.text = line := by
  fun_induction segments line with
  | case1 => rfl
  | case2 rest expression after h ih =>
    rw [List.flatMap_cons, ih, Segment.text]
    unfold opened? at h
    split at h
    · next hdrop =>
      obtain ⟨_, hinside, heq⟩ := Option.map_eq_some_iff.1 h
      cases heq
      rw [text_of_ofInside? hinside]
      have := List.takeWhile_append_dropWhile (p := fun c => !isBrace c) (l := rest)
      rw [hdrop] at this
      simpa using this
    · cases h
  | case3 rest _ ih => simp [Segment.text, ih]
  | case4 c rest _ ih => simp [Segment.text, ih]

end Expression

end ModPack
