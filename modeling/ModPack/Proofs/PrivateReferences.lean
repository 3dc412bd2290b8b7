import ModPack.Proofs.Introductions
import ModPack.Proofs.ReferenceResolution

/-!
# Private exports in scripts

An expression gets a word only from an export that scripts of its package can name. One that names a
private export of any package, be it its own, is refused when it is read, whatever is exported, and
a script with such an expression does not resolve. Main statements: `value_named`,
`value_of_private` and `Script.NamesPrivate.failure_isSome`.
-/
namespace ModPack

/-- Expressions with a meaning: a keyword with a number of arguments that there is a value for. -/
def Expression.Supported (expression : Expression) : Prop :=
  match expression.kind with
  | .sprite => expression.arguments.length ∈ [1, 2, 3]
  | .text | .actor => expression.arguments.length = 1

/-- A text that names a private export of a package, which can be any text without a slash. -/
structure Identifier.NamesPrivate (text package name : String) : Prop where
  text_eq : text = package ++ "/" ++ name
  slash : '/' ∉ package.toList
  valid : Name.fault? name = none
  isPrivate : isPrivateName name = true

/-- Nothing that is said of the package makes up for it. -/
theorem Identifier.parse_of_namesPrivate {text package name : String}
    (h : NamesPrivate text package name) (source : String) :
    (parse text source).result = .error (.privateName text name) := by
  have hsplit : splitSlash? text = some (package, name) := by
    have hqualified : splitSlash? (qualified ⟨package, name⟩) = some (package, name) :=
      splitSlash?_qualified h.slash
    rwa [h.text_eq]
  have htext : text.isEmpty = false := by
    rw [Bool.eq_false_iff]
    intro hempty
    rw [String.isEmpty_iff.1 hempty] at hsplit
    cases hsplit
  have hname : name.isEmpty = false := by
    simpa [Bool.eq_false_iff, String.isEmpty_iff] using Name.ne_empty_of_fault? h.valid
  unfold parse
  dsimp only
  rw [htext, hsplit]
  simp [hname, h.isPrivate, Name.checkExport_ok.2 h.valid]

namespace Resolution

variable {exports : Exports} {source text package name : String} {expression : Expression}
  {rest : List String}

/-- The export that an expression with a word names. -/
theorem value_named {word : String}
    (h : (value exports source expression).result = .ok (some word)) :
    ∃ text rest id, expression.arguments = text :: rest ∧
      (Identifier.parse text source).result = .ok id ∧ Identifier.NamedFrom source id := by
  have hparse {β : Type} {text : String} {next : Identifier → Value β} {result : β}
      (hresult : (identifier source text >>= next).result = .ok result) :
      ∃ id, (Identifier.parse text source).result = .ok id ∧ Identifier.NamedFrom source id := by
    obtain ⟨id, hid, _⟩ := Report.result_bind_ok.1 hresult
    have hid := Report.result_mapError_ok.1 hid
    exact ⟨id, hid, Identifier.namedFrom_of_parse hid⟩
  unfold value at h
  split at h
  case h_6 => cases h
  all_goals
    next harguments =>
      obtain ⟨id, hid⟩ := hparse h
      exact ⟨_, _, id, harguments, hid⟩

/-- Reading the reference comes first, whatever the expression asks for. -/
theorem value_of_private (hsupported : expression.Supported)
    (harguments : expression.arguments = text :: rest)
    (h : Identifier.NamesPrivate text package name) (exports : Exports) (source : String) :
    (value exports source expression).result =
      .error (.inl (.badIdentifier text (.privateName text name))) := by
  have hidentifier : (identifier source text).result =
      .error (.inl (.badIdentifier text (.privateName text name))) :=
    Report.result_mapError_error.2 ⟨_, Identifier.parse_of_namesPrivate h source, rfl⟩
  obtain ⟨kind, arguments⟩ := expression
  cases harguments
  cases kind with
  | sprite =>
    match rest, hsupported with
    | [], _ => exact Report.result_bind_error.2 (.inl hidentifier)
    | [_], _ => exact Report.result_bind_error.2 (.inl hidentifier)
    | [_, _], _ => exact Report.result_bind_error.2 (.inl hidentifier)
    | _ :: _ :: _ :: _, hcount => simp [Expression.Supported] at hcount
  | text =>
    match rest, hsupported with
    | [], _ => exact Report.result_bind_error.2 (.inl hidentifier)
    | _ :: _, hcount => simp [Expression.Supported] at hcount
  | actor =>
    match rest, hsupported with
    | [], _ => exact Report.result_bind_error.2 (.inl hidentifier)
    | _ :: _, hcount => simp [Expression.Supported] at hcount

/-! ## Scripts -/

/-- A line that resolves has its pieces resolved. -/
theorem segment_of_segments {place : Place} {pieces : List Segment} {piece : Segment}
    {result : List Char} (h : (segments exports place pieces).result = .ok result)
    (hmem : piece ∈ pieces) : ∃ front, (segment exports place piece).result = .ok front := by
  induction pieces generalizing result with
  | nil => cases hmem
  | cons first pieces ih =>
    rw [segments] at h
    obtain ⟨front, hfirst, h⟩ := Report.result_bind_ok.1 h
    obtain ⟨back, hrest, _⟩ := Report.result_bind_ok.1 h
    rcases List.mem_cons.1 hmem with rfl | hmem
    · exact ⟨front, hfirst⟩
    · exact ih hrest hmem

/-- In a script that resolves every expression has been given a value. -/
theorem value_of_resolve {script : Script} {line : Line}
    (h : (script.resolve exports).failure = none) (hline : line ∈ script.lines)
    (hmem : .expression expression ∈ Expression.segments line.text.toList) :
    ∃ word, (value exports script.package expression).result = .ok word := by
  obtain ⟨place, hplace⟩ := List.mem_iff_getElem?.1 hline
  obtain ⟨_, _, hresult⟩ := getElem?_of_forall₂ (forall₂_of_resolve h) hplace
  rw [Resolution.line] at hresult
  obtain ⟨_, hsegments, _⟩ := Report.result_bind_ok.1 hresult
  obtain ⟨_, hsegment⟩ := segment_of_segments hsegments hmem
  rw [segment] at hsegment
  obtain ⟨word, hword, _⟩ := Report.result_bind_ok.1 hsegment
  exact ⟨word, Report.result_mapError_ok.1 hword⟩

end Resolution

/-- An expression that names a private export in a text with a package. -/
def Expression.NamesPrivate (expression : Expression) : Prop :=
  expression.Supported ∧ ∃ text rest package name,
    expression.arguments = text :: rest ∧ Identifier.NamesPrivate text package name

/-- A script in which there is such an expression. -/
def Script.NamesPrivate (script : Script) : Prop :=
  ∃ line ∈ script.lines, ∃ expression,
    .expression expression ∈ Expression.segments line.text.toList ∧ expression.NamesPrivate

theorem Script.NamesPrivate.failure_isSome {script : Script} (h : script.NamesPrivate)
    (exports : Exports) : (script.resolve exports).failure.isSome := by
  obtain ⟨line, hline, expression, hmem, hsupported, text, rest, package, name, harguments,
    hprivate⟩ := h
  rw [Option.isSome_iff_ne_none]
  intro hnone
  obtain ⟨word, hword⟩ := Resolution.value_of_resolve hnone hline hmem
  rw [Resolution.value_of_private hsupported harguments hprivate] at hword
  cases hword

end ModPack
