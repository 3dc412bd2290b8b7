import ModPack.Proofs.PrivateReferences

/-!
# References that are found

Whether the references of a script are found depends on the identifiers under which something is
exported, and on nothing else: not on what is exported under them, and not on indices. So a script
whose references are found with some exports has them found with all exports that cover these. Main
statements: `value_named_iff`, `Script.Found.of_resolve` and `Script.Found.not_dangling`.
-/
namespace ModPack

/-- There is something wherever the other exports have something. -/
def Exports.Covers (exports other : Exports) : Prop :=
  ∀ kind id, (other.record? kind id).isSome → (exports.record? kind id).isSome

/-- A reference that cannot be read, or under which there is nothing. -/
inductive Unresolved.Dangling : Unresolved → Prop
  | badIdentifier (text : String) (cause : ReferenceError) : Dangling (.badIdentifier text cause)
  | unknown (kind : ExportKind) (id : Identifier) : Dangling (.unknown kind id)

/-- What an actor asks for is missing or cannot be read: a string that introduces it, its script, or
an export that the script names. -/
inductive AssemblyFailure.Dangling : AssemblyFailure → Prop
  | missingString (actor : Identifier) (field : String) (id : Identifier) :
      Dangling (.refused (.missingString actor field id))
  | script (error : LoadError) : Dangling (.script error)
  | unresolved (path : Path) (line : Nat) {problem : Unresolved} (h : problem.Dangling) :
      Dangling (.unresolved ⟨path, line, problem⟩)

def AssemblyFailure.NotDangling (failure : AssemblyFailure) : Prop :=
  ¬ failure.Dangling

/-- What an expression with a meaning refers to is exported. -/
def Expression.Found (expression : Expression) (exports : Exports) (source : String) : Prop :=
  expression.Supported → ∃ text rest id, expression.arguments = text :: rest ∧
    (Identifier.parse text source).result = .ok id ∧ (exports.record? expression.kind id).isSome

theorem Expression.found_iff {expression : Expression} {exports : Exports} {source text : String}
    {rest : List String} (hsupported : expression.Supported)
    (harguments : expression.arguments = text :: rest) :
    expression.Found exports source ↔ ∃ id, (Identifier.parse text source).result = .ok id ∧
      (exports.record? expression.kind id).isSome := by
  constructor
  · intro h
    obtain ⟨other, others, id, hother, hid⟩ := h hsupported
    rw [harguments] at hother
    cases hother
    exact ⟨id, hid⟩
  · rintro ⟨id, hid⟩ _
    exact ⟨text, rest, id, harguments, hid⟩

/-- Every other expression has no meaning. -/
theorem Expression.not_supported {expression : Expression}
    (hone : ∀ reference, expression.kind = .sprite → expression.arguments = [reference] → False)
    (htwo : ∀ reference animation, expression.kind = .sprite →
      expression.arguments = [reference, animation] → False)
    (hthree : ∀ reference animation palette, expression.kind = .sprite →
      expression.arguments = [reference, animation, palette] → False)
    (htext : ∀ reference, expression.kind = .text → expression.arguments = [reference] → False)
    (hactor : ∀ reference, expression.kind = .actor → expression.arguments = [reference] → False) :
    ¬ expression.Supported := by
  intro hsupported
  obtain ⟨kind, arguments⟩ := expression
  cases kind with
  | sprite =>
    match arguments, hsupported with
    | [_], _ => exact hone _ rfl rfl
    | [_, _], _ => exact htwo _ _ rfl rfl
    | [_, _, _], _ => exact hthree _ _ _ rfl rfl
    | [], hcount | _ :: _ :: _ :: _ :: _, hcount => simp [Supported] at hcount
  | text =>
    obtain ⟨_, rfl⟩ := List.length_eq_one_iff.1 hsupported
    exact htext _ rfl rfl
  | actor =>
    obtain ⟨_, rfl⟩ := List.length_eq_one_iff.1 hsupported
    exact hactor _ rfl rfl

theorem Expression.Found.mono {expression : Expression} {exports other : Exports} {source : String}
    (h : expression.Found exports source) (hcovers : other.Covers exports) :
    expression.Found other source := by
  intro hsupported
  obtain ⟨text, rest, id, harguments, hparse, hsome⟩ := h hsupported
  exact ⟨text, rest, id, harguments, hparse, hcovers _ id hsome⟩

namespace Resolution

variable {exports : Exports} {source text : String}

/-- The failure is not that of a dangling reference. -/
def Named : Unresolved ⊕ IndexError → Prop
  | .inl problem => ¬ problem.Dangling
  | .inr _ => True

theorem animation_named (id : Identifier) (sprite : Sprite) (name : String) :
    Report.FailsIn Named (animation id sprite name) := by
  unfold animation
  split
  · exact .pure _
  · exact .fail fun h => by cases h

theorem palette_named (id : Identifier) (sprite : Sprite) (name : String) :
    Report.FailsIn Named (palette id sprite name) := by
  unfold palette
  split
  · exact .pure _
  · exact .fail fun h => by cases h

/-- Indices can be missing, but that is another matter. -/
theorem index_named {α : Type} (result : Except IndexError α) :
    Report.FailsIn Named (Report.ofExcept (result.mapError .inr)) := by
  intro cause hcause
  obtain ⟨_, _, rfl⟩ := mapError_eq_error.1 hcause
  trivial

theorem indexOf_named {α : Type} [Export α] (item : α) : Report.FailsIn Named (indexOf item) :=
  index_named _

/-- All expressions with a meaning begin in the same way: a reference is read and looked up. -/
theorem lookUp_named_iff {α β : Type} {kind : ExportKind} {registry : Registry α}
    {next : Identifier → α → Value β} (hnext : ∀ id item, Report.FailsIn Named (next id item)) :
    Report.FailsIn Named
        (identifier source text >>= fun id => lookUp kind registry id >>= next id) ↔
      ∃ id, (Identifier.parse text source).result = .ok id ∧ (registry.get? id).isSome := by
  cases hparse : (Identifier.parse text source).result with
  | error cause =>
    have hbad : (identifier source text).result = .error (.inl (.badIdentifier text cause)) :=
      Report.result_mapError_error.2 ⟨cause, hparse, rfl⟩
    refine ⟨fun h => ?_, fun ⟨_, heq, _⟩ => by cases heq⟩
    exact absurd (.badIdentifier text cause) (h _ (Report.result_bind_error.2 (.inl hbad)))
  | ok id =>
    have hread : (identifier source text).result = .ok id := Report.result_mapError_ok.2 hparse
    constructor
    · intro h
      refine ⟨id, rfl, Option.isSome_iff_ne_none.2 fun hnone => ?_⟩
      have hlost : (lookUp kind registry id >>= next id).result =
          .error (.inl (.unknown kind id)) := by
        rw [lookUp, hnone]
        rfl
      exact absurd (.unknown kind id) (h _ (Report.result_bind_error.2 (.inr ⟨id, hread, hlost⟩)))
    · rintro ⟨_, heq, hsome⟩
      cases heq
      obtain ⟨item, hitem⟩ := Option.isSome_iff_exists.1 hsome
      refine Report.FailsIn.bind_of_ok (fun cause hcause => ?_) fun found hfound => ?_
      · rw [hread] at hcause
        cases hcause
      · cases hread.symm.trans hfound
        refine Report.FailsIn.bind_of_ok (fun cause hcause => ?_) fun item _ => hnext id item
        rw [lookUp, hitem] at hcause
        cases hcause

/-- An expression fails for its reference unless that is found. -/
theorem value_named_iff (expression : Expression) :
    Report.FailsIn Named (value exports source expression) ↔ expression.Found exports source := by
  unfold value
  split
  · next hkind harguments =>
    rw [lookUp_named_iff fun _ sprite => (indexOf_named sprite).bind fun _ => .pure _,
      Expression.found_iff (by simp [Expression.Supported, hkind, harguments]) harguments, hkind]
    simp [Exports.record?]
  · next hkind harguments =>
    rw [lookUp_named_iff fun id sprite => (animation_named id sprite _).bind fun _ =>
        (indexOf_named sprite).bind fun _ => .pure _,
      Expression.found_iff (by simp [Expression.Supported, hkind, harguments]) harguments, hkind]
    simp [Exports.record?]
  · next hkind harguments =>
    rw [lookUp_named_iff fun id sprite => (animation_named id sprite _).bind fun _ =>
        (palette_named id sprite _).bind fun _ => (indexOf_named sprite).bind fun _ => .pure _,
      Expression.found_iff (by simp [Expression.Supported, hkind, harguments]) harguments, hkind]
    simp [Exports.record?]
  · next hkind harguments =>
    rw [lookUp_named_iff fun _ _ => (index_named _).bind fun _ => .pure _,
      Expression.found_iff (by simp [Expression.Supported, hkind, harguments]) harguments, hkind]
    simp [Exports.record?]
  · next hkind harguments =>
    rw [lookUp_named_iff fun _ actor => (indexOf_named actor).bind fun _ => .pure _,
      Expression.found_iff (by simp [Expression.Supported, hkind, harguments]) harguments, hkind]
    simp [Exports.record?]
  · next hone htwo hthree htext hactor =>
    refine ⟨fun _ hsupported => absurd hsupported ?_, fun _ => .pure _⟩
    exact Expression.not_supported hone htwo hthree htext hactor

end Resolution

/-! ## Scripts -/

/-- All that the script refers to is exported. -/
def Script.Found (script : Script) (exports : Exports) : Prop :=
  ∀ line ∈ script.lines, ∀ expression : Expression,
    .expression expression ∈ Expression.segments line.text.toList →
      expression.Found exports script.package

namespace Script.Found

variable {script : Script} {exports other : Exports}

theorem mono (h : script.Found exports) (hcovers : other.Covers exports) : script.Found other :=
  fun line hline expression hmem => (h line hline expression hmem).mono hcovers

/-- Where the script is to be saved does not matter. -/
theorem withPath_iff (path : Path) :
    Script.Found { script with path } exports ↔ script.Found exports :=
  Iff.rfl

theorem of_resolve (h : (script.resolve exports).failure = none) : script.Found exports := by
  intro line hline expression hmem
  obtain ⟨word, hword⟩ := Resolution.value_of_resolve h hline hmem
  refine (Resolution.value_named_iff expression).1 fun cause hcause => ?_
  rw [hword] at hcause
  cases hcause

theorem not_dangling (h : script.Found exports) {failure : ResolveFailure}
    (hfailure : (script.resolve exports).failure = some failure) :
    failure.toAssembly.NotDangling := by
  obtain ⟨line, hline, expression, cause, hmem, hcause, rfl⟩ := Resolution.resolve_failure hfailure
  have hnamed :=
    (Resolution.value_named_iff expression).2 (h line hline expression hmem) cause hcause
  cases cause with
  | inl problem =>
    intro hdangling
    cases hdangling with
    | unresolved _ _ hproblem => exact hnamed hproblem
  | inr error => exact fun hdangling => by cases hdangling

end Script.Found

end ModPack
