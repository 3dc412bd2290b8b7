import ModPack.LoadFailure

/-!
# Results of reports in sequence

What a sequence of two reports gives, told from what each of them gives. Proofs about loading open a
sequence with these equivalences and never unfold it. Main statements: `result_bind_ok` and
`result_bind_error`.
-/
namespace ModPack

variable {ε ε' α β : Type}

@[simp] theorem mapError_eq_ok {result : Except ε α} {f : ε → ε'} {value : α} :
    result.mapError f = .ok value ↔ result = .ok value := by
  cases result with
  | error cause => exact ⟨nofun, nofun⟩
  | ok found =>
    constructor
    · intro h
      rw [Except.ok.inj h]
    · intro h
      cases h
      rfl

@[simp] theorem mapError_eq_error {result : Except ε α} {f : ε → ε'} {error : ε'} :
    result.mapError f = .error error ↔ ∃ cause, result = .error cause ∧ f cause = error := by
  cases result with
  | error cause =>
    constructor
    · intro h
      exact ⟨cause, rfl, Except.error.inj h⟩
    · rintro ⟨_, h, rfl⟩
      cases h
      rfl
  | ok found => exact ⟨nofun, fun ⟨_, h, _⟩ => nomatch h⟩

theorem except_bind_ok {first : Except ε α} {next : α → Except ε β} {value : β} :
    (first >>= next) = .ok value ↔ ∃ between, first = .ok between ∧ next between = .ok value := by
  cases first <;> simp [bind, Except.bind]

theorem except_pure_ok {given value : α} : (pure given : Except ε α) = .ok value ↔ given = value :=
  ⟨Except.ok.inj, congrArg Except.ok⟩

namespace Report

@[simp] theorem result_pure (value : α) : (pure value : Report ε α).result = .ok value := rfl

@[simp] theorem result_note (event : Event) : (note event : Report ε Unit).result = .ok () := rfl

@[simp] theorem result_fail (error : ε) : (fail error : Report ε α).result = .error error := rfl

@[simp] theorem result_ofExcept (result : Except ε α) : (ofExcept result).result = result := rfl

@[simp] theorem result_mapError_ok {f : ε → ε'} {report : Report ε α} {value : α} :
    (report.mapError f).result = .ok value ↔ report.result = .ok value :=
  mapError_eq_ok

@[simp] theorem result_mapError_error {f : ε → ε'} {report : Report ε α} {error : ε'} :
    (report.mapError f).result = .error error ↔
      ∃ cause, report.result = .error cause ∧ f cause = error :=
  mapError_eq_error

/-- A sequence gives a value exactly when both of its parts do. -/
@[simp] theorem result_bind_ok {first : Report ε α} {next : α → Report ε β} {value : β} :
    (first >>= next).result = .ok value ↔
      ∃ between, first.result = .ok between ∧ (next between).result = .ok value := by
  cases h : first.result with
  | error error => simp [bind_error h]
  | ok between => simp [bind_ok h]

/-- A sequence fails with the error of its first part, or of its second once the first succeeds. -/
@[simp] theorem result_bind_error {first : Report ε α} {next : α → Report ε β} {error : ε} :
    (first >>= next).result = .error error ↔
      first.result = .error error ∨
        ∃ between, first.result = .ok between ∧ (next between).result = .error error := by
  cases h : first.result with
  | error other => simp [bind_error h]
  | ok between => simp [bind_ok h]

/-- The same for a first part that only reports or checks something. -/
@[simp high] theorem result_seq_ok {first : Report ε Unit} {next : Unit → Report ε β} {value : β} :
    (first >>= next).result = .ok value ↔
      first.result = .ok () ∧ (next ()).result = .ok value := by
  simp only [result_bind_ok]
  exact ⟨fun ⟨(), h⟩ => h, fun h => ⟨(), h⟩⟩

@[simp high] theorem result_seq_error {first : Report ε Unit} {next : Unit → Report ε β}
    {error : ε} :
    (first >>= next).result = .error error ↔
      first.result = .error error ∨ first.result = .ok () ∧ (next ()).result = .error error := by
  simp only [result_bind_error]
  exact or_congr_right ⟨fun ⟨(), h⟩ => h, fun h => ⟨(), h⟩⟩

/-- Whatever error the report ends with, it is one of these. -/
def FailsIn (errors : ε → Prop) (report : Report ε α) : Prop :=
  ∀ error, report.result = .error error → errors error

namespace FailsIn

variable {errors : ε → Prop}

theorem pure (value : α) : FailsIn errors (pure value : Report ε α) := by
  intro error h
  cases h

theorem note (event : Event) : FailsIn errors (note event : Report ε Unit) := by
  intro error h
  cases h

theorem fail {error : ε} (h : errors error) : FailsIn errors (fail error : Report ε α) := by
  intro other hother
  cases hother
  exact h

theorem ofExcept {result : Except ε α} (h : ∀ error, result = .error error → errors error) :
    FailsIn errors (ofExcept result) :=
  h

theorem mapError {causes : ε' → Prop} {f : ε' → ε} {report : Report ε' α}
    (h : FailsIn causes report) (hf : ∀ cause, causes cause → errors (f cause)) :
    FailsIn errors (report.mapError f) := by
  intro error herror
  obtain ⟨cause, hcause, rfl⟩ := result_mapError_error.1 herror
  exact hf cause (h cause hcause)

/-- The second part of a sequence may build on what the first one gives. -/
theorem bind_of_ok {first : Report ε α} {next : α → Report ε β} (h : FailsIn errors first)
    (hnext : ∀ value, first.result = .ok value → FailsIn errors (next value)) :
    FailsIn errors (first >>= next) := by
  intro error herror
  rcases result_bind_error.1 herror with hfirst | ⟨value, hvalue, hsecond⟩
  · exact h error hfirst
  · exact hnext value hvalue error hsecond

theorem bind {first : Report ε α} {next : α → Report ε β} (h : FailsIn errors first)
    (hnext : ∀ value, FailsIn errors (next value)) : FailsIn errors (first >>= next) :=
  h.bind_of_ok fun value _ => hnext value

/-- An error that stands for any cause is one of those wanted, whatever the cause. -/
theorem mapError_any {f : ε' → ε} {report : Report ε' α} (hf : ∀ cause, errors (f cause)) :
    FailsIn errors (report.mapError f) := by
  have hany : FailsIn (fun _ => True) report := fun _ _ => trivial
  exact hany.mapError fun cause _ => hf cause

end FailsIn

end Report

namespace Loading

@[simp] theorem result_refuse (error : LoadError) :
    (refuse error : Loading α).result = .error (.refused error) := rfl

@[simp] theorem result_orRefuse_ok {report : Report ε α} {error : ε → LoadError} {value : α} :
    (orRefuse report error).result = .ok value ↔ report.result = .ok value :=
  Report.result_mapError_ok

@[simp] theorem result_orRefuse_error {report : Report ε α} {error : ε → LoadError}
    {failure : LoadFailure} :
    (orRefuse report error).result = .error failure ↔
      ∃ cause, report.result = .error cause ∧ .refused (error cause) = failure :=
  Report.result_mapError_error

end Loading

end ModPack
