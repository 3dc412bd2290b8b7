import ModPack.Log

/-!
# Reports

The outcome of work that only reads: the events it reported, in order, and a result or an error.
Events reported before an error are kept. Main statements: how a sequence of two reports joins
their events.
-/
namespace ModPack

structure Report (ε α : Type) where
  events : List Event
  result : Except ε α

namespace Report

variable {ε ε' α β : Type}

protected def pure (value : α) : Report ε α :=
  ⟨[], .ok value⟩

protected def bind (first : Report ε α) (next : α → Report ε β) : Report ε β :=
  match first.result with
  | .error error => ⟨first.events, .error error⟩
  | .ok value =>
    let second := next value
    ⟨first.events ++ second.events, second.result⟩

instance : Monad (Report ε) where
  pure := Report.pure
  bind := Report.bind

def note (event : Event) : Report ε Unit :=
  ⟨[event], .ok ()⟩

def fail (error : ε) : Report ε α :=
  ⟨[], .error error⟩

def ofExcept (result : Except ε α) : Report ε α :=
  ⟨[], result⟩

def mapError (f : ε → ε') (report : Report ε α) : Report ε' α :=
  ⟨report.events, report.result.mapError f⟩

theorem bind_ok {first : Report ε α} {value : α} (h : first.result = .ok value)
    (next : α → Report ε β) :
    first >>= next = ⟨first.events ++ (next value).events, (next value).result⟩ := by
  simp [bind, Report.bind, h]

theorem bind_error {first : Report ε α} {error : ε} (h : first.result = .error error)
    (next : α → Report ε β) : first >>= next = ⟨first.events, .error error⟩ := by
  simp [bind, Report.bind, h]

end Report

end ModPack
