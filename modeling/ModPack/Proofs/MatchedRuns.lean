import ModPack.Proofs.CopyFrames
import ModPack.Proofs.WorkSteps

/-!
# The same work on two disks

Two actions match when they come to the same result, each on its own disk, and leave disks that are
related as asked; work matches when its sites are. Errors count: what stops on one side stops on the
other with the same error, and what was done before is related as well. Main statements:
`Disk.Matched.bind` and `Work.Matched.bind`.
-/
namespace ModPack

namespace Disk

variable {α β : Type} {R : Disk → Disk → Prop} {first second : Disk}

/-- Two actions, each on its own disk, that have the same result and leave disks that are
related. -/
structure Matched (R : Disk → Disk → Prop) (op op' : Op α) (first second : Disk) : Prop where
  result : (outcome op' second).1 = (outcome op first).1
  disks : R (outcome op first).2 (outcome op' second).2

namespace Matched

theorem of_outcomes {op op' : Op α} {result : Except OsError α} {after after' : Disk}
    (h : outcome op first = (result, after)) (h' : outcome op' second = (result, after'))
    (hdisks : R after after') : Matched R op op' first second := by
  constructor
  · rw [h, h']
  · rwa [h, h']

/-- What succeeds on one disk succeeds on the other. -/
theorem outcome_ok {op op' : Op α} {value : α} {after : Disk} (h : Matched R op op' first second)
    (hfirst : outcome op first = (.ok value, after)) :
    ∃ after', outcome op' second = (.ok value, after') ∧ R after after' := by
  obtain ⟨hresult, hdisks⟩ := h
  rw [hfirst] at hresult hdisks
  exact ⟨(outcome op' second).2, Prod.ext hresult rfl, hdisks⟩

theorem pure (hdisks : R first second) (value : α) :
    Matched R (pure value : Op α) (pure value) first second :=
  ⟨rfl, hdisks⟩

theorem throw (hdisks : R first second) (error : OsError) :
    Matched R (throw error : Op α) (throw error) first second :=
  ⟨rfl, hdisks⟩

theorem bind {op op' : Op α} {next next' : α → Op β} (h : Matched R op op' first second)
    (hnext : ∀ value after after', R after after' →
      Matched R (next value) (next' value) after after') :
    Matched R (op >>= next) (op' >>= next') first second := by
  obtain ⟨hresult, hdisks⟩ := h
  rcases hfirst : outcome op first with ⟨result, after⟩
  rcases hsecond : outcome op' second with ⟨other, after'⟩
  rw [hfirst, hsecond] at hresult hdisks
  dsimp only at hresult hdisks
  subst hresult
  have hone := outcome_bind op next first
  have htwo := outcome_bind op' next' second
  rw [hfirst] at hone
  rw [hsecond] at htwo
  cases other with
  | error error => exact .of_outcomes hone htwo hdisks
  | ok value =>
    obtain ⟨hsame, hafter⟩ := hnext value after after' hdisks
    constructor
    · rw [hone, htwo]
      exact hsame
    · rw [hone, htwo]
      exact hafter

theorem get_bind {next next' : Disk → Op α}
    (h : Matched R (next first) (next' second) first second) :
    Matched R (get >>= next) (get >>= next') first second :=
  ⟨h.result, h.disks⟩

theorem ofExcept_bind {result : Except OsError α} {next next' : α → Op β}
    (hdisks : R first second)
    (h : ∀ value, result = .ok value → Matched R (next value) (next' value) first second) :
    Matched R ((result : Op α) >>= next) ((result : Op α) >>= next') first second := by
  cases result with
  | error error => exact ⟨rfl, hdisks⟩
  | ok value => exact ⟨(h value rfl).result, (h value rfl).disks⟩

theorem tryCatch {body : Op α} {handler : OsError → Op α} (h : Matched R body body first second)
    (hhandler : ∀ error after after', R after after' →
      Matched R (handler error) (handler error) after after') :
    Matched R (tryCatch body handler) (tryCatch body handler) first second := by
  obtain ⟨hresult, hafter⟩ := h
  have hone := outcome_tryCatch body handler first
  have htwo := outcome_tryCatch body handler second
  rcases hfirst : outcome body first with ⟨result, after⟩
  rcases hsecond : outcome body second with ⟨other, after'⟩
  rw [hfirst, hsecond] at hresult hafter
  dsimp only at hresult hafter
  subst hresult
  rw [hfirst] at hone
  rw [hsecond] at htwo
  cases other with
  | ok value => exact .of_outcomes hone htwo hafter
  | error error =>
    obtain ⟨hsame, hhandled⟩ := hhandler error after after' hafter
    constructor
    · rw [hone, htwo]
      exact hsame
    · rw [hone, htwo]
      exact hhandled

/-- The induction is on the items. -/
theorem mapM {items : List α} {work : α → Op β} (hdisks : R first second)
    (h : ∀ item ∈ items, ∀ first second, R first second →
      Matched R (work item) (work item) first second) :
    Matched R (items.mapM work) (items.mapM work) first second := by
  induction items generalizing first second with
  | nil => exact .pure hdisks []
  | cons item items ih =>
    obtain ⟨hitem, hrest⟩ := List.forall_mem_cons.1 h
    rw [List.mapM_cons]
    refine (hitem first second hdisks).bind fun value _ _ hdisks => ?_
    exact (ih hdisks hrest).bind fun _ _ _ hdisks => .pure hdisks _

/-- The induction is on the items. -/
theorem forIn {items : List α} {work : α → PUnit → Op (ForInStep PUnit)} (hdisks : R first second)
    (h : ∀ item ∈ items, ∀ first second, R first second →
      Matched R (work item ⟨⟩) (work item ⟨⟩) first second) :
    Matched R (forIn items PUnit.unit work) (forIn items PUnit.unit work) first second := by
  induction items generalizing first second with
  | nil => exact .pure hdisks _
  | cons item items ih =>
    obtain ⟨hitem, hrest⟩ := List.forall_mem_cons.1 h
    rw [List.forIn_cons]
    refine (hitem first second hdisks).bind fun step _ _ hdisks => ?_
    cases step with
    | done value => exact .pure hdisks value
    | yield value => exact ih hdisks hrest

end Matched

end Disk

namespace Work

variable {σ ε ε' α β : Type} {R : Site σ → Site σ → Prop} {site other : Site σ}

/-- The work comes to the same at both sites, and leaves two sites that are related. -/
structure Matched (R : Site σ → Site σ → Prop) (work : Work σ ε α) (site other : Site σ) :
    Prop where
  result : (outcome work other).1 = (outcome work site).1
  sites : R (outcome work site).2 (outcome work other).2

namespace Matched

theorem pure (h : R site other) (value : α) : Matched R (pure value : Work σ ε α) site other :=
  ⟨rfl, h⟩

theorem throw (h : R site other) (error : ε) :
    Matched R (throw error : Work σ ε α) site other :=
  ⟨rfl, h⟩

/-- A sequence matches when its first part does, and its second part at the sites that the first
one leaves when it succeeds. -/
theorem bind {first : Work σ ε α} {next : α → Work σ ε β} (h : Matched R first site other)
    (hnext : ∀ value between beside, outcome first site = (.ok value, between) →
      outcome first other = (.ok value, beside) → R between beside →
        Matched R (next value) between beside) : Matched R (first >>= next) site other := by
  obtain ⟨hresult, hsites⟩ := h
  rcases hsite : outcome first site with ⟨result, between⟩
  rcases hother : outcome first other with ⟨result', beside⟩
  rw [hsite, hother] at hresult hsites
  dsimp only at hresult hsites
  subst hresult
  cases result' with
  | error error =>
    constructor
    · rw [outcome_bind_of_error hsite, outcome_bind_of_error hother]
    · rwa [outcome_bind_of_error hsite, outcome_bind_of_error hother]
  | ok value =>
    obtain ⟨hresult, hsites⟩ := hnext value between beside hsite hother hsites
    constructor
    · rwa [outcome_bind_of_ok hsite, outcome_bind_of_ok hother]
    · rwa [outcome_bind_of_ok hsite, outcome_bind_of_ok hother]

/-- Actions that match are work that matches. -/
theorem onDisk {S : Disk → Disk → Prop} {op : Disk.Op α} {error : OsError → ε}
    (h : Disk.Matched S op op site.disk other.disk)
    (hS : ∀ disk disk', S disk disk' → R { site with disk } { other with disk := disk' }) :
    Matched R (onDisk op error) site other := by
  constructor
  · change (Disk.outcome op other.disk).1.mapError error =
      (Disk.outcome op site.disk).1.mapError error
    rw [h.result]
  · exact hS _ _ h.disks

theorem ofExcept (h : R site other) (result : Except ε α) :
    Matched R (ofExcept result : Work σ ε α) site other :=
  ⟨rfl, h⟩

theorem ofReport {report : Report ε' α} {error : ε' → ε}
    (h : R { site with events := site.events ++ report.events }
      { other with events := other.events ++ report.events }) :
    Matched R (ofReport report error) site other :=
  ⟨rfl, h⟩

theorem held_bind {next : σ → Work σ ε β} (hheld : other.held = site.held)
    (h : Matched R (next site.held) site other) : Matched R (held >>= next) site other := by
  obtain ⟨hresult, hsites⟩ := h
  constructor
  · rw [outcome_held_bind, outcome_held_bind, hheld]
    exact hresult
  · rw [outcome_held_bind, outcome_held_bind, hheld]
    exact hsites

/-- What follows reads the same of both disks. -/
theorem disk_bind {next : Disk → Work σ ε β} (hdisk : next other.disk = next site.disk)
    (h : Matched R (next site.disk) site other) : Matched R (disk >>= next) site other := by
  obtain ⟨hresult, hsites⟩ := h
  constructor
  · rw [outcome_disk_bind, outcome_disk_bind, hdisk]
    exact hresult
  · rw [outcome_disk_bind, outcome_disk_bind, hdisk]
    exact hsites

theorem note_bind {event : Event} {next : Unit → Work σ ε β}
    (h : Matched R (next ()) { site with events := site.events ++ [event] }
      { other with events := other.events ++ [event] }) :
    Matched R (note event >>= next) site other :=
  ⟨h.result, h.sites⟩

theorem hold_bind {f : σ → σ} {next : Unit → Work σ ε β}
    (h : Matched R (next ()) { site with held := f site.held }
      { other with held := f other.held }) :
    Matched R (hold f >>= next) site other :=
  ⟨h.result, h.sites⟩

end Matched

end Work

end ModPack
