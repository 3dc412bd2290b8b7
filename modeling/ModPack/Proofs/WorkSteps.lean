import ModPack.Proofs.DiskSteps
import ModPack.Proofs.ReportResult
import ModPack.Work

/-!
# Outcomes of work

What work that succeeds leaves of its site, the errors that other work ends with, what work does
to the disk either way, and what the same work does at two sites, told by its parts. Proofs about
assembling open an outcome with these lemmas and never unfold it. Main statements:
`outcome_bind_ok`, `outcome_onDisk_ok`, `FailsIn.bind`, `Leaves.bind` and `Tied.bind`.
-/
namespace ModPack.Work

variable {σ ε ε' α β : Type} {site after : Site σ} {value : α}

/-- What work gives at a site, and the site it leaves. -/
def outcome (work : Work σ ε α) (site : Site σ) : Except ε α × Site σ :=
  work.run site

theorem outcome_bind (first : Work σ ε α) (next : α → Work σ ε β) (site : Site σ) :
    outcome (first >>= next) site =
      match outcome first site with
      | (.ok middle, between) => outcome (next middle) between
      | (.error error, between) => (.error error, between) := by
  change (ExceptT.bindCont next (first.run site).1) (first.run site).2 = _
  unfold outcome
  rcases first.run site with ⟨_ | _, _⟩ <;> rfl

theorem outcome_bind_of_ok {first : Work σ ε α} {next : α → Work σ ε β} {middle : α}
    {between : Site σ} (h : outcome first site = (.ok middle, between)) :
    outcome (first >>= next) site = outcome (next middle) between := by
  rw [outcome_bind, h]

theorem outcome_bind_of_error {first : Work σ ε α} {next : α → Work σ ε β} {error : ε}
    (h : outcome first site = (.error error, after)) :
    outcome (first >>= next) site = (.error error, after) := by
  rw [outcome_bind, h]

/-- A sequence succeeds when its first part does and its second part does after it. -/
theorem outcome_bind_ok {first : Work σ ε α} {next : α → Work σ ε β} {value : β} :
    outcome (first >>= next) site = (.ok value, after) ↔
      ∃ middle between, outcome first site = (.ok middle, between) ∧
        outcome (next middle) between = (.ok value, after) := by
  rw [outcome_bind]
  rcases outcome first site with ⟨error | middle, between⟩
  · simp
  · constructor
    · intro h
      exact ⟨middle, between, rfl, h⟩
    · rintro ⟨_, _, heq, h⟩
      cases heq
      exact h

/-- The same for a first part that gives no value. -/
theorem outcome_seq_ok {first : Work σ ε Unit} {next : Unit → Work σ ε β} {value : β} :
    outcome (first >>= next) site = (.ok value, after) ↔
      ∃ between, outcome first site = (.ok (), between) ∧
        outcome (next ()) between = (.ok value, after) := by
  rw [outcome_bind_ok]
  exact ⟨fun ⟨(), h⟩ => h, fun h => ⟨(), h⟩⟩

/-- A sequence fails with its first part, or with its second part after it. -/
theorem outcome_bind_error {first : Work σ ε α} {next : α → Work σ ε β} {error : ε} :
    outcome (first >>= next) site = (.error error, after) ↔
      outcome first site = (.error error, after) ∨
        ∃ middle between, outcome first site = (.ok middle, between) ∧
          outcome (next middle) between = (.error error, after) := by
  rw [outcome_bind]
  rcases outcome first site with ⟨cause | middle, between⟩
  · simp
  · constructor
    · intro h
      exact .inr ⟨middle, between, rfl, h⟩
    · rintro (h | ⟨_, _, heq, h⟩)
      · cases h
      · cases heq
        exact h

theorem outcome_pure (value : α) (site : Site σ) :
    outcome (pure value : Work σ ε α) site = (.ok value, site) := rfl

theorem outcome_throw (error : ε) (site : Site σ) :
    outcome (throw error : Work σ ε α) site = (.error error, site) := rfl

theorem outcome_held_bind (next : σ → Work σ ε β) (site : Site σ) :
    outcome (held >>= next) site = outcome (next site.held) site := rfl

theorem outcome_disk_bind (next : Disk → Work σ ε β) (site : Site σ) :
    outcome (disk >>= next) site = outcome (next site.disk) site := rfl

theorem outcome_note_bind (event : Event) (next : Unit → Work σ ε β) (site : Site σ) :
    outcome (note event >>= next) site =
      outcome (next ()) { site with events := site.events ++ [event] } := rfl

theorem outcome_hold_bind (f : σ → σ) (next : Unit → Work σ ε β) (site : Site σ) :
    outcome (hold f >>= next) site = outcome (next ()) { site with held := f site.held } := rfl

/-- Work on the disk succeeds when the action does, and leaves all else of the site as it is. -/
theorem outcome_onDisk_ok {op : Disk.Op α} {error : OsError → ε} :
    outcome (onDisk op error) site = (.ok value, after) ↔
      ∃ disk, Disk.outcome op site.disk = (.ok value, disk) ∧ { site with disk } = after := by
  have hrun : outcome (onDisk op error) site =
      ((Disk.outcome op site.disk).1.mapError error,
        { site with disk := (Disk.outcome op site.disk).2 }) := rfl
  rw [hrun, Prod.mk.injEq, mapError_eq_ok]
  obtain ⟨result, disk⟩ := Disk.outcome op site.disk
  constructor
  · rintro ⟨rfl, rfl⟩
    exact ⟨disk, rfl, rfl⟩
  · rintro ⟨_, heq, rfl⟩
    cases heq
    exact ⟨rfl, rfl⟩

theorem outcome_ofExcept_ok {result : Except ε α} :
    outcome (ofExcept result : Work σ ε α) site = (.ok value, after) ↔
      result = .ok value ∧ site = after := by
  have hrun : outcome (ofExcept result : Work σ ε α) site = (result, site) := rfl
  rw [hrun, Prod.mk.injEq]

theorem outcome_ofReport_ok {report : Report ε' α} {error : ε' → ε} :
    outcome (ofReport report error) site = (.ok value, after) ↔
      report.result = .ok value ∧
        { site with events := site.events ++ report.events } = after := by
  have hrun : outcome (ofReport report error) site = (report.result.mapError error,
      { site with events := site.events ++ report.events }) := rfl
  rw [hrun, Prod.mk.injEq, mapError_eq_ok]

/-! ## Failures -/

/-- Whatever error the work ends with at this site, it is one of these. -/
def FailsIn (errors : ε → Prop) (work : Work σ ε α) (site : Site σ) : Prop :=
  ∀ error after, outcome work site = (.error error, after) → errors error

namespace FailsIn

variable {errors : ε → Prop}

theorem pure (value : α) (site : Site σ) : FailsIn errors (pure value : Work σ ε α) site := by
  intro error after h
  cases h

theorem throw {error : ε} (h : errors error) (site : Site σ) :
    FailsIn errors (throw error : Work σ ε α) site := by
  intro other after hother
  cases hother
  exact h

/-- A sequence fails as its first part does, or as its second one at the site that the first one
leaves when it succeeds. -/
theorem bind {first : Work σ ε α} {next : α → Work σ ε β} (h : FailsIn errors first site)
    (hnext : ∀ value between, outcome first site = (.ok value, between) →
      FailsIn errors (next value) between) : FailsIn errors (first >>= next) site := by
  intro error after herror
  rw [outcome_bind] at herror
  rcases hfirst : outcome first site with ⟨cause | middle, between⟩
  · rw [hfirst] at herror
    cases herror
    exact h error _ hfirst
  · rw [hfirst] at herror
    exact hnext middle between hfirst error after herror

theorem onDisk {op : Disk.Op α} {error : OsError → ε} (h : ∀ cause, errors (error cause))
    (site : Site σ) : FailsIn errors (onDisk op error) site := by
  intro failure after hfailure
  have hresult : (Disk.outcome op site.disk).1.mapError error = .error failure :=
    congrArg Prod.fst hfailure
  obtain ⟨cause, _, rfl⟩ := mapError_eq_error.1 hresult
  exact h cause

theorem ofExcept {result : Except ε α} (h : ∀ error, result = .error error → errors error)
    (site : Site σ) : FailsIn errors (ofExcept result : Work σ ε α) site := by
  intro error after herror
  exact h error (congrArg Prod.fst herror)

theorem ofReport {report : Report ε' α} {error : ε' → ε}
    (h : ∀ cause, report.result = .error cause → errors (error cause)) (site : Site σ) :
    FailsIn errors (ofReport report error) site := by
  intro failure after hfailure
  have hresult : report.result.mapError error = .error failure := congrArg Prod.fst hfailure
  obtain ⟨cause, hcause, rfl⟩ := mapError_eq_error.1 hresult
  exact h cause hcause

theorem held_bind {next : σ → Work σ ε β} (h : FailsIn errors (next site.held) site) :
    FailsIn errors (held >>= next) site := h

theorem disk_bind {next : Disk → Work σ ε β} (h : FailsIn errors (next site.disk) site) :
    FailsIn errors (disk >>= next) site := h

theorem note_bind {event : Event} {next : Unit → Work σ ε β}
    (h : FailsIn errors (next ()) { site with events := site.events ++ [event] }) :
    FailsIn errors (note event >>= next) site := h

theorem hold_bind {f : σ → σ} {next : Unit → Work σ ε β}
    (h : FailsIn errors (next ()) { site with held := f site.held }) :
    FailsIn errors (hold f >>= next) site := h

end FailsIn

/-! ## The disk -/

/-- Whatever the work comes to at this site, the disks before and after it are related so. -/
def Leaves (R : Disk → Disk → Prop) (work : Work σ ε α) (site : Site σ) : Prop :=
  R site.disk (outcome work site).2.disk

namespace Leaves

variable {R : Disk → Disk → Prop}

theorem pure (hrefl : ∀ disk, R disk disk) (value : α) (site : Site σ) :
    Leaves R (pure value : Work σ ε α) site :=
  hrefl site.disk

theorem throw (hrefl : ∀ disk, R disk disk) (error : ε) (site : Site σ) :
    Leaves R (throw error : Work σ ε α) site :=
  hrefl site.disk

theorem bind (htrans : ∀ before between after, R before between → R between after →
      R before after) {first : Work σ ε α} {next : α → Work σ ε β} (h : Leaves R first site)
    (hnext : ∀ value between, outcome first site = (.ok value, between) →
      Leaves R (next value) between) : Leaves R (first >>= next) site := by
  unfold Leaves at h ⊢
  rw [outcome_bind]
  rcases hfirst : outcome first site with ⟨error | middle, between⟩
  · rwa [hfirst] at h
  · rw [hfirst] at h
    exact htrans _ _ _ h (hnext middle between hfirst)

theorem of_outcome {work : Work σ ε α} {result : Except ε α} (h : Leaves R work site)
    (hrun : outcome work site = (result, after)) : R site.disk after.disk := by
  rwa [Leaves, hrun] at h

theorem onDisk {op : Disk.Op α} {error : OsError → ε}
    (h : R site.disk (Disk.outcome op site.disk).2) : Leaves R (onDisk op error) site := h

theorem ofExcept (hrefl : ∀ disk, R disk disk) (result : Except ε α) (site : Site σ) :
    Leaves R (ofExcept result : Work σ ε α) site :=
  hrefl site.disk

theorem ofReport (hrefl : ∀ disk, R disk disk) (report : Report ε' α) (error : ε' → ε)
    (site : Site σ) : Leaves R (ofReport report error) site :=
  hrefl site.disk

theorem held_bind {next : σ → Work σ ε β} (h : Leaves R (next site.held) site) :
    Leaves R (held >>= next) site := h

theorem disk_bind {next : Disk → Work σ ε β} (h : Leaves R (next site.disk) site) :
    Leaves R (disk >>= next) site := h

theorem note_bind {event : Event} {next : Unit → Work σ ε β}
    (h : Leaves R (next ()) { site with events := site.events ++ [event] }) :
    Leaves R (note event >>= next) site := h

theorem hold_bind {f : σ → σ} {next : Unit → Work σ ε β}
    (h : Leaves R (next ()) { site with held := f site.held }) :
    Leaves R (hold f >>= next) site := h

end Leaves

/-! ## Two sites -/

/-- When the work succeeds at both sites it gives the same, and leaves two sites that are
related. -/
def Tied (R : Site σ → Site σ → Prop) (work : Work σ ε α) (site other : Site σ) : Prop :=
  ∀ value after, outcome work site = (.ok value, after) →
    ∀ value' beside, outcome work other = (.ok value', beside) → value' = value ∧ R after beside

namespace Tied

variable {R : Site σ → Site σ → Prop} {other : Site σ}

theorem pure (h : R site other) (value : α) :
    Tied R (pure value : Work σ ε α) site other := by
  rintro _ _ ⟨⟩ _ _ ⟨⟩
  exact ⟨rfl, h⟩

theorem throw (error : ε) : Tied R (throw error : Work σ ε α) site other := by
  rintro _ _ ⟨⟩

/-- A sequence ties when its first part does, and its second part at the sites that the first one
leaves. -/
theorem bind {first : Work σ ε α} {next : α → Work σ ε β} (h : Tied R first site other)
    (hnext : ∀ value between beside, outcome first site = (.ok value, between) →
      outcome first other = (.ok value, beside) → R between beside →
        Tied R (next value) between beside) : Tied R (first >>= next) site other := by
  intro value after hrun value' beside hrun'
  obtain ⟨middle, between, hfirst, hrest⟩ := outcome_bind_ok.1 hrun
  obtain ⟨middle', between', hfirst', hrest'⟩ := outcome_bind_ok.1 hrun'
  obtain ⟨rfl, hbetween⟩ := h middle between hfirst middle' between' hfirst'
  exact hnext middle' between between' hfirst hfirst' hbetween value after hrest value' beside
    hrest'

theorem onDisk {op : Disk.Op α} {error : OsError → ε}
    (h : ∀ value disk, Disk.outcome op site.disk = (.ok value, disk) →
      ∀ value' disk', Disk.outcome op other.disk = (.ok value', disk') →
        value' = value ∧ R { site with disk } { other with disk := disk' }) :
    Tied R (onDisk op error) site other := by
  intro value after hrun value' beside hrun'
  obtain ⟨disk, hdisk, rfl⟩ := outcome_onDisk_ok.1 hrun
  obtain ⟨disk', hdisk', rfl⟩ := outcome_onDisk_ok.1 hrun'
  exact h value disk hdisk value' disk' hdisk'

theorem ofExcept (h : R site other) (result : Except ε α) :
    Tied R (ofExcept result : Work σ ε α) site other := by
  intro value after hrun value' beside hrun'
  obtain ⟨hvalue, rfl⟩ := outcome_ofExcept_ok.1 hrun
  obtain ⟨hvalue', rfl⟩ := outcome_ofExcept_ok.1 hrun'
  rw [hvalue] at hvalue'
  cases hvalue'
  exact ⟨rfl, h⟩

/-- Actions in sequence are work in sequence. -/
theorem onDisk_bind {first : Disk.Op α} {next : α → Disk.Op β} {error : OsError → ε}
    (h : Tied R (Work.onDisk first error >>= fun value => Work.onDisk (next value) error) site
      other) : Tied R (Work.onDisk (first >>= next) error) site other := by
  have hparts {site after : Site σ} {value : β}
      (hrun : outcome (Work.onDisk (first >>= next) error) site = (.ok value, after)) :
      outcome (Work.onDisk first error >>= fun value => Work.onDisk (next value) error) site =
        (.ok value, after) := by
    obtain ⟨disk, hdisk, rfl⟩ := outcome_onDisk_ok.1 hrun
    obtain ⟨middle, between, hfirst, hnext⟩ := Disk.outcome_bind_ok.1 hdisk
    exact outcome_bind_ok.2 ⟨middle, { site with disk := between },
      outcome_onDisk_ok.2 ⟨between, hfirst, rfl⟩, outcome_onDisk_ok.2 ⟨disk, hnext, rfl⟩⟩
  exact fun value after hrun value' beside hrun' =>
    h value after (hparts hrun) value' beside (hparts hrun')

theorem ofReport {report : Report ε' α} {error : ε' → ε}
    (h : R { site with events := site.events ++ report.events }
      { other with events := other.events ++ report.events }) :
    Tied R (ofReport report error) site other := by
  intro value after hrun value' beside hrun'
  obtain ⟨hvalue, rfl⟩ := outcome_ofReport_ok.1 hrun
  obtain ⟨hvalue', rfl⟩ := outcome_ofReport_ok.1 hrun'
  rw [hvalue] at hvalue'
  cases hvalue'
  exact ⟨rfl, h⟩

theorem held_bind {next : σ → Work σ ε β} (hheld : other.held = site.held)
    (h : Tied R (next site.held) site other) : Tied R (held >>= next) site other := by
  intro value after hrun value' beside hrun'
  rw [outcome_held_bind, hheld] at hrun'
  exact h value after hrun value' beside hrun'

theorem note_bind {event : Event} {next : Unit → Work σ ε β}
    (h : Tied R (next ()) { site with events := site.events ++ [event] }
      { other with events := other.events ++ [event] }) :
    Tied R (note event >>= next) site other := h

theorem hold_bind {f : σ → σ} {next : Unit → Work σ ε β}
    (h : Tied R (next ()) { site with held := f site.held } { other with held := f other.held }) :
    Tied R (hold f >>= next) site other := h

end Tied

end ModPack.Work
