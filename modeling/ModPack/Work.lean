import ModPack.Disk
import ModPack.Report

/-!
# Work that changes the disk

The outcome of work that reads and writes: it goes from one site to another, which is the disk, the
events reported so far and whatever else the work holds. Work may stop with an error; what was done
before it stays done. Main statement: events that were reported stay reported.
-/
namespace ModPack

structure Site (σ : Type) where
  disk : Disk
  events : List Event := []
  held : σ

abbrev Work (σ ε : Type) := ExceptT ε (StateM (Site σ))

namespace Work

variable {σ ε ε' α : Type}

def note (event : Event) : Work σ ε Unit :=
  modify fun site => { site with events := site.events ++ [event] }

def noteAll (events : List Event) : Work σ ε Unit :=
  modify fun site => { site with events := site.events ++ events }

def disk : Work σ ε Disk := do
  return (← get).disk

def held : Work σ ε σ := do
  return (← get).held

def hold (f : σ → σ) : Work σ ε Unit :=
  modify fun site => { site with held := f site.held }

/-- What a report says, as part of the work. -/
def ofReport (report : Report ε' α) (error : ε' → ε) : Work σ ε α := fun site =>
  (report.result.mapError error, { site with events := site.events ++ report.events })

/-- Changes the disk; a system error stops the work. -/
def onDisk (op : Disk.Op α) (error : OsError → ε) : Work σ ε α := fun site =>
  let (result, disk) := op.run site.disk
  (result.mapError error, { site with disk })

def ofExcept (result : Except ε α) : Work σ ε α := fun site =>
  (result, site)

theorem events_note (event : Event) (site : Site σ) :
    ((note event : Work σ ε Unit) site).2.events = site.events ++ [event] := rfl

theorem disk_ofReport (report : Report ε' α) (error : ε' → ε) (site : Site σ) :
    ((ofReport report error : Work σ ε α) site).2.disk = site.disk := rfl

end Work

end ModPack
