import InbandNull.Buffer.Outcome
import InbandNull.Logging.Facility

/-!
# Handling violations

What becomes of a violation is not the operation's to decide. `Facility.run` takes the outcome of an
operation, hands its events to the logger and, if it is a violation, lets a `Handler` deal with it:
the host's handler logs it, repeats it on standard error and halts the process; a device halts at
once. Every event has a time of its own.
-/

namespace InbandNull

/-- What a process does about a violation. -/
inductive Handler where
  /-- Hands it to the caller. -/
  | report
  | host
  | device
deriving DecidableEq, Repr

instance : Inhabited Handler := ⟨.host⟩

/-- How an operation ends for its caller. -/
inductive Ending (α : Type) where
  | answered (result : Except Failure α)
  /-- The process has halted, and there is no caller any more. -/
  | halted

namespace Logging.Facility

variable {α : Type}

def violate (f : Facility) (time : String) (h : Handler) (v : Violation) : Facility :=
  match h with
  | .report | .device => f
  | .host =>
    let e := Event.violated v
    (f.emit ⟨time, e⟩).write .stderr e.text

def run (f : Facility) (clock : Clock) (h : Handler) (x : Outcome α) : Facility × Ending α :=
  let f := f.emitAll (stamp clock x.events)
  match x.result with
  | .error (.violation v) =>
    (f.violate (clock x.events.length) h v,
      if h = .report then .answered x.result else .halted)
  | .ok _ | .error (.error _) => (f, .answered x.result)

end Logging.Facility

end InbandNull
