import InbandNull.Error
import InbandNull.Logging.Event

/-!
# Outcomes

An operation on a buffer answers with a value, a violation or an error, and it logs. `Outcome` holds
the answer together with the events, in the order in which they were logged. Sequencing two
operations concatenates their events; the second does not run, and logs nothing, if the first has
failed.
-/

namespace InbandNull

open Logging (Event)

inductive Failure where
  | violation (v : Violation)
  | error (e : Error)
deriving DecidableEq, Repr

structure Outcome (α : Type) where
  events : List Event
  result : Except Failure α

namespace Outcome

variable {α β : Type}

/-- The outcome of an operation that only answers. -/
def answer (result : Except Failure α) : Outcome α := ⟨[], result⟩

def ofResolution (resolved : Except Violation α) : Outcome α :=
  answer (resolved.mapError .violation)

/-- The outcome of a check that can fail without a violation. -/
def ofCheck (checked : Except Error α) : Outcome α := answer (checked.mapError .error)

def emit (e : Event) : Outcome Unit := ⟨[e], .ok ()⟩

protected def bind (x : Outcome α) (f : α → Outcome β) : Outcome β :=
  match x.result with
  | .ok a => ⟨x.events ++ (f a).events, (f a).result⟩
  | .error failure => ⟨x.events, .error failure⟩

instance : Monad Outcome where
  pure a := answer (.ok a)
  bind := Outcome.bind

theorem ofResolution_error_bind (v : Violation) (f : α → Outcome β) :
    (ofResolution (.error v) >>= f) = ⟨[], .error (.violation v)⟩ := rfl

theorem ofResolution_ok_bind (a : α) (f : α → Outcome β) : (ofResolution (.ok a) >>= f) = f a := rfl

theorem ofCheck_error_bind (e : Error) (f : α → Outcome β) :
    (ofCheck (.error e) >>= f) = ⟨[], .error (.error e)⟩ := rfl

theorem ofCheck_ok_bind (a : α) (f : α → Outcome β) : (ofCheck (.ok a) >>= f) = f a := rfl

end Outcome

end InbandNull
