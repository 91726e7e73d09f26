import InbandNull.Logging.Level
import InbandNull.Violation

/-!
# Events

Everything the library logs: a scan that could not view its buffer in place, a finished scan, and a
violation. An event has a severity, an origin and a text; how a line is made of these is a matter of
the logger. What is handed to the log is a `Record`: an event with the time of that moment.
-/

namespace InbandNull.Logging

inductive Event where
  /-- A scan of a buffer that does not begin at a multiple of its value's width. -/
  | notInPlace
  /-- A scan that found `nulls` of `rows` values of `width` bytes to be NULL. -/
  | scanned (rows : Nat) (type : SqlType) (width nulls : Nat)
  | violated (v : Violation)
deriving DecidableEq, Repr

namespace Event

def severity : Event → Severity
  | .notInPlace => .trace
  | .scanned .. => .debug
  | .violated _ => .error

/-- The part of the library that an event comes from. -/
def origin : Event → String
  | .notInPlace | .scanned .. => "inline_nulls::null_handling::sentinel"
  | .violated _ => "inline_nulls::violation"

def text : Event → String
  | .notInPlace =>
    "scan_nulls: no in-place view (TargetAlignmentGreaterAndInputNotAligned), decoding bytewise"
  | .scanned rows type width nulls =>
    s!"scan_nulls: {rows} {type} rows of {width} bytes, {nulls} null"
  | .violated v => s!"inline null contract violation: {v}"

def summary (e : Event) : String := e.severity.name ++ " " ++ e.text

end Event

/-- An event as it is handed to the log. -/
structure Record where
  time : String
  event : Event
deriving DecidableEq, Repr

/-- The times of the events of an operation, by their place among them. -/
abbrev Clock := Nat → String

/-- The records of the events of an operation. -/
def stamp (clock : Clock) (es : List Event) : List Record := es.mapIdx fun i e => ⟨clock i, e⟩

/-- The times from the `n`th event on. -/
def Clock.drop (clock : Clock) (n : Nat) : Clock := fun i => clock (i + n)

theorem stamp_singleton (clock : Clock) (n : Nat) (e : Event) :
    stamp (clock.drop n) [e] = [⟨clock n, e⟩] := by
  simp [stamp, Clock.drop]

theorem stamp_append (clock : Clock) (es es' : List Event) :
    stamp clock (es ++ es') = stamp clock es ++ stamp (clock.drop es.length) es' :=
  List.mapIdx_append

end InbandNull.Logging
