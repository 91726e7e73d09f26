/-!
# Levels

A record has a `Severity`; a logger has a `Level`, which admits the severities up to its own, or
none at all.
-/

namespace InbandNull.Logging

/-- How grave an event is, the gravest first. -/
inductive Severity where
  | error
  | warn
  | info
  | debug
  | trace
deriving DecidableEq, Ord, Repr

def Severity.name : Severity → String
  | .error => "ERROR"
  | .warn => "WARN"
  | .info => "INFO"
  | .debug => "DEBUG"
  | .trace => "TRACE"

/-- The name in five columns. -/
def Severity.column (s : Severity) : String := s.name.pushn ' ' (5 - s.name.length)

/-- The severities that a logger admits, named for the least grave of them. -/
inductive Level where
  | off
  | error
  | warn
  | info
  | debug
  | trace
deriving DecidableEq, Repr

namespace Level

instance : Inhabited Level := ⟨.warn⟩

def all : List Level := [.off, .error, .warn, .info, .debug, .trace]

def key : Level → String
  | .off => "off"
  | .error => "error"
  | .warn => "warn"
  | .info => "info"
  | .debug => "debug"
  | .trace => "trace"

/-- The least grave severity that the level admits. -/
def severity? : Level → Option Severity
  | .off => none
  | .error => some .error
  | .warn => some .warn
  | .info => some .info
  | .debug => some .debug
  | .trace => some .trace

def admits (l : Level) (s : Severity) : Bool :=
  match l.severity? with
  | none => false
  | some most => compare s most != .gt

/-- The spelling as a filter. -/
def filterName (l : Level) : String :=
  (l.severity?.map Severity.name).getD "OFF"

end Level

end InbandNull.Logging
