import InbandNull.Buffer.Decode
import InbandNull.Buffer.Fill

/-!
# Sessions

A `Session` is a column that is worked on step by step: its descriptor, its bytes, and the mask of
the last scan that succeeded. A step that fails leaves the session as it was.
-/

namespace InbandNull

structure Session where
  descriptor : Descriptor
  bytes : List UInt8
  mask : Mask := []
deriving DecidableEq, Repr

namespace Session

def describe (s : Session) (d : Descriptor) : Session := { s with descriptor := d }

def load (s : Session) (bytes : List UInt8) : Session := { s with bytes }

def append (s : Session) (bytes : List UInt8) : Session := { s with bytes := s.bytes ++ bytes }

def truncate (s : Session) (n : Nat) : Session := { s with bytes := s.bytes.take n }

/-- The bytes of the session at some place in memory. -/
def buffer (s : Session) (offset : Nat) : Buffer := { bytes := s.bytes, offset }

/-- Scans the bytes and saves the mask. -/
def scan (s : Session) (offset : Nat) : Session × Outcome Mask :=
  let x := (s.buffer offset).scan s.descriptor
  match x.result with
  | .ok mask => ({ s with mask }, x)
  | .error _ => (s, x)

/-- Writes NULL over the rows of a mask, or of the saved one if none is given. -/
def setNulls (s : Session) (offset : Nat) (mask? : Option Mask) : Session × Outcome Unit :=
  let written := (s.buffer offset).setNulls s.descriptor (mask?.getD s.mask)
  (s.load written.buffer.bytes, written.outcome)

def appendNulls (s : Session) (count : Nat) : Session × Outcome (List UInt8) :=
  let x := s.descriptor.fillNulls count
  match x.result with
  | .ok bytes => (s.append bytes, x)
  | .error _ => (s, x)

end Session

end InbandNull
