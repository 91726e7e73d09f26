import InbandNull.Buffer.Basic

/-!
# Finding the NULLs of a buffer

Rows are compared with the sentinel as stored, so signed, unsigned and floating-point columns need
no cases of their own, and a row is NULL only if all its bytes are the sentinel's.

Values of one, two, four or eight bytes are viewed in place as machine words where they are aligned;
the sentinel is then swapped once rather than every value. Otherwise each row is decoded bytewise.
The two ways give the same mask, and a scan that had to decode words bytewise says so in the log.
-/

namespace InbandNull

def isWordWidth (w : Nat) : Bool := w = 1 ∨ w = 2 ∨ w = 4 ∨ w = 8

namespace Buffer

open Logging (Event)

/-- Whether values of `w` bytes are words of the machine and aligned. -/
def inPlace (b : Buffer) (w : Nat) : Bool := isWordWidth w && b.offset % w == 0

def maskInPlace (b : Buffer) (w : Nat) (pattern : UInt64) : Mask :=
  (b.rows w).map fun row => b.host.load row == b.host.needle w (truncateToWidth pattern w)

def maskBytewise (b : Buffer) (w : Nat) (pattern : UInt64) : Mask :=
  (b.rows w).map fun row => readLE row == pattern

/-- The mask of the rows of `w` bytes that hold `pattern`. -/
def mask (b : Buffer) (w : Nat) (pattern : UInt64) : Mask :=
  if b.inPlace w then b.maskInPlace w pattern else b.maskBytewise w pattern

/-- Marks every row that holds the sentinel of the column. -/
def scan (b : Buffer) (d : Descriptor) : Outcome Mask := do
  let layout ← .ofResolution d.valueLayout
  let count ← .ofCheck (b.rowCount layout.width)
  let mask := b.mask layout.width layout.pattern
  if isWordWidth layout.width && !b.inPlace layout.width then .emit .notInPlace
  .emit (.scanned count d.sqlType layout.width mask.nullCount)
  return mask

def nullCount (b : Buffer) (d : Descriptor) : Outcome Nat := do
  return (← b.scan d).nullCount

end Buffer

end InbandNull
