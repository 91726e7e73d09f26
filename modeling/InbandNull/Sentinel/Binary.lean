/-!
# Widening single-precision patterns

Floating-point values are handled as their bit patterns, since telling NULL from data is a question
about bits: `-0.0` and every NaN payload differ from each other. `Binary32.widen` is the exact step
from a 32-bit to a 64-bit pattern, on the three fields sign, exponent and fraction.

* A normal number keeps its fraction and moves its exponent by the difference of the biases, 896.
* A subnormal number is normal at the larger width, and its leading one leaves the fraction.
* An infinity stays one, and a NaN stays one with its payload, made quiet.
-/

namespace InbandNull

namespace Binary64

def assemble (sign exponent fraction : Nat) : UInt64 :=
  .ofNat (sign * 0x8000000000000000 + exponent * 0x10000000000000 + fraction)

/-- Whether a pattern is one of the NaNs: all ones in the exponent, and a fraction other than zero.
-/
def isNaN (x : UInt64) : Bool :=
  x.toNat / 0x10000000000000 % 0x800 == 0x7FF && x.toNat % 0x10000000000000 != 0

end Binary64

namespace Binary32

def sign (x : UInt32) : Nat := x.toNat / 0x80000000

def exponent (x : UInt32) : Nat := x.toNat / 0x800000 % 0x100

def fraction (x : UInt32) : Nat := x.toNat % 0x800000

/-- The 64-bit pattern of the same number. -/
def widen (x : UInt32) : UInt64 :=
  let f := fraction x
  if exponent x = 0xFF then
    if f = 0 then Binary64.assemble (sign x) 0x7FF 0
    else Binary64.assemble (sign x) 0x7FF (0x8000000000000 + f % 0x400000 * 0x20000000)
  else if exponent x = 0 then
    if f = 0 then Binary64.assemble (sign x) 0 0
    else
      let k := f.log2
      Binary64.assemble (sign x) (k + 874) ((f - 1 <<< k) <<< (52 - k))
  else Binary64.assemble (sign x) (exponent x + 896) (f * 0x20000000)

end Binary32

end InbandNull
