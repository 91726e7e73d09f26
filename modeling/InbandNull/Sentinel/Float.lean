import InbandNull.Sentinel.Binary

/-!
# Floating-point sentinels

Every column of a precision shares one sentinel, the least positive normal number of that precision.
`FloatKind.pattern` is how it is stored and `FloatKind.null` what it widens to.
-/

namespace InbandNull

/-- The least positive normal number in 32 bits. -/
def nullFloat : UInt32 := 0x00800000

/-- The least positive normal number in 64 bits. -/
def nullDouble : UInt64 := 0x0010000000000000

inductive FloatKind where
  | single
  | double
deriving DecidableEq, Repr

namespace FloatKind

def width : FloatKind → Nat
  | .single => 4
  | .double => 8

/-- The sentinel as stored, extended by zeros to 64 bits. -/
def pattern : FloatKind → UInt64
  | .single => nullFloat.toUInt64
  | .double => nullDouble

/-- The sentinel as a 64-bit floating-point pattern. -/
def null : FloatKind → UInt64
  | .single => Binary32.widen nullFloat
  | .double => nullDouble

example : FloatKind.single.null = 0x3810000000000000 := by decide

/-- Whether a stored pattern of this precision, extended by zeros, is its sentinel. -/
def isNull (k : FloatKind) (bits : UInt64) : Bool :=
  bits == k.pattern

end FloatKind

end InbandNull
