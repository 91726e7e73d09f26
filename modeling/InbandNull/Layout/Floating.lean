import InbandNull.Descriptor
import InbandNull.Violation
import InbandNull.Sentinel.Float

/-!
# The sentinel of a floating-point column

Here the encoding of the column plays no part: the precision alone decides. A descriptor that claims
to be floating point must also have one of the two floating-point types.
-/

namespace InbandNull

namespace SqlType

def floatKind? : SqlType → Option FloatKind
  | .float => some .single
  | .double => some .double
  | _ => none

end SqlType

namespace Descriptor

def floatKind (d : Descriptor) : Except Violation FloatKind :=
  if d.isFloat then
    match d.sqlType.floatKind? with
    | some k => .ok k
    | none => .error (.notFloatingPoint d.sqlType)
  else .error (.notFloatingPoint d.sqlType)

def floatingNull (d : Descriptor) : Except Violation UInt64 :=
  d.floatKind.map FloatKind.null

/-- Whether `bits`, the pattern of a value read from the column and widened, is its NULL. -/
def isNullFloat (d : Descriptor) (bits : UInt64) : Except Violation Bool :=
  d.floatKind.map fun k => bits == k.null

end Descriptor

end InbandNull
