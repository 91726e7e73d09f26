import InbandNull.Descriptor
import InbandNull.Sentinel.Integer

/-!
# The logical sentinel

The sentinel of a value once it is decoded. Times, intervals and decimals are carried as 64-bit
integers whatever precision they were declared with, so they share the sentinel of `BIGINT`. A
string is carried as its dictionary id in four bytes.
-/

namespace InbandNull

namespace SqlType

/-- The width in which decoded values of the type are carried, if they are integers. -/
def logicalWidth? : SqlType → Option IntWidth
  | .boolean | .tinyInt => some .i8
  | .smallInt => some .i16
  | .int => some .i32
  | .bigInt | .timestamp | .time | .date | .intervalDayTime | .intervalYearMonth
  | .decimal | .numeric => some .i64
  | .null | .float | .double | .text | .varchar | .char | .array | .point => none

end SqlType

/-- The bytes of a dictionary id once decoded, whatever its stored width. -/
def dictLogicalSize : Int32 := 4

namespace Descriptor

def logicalWidth (d : Descriptor) : Except Violation IntWidth :=
  if d.isString then
    if d.encoding ≠ .dict then .error (.stringNotDictEncoded d.encoding)
    else if d.logicalSize ≠ dictLogicalSize then .error (.dictLogicalSize d.logicalSize)
    else .ok .i32
  else if d.encoding ≠ .plain then .error (.unexpectedCompression d.encoding)
  else
    match d.sqlType.logicalWidth? with
    | some w => .ok w
    | none => .error (.noIntegerSentinel d.sqlType)

def logicalNull (d : Descriptor) : Except Violation Int64 :=
  d.logicalWidth.map IntWidth.null

end Descriptor

end InbandNull
