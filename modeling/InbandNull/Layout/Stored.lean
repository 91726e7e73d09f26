import InbandNull.Layout.Integer
import InbandNull.Layout.Logical

/-!
# The stored sentinel of an integer-family column

The value reserved for NULL follows the stored width and not the logical one: a date kept as a
16-bit count of days takes the sentinel of `SMALLINT`, a `BIGINT` in 24 bits takes `-2 ^ 23`.
-/

namespace InbandNull.Descriptor

/-- How the values of an integer-family column are stored. Four-byte dictionary ids take the
sentinel of `INTEGER`; only the narrower, unsigned ids reserve their greatest value. -/
def storedLayout (d : Descriptor) : Except Violation IntLayout :=
  match d.encoding with
  | .plain => d.logicalWidth.map .ofWidth
  | .dateInDays =>
    if d.param = 0 ∨ d.param = 32 then .ok (.ofWidth .i32)
    else if d.param = 16 then .ok (.ofWidth .i16)
    else .error (.dateInDaysWidth d.param)
  | .dict =>
    if d.isString then
      if d.size = 1 then .ok (.ofWidth .u8)
      else if d.size = 2 then .ok (.ofWidth .u16)
      else if d.size = 4 then .ok (.ofWidth .i32)
      else .error (.dictStorageSize d.size)
    else .error (.dictOnNonString d.sqlType)
  | .fixed =>
    if d.isInteger || d.isTime || d.isDecimal then
      (narrowedNull d.param).map fun null => ⟨(d.param / 8).toNatClampNeg, true, null⟩
    else .error (.fixedOnUnsupportedType d.sqlType)
  | .runLength | .diff | .sparse | .geoInt => .error (.unsupportedEncoding d.encoding)

/-- The stored value that means NULL, widened to 64 bits. -/
def encodedNull (d : Descriptor) : Except Violation Int64 :=
  d.storedLayout.map IntLayout.null

/-- Whether `value`, read from the column and widened, is its NULL. -/
def isNullEncoded (d : Descriptor) (value : Int64) : Except Violation Bool :=
  d.encodedNull.map fun null => value == null

end InbandNull.Descriptor
