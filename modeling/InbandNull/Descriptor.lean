import InbandNull.SqlType
import InbandNull.Encoding

/-!
# Descriptors

`Descriptor` is the view of a column that every sentinel is resolved from. The five flags that sort
the column into a family are fields of their own, with the logical type's as their defaults: a
catalog may class a type differently, and whatever it says about the family wins over the type.
-/

namespace InbandNull

/-- What resolving a sentinel reads of a column. -/
structure Descriptor where
  sqlType : SqlType
  encoding : Encoding
  /-- The bit width under `fixed`, the width of a day count under `dateInDays`. -/
  param : Int32
  /-- The bytes of one stored value. -/
  size : Int32
  /-- The bytes of one value once decoded. -/
  logicalSize : Int32
  isString : Bool := sqlType.isString
  isInteger : Bool := sqlType.isInteger
  isFloat : Bool := sqlType.isFloat
  isTime : Bool := sqlType.isTime
  isDecimal : Bool := sqlType.isDecimal
deriving DecidableEq, Repr

end InbandNull
