import InbandNull.Descriptor
import InbandNull.Error
import InbandNull.Layout.Logical

/-!
# Column types

`ColumnType` is a descriptor that can be written down: five fields, with the families of its logical
type. The constructors build descriptors that fit together; the `with` functions and documents can
build any. `validate` says which of them a sentinel may be resolved from, with a reason where it may
not.
-/

namespace InbandNull

/-- The five fields that say how a column is stored. -/
structure ColumnType where
  sqlType : SqlType
  encoding : Encoding
  /-- The bit width under `fixed`, the width of a day count under `dateInDays`. -/
  param : Int32
  /-- The bytes of one stored value. -/
  size : Int32
  /-- The bytes of one value once decoded. -/
  logicalSize : Int32
deriving DecidableEq, Repr

namespace ColumnType

def toDescriptor (c : ColumnType) : Descriptor where
  sqlType := c.sqlType
  encoding := c.encoding
  param := c.param
  size := c.size
  logicalSize := c.logicalSize

def plain (t : SqlType) : ColumnType := ⟨t, .plain, 0, t.naturalSize, t.naturalSize⟩

/-- A `TEXT` column whose dictionary ids are stored in `size` bytes. -/
def dictText (size : Int32) : ColumnType := ⟨.text, .dict, size * 8, size, dictLogicalSize⟩

def fixed (t : SqlType) (bits : Int32) : ColumnType := ⟨t, .fixed, bits, bits / 8, t.naturalSize⟩

/-- A `DATE` column stored as a count of days in 16 or 32 bits, where 0 stands for 32. -/
def dateInDays (bits : Int32) : ColumnType :=
  ⟨.date, .dateInDays, bits, if bits = 16 then 2 else 4, SqlType.date.naturalSize⟩

def withEncoding (c : ColumnType) (encoding : Encoding) (param : Int32) : ColumnType :=
  { c with encoding, param }

def withSize (c : ColumnType) (size : Int32) : ColumnType := { c with size }

def withLogicalSize (c : ColumnType) (logicalSize : Int32) : ColumnType := { c with logicalSize }

/-- The type, and its encoding if it has one, as in `TEXT ENCODING DICT(8)`. -/
def name (c : ColumnType) : String :=
  match c.encoding with
  | .plain => c.sqlType.name
  | e => s!"{c.sqlType} ENCODING {e}({c.param})"

instance : ToString ColumnType := ⟨name⟩

/-- Checks that a sentinel may be resolved from the column. What is checked depends on the encoding.
-/
def validate (c : ColumnType) : Except Error Unit :=
  let invalid (reason : String) : Except Error Unit := .error (.invalidDescriptor reason)
  match c.encoding with
  | .plain =>
    if c.sqlType.isString then invalid s!"{c} without dictionary encoding has no inline null"
    else if c.sqlType.naturalSize ≤ 0 then invalid s!"{c} has no fixed-width representation"
    else .ok ()
  | .dict =>
    if !c.sqlType.isString then
      invalid s!"dictionary encoding requires a string type, got {c}"
    else if c.logicalSize ≠ dictLogicalSize then
      invalid s!"dictionary ids decode to {dictLogicalSize} bytes, got logical size {c.logicalSize}"
    else if c.size = 1 ∨ c.size = 2 ∨ c.size = 4 then .ok ()
    else invalid s!"unsupported dictionary id size {c.size}"
  | .dateInDays =>
    if c.sqlType ≠ .date then invalid s!"day encoding requires DATE, got {c}"
    else if c.param = 0 ∨ c.param = 16 ∨ c.param = 32 then .ok ()
    else invalid s!"unsupported day encoding width {c.param}"
  | .fixed =>
    if !(c.sqlType.isInteger || c.sqlType.isTime || c.sqlType.isDecimal) then
      invalid s!"fixed encoding requires an integer, temporal or decimal type, got {c}"
    else if c.param ≤ 0 ∨ 64 < c.param ∨ c.param % 8 ≠ 0 then
      invalid s!"unsupported fixed encoding width {c.param}"
    else .ok ()
  | .runLength | .diff | .sparse | .geoInt => invalid s!"{c} has no inline null sentinel"

end ColumnType

end InbandNull
