import InbandNull.Arrow.DataType
import InbandNull.ColumnType.Basic

/-!
# Columns from Arrow types

`SqlType.ofArrow` gives the logical type nearest to an Arrow type. `ColumnType.ofArrow` gives the
descriptor under which an array of that type is stored as it lies, so it also refuses the types
whose values do not have the width of a descriptor: packed booleans, 16-byte decimals, and
dictionaries whose keys have no storage width.
-/

namespace InbandNull

open Arrow (DataType)

inductive Arrow.Unmapped where
  | noSqlType (type : DataType)
  | bitPacked
  | dictionaryKey (key : DataType)
  /-- A value of the type takes another number of bytes than one of the column. -/
  | widthDiffers (type : DataType) (width : Nat) (column : ColumnType)

def Arrow.Unmapped.reason : Arrow.Unmapped → String
  | .noSqlType type => s!"Cannot convert Arrow type {type.text} to SqlType"
  | .bitPacked => "Arrow Boolean is bit-packed and has no per-value sentinel"
  | .dictionaryKey key => s!"Dictionary key type {key.text} has no storage width"
  | .widthDiffers type width column =>
    s!"Arrow type {type.text} stores {width} bytes per value, {column} stores {column.size}"

namespace SqlType

/-- The logical type nearest to an Arrow type. A dictionary of strings is `TEXT`, whatever its keys.
-/
def ofArrow? : DataType → Option SqlType
  | .boolean => some .boolean
  | .int8 => some .tinyInt
  | .int16 => some .smallInt
  | .int32 => some .int
  | .int64 => some .bigInt
  | .float32 => some .float
  | .float64 => some .double
  | .decimal128 .. => some .decimal
  | .time32 _ | .time64 _ => some .time
  | .timestamp .. => some .timestamp
  | .date32 | .date64 => some .date
  | .utf8 | .largeUtf8 | .dictionary _ .utf8 => some .text
  | .null => some .null
  | _ => none

def ofArrow (type : DataType) : Except Error SqlType :=
  match ofArrow? type with
  | some t => .ok t
  | none => .error (.unsupportedType (Arrow.Unmapped.noSqlType type).reason)

end SqlType

namespace ColumnType

/-- The bytes in which the keys of a dictionary of strings are stored. -/
def dictKeySize? : DataType → Option Int32
  | .int8 | .uint8 => some 1
  | .int16 | .uint16 => some 2
  | .int32 => some 4
  | _ => none

/-- The descriptor under which an array of an Arrow type is stored. -/
def ofArrow (type : DataType) : Except Error ColumnType :=
  let refuse (why : Arrow.Unmapped) : Except Error ColumnType :=
    .error (.unsupportedType why.reason)
  match type with
  | .date32 => .ok (dateInDays 32)
  | .time32 _ => .ok (fixed .time 32)
  | .boolean => refuse .bitPacked
  | .dictionary key .utf8 =>
    match dictKeySize? key with
    | some size => .ok (dictText size)
    | none => refuse (.dictionaryKey key)
  | type => do
    let c := plain (← SqlType.ofArrow type)
    match type.primitiveWidth? with
    | some width =>
      if Int32.ofNat width ≠ c.size then refuse (.widthDiffers type width c) else .ok c
    | none => .ok c

end ColumnType

end InbandNull
