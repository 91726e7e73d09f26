import InbandNull.Text.Quoted

/-!
# Arrow data types

The types of columnar arrays in memory. Types nest: lists, structures and maps through named fields,
unions through tagged ones, dictionaries through their key and value types. `primitiveWidth?` is the
number of bytes per value of the types that have one. `DataType.text` is how a message shows a type.
-/

namespace InbandNull.Arrow

inductive TimeUnit where
  | second
  | millisecond
  | microsecond
  | nanosecond
deriving DecidableEq, Repr

inductive IntervalUnit where
  | yearMonth
  | dayTime
  | monthDayNano
deriving DecidableEq, Repr

inductive UnionMode where
  | sparse
  | dense
deriving DecidableEq, Repr

mutual

inductive DataType where
  | null
  | boolean
  | int8
  | int16
  | int32
  | int64
  | uint8
  | uint16
  | uint32
  | uint64
  | float16
  | float32
  | float64
  | timestamp (unit : TimeUnit) (zone : Option String)
  | date32
  | date64
  | time32 (unit : TimeUnit)
  | time64 (unit : TimeUnit)
  | duration (unit : TimeUnit)
  | interval (unit : IntervalUnit)
  | binary
  | fixedSizeBinary (size : Int32)
  | largeBinary
  | binaryView
  | utf8
  | largeUtf8
  | utf8View
  | list (item : Field)
  | listView (item : Field)
  | fixedSizeList (item : Field) (size : Int32)
  | largeList (item : Field)
  | largeListView (item : Field)
  | struct (fields : List Field)
  | union (members : List Member) (mode : UnionMode)
  | dictionary (key value : DataType)
  | decimal128 (precision : UInt8) (scale : Int8)
  | decimal256 (precision : UInt8) (scale : Int8)
  | map (entries : Field) (sorted : Bool)
  | runEndEncoded (runEnds values : Field)
deriving Repr

/-- A named part of a nested type. The entries of `metadata` are in the order in which they are
shown. -/
inductive Field where
  | mk (name : String) (type : DataType) (nullable : Bool) (dictId : Int64 := 0)
    (dictIsOrdered : Bool := false) (metadata : List (String × String) := [])
deriving Repr

/-- One of the types of a union, with the tag of its values. -/
inductive Member where
  | mk (tag : Int8) (field : Field)
deriving Repr

end

def TimeUnit.name : TimeUnit → String
  | .second => "Second"
  | .millisecond => "Millisecond"
  | .microsecond => "Microsecond"
  | .nanosecond => "Nanosecond"

def IntervalUnit.name : IntervalUnit → String
  | .yearMonth => "YearMonth"
  | .dayTime => "DayTime"
  | .monthDayNano => "MonthDayNano"

def UnionMode.name : UnionMode → String
  | .sparse => "Sparse"
  | .dense => "Dense"

namespace DataType

/-- The bytes of one value, for the types whose values all take the same whole number of bytes. -/
def primitiveWidth? : DataType → Option Nat
  | .int8 | .uint8 => some 1
  | .int16 | .uint16 | .float16 => some 2
  | .int32 | .uint32 | .float32 | .date32 | .time32 _ | .interval .yearMonth => some 4
  | .int64 | .uint64 | .float64 | .date64 | .time64 _ | .timestamp .. | .duration _
  | .interval .dayTime => some 8
  | .interval .monthDayNano | .decimal128 .. => some 16
  | .decimal256 .. => some 32
  | _ => none

end DataType

def zoneText : Option String → String
  | none => "None"
  | some zone => s!"Some({Text.quoted zone})"

def metadataText (entries : List (String × String)) : String :=
  let shown := entries.map fun entry => s!"{Text.quoted entry.1}: {Text.quoted entry.2}"
  "\x7b" ++ ", ".intercalate shown ++ "\x7d"

mutual

def DataType.text : DataType → String
  | .null => "Null"
  | .boolean => "Boolean"
  | .int8 => "Int8"
  | .int16 => "Int16"
  | .int32 => "Int32"
  | .int64 => "Int64"
  | .uint8 => "UInt8"
  | .uint16 => "UInt16"
  | .uint32 => "UInt32"
  | .uint64 => "UInt64"
  | .float16 => "Float16"
  | .float32 => "Float32"
  | .float64 => "Float64"
  | .timestamp unit zone => s!"Timestamp({unit.name}, {zoneText zone})"
  | .date32 => "Date32"
  | .date64 => "Date64"
  | .time32 unit => s!"Time32({unit.name})"
  | .time64 unit => s!"Time64({unit.name})"
  | .duration unit => s!"Duration({unit.name})"
  | .interval unit => s!"Interval({unit.name})"
  | .binary => "Binary"
  | .fixedSizeBinary size => s!"FixedSizeBinary({size})"
  | .largeBinary => "LargeBinary"
  | .binaryView => "BinaryView"
  | .utf8 => "Utf8"
  | .largeUtf8 => "LargeUtf8"
  | .utf8View => "Utf8View"
  | .list item => s!"List({item.text})"
  | .listView item => s!"ListView({item.text})"
  | .fixedSizeList item size => s!"FixedSizeList({item.text}, {size})"
  | .largeList item => s!"LargeList({item.text})"
  | .largeListView item => s!"LargeListView({item.text})"
  | .struct fields => s!"Struct([{Field.listText fields}])"
  | .union members mode => s!"Union([{Member.listText members}], {mode.name})"
  | .dictionary key value => s!"Dictionary({key.text}, {value.text})"
  | .decimal128 precision scale => s!"Decimal128({precision}, {scale})"
  | .decimal256 precision scale => s!"Decimal256({precision}, {scale})"
  | .map entries sorted => s!"Map({entries.text}, {sorted})"
  | .runEndEncoded runEnds values => s!"RunEndEncoded({runEnds.text}, {values.text})"

def Field.text : Field → String
  | .mk name type nullable dictId dictIsOrdered metadata =>
    "Field \x7b name: " ++ Text.quoted name ++ ", data_type: " ++ type.text
      ++ s!", nullable: {nullable}, dict_id: {dictId}, dict_is_ordered: {dictIsOrdered}"
      ++ ", metadata: " ++ metadataText metadata ++ " \x7d"

def Field.listText : List Field → String
  | [] => ""
  | [f] => f.text
  | f :: fs => f.text ++ ", " ++ Field.listText fs

def Member.text : Member → String
  | .mk tag field => s!"({tag}, {field.text})"

def Member.listText : List Member → String
  | [] => ""
  | [m] => m.text
  | m :: ms => m.text ++ ", " ++ Member.listText ms

end

end InbandNull.Arrow
