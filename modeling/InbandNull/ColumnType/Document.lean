import InbandNull.ColumnType.Basic
import InbandNull.Json.Record

/-!
# Column types in JSON documents

A column type is written as an object of its five fields, or read from a list of them. The encoding
is `none` and its parameter 0 where they are left out; the other fields have no default.
-/

namespace InbandNull

def SqlType.toJson (t : SqlType) : String := Json.quote t.key

def SqlType.read : Json.Reader SqlType := Json.member SqlType.all SqlType.key

def SqlType.ofJson (s : String) : Except Error SqlType :=
  (Json.document SqlType.read s).mapError .json

def Encoding.toJson (e : Encoding) : String := Json.quote e.key

def Encoding.read : Json.Reader Encoding := Json.member Encoding.all Encoding.key

def Encoding.ofJson (s : String) : Except Error Encoding :=
  (Json.document Encoding.read s).mapError .json

namespace ColumnType

structure Draft where
  sqlType : Option SqlType := none
  encoding : Option Encoding := none
  param : Option Int32 := none
  size : Option Int32 := none
  logicalSize : Option Int32 := none
deriving DecidableEq, Repr

def Draft.shape : Json.Shape Draft where
  title := "struct ColumnType"
  fields :=
    [.of "sql_type" true SqlType.read Draft.sqlType fun d v => { d with sqlType := some v },
      .of "compression" false Encoding.read Draft.encoding fun d v => { d with encoding := some v },
      .of "comp_param" false Json.int32 Draft.param fun d v => { d with param := some v },
      .of "size" true Json.int32 Draft.size fun d v => { d with size := some v },
      .of "logical_size" true Json.int32 Draft.logicalSize fun d v =>
        { d with logicalSize := some v }]

/-- The column type of a draft with all its required fields. -/
def Draft.toColumnType? (d : Draft) : Option ColumnType := do
  return ⟨← d.sqlType, d.encoding.getD default, d.param.getD 0, ← d.size, ← d.logicalSize⟩

def read : Json.Reader ColumnType := fun cs => do
  let (d, cs) ← Draft.shape.read {} cs
  match d.toColumnType? with
  | some c => .ok (c, cs)
  | none => .error .malformed

def ofJson (s : String) : Except Error ColumnType :=
  (Json.document read s).mapError .json

/-- The document of a column type, its fields in order of declaration. -/
def toJson (c : ColumnType) : String :=
  "\x7b\"sql_type\":" ++ c.sqlType.toJson ++ ",\"compression\":" ++ c.encoding.toJson
    ++ s!",\"comp_param\":{c.param},\"size\":{c.size},\"logical_size\":{c.logicalSize}" ++ "\x7d"

end ColumnType

end InbandNull
