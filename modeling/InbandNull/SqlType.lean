/-!
# Logical column types

`SqlType` is what a column holds, independent of how its values are stored. The five families
(string, integer, floating point, time, decimal) are disjoint; `null`, `boolean`, the two intervals,
`array` and `point` belong to none. A type has two spellings: `name`, used in messages, and `key`,
used in JSON documents.
-/

namespace InbandNull

/-- What a column holds. `null`, `array` and `point` have no stored value that could mean NULL. -/
inductive SqlType where
  | null
  | boolean
  | tinyInt
  | smallInt
  | int
  | bigInt
  | float
  | double
  | decimal
  | numeric
  | time
  | timestamp
  | date
  | intervalDayTime
  | intervalYearMonth
  | text
  | varchar
  | char
  | array
  | point
deriving DecidableEq, Ord, Repr

namespace SqlType

/-- The types in their order of declaration, which is also the order of `compare`. -/
def all : List SqlType :=
  [.null, .boolean, .tinyInt, .smallInt, .int, .bigInt, .float, .double, .decimal, .numeric, .time,
    .timestamp, .date, .intervalDayTime, .intervalYearMonth, .text, .varchar, .char, .array, .point]

def isString : SqlType → Bool
  | .text | .varchar | .char => true
  | _ => false

def isInteger : SqlType → Bool
  | .tinyInt | .smallInt | .int | .bigInt => true
  | _ => false

def isFloat : SqlType → Bool
  | .float | .double => true
  | _ => false

/-- Intervals are not temporal in this sense. -/
def isTime : SqlType → Bool
  | .time | .timestamp | .date => true
  | _ => false

def isDecimal : SqlType → Bool
  | .decimal | .numeric => true
  | _ => false

/-- The bytes one uncompressed value takes; `-1` where that varies from value to value. -/
def naturalSize : SqlType → Int32
  | .null => 0
  | .boolean | .tinyInt => 1
  | .smallInt => 2
  | .int | .float => 4
  | .bigInt | .double | .decimal | .numeric | .time | .timestamp | .date
  | .intervalDayTime | .intervalYearMonth => 8
  | .text | .varchar | .char | .array | .point => -1

def name : SqlType → String
  | .null => "NULL"
  | .boolean => "BOOLEAN"
  | .tinyInt => "TINYINT"
  | .smallInt => "SMALLINT"
  | .int => "INTEGER"
  | .bigInt => "BIGINT"
  | .float => "FLOAT"
  | .double => "DOUBLE"
  | .decimal => "DECIMAL"
  | .numeric => "NUMERIC"
  | .time => "TIME"
  | .timestamp => "TIMESTAMP"
  | .date => "DATE"
  | .intervalDayTime => "INTERVAL_DAY_TIME"
  | .intervalYearMonth => "INTERVAL_YEAR_MONTH"
  | .text => "TEXT"
  | .varchar => "VARCHAR"
  | .char => "CHAR"
  | .array => "ARRAY"
  | .point => "POINT"

def key : SqlType → String
  | .null => "null"
  | .boolean => "boolean"
  | .tinyInt => "tiny_int"
  | .smallInt => "small_int"
  | .int => "int"
  | .bigInt => "big_int"
  | .float => "float"
  | .double => "double"
  | .decimal => "decimal"
  | .numeric => "numeric"
  | .time => "time"
  | .timestamp => "timestamp"
  | .date => "date"
  | .intervalDayTime => "interval_day_time"
  | .intervalYearMonth => "interval_year_month"
  | .text => "text"
  | .varchar => "varchar"
  | .char => "char"
  | .array => "array"
  | .point => "point"

instance : ToString SqlType := ⟨name⟩

end SqlType

end InbandNull
