import InbandNull.Decimal.Shortest
import InbandNull.Text.Quoted

/-!
# Why a document cannot be read

A document is `malformed` where it breaks the grammar and `truncated` where it ends before it is
complete. A document that is neither may still not say what was asked for: that is a `Mismatch`, the
only kind whose wording a reader is shown. Reading goes from left to right and reports the first
fault that it meets.
-/

namespace InbandNull.Json

/-- What stands in a document where something else was expected. -/
inductive Found where
  | null
  | boolean (value : Bool)
  | integer (value : Int)
  /-- A number with a fraction or an exponent, or too large for a 64-bit integer, as its pattern. -/
  | float (bits : UInt64)
  | string (value : String)
  | sequence
  | map
deriving DecidableEq, Repr

/-- How a well-formed document fails to say what was asked for. -/
inductive Mismatch where
  | wrongType (found : Found) (expected : String)
  | wrongValue (found : Int) (expected : String)
  | wrongLength (length : Nat) (expected : String)
  | unknownVariant (name : String) (known : List String)
  | missingField (name : String)
  | duplicateField (name : String)
deriving DecidableEq, Repr

/-- Why a document cannot be read. -/
inductive Fault where
  | malformed
  | truncated
  | mismatch (m : Mismatch)
deriving DecidableEq, Repr

def Found.text : Found → String
  | .null => "null"
  | .boolean value => s!"boolean `{value}`"
  | .integer value => s!"integer `{value}`"
  | .float bits => s!"floating point `{renderBits bits}`"
  | .string value => s!"string {Text.quoted value}"
  | .sequence => "sequence"
  | .map => "map"

def Mismatch.message : Mismatch → String
  | .wrongType found expected => s!"invalid type: {found.text}, expected {expected}"
  | .wrongValue found expected => s!"invalid value: integer `{found}`, expected {expected}"
  | .wrongLength length expected => s!"invalid length {length}, expected {expected}"
  | .unknownVariant name known =>
    let list := ", ".intercalate (known.map fun k => "`" ++ k ++ "`")
    s!"unknown variant `{name}`, expected one of {list}"
  | .missingField name => s!"missing field `{name}`"
  | .duplicateField name => s!"duplicate field `{name}`"

def Fault.message : Fault → String
  | .malformed => "malformed document"
  | .truncated => "unexpected end of document"
  | .mismatch m => m.message

end InbandNull.Json
