import InbandNull.SqlType
import InbandNull.Encoding

/-!
# Violations

A descriptor that cannot carry an in-band NULL is a broken invariant, not a case to guess about: a
wrong sentinel turns rows into NULLs, or NULLs into rows. `Violation` lists every precondition that
resolving a sentinel checks, each with the value that failed it. Resolution answers with
`Except Violation`; what a process does with one is decided in `InbandNull.Handler`.
-/

namespace InbandNull

/-- A precondition of resolving a sentinel that a descriptor breaks. -/
inductive Violation where
  /-- No sentinel is tabulated for integers of this width. -/
  | integerWidth (bits : UInt32) (signed : Bool)
  /-- A string reached the logical sentinel without dictionary encoding. -/
  | stringNotDictEncoded (encoding : Encoding)
  /-- A dictionary id that does not decode to four bytes. -/
  | dictLogicalSize (size : Int32)
  /-- A type that is no string reached the logical sentinel compressed. -/
  | unexpectedCompression (encoding : Encoding)
  | noIntegerSentinel (type : SqlType)
  | notFloatingPoint (type : SqlType)
  /-- A count of days in neither 16 nor 32 bits. -/
  | dateInDaysWidth (bits : Int32)
  /-- A dictionary id stored in neither one, two nor four bytes. -/
  | dictStorageSize (size : Int32)
  | dictOnNonString (type : SqlType)
  | fixedOnUnsupportedType (type : SqlType)
  /-- A narrowed width that is no whole number of bytes from one to eight. -/
  | fixedWidth (bits : Int32)
  | unsupportedEncoding (encoding : Encoding)
deriving DecidableEq, Repr

namespace Violation

def message : Violation → String
  | .integerWidth bits true => s!"No null sentinel for signed {bits}-bit integers"
  | .integerWidth bits false => s!"No null sentinel for unsigned {bits}-bit integers"
  | .stringNotDictEncoded encoding =>
    s!"String column must be dictionary encoded, got {encoding}"
  | .dictLogicalSize size =>
    s!"Dictionary encoded string must have logical size 4, got {size}"
  | .unexpectedCompression encoding => s!"Expected an uncompressed type, got encoding {encoding}"
  | .noIntegerSentinel type => s!"Type {type} has no inline integer null"
  | .notFloatingPoint type => s!"Type {type} is not floating point"
  | .dateInDaysWidth bits => s!"Unknown encoding width for date in days: {bits}"
  | .dictStorageSize size => s!"Unknown size for dictionary encoded type: {size}"
  | .dictOnNonString type => s!"Dictionary encoding requires a string type, got {type}"
  | .fixedOnUnsupportedType type =>
    s!"Fixed encoding requires an integer, temporal or decimal type, got {type}"
  | .fixedWidth bits => s!"Unsupported fixed encoding width: {bits}"
  | .unsupportedEncoding encoding => s!"Encoding {encoding} has no inline null sentinel"

instance : ToString Violation := ⟨message⟩

end Violation

end InbandNull
