import InbandNull.Json.Fault
import InbandNull.Logging.OpenFault

/-!
# Recoverable errors

Building a descriptor, reading a document, setting up logging and reading a raw buffer can fail
without anything being wrong with the program itself. `Error` has one constructor for each such
cause. A descriptor that no sentinel can be resolved from is not among them: that is a `Violation`.
-/

namespace InbandNull

/-- Why a call fails that its caller can recover from. -/
inductive Error where
  | unsupportedType (reason : String)
  | invalidDescriptor (reason : String)
  /-- A buffer that is no whole number of values. -/
  | bufferMismatch (length width : Nat)
  /-- A mask without one flag per row. -/
  | maskLength (expected actual : Nat)
  | logging (reason : String)
  | io (fault : Logging.OpenFault)
  | json (fault : Json.Fault)
deriving DecidableEq, Repr

namespace Error

def message : Error → String
  | .unsupportedType reason => s!"Unsupported data type for this operation: {reason}"
  | .invalidDescriptor reason => s!"Invalid type descriptor: {reason}"
  | .bufferMismatch length width =>
    s!"Buffer length mismatch: expected a multiple of {width}, got {length}"
  | .maskLength expected actual => s!"Null mask covers {actual} rows, buffer holds {expected}"
  | .logging reason => s!"Logger initialization failed: {reason}"
  | .io fault => s!"I/O error: {fault.message}"
  | .json fault => s!"Serde JSON error: {fault.message}"

instance : ToString Error := ⟨message⟩

end Error

end InbandNull
