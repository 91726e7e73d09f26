import InbandNull.Layout.Stored
import InbandNull.Layout.Floating

/-!
# Value layouts

What a buffer operation needs to know of a column: the bytes per value, and the pattern that means
NULL in that many bytes.
-/

namespace InbandNull

/-- How one value of a column with a sentinel is stored. -/
inductive ValueLayout where
  | integer (layout : IntLayout)
  | float (kind : FloatKind)
deriving DecidableEq, Repr

/-- The `width` low-order bytes of a word, the others being cleared. -/
def truncateToWidth (raw : UInt64) (width : Nat) : UInt64 :=
  if 8 ≤ width then raw
  else raw &&& ((1 <<< (UInt64.ofNat width * 8)) - 1)

namespace ValueLayout

def width : ValueLayout → Nat
  | .integer layout => layout.width
  | .float kind => kind.width

/-- The sentinel as stored, extended by zeros to 64 bits. -/
def pattern : ValueLayout → UInt64
  | .integer layout => truncateToWidth layout.null.toUInt64 layout.width
  | .float kind => kind.pattern

end ValueLayout

/-- How the values of a column are stored: by its precision if it is floating point, else by its
encoding. -/
def Descriptor.valueLayout (d : Descriptor) : Except Violation ValueLayout :=
  if d.isFloat then d.floatKind.map .float else d.storedLayout.map .integer

end InbandNull
