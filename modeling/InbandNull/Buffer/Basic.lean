import InbandNull.Buffer.Outcome
import InbandNull.Bytes.Order
import InbandNull.Bytes.Rows
import InbandNull.Layout.Value

/-!
# Buffers and masks

A `Buffer` is the bytes of a column where they lie in memory. Where that is, and the byte order of
the machine, decides how the buffer may be read, never what is read from it. A `Mask` has a flag per
row, set where the row is NULL.
-/

namespace InbandNull

structure Buffer where
  bytes : List UInt8
  /-- The distance of the first byte from an address that is a multiple of eight. -/
  offset : Nat := 0
  host : ByteOrder := .little
deriving DecidableEq, Repr

abbrev Mask := List Bool

namespace Mask

def nullCount (m : Mask) : Nat := m.count true

@[simp] theorem nullCount_append (m n : Mask) : nullCount (m ++ n) = nullCount m + nullCount n :=
  List.count_append

end Mask

namespace Buffer

/-- The number of values of `w` bytes in the buffer, which must hold nothing else. -/
def rowCount (b : Buffer) (w : Nat) : Except Error Nat :=
  if b.bytes.length % w = 0 then .ok (b.bytes.length / w)
  else .error (.bufferMismatch b.bytes.length w)

/-- The values of `w` bytes, each as stored. -/
def rows (b : Buffer) (w : Nat) : List (List UInt8) :=
  InbandNull.rows w (b.bytes.length / w) b.bytes

@[simp] theorem length_rows (b : Buffer) (w : Nat) : (b.rows w).length = b.bytes.length / w :=
  InbandNull.length_rows ..

end Buffer

end InbandNull
