/-!
# Words in bytes

Columns are stored least significant byte first, whatever machine they are on. `readLE` is the word
that a list of bytes stands for and `writeLE w` the `w` low-order bytes of a word, both by recursion
on the bytes, so that a value of three, five, six or seven bytes needs no word of its own size.

A machine loads a word in its own byte order. `ByteOrder.load` is that loading, and
`ByteOrder.needle` the word to look for when every word is loaded natively and none is swapped.
-/

namespace InbandNull

/-- The word with the given bytes, least significant first. Of more than eight bytes only the first
eight count. -/
def readLE : List UInt8 → UInt64
  | [] => 0
  | b :: bs => readLE bs <<< 8 ||| b.toUInt64

@[simp] theorem readLE_nil : readLE [] = 0 := rfl

theorem readLE_cons (b : UInt8) (bs : List UInt8) :
    readLE (b :: bs) = readLE bs <<< 8 ||| b.toUInt64 := rfl

def writeLE : Nat → UInt64 → List UInt8
  | 0, _ => []
  | w + 1, x => x.toUInt8 :: writeLE w (x >>> 8)

@[simp] theorem writeLE_zero (x : UInt64) : writeLE 0 x = [] := rfl

theorem writeLE_succ (w : Nat) (x : UInt64) :
    writeLE (w + 1) x = x.toUInt8 :: writeLE w (x >>> 8) := rfl

@[simp] theorem length_writeLE (w : Nat) (x : UInt64) : (writeLE w x).length = w := by
  induction w generalizing x with
  | zero => rfl
  | succ w ih => simp [writeLE_succ, ih]

/-- The word whose `w` low-order bytes are those of `x` in reverse. -/
def swapBytes (w : Nat) (x : UInt64) : UInt64 := readLE (writeLE w x).reverse

inductive ByteOrder where
  | little
  | big
deriving DecidableEq, Repr

namespace ByteOrder

/-- The word that a machine of this byte order loads from a row of bytes. -/
def load : ByteOrder → List UInt8 → UInt64
  | .little, row => readLE row
  | .big, row => readLE row.reverse

/-- The word that a machine of this byte order loads from the `w` low-order bytes of `x`, stored
least significant first. -/
def needle : ByteOrder → Nat → UInt64 → UInt64
  | .little, _, x => x
  | .big, w, x => swapBytes w x

end ByteOrder

end InbandNull
