import InbandNull.Buffer.Basic

/-!
# Writing NULLs

`Descriptor.fillNulls` makes a column of NULLs, and `Buffer.setNulls` writes NULLs over the rows of
a mask. Both write the sentinel in the width of the layout. Everything that can be wrong is checked
before the first byte is written, so a buffer is left as it was unless the mask fits.
-/

namespace InbandNull

namespace ValueLayout

def nullBytes (layout : ValueLayout) : List UInt8 := writeLE layout.width layout.pattern

@[simp] theorem length_nullBytes (layout : ValueLayout) : layout.nullBytes.length = layout.width :=
  length_writeLE ..

end ValueLayout

/-- The most bytes that a machine of 64 bits has for one buffer. -/
def byteLimit : Nat := 9223372036854775807

/-- A column of so many rows has a buffer. Of more rows `Descriptor.fillNulls` gives the bytes that
they would have, where a machine finds no place for them and halts. -/
def ValueLayout.Allocatable (layout : ValueLayout) (count : Nat) : Prop :=
  count * layout.width ≤ byteLimit

instance (layout : ValueLayout) (count : Nat) : Decidable (layout.Allocatable count) :=
  inferInstanceAs (Decidable (_ ≤ _))

/-- A column of NULLs, for the counts that are `ValueLayout.Allocatable`. -/
def Descriptor.fillNulls (d : Descriptor) (count : Nat) : Outcome (List UInt8) := do
  let layout ← .ofResolution d.valueLayout
  return (List.replicate count layout.nullBytes).flatten

/-- What an operation that writes into a buffer leaves behind. -/
structure Written where
  outcome : Outcome Unit
  buffer : Buffer

/-- Overwrites the rows set in `mask` with the sentinel of the column. -/
def Buffer.setNulls (b : Buffer) (d : Descriptor) (mask : Mask) : Written :=
  let checked : Outcome ValueLayout := do
    let layout ← .ofResolution d.valueLayout
    let count ← .ofCheck (b.rowCount layout.width)
    if mask.length = count then return layout
    else .ofCheck (.error (.maskLength count mask.length))
  match checked.result with
  | .ok layout =>
    ⟨pure (), { b with bytes := overwrite layout.width layout.nullBytes mask b.bytes }⟩
  | .error failure => ⟨.answer (.error failure), b⟩

end InbandNull
