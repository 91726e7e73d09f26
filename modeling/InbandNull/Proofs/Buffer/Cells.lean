import InbandNull.Proofs.Buffer.Decode
import InbandNull.Proofs.Buffer.Fill
import InbandNull.Proofs.Bytes.Rows

/-!
# The rows of a column

What a reader of a column sees: a list with `none` for every NULL and the decoded value for every
other row. `Buffer.cells` takes it from the decoder of the column's family, `ValueLayout.cells` from
the bytes row by row, and on whole rows the two agree. Filling, appending and overwriting act on
this list as they do on the rows.
-/

namespace InbandNull

/-- A decoded value; a floating-point one is its 64-bit pattern. -/
inductive Value where
  | integer (n : Int64)
  | float (bits : UInt64)
deriving DecidableEq, Repr

namespace NullableArray

variable {α : Type}

def cells (value : α → Value) (array : NullableArray α) : List (Option Value) :=
  List.zipWith (fun isNull x => if isNull then none else some (value x)) array.nulls array.values

end NullableArray

/-- The rows of a column, from the decoder of its family. -/
def Buffer.cells (b : Buffer) (d : Descriptor) : Outcome (List (Option Value)) := do
  match ← .ofResolution d.valueLayout with
  | .integer _ => return (← b.decodeIntegers d).cells .integer
  | .float _ => return (← b.decodeFloats d).cells .float

namespace ValueLayout

/-- The value that a row stands for, were it not NULL. -/
def value (layout : ValueLayout) (row : List UInt8) : Value :=
  match layout with
  | .integer layout => .integer (layout.decode row)
  | .float kind => .float (kind.decode row)

def cell (layout : ValueLayout) (row : List UInt8) : Option Value :=
  if layout.isNull row then none else some (layout.value row)

/-- The rows of a column, from its bytes. -/
def cells (layout : ValueLayout) (bytes : List UInt8) : List (Option Value) :=
  (rows layout.width (bytes.length / layout.width) bytes).map layout.cell

variable {layout : ValueLayout}

@[simp] theorem length_cells (bytes : List UInt8) :
    (layout.cells bytes).length = bytes.length / layout.width := by
  rw [cells, List.length_map, length_rows]

@[simp] theorem isNone_cell (row : List UInt8) : (layout.cell row).isNone = layout.isNull row := by
  unfold cell
  split
  · next h => exact h.symm
  · next h => exact (Bool.eq_false_of_not_eq_true h).symm

theorem isNull_nullBytes (hlayout : layout.WellFormed) : layout.isNull layout.nullBytes = true :=
  (isNull_iff hlayout layout.length_nullBytes).2 rfl

theorem cell_nullBytes (hlayout : layout.WellFormed) : layout.cell layout.nullBytes = none := by
  rw [cell, isNull_nullBytes hlayout, if_pos rfl]

theorem cells_append (hpos : 1 ≤ layout.width) {bs : List UInt8}
    (hbs : bs.length % layout.width = 0) (cs : List UInt8) :
    layout.cells (bs ++ cs) = layout.cells bs ++ layout.cells cs := by
  rw [cells, rows_append_of_whole hpos hbs, List.map_append]
  rfl

theorem cells_flatten (hpos : 1 ≤ layout.width) {rs : List (List UInt8)}
    (hrs : ∀ row ∈ rs, row.length = layout.width) :
    layout.cells rs.flatten = rs.map layout.cell := by
  rw [cells, rows_flatten_div hpos hrs]

theorem cells_nullColumn (hlayout : layout.WellFormed) (n : Nat) :
    layout.cells (layout.nullColumn n) = List.replicate n none := by
  rw [nullColumn, cells_flatten (one_le_width hlayout) (length_of_mem_replicate_nullBytes n),
    List.map_replicate, cell_nullBytes hlayout]

/-- Overwriting turns the marked rows into NULL and leaves the value of every other row. -/
theorem cells_overwrite (hlayout : layout.WellFormed) {mask : Mask} {bs : List UInt8}
    (hmask : mask.length = bs.length / layout.width) :
    layout.cells (overwrite layout.width layout.nullBytes mask bs) =
      List.zipWith (fun mark cell => if mark then none else cell) mask (layout.cells bs) := by
  have hcover := Mask.length_mul_le hmask
  have hnull := layout.length_nullBytes
  rw [cells, length_overwrite hnull hcover, cells, ← hmask, rows_overwrite hnull hcover,
    List.map_zipWith, List.zipWith_map_right]
  congr 1
  funext mark row
  cases mark with
  | true => exact cell_nullBytes hlayout
  | false => rfl

end ValueLayout

theorem Mask.nullCount_map_isNone (cells : List (Option Value)) :
    nullCount (cells.map Option.isNone) = cells.countP Option.isNone := by
  rw [nullCount, List.count, List.countP_map]
  apply List.countP_congr
  intro cell _
  simp

namespace Buffer

variable {b : Buffer} {d : Descriptor} {layout : ValueLayout}

theorem nullMask_eq_map_isNone : b.nullMask layout = (layout.cells b.bytes).map Option.isNone := by
  rw [ValueLayout.cells, List.map_map, nullMask]
  apply List.map_congr_left
  intro row _
  exact (ValueLayout.isNone_cell row).symm

theorem cells_decoded {α : Type} (value : α → Value) (read : List UInt8 → α) :
    (b.decoded layout read).cells value =
      (b.rows layout.width).map fun row =>
        if layout.isNull row then none else some (value (read row)) := by
  rw [NullableArray.cells, nulls_decoded, nullMask, decoded, List.zipWith_map]
  exact List.zipWith_self

theorem cells_eq (h : d.valueLayout = .ok layout) (hwhole : b.bytes.length % layout.width = 0) :
    (b.cells d).result = .ok (layout.cells b.bytes) := by
  unfold cells
  rw [h, Outcome.ofResolution_ok_bind]
  cases layout with
  | integer layout =>
      dsimp only
      rw [decodeIntegers_eq h hwhole]
      exact congrArg Except.ok (cells_decoded ..)
  | float kind =>
      dsimp only
      rw [decodeFloats_eq h hwhole]
      exact congrArg Except.ok (cells_decoded ..)

end Buffer

end InbandNull
