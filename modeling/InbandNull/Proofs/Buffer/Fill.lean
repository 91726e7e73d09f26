import InbandNull.Buffer.Fill
import InbandNull.Proofs.Buffer.Scan
import InbandNull.Proofs.Bytes.Rows

/-!
# What writing NULLs does

Under a descriptor that resolves, filling always succeeds, with as many copies of one row as are
asked for, and a buffer of whole rows is overwritten exactly if the mask has a flag per row. The row
that is written is the only one that reads as NULL.
-/

namespace InbandNull

variable {b : Buffer} {d : Descriptor} {layout : ValueLayout}

/-- NULL has one spelling in a layout. -/
theorem ValueLayout.isNull_iff (hlayout : layout.WellFormed) {row : List UInt8}
    (hrow : row.length = layout.width) : layout.isNull row = true ↔ row = layout.nullBytes := by
  have hread := readLE_eq_iff (hrow ▸ width_le_eight hlayout) (hrow ▸ toNat_pattern_lt hlayout)
  rw [isNull, beq_iff_eq, hread, hrow, nullBytes]

/-- The bytes of so many rows that are all NULL. -/
def ValueLayout.nullColumn (layout : ValueLayout) (count : Nat) : List UInt8 :=
  (List.replicate count layout.nullBytes).flatten

theorem ValueLayout.length_of_mem_replicate_nullBytes (count : Nat) :
    ∀ row ∈ List.replicate count layout.nullBytes, row.length = layout.width := by
  intro row mem
  rw [List.eq_of_mem_replicate mem, length_nullBytes]

@[simp] theorem ValueLayout.length_nullColumn (count : Nat) :
    (layout.nullColumn count).length = count * layout.width := by
  rw [nullColumn, length_flatten_of_length (length_of_mem_replicate_nullBytes count),
    List.length_replicate]

theorem Descriptor.fillNulls_eq (h : d.valueLayout = .ok layout) (count : Nat) :
    d.fillNulls count = pure (layout.nullColumn count) := by
  unfold fillNulls
  rw [h, Outcome.ofResolution_ok_bind]
  rfl

/-- The rows of a mask of the right length lie in the buffer. -/
theorem Mask.length_mul_le {mask : Mask} {bs : List UInt8} {w : Nat}
    (hmask : mask.length = bs.length / w) : mask.length * w ≤ bs.length := by
  rw [hmask]
  exact Nat.div_mul_le_self _ _

namespace Buffer

theorem setNulls_eq (h : d.valueLayout = .ok layout)
    (hwhole : b.bytes.length % layout.width = 0) {mask : Mask}
    (hmask : mask.length = b.bytes.length / layout.width) :
    b.setNulls d mask =
      ⟨pure (), { b with bytes := overwrite layout.width layout.nullBytes mask b.bytes }⟩ := by
  unfold setNulls
  rw [h, Outcome.ofResolution_ok_bind, rowCount, if_pos hwhole, Outcome.ofCheck_ok_bind,
    if_pos hmask]
  rfl

theorem setNulls_of_length_ne (h : d.valueLayout = .ok layout)
    (hwhole : b.bytes.length % layout.width = 0) {mask : Mask}
    (hmask : mask.length ≠ b.bytes.length / layout.width) :
    b.setNulls d mask =
      ⟨.answer (.error (.error (.maskLength (b.bytes.length / layout.width) mask.length))), b⟩ := by
  unfold setNulls
  rw [h, Outcome.ofResolution_ok_bind, rowCount, if_pos hwhole, Outcome.ofCheck_ok_bind,
    if_neg hmask]
  rfl

end Buffer

end InbandNull
