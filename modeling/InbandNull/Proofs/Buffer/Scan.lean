import InbandNull.Buffer.Scan
import InbandNull.Proofs.Layout.WellFormed

/-!
# What a scan finds

On a buffer of whole rows, under a descriptor that resolves, a scan succeeds with `nullMask`: a row
is marked exactly if it reads as the pattern of the layout. Where the buffer lies and the byte order
of the machine decide which of the two ways of comparing is taken, and show in the events only.
-/

namespace InbandNull

namespace Buffer

open Logging (Event)

variable {b : Buffer} {d : Descriptor} {layout : ValueLayout}

/-- A flag per row, set where it holds the sentinel of the layout. -/
def nullMask (b : Buffer) (layout : ValueLayout) : Mask := (b.rows layout.width).map layout.isNull

@[simp] theorem length_nullMask : (b.nullMask layout).length = (b.rows layout.width).length :=
  List.length_map ..

theorem length_of_mem_rows {w : Nat} {row : List UInt8} (mem : row ∈ b.rows w) :
    row.length = w :=
  InbandNull.length_of_mem_rows (Nat.div_mul_le_self _ _) mem

theorem flatten_rows_of_whole {w : Nat} (hwhole : b.bytes.length % w = 0) :
    (b.rows w).flatten = b.bytes := by
  rw [rows, flatten_rows, Nat.div_mul_cancel (Nat.dvd_of_mod_eq_zero hwhole), List.take_length]

/-- Comparing native words and comparing bytewise find the same rows, if the pattern fits them. -/
theorem maskInPlace_eq_of_lt {w : Nat} {pattern : UInt64} (hw : w ≤ 8)
    (hpattern : pattern.toNat < 256 ^ w) : b.maskInPlace w pattern = b.maskBytewise w pattern := by
  unfold maskInPlace maskBytewise
  apply List.map_congr_left
  intro row mem
  have hrow := length_of_mem_rows mem
  have hneedle : b.host.load row = b.host.needle row.length pattern ↔ readLE row = pattern :=
    b.host.load_eq_needle_iff (hrow ▸ hw) (hrow ▸ hpattern)
  rw [hrow] at hneedle
  rw [truncateToWidth_of_lt hw hpattern, Bool.eq_iff_iff, beq_iff_eq, beq_iff_eq, hneedle]

/-- Both ways of comparing find the rows that read as the pattern. -/
theorem mask_eq_nullMask (hlayout : layout.WellFormed) :
    b.mask layout.width layout.pattern = b.nullMask layout := by
  unfold mask
  split
  · exact maskInPlace_eq_of_lt (ValueLayout.width_le_eight hlayout)
      (ValueLayout.toNat_pattern_lt hlayout)
  · rfl

/-- The events of a scan that succeeds. -/
def scanEvents (b : Buffer) (d : Descriptor) (layout : ValueLayout) : List Event :=
  (if isWordWidth layout.width && !b.inPlace layout.width then [.notInPlace] else []) ++
    [.scanned (b.bytes.length / layout.width) d.sqlType layout.width (b.nullMask layout).nullCount]

theorem scan_eq (h : d.valueLayout = .ok layout) (hwhole : b.bytes.length % layout.width = 0) :
    b.scan d = ⟨b.scanEvents d layout, .ok (b.nullMask layout)⟩ := by
  unfold scan scanEvents
  rw [h, Outcome.ofResolution_ok_bind, rowCount, if_pos hwhole, Outcome.ofCheck_ok_bind]
  dsimp only
  rw [mask_eq_nullMask (ValueLayout.wellFormed_of_valueLayout h)]
  split
  · rfl
  · rfl

theorem nullCount_eq (h : d.valueLayout = .ok layout)
    (hwhole : b.bytes.length % layout.width = 0) :
    b.nullCount d = ⟨b.scanEvents d layout, .ok (b.nullMask layout).nullCount⟩ := by
  unfold nullCount
  rw [scan_eq h hwhole]
  exact congrArg (Outcome.mk · _) (List.append_nil _)

end Buffer

end InbandNull
