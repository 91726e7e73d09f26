import InbandNull.Proofs.Layout.Range

/-!
# Rows of integers

`IntLayout.encode` writes an integer in the low-order bytes of a row. On the integers of a layout it
is the inverse of `IntLayout.decode`, in both directions. A row is decoded as an integer of the
layout exactly if it holds the truncated pattern of that integer, and the sentinel is one of these
integers: so a comparison of stored patterns and a comparison of decoded values pick the same rows.
-/

namespace InbandNull

namespace IntLayout

variable {layout : IntLayout}

/-- The row that an integer is written to: its low-order bytes. -/
def encode (layout : IntLayout) (n : Int64) : List UInt8 := writeLE layout.width n.toUInt64

@[simp] theorem length_encode (n : Int64) : (layout.encode n).length = layout.width :=
  length_writeLE ..

theorem toNat_readLE_lt_of_length (hlayout : layout.WellFormed) {row : List UInt8}
    (hrow : row.length = layout.width) : (readLE row).toNat < 256 ^ layout.width := by
  rw [← hrow]
  exact toNat_readLE_lt (hrow ▸ hlayout.width_le_eight)

/-- Decoding picks the integer of the layout with the residue that is read. -/
theorem toInt_decode (hlayout : layout.WellFormed) {row : List UInt8}
    (hrow : row.length = layout.width) :
    (layout.decode row).toInt = layout.wrap (readLE row).toNat := by
  have hlt := toNat_readLE_lt_of_length hlayout hrow
  cases hsigned : layout.signed with
  | true =>
      simp only [decode, wrap, hsigned, if_true, hrow]
      exact toInt_signExtend hlayout.one_le_width hlayout.width_le_eight hlt
  | false =>
      -- The word of a narrow id is far from the sign bit of 64 bits.
      have hnarrow : 256 ^ layout.width ≤ 256 ^ 2 :=
        Nat.pow_le_pow_right (by decide) (hlayout.width_of_unsigned hsigned)
      simp only [decode, wrap, hsigned, Bool.false_eq_true, if_false]
      rw [toInt_toInt64, Int.bmod_eq_of_le (by omega) (by omega)]
      exact (Int.emod_eq_of_lt (by omega) (by exact_mod_cast hlt)).symm

theorem inRange_decode (hlayout : layout.WellFormed) {row : List UInt8}
    (hrow : row.length = layout.width) : layout.InRange (layout.decode row).toInt := by
  rw [toInt_decode hlayout hrow]
  exact inRange_wrap hlayout.one_le_width _

theorem toNat_truncateToWidth_toUInt64 (hlayout : layout.WellFormed) (n : Int64) :
    ((truncateToWidth n.toUInt64 layout.width).toNat : Int) =
      n.toInt % (256 ^ layout.width : Nat) := by
  rw [toNat_truncateToWidth _ hlayout.width_le_eight, Int.natCast_emod,
    toNat_toUInt64_emod n hlayout.width_le_eight]

/-- Comparing decoded values is comparing stored patterns. -/
theorem decode_eq_iff (hlayout : layout.WellFormed) {row : List UInt8}
    (hrow : row.length = layout.width) {n : Int64} (hn : layout.InRange n.toInt) :
    layout.decode row = n ↔ readLE row = truncateToWidth n.toUInt64 layout.width := by
  have hlt := toNat_readLE_lt_of_length hlayout hrow
  have hresidue : ((readLE row).toNat : Int) % (256 ^ layout.width : Nat) = (readLE row).toNat :=
    Int.emod_eq_of_lt (by omega) (by exact_mod_cast hlt)
  rw [← Int64.toInt_inj, toInt_decode hlayout hrow, wrap_eq_iff hlayout.one_le_width hn, hresidue,
    ← toNat_truncateToWidth_toUInt64 hlayout, Int.natCast_inj, UInt64.toNat_inj]

theorem decode_encode (hlayout : layout.WellFormed) {n : Int64} (hn : layout.InRange n.toInt) :
    layout.decode (layout.encode n) = n := by
  rw [decode_eq_iff hlayout (length_encode n) hn]
  apply UInt64.toNat_inj.1
  rw [encode, toNat_readLE_writeLE hlayout.width_le_eight,
    toNat_truncateToWidth _ hlayout.width_le_eight]

theorem encode_decode (hlayout : layout.WellFormed) {row : List UInt8}
    (hrow : row.length = layout.width) : layout.encode (layout.decode row) = row := by
  have hread : readLE row = truncateToWidth (layout.decode row).toUInt64 layout.width :=
    (decode_eq_iff hlayout hrow (inRange_decode hlayout hrow)).1 rfl
  have hresidue : (layout.decode row).toUInt64.toNat % 256 ^ layout.width =
      (readLE row).toNat % 256 ^ layout.width := by
    rw [hread, toNat_truncateToWidth _ hlayout.width_le_eight, Nat.mod_mod]
  rw [encode, writeLE_congr hlayout.width_le_eight hresidue, ← hrow]
  exact writeLE_readLE (hrow ▸ hlayout.width_le_eight)

theorem inRange_null (hlayout : layout.WellFormed) : layout.InRange layout.null.toInt := by
  unfold InRange
  split
  · next hsigned =>
      rw [hlayout.null_of_signed hsigned]
      have hpos : (0 : Int) < 2 ^ (8 * layout.width - 1) := by positivity
      constructor
      · omega
      · omega
  · next hsigned =>
      rw [hlayout.null_of_unsigned (Bool.eq_false_of_not_eq_true hsigned)]
      have hpos : (0 : Int) < 2 ^ (8 * layout.width) := by positivity
      constructor
      · omega
      · omega

theorem null_ne_zero (hlayout : layout.WellFormed) : layout.null.toInt ≠ 0 := by
  cases hsigned : layout.signed with
  | true =>
      have hpos : (0 : Int) < 2 ^ (8 * layout.width - 1) := by positivity
      rw [hlayout.null_of_signed hsigned]
      omega
  | false =>
      have hwidth := hlayout.one_le_width
      have hpos : (1 : Int) < 2 ^ (8 * layout.width) := one_lt_pow₀ (by decide) (by omega)
      rw [hlayout.null_of_unsigned hsigned]
      omega

theorem inRange_zero : layout.InRange 0 := by
  unfold InRange
  split
  · exact ⟨by simp, by positivity⟩
  · exact ⟨le_rfl, by positivity⟩

theorem isNull_eq_decode (hlayout : layout.WellFormed) {row : List UInt8}
    (hrow : row.length = layout.width) :
    (ValueLayout.integer layout).isNull row = (layout.decode row == layout.null) := by
  rw [ValueLayout.isNull, Bool.eq_iff_iff, beq_iff_eq, beq_iff_eq]
  exact (decode_eq_iff hlayout hrow (inRange_null hlayout)).symm

end IntLayout

/-- Zero is the only integer of a layout that is stored as zeros, and it is never the sentinel. -/
theorem ValueLayout.pattern_ne_zero {layout : ValueLayout} (hlayout : layout.WellFormed) :
    layout.pattern ≠ 0 := by
  cases layout with
  | integer layout =>
      intro (hpattern : truncateToWidth layout.null.toUInt64 layout.width = 0)
      have hresidue := IntLayout.toNat_truncateToWidth_toUInt64 hlayout layout.null
      rw [hpattern] at hresidue
      have hwrap : layout.wrap 0 = layout.null.toInt := by
        rw [IntLayout.wrap_eq_iff hlayout.one_le_width (IntLayout.inRange_null hlayout), ← hresidue]
        rfl
      rw [IntLayout.wrap_of_inRange hlayout.one_le_width IntLayout.inRange_zero] at hwrap
      exact IntLayout.null_ne_zero hlayout hwrap.symm
  | float kind => cases kind <;> decide

end InbandNull
