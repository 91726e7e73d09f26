import InbandNull.ColumnType.Basic
import InbandNull.Proofs.Buffer.Decode
import InbandNull.Proofs.Layout.Integer
import InbandNull.Proofs.Sentinel.Widening

/-!
# Scanning stored rows and testing decoded values

A scan compares the bytes of a row with the stored pattern; a reader of a decoded column compares
values with the widened sentinel. The main statements say that both find the same NULLs, on integer
columns because a layout has one integer for each row, on floating-point columns because widening
meets the widened sentinel only at the sentinel. The bits that widening gives a NaN do not matter.
-/

namespace InbandNull

namespace FloatKind

/-- Decoding with some other way of widening. -/
def decodeBy (widen : UInt32 → UInt64) (kind : FloatKind) (row : List UInt8) : UInt64 :=
  match kind with
  | .single => widen (readLE row).toUInt32
  | .double => readLE row

/-- However a stored number is widened, it is the sentinel exactly if its row is. -/
theorem isNull_eq_decodeBy {widen : UInt32 → UInt64} (hwiden : Binary32.IsWidening widen)
    (kind : FloatKind) {row : List UInt8} (hrow : row.length = kind.width) :
    (ValueLayout.float kind).isNull row = (kind.decodeBy widen row == kind.null) := by
  rw [ValueLayout.isNull, Bool.eq_iff_iff, beq_iff_eq, beq_iff_eq]
  cases kind with
  | single =>
      have hlen : row.length = 4 := hrow
      have hlt : (readLE row).toNat < 256 ^ 4 := hlen ▸ toNat_readLE_lt (by omega)
      have hnarrow : (readLE row).toUInt32.toUInt64 = readLE row := by
        apply UInt64.toNat_inj.1
        rw [UInt32.toNat_toUInt64, UInt64.toNat_toUInt32]
        exact Nat.mod_eq_of_lt hlt
      have hpattern : readLE row = nullFloat.toUInt64 ↔ (readLE row).toUInt32 = nullFloat := by
        rw [← UInt32.toUInt64_inj, hnarrow]
      exact hpattern.trans hwiden.eq_null_iff.symm
  | double => exact Iff.rfl

end FloatKind

namespace Buffer

variable {b : Buffer} {d : Descriptor}

/-- What the decoder gives with some other way of widening. -/
def floatsBy (b : Buffer) (widen : UInt32 → UInt64) (kind : FloatKind) : NullableArray UInt64 :=
  b.decoded (.float kind) (kind.decodeBy widen)

theorem nullMask_eq_map_integers {layout : IntLayout} (hlayout : layout.WellFormed) :
    b.nullMask (.integer layout) =
      (b.decoded (.integer layout) layout.decode).values.map (· == layout.null) := by
  apply nullMask_eq_map_decoded
  intro row hrow
  exact IntLayout.isNull_eq_decode hlayout hrow

theorem nullMask_eq_map_floatsBy {widen : UInt32 → UInt64} (hwiden : Binary32.IsWidening widen)
    (kind : FloatKind) :
    b.nullMask (.float kind) = (b.floatsBy widen kind).values.map (· == kind.null) := by
  apply nullMask_eq_map_decoded
  intro row hrow
  exact FloatKind.isNull_eq_decodeBy hwiden kind hrow

theorem getElem?_of_eq_map_beq {α : Type} [BEq α] {mask : Mask} {values : List α} {null x : α}
    (hmask : mask = values.map (· == null)) {i : Nat} (hx : values[i]? = some x) :
    mask[i]? = some (x == null) := by
  rw [hmask, List.getElem?_map, hx]
  rfl

/-- Slot by slot, a scan and a test of the decoded integers find the same NULLs, and a NULL slot
holds the sentinel. -/
theorem scan_agrees_isNullEncoded {layout : IntLayout} (h : d.valueLayout = .ok (.integer layout))
    (hwhole : b.bytes.length % layout.width = 0) :
    ∃ mask array null, (b.scan d).result = .ok mask ∧ (b.decodeIntegers d).result = .ok array ∧
      d.encodedNull = .ok null ∧ mask.length = b.bytes.length / layout.width ∧
      array.values.length = b.bytes.length / layout.width ∧
      ∀ (i : Nat) (n : Int64), array.values[i]? = some n →
        ∃ isNull, mask[i]? = some isNull ∧ array.nulls[i]? = some isNull ∧
          d.isNullEncoded n = .ok isNull ∧ (isNull = true → n = null) := by
  have hmask := nullMask_eq_map_integers (b := b) (ValueLayout.wellFormed_of_valueLayout h)
  refine ⟨b.nullMask (.integer layout), b.decoded (.integer layout) layout.decode, layout.null,
    ?_, ?_, Descriptor.encodedNull_eq h, ?_, ?_, ?_⟩
  · rw [scan_eq h hwhole]
  · rw [decodeIntegers_eq h hwhole]
  · rw [length_nullMask, length_rows]
    rfl
  · rw [length_decoded]
    rfl
  · intro i n hn
    have hslot := getElem?_of_eq_map_beq hmask hn
    refine ⟨n == layout.null, hslot, ?_, Descriptor.isNullEncoded_eq h n, eq_of_beq⟩
    rw [nulls_decoded, hslot]

theorem scan_agrees_isNullEncoded_dictText :
    (ColumnType.dictText 1).toDescriptor.valueLayout = .ok (.integer ⟨1, false, 255⟩) ∧
      ([0x00, 0xFF, 0x07] : List UInt8).length % 1 = 0 ∧
      ∃ mask array null,
        (({ bytes := [0x00, 0xFF, 0x07] } : Buffer).scan
            (ColumnType.dictText 1).toDescriptor).result = .ok mask ∧
          (({ bytes := [0x00, 0xFF, 0x07] } : Buffer).decodeIntegers
            (ColumnType.dictText 1).toDescriptor).result = .ok array ∧
          (ColumnType.dictText 1).toDescriptor.encodedNull = .ok null ∧
          mask.length = 3 ∧ array.values.length = 3 ∧
          ∀ (i : Nat) (n : Int64), array.values[i]? = some n →
            ∃ isNull, mask[i]? = some isNull ∧ array.nulls[i]? = some isNull ∧
              (ColumnType.dictText 1).toDescriptor.isNullEncoded n = .ok isNull ∧
              (isNull = true → n = null) := by
  have h : (ColumnType.dictText 1).toDescriptor.valueLayout = .ok (.integer ⟨1, false, 255⟩) := rfl
  exact ⟨h, rfl, scan_agrees_isNullEncoded (b := { bytes := [0x00, 0xFF, 0x07] }) h rfl⟩

/-- Slot by slot, a scan and a test of the decoded numbers find the same NULLs, and a NULL slot
holds the widened sentinel. The decoder widens exactly, and any other exact widening would do: no
other pattern is widened to the sentinel. -/
theorem scan_agrees_isNullFloat {kind : FloatKind} (h : d.valueLayout = .ok (.float kind))
    (hwhole : b.bytes.length % kind.width = 0) :
    Binary32.IsWidening Binary32.widen ∧
      (b.decodeFloats d).result = .ok (b.floatsBy Binary32.widen kind) ∧
      ∃ mask null, (b.scan d).result = .ok mask ∧ d.floatingNull = .ok null ∧
        mask.length = b.bytes.length / kind.width ∧
        ∀ widen, Binary32.IsWidening widen →
          (∀ x, widen x = FloatKind.single.null ↔ x = nullFloat) ∧
          (b.floatsBy widen kind).values.length = b.bytes.length / kind.width ∧
          ∀ (i : Nat) (bits : UInt64), (b.floatsBy widen kind).values[i]? = some bits →
            ∃ isNull, mask[i]? = some isNull ∧ (b.floatsBy widen kind).nulls[i]? = some isNull ∧
              d.isNullFloat bits = .ok isNull ∧ (isNull = true → bits = null) := by
  refine ⟨Binary32.isWidening_widen, ?_, b.nullMask (.float kind), kind.null, ?_,
    Descriptor.floatingNull_eq h, ?_, ?_⟩
  · rw [decodeFloats_eq h hwhole]
    rfl
  · rw [scan_eq h hwhole]
  · rw [length_nullMask, length_rows]
    rfl
  · intro widen hwiden
    have hmask := nullMask_eq_map_floatsBy (b := b) hwiden kind
    refine ⟨fun _ => hwiden.eq_null_iff, ?_, ?_⟩
    · rw [floatsBy, length_decoded]
      rfl
    · intro i bits hbits
      have hslot := getElem?_of_eq_map_beq hmask hbits
      refine ⟨bits == kind.null, hslot, ?_, Descriptor.isNullFloat_eq h bits, eq_of_beq⟩
      rw [floatsBy, nulls_decoded, hslot]

theorem scan_agrees_isNullFloat_single :
    (ColumnType.plain .float).toDescriptor.valueLayout = .ok (.float .single) ∧
      Binary32.IsWidening Binary32.widen ∧
      ∃ mask null,
        (({ bytes := [0x00, 0x00, 0x80, 0x00, 0x00, 0x00, 0x80, 0x80, 0x01, 0x00, 0x80, 0x7F] } :
            Buffer).scan (ColumnType.plain .float).toDescriptor).result = .ok mask ∧
          (ColumnType.plain .float).toDescriptor.floatingNull = .ok null ∧
          ∀ (i : Nat) (bits : UInt64),
            [0x3810000000000000, 0xB810000000000000, 0x7FF8000020000000][i]? = some bits →
            ∃ isNull, mask[i]? = some isNull ∧
              (ColumnType.plain .float).toDescriptor.isNullFloat bits = .ok isNull ∧
              (isNull = true → bits = null) := by
  have h : (ColumnType.plain .float).toDescriptor.valueLayout = .ok (.float .single) := rfl
  obtain ⟨hwiden, -, mask, null, hscan, hnull, -, hslots⟩ :=
    scan_agrees_isNullFloat (b := { bytes :=
      [0x00, 0x00, 0x80, 0x00, 0x00, 0x00, 0x80, 0x80, 0x01, 0x00, 0x80, 0x7F] }) h rfl
  refine ⟨h, hwiden, mask, null, hscan, hnull, ?_⟩
  intro i bits hbits
  obtain ⟨-, -, hslot⟩ := hslots Binary32.widen hwiden
  obtain ⟨isNull, hmask, -, htest, hvalue⟩ := hslot i bits hbits
  exact ⟨isNull, hmask, htest, hvalue⟩

end Buffer

end InbandNull
