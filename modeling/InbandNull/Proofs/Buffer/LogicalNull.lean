import InbandNull.ColumnType.Basic
import InbandNull.Proofs.Buffer.Decode
import InbandNull.Proofs.Layout.Integer

/-!
# The sentinel as stored and the sentinel once decoded

A column has a sentinel in the width that it is stored in and one in the width that its values are
carried in. The main statement is that where both resolve they are one, but for dictionary ids that
are stored in fewer bytes than they decode to. These reserve their greatest id, and are carried in a
width whose sentinel is negative: no id that is read can be taken for it.
-/

namespace InbandNull

namespace IntWidth

variable {size : Int32} {w : IntWidth}

/-- Only ids of four bytes are signed. -/
theorem signed_of_ofIdSize? (h : ofIdSize? size = some w) :
    w.signed = true ↔ ¬ (size = 1 ∨ size = 2) := by
  unfold ofIdSize? at h
  split_ifs at h with hone htwo hfour <;> cases h
  · simp [signed, hone]
  · simp [signed, htwo]
  · simp [signed, hone, htwo]

theorem null_eq_iff_of_ofIdSize? (h : ofIdSize? size = some w) :
    w.null = i32.null ↔ ¬ (size = 1 ∨ size = 2) := by
  rw [← signed_of_ofIdSize? h]
  unfold ofIdSize? at h
  split_ifs at h <;> cases h <;> decide

end IntWidth

namespace Descriptor

variable {d : Descriptor} {n : Int64}

/-- The column holds dictionary ids that are stored in fewer bytes than they decode to. -/
def StoresNarrowIds (d : Descriptor) : Prop :=
  d.encoding = .dict ∧ (d.size = 1 ∨ d.size = 2)

theorem encodedNull_of_plain (h : d.encoding = .plain) : d.encodedNull = d.logicalNull := by
  unfold encodedNull logicalNull storedLayout
  rw [h]
  cases d.logicalWidth with
  | error v => rfl
  | ok w => rfl

/-- Once decoded, uncompressed values have a sentinel and dictionary ids have that of four bytes. -/
theorem encoding_of_logicalNull (hn : d.logicalNull = .ok n) :
    d.encoding = .plain ∨ d.encoding = .dict ∧ n = IntWidth.i32.null := by
  obtain ⟨w, hw, rfl⟩ := map_eq_ok_iff.1 hn
  unfold logicalWidth at hw
  split_ifs at hw with hstring hdict hsize hplain
  · cases hw
    exact .inr ⟨not_not.1 hdict, rfl⟩
  · exact .inl (not_not.1 hplain)

theorem logicalNull_of_dict (h : d.encoding = .dict) (hn : d.logicalNull = .ok n) :
    n = IntWidth.i32.null := by
  rcases encoding_of_logicalNull hn with hplain | ⟨-, hnull⟩
  · exact absurd (h.symm.trans hplain) (by decide)
  · exact hnull

theorem encodedNull_of_dict (h : d.encoding = .dict) (hn : d.encodedNull = .ok n) :
    ∃ w, IntWidth.ofIdSize? d.size = some w ∧ n = w.null := by
  obtain ⟨layout, hlayout, rfl⟩ := map_eq_ok_iff.1 hn
  obtain ⟨w, hwidth, rfl⟩ := eq_ofWidth_of_stores_of_dict h (storedLayout_eq_ok_iff.1 hlayout)
  exact ⟨w, hwidth, rfl⟩

theorem encodedNull_eq_logicalNull_iff {stored logical : Int64}
    (hstored : d.encodedNull = .ok stored) (hlogical : d.logicalNull = .ok logical) :
    stored = logical ↔ ¬ d.StoresNarrowIds := by
  rcases encoding_of_logicalNull hlogical with hplain | ⟨hdict, hnull⟩
  · have hsame := encodedNull_of_plain hplain
    rw [hstored, hlogical] at hsame
    have hwide : ¬ d.StoresNarrowIds := by
      rintro ⟨hdict, -⟩
      exact absurd (hplain.symm.trans hdict) (by decide)
    exact iff_of_true (Except.ok.inj hsame) hwide
  · obtain ⟨w, hwidth, rfl⟩ := encodedNull_of_dict hdict hstored
    rw [hnull, IntWidth.null_eq_iff_of_ofIdSize? hwidth, StoresNarrowIds, and_iff_right hdict]

theorem signed_of_storesNarrowIds (h : d.StoresNarrowIds) {layout : IntLayout}
    (hlayout : d.Stores layout) : layout.signed = false := by
  obtain ⟨hdict, hsize⟩ := h
  obtain ⟨w, hwidth, rfl⟩ := eq_ofWidth_of_stores_of_dict hdict hlayout
  rw [← Bool.not_eq_true]
  intro hsigned
  exact (IntWidth.signed_of_ofIdSize? hwidth).1 hsigned hsize

end Descriptor

theorem IntLayout.toInt_decode_nonneg {layout : IntLayout} (hlayout : layout.WellFormed)
    (hsigned : layout.signed = false) {row : List UInt8} (hrow : row.length = layout.width) :
    0 ≤ (layout.decode row).toInt := by
  have hrange := inRange_decode hlayout hrow
  rw [InRange, hsigned] at hrange
  exact hrange.1

namespace Buffer

variable {b : Buffer} {d : Descriptor}

theorem logicalNull_notMem_decoded {layout : IntLayout} (hnarrow : d.StoresNarrowIds)
    {logical : Int64} (hlogical : d.logicalNull = .ok logical)
    (h : d.valueLayout = .ok (.integer layout)) :
    logical ∉ (b.decoded (.integer layout) layout.decode).values := by
  have hlayout : layout.WellFormed := ValueLayout.wellFormed_of_valueLayout h
  have hstores : d.Stores layout :=
    Descriptor.storedLayout_eq_ok_iff.1 (Descriptor.valueLayout_eq_integer_iff.1 h).2
  have hsigned := Descriptor.signed_of_storesNarrowIds hnarrow hstores
  intro mem
  obtain ⟨row, hrow, hdecode⟩ := List.mem_map.1 mem
  -- An unsigned id is never negative, and the sentinel of four signed bytes is.
  have hnonneg := IntLayout.toInt_decode_nonneg hlayout hsigned (length_of_mem_rows hrow)
  rw [hdecode, Descriptor.logicalNull_of_dict hnarrow.1 hlogical] at hnonneg
  exact absurd hnonneg (by decide)

/-- Uncompressed, the two sentinels are one, and so are the violations; where both resolve they
differ for narrow dictionary ids only, and there the sentinel once decoded is none of the ids that
are read. -/
theorem sentinels_coincide (d : Descriptor) :
    (d.encoding = .plain → d.encodedNull = d.logicalNull) ∧
    (∀ stored logical, d.encodedNull = .ok stored → d.logicalNull = .ok logical →
      (stored = logical ↔ ¬ d.StoresNarrowIds)) ∧
    ∀ logical layout, d.StoresNarrowIds → d.logicalNull = .ok logical →
      d.valueLayout = .ok (.integer layout) →
      ∀ b : Buffer, b.bytes.length % layout.width = 0 →
        ∃ array, (b.decodeIntegers d).result = .ok array ∧ logical ∉ array.values := by
  refine ⟨Descriptor.encodedNull_of_plain,
    fun _ _ => Descriptor.encodedNull_eq_logicalNull_iff, ?_⟩
  intro logical layout hnarrow hlogical h b hwhole
  refine ⟨b.decoded (.integer layout) layout.decode, ?_,
    logicalNull_notMem_decoded hnarrow hlogical h⟩
  rw [decodeIntegers_eq h hwhole]

/-- Dictionary ids in two bytes, the last of them NULL: the id 0 and the NULL are both told from the
sentinel of the ids that are decoded. -/
theorem sentinels_coincide_dictText :
    (ColumnType.dictText 2).toDescriptor.StoresNarrowIds ∧
      (ColumnType.dictText 2).toDescriptor.encodedNull = .ok 65535 ∧
      (ColumnType.dictText 2).toDescriptor.logicalNull = .ok (-2147483648) ∧
      (65535 : Int64) ≠ -2147483648 ∧
      ∃ array, (({ bytes := [0x00, 0x00, 0xFF, 0xFF] } : Buffer).decodeIntegers
          (ColumnType.dictText 2).toDescriptor).result = .ok array ∧
        -2147483648 ∉ array.values := by
  have hnarrow : (ColumnType.dictText 2).toDescriptor.StoresNarrowIds := ⟨rfl, .inr rfl⟩
  have hlogical : (ColumnType.dictText 2).toDescriptor.logicalNull = .ok (-2147483648) := rfl
  obtain ⟨-, hdiffer, hread⟩ := sentinels_coincide (ColumnType.dictText 2).toDescriptor
  refine ⟨hnarrow, rfl, hlogical, ?_, ?_⟩
  · intro heq
    exact (hdiffer 65535 (-2147483648) rfl hlogical).1 heq hnarrow
  · exact hread _ ⟨2, false, 65535⟩ hnarrow hlogical rfl _ rfl

end Buffer

end InbandNull
