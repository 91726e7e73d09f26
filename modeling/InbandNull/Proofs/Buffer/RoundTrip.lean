import InbandNull.Proofs.Buffer.Recognition
import InbandNull.Proofs.Bytes.Rows

/-!
# Integer columns survive writing and reading

`IntLayout.encodeAll` writes a column of integers. On the integers of a layout, decoding is its
inverse and finds NULL in the sentinel and in no other integer. On buffers of whole rows it is the
inverse of decoding, which gives integers of the layout only.
-/

namespace InbandNull

namespace IntLayout

variable {layout : IntLayout}

/-- The bytes of a column of integers. -/
def encodeAll (layout : IntLayout) (values : List Int64) : List UInt8 :=
  (values.map layout.encode).flatten

theorem length_of_mem_map_encode {values : List Int64} :
    ∀ row ∈ values.map layout.encode, row.length = layout.width := by
  intro row mem
  obtain ⟨n, -, rfl⟩ := List.mem_map.1 mem
  exact length_encode n

theorem map_decode_map_encode (hlayout : layout.WellFormed) {values : List Int64}
    (hvalues : ∀ n ∈ values, layout.InRange n.toInt) :
    (values.map layout.encode).map layout.decode = values := by
  rw [List.map_map]
  conv_rhs => rw [← List.map_id values]
  apply List.map_congr_left
  intro n mem
  exact decode_encode hlayout (hvalues n mem)

end IntLayout

namespace Buffer

variable {b : Buffer} {d : Descriptor} {layout : IntLayout}

theorem decoded_of_encodeAll (hlayout : layout.WellFormed) {values : List Int64}
    (hvalues : ∀ n ∈ values, layout.InRange n.toInt) (hb : b.bytes = layout.encodeAll values) :
    (b.decoded (.integer layout) layout.decode).values = values := by
  have hrows : b.rows layout.width = values.map layout.encode := by
    rw [rows, hb]
    exact rows_flatten_div hlayout.one_le_width IntLayout.length_of_mem_map_encode
  change (b.rows layout.width).map layout.decode = values
  rw [hrows]
  exact IntLayout.map_decode_map_encode hlayout hvalues

theorem encodeAll_decoded (hlayout : layout.WellFormed)
    (hwhole : b.bytes.length % layout.width = 0) :
    layout.encodeAll (b.decoded (.integer layout) layout.decode).values = b.bytes := by
  have hrows : ((b.rows layout.width).map layout.decode).map layout.encode =
      b.rows layout.width := by
    rw [List.map_map]
    conv_rhs => rw [← List.map_id (b.rows layout.width)]
    apply List.map_congr_left
    intro row mem
    exact IntLayout.encode_decode hlayout (length_of_mem_rows mem)
  change (((b.rows layout.width).map layout.decode).map layout.encode).flatten = b.bytes
  rw [hrows, flatten_rows_of_whole hwhole]

/-- Decoding and writing a column of integers are inverse to each other, with no NULL gained and
none lost. -/
theorem decodeIntegers_encodeAll_inverse (h : d.valueLayout = .ok (.integer layout)) :
    (∀ (b : Buffer) (values : List Int64), (∀ n ∈ values, layout.InRange n.toInt) →
      b.bytes = layout.encodeAll values →
      ∃ array null, (b.decodeIntegers d).result = .ok array ∧ d.encodedNull = .ok null ∧
        array.values = values ∧ array.nulls = values.map (· == null)) ∧
    ∀ b : Buffer, b.bytes.length % layout.width = 0 →
      ∃ array, (b.decodeIntegers d).result = .ok array ∧
        (∀ n ∈ array.values, layout.InRange n.toInt) ∧
        layout.encodeAll array.values = b.bytes := by
  have hlayout : layout.WellFormed := ValueLayout.wellFormed_of_valueLayout h
  constructor
  · intro b values hvalues hb
    have hwhole : b.bytes.length % layout.width = 0 := by
      rw [hb, IntLayout.encodeAll, length_flatten_of_length IntLayout.length_of_mem_map_encode,
        Nat.mul_mod_left]
    have hdecoded := decoded_of_encodeAll hlayout hvalues hb
    refine ⟨b.decoded (.integer layout) layout.decode, layout.null, ?_,
      Descriptor.encodedNull_eq h, hdecoded, ?_⟩
    · rw [decodeIntegers_eq h hwhole]
    · rw [nulls_decoded, nullMask_eq_map_integers hlayout, hdecoded]
  · intro b hwhole
    refine ⟨b.decoded (.integer layout) layout.decode, ?_, ?_, encodeAll_decoded hlayout hwhole⟩
    · rw [decodeIntegers_eq h hwhole]
    · intro n mem
      obtain ⟨row, hrow, rfl⟩ := List.mem_map.1 mem
      exact IntLayout.inRange_decode hlayout (length_of_mem_rows hrow)

/-- In 24 bits the sentinel is the least integer, and all ones are an ordinary value. -/
theorem decodeIntegers_encodeAll_inverse_narrowed :
    (ColumnType.fixed .bigInt 24).toDescriptor.valueLayout =
        .ok (.integer ⟨3, true, -8388608⟩) ∧
      (∀ n ∈ [-8388608, -1, 5, 8388607], IntLayout.InRange ⟨3, true, -8388608⟩ (Int64.toInt n)) ∧
      ∀ b : Buffer,
        b.bytes = [0x00, 0x00, 0x80, 0xFF, 0xFF, 0xFF, 0x05, 0x00, 0x00, 0xFF, 0xFF, 0x7F] →
        ∃ array null,
          (b.decodeIntegers (ColumnType.fixed .bigInt 24).toDescriptor).result = .ok array ∧
            (ColumnType.fixed .bigInt 24).toDescriptor.encodedNull = .ok null ∧
            array.values = [-8388608, -1, 5, 8388607] ∧
            array.nulls = [-8388608, -1, 5, 8388607].map (· == null) := by
  have hvalues : ∀ n ∈ [-8388608, -1, 5, 8388607],
      IntLayout.InRange ⟨3, true, -8388608⟩ (Int64.toInt n) := by
    intro n mem
    simp only [List.mem_cons, List.not_mem_nil, or_false] at mem
    rcases mem with rfl | rfl | rfl | rfl <;> simp [IntLayout.InRange]
  refine ⟨rfl, hvalues, ?_⟩
  intro b hb
  have hinverse :=
    decodeIntegers_encodeAll_inverse (d := (ColumnType.fixed .bigInt 24).toDescriptor) rfl
  exact hinverse.1 b _ hvalues hb

end Buffer

end InbandNull
