import InbandNull.ColumnType.Basic
import InbandNull.Proofs.Buffer.Fill
import InbandNull.Proofs.Bytes.Overwrite

/-!
# Columns without data

A column of NULLs can be made by filling and by overwriting every row of some other column. The main
statement is that both write the same bytes, which depend on nothing but the layout and the number
of rows, and that a count finds as many NULLs as rows in these bytes and in no others: NULL has one
spelling, so a column of NULLs has one too.
-/

namespace InbandNull

namespace Mask

theorem nullCount_eq_length_iff {m : Mask} :
    m.nullCount = m.length ↔ ∀ isNull ∈ m, isNull = true := by
  rw [nullCount, List.count_eq_length]
  exact forall₂_congr fun _ _ => eq_comm

end Mask

variable {layout : ValueLayout}

theorem ValueLayout.nullColumn_add (m n : Nat) :
    layout.nullColumn (m + n) = layout.nullColumn m ++ layout.nullColumn n := by
  rw [nullColumn, ← List.replicate_append_replicate, List.flatten_append]
  rfl

theorem ValueLayout.rows_nullColumn (n : Nat) :
    rows layout.width n (layout.nullColumn n) = List.replicate n layout.nullBytes := by
  have hrows := rows_flatten (layout.length_of_mem_replicate_nullBytes n)
  rwa [List.length_replicate] at hrows

namespace Buffer

variable {b : Buffer} {d : Descriptor} {n : Nat}

theorem whole_and_count_of_length {w : Nat} (hpos : 1 ≤ w) (hb : b.bytes.length = n * w) :
    b.bytes.length % w = 0 ∧ b.bytes.length / w = n := by
  rw [hb]
  exact ⟨Nat.mul_mod_left n w, Nat.mul_div_cancel n hpos⟩

/-- A buffer is the column of NULLs if all its rows are what is written for NULL. -/
theorem bytes_eq_nullColumn_iff (hpos : 1 ≤ layout.width)
    (hb : b.bytes.length = n * layout.width) :
    b.bytes = layout.nullColumn n ↔ ∀ row ∈ b.rows layout.width, row = layout.nullBytes := by
  obtain ⟨hwhole, hcount⟩ := whole_and_count_of_length hpos hb
  constructor
  · intro h row mem
    rw [rows, hcount, h, ValueLayout.rows_nullColumn] at mem
    exact List.eq_of_mem_replicate mem
  · intro h
    have hrows : b.rows layout.width = List.replicate n layout.nullBytes :=
      List.eq_replicate_iff.2 ⟨(length_rows b layout.width).trans hcount, h⟩
    rw [← flatten_rows_of_whole hwhole, hrows]
    rfl

/-- The NULLs are as many as the rows in the column of NULLs only. -/
theorem nullCount_nullMask_eq_iff (hlayout : layout.WellFormed)
    (hb : b.bytes.length = n * layout.width) :
    (b.nullMask layout).nullCount = n ↔ b.bytes = layout.nullColumn n := by
  have hpos := ValueLayout.one_le_width hlayout
  have hlen : (b.nullMask layout).length = n := by
    rw [length_nullMask, length_rows, (whole_and_count_of_length hpos hb).2]
  calc (b.nullMask layout).nullCount = n
      ↔ (b.nullMask layout).nullCount = (b.nullMask layout).length := by rw [hlen]
    _ ↔ ∀ isNull ∈ b.nullMask layout, isNull = true := Mask.nullCount_eq_length_iff
    _ ↔ ∀ row ∈ b.rows layout.width, layout.isNull row = true := List.forall_mem_map
    -- NULL has one spelling, so a row that reads as NULL is the one that is written.
    _ ↔ ∀ row ∈ b.rows layout.width, row = layout.nullBytes :=
      forall₂_congr fun _ mem => ValueLayout.isNull_iff hlayout (length_of_mem_rows mem)
    _ ↔ b.bytes = layout.nullColumn n := (bytes_eq_nullColumn_iff hpos hb).symm

theorem setNulls_replicate_true (h : d.valueLayout = .ok layout)
    (hb : b.bytes.length = n * layout.width) :
    b.setNulls d (List.replicate n true) =
      ⟨pure (), { b with bytes := layout.nullColumn n }⟩ := by
  have hpos := ValueLayout.one_le_width (ValueLayout.wellFormed_of_valueLayout h)
  obtain ⟨hwhole, hcount⟩ := whole_and_count_of_length hpos hb
  have hmask : (List.replicate n true).length = b.bytes.length / layout.width := by
    rw [List.length_replicate, hcount]
  rw [setNulls_eq h hwhole hmask, overwrite_replicate_true hb]
  rfl

/-- Filling makes the column of NULLs, row after row. Overwriting all rows of any buffer makes the
same, and no other buffer has as many NULLs as rows. -/
theorem fillNulls_unique (h : d.valueLayout = .ok layout) :
    ∃ column : Nat → List UInt8,
      (∀ n, d.fillNulls n = pure (column n)) ∧
      (∀ n, (column n).length = n * layout.width) ∧
      (∀ m n, column (m + n) = column m ++ column n) ∧
      ∀ (n : Nat) (b : Buffer), b.bytes.length = n * layout.width →
        b.setNulls d (List.replicate n true) = ⟨pure (), { b with bytes := column n }⟩ ∧
        ∃ count, (b.nullCount d).result = .ok count ∧ (count = n ↔ b.bytes = column n) := by
  have hlayout := ValueLayout.wellFormed_of_valueLayout h
  refine ⟨layout.nullColumn, Descriptor.fillNulls_eq h, ValueLayout.length_nullColumn,
    ValueLayout.nullColumn_add, ?_⟩
  intro n b hb
  obtain ⟨hwhole, -⟩ := whole_and_count_of_length (ValueLayout.one_le_width hlayout) hb
  refine ⟨setNulls_replicate_true h hb, (b.nullMask layout).nullCount, ?_,
    nullCount_nullMask_eq_iff hlayout hb⟩
  rw [nullCount_eq h hwhole]

/-- Two rows of three bytes: overwritten they are what filling makes, and before that they have not
two NULLs, since the second differs from NULL in its last byte. -/
theorem fillNulls_unique_narrowed :
    (ColumnType.fixed .bigInt 24).toDescriptor.valueLayout = .ok (.integer ⟨3, true, -8388608⟩) ∧
      ([0x00, 0x00, 0x80, 0x00, 0x00, 0x81] : List UInt8).length = 2 * 3 ∧
      (ColumnType.fixed .bigInt 24).toDescriptor.fillNulls 2 =
        pure [0x00, 0x00, 0x80, 0x00, 0x00, 0x80] ∧
      ∀ b : Buffer, b.bytes = [0x00, 0x00, 0x80, 0x00, 0x00, 0x81] →
        b.setNulls (ColumnType.fixed .bigInt 24).toDescriptor [true, true] =
          ⟨pure (), { b with bytes := [0x00, 0x00, 0x80, 0x00, 0x00, 0x80] }⟩ ∧
        ∃ count, (b.nullCount (ColumnType.fixed .bigInt 24).toDescriptor).result = .ok count ∧
          count ≠ 2 := by
  have h : (ColumnType.fixed .bigInt 24).toDescriptor.valueLayout =
      .ok (.integer ⟨3, true, -8388608⟩) := rfl
  obtain ⟨column, hfill, -, -, hrows⟩ := fillNulls_unique h
  have hcolumn : column 2 = [0x00, 0x00, 0x80, 0x00, 0x00, 0x80] := by
    have hpure : (pure (column 2) : Outcome (List UInt8)) =
        pure [0x00, 0x00, 0x80, 0x00, 0x00, 0x80] := (hfill 2).symm
    exact Except.ok.inj (congrArg Outcome.result hpure)
  refine ⟨h, rfl, rfl, ?_⟩
  intro b hb
  obtain ⟨hset, count, hcount, hiff⟩ := hrows 2 b (by rw [hb]; rfl)
  rw [hcolumn] at hset hiff
  refine ⟨hset, count, hcount, ?_⟩
  intro htwo
  exact absurd (hb.symm.trans (hiff.1 htwo)) (by decide)

end Buffer

end InbandNull
