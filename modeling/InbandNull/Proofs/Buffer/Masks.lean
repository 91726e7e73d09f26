import InbandNull.ColumnType.Basic
import InbandNull.Proofs.Buffer.Fill
import InbandNull.Proofs.Bytes.Overwrite

/-!
# Masks that are applied

Writing NULLs by mask after mask. The main statements are that this confines itself to the rows that
are set, where the order of the masks and their repetitions do not count, only their union; and that
it changes nothing exactly if every row that is set is NULL already.
-/

namespace InbandNull

namespace Mask

/-- The rows that are set in either mask. -/
def union (m n : Mask) : Mask := List.zipWith (· || ·) m n

variable {m n : Mask}

theorem length_union (hlen : m.length = n.length) : (m.union n).length = m.length := by
  rw [union, List.length_zipWith, ← hlen, Nat.min_self]

theorem getElem?_union (hlen : m.length = n.length) (i : Nat) :
    (m.union n)[i]? = some true ↔ m[i]? = some true ∨ n[i]? = some true := by
  rw [union, List.getElem?_zipWith]
  by_cases hi : i < m.length
  · rw [List.getElem?_eq_getElem hi, List.getElem?_eq_getElem (hlen ▸ hi)]
    simp
  · rw [List.getElem?_eq_none (Nat.le_of_not_lt hi),
      List.getElem?_eq_none (hlen ▸ Nat.le_of_not_lt hi)]
    simp

theorem union_comm (m n : Mask) : m.union n = n.union m := by
  rw [union, List.zipWith_comm]
  simp only [Bool.or_comm]
  rfl

theorem union_self (m : Mask) : m.union m = m := by
  rw [union, List.zipWith_self]
  simp

end Mask

/-- Overwriting the rows of one mask and then those of another is overwriting the rows of either. A
row of both is written twice alike, and no other row is written twice. -/
theorem overwrite_overwrite {w : Nat} {new : List UInt8} (hpos : 1 ≤ w) (hnew : new.length = w)
    {m n : Mask} (hlen : m.length = n.length) {bs : List UInt8} (hbs : m.length * w ≤ bs.length) :
    overwrite w new n (overwrite w new m bs) = overwrite w new (m.union n) bs := by
  have hunion : (m.union n).length * w ≤ bs.length := by
    rw [Mask.length_union hlen]
    exact hbs
  have hsecond : n.length * w ≤ (overwrite w new m bs).length := by
    rw [length_overwrite hnew hbs, ← hlen]
    exact hbs
  apply List.ext_getElem?
  intro k
  rw [getElem?_overwrite hpos hnew hsecond, getElem?_overwrite hpos hnew hbs,
    getElem?_overwrite hpos hnew hunion]
  simp only [Mask.getElem?_union hlen]
  by_cases hm : m[k / w]? = some true
  · simp [hm]
  · simp [hm]

namespace Buffer

variable {b : Buffer} {d : Descriptor} {layout : ValueLayout} {m n : Mask}

theorem length_bytes_setNulls (h : d.valueLayout = .ok layout)
    (hwhole : b.bytes.length % layout.width = 0) (hm : m.length = b.bytes.length / layout.width) :
    (b.setNulls d m).buffer.bytes.length = b.bytes.length := by
  rw [setNulls_eq h hwhole hm]
  exact length_overwrite layout.length_nullBytes (Mask.length_mul_le hm)

theorem getElem?_bytes_setNulls (h : d.valueLayout = .ok layout)
    (hwhole : b.bytes.length % layout.width = 0) (hm : m.length = b.bytes.length / layout.width)
    (k : Nat) :
    (b.setNulls d m).buffer.bytes[k]? =
      if m[k / layout.width]? = some true then layout.nullBytes[k % layout.width]?
      else b.bytes[k]? := by
  have hpos := ValueLayout.one_le_width (ValueLayout.wellFormed_of_valueLayout h)
  rw [setNulls_eq h hwhole hm]
  exact getElem?_overwrite hpos layout.length_nullBytes (Mask.length_mul_le hm) k

theorem setNulls_setNulls (h : d.valueLayout = .ok layout)
    (hwhole : b.bytes.length % layout.width = 0) (hm : m.length = b.bytes.length / layout.width)
    (hn : n.length = b.bytes.length / layout.width) :
    (b.setNulls d m).buffer.setNulls d n = b.setNulls d (m.union n) := by
  have hpos := ValueLayout.one_le_width (ValueLayout.wellFormed_of_valueLayout h)
  have hlen : m.length = n.length := hm.trans hn.symm
  have hkept := length_bytes_setNulls h hwhole hm
  have hunion : (m.union n).length = b.bytes.length / layout.width := by
    rw [Mask.length_union hlen, hm]
  rw [setNulls_eq h (by rw [hkept, hwhole]) (by rw [hkept, hn]), setNulls_eq h hwhole hm,
    setNulls_eq h hwhole hunion]
  dsimp only
  rw [overwrite_overwrite hpos layout.length_nullBytes hlen (Mask.length_mul_le hm)]

/-- A row is set in the mask of a scan exactly if it is the row that is written for NULL. -/
theorem getElem?_nullMask_iff (hlayout : layout.WellFormed) (i : Nat) :
    (b.nullMask layout)[i]? = some true ↔ (b.rows layout.width)[i]? = some layout.nullBytes := by
  rw [nullMask, List.getElem?_map, Option.map_eq_some_iff]
  constructor
  · rintro ⟨row, hrow, hnull⟩
    have hlength : row.length = layout.width := length_of_mem_rows (List.mem_of_getElem? hrow)
    rw [hrow, (ValueLayout.isNull_iff hlayout hlength).1 hnull]
  · intro hrow
    exact ⟨_, hrow, (ValueLayout.isNull_iff hlayout layout.length_nullBytes).2 rfl⟩

theorem bytes_setNulls_eq_iff (h : d.valueLayout = .ok layout)
    (hwhole : b.bytes.length % layout.width = 0)
    (hm : m.length = b.bytes.length / layout.width) :
    (b.setNulls d m).buffer.bytes = b.bytes ↔
      ∀ i : Nat, m[i]? = some true → (b.nullMask layout)[i]? = some true := by
  have hlayout := ValueLayout.wellFormed_of_valueLayout h
  rw [setNulls_eq h hwhole hm]
  dsimp only
  rw [overwrite_eq_iff layout.length_nullBytes (Mask.length_mul_le hm), hm]
  exact forall_congr' fun i => imp_congr_right fun _ => (getElem?_nullMask_iff hlayout i).symm

/-- Writing back the NULLs that a scan has found. -/
theorem setNulls_nullMask (h : d.valueLayout = .ok layout)
    (hwhole : b.bytes.length % layout.width = 0) :
    b.setNulls d (b.nullMask layout) = ⟨pure (), b⟩ := by
  have hnulls : (b.nullMask layout).length = b.bytes.length / layout.width := by
    rw [length_nullMask, length_rows]
  have hkept := (bytes_setNulls_eq_iff h hwhole hnulls).2 fun _ hi => hi
  rw [setNulls_eq h hwhole hnulls] at hkept ⊢
  dsimp only at hkept
  rw [hkept]

/-- A mask only ever touches the rows that it sets, each of which becomes NULL. One mask after the
other is their union at once, in either order, and a mask applied again does nothing. -/
theorem setNulls_acts_by_union (h : d.valueLayout = .ok layout)
    (hwhole : b.bytes.length % layout.width = 0) (hm : m.length = b.bytes.length / layout.width)
    (hn : n.length = b.bytes.length / layout.width) :
    (b.setNulls d m).outcome = pure () ∧
      (b.setNulls d m).buffer.bytes.length = b.bytes.length ∧
      (∀ k : Nat, m[k / layout.width]? ≠ some true →
        (b.setNulls d m).buffer.bytes[k]? = b.bytes[k]?) ∧
      (∀ k : Nat, m[k / layout.width]? = some true →
        (b.setNulls d m).buffer.bytes[k]? = layout.nullBytes[k % layout.width]?) ∧
      (b.setNulls d m).buffer.setNulls d n = b.setNulls d (m.union n) ∧
      (b.setNulls d n).buffer.setNulls d m = b.setNulls d (m.union n) ∧
      (b.setNulls d m).buffer.setNulls d m = b.setNulls d m := by
  refine ⟨?_, length_bytes_setNulls h hwhole hm, ?_, ?_, setNulls_setNulls h hwhole hm hn, ?_, ?_⟩
  · rw [setNulls_eq h hwhole hm]
  · intro k hk
    rw [getElem?_bytes_setNulls h hwhole hm, if_neg hk]
  · intro k hk
    rw [getElem?_bytes_setNulls h hwhole hm, if_pos hk]
  · rw [setNulls_setNulls h hwhole hn hm, Mask.union_comm]
  · rw [setNulls_setNulls h hwhole hm hm, Mask.union_self]

/-- Three values of three bytes, and two masks that have the second of them in common. -/
theorem setNulls_acts_by_union_narrowed :
    (ColumnType.fixed .bigInt 24).toDescriptor.valueLayout = .ok (.integer ⟨3, true, -8388608⟩) ∧
      ([1, 0, 0, 2, 0, 0, 3, 0, 0] : List UInt8).length % 3 = 0 ∧
      ([true, true, false] : Mask).length = 3 ∧ ([false, true, true] : Mask).length = 3 ∧
      ∀ b : Buffer, b.bytes = [1, 0, 0, 2, 0, 0, 3, 0, 0] →
        (b.setNulls (ColumnType.fixed .bigInt 24).toDescriptor [true, true, false]).buffer.setNulls
            (ColumnType.fixed .bigInt 24).toDescriptor [false, true, true] =
          b.setNulls (ColumnType.fixed .bigInt 24).toDescriptor [true, true, true] := by
  have h : (ColumnType.fixed .bigInt 24).toDescriptor.valueLayout =
      .ok (.integer ⟨3, true, -8388608⟩) := rfl
  refine ⟨h, rfl, rfl, rfl, ?_⟩
  intro b hb
  have hwhole : b.bytes.length % (ValueLayout.integer ⟨3, true, -8388608⟩).width = 0 := by
    rw [hb]
    rfl
  have hrows : b.bytes.length / (ValueLayout.integer ⟨3, true, -8388608⟩).width = 3 := by
    rw [hb]
    rfl
  exact (setNulls_acts_by_union h hwhole (m := [true, true, false]) (n := [false, true, true])
    hrows.symm hrows.symm).2.2.2.2.1

/-- Every row that is set must be NULL already for a mask to change nothing. The mask of a scan is
the largest such mask. -/
theorem setNulls_eq_self_iff (h : d.valueLayout = .ok layout)
    (hwhole : b.bytes.length % layout.width = 0)
    (hm : m.length = b.bytes.length / layout.width) :
    ∃ nulls : Mask, (b.scan d).result = .ok nulls ∧
      (b.setNulls d m).outcome = pure () ∧
      ((b.setNulls d m).buffer.bytes = b.bytes ↔
        ∀ i : Nat, m[i]? = some true → nulls[i]? = some true) ∧
      b.setNulls d nulls = ⟨pure (), b⟩ := by
  refine ⟨b.nullMask layout, ?_, ?_, bytes_setNulls_eq_iff h hwhole hm,
    setNulls_nullMask h hwhole⟩
  · rw [scan_eq h hwhole]
  · rw [setNulls_eq h hwhole hm]

/-- A NULL and a one, in three bytes each: a mask that sets both changes the one. -/
theorem setNulls_eq_self_iff_narrowed :
    (ColumnType.fixed .bigInt 24).toDescriptor.valueLayout = .ok (.integer ⟨3, true, -8388608⟩) ∧
      ([0x00, 0x00, 0x80, 0x01, 0x00, 0x00] : List UInt8).length % 3 = 0 ∧
      ([true, true] : Mask).length = 2 ∧
      (({ bytes := [0x00, 0x00, 0x80, 0x01, 0x00, 0x00] } : Buffer).setNulls
        (ColumnType.fixed .bigInt 24).toDescriptor [true, true]).buffer.bytes ≠
          [0x00, 0x00, 0x80, 0x01, 0x00, 0x00] ∧
      ({ bytes := [0x00, 0x00, 0x80, 0x01, 0x00, 0x00] } : Buffer).setNulls
        (ColumnType.fixed .bigInt 24).toDescriptor [true, false] =
          ⟨pure (), { bytes := [0x00, 0x00, 0x80, 0x01, 0x00, 0x00] }⟩ := by
  have h : (ColumnType.fixed .bigInt 24).toDescriptor.valueLayout =
      .ok (.integer ⟨3, true, -8388608⟩) := rfl
  obtain ⟨nulls, hscan, -, hiff, hkept⟩ := setNulls_eq_self_iff
    (b := { bytes := [0x00, 0x00, 0x80, 0x01, 0x00, 0x00] }) (m := [true, true]) h rfl rfl
  have hnulls : nulls = [true, false] := (Except.ok.inj hscan).symm
  rw [hnulls] at hiff hkept
  refine ⟨h, rfl, rfl, ?_, hkept⟩
  intro hsame
  have hsecond : [true, false][1]? = some true := hiff.1 hsame 1 rfl
  exact absurd hsecond (by decide)

end Buffer

end InbandNull
