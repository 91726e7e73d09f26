import InbandNull.Proofs.ColumnType.Validation
import InbandNull.Proofs.Layout.WellFormed

/-!
# The size of a column and the width of its rows

A column states the size of a stored value, but only the layout of a dictionary id is taken from
that field. `storedSize?` is the size that each encoding goes by. The main statement is that on a
validated column this is the width of a row; the stated size is the same for dictionary ids and for
all columns that the constructors build, and anything else where it was set by hand, since neither
validation nor resolution reads it there.
-/

namespace InbandNull

theorem SqlType.toInt_naturalSize_of_logicalWidth? {t : SqlType} {w : IntWidth}
    (h : t.logicalWidth? = some w) : t.naturalSize.toInt = (IntLayout.ofWidth w).width := by
  cases t <;> cases h <;> rfl

theorem SqlType.toInt_naturalSize_of_floatKind? {t : SqlType} {k : FloatKind}
    (h : t.floatKind? = some k) : t.naturalSize.toInt = k.width := by
  cases t <;> cases h <;> rfl

theorem IntWidth.toInt_of_ofDayBits? {bits : Int32} {w : IntWidth} (h : ofDayBits? bits = some w) :
    (if bits = 16 then 2 else 4 : Int32).toInt = (IntLayout.ofWidth w).width := by
  unfold ofDayBits? at h
  split_ifs at h with hwide hnarrow <;> cases h
  · rw [if_neg (by rcases hwide with rfl | rfl <;> decide)]
    rfl
  · rw [if_pos hnarrow]
    rfl

theorem IntWidth.toInt_of_ofIdSize? {size : Int32} {w : IntWidth} (h : ofIdSize? size = some w) :
    size.toInt = (IntLayout.ofWidth w).width := by
  unfold ofIdSize? at h
  split_ifs at h with hone htwo hfour <;> cases h
  · rw [hone]
    rfl
  · rw [htwo]
    rfl
  · rw [hfour]
    rfl

theorem toInt_div_eight_of_narrowedNull {bits : Int32} {null : Int64}
    (h : narrowedNull bits = .ok null) : (bits / 8).toInt = (bits / 8).toNatClampNeg := by
  obtain ⟨k, -, hwidth, -⟩ := exists_bytes_of_narrowedNull h
  have hpos : (bits / 8).toInt.toNat = k + 1 := hwidth
  rw [hwidth]
  omega

namespace ColumnType

variable {c : ColumnType}

/-- The bytes of one stored value, by the field that the encoding goes by. -/
def storedSize? (c : ColumnType) : Option Int32 :=
  match c.encoding with
  | .plain => some c.sqlType.naturalSize
  | .dict => some c.size
  | .dateInDays => some (if c.param = 16 then 2 else 4)
  | .fixed => some (c.param / 8)
  | .runLength | .diff | .sparse | .geoInt => none

theorem storedSize?_of_stores {layout : IntLayout} (h : c.toDescriptor.Stores layout) :
    ∃ n, c.storedSize? = some n ∧ n.toInt = layout.width := by
  unfold storedSize?
  cases h with
  | plain hencoding _ hwidth =>
      rw [show c.encoding = .plain from hencoding]
      exact ⟨_, rfl, SqlType.toInt_naturalSize_of_logicalWidth? hwidth⟩
  | dayCount hencoding hwidth =>
      rw [show c.encoding = .dateInDays from hencoding]
      exact ⟨_, rfl, IntWidth.toInt_of_ofDayBits? hwidth⟩
  | dictId hencoding _ hwidth =>
      rw [show c.encoding = .dict from hencoding]
      exact ⟨_, rfl, IntWidth.toInt_of_ofIdSize? hwidth⟩
  | narrowed hencoding _ hnull =>
      rw [show c.encoding = .fixed from hencoding]
      exact ⟨_, rfl, toInt_div_eight_of_narrowedNull hnull⟩

/-- Rows of an admissible column have its stored size. Compressed floating-point numbers, which
resolve without being admissible, need not. -/
theorem storedSize?_of_admissible (h : c.Admissible) {layout : ValueLayout}
    (hlayout : c.toDescriptor.valueLayout = .ok layout) :
    ∃ n, c.storedSize? = some n ∧ n.toInt = layout.width := by
  cases layout with
  | integer layout =>
      exact storedSize?_of_stores (Descriptor.storedLayout_eq_ok_iff.1
        (Descriptor.valueLayout_eq_integer_iff.1 hlayout).2)
  | float kind =>
      have hkind := (Descriptor.valueLayout_eq_float_iff.1 hlayout).2
      obtain ⟨hfloat, htype⟩ := Descriptor.floatKind_eq_ok_iff.1 hkind
      unfold storedSize?
      rw [h.encoding_of_isFloat hfloat]
      exact ⟨_, rfl, SqlType.toInt_naturalSize_of_floatKind? htype⟩

theorem Admissible.withSize (h : c.Admissible) (hdict : c.encoding ≠ .dict) (size : Int32) :
    (c.withSize size).Admissible := by
  cases h with
  | plain hencoding hstring hsize => exact .plain hencoding hstring hsize
  | dict hencoding _ _ _ => exact absurd hencoding hdict
  | dateInDays hencoding htype hbits => exact .dateInDays hencoding htype hbits
  | fixed hencoding hfamily hbits => exact .fixed hencoding hfamily hbits

theorem valueLayout_withSize (hdict : c.encoding ≠ .dict) (size : Int32) :
    (c.withSize size).toDescriptor.valueLayout = c.toDescriptor.valueLayout := by
  have hstored : (c.withSize size).toDescriptor.storedLayout = c.toDescriptor.storedLayout := by
    obtain ⟨t, e, param, size', logicalSize⟩ := c
    cases e with
    | dict => exact absurd rfl hdict
    | _ => rfl
  unfold Descriptor.valueLayout
  rw [hstored]
  rfl

/-- The columns that the constructors build, whatever size they are then said to decode to. -/
inductive Built : ColumnType → Prop where
  | plain (t : SqlType) : Built (plain t)
  | dictText (size : Int32) : Built (dictText size)
  | fixed (t : SqlType) (bits : Int32) : Built (fixed t bits)
  | dateInDays (bits : Int32) : Built (dateInDays bits)
  | withLogicalSize {c : ColumnType} (h : Built c) (n : Int32) : Built (c.withLogicalSize n)

theorem storedSize?_of_built (h : c.Built) : c.storedSize? = some c.size := by
  induction h with
  | plain t => rfl
  | dictText size => rfl
  | fixed t bits => rfl
  | dateInDays bits => rfl
  | withLogicalSize _ n ih => exact ih

theorem storedSize?_of_dict (h : c.encoding = .dict) : c.storedSize? = some c.size := by
  rw [storedSize?, h]

theorem toInt_size_eq_width (h : c.Admissible) (hstored : c.storedSize? = some c.size)
    {layout : ValueLayout} (hlayout : c.toDescriptor.valueLayout = .ok layout) :
    c.size.toInt = layout.width := by
  obtain ⟨n, hn, hwidth⟩ := storedSize?_of_admissible h hlayout
  rw [Option.some.inj (hstored.symm.trans hn), hwidth]

/-- A validated column has rows of the size that its encoding goes by. That is the stated size of
dictionary ids and of a column as it was built; elsewhere any size may be stated and makes no
difference. -/
theorem row_width_of_validate (h : c.validate = .ok ()) :
    ∃ layout n, c.toDescriptor.valueLayout = .ok layout ∧ c.storedSize? = some n ∧
      n.toInt = layout.width ∧ (c.size.toInt = layout.width ↔ c.size = n) ∧
      (c.encoding = .dict ∨ c.Built → c.size.toInt = layout.width) ∧
      (c.encoding ≠ .dict → ∀ size, (c.withSize size).validate = .ok () ∧
        (c.withSize size).toDescriptor.valueLayout = .ok layout) := by
  have hadmissible := validate_eq_ok_iff.1 h
  obtain ⟨layout, hlayout⟩ := exists_valueLayout_of_admissible hadmissible
  obtain ⟨n, hn, hwidth⟩ := storedSize?_of_admissible hadmissible hlayout
  have hsize : c.size.toInt = layout.width ↔ c.size = n := by
    rw [← hwidth, Int32.toInt_inj]
  refine ⟨layout, n, hlayout, hn, hwidth, hsize, ?_, ?_⟩
  · intro hstated
    exact toInt_size_eq_width hadmissible (hstated.elim storedSize?_of_dict storedSize?_of_built)
      hlayout
  · intro hdict size
    exact ⟨validate_eq_ok_iff.2 (hadmissible.withSize hdict size),
      (valueLayout_withSize hdict size).trans hlayout⟩

theorem row_width_of_validate_narrowed :
    ((fixed .bigInt 24).withSize 8).validate = .ok () ∧
      ∃ layout n, ((fixed .bigInt 24).withSize 8).toDescriptor.valueLayout = .ok layout ∧
        ((fixed .bigInt 24).withSize 8).storedSize? = some n ∧ n.toInt = layout.width ∧
        ((8 : Int32).toInt = layout.width ↔ 8 = n) ∧
        ∀ size, (((fixed .bigInt 24).withSize 8).withSize size).validate = .ok () ∧
          (((fixed .bigInt 24).withSize 8).withSize size).toDescriptor.valueLayout = .ok layout := by
  have h : ((fixed .bigInt 24).withSize 8).validate = .ok () := rfl
  obtain ⟨layout, n, hlayout, hn, hwidth, hsize, -, hany⟩ := row_width_of_validate h
  exact ⟨h, layout, n, hlayout, hn, hwidth, hsize, hany (by decide)⟩

/-- The stated size of a validated column need not be the width of its rows. -/
theorem row_width_ne_size :
    ((plain .int).withSize 3).validate = .ok () ∧
      ∃ layout, ((plain .int).withSize 3).toDescriptor.valueLayout = .ok layout ∧
        layout.width = 4 ∧ ((plain .int).withSize 3).size.toInt ≠ layout.width :=
  ⟨rfl, .integer ⟨4, true, -2147483648⟩, rfl, rfl, by decide⟩

end ColumnType

end InbandNull
