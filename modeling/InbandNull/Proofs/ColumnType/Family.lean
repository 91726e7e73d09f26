import InbandNull.Proofs.ColumnType.Validation

/-!
# Types that integers cannot stand for

Five types are neither carried as integers nor kept as dictionary ids. Resolving an integer
sentinel refuses them wherever it asks for the family of a type, which it does under every encoding
but one: a count of days resolves by its width alone, and has the sentinel of a date whatever the
type. The main statement is that this is the only way for such a type to get an integer sentinel,
and for a column to get two.
-/

namespace InbandNull

namespace SqlType

/-- The types with no value that an integer or a dictionary id could stand for. -/
def lacksInteger : SqlType → Bool
  | .null | .array | .point | .float | .double => true
  | _ => false

variable {t : SqlType}

theorem lacksInteger_iff :
    t.lacksInteger = true ↔ t.isString = false ∧ t.logicalWidth? = none := by
  cases t <;> simp [lacksInteger, isString, logicalWidth?]

theorem lacksInteger_of_isFloat (h : t.isFloat = true) : t.lacksInteger = true := by
  cases t <;> simp_all [isFloat, lacksInteger]

theorem lacksInteger_of_family (h : (t.isInteger || t.isTime || t.isDecimal) = true) :
    t.lacksInteger = false := by
  cases t <;> simp_all [isInteger, isTime, isDecimal, lacksInteger]

end SqlType

namespace Descriptor

variable {d : Descriptor}

theorem exists_encodedNull_iff :
    (∃ null, d.encodedNull = .ok null) ↔ ∃ layout, d.Stores layout := by
  constructor
  · rintro ⟨null, h⟩
    obtain ⟨layout, hlayout, -⟩ := map_eq_ok_iff.1 h
    exact ⟨layout, storedLayout_eq_ok_iff.1 hlayout⟩
  · rintro ⟨layout, h⟩
    exact ⟨layout.null, map_eq_ok_iff.2 ⟨layout, storedLayout_eq_ok_iff.2 h, rfl⟩⟩

/-- Testing a value violates what resolving the sentinel does. -/
theorem isNullEncoded_of_error {v : Violation} (h : d.encodedNull = .error v) (n : Int64) :
    d.isNullEncoded n = .error v := by
  rw [isNullEncoded, h]
  rfl

theorem exists_floatingNull_iff :
    (∃ bits, d.floatingNull = .ok bits) ↔ ∃ kind, d.floatKind = .ok kind := by
  constructor
  · rintro ⟨bits, h⟩
    obtain ⟨kind, hkind, -⟩ := map_eq_ok_iff.1 h
    exact ⟨kind, hkind⟩
  · rintro ⟨kind, h⟩
    exact ⟨kind.null, map_eq_ok_iff.2 ⟨kind, h, rfl⟩⟩

end Descriptor

namespace ColumnType

variable {c : ColumnType}

/-- The column is stored as counts of days, in a width that resolves. -/
def CountsDays (c : ColumnType) : Prop :=
  c.encoding = .dateInDays ∧ (c.param = 0 ∨ c.param = 16 ∨ c.param = 32)

theorem exists_floatingNull_iff :
    (∃ bits, c.toDescriptor.floatingNull = .ok bits) ↔ c.sqlType.isFloat = true := by
  rw [Descriptor.exists_floatingNull_iff]
  constructor
  · rintro ⟨kind, h⟩
    exact (Descriptor.floatKind_eq_ok_iff.1 h).1
  · intro hfloat
    obtain ⟨kind, hkind⟩ := SqlType.exists_floatKind?_iff.2 hfloat
    exact ⟨kind, Descriptor.floatKind_eq_ok_iff.2 ⟨hfloat, hkind⟩⟩

/-- Every other way of storing integers asks for a type that has some. -/
theorem countsDays_of_stores (htype : c.sqlType.lacksInteger = true) {layout : IntLayout}
    (h : c.toDescriptor.Stores layout) : c.CountsDays := by
  obtain ⟨hstring, hwidth⟩ := SqlType.lacksInteger_iff.1 htype
  cases h with
  | plain _ _ h => exact absurd (hwidth.symm.trans h) (by simp)
  | dayCount hencoding h => exact ⟨hencoding, IntWidth.exists_ofDayBits?_iff.1 ⟨_, h⟩⟩
  | dictId _ h _ => exact absurd (hstring.symm.trans h) (by simp)
  | narrowed _ hfamily _ =>
      exact absurd (htype.symm.trans (SqlType.lacksInteger_of_family hfamily)) (by simp)

theorem exists_encodedNull_iff_countsDays (htype : c.sqlType.lacksInteger = true) :
    (∃ null, c.toDescriptor.encodedNull = .ok null) ↔ c.CountsDays := by
  rw [Descriptor.exists_encodedNull_iff]
  constructor
  · rintro ⟨layout, h⟩
    exact countsDays_of_stores htype h
  · rintro ⟨hencoding, hbits⟩
    exact Descriptor.exists_stores_of_dayCount hencoding hbits

theorem encodedNull_of_dateInDays (h : c.encoding = .dateInDays) :
    c.toDescriptor.encodedNull = (dateInDays c.param).toDescriptor.encodedNull := by
  have hdate : (dateInDays c.param).toDescriptor.encoding = .dateInDays := rfl
  unfold Descriptor.encodedNull
  rw [Descriptor.storedLayout_of_dateInDays h, Descriptor.storedLayout_of_dateInDays hdate]
  rfl

theorem violates_iff_not_countsDays (htype : c.sqlType.lacksInteger = true) :
    (∃ v, c.toDescriptor.encodedNull = .error v ∧ ∀ n, c.toDescriptor.isNullEncoded n = .error v) ↔
      ¬ c.CountsDays := by
  rw [← exists_encodedNull_iff_countsDays htype, ← exists_error_iff]
  constructor
  · rintro ⟨v, h, -⟩
    exact ⟨v, h⟩
  · rintro ⟨v, h⟩
    exact ⟨v, h, Descriptor.isNullEncoded_of_error h⟩

theorem has_both_sentinels_iff :
    (∃ null, c.toDescriptor.encodedNull = .ok null) ∧
        (∃ bits, c.toDescriptor.floatingNull = .ok bits) ↔
      c.sqlType.isFloat = true ∧ c.CountsDays := by
  rw [exists_floatingNull_iff, and_comm]
  apply and_congr_right
  intro hfloat
  exact exists_encodedNull_iff_countsDays (SqlType.lacksInteger_of_isFloat hfloat)

/-- A type without integers has no integer sentinel, unless the column is said to count days: then
it has that of a date. So only a floating-point column that counts days has two sentinels. -/
theorem encodedNull_of_lacksInteger (c : ColumnType) :
    (c.sqlType.lacksInteger = true →
      ((∃ v, c.toDescriptor.encodedNull = .error v ∧
          ∀ n, c.toDescriptor.isNullEncoded n = .error v) ↔ ¬ c.CountsDays) ∧
        (c.CountsDays →
          c.toDescriptor.encodedNull = (dateInDays c.param).toDescriptor.encodedNull)) ∧
      ((∃ null, c.toDescriptor.encodedNull = .ok null) ∧
          (∃ bits, c.toDescriptor.floatingNull = .ok bits) ↔
        c.sqlType.isFloat = true ∧ c.CountsDays) := by
  refine ⟨?_, has_both_sentinels_iff⟩
  intro htype
  refine ⟨violates_iff_not_countsDays htype, ?_⟩
  intro hdays
  exact encodedNull_of_dateInDays hdays.1

/-- A column of `NULL` type that counts days has a sentinel, and one of floating-point numbers has
two. -/
theorem exists_encodedNull_of_lacksInteger :
    SqlType.null.lacksInteger = true ∧
      (⟨.null, .dateInDays, 0, 4, 8⟩ : ColumnType).toDescriptor.encodedNull = .ok (-2147483648) ∧
      (⟨.float, .dateInDays, 16, 2, 4⟩ : ColumnType).toDescriptor.encodedNull = .ok (-32768) ∧
      (⟨.float, .dateInDays, 16, 2, 4⟩ : ColumnType).toDescriptor.floatingNull =
        .ok 0x3810000000000000 :=
  ⟨rfl, rfl, rfl, rfl⟩

end ColumnType

end InbandNull
