import InbandNull.Proofs.Arrow.Column

/-!
# The two conversions of an Arrow type

An Arrow type is converted to a logical type, or to the column in which its arrays are stored. The
main statement is that the second agrees with the first: the column has that logical type and the
width of the Arrow type, and it is missing only if the logical type is, or if the values have no
layout of their own. Then the type is unsupported, and nothing else is ever reported.
-/

namespace InbandNull

open Arrow (DataType)

/-- A dictionary states no width itself, so a stated width is that of the values. -/
theorem Arrow.DataType.valueWidth?_of_primitiveWidth? {type : DataType} {width : Nat}
    (h : type.primitiveWidth? = some width) : type.valueWidth? = some width := by
  rw [valueWidth?_eq, h]
  rintro key value rfl
  cases h

namespace ColumnType

variable {type : DataType} {c : ColumnType}

theorem dictKeySize?_eq_none_iff {key : DataType} :
    dictKeySize? key = none ↔
      key ≠ .int8 ∧ key ≠ .uint8 ∧ key ≠ .int16 ∧ key ≠ .uint16 ∧ key ≠ .int32 := by
  unfold dictKeySize?
  split <;> simp_all

/-- Beyond the types without a logical type, three kinds are refused. -/
theorem exists_refusesArrow_iff :
    (∃ why, RefusesArrow type why) ↔
      SqlType.ofArrow? type = none ∨ type = .boolean ∨
      (∃ precision scale, type = .decimal128 precision scale) ∨
      ∃ key, type = .dictionary key .utf8 ∧ dictKeySize? key = none := by
  constructor
  · rintro ⟨why, h⟩
    cases h with
    | boolean => exact Or.inr (Or.inl rfl)
    | dictionary hsize => exact Or.inr (Or.inr (Or.inr ⟨_, rfl, hsize⟩))
    | decimal128 precision scale => exact Or.inr (Or.inr (Or.inl ⟨precision, scale, rfl⟩))
    | noSqlType htype => exact Or.inl htype
  · rintro (htype | rfl | ⟨precision, scale, rfl⟩ | ⟨key, rfl, hsize⟩)
    · exact ⟨_, .noSqlType htype⟩
    · exact ⟨_, .boolean⟩
    · exact ⟨_, .decimal128 precision scale⟩
    · exact ⟨_, .dictionary hsize⟩

/-- The column of an Arrow type has its logical type and its width. It is missing only where the
logical type is, and for packed booleans, wide decimals and dictionaries whose keys have no storage
width. -/
theorem ofArrow_agrees_sqlType (type : DataType) :
    (∀ c, ofArrow type = .ok c → SqlType.ofArrow type = .ok c.sqlType ∧
      ∀ width, type.primitiveWidth? = some width → c.size.toInt = width) ∧
    ((∃ e, ofArrow type = .error e) ↔
      (∃ e, SqlType.ofArrow type = .error e) ∨ type = .boolean ∨
      (∃ precision scale, type = .decimal128 precision scale) ∨
      ∃ key, type = .dictionary key .utf8 ∧
        key ≠ .int8 ∧ key ≠ .uint8 ∧ key ≠ .int16 ∧ key ≠ .uint16 ∧ key ≠ .int32) ∧
    ∀ e, ofArrow type = .error e ∨ SqlType.ofArrow type = .error e →
      ∃ reason, e = .unsupportedType reason := by
  refine ⟨?_, ?_, ?_⟩
  · intro c h
    have hholds := holdsArrow_of_ofArrow h
    refine ⟨SqlType.ofArrow_eq_ok_iff.2 hholds.ofArrow?_eq, ?_⟩
    intro width hwidth
    exact (hholds.of_valueWidth? (DataType.valueWidth?_of_primitiveWidth? hwidth)).2.2
  · rw [exists_ofArrow_error_iff, exists_refusesArrow_iff, SqlType.exists_ofArrow_error_iff]
    simp only [dictKeySize?_eq_none_iff]
  · rintro e (h | h)
    · obtain ⟨why, -, rfl⟩ := unsupportedType_of_ofArrow_error h
      exact ⟨_, rfl⟩
    · exact ⟨_, (SqlType.ofArrow_eq_error_iff.1 h).2⟩

/-- Times of 32 bits have a column, dictionaries with unsigned keys of 32 bits have none. -/
theorem ofArrow_agrees_sqlType_time32 :
    ofArrow (.time32 .second) = .ok (fixed .time 32) ∧
      SqlType.ofArrow (.time32 .second) = .ok .time ∧
      (DataType.time32 .second).primitiveWidth? = some 4 ∧ (fixed .time 32).size.toInt = 4 ∧
      ∃ e reason, ofArrow (.dictionary .uint32 .utf8) = .error e ∧ e = .unsupportedType reason := by
  have h : ofArrow (.time32 .second) = .ok (fixed .time 32) := rfl
  obtain ⟨hok, -, -⟩ := ofArrow_agrees_sqlType (.time32 .second)
  obtain ⟨hsqlType, hwidth⟩ := hok _ h
  obtain ⟨-, hmissing, hunsupported⟩ := ofArrow_agrees_sqlType (.dictionary .uint32 .utf8)
  obtain ⟨e, he⟩ := hmissing.2 (Or.inr (Or.inr (Or.inr ⟨.uint32, rfl, by simp⟩)))
  obtain ⟨reason, hreason⟩ := hunsupported e (Or.inl he)
  exact ⟨h, hsqlType, rfl, hwidth 4 rfl, e, reason, he, hreason⟩

end ColumnType

end InbandNull
