import InbandNull.Arrow.Column

/-!
# The table of Arrow types

`ColumnType.HoldsArrow` lists the Arrow types that a column is made of: three rows for types with a
column of their own, and one for all that are stored uncompressed, which asks for equal widths only
where Arrow states a width. `ColumnType.RefusesArrow` lists those that none is made of, each with
the reason. The main statement is that every type, however nested, is in one of the two lists and
not in both, and that converting it gives the column of the one or the reason of the other.
-/

namespace InbandNull

open Arrow (DataType Unmapped)

namespace SqlType

variable {type : DataType} {t : SqlType}

theorem ofArrow_eq_ok_iff : ofArrow type = .ok t ↔ ofArrow? type = some t := by
  unfold ofArrow
  cases ofArrow? type with
  | none => simp
  | some t' => simp

theorem ofArrow_eq_error_iff {e : Error} :
    ofArrow type = .error e ↔
      ofArrow? type = none ∧ e = .unsupportedType (Unmapped.noSqlType type).reason := by
  unfold ofArrow
  cases ofArrow? type with
  | none => simp [eq_comm]
  | some t => simp

theorem exists_ofArrow_error_iff : (∃ e, ofArrow type = .error e) ↔ ofArrow? type = none := by
  simp [ofArrow_eq_error_iff]

/-- Of dictionaries only those of strings have a logical type. -/
theorem eq_utf8_of_ofArrow? {key value : DataType} (h : ofArrow? (.dictionary key value) = some t) :
    value = .utf8 := by
  unfold ofArrow? at h
  split at h <;> simp_all

/-- The widths that differ are those of days, of short times and of decimals. -/
theorem ofArrow?_of_width_ne (htype : ofArrow? type = some t) {width : Nat}
    (hwidth : type.primitiveWidth? = some width) (hsize : Int32.ofNat width ≠ t.naturalSize) :
    type = .date32 ∨ (∃ unit, type = .time32 unit) ∨
      ∃ precision scale, type = .decimal128 precision scale ∧ width = 16 ∧ t = .decimal := by
  unfold ofArrow? at htype
  split at htype <;> cases htype <;> cases hwidth <;> simp_all [naturalSize]

end SqlType

namespace ColumnType

variable {type : DataType} {c : ColumnType} {why : Unmapped}

/-- The column that holds arrays of a type as they lie. -/
inductive HoldsArrow : DataType → ColumnType → Prop where
  | date32 : HoldsArrow .date32 (dateInDays 32)
  | time32 (unit : Arrow.TimeUnit) : HoldsArrow (.time32 unit) (fixed .time 32)
  | dictionary {key : DataType} {size : Int32} (hsize : dictKeySize? key = some size) :
      HoldsArrow (.dictionary key .utf8) (dictText size)
  | plain {type : DataType} {t : SqlType} (htype : SqlType.ofArrow? type = some t)
      (hboolean : type ≠ .boolean) (hdictionary : ∀ key value, type ≠ .dictionary key value)
      (hwidth : ∀ width, type.primitiveWidth? = some width → Int32.ofNat width = t.naturalSize) :
      HoldsArrow type (plain t)

/-- The types of which no column is made, and why. -/
inductive RefusesArrow : DataType → Unmapped → Prop where
  | boolean : RefusesArrow .boolean .bitPacked
  | dictionary {key : DataType} (hsize : dictKeySize? key = none) :
      RefusesArrow (.dictionary key .utf8) (.dictionaryKey key)
  /-- A decimal of 16 bytes is one of eight to its column. -/
  | decimal128 (precision : UInt8) (scale : Int8) :
      RefusesArrow (.decimal128 precision scale)
        (.widthDiffers (.decimal128 precision scale) 16 (plain .decimal))
  | noSqlType {type : DataType} (htype : SqlType.ofArrow? type = none) :
      RefusesArrow type (.noSqlType type)

theorem ofArrow_eq_or (type : DataType) :
    (∃ c, HoldsArrow type c ∧ ofArrow type = .ok c) ∨
      ∃ why, RefusesArrow type why ∧ ofArrow type = .error (.unsupportedType why.reason) := by
  -- One goal for each row of the match; the last is of all types without a row of their own.
  unfold ofArrow
  split
  · exact Or.inl ⟨_, .date32, rfl⟩
  · next unit => exact Or.inl ⟨_, .time32 unit, rfl⟩
  · exact Or.inr ⟨_, .boolean, rfl⟩
  · next key =>
      cases hsize : dictKeySize? key with
      | none => exact Or.inr ⟨_, .dictionary hsize, rfl⟩
      | some size => exact Or.inl ⟨_, .dictionary hsize, rfl⟩
  · next hdate htime hboolean hutf8 =>
      cases htype : SqlType.ofArrow? type with
      | none => exact Or.inr ⟨_, .noSqlType htype, by rw [SqlType.ofArrow, htype]; rfl⟩
      | some t =>
          -- The only dictionaries with a logical type are those of the row before.
          have hdictionary : ∀ key value, type ≠ .dictionary key value := by
            rintro key value rfl
            exact hutf8 key (by rw [SqlType.eq_utf8_of_ofArrow? htype])
          rw [SqlType.ofArrow_eq_ok_iff.2 htype]
          simp only [bind, Except.bind]
          cases hwidth : type.primitiveWidth? with
          | none => exact Or.inl ⟨_, .plain htype hboolean hdictionary (by simp [hwidth]), rfl⟩
          | some width =>
              by_cases hsize : Int32.ofNat width = t.naturalSize
              · refine Or.inl ⟨_, .plain htype hboolean hdictionary ?_, if_neg fun hne => hne hsize⟩
                intro width' h'
                cases hwidth.symm.trans h'
                exact hsize
              · obtain rfl | ⟨unit, rfl⟩ | ⟨precision, scale, rfl, rfl, rfl⟩ :=
                  SqlType.ofArrow?_of_width_ne htype hwidth hsize
                · exact absurd rfl hdate
                · exact absurd rfl (htime unit)
                · exact Or.inr ⟨_, .decimal128 precision scale, rfl⟩

theorem holdsArrow_of_ofArrow (h : ofArrow type = .ok c) : HoldsArrow type c := by
  rcases ofArrow_eq_or type with ⟨c', hholds, hok⟩ | ⟨why, -, herror⟩
  · cases hok.symm.trans h
    exact hholds
  · cases herror.symm.trans h

theorem HoldsArrow.ofArrow?_eq (h : HoldsArrow type c) :
    SqlType.ofArrow? type = some c.sqlType := by
  cases h with
  | date32 => rfl
  | time32 unit => rfl
  | dictionary hsize => rfl
  | plain htype _ _ _ => exact htype

theorem HoldsArrow.not_refusesArrow (h : HoldsArrow type c) : ¬ RefusesArrow type why := by
  intro hrefuses
  have hsqlType := h.ofArrow?_eq
  cases hrefuses with
  | boolean =>
      cases h with
      | plain _ hboolean _ _ => exact hboolean rfl
  | dictionary hnone =>
      cases h with
      | dictionary hsome => cases hnone.symm.trans hsome
      | plain _ _ hdictionary _ => exact hdictionary _ _ rfl
  | decimal128 precision scale =>
      cases h with
      | plain htype _ _ hwidth =>
          cases htype
          exact absurd (hwidth 16 rfl) (by decide)
  | noSqlType hnone => cases hnone.symm.trans hsqlType

theorem exists_ofArrow_error_iff :
    (∃ e, ofArrow type = .error e) ↔ ∃ why, RefusesArrow type why := by
  rcases ofArrow_eq_or type with ⟨c, hholds, hok⟩ | ⟨why, hrefuses, herror⟩
  · apply iff_of_false
    · rintro ⟨e, herror⟩
      cases hok.symm.trans herror
    · rintro ⟨why, hrefuses⟩
      exact hholds.not_refusesArrow hrefuses
  · exact iff_of_true ⟨_, herror⟩ ⟨why, hrefuses⟩

theorem unsupportedType_of_ofArrow_error {e : Error} (h : ofArrow type = .error e) :
    ∃ why, RefusesArrow type why ∧ e = .unsupportedType why.reason := by
  rcases ofArrow_eq_or type with ⟨c, -, hok⟩ | ⟨why, hrefuses, herror⟩
  · cases hok.symm.trans h
  · cases herror.symm.trans h
    exact ⟨why, hrefuses, rfl⟩

end ColumnType

end InbandNull
