import InbandNull.Proofs.Arrow.Table
import InbandNull.Proofs.ColumnType.Size

/-!
# Columns from Arrow types

Whether the column that an Arrow type is converted to can be used. The main statement is that a type
with a stated width gives a column that validates, resolves and has rows of that width, and that the
types without one that are mapped all the same, `Null` and the plain strings, give columns that
validation and resolution both refuse.
-/

namespace InbandNull

open Arrow (DataType)

namespace Arrow.DataType

/-- The bytes of one value as it lies in an array; a dictionary lies there as its keys. -/
def valueWidth? : DataType → Option Nat
  | .dictionary key _ => key.primitiveWidth?
  | type => type.primitiveWidth?

theorem valueWidth?_eq {type : DataType} (h : ∀ key value, type ≠ .dictionary key value) :
    type.valueWidth? = type.primitiveWidth? := by
  unfold valueWidth?
  split
  · next key value => exact absurd rfl (h key value)
  · rfl

end Arrow.DataType

namespace SqlType

variable {type : DataType} {t : SqlType}

/-- Where the width of a type is that of its column, the column holds numbers. -/
theorem ofArrow?_of_width (htype : ofArrow? type = some t) {width : Nat}
    (hwidth : type.primitiveWidth? = some width) (hsize : Int32.ofNat width = t.naturalSize) :
    t.isString = false ∧ 0 < t.naturalSize ∧ t.naturalSize.toInt = width := by
  unfold ofArrow? at htype
  split at htype <;> cases htype <;> cases hwidth <;> revert hsize <;> decide

theorem ofArrow?_of_no_width (htype : ofArrow? type = some t) (hboolean : type ≠ .boolean)
    (hdictionary : ∀ key value, type ≠ .dictionary key value)
    (hwidth : type.primitiveWidth? = none) :
    type = .null ∨ type = .utf8 ∨ type = .largeUtf8 := by
  unfold ofArrow? at htype
  split at htype <;> cases htype <;> cases hwidth <;> simp_all

end SqlType

namespace ColumnType

variable {type : DataType} {c : ColumnType}

theorem width_of_dictKeySize? {key : DataType} {size : Int32} (h : dictKeySize? key = some size) :
    (size = 1 ∨ size = 2 ∨ size = 4) ∧
      ∃ width, key.primitiveWidth? = some width ∧ size.toInt = width := by
  unfold dictKeySize? at h
  split at h <;> cases h <;> exact ⟨by decide, _, rfl, rfl⟩

theorem HoldsArrow.of_valueWidth? (h : HoldsArrow type c) {width : Nat}
    (hwidth : type.valueWidth? = some width) :
    c.Admissible ∧ c.Built ∧ c.size.toInt = width := by
  cases h with
  | date32 =>
      cases hwidth
      exact ⟨.dateInDays rfl rfl (by decide), .dateInDays 32, rfl⟩
  | time32 unit =>
      cases hwidth
      exact ⟨.fixed rfl rfl (by decide), .fixed .time 32, rfl⟩
  | dictionary hsize =>
      obtain ⟨hid, width', hkey, hvalue⟩ := width_of_dictKeySize? hsize
      cases hkey.symm.trans hwidth
      exact ⟨.dict rfl rfl rfl hid, .dictText _, hvalue⟩
  | plain htype _ hdictionary hsize =>
      rw [DataType.valueWidth?_eq hdictionary] at hwidth
      obtain ⟨hstring, hpos, hvalue⟩ := SqlType.ofArrow?_of_width htype hwidth (hsize width hwidth)
      exact ⟨.plain rfl hstring hpos, .plain _, hvalue⟩

theorem HoldsArrow.of_no_valueWidth? (h : HoldsArrow type c) (hwidth : type.valueWidth? = none) :
    (type = .null ∨ type = .utf8 ∨ type = .largeUtf8) ∧ (c = .plain .null ∨ c = .plain .text) := by
  cases h with
  | date32 => cases hwidth
  | time32 unit => cases hwidth
  | dictionary hsize =>
      obtain ⟨-, width, hkey, -⟩ := width_of_dictKeySize? hsize
      cases hkey.symm.trans hwidth
  | plain htype hboolean hdictionary _ =>
      rw [DataType.valueWidth?_eq hdictionary] at hwidth
      have hcases := SqlType.ofArrow?_of_no_width htype hboolean hdictionary hwidth
      refine ⟨hcases, ?_⟩
      rcases hcases with rfl | rfl | rfl
      · cases htype
        exact Or.inl rfl
      · cases htype
        exact Or.inr rfl
      · cases htype
        exact Or.inr rfl

/-- A column from an Arrow type with a width is usable, and its rows have that width. The types
without one give columns that nothing can be read with. -/
theorem ofArrow_usable_iff_has_width (h : ofArrow type = .ok c) :
    (∀ width, type.valueWidth? = some width → c.validate = .ok () ∧
      ∃ layout, c.toDescriptor.valueLayout = .ok layout ∧ layout.width = width) ∧
    (type.valueWidth? = none → (type = .null ∨ type = .utf8 ∨ type = .largeUtf8) ∧
      (∃ reason, c.validate = .error (.invalidDescriptor reason)) ∧
      ∃ v, c.toDescriptor.valueLayout = .error v) := by
  have hholds := holdsArrow_of_ofArrow h
  constructor
  · intro width hwidth
    obtain ⟨hadmissible, hbuilt, hsize⟩ := hholds.of_valueWidth? hwidth
    obtain ⟨layout, hlayout⟩ := exists_valueLayout_of_admissible hadmissible
    refine ⟨validate_eq_ok_iff.2 hadmissible, layout, hlayout, ?_⟩
    have hrow := toInt_size_eq_width hadmissible (storedSize?_of_built hbuilt) hlayout
    exact Int.natCast_inj.1 (hrow.symm.trans hsize)
  · intro hwidth
    obtain ⟨htype, rfl | rfl⟩ := hholds.of_no_valueWidth? hwidth
    · exact ⟨htype, ⟨_, rfl⟩, ⟨_, rfl⟩⟩
    · exact ⟨htype, ⟨_, rfl⟩, ⟨_, rfl⟩⟩

theorem ofArrow_usable_dictionary :
    ofArrow (.dictionary .uint16 .utf8) = .ok (dictText 2) ∧
      (DataType.dictionary .uint16 .utf8).valueWidth? = some 2 ∧
      (dictText 2).validate = .ok () ∧
      ∃ layout, (dictText 2).toDescriptor.valueLayout = .ok layout ∧ layout.width = 2 := by
  have h : ofArrow (.dictionary .uint16 .utf8) = .ok (dictText 2) := rfl
  exact ⟨h, rfl, (ofArrow_usable_iff_has_width h).1 2 rfl⟩

/-- A plain string is handed out with a column that neither validates nor resolves. -/
theorem ofArrow_utf8_not_usable :
    ofArrow .utf8 = .ok (plain .text) ∧
      (∃ reason, (plain .text).validate = .error (.invalidDescriptor reason)) ∧
      (plain .text).toDescriptor.valueLayout = .error (.stringNotDictEncoded .plain) ∧
      DataType.utf8.valueWidth? = none :=
  ⟨rfl, ⟨_, rfl⟩, rfl, rfl⟩

end ColumnType

end InbandNull
