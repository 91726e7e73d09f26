import InbandNull.ColumnType.Basic
import InbandNull.Proofs.Layout.Resolution
import Mathlib.Logic.Basic

/-!
# Validated columns and columns that resolve

`ColumnType.validate` is to tell in advance whether a layout can be resolved. What it asks of a
column is `Admissible`, one way for each encoding as in `Descriptor.Stores`. It is stricter than
resolution, and `Overlooked` lists all it refuses in vain: compressed floating-point numbers, counts
of days that make no date, and dictionary ids that are said to decode to another size than four
bytes. The main statement is that a column resolves exactly if it is admissible or overlooked, and
is never both.
-/

namespace InbandNull

namespace SqlType

variable {t : SqlType}

theorem exists_floatKind?_iff : (∃ k, t.floatKind? = some k) ↔ t.isFloat = true := by
  cases t <;> simp [floatKind?, isFloat]

/-- A type of a fixed size is a number, or carried as an integer. -/
theorem naturalSize_pos_iff :
    0 < t.naturalSize ↔ t.isFloat = true ∨ ∃ w, t.logicalWidth? = some w := by
  cases t <;> simp [naturalSize, isFloat, logicalWidth?]

theorem isString_of_isFloat (h : t.isFloat = true) : t.isString = false := by
  cases t <;> simp_all [isFloat, isString]

theorem isFloat_of_family (h : (t.isInteger || t.isTime || t.isDecimal) = true) :
    t.isFloat = false := by
  cases t <;> simp_all [isFloat, isInteger, isTime, isDecimal]

end SqlType

namespace ColumnType

variable {c : ColumnType}

/-- What `validate` asks of a column under its encoding. -/
inductive Admissible (c : ColumnType) : Prop where
  | plain (hencoding : c.encoding = .plain) (hstring : c.sqlType.isString = false)
      (hsize : 0 < c.sqlType.naturalSize)
  | dict (hencoding : c.encoding = .dict) (hstring : c.sqlType.isString = true)
      (hlogical : c.logicalSize = dictLogicalSize) (hsize : c.size = 1 ∨ c.size = 2 ∨ c.size = 4)
  | dateInDays (hencoding : c.encoding = .dateInDays) (htype : c.sqlType = .date)
      (hbits : c.param = 0 ∨ c.param = 16 ∨ c.param = 32)
  | fixed (hencoding : c.encoding = .fixed)
      (hfamily : (c.sqlType.isInteger || c.sqlType.isTime || c.sqlType.isDecimal) = true)
      (hbits : 0 < c.param ∧ c.param ≤ 64 ∧ c.param % 8 = 0)

theorem admissible_of_validate (h : c.validate = .ok ()) : c.Admissible := by
  unfold validate at h
  cases hencoding : c.encoding with
  | plain =>
      simp only [hencoding] at h
      split_ifs at h with hstring hsize
      exact .plain hencoding (Bool.of_not_eq_true hstring) (Int32.not_le.1 hsize)
  | dict =>
      simp only [hencoding] at h
      split_ifs at h with hstring hlogical hsize
      simp only [Bool.not_eq_true', Bool.not_eq_false] at hstring
      exact .dict hencoding hstring (not_not.1 hlogical) hsize
  | dateInDays =>
      simp only [hencoding] at h
      split_ifs at h with htype hbits
      exact .dateInDays hencoding (not_not.1 htype) hbits
  | fixed =>
      simp only [hencoding] at h
      split_ifs at h with hfamily hbits
      simp only [Bool.not_eq_true', Bool.not_eq_false] at hfamily
      simp only [not_or, not_not, Int32.not_le, Int32.not_lt, ne_eq] at hbits
      exact .fixed hencoding hfamily hbits
  | _ => simp [hencoding] at h

theorem validate_of_admissible (h : c.Admissible) : c.validate = .ok () := by
  unfold validate
  cases h with
  | plain hencoding hstring hsize =>
      simp only [hencoding]
      rw [if_neg (by simp [hstring]), if_neg (Int32.not_le.2 hsize)]
  | dict hencoding hstring hlogical hsize =>
      simp only [hencoding]
      rw [if_neg (by simp [hstring]), if_neg (by simp [hlogical]), if_pos hsize]
  | dateInDays hencoding htype hbits =>
      simp only [hencoding]
      rw [if_neg (by simp [htype]), if_pos hbits]
  | fixed hencoding hfamily hbits =>
      simp only [hencoding]
      rw [if_neg (by simp [hfamily]), if_neg]
      simp only [not_or, not_not, Int32.not_le, Int32.not_lt, ne_eq]
      exact hbits

theorem validate_eq_ok_iff : c.validate = .ok () ↔ c.Admissible :=
  ⟨admissible_of_validate, validate_of_admissible⟩

theorem validate_eq_ok_or :
    c.validate = .ok () ∨ ∃ reason, c.validate = .error (.invalidDescriptor reason) := by
  unfold validate
  cases c.encoding <;> dsimp only <;> (try split_ifs) <;> simp

/-- Whatever is wrong with a column, it is refused as an invalid descriptor. -/
theorem exists_invalidDescriptor_iff :
    (∃ reason, c.validate = .error (.invalidDescriptor reason)) ↔ ¬ c.Admissible := by
  rw [← validate_eq_ok_iff]
  constructor
  · rintro ⟨reason, h⟩ hok
    rw [h] at hok
    cases hok
  · intro h
    exact validate_eq_ok_or.resolve_left h

namespace Admissible

theorem encoding_of_isFloat (h : c.Admissible) (hfloat : c.sqlType.isFloat = true) :
    c.encoding = .plain := by
  cases h with
  | plain hencoding _ _ => exact hencoding
  | dict _ hstring _ _ => simp [SqlType.isString_of_isFloat hfloat] at hstring
  | dateInDays _ htype _ => simp [htype, SqlType.isFloat] at hfloat
  | fixed _ hfamily _ => simp [SqlType.isFloat_of_family hfamily] at hfloat

theorem of_plain (h : c.Admissible) (hplain : c.encoding = .plain) :
    c.sqlType.isString = false ∧ 0 < c.sqlType.naturalSize := by
  cases h with
  | plain _ hstring hsize => exact ⟨hstring, hsize⟩
  | dict hencoding _ _ _ => simp [hplain] at hencoding
  | dateInDays hencoding _ _ => simp [hplain] at hencoding
  | fixed hencoding _ _ => simp [hplain] at hencoding

theorem of_dict (h : c.Admissible) (hdict : c.encoding = .dict) :
    c.sqlType.isString = true ∧ c.logicalSize = dictLogicalSize ∧
      (c.size = 1 ∨ c.size = 2 ∨ c.size = 4) := by
  cases h with
  | dict _ hstring hlogical hsize => exact ⟨hstring, hlogical, hsize⟩
  | plain hencoding _ _ => simp [hdict] at hencoding
  | dateInDays hencoding _ _ => simp [hdict] at hencoding
  | fixed hencoding _ _ => simp [hdict] at hencoding

theorem of_dateInDays (h : c.Admissible) (hdays : c.encoding = .dateInDays) :
    c.sqlType = .date ∧ (c.param = 0 ∨ c.param = 16 ∨ c.param = 32) := by
  cases h with
  | dateInDays _ htype hbits => exact ⟨htype, hbits⟩
  | plain hencoding _ _ => simp [hdays] at hencoding
  | dict hencoding _ _ _ => simp [hdays] at hencoding
  | fixed hencoding _ _ => simp [hdays] at hencoding

theorem of_fixed (h : c.Admissible) (hfixed : c.encoding = .fixed) :
    (c.sqlType.isInteger || c.sqlType.isTime || c.sqlType.isDecimal) = true ∧
      0 < c.param ∧ c.param ≤ 64 ∧ c.param % 8 = 0 := by
  cases h with
  | fixed _ hfamily hbits => exact ⟨hfamily, hbits⟩
  | plain hencoding _ _ => simp [hfixed] at hencoding
  | dict hencoding _ _ _ => simp [hfixed] at hencoding
  | dateInDays hencoding _ _ => simp [hfixed] at hencoding

end Admissible

/-- The columns that `validate` refuses for something that resolution does not look at. -/
inductive Overlooked (c : ColumnType) : Prop where
  /-- The precision alone says how a floating-point number is stored. -/
  | floatEncoding (hfloat : c.sqlType.isFloat = true) (hencoding : c.encoding ≠ .plain)
  /-- A count of days is stored the same, whether it makes a date or not. -/
  | dayCountType (hencoding : c.encoding = .dateInDays)
      (hbits : c.param = 0 ∨ c.param = 16 ∨ c.param = 32) (htype : c.sqlType ≠ .date)
      (hfloat : c.sqlType.isFloat = false)
  /-- Of a dictionary id only the stored size counts, and not the size once decoded. -/
  | dictLogicalSize (hencoding : c.encoding = .dict) (hstring : c.sqlType.isString = true)
      (hsize : c.size = 1 ∨ c.size = 2 ∨ c.size = 4) (hlogical : c.logicalSize ≠ dictLogicalSize)

theorem not_admissible_of_overlooked (h : c.Overlooked) : ¬ c.Admissible := by
  intro hadmissible
  cases h with
  | floatEncoding hfloat hencoding => exact hencoding (hadmissible.encoding_of_isFloat hfloat)
  | dayCountType hencoding _ htype _ => exact htype (hadmissible.of_dateInDays hencoding).1
  | dictLogicalSize hencoding _ _ hlogical =>
      exact hlogical (hadmissible.of_dict hencoding).2.1

theorem exists_valueLayout_iff :
    (∃ layout, c.toDescriptor.valueLayout = .ok layout) ↔
      c.sqlType.isFloat = true ∨ ∃ layout, c.toDescriptor.Stores layout := by
  constructor
  · rintro ⟨layout | kind, h⟩
    · exact Or.inr ⟨layout, Descriptor.storedLayout_eq_ok_iff.1
        (Descriptor.valueLayout_eq_integer_iff.1 h).2⟩
    · exact Or.inl (Descriptor.valueLayout_eq_float_iff.1 h).1
  · intro h
    cases hfloat : c.sqlType.isFloat with
    | true =>
        obtain ⟨kind, hkind⟩ := SqlType.exists_floatKind?_iff.2 hfloat
        exact ⟨.float kind, Descriptor.valueLayout_eq_float_iff.2
          ⟨hfloat, Descriptor.floatKind_eq_ok_iff.2 ⟨hfloat, hkind⟩⟩⟩
    | false =>
        obtain ⟨layout, hlayout⟩ := h.resolve_left (by simp [hfloat])
        exact ⟨.integer layout, Descriptor.valueLayout_eq_integer_iff.2
          ⟨hfloat, Descriptor.storedLayout_eq_ok_iff.2 hlayout⟩⟩

theorem exists_valueLayout_of_admissible (h : c.Admissible) :
    ∃ layout, c.toDescriptor.valueLayout = .ok layout := by
  apply exists_valueLayout_iff.2
  cases h with
  | plain hencoding hstring hsize =>
      rcases SqlType.naturalSize_pos_iff.1 hsize with hfloat | ⟨w, hwidth⟩
      · exact Or.inl hfloat
      · exact Or.inr ⟨_, .plain hencoding hstring hwidth⟩
  | dict hencoding hstring _ hsize =>
      exact Or.inr (Descriptor.exists_stores_of_dictId hencoding hstring hsize)
  | dateInDays hencoding _ hbits =>
      exact Or.inr (Descriptor.exists_stores_of_dayCount hencoding hbits)
  | fixed hencoding hfamily hbits =>
      exact Or.inr (Descriptor.exists_stores_of_narrowed hencoding hfamily hbits)

theorem exists_valueLayout_of_overlooked (h : c.Overlooked) :
    ∃ layout, c.toDescriptor.valueLayout = .ok layout := by
  apply exists_valueLayout_iff.2
  cases h with
  | floatEncoding hfloat _ => exact Or.inl hfloat
  | dayCountType hencoding hbits _ _ =>
      exact Or.inr (Descriptor.exists_stores_of_dayCount hencoding hbits)
  | dictLogicalSize hencoding hstring hsize _ =>
      exact Or.inr (Descriptor.exists_stores_of_dictId hencoding hstring hsize)

theorem admissible_or_overlooked_of_isFloat (hfloat : c.sqlType.isFloat = true) :
    c.Admissible ∨ c.Overlooked := by
  by_cases hencoding : c.encoding = .plain
  · exact Or.inl (.plain hencoding (SqlType.isString_of_isFloat hfloat)
      (SqlType.naturalSize_pos_iff.2 (Or.inl hfloat)))
  · exact Or.inr (.floatEncoding hfloat hencoding)

theorem admissible_or_overlooked_of_stores {layout : IntLayout}
    (hfloat : c.sqlType.isFloat = false) (h : c.toDescriptor.Stores layout) :
    c.Admissible ∨ c.Overlooked := by
  cases h with
  | plain hencoding hstring hwidth =>
      exact Or.inl (.plain hencoding hstring (SqlType.naturalSize_pos_iff.2 (Or.inr ⟨_, hwidth⟩)))
  | dayCount hencoding hwidth =>
      have hbits := IntWidth.exists_ofDayBits?_iff.1 ⟨_, hwidth⟩
      by_cases htype : c.sqlType = .date
      · exact Or.inl (.dateInDays hencoding htype hbits)
      · exact Or.inr (.dayCountType hencoding hbits htype hfloat)
  | dictId hencoding hstring hwidth =>
      have hsize := IntWidth.exists_ofIdSize?_iff.1 ⟨_, hwidth⟩
      by_cases hlogical : c.logicalSize = dictLogicalSize
      · exact Or.inl (.dict hencoding hstring hlogical hsize)
      · exact Or.inr (.dictLogicalSize hencoding hstring hsize hlogical)
  | narrowed hencoding hfamily hnull =>
      have hbits := wholeBytes_iff.1 (exists_narrowedNull_iff.1 ⟨_, hnull⟩)
      exact Or.inl (.fixed hencoding hfamily hbits)

theorem exists_valueLayout_iff_admissible_or_overlooked :
    (∃ layout, c.toDescriptor.valueLayout = .ok layout) ↔ c.Admissible ∨ c.Overlooked := by
  constructor
  · intro h
    cases hfloat : c.sqlType.isFloat with
    | true => exact admissible_or_overlooked_of_isFloat hfloat
    | false =>
        obtain ⟨layout, hlayout⟩ := (exists_valueLayout_iff.1 h).resolve_left (by simp [hfloat])
        exact admissible_or_overlooked_of_stores hfloat hlayout
  · rintro (h | h)
    · exact exists_valueLayout_of_admissible h
    · exact exists_valueLayout_of_overlooked h

/-- Validation answers for resolution: it accepts no column that does not resolve, and what it
refuses resolves only if overlooked. -/
theorem validate_refuses_resolving_iff_overlooked (c : ColumnType) :
    (c.validate = .ok () → ∃ layout, c.toDescriptor.valueLayout = .ok layout) ∧
      ((∃ reason, c.validate = .error (.invalidDescriptor reason)) ∧
          (∃ layout, c.toDescriptor.valueLayout = .ok layout) ↔ c.Overlooked) ∧
      (¬ c.Overlooked →
        ((∃ reason, c.validate = .error (.invalidDescriptor reason)) ↔
          ∃ v, c.toDescriptor.valueLayout = .error v)) := by
  rw [validate_eq_ok_iff, exists_invalidDescriptor_iff, exists_error_iff,
    exists_valueLayout_iff_admissible_or_overlooked]
  refine ⟨Or.inl, ⟨?_, ?_⟩, ?_⟩
  · rintro ⟨hinvalid, hresolves⟩
    exact hresolves.resolve_left hinvalid
  · intro h
    exact ⟨not_admissible_of_overlooked h, Or.inr h⟩
  · intro h
    exact not_congr (or_iff_left h).symm

end ColumnType

end InbandNull
