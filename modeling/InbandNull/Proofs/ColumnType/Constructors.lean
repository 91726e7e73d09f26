import InbandNull.Proofs.ColumnType.Size

/-!
# The columns that the constructors build

Each constructor sets the encoding and derives the size from its arguments, by a table, a product or
a quotient. It does not check them. The main statement is for which arguments the column is one that
validates, and that its size is then the width in which it is stored.
-/

namespace InbandNull

theorem SqlType.naturalSize_pos_iff_ne {t : SqlType} :
    t.isString = false ∧ 0 < t.naturalSize ↔
      t.isString = false ∧ t ≠ .null ∧ t ≠ .array ∧ t ≠ .point := by
  cases t <;> decide

namespace ColumnType

variable {c : ColumnType} {t : SqlType} {n : Int32}

theorem validate_plain_iff :
    (plain t).validate = .ok () ↔
      t.isString = false ∧ t ≠ .null ∧ t ≠ .array ∧ t ≠ .point := by
  rw [validate_eq_ok_iff, ← SqlType.naturalSize_pos_iff_ne]
  constructor
  · intro h
    exact h.of_plain rfl
  · rintro ⟨hstring, hsize⟩
    exact .plain rfl hstring hsize

/-- The product in bits, which may overflow, plays no part. -/
theorem validate_dictText_iff : (dictText n).validate = .ok () ↔ n = 1 ∨ n = 2 ∨ n = 4 := by
  rw [validate_eq_ok_iff]
  constructor
  · intro h
    exact (h.of_dict rfl).2.2
  · intro hsize
    exact .dict rfl rfl rfl hsize

theorem validate_fixed_iff :
    (fixed t n).validate = .ok () ↔
      (t.isInteger = true ∨ t.isTime = true ∨ t.isDecimal = true) ∧ WholeBytes n := by
  have hfamily : (t.isInteger || t.isTime || t.isDecimal) = true ↔
      t.isInteger = true ∨ t.isTime = true ∨ t.isDecimal = true := by
    rw [Bool.or_eq_true, Bool.or_eq_true, or_assoc]
  rw [validate_eq_ok_iff, ← hfamily, wholeBytes_iff]
  constructor
  · intro h
    exact h.of_fixed rfl
  · rintro ⟨htype, hbits⟩
    exact .fixed rfl htype hbits

theorem validate_dateInDays_iff :
    (dateInDays n).validate = .ok () ↔ n = 0 ∨ n = 16 ∨ n = 32 := by
  rw [validate_eq_ok_iff]
  constructor
  · intro h
    exact (h.of_dateInDays rfl).2
  · intro hbits
    exact .dateInDays rfl rfl hbits

theorem exists_valueLayout_of_built (hbuilt : c.Built) (h : c.validate = .ok ()) :
    ∃ layout, c.toDescriptor.valueLayout = .ok layout ∧ c.size.toInt = layout.width := by
  have hadmissible := validate_eq_ok_iff.1 h
  obtain ⟨layout, hlayout⟩ := exists_valueLayout_of_admissible hadmissible
  exact ⟨layout, hlayout, toInt_size_eq_width hadmissible (storedSize?_of_built hbuilt) hlayout⟩

/-- Which arguments each constructor supports. Whatever it builds from them is stored in rows of the
size that it states. -/
theorem built_validates_iff (t : SqlType) (n : Int32) :
    ((plain t).validate = .ok () ↔
      t.isString = false ∧ t ≠ .null ∧ t ≠ .array ∧ t ≠ .point) ∧
    ((dictText n).validate = .ok () ↔ n = 1 ∨ n = 2 ∨ n = 4) ∧
    ((fixed t n).validate = .ok () ↔
      (t.isInteger = true ∨ t.isTime = true ∨ t.isDecimal = true) ∧ WholeBytes n) ∧
    ((dateInDays n).validate = .ok () ↔ n = 0 ∨ n = 16 ∨ n = 32) ∧
    ∀ c ∈ [plain t, dictText n, fixed t n, dateInDays n], c.validate = .ok () →
      ∃ layout, c.toDescriptor.valueLayout = .ok layout ∧ c.size.toInt = layout.width := by
  refine ⟨validate_plain_iff, validate_dictText_iff, validate_fixed_iff,
    validate_dateInDays_iff, ?_⟩
  have hbuilt : ∀ c ∈ [plain t, dictText n, fixed t n, dateInDays n], c.Built := by
    simp only [List.forall_mem_cons]
    exact ⟨.plain t, .dictText n, .fixed t n, .dateInDays n, List.forall_mem_nil _⟩
  intro c hc h
  exact exists_valueLayout_of_built (hbuilt c hc) h

/-- Times in 48 bits are supported, and lie in rows of six bytes. -/
theorem built_validates_iff_narrowed :
    fixed .timestamp 48 ∈
        [plain .timestamp, dictText 48, fixed .timestamp 48, dateInDays 48] ∧
      (fixed .timestamp 48).validate = .ok () ∧
      (∃ layout, (fixed .timestamp 48).toDescriptor.valueLayout = .ok layout ∧
        (6 : Int) = layout.width) ∧
      (dictText 48).validate ≠ .ok () := by
  obtain ⟨-, hdict, hfixed, -, hrows⟩ := built_validates_iff .timestamp 48
  have hmem : fixed .timestamp 48 ∈
      [plain .timestamp, dictText 48, fixed .timestamp 48, dateInDays 48] := by simp
  have h := hfixed.2 ⟨Or.inr (Or.inl rfl), by decide⟩
  exact ⟨hmem, h, hrows _ hmem h, fun hid => absurd (hdict.1 hid) (by decide)⟩

end ColumnType

end InbandNull
