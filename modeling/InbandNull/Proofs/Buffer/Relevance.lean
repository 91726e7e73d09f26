import InbandNull.Buffer.Decode
import InbandNull.Buffer.Fill
import InbandNull.ColumnType.Basic

/-!
# What matters in a descriptor

A descriptor has fields that its encoding gives no meaning to: a parameter without a bit width to
state, a stored size that the width of a row does not come from, the size of a decoded value. The
main statement is about two descriptors that may differ in such fields, and says that no operation
can tell them apart, by an answer, a violation or the log. All that an operation reads of a
descriptor is its layout and its type, so the layout alone has to be compared.
-/

namespace InbandNull

namespace Descriptor

variable {d e : Descriptor}

/-- Agreement on the type, the encoding, the families, and the field that the encoding goes by. -/
structure AgreesWith (d e : Descriptor) : Prop where
  sqlType_eq : d.sqlType = e.sqlType
  encoding_eq : d.encoding = e.encoding
  isString_eq : d.isString = e.isString
  isInteger_eq : d.isInteger = e.isInteger
  isFloat_eq : d.isFloat = e.isFloat
  isTime_eq : d.isTime = e.isTime
  isDecimal_eq : d.isDecimal = e.isDecimal
  param_eq : d.encoding = .fixed ∨ d.encoding = .dateInDays → d.param = e.param
  size_eq : d.encoding = .dict → d.size = e.size

theorem floatKind_congr (htype : d.sqlType = e.sqlType) (hfloat : d.isFloat = e.isFloat) :
    d.floatKind = e.floatKind := by
  unfold floatKind
  rw [htype, hfloat]

/-- Uncompressed, a string is refused before its decoded size is looked at. -/
theorem logicalWidth_of_plain (h : d.encoding = .plain) :
    d.logicalWidth =
      if d.isString then .error (.stringNotDictEncoded .plain)
      else
        match d.sqlType.logicalWidth? with
        | some w => .ok w
        | none => .error (.noIntegerSentinel d.sqlType) := by
  unfold logicalWidth
  rw [h]
  rfl

theorem storedLayout_congr (h : d.AgreesWith e) : d.storedLayout = e.storedLayout := by
  have hencoding := h.encoding_eq
  -- One case for each way of resolving: the violations, too, name only fields that agree.
  cases hd : d.encoding with
  | plain =>
      have he : e.encoding = .plain := hencoding.symm.trans hd
      rw [storedLayout, storedLayout, hd, he]
      dsimp only
      rw [logicalWidth_of_plain hd, logicalWidth_of_plain he, h.isString_eq, h.sqlType_eq]
  | dict =>
      rw [storedLayout, storedLayout, ← hencoding, hd]
      dsimp only
      rw [h.isString_eq, h.size_eq hd, h.sqlType_eq]
  | fixed =>
      rw [storedLayout, storedLayout, ← hencoding, hd]
      dsimp only
      rw [h.isInteger_eq, h.isTime_eq, h.isDecimal_eq, h.param_eq (.inl hd), h.sqlType_eq]
  | dateInDays =>
      rw [storedLayout, storedLayout, ← hencoding, hd]
      dsimp only
      rw [h.param_eq (.inr hd)]
  | runLength | diff | sparse | geoInt => rw [storedLayout, storedLayout, ← hencoding, hd]

theorem valueLayout_congr (h : d.AgreesWith e) : d.valueLayout = e.valueLayout := by
  unfold valueLayout
  rw [floatKind_congr h.sqlType_eq h.isFloat_eq, storedLayout_congr h, h.isFloat_eq]

/-- A floating-point column is resolved by its type alone. -/
theorem valueLayout_congr_of_isFloat (hd : d.isFloat = true) (he : e.isFloat = true)
    (htype : d.sqlType = e.sqlType) : d.valueLayout = e.valueLayout := by
  unfold valueLayout
  rw [floatKind_congr htype (hd.trans he.symm), hd, he]
  rfl

theorem fillNulls_congr (h : d.valueLayout = e.valueLayout) (count : Nat) :
    d.fillNulls count = e.fillNulls count := by
  unfold fillNulls
  rw [h]

end Descriptor

namespace Buffer

variable {b : Buffer} {d e : Descriptor}

theorem scan_congr (h : d.valueLayout = e.valueLayout) (htype : d.sqlType = e.sqlType) :
    b.scan d = b.scan e := by
  unfold scan
  rw [h, htype]

theorem nullCount_congr (h : d.valueLayout = e.valueLayout) (htype : d.sqlType = e.sqlType) :
    b.nullCount d = b.nullCount e := by
  unfold nullCount
  rw [scan_congr h htype]

theorem validity_congr (h : d.valueLayout = e.valueLayout) (htype : d.sqlType = e.sqlType) :
    b.validity d = b.validity e := by
  unfold validity
  rw [scan_congr h htype]

theorem decodeIntegers_congr (h : d.valueLayout = e.valueLayout) (htype : d.sqlType = e.sqlType) :
    b.decodeIntegers d = b.decodeIntegers e := by
  unfold decodeIntegers
  rw [h, htype, validity_congr h htype]

theorem decodeFloats_congr (h : d.valueLayout = e.valueLayout) (htype : d.sqlType = e.sqlType) :
    b.decodeFloats d = b.decodeFloats e := by
  unfold decodeFloats
  rw [h, htype, validity_congr h htype]

theorem setNulls_congr (h : d.valueLayout = e.valueLayout) (mask : Mask) :
    b.setNulls d mask = b.setNulls e mask := by
  unfold setNulls
  rw [h]

/-- Two descriptors that agree on all that their encoding goes by, or are floating point and of one
type, resolve to the same layout or break the same precondition, and every operation does the same
under both. -/
theorem operations_ignore_irrelevant
    (h : d.AgreesWith e ∨ d.isFloat = true ∧ e.isFloat = true ∧ d.sqlType = e.sqlType) :
    d.valueLayout = e.valueLayout ∧ (∀ count, d.fillNulls count = e.fillNulls count) ∧
      ∀ b : Buffer, b.scan d = b.scan e ∧ b.nullCount d = b.nullCount e ∧
        b.validity d = b.validity e ∧ b.decodeIntegers d = b.decodeIntegers e ∧
        b.decodeFloats d = b.decodeFloats e ∧ ∀ mask, b.setNulls d mask = b.setNulls e mask := by
  obtain ⟨hlayout, htype⟩ : d.valueLayout = e.valueLayout ∧ d.sqlType = e.sqlType := by
    rcases h with h | ⟨hd, he, htype⟩
    · exact ⟨Descriptor.valueLayout_congr h, h.sqlType_eq⟩
    · exact ⟨Descriptor.valueLayout_congr_of_isFloat hd he htype, htype⟩
  refine ⟨hlayout, Descriptor.fillNulls_congr hlayout, ?_⟩
  intro b
  exact ⟨scan_congr hlayout htype, nullCount_congr hlayout htype, validity_congr hlayout htype,
    decodeIntegers_congr hlayout htype, decodeFloats_congr hlayout htype, setNulls_congr hlayout⟩

/-- Ids in two bytes, read alike though they decode to another size, and floating-point numbers, read
alike though they are compressed and taken for strings. -/
theorem operations_ignore_irrelevant_dictText_float :
    (ColumnType.dictText 2).toDescriptor.AgreesWith
        { (ColumnType.dictText 2).toDescriptor with param := -1, logicalSize := 8 } ∧
      (ColumnType.plain .float).toDescriptor.isFloat = true ∧
      ∀ b : Buffer,
        b.decodeIntegers (ColumnType.dictText 2).toDescriptor =
          b.decodeIntegers
            { (ColumnType.dictText 2).toDescriptor with param := -1, logicalSize := 8 } ∧
        b.decodeFloats (ColumnType.plain .float).toDescriptor =
          b.decodeFloats
            { (ColumnType.plain .float).toDescriptor with
              encoding := .fixed, param := 16, size := 2, isString := true } := by
  have hagrees : (ColumnType.dictText 2).toDescriptor.AgreesWith
      { (ColumnType.dictText 2).toDescriptor with param := -1, logicalSize := 8 } := {
    sqlType_eq := rfl
    encoding_eq := rfl
    isString_eq := rfl
    isInteger_eq := rfl
    isFloat_eq := rfl
    isTime_eq := rfl
    isDecimal_eq := rfl
    param_eq := by decide
    size_eq := fun _ => rfl }
  refine ⟨hagrees, rfl, ?_⟩
  intro b
  obtain ⟨-, -, hdict⟩ := operations_ignore_irrelevant (.inl hagrees)
  obtain ⟨-, -, hfloat⟩ := operations_ignore_irrelevant
    (d := (ColumnType.plain .float).toDescriptor)
    (e := { (ColumnType.plain .float).toDescriptor with
      encoding := .fixed, param := 16, size := 2, isString := true }) (.inr ⟨rfl, rfl, rfl⟩)
  exact ⟨(hdict b).2.2.2.1, (hfloat b).2.2.2.2.1⟩

end Buffer

end InbandNull
