import InbandNull.Layout.Value
import InbandNull.Proofs.Sentinel.Integer

/-!
# When a descriptor resolves

`Descriptor.Stores` lists the ways of storing integers, one for each encoding that has a sentinel,
with all that resolution asks of a descriptor on that way. It does not look at the order of the
checks or at the violation that a failed one ends in, so what holds of every resolved descriptor is
shown by cases on it. The main statement is that resolving a stored layout finds the layouts of the
relation, and no others.
-/

namespace InbandNull

/-- A computation without a value has failed. -/
theorem exists_error_iff {ε α : Type} {x : Except ε α} :
    (∃ e, x = .error e) ↔ ¬ ∃ a, x = .ok a := by
  cases x with
  | error e => simp
  | ok a => simp

theorem map_eq_ok_iff {ε α β : Type} {x : Except ε α} {f : α → β} {b : β} :
    x.map f = .ok b ↔ ∃ a, x = .ok a ∧ f a = b := by
  cases x with
  | error e => simp [Except.map]
  | ok a => simp [Except.map]

namespace IntWidth

/-- The width of a count of days in so many bits, where 0 stands for 32. -/
def ofDayBits? (bits : Int32) : Option IntWidth :=
  if bits = 0 ∨ bits = 32 then some .i32
  else if bits = 16 then some .i16
  else none

/-- The width of a dictionary id in so many bytes. -/
def ofIdSize? (size : Int32) : Option IntWidth :=
  if size = 1 then some .u8
  else if size = 2 then some .u16
  else if size = 4 then some .i32
  else none

theorem exists_ofDayBits?_iff {bits : Int32} :
    (∃ w, ofDayBits? bits = some w) ↔ bits = 0 ∨ bits = 16 ∨ bits = 32 := by
  unfold ofDayBits?
  split_ifs <;> grind

theorem exists_ofIdSize?_iff {size : Int32} :
    (∃ w, ofIdSize? size = some w) ↔ size = 1 ∨ size = 2 ∨ size = 4 := by
  unfold ofIdSize?
  split_ifs <;> grind

end IntWidth

namespace Descriptor

/-- The layouts of the integers that a descriptor stores. -/
inductive Stores (d : Descriptor) : IntLayout → Prop where
  | plain {w : IntWidth} (hencoding : d.encoding = .plain) (hstring : d.isString = false)
      (hwidth : d.sqlType.logicalWidth? = some w) : Stores d (.ofWidth w)
  | dayCount {w : IntWidth} (hencoding : d.encoding = .dateInDays)
      (hwidth : IntWidth.ofDayBits? d.param = some w) : Stores d (.ofWidth w)
  | dictId {w : IntWidth} (hencoding : d.encoding = .dict) (hstring : d.isString = true)
      (hwidth : IntWidth.ofIdSize? d.size = some w) : Stores d (.ofWidth w)
  | narrowed {null : Int64} (hencoding : d.encoding = .fixed)
      (hfamily : (d.isInteger || d.isTime || d.isDecimal) = true)
      (hnull : narrowedNull d.param = .ok null) :
      Stores d ⟨(d.param / 8).toNatClampNeg, true, null⟩

variable {d : Descriptor}

/-- Uncompressed, a string is refused before its type is looked up. -/
theorem logicalWidth_eq_ok_iff {w : IntWidth} (h : d.encoding = .plain) :
    d.logicalWidth = .ok w ↔ d.isString = false ∧ d.sqlType.logicalWidth? = some w := by
  unfold logicalWidth
  rw [h]
  cases d.isString with
  | true => simp
  | false => cases d.sqlType.logicalWidth? <;> simp

theorem storedLayout_of_dateInDays (h : d.encoding = .dateInDays) :
    d.storedLayout =
      match IntWidth.ofDayBits? d.param with
      | some w => .ok (.ofWidth w)
      | none => .error (.dateInDaysWidth d.param) := by
  unfold storedLayout IntWidth.ofDayBits?
  rw [h]
  dsimp only
  split_ifs <;> rfl

theorem storedLayout_of_dict (h : d.encoding = .dict) (hstring : d.isString = true) :
    d.storedLayout =
      match IntWidth.ofIdSize? d.size with
      | some w => .ok (.ofWidth w)
      | none => .error (.dictStorageSize d.size) := by
  unfold storedLayout IntWidth.ofIdSize?
  rw [h, hstring]
  dsimp only
  rw [if_pos rfl]
  split_ifs <;> rfl

theorem stores_of_storedLayout {layout : IntLayout} (h : d.storedLayout = .ok layout) :
    d.Stores layout := by
  cases hencoding : d.encoding with
  | plain =>
      rw [storedLayout, hencoding] at h
      obtain ⟨w, hw, rfl⟩ := map_eq_ok_iff.1 h
      obtain ⟨hstring, hwidth⟩ := (logicalWidth_eq_ok_iff hencoding).1 hw
      exact .plain hencoding hstring hwidth
  | dateInDays =>
      rw [storedLayout_of_dateInDays hencoding] at h
      cases hwidth : IntWidth.ofDayBits? d.param with
      | none => simp [hwidth] at h
      | some w =>
          rw [hwidth] at h
          cases h
          exact .dayCount hencoding hwidth
  | dict =>
      cases hstring : d.isString with
      | false => simp [storedLayout, hencoding, hstring] at h
      | true =>
          rw [storedLayout_of_dict hencoding hstring] at h
          cases hwidth : IntWidth.ofIdSize? d.size with
          | none => simp [hwidth] at h
          | some w =>
              rw [hwidth] at h
              cases h
              exact .dictId hencoding hstring hwidth
  | fixed =>
      rw [storedLayout, hencoding] at h
      dsimp only at h
      split_ifs at h with hfamily
      obtain ⟨null, hnull, rfl⟩ := map_eq_ok_iff.1 h
      exact .narrowed hencoding hfamily hnull
  | _ => simp [storedLayout, hencoding] at h

theorem storedLayout_of_stores {layout : IntLayout} (h : d.Stores layout) :
    d.storedLayout = .ok layout := by
  cases h with
  | plain hencoding hstring hwidth =>
      rw [storedLayout, hencoding]
      exact map_eq_ok_iff.2 ⟨_, (logicalWidth_eq_ok_iff hencoding).2 ⟨hstring, hwidth⟩, rfl⟩
  | dayCount hencoding hwidth => rw [storedLayout_of_dateInDays hencoding, hwidth]
  | dictId hencoding hstring hwidth => rw [storedLayout_of_dict hencoding hstring, hwidth]
  | narrowed hencoding hfamily hnull =>
      rw [storedLayout, hencoding]
      dsimp only
      rw [if_pos hfamily, hnull]
      rfl

/-- Resolving a stored layout finds the layout of the relation. -/
theorem storedLayout_eq_ok_iff {layout : IntLayout} :
    d.storedLayout = .ok layout ↔ d.Stores layout :=
  ⟨stores_of_storedLayout, storedLayout_of_stores⟩

/-- What is stored under dictionary encoding is ids, in a width that the size gives. -/
theorem eq_ofWidth_of_stores_of_dict (hencoding : d.encoding = .dict) {layout : IntLayout}
    (h : d.Stores layout) :
    ∃ w, IntWidth.ofIdSize? d.size = some w ∧ layout = .ofWidth w := by
  cases h with
  | dictId _ _ hwidth => exact ⟨_, hwidth, rfl⟩
  | plain hplain _ _ => exact absurd (hencoding.symm.trans hplain) (by decide)
  | dayCount hdays _ => exact absurd (hencoding.symm.trans hdays) (by decide)
  | narrowed hfixed _ _ => exact absurd (hencoding.symm.trans hfixed) (by decide)

theorem exists_stores_of_dayCount (hencoding : d.encoding = .dateInDays)
    (hbits : d.param = 0 ∨ d.param = 16 ∨ d.param = 32) : ∃ layout, d.Stores layout := by
  obtain ⟨w, hwidth⟩ := IntWidth.exists_ofDayBits?_iff.2 hbits
  exact ⟨_, .dayCount hencoding hwidth⟩

theorem exists_stores_of_dictId (hencoding : d.encoding = .dict) (hstring : d.isString = true)
    (hsize : d.size = 1 ∨ d.size = 2 ∨ d.size = 4) : ∃ layout, d.Stores layout := by
  obtain ⟨w, hwidth⟩ := IntWidth.exists_ofIdSize?_iff.2 hsize
  exact ⟨_, .dictId hencoding hstring hwidth⟩

theorem exists_stores_of_narrowed (hencoding : d.encoding = .fixed)
    (hfamily : (d.isInteger || d.isTime || d.isDecimal) = true)
    (hbits : 0 < d.param ∧ d.param ≤ 64 ∧ d.param % 8 = 0) : ∃ layout, d.Stores layout := by
  obtain ⟨null, hnull⟩ := exists_narrowedNull_iff.2 (wholeBytes_iff.2 hbits)
  exact ⟨_, .narrowed hencoding hfamily hnull⟩

theorem floatKind_eq_ok_iff {kind : FloatKind} :
    d.floatKind = .ok kind ↔ d.isFloat = true ∧ d.sqlType.floatKind? = some kind := by
  unfold floatKind
  cases d.isFloat with
  | true => cases d.sqlType.floatKind? <;> simp
  | false => simp

theorem valueLayout_eq_integer_iff {layout : IntLayout} :
    d.valueLayout = .ok (.integer layout) ↔ d.isFloat = false ∧ d.storedLayout = .ok layout := by
  unfold valueLayout
  cases hfloat : d.isFloat with
  | true => cases d.floatKind <;> simp [Except.map]
  | false => cases d.storedLayout <;> simp [Except.map]

theorem valueLayout_eq_float_iff {kind : FloatKind} :
    d.valueLayout = .ok (.float kind) ↔ d.isFloat = true ∧ d.floatKind = .ok kind := by
  unfold valueLayout
  cases hfloat : d.isFloat with
  | true => cases d.floatKind <;> simp [Except.map]
  | false => cases d.storedLayout <;> simp [Except.map]

theorem encodedNull_eq {layout : IntLayout}
    (h : d.valueLayout = .ok (.integer layout)) : d.encodedNull = .ok layout.null := by
  rw [encodedNull, (valueLayout_eq_integer_iff.1 h).2]
  rfl

theorem isNullEncoded_eq {layout : IntLayout}
    (h : d.valueLayout = .ok (.integer layout)) (n : Int64) :
    d.isNullEncoded n = .ok (n == layout.null) := by
  rw [isNullEncoded, encodedNull_eq h]
  rfl

theorem floatingNull_eq {kind : FloatKind}
    (h : d.valueLayout = .ok (.float kind)) : d.floatingNull = .ok kind.null := by
  rw [floatingNull, (valueLayout_eq_float_iff.1 h).2]
  rfl

theorem isNullFloat_eq {kind : FloatKind}
    (h : d.valueLayout = .ok (.float kind)) (bits : UInt64) :
    d.isNullFloat bits = .ok (bits == kind.null) := by
  rw [isNullFloat, (valueLayout_eq_float_iff.1 h).2]
  rfl

end Descriptor

end InbandNull
