import InbandNull.ColumnType.Basic
import InbandNull.Proofs.Buffer.Decode

/-!
# All readers find the same NULLs

A column is read by a scan, by a count of its NULLs, by its validity and by the decoder of its
family, and each goes over the rows anew. The main statement is that they agree on how many rows
there are and on which of them are NULL, so that an array can always be built from the values and
the validity of a column. Nothing is lost on the way from a mask to a validity.
-/

namespace InbandNull

theorem Mask.nullCount_eq_zero_iff {m : Mask} : m.nullCount = 0 ↔ ∀ isNull ∈ m, isNull = false := by
  rw [nullCount, List.count_eq_zero]
  constructor
  · rintro h isNull mem
    exact Bool.eq_false_iff.2 fun hnull => h (hnull ▸ mem)
  · intro h mem
    exact Bool.noConfusion (h true mem)

namespace NullableArray

variable {α : Type}

/-- An array from its values and their validity, which must have a flag for each. -/
def ofParts? (values : List α) (validity : Option Validity) : Option (NullableArray α) :=
  if ∀ v ∈ validity, v.flags.length = values.length then some ⟨values, validity⟩ else none

end NullableArray

namespace Validity

variable {m n : Mask} {v : Validity}

theorem ofMask?_eq_none_iff_nullCount : ofMask? m = none ↔ m.nullCount = 0 := by
  rw [ofMask?_eq_none_iff, Mask.nullCount_eq_zero_iff]

theorem flags_of_ofMask? (h : ofMask? m = some v) : v.flags = m.map (!·) := by
  obtain ⟨-, rfl⟩ := ofMask?_eq_some_iff.1 h
  rfl

theorem length_flags_of_ofMask? (h : ofMask? m = some v) : v.flags.length = m.length := by
  rw [flags_of_ofMask? h, List.length_map]

theorem nullCount_of_ofMask? (h : ofMask? m = some v) : v.nullCount = m.nullCount := by
  rw [nullCount, flags_of_ofMask? h, Mask.nullCount, List.count, List.countP_map]
  apply List.countP_congr
  intro isNull _
  simp

/-- A mask can be told from its validity and its length. -/
theorem ofMask?_inj (hlen : m.length = n.length) (h : ofMask? m = ofMask? n) : m = n := by
  have hm := NullableArray.nulls_ofMask? m (m := m) rfl
  have hn := NullableArray.nulls_ofMask? m (m := n) hlen.symm
  rw [← hm, h, hn]

end Validity

namespace Buffer

variable {b : Buffer} {d : Descriptor} {layout : ValueLayout}

theorem ofParts?_decoded {α : Type} (read : List UInt8 → α) :
    NullableArray.ofParts? (b.decoded layout read).values (Validity.ofMask? (b.nullMask layout)) =
      some (b.decoded layout read) := by
  apply if_pos
  intro v hv
  rw [Validity.length_flags_of_ofMask? hv, length_nullMask, length_rows, length_decoded]

/-- Scan, count, validity and decoder report the same NULLs, with a flag or a value for every row;
an array takes its parts for that reason. Masks of one length with the same validity are equal. -/
theorem readers_agree (h : d.valueLayout = .ok layout)
    (hwhole : b.bytes.length % layout.width = 0) :
    (∃ (mask : Mask) (validity : Option Validity),
      (b.scan d).result = .ok mask ∧
      mask.length = b.bytes.length / layout.width ∧
      (b.nullCount d).result = .ok (mask.count true) ∧
      (b.validity d).result = .ok validity ∧
      (validity = none ↔ mask.count true = 0) ∧
      (∀ v, validity = some v →
        v.flags.length = b.bytes.length / layout.width ∧
        (∀ i : Nat, v.flags[i]? = mask[i]?.map (!·)) ∧
        (b.nullCount d).result = .ok v.nullCount) ∧
      (∀ stored, layout = .integer stored → ∃ array,
        (b.decodeIntegers d).result = .ok array ∧
        array.values.length = b.bytes.length / layout.width ∧
        array.validity = validity ∧
        NullableArray.ofParts? array.values validity = some array) ∧
      ∀ kind, layout = .float kind → ∃ array,
        (b.decodeFloats d).result = .ok array ∧
        array.values.length = b.bytes.length / layout.width ∧
        array.validity = validity ∧
        NullableArray.ofParts? array.values validity = some array) ∧
    ∀ m n : Mask, m.length = n.length → Validity.ofMask? m = Validity.ofMask? n → m = n := by
  refine ⟨⟨b.nullMask layout, Validity.ofMask? (b.nullMask layout), ?_, ?_, ?_, ?_,
    Validity.ofMask?_eq_none_iff_nullCount, ?_, ?_, ?_⟩, fun _ _ => Validity.ofMask?_inj⟩
  · rw [scan_eq h hwhole]
  · rw [length_nullMask, length_rows]
  · rw [nullCount_eq h hwhole]
    rfl
  · rw [validity_eq h hwhole]
  · intro v hv
    refine ⟨?_, ?_, ?_⟩
    · rw [Validity.length_flags_of_ofMask? hv, length_nullMask, length_rows]
    · intro i
      rw [Validity.flags_of_ofMask? hv, List.getElem?_map]
    · rw [nullCount_eq h hwhole, Validity.nullCount_of_ofMask? hv]
  · rintro stored rfl
    refine ⟨b.decoded (.integer stored) stored.decode, ?_, length_decoded .., rfl,
      ofParts?_decoded _⟩
    rw [decodeIntegers_eq h hwhole]
  · rintro kind rfl
    refine ⟨b.decoded (.float kind) kind.decode, ?_, length_decoded .., rfl, ofParts?_decoded _⟩
    rw [decodeFloats_eq h hwhole]

/-- Three dictionary ids in two bytes each, the second of them NULL. -/
theorem readers_agree_dictText :
    (ColumnType.dictText 2).toDescriptor.valueLayout = .ok (.integer ⟨2, false, 65535⟩) ∧
      ([0x00, 0x00, 0xFF, 0xFF, 0x07, 0x00] : List UInt8).length % 2 = 0 ∧
      ∀ b : Buffer, b.bytes = [0x00, 0x00, 0xFF, 0xFF, 0x07, 0x00] →
        ∃ (mask : Mask) (validity : Option Validity),
          (b.scan (ColumnType.dictText 2).toDescriptor).result = .ok mask ∧ mask.length = 3 ∧
          (b.nullCount (ColumnType.dictText 2).toDescriptor).result = .ok (mask.count true) ∧
          (b.validity (ColumnType.dictText 2).toDescriptor).result = .ok validity ∧
          ∃ array, (b.decodeIntegers (ColumnType.dictText 2).toDescriptor).result = .ok array ∧
            array.values.length = 3 ∧ array.validity = validity := by
  have h : (ColumnType.dictText 2).toDescriptor.valueLayout = .ok (.integer ⟨2, false, 65535⟩) :=
    rfl
  refine ⟨h, rfl, ?_⟩
  intro b hb
  have hwhole : b.bytes.length % (ValueLayout.integer ⟨2, false, 65535⟩).width = 0 := by
    rw [hb]
    rfl
  obtain ⟨⟨mask, validity, hscan, hlen, hcount, hvalidity, -, -, hdecode, -⟩, -⟩ :=
    readers_agree h hwhole
  obtain ⟨array, harray, hvalues, hnulls, -⟩ := hdecode _ rfl
  rw [hb] at hlen hvalues
  exact ⟨mask, validity, hscan, hlen, hcount, hvalidity, array, harray, hvalues, hnulls⟩

end Buffer

end InbandNull
