import InbandNull.ColumnType.Basic
import InbandNull.Proofs.Buffer.Scan

/-!
# Where a buffer lies

A buffer may begin at any address, on a machine of either byte order. Words that are aligned are
compared in place, all other values bytewise. The main statement is that this shows in the log of a
scan and nowhere else: both ways compare the number that a row reads as with the pattern of the
layout, which always fits the row.
-/

namespace InbandNull

namespace Buffer

open Logging (Event)

variable {d : Descriptor} {layout : ValueLayout}

/-- Single bytes are always in place. -/
theorem not_inPlace_iff {b : Buffer} {w : Nat} :
    (isWordWidth w && !b.inPlace w) = true ↔ (w = 2 ∨ w = 4 ∨ w = 8) ∧ b.offset % w ≠ 0 := by
  have hword : isWordWidth w = true ↔ w = 1 ∨ w = 2 ∨ w = 4 ∨ w = 8 := decide_eq_true_iff
  have hone : b.offset % w ≠ 0 → w ≠ 1 := by
    rintro hne rfl
    exact hne (Nat.mod_one _)
  rw [inPlace, Bool.not_and, Bool.and_or_distrib_left, Bool.and_not_self, Bool.false_or,
    Bool.and_eq_true, hword, Bool.not_eq_true', beq_eq_false_iff_ne]
  exact and_congr_left fun hne => or_iff_right (hone hne)

/-- Wherever the bytes lie, a scan answers with one mask, by either way of comparing, and logs what
it has found, for debugging. Only words out of place are logged as well, for tracing. -/
theorem scan_independent_of_place (h : d.valueLayout = .ok layout) {bytes : List UInt8}
    (hwhole : bytes.length % layout.width = 0) :
    ∃ mask : Mask,
      mask = (InbandNull.rows layout.width (bytes.length / layout.width) bytes).map
        (fun row => readLE row == layout.pattern) ∧
      ∀ (offset : Nat) (host : ByteOrder),
        maskInPlace ⟨bytes, offset, host⟩ layout.width layout.pattern = mask ∧
        maskBytewise ⟨bytes, offset, host⟩ layout.width layout.pattern = mask ∧
        (scan ⟨bytes, offset, host⟩ d).result = .ok mask ∧
        (scan ⟨bytes, offset, host⟩ d).events =
          (if (layout.width = 2 ∨ layout.width = 4 ∨ layout.width = 8) ∧ offset % layout.width ≠ 0
            then [.notInPlace] else []) ++
          [.scanned (bytes.length / layout.width) d.sqlType layout.width (mask.count true)] ∧
        (scan ⟨bytes, offset, host⟩ d).events.map Event.severity =
          (if (layout.width = 2 ∨ layout.width = 4 ∨ layout.width = 8) ∧ offset % layout.width ≠ 0
            then [.trace] else []) ++ [.debug] := by
  have hlayout := ValueLayout.wellFormed_of_valueLayout h
  refine ⟨_, rfl, ?_⟩
  intro offset host
  have hscan := scan_eq (b := ⟨bytes, offset, host⟩) h hwhole
  have hevents : (scan ⟨bytes, offset, host⟩ d).events =
      (if (layout.width = 2 ∨ layout.width = 4 ∨ layout.width = 8) ∧ offset % layout.width ≠ 0
        then [.notInPlace] else []) ++
      [.scanned (bytes.length / layout.width) d.sqlType layout.width
        (nullMask ⟨bytes, offset, host⟩ layout).nullCount] := by
    rw [hscan]
    exact congrArg (· ++ _) (if_congr not_inPlace_iff rfl rfl)
  refine ⟨?_, rfl, by rw [hscan]; rfl, hevents, ?_⟩
  · exact maskInPlace_eq_of_lt (ValueLayout.width_le_eight hlayout)
      (ValueLayout.toNat_pattern_lt hlayout)
  · rw [hevents, List.map_append, apply_ite (List.map Event.severity)]
    rfl

/-- Two counts of days, the first of them NULL, at any address. -/
theorem scan_independent_of_place_dayCount :
    (ColumnType.dateInDays 16).toDescriptor.valueLayout = .ok (.integer ⟨2, true, -32768⟩) ∧
      ([0x00, 0x80, 0x0C, 0x00] : List UInt8).length % 2 = 0 ∧
      ∀ (offset : Nat) (host : ByteOrder),
        (scan ⟨[0x00, 0x80, 0x0C, 0x00], offset, host⟩
          (ColumnType.dateInDays 16).toDescriptor).result = .ok [true, false] ∧
        (scan ⟨[0x00, 0x80, 0x0C, 0x00], offset, host⟩
          (ColumnType.dateInDays 16).toDescriptor).events =
            (if offset % 2 ≠ 0 then [.notInPlace] else []) ++ [.scanned 2 .date 2 1] := by
  have h : (ColumnType.dateInDays 16).toDescriptor.valueLayout =
      .ok (.integer ⟨2, true, -32768⟩) := rfl
  refine ⟨h, rfl, ?_⟩
  intro offset host
  have hwhole : ([0x00, 0x80, 0x0C, 0x00] : List UInt8).length % 2 = 0 := rfl
  obtain ⟨mask, rfl, hplace⟩ := scan_independent_of_place h hwhole
  obtain ⟨-, -, hresult, hevents, -⟩ := hplace offset host
  have hword : (2 = 2 ∨ 2 = 4 ∨ 2 = 8) ∧ offset % 2 ≠ 0 ↔ offset % 2 ≠ 0 :=
    and_iff_right (Or.inl rfl)
  exact ⟨hresult, hevents.trans (congrArg (· ++ _) (if_congr hword rfl rfl))⟩

end Buffer

end InbandNull
