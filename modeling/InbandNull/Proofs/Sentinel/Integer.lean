import InbandNull.Sentinel.Integer
import Mathlib.Tactic.Positivity

/-!
# Integer sentinels as numbers

A narrowed column computes its sentinel by a shift, all other integers look theirs up. Both are
stated here on the numbers that they stand for. The main statement is that the computed sentinel is
`-2 ^ (bits - 1)` for every width of one to eight whole bytes and a violation for any other, that
the table has an entry exactly for the width and signedness of each of its rows, and that the two
give the same sentinel to the signed widths that both know.
-/

namespace InbandNull

/-- A shift to the right of fewer than 64 places divides and rounds down. -/
theorem toInt_shiftRight_ofNat (x : Int64) {s : Nat} (hs : s < 64) :
    (x >>> Int64.ofNat s).toInt = x.toInt / 2 ^ s := by
  have hamount : ∀ t < 64, ((Int64.ofNat t).toBitVec.smod 64).toNat = t := by decide
  rw [← Int64.toInt_toBitVec, Int64.toBitVec_shiftRight, BitVec.sshiftRight',
    BitVec.toInt_sshiftRight, hamount s hs, Int.shiftRight_eq_div_pow, Int64.toInt_toBitVec]
  push_cast
  rfl

/-- The least 64-bit integer is a power of two, so shifting it loses nothing. -/
theorem toInt_minValue_shiftRight {s : Nat} (hs : s < 64) :
    (Int64.minValue >>> Int64.ofNat s).toInt = -2 ^ (63 - s) := by
  have hsplit : (2 : Int) ^ 63 = 2 ^ (63 - s) * 2 ^ s := by
    rw [← pow_add, Nat.sub_add_cancel (by omega)]
  rw [toInt_shiftRight_ofNat _ hs, Int64.toInt_minValue, hsplit, ← neg_mul,
    Int.mul_ediv_cancel _ (by positivity)]

/-- The widths in bits of one to eight whole bytes. -/
def WholeBytes (bits : Int32) : Prop := 8 ∣ bits.toInt ∧ 8 ≤ bits.toInt ∧ bits.toInt ≤ 64

instance (bits : Int32) : Decidable (WholeBytes bits) := inferInstanceAs (Decidable (_ ∧ _))

variable {bits : Int32}

theorem wholeBytes_iff : WholeBytes bits ↔ 0 < bits ∧ bits ≤ 64 ∧ bits % 8 = 0 := by
  have hpos : 0 < bits ↔ 0 < bits.toInt := Int32.lt_iff_toInt_lt
  have hle : bits ≤ 64 ↔ bits.toInt ≤ 64 := Int32.le_iff_toInt_le
  have hmod : bits % 8 = 0 ↔ 8 ∣ bits.toInt := by
    rw [Int.dvd_iff_tmod_eq_zero, ← Int32.toInt_inj, Int32.toInt_mod]
    rfl
  rw [hpos, hle, hmod, WholeBytes]
  omega

theorem exists_bytes_of_wholeBytes (h : WholeBytes bits) :
    ∃ k < 8, bits = .ofNat (8 * (k + 1)) := by
  obtain ⟨hdvd, hlower, hupper⟩ := h
  refine ⟨(bits.toInt / 8).toNat - 1, by omega, ?_⟩
  apply Int32.toInt_inj.1
  rw [Int32.toInt_ofNat_of_lt (by omega)]
  omega

/-- Of a width of whole bytes, what is left of 64 bits is a number of places to shift by. -/
theorem exists_shift_of_wholeBytes (h : WholeBytes bits) :
    ∃ s : Nat, s ≤ 56 ∧ (s : Int) = 64 - bits.toInt ∧ 64 - bits.toInt64 = Int64.ofNat s := by
  obtain ⟨-, hlower, hupper⟩ := h
  have hs : ((64 - bits.toInt).toNat : Int) = 64 - bits.toInt := by omega
  have hsixtyFour : (64 : Int64).toInt = 64 := rfl
  refine ⟨(64 - bits.toInt).toNat, by omega, hs, ?_⟩
  apply Int64.toInt_inj.1
  rw [Int64.toInt_sub, Int32.toInt_toInt64, Int64.toInt_ofNat_of_lt (by omega), hs, hsixtyFour]
  exact Int.bmod_eq_of_le (by omega) (by omega)

theorem narrowedNull_of_wholeBytes (h : WholeBytes bits) :
    narrowedNull bits = .ok (Int64.minValue >>> (64 - bits.toInt64)) := by
  rw [narrowedNull, if_neg]
  simpa only [not_or, Int32.not_le, Int32.not_lt, ne_eq, not_not] using wholeBytes_iff.1 h

theorem narrowedNull_of_not_wholeBytes (h : ¬ WholeBytes bits) :
    narrowedNull bits = .error (.fixedWidth bits) := by
  rw [narrowedNull, if_pos]
  simpa only [wholeBytes_iff, not_and_or, Int32.not_le, Int32.not_lt] using h

theorem narrowedNull_eq_error_iff {v : Violation} :
    narrowedNull bits = .error v ↔ ¬ WholeBytes bits ∧ v = .fixedWidth bits := by
  by_cases h : WholeBytes bits
  · simp [narrowedNull_of_wholeBytes h, h]
  · simp [narrowedNull_of_not_wholeBytes h, h, eq_comm]

theorem exists_narrowedNull_iff : (∃ null, narrowedNull bits = .ok null) ↔ WholeBytes bits := by
  constructor
  · rintro ⟨null, hnull⟩
    by_contra h
    cases (narrowedNull_of_not_wholeBytes h).symm.trans hnull
  · intro h
    exact ⟨_, narrowedNull_of_wholeBytes h⟩

/-- A narrowed column has the least number of its width for NULL. -/
theorem toInt_narrowedNull {null : Int64} (hnull : narrowedNull bits = .ok null) :
    null.toInt = -2 ^ (bits.toInt.toNat - 1) := by
  have h : WholeBytes bits := exists_narrowedNull_iff.1 ⟨null, hnull⟩
  obtain ⟨s, hs, hbits, hshift⟩ := exists_shift_of_wholeBytes h
  have hvalue := Except.ok.inj ((narrowedNull_of_wholeBytes h).symm.trans hnull)
  rw [← hvalue, hshift, toInt_minValue_shiftRight (by omega)]
  congr 2
  omega

theorem exists_shift_narrowedNull (h : WholeBytes bits) :
    ∃ (s : Nat) (null : Int64), s ≤ 56 ∧ (s : Int) = 64 - bits.toInt ∧
      null = Int64.minValue >>> Int64.ofNat s ∧ narrowedNull bits = .ok null ∧
      null.toInt = -2 ^ (bits.toInt.toNat - 1) := by
  obtain ⟨s, hs, hbits, hshift⟩ := exists_shift_of_wholeBytes h
  have hnull := narrowedNull_of_wholeBytes h
  rw [hshift] at hnull
  exact ⟨s, _, hs, hbits, rfl, hnull, toInt_narrowedNull hnull⟩

namespace IntWidth

/-- The table has every width under its own bits and signedness, and nothing else. -/
theorem ofBits?_eq_some_iff {bits : UInt32} {signed : Bool} {w : IntWidth} :
    ofBits? bits signed = some w ↔ w.bits = bits ∧ w.signed = signed := by
  constructor
  · intro h
    unfold ofBits? at h
    split at h <;> cases h <;> exact ⟨rfl, rfl⟩
  · rintro ⟨rfl, rfl⟩
    cases w <;> rfl

theorem wholeBytes_bits (w : IntWidth) : WholeBytes w.bits.toInt32 := by
  cases w <;> decide

theorem toInt_toInt32_bits (w : IntWidth) : w.bits.toInt32.toInt = w.bits.toNat := by
  cases w <;> rfl

theorem toInt_null_of_signed {w : IntWidth} (h : w.signed = true) :
    w.null.toInt = -2 ^ (w.bits.toNat - 1) := by
  cases w <;> first | rfl | cases h

theorem toInt_null_of_unsigned {w : IntWidth} (h : w.signed = false) :
    w.null.toInt = 2 ^ w.bits.toNat - 1 := by
  cases w <;> first | rfl | cases h

/-- The signed rows of the table are what the shift computes. -/
theorem narrowedNull_bits {w : IntWidth} (h : w.signed = true) :
    narrowedNull w.bits.toInt32 = .ok w.null := by
  have hnull := narrowedNull_of_wholeBytes w.wholeBytes_bits
  have hvalue := toInt_narrowedNull hnull
  rw [toInt_toInt32_bits, Int.toNat_natCast, ← toInt_null_of_signed h] at hvalue
  rw [hnull, Int64.toInt_inj.1 hvalue]

end IntWidth

theorem integerNull_eq_ok_iff {bits : UInt32} {signed : Bool} {null : Int64} :
    integerNull bits signed = .ok null ↔
      ∃ w, IntWidth.ofBits? bits signed = some w ∧ w.null = null := by
  unfold integerNull
  cases IntWidth.ofBits? bits signed with
  | none => simp
  | some w => simp

theorem integerNull_eq_error_iff {bits : UInt32} {signed : Bool} {v : Violation} :
    integerNull bits signed = .error v ↔
      IntWidth.ofBits? bits signed = none ∧ v = .integerWidth bits signed := by
  unfold integerNull
  cases IntWidth.ofBits? bits signed with
  | none => simp [eq_comm]
  | some w => simp

/-- Computed or tabulated, a sentinel is the end of the range of its width: the least number, or the
greatest where storage is unsigned. All other widths are violations, and only they are. -/
theorem narrowedNull_integerNull_exact :
    (∀ bits : Int32,
      (∀ v, narrowedNull bits = .error v ↔ ¬ WholeBytes bits ∧ v = .fixedWidth bits) ∧
      (WholeBytes bits →
        ∃ (s : Nat) (null : Int64), s ≤ 56 ∧ (s : Int) = 64 - bits.toInt ∧
          null = Int64.minValue >>> Int64.ofNat s ∧ narrowedNull bits = .ok null ∧
          null.toInt = -2 ^ (bits.toInt.toNat - 1))) ∧
    ∀ (bits : UInt32) (signed : Bool),
      (∀ w, IntWidth.ofBits? bits signed = some w ↔ w.bits = bits ∧ w.signed = signed) ∧
      (∀ v, integerNull bits signed = .error v ↔
        IntWidth.ofBits? bits signed = none ∧ v = .integerWidth bits signed) ∧
      (∀ null, integerNull bits signed = .ok null →
        (signed = true → narrowedNull bits.toInt32 = .ok null ∧
          null.toInt = -2 ^ (bits.toNat - 1)) ∧
        (signed = false → null.toInt = 2 ^ bits.toNat - 1)) := by
  refine ⟨?_, ?_⟩
  · intro bits
    exact ⟨fun v => narrowedNull_eq_error_iff, exists_shift_narrowedNull⟩
  · intro bits signed
    refine ⟨fun w => IntWidth.ofBits?_eq_some_iff, fun v => integerNull_eq_error_iff, ?_⟩
    intro null hnull
    obtain ⟨w, hw, rfl⟩ := integerNull_eq_ok_iff.1 hnull
    obtain ⟨rfl, rfl⟩ := IntWidth.ofBits?_eq_some_iff.1 hw
    refine ⟨?_, IntWidth.toInt_null_of_unsigned⟩
    intro hsigned
    exact ⟨IntWidth.narrowedNull_bits hsigned, IntWidth.toInt_null_of_signed hsigned⟩

/-- Five bytes are computed only, four signed bytes are in the table as well. -/
theorem narrowedNull_integerNull_exact_five_four :
    WholeBytes 40 ∧
      (∃ (s : Nat) (null : Int64), (s : Int) = 24 ∧ null = Int64.minValue >>> Int64.ofNat s ∧
        narrowedNull 40 = .ok null ∧ null.toInt = -2 ^ 39) ∧
      IntWidth.ofBits? 40 true = none ∧
      integerNull 32 true = .ok (-2147483648) ∧ narrowedNull 32 = .ok (-2147483648) ∧
      ¬ WholeBytes 12 ∧ narrowedNull 12 = .error (.fixedWidth 12) := by
  obtain ⟨hnarrowed, htable⟩ := narrowedNull_integerNull_exact
  have hfive : WholeBytes 40 := by decide
  have htwelve : ¬ WholeBytes 12 := by decide
  obtain ⟨s, null, -, hs, hshift, hnull, hvalue⟩ := (hnarrowed 40).2 hfive
  have hfour : integerNull 32 true = .ok (-2147483648) := rfl
  obtain ⟨-, -, hresolved⟩ := htable 32 true
  exact ⟨hfive, ⟨s, null, hs, hshift, hnull, hvalue⟩, rfl, hfour, ((hresolved _ hfour).1 rfl).1,
    htwelve, ((hnarrowed 12).1 _).2 ⟨htwelve, rfl⟩⟩

end InbandNull
