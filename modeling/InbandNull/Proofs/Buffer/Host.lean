import InbandNull.Proofs.Buffer.Scan

/-!
# Machines of either byte order

A scan in place loads every row as a word of the machine, whichever byte that machine keeps first,
and compares it with one needle. The main statement is that this finds the rows that a bytewise scan
finds, on every machine and for every pattern that fits a word. It also says what is compared: the
number with the bytes of the row at their places, and the pattern with its bytes moved likewise.
-/

namespace InbandNull

theorem width_le_eight_of_isWordWidth {w : Nat} (h : isWordWidth w = true) : 1 ≤ w ∧ w ≤ 8 := by
  have hword : w = 1 ∨ w = 2 ∨ w = 4 ∨ w = 8 := of_decide_eq_true h
  omega

theorem two_pow_eight_mul (w : Nat) : 2 ^ (8 * w) = 256 ^ w := pow_mul 2 8 w

namespace Buffer

variable {w n : Nat} {pattern : UInt64} {bytes : List UInt8}

/-- The rows that are marked hold the bytes of the pattern, least significant first. -/
theorem maskBytewise_eq_map {b : Buffer} (hw : w ≤ 8) (hpattern : pattern.toNat < 256 ^ w) :
    b.maskBytewise w pattern = (b.rows w).map fun row => row == writeLE w pattern := by
  unfold maskBytewise
  apply List.map_congr_left
  intro row mem
  have hrow := length_of_mem_rows mem
  rw [Bool.eq_iff_iff, beq_iff_eq, beq_iff_eq, readLE_eq_iff (hrow ▸ hw) (hrow ▸ hpattern), hrow]

/-- On a machine of either byte order, words loaded natively equal the needle exactly in the rows
that are the pattern, bytewise. Loading and the needle are what the machine makes of the bytes: both
have each byte where that machine keeps it. -/
theorem maskInPlace_eq_maskBytewise (hw : isWordWidth w = true)
    (hpattern : pattern.toNat < 2 ^ (8 * w)) (hbytes : bytes.length = n * w) (host : ByteOrder)
    (offset : Nat) :
    maskInPlace ⟨bytes, offset, host⟩ w pattern = maskBytewise ⟨bytes, offset, host⟩ w pattern ∧
    maskBytewise ⟨bytes, offset, host⟩ w pattern =
      (InbandNull.rows w n bytes).map (fun row => row == writeLE w pattern) ∧
    (∀ row ∈ InbandNull.rows w n bytes, (host.load row).toNat < 2 ^ (8 * w) ∧
      ∀ i < w, row[host.place w i]? = some (byteAt (host.load row) i)) ∧
    (host.needle w (truncateToWidth pattern w)).toNat < 2 ^ (8 * w) ∧
    ∀ i < w, byteAt (host.needle w (truncateToWidth pattern w)) i =
      byteAt pattern (host.place w i) := by
  obtain ⟨hpos, hle⟩ := width_le_eight_of_isWordWidth hw
  rw [two_pow_eight_mul] at hpattern ⊢
  have hrows : (⟨bytes, offset, host⟩ : Buffer).rows w = InbandNull.rows w n bytes := by
    rw [rows, hbytes, Nat.mul_div_cancel _ hpos]
  rw [truncateToWidth_of_lt hle hpattern]
  refine ⟨maskInPlace_eq_of_lt hle hpattern, ?_, ?_, host.toNat_needle_lt hle hpattern, ?_⟩
  · rw [maskBytewise_eq_map hle hpattern, hrows]
  · intro row mem
    have hrow : row.length = w := InbandNull.length_of_mem_rows hbytes.ge mem
    subst hrow
    exact ⟨host.toNat_load_lt hle, fun i hi => host.getElem?_place hle hi⟩
  · intro i hi
    exact host.byteAt_needle hle hpattern hi

/-- Two bytes a row, the first of them the pattern, on a machine that keeps the most significant
byte first. -/
theorem maskInPlace_eq_maskBytewise_big :
    isWordWidth 2 = true ∧ (0x8000 : UInt64).toNat < 2 ^ (8 * 2) ∧
      ([0x00, 0x80, 0x80, 0x00] : List UInt8).length = 2 * 2 ∧
      maskInPlace ⟨[0x00, 0x80, 0x80, 0x00], 0, .big⟩ 2 0x8000 = [true, false] ∧
      byteAt (ByteOrder.big.needle 2 (truncateToWidth 0x8000 2)) 0 = 0x80 := by
  have hw : isWordWidth 2 = true := rfl
  have hpattern : (0x8000 : UInt64).toNat < 2 ^ (8 * 2) := by decide
  have hbytes : ([0x00, 0x80, 0x80, 0x00] : List UInt8).length = 2 * 2 := rfl
  obtain ⟨hmask, hrows, -, -, hneedle⟩ := maskInPlace_eq_maskBytewise hw hpattern hbytes .big 0
  refine ⟨hw, hpattern, hbytes, ?_, ?_⟩
  · rw [hmask, hrows]
    rfl
  · rw [hneedle 0 (by decide)]
    rfl

end Buffer

end InbandNull
