import InbandNull.Bytes.Order
import Mathlib.Tactic.Ring

/-!
# Words and their bytes

`readLE` and `writeLE` are inverse on rows of at most eight bytes, the bytes of a word. Everything
is stated on the number of a word: reading a row of `w` bytes gives a number below `256 ^ w`, and
writing keeps a number up to multiples of `256 ^ w`. Past eight bytes neither holds, since a word
has no room for the ninth byte.
-/

namespace InbandNull

/-- Appending a low-order byte to a word whose highest byte is free. -/
theorem toNat_shiftLeft_or_toUInt64 (x : UInt64) (b : UInt8) (hx : x.toNat < 256 ^ 7) :
    (x <<< 8 ||| b.toUInt64).toNat = b.toNat + 256 * x.toNat := by
  have hb : b.toNat < 2 ^ 8 := b.toNat_lt
  have hshift : (x <<< 8).toNat = x.toNat <<< 8 := by
    rw [UInt64.toNat_shiftLeft, show (8 : UInt64).toNat % 64 = 8 from rfl]
    apply Nat.mod_eq_of_lt
    rw [Nat.shiftLeft_eq]
    omega
  rw [UInt64.toNat_or, hshift, UInt8.toNat_toUInt64, ← Nat.shiftLeft_add_eq_or_of_lt hb,
    Nat.shiftLeft_eq]
  omega

theorem toNat_readLE_lt {bs : List UInt8} (hlen : bs.length ≤ 8) :
    (readLE bs).toNat < 256 ^ bs.length := by
  induction bs with
  | nil => decide
  | cons b bs ih =>
      rw [List.length_cons] at hlen
      have hrest := ih (by omega)
      have hroom : 256 ^ bs.length ≤ 256 ^ 7 := Nat.pow_le_pow_right (by omega) (by omega)
      have hb : b.toNat < 256 := b.toNat_lt
      rw [readLE_cons, toNat_shiftLeft_or_toUInt64 _ _ (by omega), List.length_cons, pow_succ]
      omega

theorem toNat_readLE_cons (b : UInt8) {bs : List UInt8} (hlen : bs.length ≤ 7) :
    (readLE (b :: bs)).toNat = b.toNat + 256 * (readLE bs).toNat := by
  have hrest : (readLE bs).toNat < 256 ^ bs.length := toNat_readLE_lt (by omega)
  have hroom : 256 ^ bs.length ≤ 256 ^ 7 := Nat.pow_le_pow_right (by omega) (by omega)
  rw [readLE_cons, toNat_shiftLeft_or_toUInt64 _ _ (by omega)]

theorem toNat_shiftRight_eight (x : UInt64) : (x >>> 8).toNat = x.toNat / 256 := by
  rw [UInt64.toNat_shiftRight, show (8 : UInt64).toNat % 64 = 8 from rfl, Nat.shiftRight_eq_div_pow]

/-- Of a word that is written in `w` bytes, reading recovers what fits there. -/
theorem toNat_readLE_writeLE {w : Nat} (hw : w ≤ 8) (x : UInt64) :
    (readLE (writeLE w x)).toNat = x.toNat % 256 ^ w := by
  induction w generalizing x with
  | zero => simp [Nat.mod_one]
  | succ w ih =>
      have hlen : (writeLE w (x >>> 8)).length ≤ 7 := by
        rw [length_writeLE]
        omega
      rw [writeLE_succ, toNat_readLE_cons _ hlen, ih (by omega), toNat_shiftRight_eight,
        UInt64.toNat_toUInt8, pow_succ' 256 w, Nat.mod_mul]

theorem readLE_writeLE {w : Nat} (hw : w ≤ 8) {x : UInt64} (hx : x.toNat < 256 ^ w) :
    readLE (writeLE w x) = x := by
  apply UInt64.toNat_inj.1
  rw [toNat_readLE_writeLE hw, Nat.mod_eq_of_lt hx]

/-- The low-order bytes of a word come first. -/
theorem take_writeLE {v w : Nat} (h : v ≤ w) (x : UInt64) : (writeLE w x).take v = writeLE v x := by
  induction v generalizing w x with
  | zero => rfl
  | succ v ih =>
      obtain ⟨w, rfl⟩ := Nat.exists_eq_add_of_le' h
      rw [← Nat.add_assoc, writeLE_succ, List.take_succ_cons, ih (by omega), writeLE_succ]

theorem writeLE_congr {w : Nat} (hw : w ≤ 8) {x y : UInt64}
    (hxy : x.toNat % 256 ^ w = y.toNat % 256 ^ w) : writeLE w x = writeLE w y := by
  induction w generalizing x y with
  | zero => rfl
  | succ w ih =>
      have hx := Nat.mod_mul (x := x.toNat) (a := 256) (b := 256 ^ w)
      have hy := Nat.mod_mul (x := y.toNat) (a := 256) (b := 256 ^ w)
      rw [pow_succ', hx, hy] at hxy
      have hhead : x.toUInt8 = y.toUInt8 := by
        apply UInt8.toNat_inj.1
        rw [UInt64.toNat_toUInt8, UInt64.toNat_toUInt8]
        omega
      have htail : (x >>> 8).toNat % 256 ^ w = (y >>> 8).toNat % 256 ^ w := by
        rw [toNat_shiftRight_eight, toNat_shiftRight_eight]
        omega
      rw [writeLE_succ, writeLE_succ, hhead, ih (by omega) htail]

theorem writeLE_readLE {bs : List UInt8} (hlen : bs.length ≤ 8) :
    writeLE bs.length (readLE bs) = bs := by
  induction bs with
  | nil => rfl
  | cons b bs ih =>
      rw [List.length_cons] at hlen
      have hb : b.toNat < 256 := b.toNat_lt
      have hread : (readLE (b :: bs)).toNat = b.toNat + 256 * (readLE bs).toNat :=
        toNat_readLE_cons b (by omega)
      have hhead : (readLE (b :: bs)).toUInt8 = b := by
        apply UInt8.toNat_inj.1
        rw [UInt64.toNat_toUInt8, hread]
        omega
      have htail : readLE (b :: bs) >>> 8 = readLE bs := by
        apply UInt64.toNat_inj.1
        rw [toNat_shiftRight_eight, hread]
        omega
      rw [List.length_cons, writeLE_succ, hhead, htail, ih (by omega)]

theorem readLE_eq_iff {row : List UInt8} (hlen : row.length ≤ 8) {x : UInt64}
    (hx : x.toNat < 256 ^ row.length) : readLE row = x ↔ row = writeLE row.length x := by
  constructor
  · intro h
    rw [← h, writeLE_readLE hlen]
  · intro h
    rw [h]
    exact readLE_writeLE hlen hx

theorem readLE_inj {row row' : List UInt8} (hlen : row.length ≤ 8)
    (heq : row'.length = row.length) : readLE row = readLE row' ↔ row = row' := by
  constructor
  · intro h
    rw [← writeLE_readLE hlen, h, ← heq, writeLE_readLE (heq ▸ hlen)]
  · intro h
    rw [h]

end InbandNull
