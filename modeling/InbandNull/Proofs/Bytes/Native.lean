import InbandNull.Layout.Value
import InbandNull.Proofs.Bytes.Words

/-!
# Comparing native words

A machine that keeps the most significant byte first loads every word of a column reversed. The
pattern to look for is then reversed once instead, which finds the same rows as long as the pattern
fits the width of a row. `byteAt` is a byte of the number that a word stands for and
`ByteOrder.place` where a machine keeps that byte in memory: loading reads each byte from its place,
and the needle is the pattern with its bytes moved to their places.
-/

namespace InbandNull

theorem toNat_truncateToWidth (x : UInt64) {w : Nat} (hw : w ≤ 8) :
    (truncateToWidth x w).toNat = x.toNat % 256 ^ w := by
  by_cases hfull : 8 ≤ w
  · have height : w = 8 := by omega
    subst height
    have hx : x.toNat < 256 ^ 8 := x.toNat_lt
    rw [truncateToWidth, if_pos hfull, Nat.mod_eq_of_lt hx]
  · have hones : ∀ v < 8,
        (((1 : UInt64) <<< (UInt64.ofNat v * 8)) - 1).toNat = 2 ^ (8 * v) - 1 := by decide
    rw [truncateToWidth, if_neg hfull, UInt64.toNat_and, hones w (by omega),
      Nat.and_two_pow_sub_one_eq_mod, pow_mul, show (2 : Nat) ^ 8 = 256 from rfl]

theorem toNat_truncateToWidth_lt (x : UInt64) {w : Nat} (hw : w ≤ 8) :
    (truncateToWidth x w).toNat < 256 ^ w := by
  rw [toNat_truncateToWidth x hw]
  exact Nat.mod_lt _ (Nat.pow_pos (by decide))

theorem truncateToWidth_of_lt {x : UInt64} {w : Nat} (hw : w ≤ 8) (hx : x.toNat < 256 ^ w) :
    truncateToWidth x w = x := by
  apply UInt64.toNat_inj.1
  rw [toNat_truncateToWidth x hw, Nat.mod_eq_of_lt hx]

/-- The byte of a word with `i` bytes below it in significance. -/
def byteAt (x : UInt64) (i : Nat) : UInt8 := .ofNat (x.toNat / 256 ^ i)

theorem byteAt_zero (x : UInt64) : byteAt x 0 = x.toUInt8 := by
  rw [byteAt, pow_zero, Nat.div_one]
  rfl

theorem byteAt_shiftRight_eight (x : UInt64) (i : Nat) : byteAt (x >>> 8) i = byteAt x (i + 1) := by
  rw [byteAt, byteAt, toNat_shiftRight_eight, Nat.div_div_eq_div_mul, pow_succ']

theorem getElem?_writeLE {w i : Nat} (hi : i < w) (x : UInt64) :
    (writeLE w x)[i]? = some (byteAt x i) := by
  induction w generalizing i x with
  | zero => exact absurd hi (Nat.not_lt_zero i)
  | succ w ih =>
      cases i with
      | zero => rw [writeLE_succ, List.getElem?_cons_zero, byteAt_zero]
      | succ i =>
          rw [writeLE_succ, List.getElem?_cons_succ, ih (by omega), byteAt_shiftRight_eight]

theorem getElem?_eq_byteAt_readLE {row : List UInt8} (hlen : row.length ≤ 8) {i : Nat}
    (hi : i < row.length) : row[i]? = some (byteAt (readLE row) i) := by
  have hbyte := getElem?_writeLE hi (readLE row)
  rwa [writeLE_readLE hlen] at hbyte

namespace ByteOrder

/-- Where in memory, of `w` bytes, the byte lies that has `i` bytes below it in significance. -/
def place : ByteOrder → Nat → Nat → Nat
  | .little, _, i => i
  | .big, w, i => w - 1 - i

theorem place_lt (host : ByteOrder) {w i : Nat} (hi : i < w) : host.place w i < w := by
  cases host with
  | little => exact hi
  | big =>
      change w - 1 - i < w
      omega

theorem toNat_load_lt (host : ByteOrder) {row : List UInt8} (hlen : row.length ≤ 8) :
    (host.load row).toNat < 256 ^ row.length := by
  cases host with
  | little => exact toNat_readLE_lt hlen
  | big =>
      rw [← List.length_reverse]
      exact toNat_readLE_lt (by rwa [List.length_reverse])

/-- A word is loaded byte by byte, each from its place. -/
theorem getElem?_place (host : ByteOrder) {row : List UInt8} (hlen : row.length ≤ 8) {i : Nat}
    (hi : i < row.length) : row[host.place row.length i]? = some (byteAt (host.load row) i) := by
  cases host with
  | little => exact getElem?_eq_byteAt_readLE hlen hi
  | big =>
      have hbyte : row.reverse[i]? = some (byteAt (readLE row.reverse) i) :=
        getElem?_eq_byteAt_readLE (by rwa [List.length_reverse]) (by rwa [List.length_reverse])
      rwa [List.getElem?_reverse hi] at hbyte

theorem needle_eq_load (host : ByteOrder) {w : Nat} (hw : w ≤ 8) {x : UInt64}
    (hx : x.toNat < 256 ^ w) : host.needle w x = host.load (writeLE w x) := by
  cases host with
  | little => exact (readLE_writeLE hw hx).symm
  | big => rfl

theorem toNat_needle_lt (host : ByteOrder) {w : Nat} (hw : w ≤ 8) {x : UInt64}
    (hx : x.toNat < 256 ^ w) : (host.needle w x).toNat < 256 ^ w := by
  have hlen : (writeLE w x).length = w := length_writeLE w x
  have hload := host.toNat_load_lt (hlen.symm ▸ hw)
  rwa [hlen, ← needle_eq_load host hw hx] at hload

theorem load_inj (host : ByteOrder) {row row' : List UInt8} (hlen : row.length ≤ 8)
    (heq : row'.length = row.length) : host.load row = host.load row' ↔ row = row' := by
  cases host with
  | little => exact readLE_inj hlen heq
  | big =>
      change readLE row.reverse = readLE row'.reverse ↔ _
      rw [readLE_inj (by rwa [List.length_reverse]) (by simpa using heq), List.reverse_inj]

/-- Loading natively and looking for the needle finds the rows that hold the pattern. -/
theorem load_eq_needle_iff (host : ByteOrder) {row : List UInt8} (hlen : row.length ≤ 8)
    {x : UInt64} (hx : x.toNat < 256 ^ row.length) :
    host.load row = host.needle row.length x ↔ readLE row = x := by
  rw [needle_eq_load host hlen hx, load_inj host hlen (length_writeLE _ _), readLE_eq_iff hlen hx]

/-- The needle is the pattern on a machine that keeps the least significant byte first, and the
pattern in reverse on one that keeps it last. -/
theorem byteAt_needle (host : ByteOrder) {w : Nat} (hw : w ≤ 8) {x : UInt64}
    (hx : x.toNat < 256 ^ w) {i : Nat} (hi : i < w) :
    byteAt (host.needle w x) i = byteAt x (host.place w i) := by
  have hlen : (writeLE w x).length = w := length_writeLE w x
  have hload := host.getElem?_place (hlen.symm ▸ hw) (hlen.symm ▸ hi)
  rw [hlen, getElem?_writeLE (host.place_lt hi), ← needle_eq_load host hw hx] at hload
  exact (Option.some.inj hload).symm

end ByteOrder

end InbandNull
