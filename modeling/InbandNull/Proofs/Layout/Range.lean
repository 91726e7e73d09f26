import InbandNull.Buffer.Decode
import InbandNull.Proofs.Bytes.Native
import InbandNull.Proofs.Layout.WellFormed
import Mathlib.Tactic.Positivity

/-!
# The integers of a layout

A row of `w` bytes stands for a number up to multiples of `256 ^ w`, and the signedness of the
layout picks one integer of each residue. `IntLayout.InRange` is the set of those picked and
`IntLayout.wrap` the picking; decoding is `wrap` of the word that is read. Whether two rows, a row
and an integer, or an integer and the sentinel agree is then a question about residues, with no
case for the width or the signedness.
-/

namespace InbandNull

theorem toInt_toInt64 (x : UInt64) : x.toInt64.toInt = (x.toNat : Int).bmod (2 ^ 64) :=
  BitVec.toInt_eq_toNat_bmod x.toBitVec

theorem toNat_toUInt64_emod (n : Int64) {w : Nat} (hw : w ≤ 8) :
    (n.toUInt64.toNat : Int) % (256 ^ w : Nat) = n.toInt % (256 ^ w : Nat) := by
  have hdvd : (256 ^ w : Nat) ∣ 2 ^ 64 := pow_dvd_pow 256 hw
  have hword : n.toInt = (n.toUInt64.toNat : Int).bmod (2 ^ 64) := toInt_toInt64 n.toUInt64
  rw [hword, ← Int.emod_emod_of_dvd (Int.bmod _ _) (Int.natCast_dvd_natCast.2 hdvd), Int.bmod_emod,
    Int.emod_emod_of_dvd _ (Int.natCast_dvd_natCast.2 hdvd)]

/-- Moving a word of `w` bytes to the top of 64 bits and back extends its sign. -/
theorem toInt_signExtend {x : UInt64} {w : Nat} (hpos : 1 ≤ w) (hw : w ≤ 8)
    (hx : x.toNat < 256 ^ w) :
    ((x <<< UInt64.ofNat (64 - 8 * w)).toInt64 >>> Int64.ofNat (64 - 8 * w)).toInt =
      (x.toNat : Int).bmod (256 ^ w) := by
  have hamount : (UInt64.ofNat (64 - 8 * w)).toNat % 64 = 64 - 8 * w := by
    rw [UInt64.toNat_ofNat_of_lt' (by change _ < 2 ^ 64; omega)]
    omega
  have hsplit : 2 ^ 64 = 2 ^ (64 - 8 * w) * 256 ^ w := by
    rw [show 256 = 2 ^ 8 from rfl, ← pow_mul, ← pow_add]
    congr 1
    omega
  have hshift : (x <<< UInt64.ofNat (64 - 8 * w)).toNat = 2 ^ (64 - 8 * w) * x.toNat := by
    rw [UInt64.toNat_shiftLeft, hamount, Nat.shiftLeft_eq, mul_comm, hsplit]
    exact Nat.mod_eq_of_lt (Nat.mul_lt_mul_of_pos_left hx (by positivity))
  have heven : 2 ∣ 256 ^ w := dvd_pow (by decide) (by omega)
  rw [toInt_shiftRight_ofNat _ (by omega), toInt_toInt64, hshift, hsplit, Nat.cast_mul,
    Int.mod_bmod_mul_of_pos _ _ (by positivity) heven, Nat.cast_pow, Nat.cast_ofNat]
  exact Int.mul_ediv_cancel_left _ (by positivity)

namespace IntLayout

/-- The integers that a row of the layout can stand for. -/
def InRange (layout : IntLayout) (n : Int) : Prop :=
  if layout.signed then -2 ^ (8 * layout.width - 1) ≤ n ∧ n < 2 ^ (8 * layout.width - 1)
  else 0 ≤ n ∧ n < 2 ^ (8 * layout.width)

instance (layout : IntLayout) (n : Int) : Decidable (layout.InRange n) :=
  inferInstanceAs (Decidable (if layout.signed then _ ∧ _ else _ ∧ _))

/-- The integer of the layout that differs from `n` by a multiple of `256 ^ width`. -/
def wrap (layout : IntLayout) (n : Int) : Int :=
  if layout.signed then n.bmod (256 ^ layout.width) else n % (256 ^ layout.width : Nat)

variable {layout : IntLayout}

theorem wrap_emod (n : Int) :
    layout.wrap n % (256 ^ layout.width : Nat) = n % (256 ^ layout.width : Nat) := by
  unfold wrap
  split
  · exact Int.bmod_emod
  · exact Int.emod_emod _ _

theorem wrap_congr {m n : Int}
    (h : m % (256 ^ layout.width : Nat) = n % (256 ^ layout.width : Nat)) :
    layout.wrap m = layout.wrap n := by
  unfold wrap
  split
  · rw [← Int.emod_bmod m, h, Int.emod_bmod]
  · exact h

/-- The residues of a row, halved: what the bounds of a signed layout are. -/
theorem pow_width (hpos : 1 ≤ layout.width) :
    256 ^ layout.width = 2 * 2 ^ (8 * layout.width - 1) := by
  rw [← pow_succ', show 256 = 2 ^ 8 from rfl, ← pow_mul]
  congr 1
  omega

theorem inRange_wrap (hpos : 1 ≤ layout.width) (n : Int) : layout.InRange (layout.wrap n) := by
  have hmod : 0 < 256 ^ layout.width := by positivity
  unfold InRange wrap
  split
  · have hlower := Int.le_bmod (x := n) hmod
    have hupper := Int.bmod_lt (x := n) hmod
    rw [pow_width hpos] at hlower hupper ⊢
    push_cast at hlower hupper
    constructor
    · omega
    · omega
  · constructor
    · exact Int.emod_nonneg _ (by positivity)
    · have hlt := Int.emod_lt_of_pos n (Int.natCast_pos.2 hmod)
      rw [pow_mul]
      push_cast at hlt ⊢
      exact hlt

theorem wrap_of_inRange (hpos : 1 ≤ layout.width) {n : Int} (hn : layout.InRange n) :
    layout.wrap n = n := by
  unfold InRange at hn
  unfold wrap
  split at hn
  · rw [if_pos ‹_›, pow_width hpos]
    apply Int.bmod_eq_of_le
    · push_cast
      omega
    · push_cast
      omega
  · rw [if_neg ‹_›]
    apply Int.emod_eq_of_lt hn.1
    rw [pow_mul] at hn
    push_cast
    exact hn.2

theorem wrap_eq_iff (hpos : 1 ≤ layout.width) {m n : Int} (hn : layout.InRange n) :
    layout.wrap m = n ↔ m % (256 ^ layout.width : Nat) = n % (256 ^ layout.width : Nat) := by
  constructor
  · intro h
    rw [← h, wrap_emod]
  · intro h
    rw [wrap_congr h, wrap_of_inRange hpos hn]

end IntLayout

end InbandNull
