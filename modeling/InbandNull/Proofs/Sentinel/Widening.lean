import InbandNull.Sentinel.Float
import Mathlib.Tactic.Positivity
import Mathlib.Tactic.Ring

/-!
# Widening is exact

The number of a pattern is told by its sign and its `magnitude?`, the multiple of the least positive
number of the precision; an infinity and a NaN have none. `Binary32.IsWidening` says of a function
on patterns that it keeps both, up to the ratio `2 ^ 925` of the two least positive numbers, and that
it keeps infinities and NaNs apart from numbers and from each other. Which NaN it gives is left open.

`Binary32.widen` is such a function. All of them agree off the NaNs, and none reaches the widened
sentinel from any pattern but the sentinel's: this needs only that a number has one pattern.
-/

namespace InbandNull

/-- The magnitude of a number with the given fields, in units of the least positive number. The
fraction has `p` values, and `top` is the exponent of the infinities and NaNs. -/
def magnitude? (p top exponent fraction : Nat) : Option Nat :=
  if exponent = top then none
  else if exponent = 0 then some fraction
  else some ((p + fraction) * 2 ^ (exponent - 1))

theorem magnitude?_of_eq_zero {p top fraction : Nat} (htop : top ≠ 0) :
    magnitude? p top 0 fraction = some fraction := by
  rw [magnitude?, if_neg htop.symm, if_pos rfl]

theorem magnitude?_of_ne_zero {p top exponent fraction : Nat} (htop : exponent ≠ top)
    (hzero : exponent ≠ 0) :
    magnitude? p top exponent fraction = some ((p + fraction) * 2 ^ (exponent - 1)) := by
  rw [magnitude?, if_neg htop, if_neg hzero]

/-- The significand of a normal number is at least `p`, so its exponent can be read off. -/
theorem significand_inj {p f g a b : Nat} (hf : f < p) (hg : g < p)
    (h : (p + f) * 2 ^ a = (p + g) * 2 ^ b) : a = b ∧ f = g := by
  have hlt : ∀ {f g a b : Nat}, f < p → (p + f) * 2 ^ a = (p + g) * 2 ^ b → ¬ a < b := by
    intro f g a b hf h hab
    obtain ⟨c, rfl⟩ := Nat.exists_eq_add_of_lt hab
    have hcancel : p + f = (p + g) * 2 ^ (c + 1) := by
      apply Nat.eq_of_mul_eq_mul_right (Nat.two_pow_pos a)
      rw [h, Nat.mul_assoc, ← pow_add]
      congr 2
      omega
    have hdouble : p * 2 ≤ (p + g) * 2 ^ (c + 1) :=
      Nat.mul_le_mul (Nat.le_add_right p g) (Nat.le_self_pow (Nat.succ_ne_zero c) 2)
    omega
  have heq : a = b := Nat.le_antisymm (Nat.not_lt.1 (hlt hg h.symm)) (Nat.not_lt.1 (hlt hf h))
  subst heq
  have hcancel := Nat.eq_of_mul_eq_mul_right (Nat.two_pow_pos a) h
  exact ⟨rfl, by omega⟩

theorem magnitude?_inj {p top e f e' f' m : Nat} (hf : f < p) (hf' : f' < p)
    (h : magnitude? p top e f = some m) (h' : magnitude? p top e' f' = some m) :
    e = e' ∧ f = f' := by
  have hnormal : ∀ {f g a : Nat}, f < p → f ≠ (p + g) * 2 ^ a := by
    intro f g a hf heq
    have hle : p + g ≤ (p + g) * 2 ^ a := Nat.le_mul_of_pos_right _ (Nat.two_pow_pos a)
    omega
  unfold magnitude? at h h'
  split_ifs at h h' with htop hzero htop' hzero' htop' hzero'
  · exact ⟨hzero.trans hzero'.symm, Option.some.inj (h.trans h'.symm)⟩
  · exact absurd (Option.some.inj (h.trans h'.symm)) (hnormal hf)
  · exact absurd (Option.some.inj (h'.trans h.symm)) (hnormal hf')
  · obtain ⟨hexponent, hfraction⟩ := significand_inj hf hf' (Option.some.inj (h.trans h'.symm))
    exact ⟨by omega, hfraction⟩

namespace Binary64

def sign (x : UInt64) : Nat := x.toNat / 0x8000000000000000

def exponent (x : UInt64) : Nat := x.toNat / 0x10000000000000 % 0x800

def fraction (x : UInt64) : Nat := x.toNat % 0x10000000000000

/-- The magnitude of a number, and none for an infinity or a NaN. -/
def magnitude (x : UInt64) : Option Nat :=
  magnitude? 0x10000000000000 0x7FF (exponent x) (fraction x)

theorem isNaN_iff {x : UInt64} : isNaN x = true ↔ exponent x = 0x7FF ∧ fraction x ≠ 0 := by
  simp [isNaN, exponent, fraction]

theorem eq_of_fields {x y : UInt64} (hsign : sign x = sign y) (hexponent : exponent x = exponent y)
    (hfraction : fraction x = fraction y) : x = y := by
  apply UInt64.toNat_inj.1
  unfold sign at hsign
  unfold exponent at hexponent
  unfold fraction at hfraction
  omega

theorem fraction_lt (x : UInt64) : fraction x < 0x10000000000000 := Nat.mod_lt _ (by decide)

theorem eq_of_magnitude {x y : UInt64} {m : Nat} (hsign : sign x = sign y)
    (hx : magnitude x = some m) (hy : magnitude y = some m) : x = y := by
  obtain ⟨hexponent, hfraction⟩ := magnitude?_inj (fraction_lt x) (fraction_lt y) hx hy
  exact eq_of_fields hsign hexponent hfraction

theorem fields_assemble {s e f : Nat} (hs : s < 2) (he : e < 0x800) (hf : f < 0x10000000000000) :
    sign (assemble s e f) = s ∧ exponent (assemble s e f) = e ∧
      fraction (assemble s e f) = f := by
  have hword : (assemble s e f).toNat = s * 0x8000000000000000 + e * 0x10000000000000 + f := by
    apply UInt64.toNat_ofNat_of_lt'
    change _ < 2 ^ 64
    omega
  unfold sign exponent fraction
  rw [hword]
  omega

end Binary64

namespace Binary32

def magnitude (x : UInt32) : Option Nat := magnitude? 0x800000 0xFF (exponent x) (fraction x)

def isNaN (x : UInt32) : Bool := exponent x == 0xFF && fraction x != 0

theorem isNaN_iff {x : UInt32} : isNaN x = true ↔ exponent x = 0xFF ∧ fraction x ≠ 0 := by
  simp [isNaN]

theorem sign_lt (x : UInt32) : sign x < 2 := by
  have hx : x.toNat < 2 ^ 32 := x.toNat_lt
  unfold sign
  omega

theorem exponent_lt (x : UInt32) : exponent x < 0x100 := Nat.mod_lt _ (by decide)

theorem fraction_lt (x : UInt32) : fraction x < 0x800000 := Nat.mod_lt _ (by decide)

theorem eq_of_fields {x y : UInt32} (hsign : sign x = sign y) (hexponent : exponent x = exponent y)
    (hfraction : fraction x = fraction y) : x = y := by
  apply UInt32.toNat_inj.1
  unfold sign at hsign
  unfold exponent at hexponent
  unfold fraction at hfraction
  omega

theorem eq_of_magnitude {x y : UInt32} {m : Nat} (hsign : sign x = sign y)
    (hx : magnitude x = some m) (hy : magnitude y = some m) : x = y := by
  obtain ⟨hexponent, hfraction⟩ := magnitude?_inj (fraction_lt x) (fraction_lt y) hx hy
  exact eq_of_fields hsign hexponent hfraction

theorem isNaN_of_magnitude {x : UInt32} {m : Nat} (hx : magnitude x = some m) :
    isNaN x = false := by
  rw [Bool.eq_false_iff, ne_eq, isNaN_iff]
  rintro ⟨htop, -⟩
  rw [magnitude, htop] at hx
  cases hx

/-- What a step from 32 to 64 bits keeps. -/
structure IsWidening (f : UInt32 → UInt64) : Prop where
  isNaN_eq : ∀ x, Binary64.isNaN (f x) = isNaN x
  sign_eq : ∀ x, isNaN x = false → Binary64.sign (f x) = sign x
  /-- The least positive numbers of the two precisions are `2 ^ -149` and `2 ^ -1074`. -/
  magnitude_eq : ∀ x, isNaN x = false → Binary64.magnitude (f x) = (magnitude x).map (· * 2 ^ 925)

/-- What the exponent and the fraction of a widened pattern have to be. -/
structure IsWidened (x : UInt32) (e f : Nat) : Prop where
  exponent_lt : e < 0x800
  fraction_lt : f < 0x10000000000000
  isNaN_iff : e = 0x7FF ∧ f ≠ 0 ↔ exponent x = 0xFF ∧ fraction x ≠ 0
  magnitude_eq : ¬ (exponent x = 0xFF ∧ fraction x ≠ 0) →
    magnitude? 0x10000000000000 0x7FF e f = (magnitude x).map (· * 2 ^ 925)

theorem isWidened_infinity {x : UInt32} (htop : exponent x = 0xFF) (hzero : fraction x = 0) :
    IsWidened x 0x7FF 0 where
  exponent_lt := by decide
  fraction_lt := by decide
  isNaN_iff := by omega
  magnitude_eq := by
    intro _
    rw [magnitude, htop]
    rfl

theorem isWidened_nan {x : UInt32} (htop : exponent x = 0xFF) (hnan : fraction x ≠ 0) :
    IsWidened x 0x7FF (0x8000000000000 + fraction x % 0x400000 * 0x20000000) where
  exponent_lt := by decide
  fraction_lt := by omega
  isNaN_iff := by omega
  magnitude_eq := fun h => absurd ⟨htop, hnan⟩ h

theorem isWidened_zero {x : UInt32} (hexponent : exponent x = 0) (hzero : fraction x = 0) :
    IsWidened x 0 0 where
  exponent_lt := by decide
  fraction_lt := by decide
  isNaN_iff := by omega
  magnitude_eq := by
    intro _
    rw [magnitude, hexponent, hzero]
    exact congrArg some (Nat.zero_mul _).symm

/-- The leading one of a subnormal number leaves the fraction, which moves up to close the gap. -/
theorem isWidened_subnormal {x : UInt32} (hexponent : exponent x = 0) (hzero : fraction x ≠ 0) :
    IsWidened x ((fraction x).log2 + 874)
      ((fraction x - 1 <<< (fraction x).log2) <<< (52 - (fraction x).log2)) := by
  have hfraction := fraction_lt x
  have hk : (fraction x).log2 < 23 := (Nat.log2_lt hzero).2 hfraction
  have hlow : 2 ^ (fraction x).log2 ≤ fraction x := Nat.log2_self_le hzero
  have hhigh : fraction x < 2 ^ (fraction x).log2 * 2 := by
    rw [← pow_succ]
    exact Nat.lt_log2_self
  generalize (fraction x).log2 = k at hk hlow hhigh ⊢
  have hsplit : 2 ^ k * 2 ^ (52 - k) = 0x10000000000000 := by
    rw [← pow_add, Nat.add_sub_cancel' (by omega)]
    rfl
  have hshift : (fraction x - 1 <<< k) <<< (52 - k) = (fraction x - 2 ^ k) * 2 ^ (52 - k) := by
    rw [Nat.shiftLeft_eq, Nat.shiftLeft_eq, Nat.one_mul]
  have hplaces : 52 - k + (k + 874 - 1) = 925 := by omega
  rw [hshift]
  constructor
  · omega
  · rw [← hsplit]
    exact Nat.mul_lt_mul_of_pos_right (by omega) (Nat.two_pow_pos _)
  · omega
  · intro _
    rw [magnitude, hexponent, magnitude?_of_ne_zero (by omega) (by omega),
      magnitude?_of_eq_zero (by decide), ← hsplit, ← Nat.add_mul, Nat.add_sub_cancel' hlow,
      Nat.mul_assoc, ← pow_add, hplaces]
    rfl

/-- The fraction of a normal number moves up, and the difference of the biases is 896. -/
theorem isWidened_normal {x : UInt32} (htop : exponent x ≠ 0xFF) (hzero : exponent x ≠ 0) :
    IsWidened x (exponent x + 896) (fraction x * 0x20000000) := by
  have hexponent := exponent_lt x
  have hfraction := fraction_lt x
  have hsplit : 0x10000000000000 + fraction x * 0x20000000 = (0x800000 + fraction x) * 2 ^ 29 := by
    ring
  have hplaces : 29 + (exponent x + 896 - 1) = exponent x - 1 + 925 := by omega
  constructor
  · omega
  · omega
  · omega
  · intro _
    rw [magnitude, magnitude?_of_ne_zero (by omega) (by omega), magnitude?_of_ne_zero htop hzero,
      hsplit, Nat.mul_assoc, ← pow_add, hplaces, pow_add, ← Nat.mul_assoc]
    rfl

theorem exists_isWidened (x : UInt32) :
    ∃ e f, widen x = Binary64.assemble (sign x) e f ∧ IsWidened x e f := by
  unfold widen
  by_cases htop : exponent x = 0xFF
  · by_cases hzero : fraction x = 0
    · rw [if_pos htop, if_pos hzero]
      exact ⟨_, _, rfl, isWidened_infinity htop hzero⟩
    · rw [if_pos htop, if_neg hzero]
      exact ⟨_, _, rfl, isWidened_nan htop hzero⟩
  · by_cases hexponent : exponent x = 0
    · by_cases hzero : fraction x = 0
      · rw [if_neg htop, if_pos hexponent, if_pos hzero]
        exact ⟨_, _, rfl, isWidened_zero hexponent hzero⟩
      · rw [if_neg htop, if_pos hexponent, if_neg hzero]
        exact ⟨_, _, rfl, isWidened_subnormal hexponent hzero⟩
    · rw [if_neg htop, if_neg hexponent]
      exact ⟨_, _, rfl, isWidened_normal htop hexponent⟩

theorem isWidening_widen : IsWidening widen := by
  constructor
  · intro x
    obtain ⟨e, f, heq, hwide⟩ := exists_isWidened x
    obtain ⟨-, hexponent, hfraction⟩ :=
      Binary64.fields_assemble (sign_lt x) hwide.exponent_lt hwide.fraction_lt
    rw [Bool.eq_iff_iff, Binary64.isNaN_iff, isNaN_iff, heq, hexponent, hfraction]
    exact hwide.isNaN_iff
  · intro x _
    obtain ⟨e, f, heq, hwide⟩ := exists_isWidened x
    rw [heq]
    exact (Binary64.fields_assemble (sign_lt x) hwide.exponent_lt hwide.fraction_lt).1
  · intro x hx
    obtain ⟨e, f, heq, hwide⟩ := exists_isWidened x
    obtain ⟨-, hexponent, hfraction⟩ :=
      Binary64.fields_assemble (sign_lt x) hwide.exponent_lt hwide.fraction_lt
    rw [heq, Binary64.magnitude, hexponent, hfraction]
    apply hwide.magnitude_eq
    rw [← isNaN_iff, hx]
    exact Bool.false_ne_true

variable {f g : UInt32 → UInt64}

/-- Widened in whatever way, a pattern meets a widened number only if it is that number. -/
theorem IsWidening.eq_iff (hf : IsWidening f) (hg : IsWidening g) {x y : UInt32} {m : Nat}
    (hy : magnitude y = some m) : f x = g y ↔ x = y := by
  have hnan := isNaN_of_magnitude hy
  constructor
  · intro h
    have hxnan : isNaN x = false := by
      rw [← hf.isNaN_eq, h, hg.isNaN_eq, hnan]
    have hsign : sign x = sign y := by
      rw [← hf.sign_eq x hxnan, h, hg.sign_eq y hnan]
    have hscaled : (magnitude x).map (· * 2 ^ 925) = (magnitude y).map (· * 2 ^ 925) := by
      rw [← hf.magnitude_eq x hxnan, h, hg.magnitude_eq y hnan]
    have hx : magnitude x = some m := by
      have hpos : 0 < 2 ^ 925 := by positivity
      rw [← hy]
      refine Option.map_injective ?_ hscaled
      exact fun _ _ h => Nat.eq_of_mul_eq_mul_right hpos h
    exact eq_of_magnitude hsign hx hy
  · rintro rfl
    have hsign : Binary64.sign (f x) = Binary64.sign (g x) := by
      rw [hf.sign_eq x hnan, hg.sign_eq x hnan]
    have hfx := hf.magnitude_eq x hnan
    have hgx := hg.magnitude_eq x hnan
    rw [hy] at hfx hgx
    exact Binary64.eq_of_magnitude hsign hfx hgx

theorem magnitude_nullFloat : magnitude nullFloat = some 0x800000 := by
  decide

/-- No pattern but the sentinel's is widened to its widened pattern. -/
theorem IsWidening.eq_null_iff (hf : IsWidening f) {x : UInt32} :
    f x = FloatKind.single.null ↔ x = nullFloat := by
  rw [FloatKind.null]
  exact hf.eq_iff isWidening_widen magnitude_nullFloat

end Binary32

end InbandNull
