/-!
# The shortest decimal of a floating-point number

A positive binary number stands for all reals that round to it: those between the midpoints to its
two neighbours, midpoints included when its significand is even. `Binary.shortest` is the decimal
with the fewest digits in that interval, and of those the one nearest to the number. It is found on
the grids `10 ^ (k - 1)`, `10 ^ (k - 2)`, …: a grid has a point in the interval only if one of the
two grid points around the number is in it.

`Decimal.render` writes such a decimal: positionally if its leading digit is worth between `10 ^ -5`
and `10 ^ 15`, with `.0` after a whole number, and otherwise with an exponent, which has a sign and
no leading zeros.
-/

namespace InbandNull

/-- A positive number `m * 2 ^ q`. -/
structure Binary where
  m : Nat
  q : Int
  /-- The neighbour below is only half as far away as the neighbour above. -/
  narrowBelow : Bool
deriving DecidableEq, Repr

/-- The number `digits * 10 ^ exp`. -/
structure Decimal where
  digits : Nat
  exp : Int
deriving DecidableEq, Repr

namespace Binary

/-- The magnitude of a finite 64-bit pattern. -/
def ofBits (bits : UInt64) : Binary :=
  let exponent := bits.toNat / 0x10000000000000 % 0x800
  let fraction := bits.toNat % 0x10000000000000
  if exponent = 0 then ⟨fraction, -1074, false⟩
  else ⟨0x10000000000000 + fraction, (exponent : Int) - 1075, fraction = 0 ∧ 1 < exponent⟩

/-- The factors by which `digits * 10 ^ exp` and `quarters * 2 ^ (q - 2)` become whole numbers that
compare in the same way. -/
def scales (x : Binary) (exp : Int) : Nat × Nat :=
  (Nat.pow 10 exp.toNat <<< (2 - x.q).toNat, Nat.pow 10 (-exp).toNat <<< (x.q - 2).toNat)

def roundsTo (x : Binary) (d : Decimal) : Bool :=
  let (a, b) := x.scales d.exp
  let low := (if x.narrowBelow then 4 * x.m - 1 else 4 * x.m - 2) * b
  let high := (4 * x.m + 2) * b
  if x.m % 2 = 0 then low ≤ d.digits * a ∧ d.digits * a ≤ high
  else low < d.digits * a ∧ d.digits * a < high

def ltPow (x : Binary) (k : Int) : Bool :=
  let (a, b) := x.scales k
  4 * x.m * b < a

/-- The least `k` with `x < 10 ^ k`. The binary logarithm gives a lower bound at most two below. -/
def magnitude (x : Binary) : Int :=
  let k := (((x.m.log2 : Int) + x.q) * 30103).fdiv 100000
  if x.ltPow k then k else if x.ltPow (k + 1) then k + 1 else k + 2

/-- The point of the grid `10 ^ exp` that rounds to `x`, if one does: the nearer of two, and of two
equally near ones the even one. -/
def onGrid (x : Binary) (exp : Int) : Option Decimal :=
  let (a, b) := x.scales exp
  let below : Decimal := ⟨4 * x.m * b / a, exp⟩
  let above : Decimal := ⟨below.digits + 1, exp⟩
  match x.roundsTo below, x.roundsTo above with
  | false, false => none
  | true, false => some below
  | false, true => some above
  | true, true =>
    match compare (2 * (4 * x.m * b)) ((below.digits + above.digits) * a) with
    | .lt => some below
    | .gt => some above
    | .eq => some (if below.digits % 2 = 0 then below else above)

/-- The decimal with the fewest digits that rounds to `x`. Seventeen digits are enough for every
64-bit pattern; were they not, the answer would be the exact value. -/
def shortest (x : Binary) : Decimal :=
  let k := x.magnitude
  ((List.range 17).findSome? fun n : Nat => x.onGrid (k - 1 - n)).getD
    ⟨x.m <<< x.q.toNat * Nat.pow 5 (-x.q).toNat, min x.q 0⟩

end Binary

namespace Decimal

def render (d : Decimal) : String :=
  -- the grid point may end in zeros: `9.99` rounds up to `10` on the grid of tenths
  let all := (toString d.digits).toList
  let ds := (all.reverse.dropWhile (· == '0')).reverse
  let lead := d.exp + all.length - 1
  let text :=
    if 0 ≤ lead ∧ lead ≤ 15 then
      let whole := lead.toNat + 1
      if ds.length ≤ whole then ds ++ List.replicate (whole - ds.length) '0' ++ ['.', '0']
      else ds.take whole ++ '.' :: ds.drop whole
    else if -5 ≤ lead ∧ lead < 0 then
      ['0', '.'] ++ List.replicate (-lead - 1).toNat '0' ++ ds
    else
      ds.take 1 ++ (if ds.length ≤ 1 then [] else '.' :: ds.drop 1)
        ++ ['e', if lead < 0 then '-' else '+'] ++ (toString lead.natAbs).toList
  String.ofList text

end Decimal

/-- The text of a finite floating-point pattern, with a minus sign also before zero. -/
def renderBits (bits : UInt64) : String :=
  let magnitude := bits &&& 0x7FFFFFFFFFFFFFFF
  let text := if magnitude = 0 then "0.0" else (Binary.ofBits magnitude).shortest.render
  if bits = magnitude then text else "-" ++ text

example : renderBits 0x3FD3333333333334 = "0.30000000000000004" := by decide +kernel
example : renderBits 0x43F0000000000000 = "1.8446744073709552e+19" := by decide +kernel
example : renderBits 0x3EB0C6F7A0B5ED8D = "1e-6" := by decide +kernel

end InbandNull
