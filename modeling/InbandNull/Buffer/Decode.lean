import InbandNull.Buffer.Scan

/-!
# Decoding a buffer

A decoded column keeps its NULLs beside its values: `Validity` has a flag per row, set where the row
is data, and is left out altogether if every row is. The slot of a NULL keeps the widened sentinel.
Integers widen to 64 bits by the signedness of their layout, floating-point values by
`Binary32.widen`.
-/

namespace InbandNull

structure Validity where
  flags : List Bool
deriving DecidableEq, Repr

namespace Validity

def nullCount (v : Validity) : Nat := v.flags.count false

/-- The validity of the rows of a mask, unless all of them are valid. -/
def ofMask? (m : Mask) : Option Validity :=
  if m.any id then some ⟨m.map (!·)⟩ else none

theorem ofMask?_eq_none_iff {m : Mask} : ofMask? m = none ↔ ∀ isNull ∈ m, isNull = false := by
  simp [ofMask?]

theorem ofMask?_eq_some_iff {m : Mask} {v : Validity} :
    ofMask? m = some v ↔ true ∈ m ∧ v = ⟨m.map (!·)⟩ := by
  by_cases h : true ∈ m
  · simp only [ofMask?, List.any_eq_true, id, exists_eq_right, h, if_true, true_and]
    exact ⟨fun e => (Option.some.inj e).symm, fun e => congrArg some e.symm⟩
  · simp [ofMask?, h]

end Validity

structure NullableArray (α : Type) where
  values : List α
  /-- Absent if all values are data. -/
  validity : Option Validity
deriving DecidableEq, Repr

/-- The number that a stored integer widens to. A signed one is moved to the top of the word and
back, which copies its sign into the bytes above. -/
def IntLayout.decode (layout : IntLayout) (row : List UInt8) : Int64 :=
  let raw := readLE row
  if layout.signed then
    let shift := 64 - 8 * row.length
    (raw <<< .ofNat shift).toInt64 >>> .ofNat shift
  else raw.toInt64

/-- The 64-bit pattern that a stored floating-point number widens to. -/
def FloatKind.decode (kind : FloatKind) (row : List UInt8) : UInt64 :=
  match kind with
  | .single => Binary32.widen (readLE row).toUInt32
  | .double => readLE row

namespace Buffer

def validity (b : Buffer) (d : Descriptor) : Outcome (Option Validity) := do
  return Validity.ofMask? (← b.scan d)

def decodeIntegers (b : Buffer) (d : Descriptor) : Outcome (NullableArray Int64) := do
  match ← .ofResolution d.valueLayout with
  | .float _ =>
    .ofCheck (.error (.unsupportedType s!"{d.sqlType} is floating point, decode it as Float64"))
  | .integer layout =>
    let validity ← b.validity d
    return ⟨(b.rows layout.width).map layout.decode, validity⟩

/-- Decodes a floating-point column into 64-bit patterns. -/
def decodeFloats (b : Buffer) (d : Descriptor) : Outcome (NullableArray UInt64) := do
  match ← .ofResolution d.valueLayout with
  | .integer _ => .ofCheck (.error (.unsupportedType s!"{d.sqlType} is not floating point"))
  | .float kind =>
    let validity ← b.validity d
    return ⟨(b.rows kind.width).map kind.decode, validity⟩

end Buffer

end InbandNull
