import InbandNull.Proofs.Bytes.Native
import InbandNull.Proofs.Layout.Resolution

/-!
# What resolved layouts have in common

A layout is built in one of three ways: from the table of widths, from the width of a narrowed
column, or from the precision of a floating-point one. `IntLayout.WellFormed` is what the first two
guarantee, whatever a descriptor says about its own family. Every buffer operation relies on it: the
bytes of a row fit a word, and the sentinel is an end of the range of the layout, the least value
if the layout is signed and the greatest if it is not.
-/

namespace InbandNull

/-- What holds of every integer layout that a descriptor resolves to. -/
structure IntLayout.WellFormed (layout : IntLayout) : Prop where
  one_le_width : 1 ≤ layout.width
  width_le_eight : layout.width ≤ 8
  null_of_signed : layout.signed = true → layout.null.toInt = -2 ^ (8 * layout.width - 1)
  /-- Only the narrow dictionary ids are unsigned. -/
  width_of_unsigned : layout.signed = false → layout.width ≤ 2
  null_of_unsigned : layout.signed = false → layout.null.toInt = 2 ^ (8 * layout.width) - 1

theorem IntLayout.wellFormed_ofWidth (w : IntWidth) : (IntLayout.ofWidth w).WellFormed := by
  cases w <;> constructor <;> decide

theorem exists_bytes_of_narrowedNull {bits : Int32} {null : Int64}
    (h : narrowedNull bits = .ok null) :
    ∃ k < 8, (bits / 8).toNatClampNeg = k + 1 ∧ null.toInt = -2 ^ (8 * (k + 1) - 1) := by
  obtain ⟨k, hk, rfl⟩ := exists_bytes_of_wholeBytes (exists_narrowedNull_iff.1 ⟨null, h⟩)
  have hwidth : ∀ k < 8, (Int32.ofNat (8 * (k + 1)) / 8).toNatClampNeg = k + 1 := by decide
  have hvalue : (Int32.ofNat (8 * (k + 1))).toInt = (8 * (k + 1) : Nat) :=
    Int32.toInt_ofNat_of_lt (by omega)
  refine ⟨k, hk, hwidth k hk, ?_⟩
  rw [toInt_narrowedNull h, hvalue, Int.toNat_natCast]

namespace Descriptor

theorem wellFormed_of_storedLayout {d : Descriptor} {layout : IntLayout}
    (h : d.storedLayout = .ok layout) : layout.WellFormed := by
  cases storedLayout_eq_ok_iff.1 h with
  | plain _ _ _ => exact IntLayout.wellFormed_ofWidth _
  | dayCount _ _ => exact IntLayout.wellFormed_ofWidth _
  | dictId _ _ _ => exact IntLayout.wellFormed_ofWidth _
  | narrowed _ _ hnull =>
      obtain ⟨k, hk, hwidth, hvalue⟩ := exists_bytes_of_narrowedNull hnull
      rw [hwidth]
      exact {
        one_le_width := Nat.le_add_left 1 k
        width_le_eight := hk
        null_of_signed := fun _ => hvalue
        width_of_unsigned := by simp
        null_of_unsigned := by simp }

end Descriptor

namespace ValueLayout

/-- Whether a row holds the sentinel of the layout. -/
def isNull (layout : ValueLayout) (row : List UInt8) : Bool := readLE row == layout.pattern

/-- What holds of every layout that a descriptor resolves to. -/
def WellFormed : ValueLayout → Prop
  | .integer layout => layout.WellFormed
  | .float _ => True

theorem wellFormed_of_valueLayout {d : Descriptor} {layout : ValueLayout}
    (h : d.valueLayout = .ok layout) : layout.WellFormed := by
  cases layout with
  | integer layout =>
      exact Descriptor.wellFormed_of_storedLayout (Descriptor.valueLayout_eq_integer_iff.1 h).2
  | float kind => trivial

variable {layout : ValueLayout}

theorem one_le_width (hlayout : layout.WellFormed) : 1 ≤ layout.width := by
  cases layout with
  | integer layout => exact hlayout.one_le_width
  | float kind => cases kind <;> decide

theorem width_le_eight (hlayout : layout.WellFormed) : layout.width ≤ 8 := by
  cases layout with
  | integer layout => exact hlayout.width_le_eight
  | float kind => cases kind <;> decide

theorem toNat_pattern_lt (hlayout : layout.WellFormed) :
    layout.pattern.toNat < 256 ^ layout.width := by
  cases layout with
  | integer layout => exact toNat_truncateToWidth_lt _ hlayout.width_le_eight
  | float kind => cases kind <;> decide

end ValueLayout

end InbandNull
