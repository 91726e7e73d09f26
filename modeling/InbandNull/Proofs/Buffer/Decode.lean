import InbandNull.Buffer.Decode
import InbandNull.Proofs.Buffer.Scan

/-!
# What decoding gives

Both decoders read a buffer row by row and take the validity from the mask that a scan finds.
`Buffer.decoded` is that array for any way of reading a row, and what is said of it here holds of
both families. `NullableArray.nulls` reads a validity back as the mask, an absent one as a mask
without marks.
-/

namespace InbandNull

namespace NullableArray

variable {α : Type}

/-- A flag per value, set where it is NULL. -/
def nulls (array : NullableArray α) : Mask :=
  match array.validity with
  | none => array.values.map fun _ => false
  | some v => v.flags.map (!·)

theorem nulls_ofMask? (values : List α) {m : Mask} (hlen : m.length = values.length) :
    (⟨values, Validity.ofMask? m⟩ : NullableArray α).nulls = m := by
  cases hm : Validity.ofMask? m with
  | none =>
      have hfalse : ∀ isNull ∈ m, isNull = false := Validity.ofMask?_eq_none_iff.1 hm
      have hreplicate : m = List.replicate values.length false :=
        List.eq_replicate_iff.2 ⟨hlen, hfalse⟩
      rw [hreplicate]
      exact List.map_const' ..
  | some v =>
      obtain ⟨-, rfl⟩ := Validity.ofMask?_eq_some_iff.1 hm
      simp [nulls, Function.comp_def]

end NullableArray

namespace Buffer

variable {b : Buffer} {d : Descriptor}

theorem validity_eq {layout : ValueLayout} (h : d.valueLayout = .ok layout)
    (hwhole : b.bytes.length % layout.width = 0) :
    b.validity d = ⟨b.scanEvents d layout, .ok (Validity.ofMask? (b.nullMask layout))⟩ := by
  unfold validity
  rw [scan_eq h hwhole]
  exact congrArg (Outcome.mk · _) (List.append_nil _)

variable {α : Type}

/-- The rows of a buffer read one by one, each row that holds the sentinel being NULL. -/
def decoded (b : Buffer) (layout : ValueLayout) (read : List UInt8 → α) : NullableArray α where
  values := (b.rows layout.width).map read
  validity := Validity.ofMask? (b.nullMask layout)

@[simp] theorem length_decoded (layout : ValueLayout) (read : List UInt8 → α) :
    (b.decoded layout read).values.length = b.bytes.length / layout.width := by
  rw [decoded, List.length_map, length_rows]

@[simp] theorem nulls_decoded (layout : ValueLayout) (read : List UInt8 → α) :
    (b.decoded layout read).nulls = b.nullMask layout := by
  apply NullableArray.nulls_ofMask?
  rw [length_nullMask, List.length_map]

/-- If reading gives `null` for the rows that hold the sentinel and for no other, the mask can be
told from the values. -/
theorem nullMask_eq_map_decoded [BEq α] {layout : ValueLayout} {read : List UInt8 → α} {null : α}
    (hread : ∀ row, row.length = layout.width → layout.isNull row = (read row == null)) :
    b.nullMask layout = (b.decoded layout read).values.map (· == null) := by
  rw [nullMask, decoded, List.map_map]
  apply List.map_congr_left
  intro row mem
  exact hread row (length_of_mem_rows mem)

theorem decodeIntegers_eq {layout : IntLayout} (h : d.valueLayout = .ok (.integer layout))
    (hwhole : b.bytes.length % layout.width = 0) :
    b.decodeIntegers d =
      ⟨b.scanEvents d (.integer layout), .ok (b.decoded (.integer layout) layout.decode)⟩ := by
  unfold decodeIntegers
  rw [h, Outcome.ofResolution_ok_bind]
  dsimp only
  rw [validity_eq h hwhole]
  exact congrArg (Outcome.mk · _) (List.append_nil _)

theorem decodeFloats_eq {kind : FloatKind} (h : d.valueLayout = .ok (.float kind))
    (hwhole : b.bytes.length % kind.width = 0) :
    b.decodeFloats d = ⟨b.scanEvents d (.float kind), .ok (b.decoded (.float kind) kind.decode)⟩ := by
  unfold decodeFloats
  rw [h, Outcome.ofResolution_ok_bind]
  dsimp only
  rw [validity_eq h hwhole]
  exact congrArg (Outcome.mk · _) (List.append_nil _)

end Buffer

end InbandNull
