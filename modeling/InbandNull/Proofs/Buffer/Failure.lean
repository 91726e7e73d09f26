import InbandNull.ColumnType.Basic
import InbandNull.Proofs.Buffer.Decode
import InbandNull.Proofs.Buffer.Fill

/-!
# How buffer operations fail

Seven operations work on the buffer of a column, and each makes its checks in one order: the layout
must resolve, the family must be the one that a decoder is for, the buffer must hold whole rows, and
a mask must have a flag per row. `Operation.perform` carries out any of the seven. The main
statement says which failure it ends in, whatever else is wrong with its arguments, and that a
failure leaves the buffer alone and logs nothing.
-/

namespace InbandNull

/-- How an operation ended, without what it answers. -/
def Outcome.ending {α : Type} (x : Outcome α) : Outcome Unit :=
  ⟨x.events, x.result.map fun _ => ()⟩

inductive Operation where
  | scan
  | nullCount
  | validity
  | decodeIntegers
  | decodeFloats
  | fillNulls (count : Nat)
  | setNulls (mask : Mask)
deriving DecidableEq, Repr

namespace Operation

/-- The ending of an operation, and the buffer that it leaves behind. -/
def perform (d : Descriptor) (b : Buffer) : Operation → Written
  | .scan => ⟨(b.scan d).ending, b⟩
  | .nullCount => ⟨(b.nullCount d).ending, b⟩
  | .validity => ⟨(b.validity d).ending, b⟩
  | .decodeIntegers => ⟨(b.decodeIntegers d).ending, b⟩
  | .decodeFloats => ⟨(b.decodeFloats d).ending, b⟩
  | .fillNulls count => ⟨(d.fillNulls count).ending, b⟩
  | .setNulls mask => b.setNulls d mask

/-- Whether the operation decodes columns of the other family. -/
def WrongFamily (layout : ValueLayout) : Operation → Prop
  | .decodeIntegers => ∃ kind, layout = .float kind
  | .decodeFloats => ∃ stored, layout = .integer stored
  | .scan | .nullCount | .validity | .fillNulls _ | .setNulls _ => False

def TakesBuffer : Operation → Prop
  | .fillNulls _ => False
  | .scan | .nullCount | .validity | .decodeIntegers | .decodeFloats | .setNulls _ => True

/-- Whether the operation brings a mask that has not a flag for each of `count` rows. -/
def WrongMask (count : Nat) : Operation → Prop
  | .setNulls mask => mask.length ≠ count
  | .scan | .nullCount | .validity | .decodeIntegers | .decodeFloats | .fillNulls _ => False

/-- An operation that has failed: nothing is logged, and the buffer is as it was. -/
def failed (b : Buffer) (f : Failure) : Written := ⟨.answer (.error f), b⟩

end Operation

namespace Buffer

variable {b : Buffer} {d : Descriptor} {f : Failure}

theorem scan_of_violation {v : Violation} (h : d.valueLayout = .error v) :
    b.scan d = .answer (.error (.violation v)) := by
  unfold scan
  rw [h, Outcome.ofResolution_error_bind]
  rfl

theorem scan_of_ragged {layout : ValueLayout} (h : d.valueLayout = .ok layout)
    (hragged : b.bytes.length % layout.width ≠ 0) :
    b.scan d = .answer (.error (.error (.bufferMismatch b.bytes.length layout.width))) := by
  unfold scan
  rw [h, Outcome.ofResolution_ok_bind, rowCount, if_neg hragged, Outcome.ofCheck_error_bind]
  rfl

/-! An operation that scans fails as its scan does. -/

theorem nullCount_of_scan (h : b.scan d = .answer (.error f)) :
    b.nullCount d = .answer (.error f) := by
  unfold nullCount
  rw [h]
  rfl

theorem validity_of_scan (h : b.scan d = .answer (.error f)) :
    b.validity d = .answer (.error f) := by
  unfold validity
  rw [h]
  rfl

theorem decodeIntegers_of_scan {layout : IntLayout}
    (hlayout : d.valueLayout = .ok (.integer layout)) (h : b.scan d = .answer (.error f)) :
    b.decodeIntegers d = .answer (.error f) := by
  unfold decodeIntegers
  rw [hlayout, Outcome.ofResolution_ok_bind]
  dsimp only
  rw [validity_of_scan h]
  rfl

theorem decodeFloats_of_scan {kind : FloatKind} (hlayout : d.valueLayout = .ok (.float kind))
    (h : b.scan d = .answer (.error f)) : b.decodeFloats d = .answer (.error f) := by
  unfold decodeFloats
  rw [hlayout, Outcome.ofResolution_ok_bind]
  dsimp only
  rw [validity_of_scan h]
  rfl

theorem setNulls_of_ragged {layout : ValueLayout} (h : d.valueLayout = .ok layout)
    (hragged : b.bytes.length % layout.width ≠ 0) (mask : Mask) :
    b.setNulls d mask =
      ⟨.answer (.error (.error (.bufferMismatch b.bytes.length layout.width))), b⟩ := by
  unfold setNulls
  rw [h, Outcome.ofResolution_ok_bind, rowCount, if_neg hragged, Outcome.ofCheck_error_bind]

end Buffer

namespace Operation

variable {b : Buffer} {d : Descriptor} {layout : ValueLayout} {op : Operation}

theorem perform_of_violation {v : Violation} (h : d.valueLayout = .error v) (op : Operation) :
    op.perform d b = failed b (.violation v) := by
  have hscan := Buffer.scan_of_violation (b := b) h
  cases op with
  | scan => rw [perform, hscan]; rfl
  | nullCount => rw [perform, Buffer.nullCount_of_scan hscan]; rfl
  | validity => rw [perform, Buffer.validity_of_scan hscan]; rfl
  | decodeIntegers =>
      rw [perform, Buffer.decodeIntegers, h, Outcome.ofResolution_error_bind]
      rfl
  | decodeFloats =>
      rw [perform, Buffer.decodeFloats, h, Outcome.ofResolution_error_bind]
      rfl
  | fillNulls count =>
      rw [perform, Descriptor.fillNulls, h, Outcome.ofResolution_error_bind]
      rfl
  | setNulls mask =>
      rw [perform, Buffer.setNulls, h, Outcome.ofResolution_error_bind]
      rfl

theorem perform_of_wrongFamily (h : d.valueLayout = .ok layout) (hop : op.WrongFamily layout) :
    ∃ reason, op.perform d b = failed b (.error (.unsupportedType reason)) := by
  cases op with
  | decodeIntegers =>
      obtain ⟨kind, rfl⟩ := hop
      rw [perform, Buffer.decodeIntegers, h, Outcome.ofResolution_ok_bind]
      exact ⟨_, rfl⟩
  | decodeFloats =>
      obtain ⟨stored, rfl⟩ := hop
      rw [perform, Buffer.decodeFloats, h, Outcome.ofResolution_ok_bind]
      exact ⟨_, rfl⟩
  | scan | nullCount | validity | fillNulls _ | setNulls _ => exact hop.elim

theorem perform_of_ragged (h : d.valueLayout = .ok layout) (hfamily : ¬ op.WrongFamily layout)
    (htakes : op.TakesBuffer) (hragged : b.bytes.length % layout.width ≠ 0) :
    op.perform d b = failed b (.error (.bufferMismatch b.bytes.length layout.width)) := by
  have hscan := Buffer.scan_of_ragged h hragged
  cases op with
  | scan => rw [perform, hscan]; rfl
  | nullCount => rw [perform, Buffer.nullCount_of_scan hscan]; rfl
  | validity => rw [perform, Buffer.validity_of_scan hscan]; rfl
  | decodeIntegers =>
      cases layout with
      | integer stored => rw [perform, Buffer.decodeIntegers_of_scan h hscan]; rfl
      | float kind => exact (hfamily ⟨kind, rfl⟩).elim
  | decodeFloats =>
      cases layout with
      | integer stored => exact (hfamily ⟨stored, rfl⟩).elim
      | float kind => rw [perform, Buffer.decodeFloats_of_scan h hscan]; rfl
  | fillNulls count => exact htakes.elim
  | setNulls mask => rw [perform, Buffer.setNulls_of_ragged h hragged]; rfl

/-- Once all checks are passed, an operation cannot fail. -/
theorem result_perform_of_checked (h : d.valueLayout = .ok layout)
    (hfamily : ¬ op.WrongFamily layout)
    (hwhole : op.TakesBuffer → b.bytes.length % layout.width = 0)
    (hmask : ¬ op.WrongMask (b.bytes.length / layout.width)) :
    (op.perform d b).outcome.result = .ok () := by
  cases op with
  | scan => rw [perform, Buffer.scan_eq h (hwhole trivial)]; rfl
  | nullCount => rw [perform, Buffer.nullCount_eq h (hwhole trivial)]; rfl
  | validity => rw [perform, Buffer.validity_eq h (hwhole trivial)]; rfl
  | decodeIntegers =>
      cases layout with
      | integer stored => rw [perform, Buffer.decodeIntegers_eq h (hwhole trivial)]; rfl
      | float kind => exact (hfamily ⟨kind, rfl⟩).elim
  | decodeFloats =>
      cases layout with
      | integer stored => exact (hfamily ⟨stored, rfl⟩).elim
      | float kind => rw [perform, Buffer.decodeFloats_eq h (hwhole trivial)]; rfl
  | fillNulls count => rw [perform, Descriptor.fillNulls_eq h]; rfl
  | setNulls mask =>
      rw [perform, Buffer.setNulls_eq h (hwhole trivial) (not_not.1 hmask)]
      rfl

theorem perform_of_wrongMask (h : d.valueLayout = .ok layout)
    (hwhole : b.bytes.length % layout.width = 0) {mask : Mask}
    (hmask : mask.length ≠ b.bytes.length / layout.width) :
    (Operation.setNulls mask).perform d b =
      failed b (.error (.maskLength (b.bytes.length / layout.width) mask.length)) :=
  Buffer.setNulls_of_length_ne h hwhole hmask

theorem result_of_failed {f : Failure} (h : op.perform d b = failed b f) :
    (op.perform d b).outcome.result = .error f :=
  congrArg (·.outcome.result) h

/-- The layout is checked first, then the family, then the bytes and then the mask: each failure
arises exactly where its check is the first to be failed, and there is no other. A failed operation
has changed nothing and logged nothing. -/
theorem fails_at_first_failed_check (d : Descriptor) (b : Buffer) (op : Operation) :
    (∀ v, d.valueLayout = .error v → op.perform d b = failed b (.violation v)) ∧
    ∀ layout, d.valueLayout = .ok layout →
      (∀ v, (op.perform d b).outcome.result ≠ .error (.violation v)) ∧
      ((∃ reason, (op.perform d b).outcome.result = .error (.error (.unsupportedType reason))) ↔
        op.WrongFamily layout) ∧
      (∀ length width,
        (op.perform d b).outcome.result = .error (.error (.bufferMismatch length width)) ↔
          ¬ op.WrongFamily layout ∧ op.TakesBuffer ∧ b.bytes.length % layout.width ≠ 0 ∧
            length = b.bytes.length ∧ width = layout.width) ∧
      (∀ expected actual,
        (op.perform d b).outcome.result = .error (.error (.maskLength expected actual)) ↔
          b.bytes.length % layout.width = 0 ∧ expected = b.bytes.length / layout.width ∧
            ∃ mask, op = .setNulls mask ∧ mask.length ≠ expected ∧ actual = mask.length) ∧
      ((op.perform d b).outcome.result = .ok () ↔
        ¬ op.WrongFamily layout ∧ (op.TakesBuffer → b.bytes.length % layout.width = 0) ∧
          ¬ op.WrongMask (b.bytes.length / layout.width)) ∧
      ∀ f, (op.perform d b).outcome.result = .error f → op.perform d b = failed b f := by
  refine ⟨fun v h => perform_of_violation h op, ?_⟩
  intro layout h
  by_cases hfamily : op.WrongFamily layout
  · obtain ⟨reason, heq⟩ := perform_of_wrongFamily (b := b) h hfamily
    have hmask : ∀ mask, op ≠ .setNulls mask := by
      rintro mask rfl
      exact hfamily
    simpa [result_of_failed heq, hfamily, hmask] using heq
  by_cases hragged : op.TakesBuffer ∧ b.bytes.length % layout.width ≠ 0
  · obtain ⟨htakes, hragged⟩ := hragged
    have heq := perform_of_ragged h hfamily htakes hragged
    simpa [result_of_failed heq, hfamily, htakes, hragged, eq_comm] using heq
  have hwhole : op.TakesBuffer → b.bytes.length % layout.width = 0 := by
    simpa using hragged
  by_cases hmask : op.WrongMask (b.bytes.length / layout.width)
  · cases op with
    | setNulls mask =>
        have hlength : mask.length ≠ b.bytes.length / layout.width := hmask
        have heq := perform_of_wrongMask h (hwhole trivial) hlength
        simpa +contextual [result_of_failed heq, hfamily, hwhole trivial, hmask, hlength, eq_comm]
          using heq
    | scan | nullCount | validity | decodeIntegers | decodeFloats | fillNulls _ =>
        exact hmask.elim
  · have heq := result_perform_of_checked h hfamily hwhole hmask
    have hlength : ∀ mask, op = .setNulls mask → mask.length = b.bytes.length / layout.width := by
      rintro mask rfl
      exact not_not.1 hmask
    simp +contextual [heq, hfamily, hmask, hwhole, hlength]

/-- Four bytes in a column of three-byte values, with a mask too long: a decoder for the other
family complains of the family, and overwriting complains of the bytes. -/
theorem fails_at_first_failed_check_narrowed :
    (ColumnType.fixed .bigInt 24).toDescriptor.valueLayout = .ok (.integer ⟨3, true, -8388608⟩) ∧
      (∃ reason, ((Operation.decodeFloats.perform (ColumnType.fixed .bigInt 24).toDescriptor
        { bytes := [0, 0, 0x80, 7] }).outcome.result =
          .error (.error (.unsupportedType reason)))) ∧
      (Operation.setNulls [true, true]).perform (ColumnType.fixed .bigInt 24).toDescriptor
        { bytes := [0, 0, 0x80, 7] } =
          failed { bytes := [0, 0, 0x80, 7] } (.error (.bufferMismatch 4 3)) := by
  have h : (ColumnType.fixed .bigInt 24).toDescriptor.valueLayout =
      .ok (.integer ⟨3, true, -8388608⟩) := rfl
  have hdecode := (fails_at_first_failed_check (ColumnType.fixed .bigInt 24).toDescriptor
    { bytes := [0, 0, 0x80, 7] } .decodeFloats).2 _ h
  have hset := (fails_at_first_failed_check (ColumnType.fixed .bigInt 24).toDescriptor
    { bytes := [0, 0, 0x80, 7] } (.setNulls [true, true])).2 _ h
  refine ⟨h, hdecode.2.1.2 ⟨_, rfl⟩, ?_⟩
  apply hset.2.2.2.2.2
  exact (hset.2.2.1 4 3).2 ⟨id, trivial, by decide, rfl, rfl⟩

end Operation

end InbandNull
