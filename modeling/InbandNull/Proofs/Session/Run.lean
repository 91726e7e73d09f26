import InbandNull.ColumnType.Basic
import InbandNull.Session
import InbandNull.Proofs.Buffer.Cells
import InbandNull.Proofs.Buffer.Fill

/-!
# Columns written step by step

A column that starts empty is filled, appended to and overwritten, in any order and any number of
times. `Edit.track` is what a step does to the list of rows that a reader sees. The main statement
is that every run keeps the bytes and this list together: all decoders and scans read exactly the
rows of the list from the bytes. A step never moves a row, and the pattern it writes is the one that
reading recognises.
-/

namespace InbandNull

namespace Session

inductive Edit where
  | appendNulls (count : Nat)
  | append (bytes : List UInt8)
  | setNulls (offset : Nat) (mask : Mask)
deriving DecidableEq, Repr

/-- Whether a step appends nothing but whole rows of `w` bytes. -/
def Edit.IsWhole (w : Nat) : Edit → Prop
  | .append bytes => bytes.length % w = 0
  | .appendNulls _ | .setNulls .. => True

instance (w : Nat) : DecidablePred (Edit.IsWhole w)
  | .append bytes => inferInstanceAs (Decidable (bytes.length % w = 0))
  | .appendNulls _ | .setNulls .. => isTrue trivial

def edit (s : Session) : Edit → Session
  | .appendNulls count => (s.appendNulls count).1
  | .append bytes => s.append bytes
  | .setNulls offset mask => (s.setNulls offset mask).1

def run (s : Session) (edits : List Edit) : Session := edits.foldl edit s

end Session

/-- The rows that bytes stand for, and none if they cannot be decoded. -/
def Descriptor.cells (d : Descriptor) (bytes : List UInt8) : List (Option Value) :=
  match (({ bytes } : Buffer).cells d).result with
  | .ok cells => cells
  | .error _ => []

namespace Session

/-- What a step does to the rows of a column. -/
def Edit.track (d : Descriptor) (cells : List (Option Value)) : Edit → List (Option Value)
  | .appendNulls count => cells ++ List.replicate count none
  | .append bytes => cells ++ d.cells bytes
  | .setNulls _ mask =>
    if mask.length = cells.length then
      List.zipWith (fun mark cell => if mark then none else cell) mask cells
    else cells

/-- What a run from the empty column does to its rows. -/
def track (d : Descriptor) (edits : List Edit) : List (Option Value) :=
  edits.foldl (Edit.track d) []

/-- The bytes of a session are whole rows that read as `cells`. -/
structure Tracks (d : Descriptor) (layout : ValueLayout) (s : Session)
    (cells : List (Option Value)) : Prop where
  descriptor_eq : s.descriptor = d
  whole : s.bytes.length % layout.width = 0
  cells_eq : layout.cells s.bytes = cells

variable {d : Descriptor} {layout : ValueLayout} {s : Session} {cells : List (Option Value)}

theorem length_of_tracks (hs : Tracks d layout s cells) :
    cells.length = s.bytes.length / layout.width := by
  rw [← hs.cells_eq, ValueLayout.length_cells]

theorem tracks_append (h : d.valueLayout = .ok layout) (hs : Tracks d layout s cells)
    {bytes : List UInt8} (hbytes : bytes.length % layout.width = 0) :
    Tracks d layout (s.append bytes) (cells ++ layout.cells bytes) where
  descriptor_eq := hs.descriptor_eq
  whole := by
    have hwhole := hs.whole
    rw [append, List.length_append, Nat.add_mod, hwhole, hbytes]
    exact Nat.zero_mod _
  cells_eq := by
    have hpos := ValueLayout.one_le_width (ValueLayout.wellFormed_of_valueLayout h)
    rw [append, ValueLayout.cells_append hpos hs.whole, hs.cells_eq]

theorem tracks_appendNulls (h : d.valueLayout = .ok layout) (hs : Tracks d layout s cells)
    (count : Nat) :
    Tracks d layout (s.appendNulls count).1 (cells ++ List.replicate count none) := by
  have hlayout := ValueLayout.wellFormed_of_valueLayout h
  have hstep : (s.appendNulls count).1 = s.append (layout.nullColumn count) := by
    unfold appendNulls
    rw [hs.descriptor_eq, Descriptor.fillNulls_eq h]
    rfl
  have hbytes : (layout.nullColumn count).length % layout.width = 0 := by
    rw [ValueLayout.length_nullColumn, Nat.mul_mod_left]
  rw [hstep, ← ValueLayout.cells_nullColumn hlayout]
  exact tracks_append h hs hbytes

theorem tracks_setNulls (h : d.valueLayout = .ok layout) (hs : Tracks d layout s cells)
    (offset : Nat) {mask : Mask} (hmask : mask.length = cells.length) :
    Tracks d layout (s.setNulls offset mask).1
      (List.zipWith (fun mark cell => if mark then none else cell) mask cells) := by
  have hlayout := ValueLayout.wellFormed_of_valueLayout h
  have hcount : mask.length = s.bytes.length / layout.width := hmask.trans (length_of_tracks hs)
  have hstep : (s.setNulls offset mask).1 =
      s.load (overwrite layout.width layout.nullBytes mask s.bytes) := by
    unfold setNulls
    rw [hs.descriptor_eq, Option.getD_some, Buffer.setNulls_eq h hs.whole hcount]
    rfl
  have hlength : (overwrite layout.width layout.nullBytes mask s.bytes).length =
      s.bytes.length := length_overwrite layout.length_nullBytes (Mask.length_mul_le hcount)
  rw [hstep]
  exact {
    descriptor_eq := hs.descriptor_eq
    whole := by rw [load, hlength, hs.whole]
    cells_eq := by rw [load, ValueLayout.cells_overwrite hlayout hcount, hs.cells_eq] }

theorem setNulls_of_length_ne (h : d.valueLayout = .ok layout) (hs : Tracks d layout s cells)
    (offset : Nat) {mask : Mask} (hmask : mask.length ≠ cells.length) :
    (s.setNulls offset mask).1 = s := by
  have hcount : mask.length ≠ s.bytes.length / layout.width := by
    rw [← length_of_tracks hs]
    exact hmask
  unfold setNulls
  rw [hs.descriptor_eq, Option.getD_some, Buffer.setNulls_of_length_ne h hs.whole hcount]
  rfl

theorem cells_of_whole (h : d.valueLayout = .ok layout) {bytes : List UInt8}
    (hbytes : bytes.length % layout.width = 0) : d.cells bytes = layout.cells bytes := by
  unfold Descriptor.cells
  rw [Buffer.cells_eq h hbytes]

theorem tracks_edit (h : d.valueLayout = .ok layout) (hs : Tracks d layout s cells) {e : Edit}
    (he : e.IsWhole layout.width) : Tracks d layout (s.edit e) (e.track d cells) := by
  cases e with
  | appendNulls count => exact tracks_appendNulls h hs count
  | append bytes =>
      rw [Edit.track, cells_of_whole h he]
      exact tracks_append h hs he
  | setNulls offset mask =>
      by_cases hmask : mask.length = cells.length
      · rw [Edit.track, if_pos hmask]
        exact tracks_setNulls h hs offset hmask
      · rw [Edit.track, if_neg hmask, edit, setNulls_of_length_ne h hs offset hmask]
        exact hs

theorem tracks_run (h : d.valueLayout = .ok layout) (hs : Tracks d layout s cells)
    {edits : List Edit} (hedits : ∀ e ∈ edits, e.IsWhole layout.width) :
    Tracks d layout (s.run edits) (edits.foldl (Edit.track d) cells) := by
  induction edits generalizing s cells with
  | nil => exact hs
  | cons e edits ih =>
      have hstep := tracks_edit h hs (hedits e List.mem_cons_self)
      exact ih hstep fun e' mem => hedits e' (List.mem_cons_of_mem e mem)

def start (d : Descriptor) : Session := { descriptor := d, bytes := [] }

theorem tracks_start : Tracks d layout (start d) [] where
  descriptor_eq := rfl
  whole := Nat.zero_mod _
  cells_eq := by
    apply List.eq_nil_of_length_eq_zero
    rw [ValueLayout.length_cells, start, List.length_nil, Nat.zero_div]

/-- After every run from the empty column, and so after each of its steps, the decoder of the
column's family reads the rows that the steps have tracked, a scan marks the NULLs among them and
counts them, and a mask of a wrong length would change nothing. -/
theorem reads_run_eq_track (h : d.valueLayout = .ok layout) {edits : List Edit}
    (hedits : ∀ e ∈ edits, e.IsWhole layout.width) {b : Buffer}
    (hb : b.bytes = ((start d).run edits).bytes) :
    (b.cells d).result = .ok (track d edits) ∧
      (b.scan d).result = .ok ((track d edits).map Option.isNone) ∧
      (b.nullCount d).result = .ok ((track d edits).countP Option.isNone) ∧
      ∀ (offset : Nat) (mask : Mask), mask.length ≠ (track d edits).length →
        ((start d).run edits).edit (.setNulls offset mask) = (start d).run edits := by
  have htracks : Tracks d layout ((start d).run edits) (track d edits) :=
    tracks_run h tracks_start hedits
  have hwhole : b.bytes.length % layout.width = 0 := by
    rw [hb, htracks.whole]
  have hcells : layout.cells b.bytes = track d edits := by
    rw [hb, htracks.cells_eq]
  refine ⟨?_, ?_, ?_, ?_⟩
  · rw [Buffer.cells_eq h hwhole, hcells]
  · rw [Buffer.scan_eq h hwhole, Buffer.nullMask_eq_map_isNone, hcells]
  · rw [Buffer.nullCount_eq h hwhole, Buffer.nullMask_eq_map_isNone, hcells,
      Mask.nullCount_map_isNone]
  · intro offset mask hmask
    exact setNulls_of_length_ne h htracks offset hmask

/-- Three values in 24 bits, then a NULL, a mask that is refused and one that is not. -/
theorem reads_run_eq_track_narrowed :
    (ColumnType.fixed .bigInt 24).toDescriptor.valueLayout =
        .ok (.integer ⟨3, true, -8388608⟩) ∧
      (∀ e ∈ [Edit.append [0x00, 0x00, 0x80, 0xFF, 0xFF, 0xFF, 0x05, 0x00, 0x00], .appendNulls 1,
        .setNulls 1 [true], .setNulls 0 [false, false, true, false]], e.IsWhole 3) ∧
      ∀ b : Buffer,
        b.bytes = [0x00, 0x00, 0x80, 0xFF, 0xFF, 0xFF, 0x00, 0x00, 0x80, 0x00, 0x00, 0x80] →
        (b.cells (ColumnType.fixed .bigInt 24).toDescriptor).result =
            .ok [none, some (.integer (-1)), none, none] ∧
          (b.scan (ColumnType.fixed .bigInt 24).toDescriptor).result =
            .ok [true, false, true, true] ∧
          (b.nullCount (ColumnType.fixed .bigInt 24).toDescriptor).result = .ok 3 := by
  have hwhole : ∀ e ∈ [Edit.append [0x00, 0x00, 0x80, 0xFF, 0xFF, 0xFF, 0x05, 0x00, 0x00],
      .appendNulls 1, .setNulls 1 [true], .setNulls 0 [false, false, true, false]],
      e.IsWhole 3 := by decide
  refine ⟨rfl, hwhole, ?_⟩
  intro b hb
  obtain ⟨hcells, hscan, hcount, -⟩ :=
    reads_run_eq_track (d := (ColumnType.fixed .bigInt 24).toDescriptor) rfl hwhole hb
  exact ⟨hcells, hscan, hcount⟩

end Session

end InbandNull
