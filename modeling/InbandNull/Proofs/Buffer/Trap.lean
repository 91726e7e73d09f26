import InbandNull.ColumnType.Basic
import InbandNull.Proofs.Buffer.Fill
import InbandNull.Proofs.Layout.Integer

/-!
# No operation traps

On a machine, arithmetic is partial: it has no remainder by zero, no difference below zero, no
product past a word, no shift of a word by 64 places or more, no bytes past the end of a buffer, and
no buffer of more than `byteLimit` bytes. A function whose name ends in `?` is the step of a buffer
operation in that arithmetic, with `none` where the machine would trap. The operations themselves
are written where arithmetic is total. The main statement is that the two agree under every layout
that a descriptor resolves to: its width and its sentinel are such that no step of any operation
traps, but for filling a column that is too long for any buffer.
-/

namespace InbandNull

namespace Machine

def mod? (m n : Nat) : Option Nat := if n = 0 then none else some (m % n)

def div? (m n : Nat) : Option Nat := if n = 0 then none else some (m / n)

def sub? (m n : Nat) : Option Nat := if n ≤ m then some (m - n) else none

/-- A product that fits a word. -/
def mul? (m n : Nat) : Option Nat := if m * n < UInt64.size then some (m * n) else none

def shiftLeft? (x : UInt64) (s : Nat) : Option UInt64 :=
  if s < 64 then some (x <<< .ofNat s) else none

def shiftRight? (x : Int64) (s : Nat) : Option Int64 :=
  if s < 64 then some (x >>> .ofNat s) else none

/-- The first `n` bytes, if there are so many. -/
def take? (n : Nat) (bs : List UInt8) : Option (List UInt8) :=
  if n ≤ bs.length then some (bs.take n) else none

/-- Writes `new` over the bytes from the place `i` up to the place `j`, which must be as many. -/
def replace? (i j : Nat) (new bs : List UInt8) : Option (List UInt8) :=
  if i ≤ j ∧ j ≤ bs.length ∧ new.length = j - i then some (bs.take i ++ new ++ bs.drop j) else none

/-- Asks for a buffer of `n` bytes. -/
def reserve? (n : Nat) : Option Unit := if n ≤ byteLimit then some () else none

/-- Writes `new` behind the bytes of a buffer, which grows by as many. -/
def extend? (bs new : List UInt8) : Option (List UInt8) :=
  if (bs ++ new).length ≤ byteLimit then some (bs ++ new) else none

variable {m n s : Nat}

theorem mod?_of_pos (hn : 1 ≤ n) : mod? m n = some (m % n) := if_neg (by omega)

theorem div?_of_pos (hn : 1 ≤ n) : div? m n = some (m / n) := if_neg (by omega)

theorem sub?_of_le (h : n ≤ m) : sub? m n = some (m - n) := if_pos h

theorem mul?_of_le (h : m * n ≤ byteLimit) : mul? m n = some (m * n) :=
  if_pos (Nat.lt_of_le_of_lt h (by decide))

theorem shiftLeft?_of_lt (hs : s < 64) (x : UInt64) : shiftLeft? x s = some (x <<< .ofNat s) :=
  if_pos hs

theorem shiftRight?_of_lt (hs : s < 64) (x : Int64) : shiftRight? x s = some (x >>> .ofNat s) :=
  if_pos hs

theorem take?_of_le {bs : List UInt8} (h : n ≤ bs.length) : take? n bs = some (bs.take n) :=
  if_pos h

theorem replace?_append (front : List UInt8) {new rest : List UInt8}
    (h : new.length ≤ rest.length) :
    replace? front.length (front.length + new.length) new (front ++ rest) =
      some (front ++ new ++ rest.drop new.length) := by
  have hfits : front.length ≤ front.length + new.length ∧
      front.length + new.length ≤ (front ++ rest).length ∧
      new.length = front.length + new.length - front.length := by
    rw [List.length_append]
    omega
  rw [replace?, if_pos hfits, List.take_left, List.drop_append]
  simp

theorem reserve?_of_le (h : n ≤ byteLimit) : reserve? n = some () := if_pos h

theorem reserve?_of_lt (h : byteLimit < n) : reserve? n = none := if_neg (by omega)

/-- A buffer can be written row after row as long as all the rows together are not too long. -/
theorem foldlM_extend? {front : List UInt8} {rows : List (List UInt8)}
    (h : (front ++ rows.flatten).length ≤ byteLimit) :
    rows.foldlM extend? front = some (front ++ rows.flatten) := by
  induction rows generalizing front with
  | nil => simp
  | cons row rows ih =>
      rw [List.flatten_cons, ← List.append_assoc] at h ⊢
      have hrow : (front ++ row).length ≤ byteLimit := by
        rw [List.length_append] at h
        omega
      rw [List.foldlM_cons, extend?, if_pos hrow, Option.bind_eq_bind, Option.bind_some, ih h]

end Machine

open Machine

def Buffer.rowCount? (b : Buffer) (w : Nat) : Option (Except Error Nat) := do
  if (← mod? b.bytes.length w) = 0 then return .ok (← div? b.bytes.length w)
  else return .error (.bufferMismatch b.bytes.length w)

def truncateToWidth? (raw : UInt64) (width : Nat) : Option UInt64 := do
  if 8 ≤ width then return raw
  else return raw &&& ((← shiftLeft? 1 (width * 8)) - 1)

def IntLayout.decode? (layout : IntLayout) (row : List UInt8) : Option Int64 := do
  let raw := readLE row
  if layout.signed then
    let shift ← sub? 64 (8 * row.length)
    shiftRight? (← shiftLeft? raw shift).toInt64 shift
  else return raw.toInt64

def ValueLayout.pattern? : ValueLayout → Option UInt64
  | .integer layout => truncateToWidth? layout.null.toUInt64 layout.width
  | .float kind => some kind.pattern

/-- The sentinel as stored, cut from the eight bytes of its pattern. -/
def ValueLayout.nullBytes? (layout : ValueLayout) : Option (List UInt8) := do
  take? layout.width (writeLE 8 (← layout.pattern?))

/-- The buffer of a column of NULLs: its bytes are reserved, and row after row is written to it. -/
def ValueLayout.nullColumn? (layout : ValueLayout) (count : Nat) : Option (List UInt8) := do
  reserve? (← mul? count layout.width)
  (List.replicate count (← layout.nullBytes?)).foldlM extend? []

/-- The rows that are marked, where the first mark is that of the row `i`. -/
def markedFrom (i : Nat) : List Bool → List Nat
  | [] => []
  | mark :: marks => if mark then i :: markedFrom (i + 1) marks else markedFrom (i + 1) marks

/-- Writes `new` over the row `i` where it lies in the buffer. -/
def overwriteRow? (w : Nat) (new bs : List UInt8) (i : Nat) : Option (List UInt8) :=
  replace? (i * w) ((i + 1) * w) new bs

def overwrite? (w : Nat) (new : List UInt8) (marks : List Bool) (bs : List UInt8) :
    Option (List UInt8) :=
  (markedFrom 0 marks).foldlM (overwriteRow? w new) bs

theorem Buffer.rowCount?_eq {w : Nat} (hpos : 1 ≤ w) (b : Buffer) :
    b.rowCount? w = some (b.rowCount w) := by
  unfold rowCount? rowCount
  simp only [mod?_of_pos hpos, div?_of_pos hpos, Option.bind_eq_bind, Option.bind_some]
  split
  · rfl
  · rfl

theorem truncateToWidth?_eq (raw : UInt64) (width : Nat) :
    truncateToWidth? raw width = some (truncateToWidth raw width) := by
  unfold truncateToWidth? truncateToWidth
  split
  · rfl
  · rw [shiftLeft?_of_lt (by omega), UInt64.ofNat_mul]
    rfl

theorem IntLayout.decode?_eq (layout : IntLayout) {row : List UInt8} (hpos : 1 ≤ row.length)
    (hle : row.length ≤ 8) : layout.decode? row = some (layout.decode row) := by
  have hshift : 64 - 8 * row.length < 64 := by omega
  unfold decode? decode
  cases layout.signed with
  | true =>
      simp only [sub?_of_le (show 8 * row.length ≤ 64 by omega), shiftLeft?_of_lt hshift,
        shiftRight?_of_lt hshift, Option.bind_eq_bind, Option.bind_some, if_true]
  | false => rfl

theorem ValueLayout.pattern?_eq (layout : ValueLayout) : layout.pattern? = some layout.pattern := by
  cases layout with
  | integer layout => exact truncateToWidth?_eq ..
  | float kind => rfl

theorem ValueLayout.nullBytes?_eq {layout : ValueLayout} (hle : layout.width ≤ 8) :
    layout.nullBytes? = some layout.nullBytes := by
  have hcut : layout.width ≤ (writeLE 8 layout.pattern).length := by
    rw [length_writeLE]
    exact hle
  unfold nullBytes? nullBytes
  rw [pattern?_eq, Option.bind_eq_bind, Option.bind_some, take?_of_le hcut, take_writeLE hle]

/-- Nothing but the length of a column keeps it from being filled. -/
theorem ValueLayout.nullColumn?_eq_some_iff {layout : ValueLayout} (hle : layout.width ≤ 8)
    {count : Nat} {bytes : List UInt8} :
    layout.nullColumn? count = some bytes ↔
      layout.Allocatable count ∧ layout.nullColumn count = bytes := by
  by_cases hcount : layout.Allocatable count
  · have hfill : (List.replicate count layout.nullBytes).foldlM extend? [] =
        some (layout.nullColumn count) := by
      refine foldlM_extend? ?_
      rw [List.nil_append, ← nullColumn, length_nullColumn]
      exact hcount
    have htotal : layout.nullColumn? count = some (layout.nullColumn count) := by
      unfold nullColumn?
      simp only [mul?_of_le hcount, reserve?_of_le hcount, nullBytes?_eq hle, hfill,
        Option.bind_eq_bind, Option.bind_some]
    simp [htotal, hcount]
  · have htraps : layout.nullColumn? count = none := by
      unfold nullColumn? mul?
      split
      · rw [Option.bind_eq_bind, Option.bind_some, reserve?_of_lt (Nat.lt_of_not_le hcount)]
        rfl
      · rfl
    simp [htraps, hcount]

/-- Rows before the `i`th stay, so the rows from there on can be overwritten one after the other
from the front. -/
theorem foldlM_markedFrom {w : Nat} {new : List UInt8} (hnew : new.length = w) {marks : List Bool}
    {i : Nat} (front : List UInt8) {rest : List UInt8} (hfront : front.length = i * w)
    (hrest : marks.length * w ≤ rest.length) :
    (markedFrom i marks).foldlM (overwriteRow? w new) (front ++ rest) =
      some (front ++ overwrite w new marks rest) := by
  induction marks generalizing i front rest with
  | nil => rfl
  | cons mark marks ih =>
      rw [List.length_cons, Nat.succ_mul] at hrest
      have htail : marks.length * w ≤ (rest.drop w).length := by
        rw [List.length_drop]
        omega
      cases mark with
      | true =>
          have hnext : (front ++ new).length = (i + 1) * w := by
            rw [List.length_append, hfront, hnew, Nat.succ_mul]
          have hwrite : overwriteRow? w new (front ++ rest) i =
              some (front ++ new ++ rest.drop w) := by
            have hreplace := replace?_append front (show new.length ≤ rest.length by omega)
            rwa [hfront, hnew, ← Nat.succ_mul] at hreplace
          rw [markedFrom, if_pos rfl, List.foldlM_cons, hwrite, Option.bind_eq_bind,
            Option.bind_some, ih _ hnext htail, overwrite_cons, if_pos rfl, List.append_assoc]
      | false =>
          have hnext : (front ++ rest.take w).length = (i + 1) * w := by
            rw [List.length_append, hfront, List.length_take, Nat.succ_mul]
            omega
          have hfold := ih _ hnext htail
          rw [List.append_assoc, List.take_append_drop, List.append_assoc] at hfold
          exact hfold

theorem overwrite?_eq {w : Nat} {new : List UInt8} (hnew : new.length = w) {marks : List Bool}
    {bs : List UInt8} (hbs : marks.length * w ≤ bs.length) :
    overwrite? w new marks bs = some (overwrite w new marks bs) :=
  foldlM_markedFrom hnew [] (Nat.zero_mul w).symm hbs

namespace IntLayout

variable {layout : IntLayout}

theorem decode_nullBytes (hlayout : layout.WellFormed) :
    layout.decode (ValueLayout.integer layout).nullBytes = layout.null := by
  rw [decode_eq_iff hlayout (ValueLayout.length_nullBytes _) (inRange_null hlayout)]
  exact readLE_writeLE hlayout.width_le_eight (toNat_truncateToWidth_lt _ hlayout.width_le_eight)

end IntLayout

namespace ValueLayout

variable {layout : ValueLayout}

/-- No step of a buffer operation traps: each has the result that it has where arithmetic is total.
A column of NULLs is filled if there is a buffer of its length. -/
structure NeverTraps (layout : ValueLayout) : Prop where
  rowCount : ∀ b : Buffer, b.rowCount? layout.width = some (b.rowCount layout.width)
  pattern : layout.pattern? = some layout.pattern
  decode : ∀ stored, layout = .integer stored → ∀ row, row.length = stored.width →
    stored.decode? row = some (stored.decode row)
  nullBytes : layout.nullBytes? = some layout.nullBytes
  overwrite : ∀ (b : Buffer) (mask : Mask), mask.length = b.bytes.length / layout.width →
    overwrite? layout.width layout.nullBytes mask b.bytes =
      some (overwrite layout.width layout.nullBytes mask b.bytes)
  fill : ∀ count bytes, layout.nullColumn? count = some bytes ↔
    layout.Allocatable count ∧ layout.nullColumn count = bytes

theorem neverTraps (hlayout : layout.WellFormed) : layout.NeverTraps where
  rowCount := Buffer.rowCount?_eq (one_le_width hlayout)
  pattern := pattern?_eq layout
  decode := by
    rintro stored rfl row hrow
    have hstored : stored.WellFormed := hlayout
    exact stored.decode?_eq (hrow ▸ hstored.one_le_width) (hrow ▸ hstored.width_le_eight)
  nullBytes := nullBytes?_eq (width_le_eight hlayout)
  overwrite := fun _ _ hmask => overwrite?_eq layout.length_nullBytes (Mask.length_mul_le hmask)
  fill := fun _ _ => nullColumn?_eq_some_iff (width_le_eight hlayout)

/-- A resolved layout has from one to eight bytes. Its pattern fits them, is not zero and decodes as
the sentinel, which is an end of the range of the layout. No operation traps under it, but for
filling a column that no buffer can hold. -/
theorem wellFormed_and_neverTraps {d : Descriptor} (h : d.valueLayout = .ok layout) :
    (1 ≤ layout.width ∧ layout.width ≤ 8) ∧
    (layout.pattern ≠ 0 ∧ layout.pattern.toNat < 2 ^ (8 * layout.width)) ∧
    (∀ stored, layout = .integer stored →
      (stored.signed = true → stored.null.toInt = -2 ^ (8 * stored.width - 1)) ∧
      (stored.signed = false → (stored.width = 1 ∨ stored.width = 2) ∧
        stored.null.toInt = 2 ^ (8 * stored.width) - 1) ∧
      stored.decode (writeLE stored.width layout.pattern) = stored.null) ∧
    layout.NeverTraps := by
  have hlayout := wellFormed_of_valueLayout h
  refine ⟨⟨one_le_width hlayout, width_le_eight hlayout⟩, ⟨pattern_ne_zero hlayout, ?_⟩, ?_,
    neverTraps hlayout⟩
  · rw [pow_mul]
    exact toNat_pattern_lt hlayout
  · rintro stored rfl
    have hstored : stored.WellFormed := hlayout
    refine ⟨hstored.null_of_signed, ?_, IntLayout.decode_nullBytes hstored⟩
    intro hsigned
    have hpos := hstored.one_le_width
    have hnarrow := hstored.width_of_unsigned hsigned
    exact ⟨by omega, hstored.null_of_unsigned hsigned⟩

/-- A catalog that takes its points for strings and for decimals has them narrowed to 56 bits. -/
theorem wellFormed_and_neverTraps_narrowed :
    { (ColumnType.fixed .point 56).toDescriptor with
        isString := true, isDecimal := true }.valueLayout =
          .ok (.integer ⟨7, true, -36028797018963968⟩) ∧
      (ValueLayout.integer ⟨7, true, -36028797018963968⟩).pattern ≠ 0 ∧
      IntLayout.decode ⟨7, true, -36028797018963968⟩ (writeLE 7 0x80000000000000) =
        -36028797018963968 ∧
      (ValueLayout.integer ⟨7, true, -36028797018963968⟩).NeverTraps := by
  have h : { (ColumnType.fixed .point 56).toDescriptor with
      isString := true, isDecimal := true }.valueLayout =
        .ok (.integer ⟨7, true, -36028797018963968⟩) := rfl
  obtain ⟨-, ⟨hpattern, -⟩, hstored, htraps⟩ := wellFormed_and_neverTraps h
  exact ⟨h, hpattern, (hstored _ rfl).2.2, htraps⟩

end ValueLayout

end InbandNull
