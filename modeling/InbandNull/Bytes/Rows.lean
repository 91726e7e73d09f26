/-!
# Rows of a buffer

A buffer holds values of one width back to back. `rows w n bs` is its first `n` rows of `w` bytes
and `overwrite w new marks bs` is the buffer with the marked rows replaced. Both take one row off
the front at each step, so no row is ever found by its index and what holds of one row carries over
to all.
-/

namespace InbandNull

def rows (w : Nat) : Nat → List UInt8 → List (List UInt8)
  | 0, _ => []
  | n + 1, bs => bs.take w :: rows w n (bs.drop w)

@[simp] theorem rows_zero (w : Nat) (bs : List UInt8) : rows w 0 bs = [] := rfl

theorem rows_succ (w n : Nat) (bs : List UInt8) :
    rows w (n + 1) bs = bs.take w :: rows w n (bs.drop w) := rfl

@[simp] theorem length_rows (w n : Nat) (bs : List UInt8) : (rows w n bs).length = n := by
  induction n generalizing bs with
  | zero => rfl
  | succ n ih => simp [rows_succ, ih]

/-- Every row is complete if there are bytes enough. -/
theorem length_of_mem_rows {w n : Nat} {bs row : List UInt8} (h : n * w ≤ bs.length)
    (mem : row ∈ rows w n bs) : row.length = w := by
  induction n generalizing bs with
  | zero => simp at mem
  | succ n ih =>
    rw [Nat.succ_mul] at h
    rw [rows_succ, List.mem_cons] at mem
    rcases mem with rfl | mem
    · rw [List.length_take]
      omega
    · exact ih (by rw [List.length_drop]; omega) mem

/-- The rows of a buffer, joined again, are the bytes that they cover. -/
theorem flatten_rows (w n : Nat) (bs : List UInt8) : (rows w n bs).flatten = bs.take (n * w) := by
  induction n generalizing bs with
  | zero => simp
  | succ n ih => rw [rows_succ, List.flatten_cons, ih, Nat.succ_mul, Nat.add_comm, List.take_add]

/-- The rows of two buffers back to back, the first holding whole rows. -/
theorem rows_append {w m : Nat} {bs : List UInt8} (h : bs.length = m * w) (n : Nat)
    (cs : List UInt8) : rows w (m + n) (bs ++ cs) = rows w m bs ++ rows w n cs := by
  induction m generalizing bs with
  | zero =>
    have : bs = [] := List.length_eq_zero_iff.1 (by rw [h, Nat.zero_mul])
    simp [this]
  | succ m ih =>
    rw [Nat.succ_mul] at h
    have le : w ≤ bs.length := by omega
    rw [Nat.succ_add, rows_succ, rows_succ, List.take_append_of_le_length le,
      List.drop_append_of_le_length le, ih (by rw [List.length_drop]; omega), List.cons_append]

/-- The buffer with `new` in place of each marked row of `w` bytes. Rows without a mark stay. -/
def overwrite (w : Nat) (new : List UInt8) : List Bool → List UInt8 → List UInt8
  | [], bs => bs
  | mark :: marks, bs =>
    (if mark then new else bs.take w) ++ overwrite w new marks (bs.drop w)

@[simp] theorem overwrite_nil (w : Nat) (new bs : List UInt8) : overwrite w new [] bs = bs := rfl

theorem overwrite_cons (w : Nat) (new : List UInt8) (mark : Bool) (marks : List Bool)
    (bs : List UInt8) :
    overwrite w new (mark :: marks) bs =
      (if mark then new else bs.take w) ++ overwrite w new marks (bs.drop w) := rfl

theorem length_overwrite {w : Nat} {new : List UInt8} (hnew : new.length = w) {marks : List Bool}
    {bs : List UInt8} (h : marks.length * w ≤ bs.length) :
    (overwrite w new marks bs).length = bs.length := by
  induction marks generalizing bs with
  | nil => rfl
  | cons mark marks ih =>
    rw [List.length_cons, Nat.succ_mul] at h
    rw [overwrite_cons, List.length_append, ih (by rw [List.length_drop]; omega), List.length_drop]
    cases mark <;> simp <;> omega

end InbandNull
