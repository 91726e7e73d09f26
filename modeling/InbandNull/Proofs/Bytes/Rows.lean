import InbandNull.Bytes.Rows

/-!
# Rows that were written

The rows of a buffer after it was filled, put together of two or overwritten. All are about complete
rows of `w` bytes: then every row keeps its place, and overwriting acts on the list of rows mark by
mark.
-/

namespace InbandNull

theorem length_flatten_of_length {w : Nat} {rs : List (List UInt8)}
    (hrs : ∀ row ∈ rs, row.length = w) : rs.flatten.length = rs.length * w := by
  induction rs with
  | nil => simp
  | cons row rs ih =>
      have hrow : row.length = w := hrs row List.mem_cons_self
      have hrest := ih fun row' mem => hrs row' (List.mem_cons_of_mem row mem)
      rw [List.flatten_cons, List.length_append, List.length_cons, hrow, hrest, Nat.succ_mul,
        Nat.add_comm]

theorem rows_flatten {w : Nat} {rs : List (List UInt8)} (hrs : ∀ row ∈ rs, row.length = w) :
    rows w rs.length rs.flatten = rs := by
  induction rs with
  | nil => rfl
  | cons row rs ih =>
      have hrow : row.length = w := hrs row List.mem_cons_self
      have hrest := ih fun row' mem => hrs row' (List.mem_cons_of_mem row mem)
      rw [List.length_cons, List.flatten_cons, rows_succ, ← hrow, List.take_left, List.drop_left,
        hrow, hrest]

theorem rows_flatten_div {w : Nat} (hpos : 1 ≤ w) {rs : List (List UInt8)}
    (hrs : ∀ row ∈ rs, row.length = w) : rows w (rs.flatten.length / w) rs.flatten = rs := by
  rw [length_flatten_of_length hrs, Nat.mul_div_cancel _ hpos, rows_flatten hrs]

/-- All rows of two buffers back to back, the first holding whole rows. -/
theorem rows_append_of_whole {w : Nat} (hpos : 1 ≤ w) {bs : List UInt8} (hbs : bs.length % w = 0)
    (cs : List UInt8) :
    rows w ((bs ++ cs).length / w) (bs ++ cs) =
      rows w (bs.length / w) bs ++ rows w (cs.length / w) cs := by
  obtain ⟨m, hm⟩ := Nat.dvd_of_mod_eq_zero hbs
  have hcount : (bs ++ cs).length / w = m + cs.length / w := by
    rw [List.length_append, hm, Nat.mul_add_div hpos]
  have hwhole : bs.length / w = m := by
    rw [hm, Nat.mul_div_cancel_left _ hpos]
  rw [hcount, hwhole, rows_append (hm.trans (Nat.mul_comm _ _))]

theorem rows_overwrite {w : Nat} {new : List UInt8} (hnew : new.length = w) {marks : List Bool}
    {bs : List UInt8} (hbs : marks.length * w ≤ bs.length) :
    rows w marks.length (overwrite w new marks bs) =
      List.zipWith (fun mark row => if mark then new else row) marks (rows w marks.length bs) := by
  induction marks generalizing bs with
  | nil => rfl
  | cons mark marks ih =>
      rw [List.length_cons, Nat.succ_mul] at hbs
      have htake : (bs.take w).length = w := by
        rw [List.length_take]
        omega
      have hhead : (if mark then new else bs.take w).length = w := by
        split
        · exact hnew
        · exact htake
      rw [List.length_cons, overwrite_cons, rows_succ, rows_succ, List.zipWith_cons_cons,
        List.take_left' hhead, List.drop_left' hhead, ih (by rw [List.length_drop]; omega)]

end InbandNull
