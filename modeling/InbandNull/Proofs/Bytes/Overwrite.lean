import InbandNull.Proofs.Bytes.Rows

/-!
# Bytes that were overwritten

Where a byte of an overwritten buffer comes from. The byte at place `k` lies in the row `k / w`: if
that row is marked it is a byte of the new row, and otherwise the one that was there. Two ways of
overwriting can so be compared byte by byte, whatever the order in which the rows were written. Of
two buffers put together each is overwritten on its own, and a buffer is as it was exactly if its
marked rows are the new row already.
-/

namespace InbandNull

variable {w : Nat} {new : List UInt8} {marks : List Bool} {bs : List UInt8}

theorem getElem?_overwrite (hpos : 1 ≤ w) (hnew : new.length = w)
    (hbs : marks.length * w ≤ bs.length) (k : Nat) :
    (overwrite w new marks bs)[k]? = if marks[k / w]? = some true then new[k % w]? else bs[k]? := by
  induction marks generalizing bs k with
  | nil => simp
  | cons mark marks ih =>
      rw [List.length_cons, Nat.succ_mul] at hbs
      have hhead : (if mark then new else bs.take w).length = w := by
        split
        · exact hnew
        · rw [List.length_take]
          omega
      rw [overwrite_cons, List.getElem?_append, hhead]
      by_cases hk : k < w
      · rw [if_pos hk, Nat.div_eq_of_lt hk, Nat.mod_eq_of_lt hk, List.getElem?_cons_zero]
        cases mark with
        | true => rfl
        | false => exact List.getElem?_take_of_lt hk
      · have hle : w ≤ k := Nat.le_of_not_lt hk
        have hrest : (bs.drop w)[k - w]? = bs[k]? := by
          rw [List.getElem?_drop, Nat.add_sub_cancel' hle]
        rw [if_neg hk, ih (by rw [List.length_drop]; omega), hrest, ← Nat.mod_eq_sub_mod hle,
          Nat.div_eq_sub_div hpos hle, List.getElem?_cons_succ]

/-- Two buffers back to back are overwritten as each of them is, if the first has a row for each of
its marks. -/
theorem overwrite_append (hbs : bs.length = marks.length * w) (marks' : List Bool)
    (cs : List UInt8) :
    overwrite w new (marks ++ marks') (bs ++ cs) =
      overwrite w new marks bs ++ overwrite w new marks' cs := by
  induction marks generalizing bs with
  | nil =>
      have hempty : bs = [] := List.length_eq_zero_iff.1 (by rw [hbs, List.length_nil, Nat.zero_mul])
      rw [hempty]
      rfl
  | cons mark marks ih =>
      rw [List.length_cons, Nat.succ_mul] at hbs
      have hle : w ≤ bs.length := by omega
      have hrest : (bs.drop w).length = marks.length * w := by
        rw [List.length_drop]
        omega
      rw [List.cons_append, overwrite_cons, List.take_append_of_le_length hle,
        List.drop_append_of_le_length hle, ih hrest, overwrite_cons, List.append_assoc]

/-- Overwriting every row leaves nothing of what was there. -/
theorem overwrite_replicate_true {n : Nat} (hbs : bs.length = n * w) :
    overwrite w new (List.replicate n true) bs = (List.replicate n new).flatten := by
  induction n generalizing bs with
  | zero =>
      rw [Nat.zero_mul] at hbs
      exact List.length_eq_zero_iff.1 hbs
  | succ n ih =>
      rw [Nat.succ_mul] at hbs
      have hrest : (bs.drop w).length = n * w := by
        rw [List.length_drop]
        omega
      rw [List.replicate_succ, List.replicate_succ, overwrite_cons, if_pos rfl, ih hrest,
        List.flatten_cons]

/-- Overwriting changes nothing exactly if every marked row is the new one. -/
theorem overwrite_eq_iff (hnew : new.length = w) (hbs : marks.length * w ≤ bs.length) :
    overwrite w new marks bs = bs ↔
      ∀ i : Nat, marks[i]? = some true → (rows w marks.length bs)[i]? = some new := by
  induction marks generalizing bs with
  | nil => simp
  | cons mark marks ih =>
      rw [List.length_cons, Nat.succ_mul] at hbs
      have htail : marks.length * w ≤ (bs.drop w).length := by
        rw [List.length_drop]
        omega
      have hrest := ih htail
      have htake : (bs.take w).length = w := by
        rw [List.length_take]
        omega
      have hhead : (if mark then new else bs.take w).length = (bs.take w).length := by
        rw [htake]
        split
        · exact hnew
        · exact htake
      have hjoin := List.take_append_drop w bs
      rw [overwrite_cons, List.length_cons, rows_succ]
      constructor
      · intro h
        obtain ⟨hfirst, hkept⟩ := List.append_inj (h.trans hjoin.symm) hhead
        intro i hi
        cases i with
        | zero =>
            have hmark : mark = true := Option.some.inj hi
            rw [hmark, if_pos rfl] at hfirst
            rw [List.getElem?_cons_zero, hfirst]
        | succ i => exact hrest.1 hkept i hi
      · intro h
        have hfirst : (if mark then new else bs.take w) = bs.take w := by
          split
          · next hmark => exact (Option.some.inj (h 0 (congrArg some hmark))).symm
          · rfl
        rw [hfirst, hrest.2 fun i => h (i + 1), hjoin]

end InbandNull
