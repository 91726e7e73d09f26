import InbandNull.Json.Number
import InbandNull.Proofs.Json.Blank
import Mathlib.Data.List.TakeWhile

/-!
# Reading numbers

The automaton for numbers, run over a text of the grammar, ends in a state in which a number may
end, and stops at whatever may stand after a value. A number without point and exponent has the
value of its digits, as long as they fit a 64-bit word.
-/

namespace InbandNull.Json

/-- The automaton gets from one state to another over a text. -/
inductive NumberState.Runs : NumberState → List Char → NumberState → Prop where
  | nil {s : NumberState} : Runs s [] s
  | cons {s s' s'' : NumberState} {c : Char} {cs : List Char} (hstep : s.step c = .next s')
    (h : Runs s' cs s'') : Runs s (c :: cs) s''

namespace NumberState

variable {s s' s'' : NumberState} {cs cs' ds : List Char}

theorem Runs.append (h : Runs s cs s') (h' : Runs s' cs' s'') : Runs s (cs ++ cs') s'' := by
  induction h with
  | nil => exact h'
  | cons hstep _ ih => exact .cons hstep (ih h')

/-- A state that digits lead back to gets through any number of them. -/
theorem runs_digits (hs : ∀ d : Char, d.isDigit = true → s.step d = .next s) (hds : Digits ds) :
    Runs s ds s := by
  induction ds with
  | nil => exact .nil
  | cons d ds ih =>
      have hd := hs d (hds d List.mem_cons_self)
      exact .cons hd (ih fun d' mem => hds d' (List.mem_cons_of_mem d mem))

theorem runs_whole (h : Whole ds) : ∃ s ∈ [zero, whole], Runs .start ds s := by
  cases h with
  | zero => exact ⟨zero, by decide, .cons rfl .nil⟩
  | digits hd hzero hds =>
      have hfirst : start.step _ = .next whole := (if_neg hzero).trans (if_pos hd)
      have hnext : ∀ d : Char, d.isDigit = true → whole.step d = .next whole :=
        fun _ hd => if_pos hd
      exact ⟨whole, by decide, .cons hfirst (runs_digits hnext hds)⟩

theorem runs_fraction (h : Fraction ds) (hs : s ∈ [zero, whole]) :
    ∃ s' ∈ [zero, whole, fraction], Runs s ds s' := by
  cases h with
  | absent => exact ⟨s, List.mem_append_left [fraction] hs, .nil⟩
  | digits hd hds =>
      have hpoint : ∀ s ∈ [zero, whole], s.step '.' = .next point := by decide
      have hfirst : point.step _ = .next fraction := if_pos hd
      have hnext : ∀ d : Char, d.isDigit = true → fraction.step d = .next fraction :=
        fun _ hd => if_pos hd
      exact ⟨fraction, by decide, .cons (hpoint s hs) (.cons hfirst (runs_digits hnext hds))⟩

theorem step_mark (hs : s ∈ [zero, whole, fraction]) {c : Char} (hc : c ∈ ['e', 'E']) :
    s.step c = .next mark := by
  have hmarks : ∀ s ∈ [zero, whole, fraction],
      s.step 'e' = .next mark ∧ s.step 'E' = .next mark := by
    decide
  simp only [List.mem_cons, List.not_mem_nil, or_false] at hc
  rcases hc with rfl | rfl
  · exact (hmarks s hs).1
  · exact (hmarks s hs).2

theorem runs_exponent (h : Exponent ds) (hs : s ∈ [zero, whole, fraction]) :
    ∃ s', s'.complete = true ∧ Runs s ds s' := by
  cases h with
  | absent =>
      have hcomplete : ∀ s ∈ [zero, whole, fraction], s.complete = true := by decide
      exact ⟨s, hcomplete s hs, .nil⟩
  | digits hmark hsign hd hds =>
      have hnext : ∀ d : Char, d.isDigit = true → exponent.step d = .next exponent :=
        fun _ hd => if_pos hd
      have hdigits := runs_digits hnext hds
      have hafter : mark.step _ = .next exponent := if_pos hd
      have hafterSign : markSign.step _ = .next exponent := if_pos hd
      refine ⟨exponent, rfl, .cons (step_mark hs hmark) ?_⟩
      simp only [List.mem_cons, List.not_mem_nil, or_false] at hsign
      rcases hsign with rfl | rfl | rfl
      · exact .cons hafter hdigits
      · exact .cons rfl (.cons hafterSign hdigits)
      · exact .cons rfl (.cons hafterSign hdigits)

/-- A number ends before what may stand after a value. -/
theorem step_of_mem_delimiters (hs : s.complete = true) {c : Char} (hc : c ∈ delimiters) :
    s.step c = .stop := by
  -- Over all characters this would not be decided by going through the list.
  have hstop : ∀ s ∈ [zero, whole, fraction, exponent],
      delimiters.all (fun c => s.step c = .stop) = true := by
    decide
  cases s with
  | zero | whole | fraction | exponent =>
      exact of_decide_eq_true (List.all_eq_true.1 (hstop _ (by decide)) c hc)
  | start | point | mark | markSign => cases hs

end NumberState

/-- The automaton gets through every number, its sign apart. -/
theorem NumberText.runs {cs : List Char} (h : NumberText cs) :
    ∃ sign ∈ [[], ['-']], ∃ ds s, cs = sign ++ ds ∧ s.complete = true ∧
      NumberState.Runs .start ds s := by
  obtain ⟨hsign, hwhole, hfraction, hexponent⟩ := h
  obtain ⟨s, hs, hruns⟩ := NumberState.runs_whole hwhole
  obtain ⟨s', hs', hruns'⟩ := NumberState.runs_fraction hfraction hs
  obtain ⟨s'', hs'', hruns''⟩ := NumberState.runs_exponent hexponent hs'
  exact ⟨_, hsign, _, s'', rfl, hs'', hruns.append (hruns'.append hruns'')⟩

theorem numberFrom_of_runs {s s' : NumberState} {cs : List Char} (h : NumberState.Runs s cs s')
    {rest ds left : List Char} (hrest : numberFrom s' rest = .ok (ds, left)) :
    numberFrom s (cs ++ rest) = .ok (cs ++ ds, left) := by
  induction h with
  | nil => exact hrest
  | cons hstep _ ih =>
      rw [List.cons_append, numberFrom, hstep]
      dsimp only
      rw [ih hrest]
      rfl

theorem numberFrom_whole {ds rest : List Char} (h : Whole ds) (hrest : Delimits rest) :
    numberFrom .start (ds ++ rest) = .ok (ds, rest) := by
  obtain ⟨s, hs, hruns⟩ := NumberState.runs_whole h
  obtain ⟨c, hc, cs, rfl⟩ := hrest
  have hcomplete : ∀ s ∈ [NumberState.zero, .whole], s.complete = true := by decide
  have hstop : numberFrom s (c :: cs) = .ok ([], c :: cs) := by
    rw [numberFrom, NumberState.step_of_mem_delimiters (hcomplete s hs) hc]
  rw [numberFrom_of_runs hruns hstop, List.append_nil]

/-! ## Integers -/

theorem Whole.digits_of_mem {ds : List Char} (h : Whole ds) : Digits ds := by
  cases h with
  | zero => simp [Digits]
  | digits hd _ hds => exact List.forall_mem_cons.2 ⟨hd, hds⟩

theorem Whole.append_ne_minus {ds : List Char} (h : Whole ds) (rest cs : List Char) :
    ds ++ rest ≠ '-' :: cs := by
  cases h with
  | zero => simp
  | digits hd _ _ =>
      intro heq
      obtain ⟨rfl, -⟩ := List.cons.inj heq
      cases hd

theorem ofLexeme_of_whole {ds : List Char} (h : Whole ds) :
    Numeral.ofLexeme ds = ⟨false, ds, [], none⟩ := by
  have hds := h.digits_of_mem
  have hsign : (ds.head? == some '-') = false := by
    rw [beq_eq_false_iff_ne, Ne, List.head?_eq_some_iff]
    rintro ⟨cs, rfl⟩
    exact h.append_ne_minus [] cs (List.append_nil _)
  simp [Numeral.ofLexeme, hsign, List.takeWhile_eq_self_iff.2 hds, List.dropWhile_eq_nil_iff.2 hds]

theorem ofLexeme_of_minus {ds : List Char} (h : Whole ds) :
    Numeral.ofLexeme ('-' :: ds) = ⟨true, ds, [], none⟩ := by
  have hds := h.digits_of_mem
  simp [Numeral.ofLexeme, List.takeWhile_eq_self_iff.2 hds, List.dropWhile_eq_nil_iff.2 hds]

theorem le_ofDigitChars (ds : List Char) (n : Nat) : n ≤ Nat.ofDigitChars 10 ds n := by
  rw [Nat.ofDigitChars_eq_ofDigitChars_zero]
  have hpow : 1 * n ≤ 10 ^ ds.length * n := Nat.mul_le_mul_right n (Nat.pow_pos (by decide))
  omega

/-- Digits are absorbed all together if the number that they make fits a word. -/
theorem absorb_of_lt {ds : List Char} {n : Nat} (h : Nat.ofDigitChars 10 ds n < UInt64.size) :
    absorb n ds = (Nat.ofDigitChars 10 ds n, []) := by
  induction ds generalizing n with
  | nil => rfl
  | cons d ds ih =>
      rw [Nat.ofDigitChars_cons] at h ⊢
      have hnext := Nat.lt_of_le_of_lt (le_ofDigitChars ds _) h
      rw [absorb, if_pos hnext, ih h]

theorem ofLexeme?_of_integerText {n : Int} {cs : List Char} (h : IntegerText n cs)
    (hn : n.natAbs < 0x8000000000000000) : Number.ofLexeme? cs = some (.integer n) := by
  have hsize : UInt64.size = 2 ^ 64 := rfl
  cases h with
  | nonneg hds =>
      have hlt : Nat.ofDigitChars 10 cs 0 < UInt64.size := by omega
      rw [Number.ofLexeme?, ofLexeme_of_whole hds, Numeral.value?, absorb_of_lt hlt]
      rfl
  | @neg ds hds hpos =>
      have hlt : Nat.ofDigitChars 10 ds 0 < UInt64.size := by omega
      have hmin : (Nat.ofDigitChars 10 ds 0 : Int) ≤ 9223372036854775808 := by omega
      rw [Number.ofLexeme?, ofLexeme_of_minus hds, Numeral.value?, absorb_of_lt hlt]
      simp [hpos, hmin]

theorem lexeme_of_integerText {n : Int} {cs rest : List Char} (h : IntegerText n cs)
    (hrest : Delimits rest) : lexeme (cs ++ rest) = .ok (cs, rest) := by
  cases h with
  | nonneg hds =>
      rw [lexeme, numberFrom_whole hds hrest]
      exact hds.append_ne_minus rest
  | neg hds hpos =>
      rw [List.cons_append, lexeme, numberFrom_whole hds hrest]
      rfl

theorem number_of_integerText {n : Int} {cs rest : List Char} (h : IntegerText n cs)
    (hn : n.natAbs < 0x8000000000000000) (hrest : Delimits rest) :
    number (cs ++ rest) = .ok (.integer n, rest) := by
  rw [number, lexeme_of_integerText h hrest]
  dsimp only
  rw [ofLexeme?_of_integerText h hn]

/-! ## Writing integers -/

theorem exists_toDigits_eq_cons {n : Nat} (hn : 0 < n) :
    ∃ d ds, Nat.toDigits 10 n = d :: ds ∧ d ≠ '0' := by
  induction n using Nat.base_induction 10 (by decide) with
  | single m hm =>
      exact ⟨m.digitChar, [], Nat.toDigits_of_lt_base hm, by simpa using hn.ne'⟩
  | digit m k hk hm ih =>
      obtain ⟨d, ds, heq, hd⟩ := ih hm
      refine ⟨d, ds ++ Nat.toDigits 10 k, ?_, hd⟩
      rw [← Nat.toDigits_append_toDigits (by decide) hm hk, heq, List.cons_append]

theorem whole_toDigits (n : Nat) : Whole (Nat.toDigits 10 n) := by
  rcases Nat.eq_zero_or_pos n with rfl | hn
  · exact .zero
  · obtain ⟨d, ds, heq, hzero⟩ := exists_toDigits_eq_cons hn
    have hdigits : Digits (d :: ds) := by
      intro c mem
      exact Nat.isDigit_of_mem_toDigits (by decide) (by decide) (heq ▸ mem)
    rw [heq]
    exact .digits (hdigits d List.mem_cons_self) hzero
      fun c mem => hdigits c (List.mem_cons_of_mem d mem)

theorem integerText_toString (n : Int) : IntegerText n (toString n).toList := by
  cases n with
  | ofNat n =>
      have hchars : (toString (Int.ofNat n)).toList = Nat.toDigits 10 n := Nat.toList_repr
      have htext := IntegerText.nonneg (whole_toDigits n)
      rw [Nat.ofDigitChars_ten_toDigits] at htext
      rw [hchars]
      exact htext
  | negSucc n =>
      have hchars : (toString (Int.negSucc n)).toList = '-' :: Nat.toDigits 10 (n + 1) := by
        change ("-" ++ Nat.repr (n + 1)).toList = _
        rw [String.toList_append, Nat.toList_repr]
        rfl
      have htext := IntegerText.neg (whole_toDigits (n + 1)) (by simp)
      rw [Nat.ofDigitChars_ten_toDigits] at htext
      rw [hchars]
      exact htext

end InbandNull.Json
