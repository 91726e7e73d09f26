import InbandNull.Json.Text
import InbandNull.Proofs.Json.Grammar
import Mathlib.Tactic.IntervalCases

/-!
# Reading strings

The automaton for strings, run over a text of the grammar. `TextState.Runs` follows it from state to
state with the characters that it gives out. A text that spells a string gives out that string, and
the automaton that skips a string gets through every text. `quote` is one of the ways to spell.
-/

namespace InbandNull.Json

/-- The automaton gets from one state to another over a text, giving out characters. -/
inductive TextState.Runs (paired : Bool) :
    TextState → List Char → TextState → List Char → Prop where
  | nil {s : TextState} : Runs paired s [] s []
  | cons {s s' s'' : TextState} {c : Char} {cs : List Char} {out : Option Char} {outs : List Char}
    (hstep : s.step paired c = .ok (.next s' out)) (h : Runs paired s' cs s'' outs) :
    Runs paired s (c :: cs) s'' (out.toList ++ outs)

theorem TextState.Runs.append {paired : Bool} {s s' s'' : TextState} {cs cs' outs outs' : List Char}
    (h : Runs paired s cs s' outs) (h' : Runs paired s' cs' s'' outs') :
    Runs paired s (cs ++ cs') s'' (outs ++ outs') := by
  induction h with
  | nil => exact h'
  | cons hstep _ ih =>
      rw [List.append_assoc]
      exact .cons hstep (ih h')

theorem IsHex.hexDigit?_eq {v : Nat} {c : Char} (h : IsHex v c) : hexDigit? c = some v := by
  have hlower : ∀ v < 16, hexDigit? v.digitChar = some v := by decide
  have hupper : ∀ v < 16, hexDigit? v.digitChar.toUpper = some v := by decide
  obtain ⟨hv, rfl | rfl⟩ := h
  · exact hlower v hv
  · exact hupper v hv

theorem IsHex.utf8Size_eq {v : Nat} {c : Char} (h : IsHex v c) : c.utf8Size = 1 := by
  have hlower : ∀ v < 16, v.digitChar.utf8Size = 1 := by decide
  have hupper : ∀ v < 16, v.digitChar.toUpper.utf8Size = 1 := by decide
  obtain ⟨hv, rfl | rfl⟩ := h
  · exact hlower v hv
  · exact hupper v hv

namespace TextState

variable {paired : Bool} {s : TextState}

/-- The four digits of a code, read one by one. -/
theorem runs_code {high : Option Nat} {n : Nat} {code : List Char} (hn : Code n code)
    {out : Option Char} (hfinish : finishCode paired high n = .ok (.next s out)) :
    Runs paired (.code high 0 0 true) code s out.toList := by
  obtain @⟨i, j, k, l, a, b, c, d, ha, hb, hc, hd⟩ := hn
  have hdigit : ∀ {v : Nat} {c : Char}, IsHex v c → ∀ seen value, seen + 1 < 4 →
      step paired (.code high seen value true) c =
        .ok (.next (.code high (seen + 1) (16 * value + v) true) none) := by
    intro v c h seen value hseen
    simp only [step, h.hexDigit?_eq, h.utf8Size_eq]
    rw [if_pos hseen]
    rfl
  have hlast : ∀ value, 16 * value + l = 16 * (16 * (16 * i + j) + k) + l →
      step paired (.code high 3 value true) d = .ok (.next s out) := by
    intro value hvalue
    simp only [step, hd.hexDigit?_eq, hd.utf8Size_eq, Option.getD_some, hvalue, hfinish]
    rfl
  have hruns := Runs.cons (hdigit ha 0 0 (by decide)) <| .cons (hdigit hb 1 _ (by decide)) <|
    .cons (hdigit hc 2 _ (by decide)) <| .cons (hlast _ (by simp)) .nil
  simpa using hruns

theorem step_unescaped {c : Char} (hc : Unescaped c) :
    step paired .plain c = .ok (.next .plain (some c)) := by
  obtain ⟨hspace, hquote, hbackslash⟩ := hc
  rw [step, if_neg hquote, if_neg hbackslash, if_neg (Nat.not_lt.2 hspace)]

theorem step_backslash : step paired .plain '\\' = .ok (.next .escape none) := rfl

theorem step_escape {e c : Char} (he : Escape e c) :
    step paired .escape e = .ok (.next .plain (some c)) := by
  cases he <;> rfl

theorem step_escape_code :
    step paired .escape 'u' = .ok (.next (.code none 0 0 true) none) := rfl

theorem step_low (high : Nat) :
    step paired (.low high) '\\' = .ok (.next (.lowMark high) none) := rfl

theorem step_lowMark (high : Nat) :
    step paired (.lowMark high) 'u' = .ok (.next (.code (some high) 0 0 true) none) := rfl

/-- No character is a surrogate. -/
theorem finishCode_of_char (c : Char) :
    finishCode true none c.toNat = .ok (.next .plain (some c)) := by
  have hvalid : c.toNat < 0xD800 ∨ 0xDFFF < c.toNat ∧ c.toNat < 0x110000 := c.valid
  have hlow : isLowSurrogate c.toNat = false := by
    simp only [isLowSurrogate, decide_eq_false_iff_not]
    omega
  have hhigh : isHighSurrogate c.toNat = false := by
    simp only [isHighSurrogate, decide_eq_false_iff_not]
    omega
  simp [finishCode, hlow, hhigh]

theorem finishCode_of_high {i : Nat} (hi : i < 0x400) :
    finishCode true none (0xD800 + i) = .ok (.next (.low (0xD800 + i)) none) := by
  have hlow : isLowSurrogate (0xD800 + i) = false := by
    simp only [isLowSurrogate, decide_eq_false_iff_not]
    omega
  have hhigh : isHighSurrogate (0xD800 + i) = true := by
    simp only [isHighSurrogate, decide_eq_true_iff]
    omega
  simp [finishCode, hlow, hhigh]

theorem finishCode_of_low {c : Char} {i j : Nat} (hj : j < 0x400)
    (hc : c.toNat = 0x10000 + i * 0x400 + j) :
    finishCode true (some (0xD800 + i)) (0xDC00 + j) = .ok (.next .plain (some c)) := by
  have hlow : isLowSurrogate (0xDC00 + j) = true := by
    simp only [isLowSurrogate, decide_eq_true_iff]
    omega
  have hvalue : 0x10000 + (0xD800 + i - 0xD800) * 0x400 + (0xDC00 + j - 0xDC00) = c.toNat := by
    omega
  simp only [finishCode, hlow, if_true, hvalue, Char.ofNat_toNat]

end TextState

/-- The text of a string gives out the string. -/
theorem Spells.runs {cs s : List Char} (h : Spells cs s) :
    TextState.Runs true .plain cs .plain s := by
  induction h with
  | nil => exact .nil
  | unescaped hc _ ih => exact .cons (TextState.step_unescaped hc) ih
  | escape he _ ih => exact .cons TextState.step_backslash <| .cons (TextState.step_escape he) ih
  | @code c _ _ _ hc _ ih =>
      have hcode := TextState.runs_code hc (TextState.finishCode_of_char c)
      exact .cons TextState.step_backslash <| .cons TextState.step_escape_code (hcode.append ih)
  | pair hi hj hhigh hlow hc _ ih =>
      have hfirst := TextState.runs_code hhigh (TextState.finishCode_of_high hi)
      have hsecond := TextState.runs_code hlow (TextState.finishCode_of_low hj hc)
      exact .cons TextState.step_backslash <| .cons TextState.step_escape_code <|
        hfirst.append <| .cons (TextState.step_low _) <| .cons (TextState.step_lowMark _) <|
          hsecond.append ih

theorem TextBody.runs {cs : List Char} (h : TextBody cs) :
    ∃ outs, TextState.Runs false .plain cs .plain outs := by
  induction h with
  | nil => exact ⟨_, .nil⟩
  | unescaped hc _ ih =>
      obtain ⟨outs, hruns⟩ := ih
      exact ⟨_, .cons (TextState.step_unescaped hc) hruns⟩
  | escape he _ ih =>
      obtain ⟨outs, hruns⟩ := ih
      exact ⟨_, .cons TextState.step_backslash <| .cons (TextState.step_escape he) hruns⟩
  | code hn _ ih =>
      obtain ⟨outs, hruns⟩ := ih
      have hcode : TextState.Runs false (.code none 0 0 true) _ .plain _ :=
        TextState.runs_code hn rfl
      exact ⟨_, .cons TextState.step_backslash <|
        .cons TextState.step_escape_code (hcode.append hruns)⟩

theorem textFrom_of_runs {s s' : TextState} {cs outs : List Char}
    (h : TextState.Runs true s cs s' outs) {rest t left : List Char}
    (hrest : textFrom s' rest = .ok (t, left)) :
    textFrom s (cs ++ rest) = .ok (outs ++ t, left) := by
  induction h with
  | nil => exact hrest
  | cons hstep _ ih =>
      rw [List.cons_append, textFrom, hstep]
      dsimp only
      rw [ih hrest, List.append_assoc]

/-- A string is read from any text that spells it. -/
theorem text_of_spells {name : String} {cs : List Char} (h : Spells cs name.toList)
    (rest : List Char) : text (cs ++ '"' :: rest) = .ok (name, rest) := by
  have hclose : textFrom .plain ('"' :: rest) = .ok ([], rest) := rfl
  rw [text, textFrom_of_runs h.runs hclose, List.append_nil]
  exact congrArg (fun t => Except.ok (t, rest)) String.ofList_toList

/-! ## Writing strings -/

theorem isHex_digitChar {v : Nat} (hv : v < 16) : IsHex v v.digitChar := ⟨hv, .inl rfl⟩

theorem code_of_lt {n : Nat} (hn : n < 0x100) :
    Code n ['0', '0', Nat.digitChar (n / 16), Nat.digitChar (n % 16)] := by
  have hzero : IsHex 0 '0' := isHex_digitChar (by decide)
  have hcode := Code.mk hzero hzero (isHex_digitChar (v := n / 16) (by omega))
    (isHex_digitChar (v := n % 16) (by omega))
  have hvalue : 16 * (16 * (16 * 0 + 0) + n / 16) + n % 16 = n := by omega
  rwa [hvalue] at hcode

theorem Spells.quoteChar {c : Char} {cs s : List Char} (h : Spells cs s) :
    Spells (Json.quoteChar c ++ cs) (c :: s) := by
  unfold Json.quoteChar
  split_ifs with hquote hbackslash hbackspace hformFeed hlineFeed hreturn htab hcontrol
  · subst hquote
    exact .escape .quotationMark h
  · subst hbackslash
    exact .escape .backslash h
  · subst hbackspace
    exact .escape .backspace h
  · subst hformFeed
    exact .escape .formFeed h
  · subst hlineFeed
    exact .escape .lineFeed h
  · subst hreturn
    exact .escape .carriageReturn h
  · subst htab
    exact .escape .tab h
  · exact .code (code_of_lt (by omega)) h
  · exact .unescaped ⟨Nat.not_lt.1 hcontrol, hquote, hbackslash⟩ h

theorem spells_flatMap_quoteChar (s : List Char) : Spells (s.flatMap quoteChar) s := by
  induction s with
  | nil => exact .nil
  | cons c s ih => exact ih.quoteChar

theorem stringText_quote (s : String) : StringText s (quote s).toList := by
  rw [quote, String.toList_ofList]
  exact ⟨spells_flatMap_quoteChar s.toList⟩

end InbandNull.Json
