import InbandNull.Json.Reader
import InbandNull.Proofs.Json.Grammar

/-!
# Blanks and delimiters

Readers skip the blanks of the grammar and nothing else. Inside a list or an object every value is
followed by a blank, a comma or a closing bracket, and at any of these a number has ended.
-/

namespace InbandNull.Json

theorem isBlank_iff_mem {c : Char} : isBlank c = true ↔ c ∈ [' ', '\t', '\n', '\r'] := by
  simp [isBlank]

theorem ne_of_isDigit {c d : Char} (hd : d.isDigit = true) (hc : c.isDigit = false) : d ≠ c := by
  rintro rfl
  rw [hd] at hc
  cases hc

theorem isBlank_of_isDigit {d : Char} (hd : d.isDigit = true) : isBlank d = false := by
  have hspace := ne_of_isDigit (c := ' ') hd rfl
  have htab := ne_of_isDigit (c := '\t') hd rfl
  have hfeed := ne_of_isDigit (c := '\n') hd rfl
  have hreturn := ne_of_isDigit (c := '\r') hd rfl
  simp [isBlank, hspace, htab, hfeed, hreturn]

theorem blanks_nil : Blanks [] := List.forall_mem_nil _

theorem Blanks.append {cs ds : List Char} (hcs : Blanks cs) (hds : Blanks ds) :
    Blanks (cs ++ ds) := by
  intro c mem
  exact (List.mem_append.1 mem).elim (hcs c) (hds c)

theorem skipBlank_append {blanks : List Char} (h : Blanks blanks) (cs : List Char) :
    skipBlank (blanks ++ cs) = skipBlank cs := by
  apply List.dropWhile_append_of_pos
  intro c mem
  exact isBlank_iff_mem.2 (h c mem)

theorem skipBlank_of_blanks {blanks : List Char} (h : Blanks blanks) : skipBlank blanks = [] := by
  rw [← List.append_nil blanks, skipBlank_append h]
  rfl

/-- Blanks up to a character that is not blank. -/
theorem skipBlank_append_cons {blanks : List Char} (h : Blanks blanks) {c : Char}
    (hc : isBlank c = false) (cs : List Char) : skipBlank (blanks ++ c :: cs) = c :: cs := by
  rw [skipBlank_append h, skipBlank_of_not_isBlank hc]

/-- What may stand after a value inside a list or an object. -/
def delimiters : List Char := [' ', '\t', '\n', '\r', ',', ']', '\x7d']

def Delimits (rest : List Char) : Prop := ∃ c ∈ delimiters, ∃ cs, rest = c :: cs

theorem delimits_cons {c : Char} (h : c ∈ delimiters) (cs : List Char) : Delimits (c :: cs) :=
  ⟨c, h, cs, rfl⟩

theorem delimits_append {blanks rest : List Char} (h : Blanks blanks) (hrest : Delimits rest) :
    Delimits (blanks ++ rest) := by
  cases blanks with
  | nil => exact hrest
  | cons c cs =>
      have hc : c ∈ [' ', '\t', '\n', '\r'] := h c List.mem_cons_self
      exact ⟨c, List.mem_append_left [',', ']', '\x7d'] hc, cs ++ rest, rfl⟩

/-- Whether a text begins as a value does, neither with a blank nor with the end of a list. -/
def Begins (cs : List Char) : Prop := ∃ c ds, cs = c :: ds ∧ isBlank c = false ∧ c ≠ ']'

end InbandNull.Json
