import InbandNull.Json.Scalar
import InbandNull.Proofs.Json.Number
import InbandNull.Proofs.Json.Text

/-!
# Reading the values of fields

Each reader answers with the value that a text stands for, with blanks before the text and anything
behind it that may stand after a value. `ReadsAs` says so of a reader, a kind of text and a value.
-/

namespace InbandNull.Json

/-- The reader answers with `a` to every text of a kind, inside a list or an object. -/
def ReadsAs {α : Type} (read : Reader α) (text : List Char → Prop) (a : α) : Prop :=
  ∀ {blanks cs rest : List Char}, Blanks blanks → text cs → Delimits rest →
    read (blanks ++ (cs ++ rest)) = .ok (a, rest)

variable {blanks cs rest : List Char}

theorem colon_of_blanks (h : Blanks blanks) : colon (blanks ++ ':' :: cs) = .ok cs := by
  rw [colon, skipBlank_append_cons h rfl]
  rfl

theorem keyQuote_of_blanks (h : Blanks blanks) : keyQuote (blanks ++ '"' :: cs) = .ok cs := by
  rw [keyQuote, skipBlank_append_cons h rfl]
  rfl

theorem closingBrace_of_blanks (h : Blanks blanks) :
    closingBrace (blanks ++ '\x7d' :: cs) = .ok cs := by
  rw [closingBrace, skipBlank_append_cons h rfl]
  rfl

theorem null_of_blanks (h : Blanks blanks) :
    null (blanks ++ 'n' :: 'u' :: 'l' :: 'l' :: cs) = .ok cs := by
  rw [null, skipBlank_append_cons h rfl]
  rfl

theorem IntegerText.exists_cons {n : Int} (h : IntegerText n cs) :
    ∃ c ds, cs = c :: ds ∧ isBlank c = false ∧ (c = '-' ∨ c.isDigit = true) := by
  cases h with
  | nonneg hds =>
      cases hds with
      | zero => exact ⟨'0', [], rfl, rfl, .inr rfl⟩
      | digits hd _ _ => exact ⟨_, _, rfl, isBlank_of_isDigit hd, .inr hd⟩
  | neg _ _ => exact ⟨'-', _, rfl, rfl, .inl rfl⟩

theorem IntegerText.begins {n : Int} (h : IntegerText n cs) : Begins cs := by
  obtain ⟨c, ds, rfl, hblank, rfl | hc⟩ := h.exists_cons
  · exact ⟨'-', ds, rfl, rfl, by decide⟩
  · exact ⟨c, ds, rfl, hblank, ne_of_isDigit hc rfl⟩

theorem int32_readsAs (n : Int32) : ReadsAs int32 (IntegerText n.toInt) n := by
  intro blanks cs rest hblanks hcs hrest
  have hlower : Int32.minValue.toInt ≤ n.toInt := n.minValue_le_toInt
  have hupper : n.toInt ≤ Int32.maxValue.toInt := n.toInt_le
  have hsmall : n.toInt.natAbs < 0x8000000000000000 := by
    have hleast : Int32.minValue.toInt = -2 ^ 31 := rfl
    have hgreatest : Int32.maxValue.toInt = 2 ^ 31 - 1 := rfl
    omega
  have hnumber := number_of_integerText hcs hsmall hrest
  obtain ⟨c, ds, rfl, hblank, hc⟩ := hcs.exists_cons
  rw [int32, List.cons_append, skipBlank_append_cons hblanks hblank]
  dsimp only
  rw [if_pos hc, ← List.cons_append, hnumber]
  dsimp only
  rw [if_pos ⟨hlower, hupper⟩, Int32.ofInt_toInt]

theorem boolean_readsAs (b : Bool) : ReadsAs boolean (BooleanText b) b := by
  intro blanks cs rest hblanks hcs _
  cases hcs with
  | true =>
      rw [boolean, List.cons_append, skipBlank_append_cons hblanks rfl]
      rfl
  | false =>
      rw [boolean, List.cons_append, skipBlank_append_cons hblanks rfl]
      rfl

theorem string_readsAs (s : String) : ReadsAs string (StringText s) s := by
  intro blanks cs rest hblanks hcs _
  obtain ⟨hspells⟩ := hcs
  rw [string, List.cons_append, skipBlank_append_cons hblanks rfl, List.append_assoc]
  exact text_of_spells hspells rest

theorem optionalString_readsAs (s? : Option String) :
    ReadsAs optionalString (OptionalText s?) s? := by
  intro blanks cs rest hblanks hcs hrest
  cases hcs with
  | absent =>
      rw [optionalString, List.cons_append, skipBlank_append_cons hblanks rfl]
      rfl
  | present hstring =>
      obtain ⟨hspells⟩ := hstring
      have hread : string ('"' :: _) = _ := string_readsAs _ blanks_nil ⟨hspells⟩ hrest
      rw [optionalString, List.cons_append, skipBlank_append_cons hblanks rfl]
      exact congrArg (Except.map _) hread

/-! ## Enumerations -/

variable {α : Type} {members : List α} {key : α → String} {a : α}

theorem memberName_of_spells (hfind : members.find? (fun b => key b == key a) = some a)
    (h : Spells cs (key a).toList) :
    memberName members key (cs ++ '"' :: rest) = .ok (a, rest) := by
  rw [memberName, text_of_spells h]
  simp only [bind, Except.bind, hfind]

theorem choiceText_quote (name : String) : ChoiceText name (quote name).toList :=
  .name (stringText_quote name)

theorem ChoiceText.begins {name : String} (h : ChoiceText name cs) : Begins cs := by
  cases h with
  | name hname =>
      obtain ⟨_⟩ := hname
      exact ⟨'"', _, rfl, rfl, by decide⟩
  | object hobject =>
      cases hobject
      exact ⟨'\x7b', _, rfl, rfl, by decide⟩

theorem member_readsAs (hfind : members.find? (fun b => key b == key a) = some a) :
    ReadsAs (member members key) (ChoiceText (key a)) a := by
  intro blanks cs rest hblanks hcs _
  cases hcs with
  | name hname =>
      obtain ⟨hspells⟩ := hname
      rw [member, List.cons_append, skipBlank_append_cons hblanks rfl, List.append_assoc]
      exact memberName_of_spells hfind hspells
  | object hobject =>
      cases hobject with
      | items hitems =>
          cases hitems with
          | cons _ _ _ hnone => cases hnone
          | one hbefore hmember hafter =>
              obtain ⟨hspells, hcolon, hspace⟩ := hmember
              rw [member, List.cons_append, skipBlank_append_cons hblanks rfl]
              dsimp only
              rw [if_neg (by decide), if_pos rfl]
              simp only [List.append_assoc, List.cons_append, List.nil_append,
                keyQuote_of_blanks hbefore, bind, Except.bind, memberName_of_spells hfind hspells,
                colon_of_blanks hcolon, null_of_blanks hspace, closingBrace_of_blanks hafter]
              rfl

end InbandNull.Json
