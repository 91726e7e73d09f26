import InbandNull.Json.Skip
import InbandNull.Proofs.Json.Number
import InbandNull.Proofs.Json.Text

/-!
# Skipping values

The automaton that skips a value gets through every value of the grammar, of any depth, and leaves
off right behind it. `skipAfter` is where it must be after a value inside given frames; `Skips` says
that a text takes it there, and the main statement is an induction over the grammar.
-/

namespace InbandNull.Json

/-- What is left to do when a value inside the given frames has ended. -/
def skipAfter : List Frame → List Char → Except Fault (List Char)
  | [], cs => .ok cs
  | f :: fs, cs => skipFrom .after (f :: fs) cs

variable {s s' : SkipState} {frames frames' : List Frame} {c : Char} {cs rest : List Char}

theorem skipFrom_next (h : s.step frames c = .ok (.next s' frames')) (cs : List Char) :
    skipFrom s frames (c :: cs) = skipFrom s' frames' cs := by
  rw [skipFrom, h]

theorem skipFrom_finish (h : s.step frames c = .ok (SkipState.finish frames')) (cs : List Char) :
    skipFrom s frames (c :: cs) = skipAfter frames' cs := by
  rw [skipFrom, h]
  cases frames' with
  | nil => rfl
  | cons f fs => rfl

/-- Whether the automaton stays in a state while it reads blanks. -/
def WaitsIn (s : SkipState) (frames : List Frame) : Prop :=
  ∀ c, isBlank c = true → s.step frames c = .ok (.next s frames)

theorem waitsIn_of_mem (hs : s ∈ [.value, .firstElement, .firstKey, .key, .colon])
    (frames : List Frame) : WaitsIn s frames := by
  intro c hc
  simp only [List.mem_cons, List.not_mem_nil, or_false] at hs
  rcases hs with rfl | rfl | rfl | rfl | rfl <;> exact if_pos hc

theorem waitsIn_value (frames : List Frame) : WaitsIn .value frames := waitsIn_of_mem (by simp) _

theorem skipFrom_blanks (hs : WaitsIn s frames) {blanks : List Char} (h : Blanks blanks)
    (cs : List Char) :
    skipFrom s frames (blanks ++ cs) = skipFrom s frames cs := by
  induction blanks with
  | nil => rfl
  | cons c blanks ih =>
      have hc := hs c (isBlank_iff_mem.2 (h c List.mem_cons_self))
      rw [List.cons_append, skipFrom_next hc]
      exact ih fun c' mem => h c' (List.mem_cons_of_mem c mem)

theorem skipAfter_blanks (f : Frame) (fs : List Frame) {blanks : List Char} (h : Blanks blanks)
    (cs : List Char) : skipAfter (f :: fs) (blanks ++ cs) = skipAfter (f :: fs) cs := by
  apply skipFrom_blanks _ h
  intro c hc
  cases f with
  | list => exact if_pos hc
  | object => exact if_pos hc

/-! ## Numbers, strings and literals -/

theorem skipFrom_of_number_runs {n n' : NumberState} (h : NumberState.Runs n cs n') :
    skipFrom (.number n) frames (cs ++ rest) = skipFrom (.number n') frames rest := by
  induction h with
  | nil => rfl
  | cons hstep _ ih =>
      rw [List.cons_append, skipFrom_next (by rw [SkipState.step, hstep]), ih]

theorem skipFrom_complete_number {n : NumberState} (hn : n.complete = true)
    (hrest : Delimits rest) :
    skipFrom (.number n) frames rest = skipAfter frames rest := by
  obtain ⟨c, hc, cs, rfl⟩ := hrest
  have hstop := NumberState.step_of_mem_delimiters hn hc
  cases frames with
  | nil =>
      rw [skipFrom, SkipState.step, hstop]
      rfl
  | cons f fs => rw [skipFrom, SkipState.step, hstop, skipAfter, skipFrom, SkipState.step]

theorem skipFrom_of_text_runs {t t' : TextState} {outs : List Char} {isKey : Bool}
    (h : TextState.Runs false t cs t' outs) :
    skipFrom (.text t isKey) frames (cs ++ rest) = skipFrom (.text t' isKey) frames rest := by
  induction h with
  | nil => rfl
  | cons hstep _ ih =>
      rw [List.cons_append, skipFrom_next (by rw [SkipState.step, hstep]), ih]

/-- A text takes the automaton from before a value to after it, inside any frames. -/
def Skips (cs : List Char) : Prop :=
  ∀ frames rest, Delimits rest → skipFrom .value frames (cs ++ rest) = skipAfter frames rest

theorem skipFrom_word (w : Char) (ws : List Char) :
    skipFrom (.word (w :: ws)) frames (w :: ws ++ rest) = skipAfter frames rest := by
  induction ws generalizing w with
  | nil =>
      have hlast : (SkipState.word [w]).step frames w = .ok (SkipState.finish frames) :=
        if_neg (not_not.2 rfl)
      exact skipFrom_finish hlast rest
  | cons w' ws ih =>
      have hnext : (SkipState.word (w :: w' :: ws)).step frames w =
          .ok (.next (.word (w' :: ws)) frames) := if_neg (not_not.2 rfl)
      exact (skipFrom_next hnext _).trans (ih w')

theorem skips_literal {w : Char} {ws : List Char}
    (hc : ∀ frames, SkipState.value.step frames c = .ok (.next (.word (w :: ws)) frames)) :
    Skips (c :: w :: ws) := by
  intro frames rest _
  exact (skipFrom_next (hc frames) _).trans (skipFrom_word w ws)

theorem skips_string (h : TextBody cs) : Skips ('"' :: (cs ++ ['"'])) := by
  intro frames rest _
  obtain ⟨outs, hruns⟩ := h.runs
  have hopen : SkipState.value.step frames '"' = .ok (.next (.text .plain false) frames) := rfl
  have hclose : (SkipState.text .plain false).step frames '"' = .ok (SkipState.finish frames) := rfl
  rw [List.cons_append, skipFrom_next hopen, List.append_assoc, skipFrom_of_text_runs hruns]
  exact skipFrom_finish hclose rest

theorem literalTail?_of_isDigit {d : Char} (hd : d.isDigit = true) : literalTail? d = none := by
  unfold literalTail?
  split
  · cases hd
  · cases hd
  · cases hd
  · rfl

/-- A number without a sign begins with a digit. -/
theorem NumberState.Runs.exists_digit {n : NumberState} {ds : List Char}
    (h : NumberState.Runs .start ds n) (hn : n.complete = true) :
    ∃ d ds', ds = d :: ds' ∧ d.isDigit = true := by
  cases h with
  | nil => cases hn
  | @cons _ n' _ d ds' hstep _ =>
      refine ⟨d, ds', rfl, ?_⟩
      rw [NumberState.step] at hstep
      split_ifs at hstep with hzero hdigit
      · rw [hzero]
        rfl
      · exact hdigit

theorem step_value_digit {d : Char} (hd : d.isDigit = true) {n : NumberState}
    (hn : NumberState.start.step d = .next n) :
    SkipState.value.step frames d = .ok (.next (.number n) frames) := by
  have hquote := ne_of_isDigit (c := '"') hd rfl
  have hlist := ne_of_isDigit (c := '[') hd rfl
  have hobject := ne_of_isDigit (c := '\x7b') hd rfl
  have hminus := ne_of_isDigit (c := '-') hd rfl
  simp only [SkipState.step, isBlank_of_isDigit hd, SkipState.beginValue, hquote, hlist, hobject,
    hminus, literalTail?_of_isDigit hd, hn, Bool.false_eq_true, if_false]

theorem skips_number (h : NumberText cs) : Skips cs := by
  intro frames rest hrest
  obtain ⟨sign, hsign, ds, n, rfl, hn, hruns⟩ := h.runs
  have hdigits : skipFrom (.number .start) frames (ds ++ rest) = skipAfter frames rest := by
    rw [skipFrom_of_number_runs hruns, skipFrom_complete_number hn hrest]
  simp only [List.mem_cons, List.not_mem_nil, or_false] at hsign
  rcases hsign with rfl | rfl
  · obtain ⟨d, ds', rfl, hd⟩ := hruns.exists_digit hn
    cases hruns with
    | @cons _ n' _ _ _ hstep _ =>
        have hnumber :
            (SkipState.number .start).step frames d = .ok (.next (.number n') frames) := by
          rw [SkipState.step, hstep]
        rw [← hdigits, List.nil_append, List.cons_append, skipFrom_next hnumber]
        exact skipFrom_next (step_value_digit hd hstep) _
  · exact (skipFrom_next rfl _).trans hdigits

/-! ## Lists and objects -/

theorem skipFrom_firstElement {elements : List (List Char)}
    (h : Separated Eq elements cs) (helements : ∀ e ∈ elements, Begins e) :
    skipFrom .firstElement (.list :: frames) (cs ++ rest) =
      skipFrom .value (.list :: frames) (cs ++ rest) := by
  have hfirst : ∀ {before e : List Char} (tail : List Char), Blanks before → Begins e →
      skipFrom .firstElement (.list :: frames) (before ++ (e ++ tail)) =
        skipFrom .value (.list :: frames) (before ++ (e ++ tail)) := by
    rintro before e tail hbefore ⟨c, ds, rfl, hblank, hclose⟩
    have hstep : SkipState.firstElement.step (.list :: frames) c =
        SkipState.value.step (.list :: frames) c := by
      simp only [SkipState.step, hblank, hclose, Bool.false_eq_true, if_false]
    rw [skipFrom_blanks (waitsIn_of_mem (s := .firstElement) (by simp) _) hbefore,
      skipFrom_blanks (waitsIn_value _) hbefore, List.cons_append, skipFrom, skipFrom, hstep]
  cases h with
  | one hbefore he _ =>
      subst he
      have hbegins := helements _ List.mem_cons_self
      simpa only [List.append_assoc] using hfirst _ hbefore hbegins
  | cons hbefore he _ _ =>
      subst he
      have hbegins := helements _ List.mem_cons_self
      simpa only [List.append_assoc] using hfirst _ hbefore hbegins

/-- One element of a list, with the blanks around it. -/
theorem skipFrom_element {before e after : List Char} (hbefore : Blanks before) (he : Skips e)
    (hafter : Blanks after) (hrest : Delimits rest) (f : Frame) :
    skipFrom .value (f :: frames) (before ++ (e ++ (after ++ rest))) =
      skipFrom .after (f :: frames) rest := by
  rw [skipFrom_blanks (waitsIn_value _) hbefore, he _ _ (delimits_append hafter hrest),
    skipAfter_blanks f frames hafter]
  rfl

theorem skipFrom_elements {elements : List (List Char)} (h : Separated Eq elements cs)
    (helements : ∀ e ∈ elements, Skips e) :
    skipFrom .value (.list :: frames) (cs ++ ']' :: rest) = skipAfter frames rest := by
  induction h with
  | one hbefore he hafter =>
      subst he
      have hclose : SkipState.after.step (.list :: frames) ']' =
          .ok (SkipState.finish frames) := rfl
      have hdelimits := delimits_cons (c := ']') (by decide) rest
      rw [List.append_assoc, List.append_assoc,
        skipFrom_element hbefore (helements _ List.mem_cons_self) hafter hdelimits]
      exact skipFrom_finish hclose rest
  | @cons _ _ _ _ _ more hbefore he hafter _ ih =>
      subst he
      have hnext : SkipState.after.step (.list :: frames) ',' =
          .ok (.next .value (.list :: frames)) := rfl
      have hdelimits := delimits_cons (c := ',') (by decide) (more ++ ']' :: rest)
      rw [List.append_assoc, List.append_assoc, List.append_assoc, List.cons_append,
        skipFrom_element hbefore (helements _ List.mem_cons_self) hafter hdelimits,
        skipFrom_next hnext]
      exact ih fun e mem => helements e (List.mem_cons_of_mem _ mem)

theorem skips_list {elements : List (List Char)} (h : ListText elements cs)
    (hbegins : ∀ e ∈ elements, Begins e) (helements : ∀ e ∈ elements, Skips e) : Skips cs := by
  intro frames rest _
  have hopen : SkipState.value.step frames '[' = .ok (.next .firstElement (.list :: frames)) := rfl
  have hclose : SkipState.firstElement.step (.list :: frames) ']' =
      .ok (SkipState.finish frames) := rfl
  cases h with
  | empty hblanks =>
      rw [List.cons_append, skipFrom_next hopen, List.append_assoc,
        skipFrom_blanks (waitsIn_of_mem (by simp) _) hblanks]
      exact skipFrom_finish hclose rest
  | items hitems =>
      rw [List.cons_append, skipFrom_next hopen, List.append_assoc,
        skipFrom_firstElement hitems hbegins]
      exact skipFrom_elements hitems helements

/-- One member of an object, with the blanks around it. -/
theorem skipFrom_member {m : List Char × List Char} {before after : List Char}
    (hs : WaitsIn s (.object :: frames))
    (hquote : s.step (.object :: frames) '"' = .ok (.next (.text .plain true) (.object :: frames)))
    (hbefore : Blanks before) (hm : MemberText m cs) (hname : TextBody m.1) (hvalue : Skips m.2)
    (hafter : Blanks after) (hrest : Delimits rest) :
    skipFrom s (.object :: frames) (before ++ (cs ++ (after ++ rest))) =
      skipFrom .after (.object :: frames) rest := by
  obtain ⟨hcolon, hspace⟩ := hm
  obtain ⟨outs, hruns⟩ := hname.runs
  have hclose : (SkipState.text .plain true).step (.object :: frames) '"' =
      .ok (.next .colon (.object :: frames)) := rfl
  have hmark : SkipState.colon.step (.object :: frames) ':' =
      .ok (.next .value (.object :: frames)) := rfl
  rw [skipFrom_blanks hs hbefore, List.cons_append, skipFrom_next hquote, List.append_assoc,
    skipFrom_of_text_runs hruns, List.cons_append, skipFrom_next hclose, List.append_assoc,
    skipFrom_blanks (waitsIn_of_mem (s := .colon) (by simp) _) hcolon, List.cons_append,
    skipFrom_next hmark, List.append_assoc, skipFrom_element hspace hvalue hafter hrest]

theorem skipFrom_members {members : List (List Char × List Char)}
    (h : Separated MemberText members cs) (hnames : ∀ m ∈ members, TextBody m.1)
    (hvalues : ∀ m ∈ members, Skips m.2) (hs : WaitsIn s (.object :: frames))
    (hquote :
      s.step (.object :: frames) '"' = .ok (.next (.text .plain true) (.object :: frames))) :
    skipFrom s (.object :: frames) (cs ++ '\x7d' :: rest) = skipAfter frames rest := by
  induction h generalizing s with
  | one hbefore hm hafter =>
      have hclose : SkipState.after.step (.object :: frames) '\x7d' =
          .ok (SkipState.finish frames) := rfl
      have hdelimits := delimits_cons (c := '\x7d') (by decide) rest
      rw [List.append_assoc, List.append_assoc,
        skipFrom_member hs hquote hbefore hm (hnames _ List.mem_cons_self)
          (hvalues _ List.mem_cons_self) hafter hdelimits]
      exact skipFrom_finish hclose rest
  | @cons _ _ _ _ _ more hbefore hm hafter _ ih =>
      have hnext : SkipState.after.step (.object :: frames) ',' =
          .ok (.next .key (.object :: frames)) := rfl
      have hdelimits := delimits_cons (c := ',') (by decide) (more ++ '\x7d' :: rest)
      rw [List.append_assoc, List.append_assoc, List.append_assoc, List.cons_append,
        skipFrom_member hs hquote hbefore hm (hnames _ List.mem_cons_self)
          (hvalues _ List.mem_cons_self) hafter hdelimits, skipFrom_next hnext]
      exact ih (fun m mem => hnames m (List.mem_cons_of_mem _ mem))
        (fun m mem => hvalues m (List.mem_cons_of_mem _ mem)) (waitsIn_of_mem (by simp) _) rfl

theorem skips_object {members : List (List Char × List Char)} (h : ObjectText members cs)
    (hnames : ∀ m ∈ members, TextBody m.1) (hvalues : ∀ m ∈ members, Skips m.2) : Skips cs := by
  intro frames rest _
  have hopen : SkipState.value.step frames '\x7b' = .ok (.next .firstKey (.object :: frames)) := rfl
  have hclose : SkipState.firstKey.step (.object :: frames) '\x7d' =
      .ok (SkipState.finish frames) := rfl
  cases h with
  | empty hblanks =>
      rw [List.cons_append, skipFrom_next hopen, List.append_assoc,
        skipFrom_blanks (waitsIn_of_mem (by simp) _) hblanks]
      exact skipFrom_finish hclose rest
  | items hitems =>
      rw [List.cons_append, skipFrom_next hopen, List.append_assoc]
      exact skipFrom_members hitems hnames hvalues (waitsIn_of_mem (by simp) _) rfl

theorem ValueText.begins (h : ValueText cs) : Begins cs := by
  cases h with
  | null => exact ⟨'n', _, rfl, rfl, by decide⟩
  | true => exact ⟨'t', _, rfl, rfl, by decide⟩
  | false => exact ⟨'f', _, rfl, rfl, by decide⟩
  | number h =>
      obtain ⟨sign, hsign, ds, n, rfl, hn, hruns⟩ := h.runs
      obtain ⟨d, ds', rfl, hd⟩ := hruns.exists_digit hn
      simp only [List.mem_cons, List.not_mem_nil, or_false] at hsign
      rcases hsign with rfl | rfl
      · exact ⟨d, ds', rfl, isBlank_of_isDigit hd, ne_of_isDigit hd rfl⟩
      · exact ⟨'-', d :: ds', rfl, rfl, by decide⟩
  | string _ => exact ⟨'"', _, rfl, rfl, by decide⟩
  | list h _ => cases h <;> exact ⟨'[', _, rfl, rfl, by decide⟩
  | object h _ _ => cases h <;> exact ⟨'\x7b', _, rfl, rfl, by decide⟩

theorem ValueText.skips (h : ValueText cs) : Skips cs := by
  induction h with
  | null => exact skips_literal fun _ => rfl
  | true => exact skips_literal fun _ => rfl
  | false => exact skips_literal fun _ => rfl
  | number h => exact skips_number h
  | string h => exact skips_string h
  | list h helements ih => exact skips_list h (fun e mem => (helements e mem).begins) ih
  | object h hnames _ ih => exact skips_object h hnames ih

/-- Any value is skipped, with the blanks before it, and nothing behind it is touched. -/
theorem skipValue_of_valueText (h : ValueText cs) {blanks : List Char} (hblanks : Blanks blanks)
    (hrest : Delimits rest) : skipValue (blanks ++ (cs ++ rest)) = .ok rest := by
  rw [skipValue, skipFrom_blanks (waitsIn_value _) hblanks, h.skips [] rest hrest]
  rfl

end InbandNull.Json
