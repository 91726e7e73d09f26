import InbandNull.Json.Record
import InbandNull.Proofs.Json.Scalar
import InbandNull.Proofs.Json.Skip

/-!
# Reading records

A shape fits the entries of a record if each of its fields reads the texts of its entry into a draft
that still agrees with the record. The main statements say that such a shape reads every text of the
record, as an object or as a list. The draft that they give agrees with the record and has all
fields that were written. Of the draft nothing is said but that it agrees: so the order of the
members does not matter, and no two fields need ever be exchanged.
-/

namespace InbandNull.Json

variable {δ : Type} {s : Shape δ} {agrees : δ → Prop} {entries : List Entry}

/-- The field reads the texts of an entry, which keeps a draft in agreement with the record. -/
structure Field.Reads (fields : List (Field δ)) (agrees : δ → Prop) (f : Field δ) (e : Entry) :
    Prop where
  name_eq : f.name = e.name
  not_mayOmit : f.required = true → ¬ e.mayOmit
  read_eq : ∀ {d : δ} {blanks cs rest : List Char}, agrees d → Blanks blanks → e.text cs →
    Delimits rest → ∃ d', f.read d (blanks ++ (cs ++ rest)) = .ok (d', rest) ∧ agrees d' ∧
      ∀ g ∈ fields, g.isSet d' = (g.isSet d || g.name == f.name)

/-- The fields of a shape read the entries of a record, one by one. -/
def Shape.Fits (s : Shape δ) (agrees : δ → Prop) (entries : List Entry) : Prop :=
  List.Forall₂ (Field.Reads s.fields agrees) s.fields entries

/-- A field that is kept in one component of a draft reads an entry if its reader does and setting
the component leaves the others alone. -/
theorem Field.reads_of {β : Type} {fields : List (Field δ)} {name : String}
    {text : List Char → Prop} {mayOmit : Prop} {required : Bool} {read : Reader β}
    {get : δ → Option β} {set : δ → β → δ} {value : β} (hrequired : required = true → ¬ mayOmit)
    (hread : ReadsAs read text value) (hagrees : ∀ d, agrees d → agrees (set d value))
    (hset : ∀ d, ∀ g ∈ fields, g.isSet (set d value) = (g.isSet d || g.name == name)) :
    (Field.of name required read get set).Reads fields agrees ⟨name, text, mayOmit⟩ where
  name_eq := rfl
  not_mayOmit := hrequired
  read_eq := by
    intro d blanks cs rest hd hblanks hcs hrest
    have hvalue := hread hblanks hcs hrest
    refine ⟨set d value, ?_, hagrees d hd, hset d⟩
    change (read (blanks ++ (cs ++ rest))).map _ = _
    rw [hvalue]
    rfl

theorem exists_of_forall₂ {α β : Type} {R : α → β → Prop} {as : List α} {bs : List β}
    (h : List.Forall₂ R as bs) {a : α} (mem : a ∈ as) : ∃ b ∈ bs, R a b := by
  induction h with
  | nil => cases mem
  | cons hab _ ih =>
      rcases List.mem_cons.1 mem with rfl | mem
      · exact ⟨_, List.mem_cons_self, hab⟩
      · obtain ⟨b, bmem, hb⟩ := ih mem
        exact ⟨b, List.mem_cons_of_mem _ bmem, hb⟩

/-- The commas bound the number of items by the length of their text. -/
theorem Separated.length_le {α : Type} {item : α → List Char → Prop} {as : List α} {cs : List Char}
    (h : Separated item as cs) : as.length ≤ cs.length + 1 := by
  induction h with
  | one _ _ _ => simp
  | cons _ _ _ _ ih =>
      simp only [List.length_append, List.length_cons]
      omega

/-! ## Objects -/

/-- What stands between the values of two members, or before the first. -/
inductive Opens : Bool → List Char → Prop where
  | first {blanks : List Char} (h : Blanks blanks) : Opens true blanks
  | next {before after : List Char} (hbefore : Blanks before) (hafter : Blanks after) :
    Opens false (before ++ ',' :: after)

variable {first : Bool} {lead blanks cs rest : List Char} {d : δ}

theorem Opens.append (h : Opens first lead) (hblanks : Blanks blanks) :
    Opens first (lead ++ blanks) := by
  cases h with
  | first hlead => exact .first (hlead.append hblanks)
  | next hbefore hafter =>
      rw [List.append_assoc, List.cons_append]
      exact .next hbefore (hafter.append hblanks)

theorem nextKey_of_opens (h : Opens first lead) {name : String} (hname : Spells cs name.toList)
    (rest : List Char) :
    nextKey first (lead ++ '"' :: (cs ++ '"' :: rest)) = .ok (some name, rest) := by
  have htext := text_of_spells hname rest
  cases h with
  | first hlead =>
      rw [nextKey, skipBlank_append_cons hlead rfl]
      exact congrArg (Except.map _) htext
  | next hbefore hafter =>
      rw [nextKey, List.append_assoc, List.cons_append, skipBlank_append_cons hbefore rfl]
      dsimp only
      rw [if_neg (by decide), if_neg (by decide), if_pos rfl, keyQuote_of_blanks hafter]
      exact congrArg (· >>= fun p => Except.ok (some p.1, p.2)) htext

theorem nextKey_of_closing (h : Blanks blanks) :
    nextKey first (blanks ++ '\x7d' :: rest) = .ok (none, rest) := by
  rw [nextKey, skipBlank_append_cons h rfl]
  rfl

namespace Shape

theorem missing?_eq_none (h : ∀ f ∈ s.fields, f.required = true → f.isSet d = true) :
    s.missing? d = none := by
  rw [missing?, Option.map_eq_none_iff, List.find?_eq_none]
  intro f mem
  cases hrequired : f.required with
  | false => simp
  | true => simp [h f mem hrequired]

/-- The object ends once nothing is missing. -/
theorem members_of_closing (fuel : Nat) (hblanks : Blanks blanks)
    (hgiven : ∀ f ∈ s.fields, f.required = true → f.isSet d = true) :
    s.members (fuel + 1) first d (blanks ++ '\x7d' :: rest) = .ok (d, rest) := by
  rw [members, nextKey_of_closing hblanks]
  dsimp only
  rw [missing?_eq_none hgiven]

theorem find?_eq_some_or_none (s : Shape δ) (key : String) :
    (∃ f ∈ s.fields, f.name = key ∧ s.fields.find? (fun f => f.name == key) = some f) ∨
      (∀ f ∈ s.fields, f.name ≠ key) ∧ s.fields.find? (fun f => f.name == key) = none := by
  cases hfind : s.fields.find? (fun f => f.name == key) with
  | none => exact .inr ⟨by simpa using hfind, rfl⟩
  | some f =>
      have hname : f.name = key := by simpa using List.find?_some hfind
      exact .inl ⟨f, List.mem_of_find?_eq_some hfind, hname, rfl⟩

/-- What holds of a draft and the members still to be read into it. -/
structure Pending (s : Shape δ) (agrees : δ → Prop) (entries : List Entry) (d : δ)
    (ms : List (String × List Char)) : Prop where
  agrees : agrees d
  once : ∀ f ∈ s.fields, (f.isSet d).toNat + (ms.map Prod.fst).count f.name ≤ 1
  given : ∀ f ∈ s.fields, f.required = true → f.isSet d = true ∨ f.name ∈ ms.map Prod.fst
  value : ∀ e ∈ entries, ∀ m ∈ ms, m.1 = e.name → e.text m.2
  other : ∀ m ∈ ms, (∀ e ∈ entries, m.1 ≠ e.name) → ValueText m.2

variable {m : String × List Char} {ms : List (String × List Char)}

theorem Pending.isSet_eq_false (h : Pending s agrees entries d (m :: ms)) :
    ∀ f ∈ s.fields, f.name = m.1 → f.isSet d = false := by
  intro f mem hname
  have honce := h.once f mem
  rw [List.map_cons, hname, List.count_cons_self] at honce
  cases hset : f.isSet d with
  | false => rfl
  | true =>
      rw [hset, Bool.toNat_true] at honce
      omega

/-- Reading a member moves its name from the members that are left to the fields that are set. -/
theorem Pending.tail (h : Pending s agrees entries d (m :: ms)) {d' : δ} (hd' : agrees d')
    (hset : ∀ g ∈ s.fields, g.isSet d' = (g.isSet d || g.name == m.1)) :
    Pending s agrees entries d' ms where
  agrees := hd'
  once := by
    intro f mem
    have honce := h.once f mem
    rw [hset f mem]
    by_cases hname : f.name = m.1
    · rw [List.map_cons, hname, List.count_cons_self] at honce
      rw [h.isSet_eq_false f mem hname, hname, beq_self_eq_true, Bool.or_true, Bool.toNat_true]
      omega
    · rw [List.map_cons, List.count_cons_of_ne (Ne.symm hname)] at honce
      rwa [beq_eq_false_iff_ne.2 hname, Bool.or_false]
  given := by
    intro f mem hrequired
    rw [hset f mem, Bool.or_eq_true, beq_iff_eq]
    rcases h.given f mem hrequired with hd | hmem
    · exact .inl (.inl hd)
    · rcases List.mem_cons.1 hmem with hname | hmem
      · exact .inl (.inr hname)
      · exact .inr hmem
  value := fun e emem m' mem => h.value e emem m' (List.mem_cons_of_mem m mem)
  other := fun m' mem => h.other m' (List.mem_cons_of_mem m mem)

/-- One member, read into the draft if it is one of the fields and skipped if it is not. -/
theorem members_of_member (hfit : s.Fits agrees entries) (fuel : Nat) (hlead : Opens first lead)
    (hm : NamedMember m cs) (hpending : Pending s agrees entries d (m :: ms))
    (hrest : Delimits rest) :
    ∃ d', s.members (fuel + 1) first d (lead ++ (cs ++ rest)) = s.members fuel false d' rest ∧
      Pending s agrees entries d' ms ∧
      ∀ g ∈ s.fields, g.isSet d' = (g.isSet d || g.name == m.1) := by
  obtain @⟨name, spelling, value, _, hspells, hmember⟩ := hm
  obtain @⟨_, _, before, after, hcolon, hspace⟩ := hmember
  have hkey : nextKey first
      (lead ++ ('"' :: (spelling ++ '"' :: (before ++ ':' :: (after ++ value))) ++ rest)) =
        .ok (some name, before ++ ':' :: (after ++ (value ++ rest))) := by
    simpa using nextKey_of_opens hlead hspells (before ++ ':' :: (after ++ (value ++ rest)))
  -- Either the name is that of a field, which is not set yet, or the value is skipped.
  rcases find?_eq_some_or_none s name with ⟨f, mem, rfl, hfind⟩ | ⟨hname, hfind⟩
  · obtain ⟨e, emem, hreads⟩ := exists_of_forall₂ hfit mem
    have htext := hpending.value e emem _ List.mem_cons_self hreads.name_eq
    obtain ⟨d', hread, hd', hset⟩ := hreads.read_eq hpending.agrees hspace htext hrest
    refine ⟨d', ?_, hpending.tail hd' hset, hset⟩
    rw [members, hkey]
    dsimp only
    rw [hfind]
    dsimp only
    rw [hpending.isSet_eq_false f mem rfl, if_neg Bool.false_ne_true]
    simp only [bind, Except.bind, colon_of_blanks hcolon, hread]
  · have hskip : skipValue (after ++ (value ++ rest)) = .ok rest := by
      refine skipValue_of_valueText (hpending.other _ List.mem_cons_self ?_) hspace hrest
      intro e emem hentry
      have hflip : List.Forall₂ (flip (Field.Reads s.fields agrees)) entries s.fields := hfit.flip
      obtain ⟨f, mem, hreads⟩ := exists_of_forall₂ hflip emem
      exact hname f mem (hreads.name_eq.trans hentry.symm)
    have hset : ∀ g ∈ s.fields, g.isSet d = (g.isSet d || g.name == name) := by
      intro g mem
      simp [hname g mem]
    refine ⟨d, ?_, hpending.tail hpending.agrees hset, hset⟩
    rw [members, hkey]
    dsimp only
    rw [hfind]
    simp only [bind, Except.bind, colon_of_blanks hcolon, hskip]

/-- All members of an object, in whatever order they come. -/
theorem members_of_separated (hfit : s.Fits agrees entries) (h : Separated NamedMember ms cs)
    {fuel : Nat} (hfuel : ms.length < fuel) (hlead : Opens first lead)
    (hpending : Pending s agrees entries d ms) (rest : List Char) :
    ∃ d', s.members fuel first d (lead ++ (cs ++ '\x7d' :: rest)) = .ok (d', rest) ∧
      Pending s agrees entries d' [] ∧
      ∀ f ∈ s.fields, f.isSet d' = true ↔ f.isSet d = true ∨ f.name ∈ ms.map Prod.fst := by
  induction h generalizing fuel first lead d with
  | @one m before cs after hbefore hm hafter =>
      -- One step for the member and one for the closing brace.
      obtain ⟨fuel, rfl⟩ : ∃ n, fuel = n + 1 + 1 := Nat.exists_eq_add_of_le' hfuel
      have hdelimits := delimits_append hafter (delimits_cons (c := '\x7d') (by decide) rest)
      obtain ⟨d', hstep, hpending', hset⟩ :=
        members_of_member hfit (fuel + 1) (hlead.append hbefore) hm hpending hdelimits
      have hgiven : ∀ f ∈ s.fields, f.required = true → f.isSet d' = true := by
        intro f mem hrequired
        simpa using hpending'.given f mem hrequired
      refine ⟨d', ?_, hpending', ?_⟩
      · simp only [List.append_assoc] at hstep ⊢
        rw [hstep, members_of_closing fuel hafter hgiven]
      · intro f mem
        simp [hset f mem]
  | @cons m ms before cs after more hbefore hm hafter hmore ih =>
      obtain ⟨fuel, rfl⟩ := Nat.exists_eq_add_of_le' (Nat.one_le_of_lt hfuel)
      have hdelimits :=
        delimits_append hafter (delimits_cons (c := ',') (by decide) (more ++ '\x7d' :: rest))
      obtain ⟨d', hstep, hpending', hset⟩ :=
        members_of_member hfit fuel (hlead.append hbefore) hm hpending hdelimits
      obtain ⟨d'', hmembers, hpending'', hset'⟩ :=
        ih (Nat.lt_of_succ_lt_succ hfuel) (.next hafter blanks_nil) hpending'
      refine ⟨d'', ?_, hpending'', ?_⟩
      · simp only [List.append_assoc, List.cons_append, List.nil_append] at hstep hmembers ⊢
        rw [hstep, hmembers]
      · intro f mem
        rw [hset' f mem, hset f mem]
        simp [or_assoc]

theorem pending_of_describes (hfit : s.Fits agrees entries) (hd : agrees d)
    (hunset : ∀ f ∈ s.fields, f.isSet d = false) (h : Describes entries ms) :
    Pending s agrees entries d ms where
  agrees := hd
  once := by
    intro f mem
    obtain ⟨e, emem, hreads⟩ := exists_of_forall₂ hfit mem
    rw [hunset f mem, hreads.name_eq, Bool.toNat_false, Nat.zero_add]
    exact h.once e emem
  given := by
    intro f mem hrequired
    obtain ⟨e, emem, hreads⟩ := exists_of_forall₂ hfit mem
    rw [hreads.name_eq]
    exact .inr ((h.given e emem).resolve_right (hreads.not_mayOmit hrequired))
  value := h.value
  other := h.other

theorem read_of_brace (hblanks : Blanks blanks) :
    s.read d (blanks ++ '\x7b' :: cs) = s.members (cs.length + 1) true d cs := by
  rw [read, skipBlank_append_cons hblanks rfl]
  rfl

/-- Whether a draft has every field that may not be left out. -/
def Complete (s : Shape δ) (entries : List Entry) (d : δ) : Prop :=
  List.Forall₂ (fun f e => f.isSet d = true ∨ e.mayOmit) s.fields entries

theorem read_of_recordText (hfit : s.Fits agrees entries) (hd : agrees d)
    (hunset : ∀ f ∈ s.fields, f.isSet d = false) (hblanks : Blanks blanks)
    (h : RecordText entries cs) (rest : List Char) :
    ∃ d', s.read d (blanks ++ (cs ++ rest)) = .ok (d', rest) ∧ agrees d' ∧
      s.Complete entries d' := by
  obtain @⟨ms, _, hdescribes, hcs⟩ := h
  have hpending := pending_of_describes hfit hd hunset hdescribes
  have hobject : ∃ d', s.read d (blanks ++ (cs ++ rest)) = .ok (d', rest) ∧
      Pending s agrees entries d' [] ∧
      ∀ f ∈ s.fields, f.isSet d' = true ↔ f.isSet d = true ∨ f.name ∈ ms.map Prod.fst := by
    cases hcs with
    | @empty inner hinner =>
        have hgiven : ∀ f ∈ s.fields, f.required = true → f.isSet d = true := by
          intro f mem hrequired
          simpa using hpending.given f mem hrequired
        refine ⟨d, ?_, hpending, by simp⟩
        rw [List.cons_append, List.append_assoc, read_of_brace hblanks]
        exact members_of_closing _ hinner hgiven
    | @items _ inner hitems =>
        have hfuel : ms.length < (inner ++ '\x7d' :: rest).length + 1 := by
          have hlength := hitems.length_le
          rw [List.length_append, List.length_cons]
          omega
        obtain ⟨d', hmembers, hpending', hset⟩ :=
          members_of_separated hfit hitems hfuel (.first blanks_nil) hpending rest
        refine ⟨d', ?_, hpending', hset⟩
        rw [List.cons_append, List.append_assoc, read_of_brace hblanks]
        exact hmembers
  obtain ⟨d', hread, hpending', hset⟩ := hobject
  refine ⟨d', hread, hpending'.agrees, ?_⟩
  refine List.forall₂_iff_zip.2 ⟨hfit.length_eq, ?_⟩
  intro f e mem
  obtain ⟨fmem, emem⟩ := List.of_mem_zip mem
  have hname := (List.forall₂_zip hfit mem).name_eq
  rcases hdescribes.given e emem with hgiven | homit
  · exact .inl ((hset f fmem).2 (.inr (hname ▸ hgiven)))
  · exact .inr homit

/-! ## Lists -/

theorem nextElement_of_opens (hlead : Opens first lead) (hcs : Begins cs) :
    nextElement first (lead ++ (cs ++ rest)) = .ok (some (cs ++ rest)) := by
  obtain ⟨c, ds, rfl, hblank, hclose⟩ := hcs
  cases hlead with
  | first hlead =>
      rw [List.cons_append, nextElement, skipBlank_append_cons hlead hblank]
      dsimp only
      rw [if_neg hclose, if_pos rfl]
  | next hbefore hafter =>
      rw [List.append_assoc, List.cons_append, nextElement, skipBlank_append_cons hbefore rfl,
        List.cons_append]
      dsimp only
      rw [if_neg (by decide), if_neg Bool.false_ne_true, if_pos rfl,
        skipBlank_append_cons hafter hblank]
      dsimp only
      rw [if_neg hclose]

theorem closingBracket_of_blanks (h : Blanks blanks) :
    closingBracket (blanks ++ ']' :: rest) = .ok rest := by
  rw [closingBracket, skipBlank_append_cons h rfl]
  rfl

theorem elements_of_closing (s : Shape δ) (index : Nat) (first : Bool) (d : δ)
    (h : Blanks blanks) :
    s.elements [] index first d (blanks ++ ']' :: rest) = .ok (d, rest) := by
  rw [elements, closingBracket_of_blanks h]
  rfl

/-- One element, read into the field whose turn it is. -/
theorem elements_of_element {f : Field δ} {e : Entry} (hreads : f.Reads s.fields agrees e)
    (hlead : Opens first lead) (hcs : e.text cs) (hbegins : Begins cs) (hd : agrees d)
    (hrest : Delimits rest) (fs : List (Field δ)) (index : Nat) :
    ∃ d', s.elements (f :: fs) index first d (lead ++ (cs ++ rest)) =
        s.elements fs (index + 1) false d' rest ∧ agrees d' ∧
      ∀ g ∈ s.fields, g.isSet d' = (g.isSet d || g.name == f.name) := by
  obtain ⟨d', hread, hd', hset⟩ := hreads.read_eq hd blanks_nil hcs hrest
  refine ⟨d', ?_, hd', hset⟩
  rw [List.nil_append] at hread
  rw [elements, nextElement_of_opens hlead hbegins]
  simp only [bind, Except.bind, hread]

variable {fields : List (Field δ)} {values : List (List Char)}

/-- All elements of a list, one for each field. -/
theorem elements_of_separated (hfit : List.Forall₂ (Field.Reads s.fields agrees) fields entries)
    (htexts : List.Forall₂ (fun e value => e.text value ∧ Begins value) entries values)
    (h : Separated Eq values cs) (hlead : Opens first lead) (hd : agrees d) (index : Nat)
    (rest : List Char) :
    ∃ d', s.elements fields index first d (lead ++ (cs ++ ']' :: rest)) = .ok (d', rest) ∧
      agrees d' ∧ ∀ g ∈ s.fields, g.isSet d' = true ↔
        g.isSet d = true ∨ g.name ∈ fields.map Field.name := by
  induction h generalizing fields entries first lead d index with
  | @one value before _ after hbefore hvalue hafter =>
      subst hvalue
      obtain ⟨e, _, ⟨hvalue, hbegins⟩, htail, rfl⟩ := List.forall₂_cons_right_iff.1 htexts
      obtain ⟨f, _, hreads, hfittail, rfl⟩ := List.forall₂_cons_right_iff.1 hfit
      obtain rfl := List.forall₂_nil_right_iff.1 htail
      obtain rfl := List.forall₂_nil_right_iff.1 hfittail
      have hdelimits := delimits_append hafter (delimits_cons (c := ']') (by decide) rest)
      obtain ⟨d', hstep, hd', hset⟩ := elements_of_element hreads (hlead.append hbefore) hvalue
        hbegins hd hdelimits [] index
      refine ⟨d', ?_, hd', ?_⟩
      · simp only [List.append_assoc] at hstep ⊢
        rw [hstep, elements_of_closing s _ _ _ hafter]
      · intro g mem
        simp [hset g mem]
  | @cons value values before _ after more hbefore hvalue hafter hmore ih =>
      subst hvalue
      obtain ⟨e, entries, ⟨hvalue, hbegins⟩, htail, rfl⟩ := List.forall₂_cons_right_iff.1 htexts
      obtain ⟨f, fields, hreads, hfittail, rfl⟩ := List.forall₂_cons_right_iff.1 hfit
      have hdelimits :=
        delimits_append hafter (delimits_cons (c := ',') (by decide) (more ++ ']' :: rest))
      obtain ⟨d', hstep, hd', hset⟩ := elements_of_element hreads (hlead.append hbefore) hvalue
        hbegins hd hdelimits fields index
      obtain ⟨d'', helements, hd'', hset'⟩ :=
        ih hfittail htail (.next hafter blanks_nil) hd' (index + 1)
      refine ⟨d'', ?_, hd'', ?_⟩
      · simp only [List.append_assoc, List.cons_append, List.nil_append] at hstep helements ⊢
        rw [hstep, helements]
      · intro g mem
        rw [hset' g mem, hset g mem]
        simp [or_assoc]

theorem read_of_bracket (hblanks : Blanks blanks) :
    s.read d (blanks ++ '[' :: cs) = s.elements s.fields 0 true d cs := by
  rw [read, skipBlank_append_cons hblanks rfl]
  rfl

theorem read_of_rowText (hfit : s.Fits agrees entries) (hd : agrees d)
    (hbegins : ∀ e ∈ entries, ∀ value, e.text value → Begins value) (hblanks : Blanks blanks)
    (h : RowText entries cs) (rest : List Char) :
    ∃ d', s.read d (blanks ++ (cs ++ rest)) = .ok (d', rest) ∧ agrees d' ∧
      s.Complete entries d' := by
  obtain @⟨values, _, htexts, hcs⟩ := h
  have hlist : ∃ d', s.read d (blanks ++ (cs ++ rest)) = .ok (d', rest) ∧ agrees d' ∧
      ∀ g ∈ s.fields, g.isSet d' = true ↔
        g.isSet d = true ∨ g.name ∈ s.fields.map Field.name := by
    cases hcs with
    | @empty inner hinner =>
        have hentries : entries = [] := List.forall₂_nil_right_iff.1 htexts
        have hfields : s.fields = [] := List.forall₂_nil_right_iff.1 (hentries ▸ hfit)
        refine ⟨d, ?_, hd, by simp [hfields]⟩
        rw [List.cons_append, List.append_assoc, read_of_bracket hblanks, hfields]
        exact elements_of_closing s 0 true d hinner
    | @items _ inner hitems =>
        have hvalues : List.Forall₂ (fun e value => e.text value ∧ Begins value) entries values :=
          (List.forall₂_and_left (p := fun e => ∀ value, e.text value → Begins value) _ _).2
            ⟨hbegins, htexts⟩ |>.imp fun e value h => ⟨h.2, h.1 value h.2⟩
        obtain ⟨d', helements, hd', hset⟩ :=
          elements_of_separated hfit hvalues hitems (.first blanks_nil) hd 0 rest
        refine ⟨d', ?_, hd', hset⟩
        rw [List.cons_append, List.append_assoc, read_of_bracket hblanks]
        exact helements
  obtain ⟨d', hread, hd', hset⟩ := hlist
  refine ⟨d', hread, hd', List.forall₂_iff_zip.2 ⟨hfit.length_eq, ?_⟩⟩
  intro f e mem
  have fmem := (List.of_mem_zip mem).1
  exact .inl ((hset f fmem).2 (.inr (List.mem_map_of_mem fmem)))

end Shape

/-- A component of a draft that was read, or that has its default. -/
theorem getD_of_agrees {α : Type} {read? : Option α} {a default : α} (h : ∀ b ∈ read?, b = a)
    (hgiven : read?.isSome = true ∨ a = default) : read?.getD default = a := by
  cases read? with
  | none => exact (hgiven.resolve_left Bool.false_ne_true).symm
  | some b => exact h b rfl

/-! ## Documents -/

/-- A document is read if its value is, whatever stands behind it. -/
theorem document_of_documentText {α : Type} {read : Reader α} {text : List Char → Prop} {a : α}
    (hread : ∀ {blanks cs rest : List Char}, Blanks blanks → text cs →
      read (blanks ++ (cs ++ rest)) = .ok (a, rest))
    {document : String} (h : DocumentText text document.toList) :
    Json.document read document = .ok a := by
  rw [Json.document]
  generalize document.toList = chars at h
  obtain ⟨hbefore, hcs, hafter⟩ := h
  simp only [bind, Except.bind, hread hbefore hcs, skipBlank_of_blanks hafter]
  rfl

end InbandNull.Json
