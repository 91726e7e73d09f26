import InbandNull.Proofs.Json.Record
import Mathlib.Data.List.Nodup

/-!
# Writing records

A record is written without blanks, as an object of its fields in their order of declaration. This
is one of its texts, whatever the texts of the values are.
-/

namespace InbandNull.Json

theorem spells_of_unescaped {s : List Char} (h : ∀ c ∈ s, Unescaped c) : Spells s s := by
  induction s with
  | nil => exact .nil
  | cons c s ih =>
      obtain ⟨hc, hs⟩ := List.forall_mem_cons.1 h
      exact .unescaped hc (ih hs)

instance (c : Char) : Decidable (Unescaped c) := inferInstanceAs (Decidable (_ ∧ _ ∧ _))

/-- Whether a name can be written as it is. -/
def isPlain (name : String) : Bool := name.toList.all fun c => Unescaped c

theorem spells_of_isPlain {name : String} (h : isPlain name = true) :
    Spells name.toList name.toList := by
  refine spells_of_unescaped fun c mem => ?_
  simpa using List.all_eq_true.1 h c mem

/-- A member without blanks, its name written as it is. -/
def compactMember (m : String × List Char) : List Char :=
  '"' :: (m.1.toList ++ '"' :: ':' :: m.2)

theorem namedMember_compactMember {m : String × List Char} (h : isPlain m.1 = true) :
    NamedMember m (compactMember m) :=
  .mk (spells_of_isPlain h) (.mk blanks_nil blanks_nil)

/-- Items with nothing but commas between them. -/
theorem separated_of_commas {α : Type} {item : α → List Char → Prop} {text : α → List Char}
    (a : α) (as : List α) (h : ∀ b ∈ a :: as, item b (text b)) :
    Separated item (a :: as) (text a ++ as.flatMap fun b => ',' :: text b) := by
  induction as generalizing a with
  | nil =>
      rw [List.flatMap_nil]
      exact .one blanks_nil (h a List.mem_cons_self) blanks_nil
  | cons b bs ih =>
      have hbs := ih b fun c mem => h c (List.mem_cons_of_mem a mem)
      exact .cons blanks_nil (h a List.mem_cons_self) blanks_nil hbs

/-- An object without blanks, of at least one member. -/
def compactObject (m : String × List Char) (ms : List (String × List Char)) : List Char :=
  '\x7b' :: (compactMember m ++ (ms.flatMap fun m => ',' :: compactMember m) ++ ['\x7d'])

variable {entries : List Entry} {m : String × List Char} {ms : List (String × List Char)}

/-- Members with plain names, in the order in which they are listed. -/
theorem recordText_of_describes (h : Describes entries (m :: ms))
    (hplain : ∀ name ∈ (m :: ms).map Prod.fst, isPlain name = true) :
    RecordText entries (compactObject m ms) := by
  refine .mk h (.items (separated_of_commas m ms ?_))
  intro m' mem
  exact namedMember_compactMember (hplain m'.1 (List.mem_map_of_mem mem))

/-- The members have the names and the texts of the fields, one by one. -/
def Writes (entries : List Entry) (members : List (String × List Char)) : Prop :=
  List.Forall₂ (fun e m => m.1 = e.name ∧ e.text m.2) entries members

theorem Writes.cons {name : String} {text : List Char → Prop} {mayOmit : Prop} {value : List Char}
    {members : List (String × List Char)} (hvalue : text value) (h : Writes entries members) :
    Writes (⟨name, text, mayOmit⟩ :: entries) ((name, value) :: members) :=
  List.Forall₂.cons ⟨rfl, hvalue⟩ h

theorem Writes.map_fst {members : List (String × List Char)} (h : Writes entries members) :
    members.map Prod.fst = entries.map Entry.name := by
  induction h with
  | nil => rfl
  | cons hm _ ih => rw [List.map_cons, List.map_cons, hm.1, ih]

theorem Writes.describes {members : List (String × List Char)} (h : Writes entries members)
    (hnodup : (entries.map Entry.name).Nodup) : Describes entries members := by
  have hentry : ∀ m ∈ members, ∃ e ∈ entries, m.1 = e.name ∧ e.text m.2 := by
    intro m mem
    exact exists_of_forall₂ h.flip mem
  refine ⟨?once, ?given, ?value, ?other⟩
  case once =>
    intro e _
    rw [h.map_fst]
    exact List.nodup_iff_count_le_one.1 hnodup e.name
  case given =>
    intro e mem
    rw [h.map_fst]
    exact .inl (List.mem_map_of_mem mem)
  case value =>
    intro e emem m mem hname
    obtain ⟨e', emem', hname', htext⟩ := hentry m mem
    rwa [List.inj_on_of_nodup_map hnodup emem emem' (hname.symm.trans hname')]
  case other =>
    intro m mem hother
    obtain ⟨e, emem, hname, _⟩ := hentry m mem
    exact absurd hname (hother e emem)

/-- A record of fields with plain names, written field by field. -/
theorem Writes.recordText (h : Writes entries (m :: ms)) (names : List String)
    (hnames : entries.map Entry.name = names) (hnodup : names.Nodup)
    (hplain : ∀ name ∈ names, isPlain name = true) :
    RecordText entries (compactObject m ms) := by
  subst hnames
  refine recordText_of_describes (h.describes hnodup) ?_
  rwa [h.map_fst]

/-- A value without blanks around it is a document. -/
theorem documentText_of_text {text : List Char → Prop} {cs : List Char} (h : text cs) :
    DocumentText text cs := by
  simpa using DocumentText.mk blanks_nil h blanks_nil

end InbandNull.Json
