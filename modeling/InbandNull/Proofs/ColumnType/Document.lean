import InbandNull.ColumnType.Document
import InbandNull.Proofs.Json.Compact

/-!
# Reading column types

`ColumnType.entries` are the five fields of a column type with the texts of their values. Every
document that gives them, as an object or as a list, is read as that column type. The document that
`toJson` writes is one of these.
-/

namespace InbandNull

open Json

theorem SqlType.find?_key (t : SqlType) : all.find? (fun u => u.key == t.key) = some t := by
  cases t <;> decide

theorem Encoding.find?_key (e : Encoding) : all.find? (fun f => f.key == e.key) = some e := by
  cases e <;> decide

namespace ColumnType

/-- The fields of a column type. The encoding and its parameter may be left out where they have
their defaults. -/
def entries (c : ColumnType) : List Entry :=
  [⟨"sql_type", ChoiceText c.sqlType.key, False⟩,
    ⟨"compression", ChoiceText c.encoding.key, c.encoding = default⟩,
    ⟨"comp_param", IntegerText c.param.toInt, c.param = 0⟩,
    ⟨"size", IntegerText c.size.toInt, False⟩,
    ⟨"logical_size", IntegerText c.logicalSize.toInt, False⟩]

/-- What has been read is so of the column type. -/
structure Draft.Agrees (c : ColumnType) (d : Draft) : Prop where
  sqlType : ∀ t ∈ d.sqlType, t = c.sqlType
  encoding : ∀ e ∈ d.encoding, e = c.encoding
  param : ∀ n ∈ d.param, n = c.param
  size : ∀ n ∈ d.size, n = c.size
  logicalSize : ∀ n ∈ d.logicalSize, n = c.logicalSize

variable (c : ColumnType)

theorem Draft.agrees_empty : Agrees c {} := by
  constructor <;> simp

theorem Draft.shape_fits : shape.Fits (Agrees c) c.entries := by
  refine .cons ?sqlType <| .cons ?encoding <| .cons ?param <| .cons ?size <| .cons ?logicalSize .nil
  case sqlType =>
    refine Field.reads_of (by simp) (member_readsAs c.sqlType.find?_key) (fun d h => ?_) ?_
    · exact { h with sqlType := by simp }
    · simp [shape, Field.of]
  case encoding =>
    refine Field.reads_of (by simp) (member_readsAs c.encoding.find?_key) (fun d h => ?_) ?_
    · exact { h with encoding := by simp }
    · simp [shape, Field.of]
  case param =>
    refine Field.reads_of (by simp) (int32_readsAs c.param) (fun d h => ?_) ?_
    · exact { h with param := by simp }
    · simp [shape, Field.of]
  case size =>
    refine Field.reads_of (by simp) (int32_readsAs c.size) (fun d h => ?_) ?_
    · exact { h with size := by simp }
    · simp [shape, Field.of]
  case logicalSize =>
    refine Field.reads_of (by simp) (int32_readsAs c.logicalSize) (fun d h => ?_) ?_
    · exact { h with logicalSize := by simp }
    · simp [shape, Field.of]

variable {c}

/-- A draft that lacks nothing but defaults is the column type. -/
theorem Draft.toColumnType?_of_complete {d : Draft} (hd : Agrees c d)
    (hcomplete : shape.Complete c.entries d) : d.toColumnType? = some c := by
  simp only [Shape.Complete, shape, entries, Field.of, List.forall₂_cons, or_false] at hcomplete
  obtain ⟨hsqlType, hencoding, hparam, hsize, hlogicalSize, -⟩ := hcomplete
  obtain ⟨t, ht⟩ := Option.isSome_iff_exists.1 hsqlType
  obtain ⟨size, hsize⟩ := Option.isSome_iff_exists.1 hsize
  obtain ⟨logicalSize, hlogicalSize⟩ := Option.isSome_iff_exists.1 hlogicalSize
  rw [toColumnType?, ht, hsize, hlogicalSize, getD_of_agrees hd.encoding hencoding,
    getD_of_agrees hd.param hparam, hd.sqlType t ht, hd.size size hsize,
    hd.logicalSize logicalSize hlogicalSize]
  rfl

/-- A document is read as a column type if its text fills a draft of it. -/
theorem ofJson_of_draft {text : List Char → Prop}
    (hread : ∀ {blanks cs : List Char} (rest : List Char), Blanks blanks → text cs →
      ∃ d, Draft.shape.read {} (blanks ++ (cs ++ rest)) = .ok (d, rest) ∧ d.Agrees c ∧
        Draft.shape.Complete c.entries d)
    {s : String} (h : DocumentText text s.toList) : ofJson s = .ok c := by
  have hdocument : document read s = .ok c := by
    refine document_of_documentText (fun {blanks cs rest} hblanks hcs => ?_) h
    obtain ⟨d, hdraft, hd, hcomplete⟩ := hread rest hblanks hcs
    simp only [read, hdraft, bind, Except.bind, Draft.toColumnType?_of_complete hd hcomplete]
  rw [ofJson, hdocument]
  rfl

theorem ofJson_of_recordText {s : String} (h : DocumentText (RecordText c.entries) s.toList) :
    ofJson s = .ok c := by
  refine ofJson_of_draft (fun rest hblanks hcs => ?_) h
  exact Shape.read_of_recordText (Draft.shape_fits c) (Draft.agrees_empty c) (by decide) hblanks
    hcs rest

theorem begins_of_mem_entries {e : Entry} (mem : e ∈ c.entries) {value : List Char}
    (h : e.text value) : Begins value := by
  simp only [entries, List.mem_cons, List.not_mem_nil, or_false] at mem
  rcases mem with rfl | rfl | rfl | rfl | rfl
  · exact ChoiceText.begins h
  · exact ChoiceText.begins h
  · exact IntegerText.begins h
  · exact IntegerText.begins h
  · exact IntegerText.begins h

theorem ofJson_of_rowText {s : String} (h : DocumentText (RowText c.entries) s.toList) :
    ofJson s = .ok c := by
  refine ofJson_of_draft (fun rest hblanks hcs => ?_) h
  exact Shape.read_of_rowText (Draft.shape_fits c) (Draft.agrees_empty c)
    (fun e mem value => begins_of_mem_entries mem) hblanks hcs rest

theorem recordText_toJson (c : ColumnType) : RecordText c.entries c.toJson.toList := by
  have hmembers : Writes c.entries
      [("sql_type", (quote c.sqlType.key).toList), ("compression", (quote c.encoding.key).toList),
        ("comp_param", (toString c.param.toInt).toList), ("size", (toString c.size.toInt).toList),
        ("logical_size", (toString c.logicalSize.toInt).toList)] :=
    .cons (choiceText_quote c.sqlType.key) <| .cons (choiceText_quote c.encoding.key) <|
    .cons (integerText_toString c.param.toInt) <| .cons (integerText_toString c.size.toInt) <|
    .cons (integerText_toString c.logicalSize.toInt) .nil
  have htext := hmembers.recordText
    ["sql_type", "compression", "comp_param", "size", "logical_size"] rfl (by decide) (by decide)
  -- Not by their equations: to derive these, the literals would be taken apart.
  delta toJson SqlType.toJson Encoding.toJson
  simpa [compactObject, compactMember, toString, String.toList_append] using htext

/-- A column type is read from every text of it, as an object or as a list, and from the one that is
written. -/
theorem ofJson_recovers (c : ColumnType) :
    (∀ s : String, DocumentText (RecordText c.entries) s.toList → ofJson s = .ok c) ∧
      (∀ s : String, DocumentText (RowText c.entries) s.toList → ofJson s = .ok c) ∧
      ofJson c.toJson = .ok c := by
  refine ⟨fun s => ofJson_of_recordText, fun s => ofJson_of_rowText, ofJson_of_recordText ?_⟩
  exact documentText_of_text (recordText_toJson c)

theorem ofJson_recovers_reordered :
    ofJson "\x7b\"size\":4,\"note\":[null],\"sql_type\":\"int\",\"logical_size\":4\x7d\n" =
        .ok ⟨.int, .plain, 0, 4, 4⟩ ∧
      ofJson "[\"int\",\"none\",0,4,4]" = .ok ⟨.int, .plain, 0, 4, 4⟩ := by
  let c : ColumnType := ⟨.int, .plain, 0, 4, 4⟩
  let null := ['n', 'u', 'l', 'l']
  let int := ['"', 'i', 'n', 't', '"']
  let none := ['"', 'n', 'o', 'n', 'e', '"']
  let members := [("size", ['4']), ("note", '[' :: (null ++ [']'])), ("sql_type", int),
    ("logical_size", ['4'])]
  have hint : ChoiceText "int" int := choiceText_quote "int"
  have hzero : IntegerText 0 ['0'] := integerText_toString 0
  have hfour : IntegerText 4 ['4'] := integerText_toString 4
  have hnulls : Separated Eq [null] null := separated_of_commas null [] fun _ _ => rfl
  have hnote : ValueText ('[' :: (null ++ [']'])) :=
    .list (.items hnulls) (List.forall_mem_singleton.2 .null)
  have hdescribes : Describes c.entries members := by
    constructor
    · decide
    · simp [members, entries, c]
      rfl
    · simp [members, entries, c, SqlType.key, hint, hfour]
    · simp [members, entries, c, hnote]
  have hobject := recordText_of_describes hdescribes (by decide)
  have hrow : List.Forall₂ (fun e value => e.text value) c.entries
      [int, none, ['0'], ['4'], ['4']] :=
    .cons hint <| .cons (choiceText_quote "none") <| .cons hzero <| .cons hfour <| .cons hfour .nil
  have hlist : Separated Eq [int, none, ['0'], ['4'], ['4']] _ :=
    separated_of_commas _ _ fun value _ => (rfl : id value = value)
  have hfeed : Blanks ['\n'] := by simp [Blanks]
  have hrecordText := DocumentText.mk blanks_nil hobject hfeed
  have hrowText := DocumentText.mk blanks_nil (RowText.mk hrow (.items hlist)) blanks_nil
  constructor
  · exact (ofJson_recovers c).1 _
      (by simpa [compactObject, compactMember, members, null, int] using hrecordText)
  · exact (ofJson_recovers c).2.1 _ hrowText

end ColumnType

end InbandNull
