import InbandNull.Logging.Settings
import InbandNull.Proofs.Json.Compact

/-!
# Reading settings

A configuration is an object with a section for the settings, which is an object of three fields.
Every field of either may be left out where it has its default. Every document that gives the rest
is read as the configuration, and so is the document that `toJson` writes.
-/

namespace InbandNull

open Json

theorem Logging.Level.find?_key (l : Level) : all.find? (fun m => m.key == l.key) = some l := by
  cases l <;> decide

namespace Logging.Settings

/-- The fields of the settings. -/
def entries (s : Settings) : List Entry :=
  [⟨"level", ChoiceText s.level.key, s.level = default⟩,
    ⟨"log_file", OptionalText s.file, s.file = none⟩,
    ⟨"compact", BooleanText s.compact, s.compact = false⟩]

/-- What has been read is so of the settings. -/
structure Draft.Agrees (s : Settings) (d : Draft) : Prop where
  level : ∀ l ∈ d.level, l = s.level
  file : ∀ f ∈ d.file, f = s.file
  compact : ∀ b ∈ d.compact, b = s.compact

variable (s : Settings)

theorem Draft.agrees_empty : Agrees s {} := by
  constructor <;> simp

theorem Draft.shape_fits : shape.Fits (Agrees s) s.entries := by
  refine .cons ?level <| .cons ?file <| .cons ?compact .nil
  case level =>
    refine Field.reads_of (by simp) (member_readsAs s.level.find?_key) (fun d h => ?_) ?_
    · exact { h with level := by simp }
    · simp [shape, Field.of]
  case file =>
    refine Field.reads_of (by simp) (optionalString_readsAs s.file) (fun d h => ?_) ?_
    · exact { h with file := by simp }
    · simp [shape, Field.of]
  case compact =>
    refine Field.reads_of (by simp) (boolean_readsAs s.compact) (fun d h => ?_) ?_
    · exact { h with compact := by simp }
    · simp [shape, Field.of]

variable {s}

/-- A draft that lacks nothing but defaults is the settings. -/
theorem Draft.toSettings_of_complete {d : Draft} (hd : Agrees s d)
    (hcomplete : shape.Complete s.entries d) : d.toSettings = s := by
  simp only [Shape.Complete, shape, entries, Field.of, List.forall₂_cons] at hcomplete
  obtain ⟨hlevel, hfile, hcompact, -⟩ := hcomplete
  rw [toSettings, getD_of_agrees hd.level hlevel, getD_of_agrees hd.file hfile,
    getD_of_agrees hd.compact hcompact]

theorem read_readsAs (s : Settings) : ReadsAs read (RecordText s.entries) s := by
  intro blanks cs rest hblanks hcs _
  obtain ⟨d, hread, hd, hcomplete⟩ :=
    Shape.read_of_recordText (Draft.shape_fits s) (Draft.agrees_empty s) (by decide) hblanks hcs
      rest
  rw [read, hread]
  exact congrArg (fun s => Except.ok (s, rest)) (Draft.toSettings_of_complete hd hcomplete)

theorem optionalText_quote (file : Option String) :
    OptionalText file ((file.map quote).getD "null").toList := by
  cases file with
  | none => exact .absent
  | some s => exact .present (stringText_quote s)

theorem booleanText_toString (b : Bool) : BooleanText b (toString b).toList := by
  cases b with
  | false => exact .false
  | true => exact .true

theorem recordText_toJson (s : Settings) : RecordText s.entries s.toJson.toList := by
  have hmembers : Writes s.entries
      [("level", (quote s.level.key).toList),
        ("log_file", ((s.file.map quote).getD "null").toList),
        ("compact", (toString s.compact).toList)] :=
    .cons (choiceText_quote s.level.key) <| .cons (optionalText_quote s.file) <|
    .cons (booleanText_toString s.compact) .nil
  have htext := hmembers.recordText ["level", "log_file", "compact"] rfl (by decide) (by decide)
  delta toJson
  simpa [compactObject, compactMember, toString, String.toList_append] using htext

end Logging.Settings

namespace Config

/-- The sections of a configuration. -/
def entries (c : Config) : List Entry :=
  [⟨"logging", RecordText c.logging.entries, c.logging = {}⟩]

/-- What has been read is so of the configuration. -/
def Draft.Agrees (c : Config) (d : Draft) : Prop := ∀ s ∈ d.logging, s = c.logging

variable (c : Config)

theorem Draft.agrees_empty : Agrees c {} := by
  simp [Agrees]

theorem Draft.shape_fits : shape.Fits (Agrees c) c.entries := by
  refine .cons (Field.reads_of (by simp) (Logging.Settings.read_readsAs c.logging) ?_ ?_) .nil
  · simp [Agrees]
  · simp [shape, Field.of]

variable {c}

theorem Draft.toConfig_of_complete {d : Draft} (hd : Agrees c d)
    (hcomplete : shape.Complete c.entries d) : d.toConfig = c := by
  simp only [Shape.Complete, shape, entries, Field.of, List.forall₂_cons] at hcomplete
  rw [toConfig, getD_of_agrees hd hcomplete.1]

theorem ofJson_of_recordText {s : String} (h : DocumentText (RecordText c.entries) s.toList) :
    ofJson s = .ok c := by
  have hdocument : document read s = .ok c := by
    refine document_of_documentText (fun {blanks cs rest} hblanks hcs => ?_) h
    obtain ⟨d, hread, hd, hcomplete⟩ :=
      Shape.read_of_recordText (Draft.shape_fits c) (Draft.agrees_empty c) (by decide) hblanks hcs
        rest
    rw [read, hread]
    exact congrArg (fun c => Except.ok (c, rest)) (Draft.toConfig_of_complete hd hcomplete)
  rw [ofJson, hdocument]
  rfl

theorem recordText_toJson (c : Config) : RecordText c.entries c.toJson.toList := by
  have hmembers : Writes c.entries [("logging", c.logging.toJson.toList)] :=
    .cons c.logging.recordText_toJson .nil
  have htext := hmembers.recordText ["logging"] rfl (by decide) (by decide)
  delta toJson
  simpa [compactObject, compactMember, String.toList_append] using htext

/-- A configuration is read from every document that gives all of it but defaults, and from the one
that is written. -/
theorem ofJson_fills_defaults (c : Config) :
    (∀ s : String, DocumentText (RecordText c.entries) s.toList → ofJson s = .ok c) ∧
      ofJson c.toJson = .ok c := by
  refine ⟨fun s => ofJson_of_recordText, ofJson_of_recordText ?_⟩
  exact documentText_of_text (recordText_toJson c)

theorem ofJson_fills_defaults_reordered :
    ofJson "\x7b\"note\":null,\"logging\":\x7b\"compact\":true,\"log_file\":\"a\\\\b\"\x7d\x7d\n" =
      .ok { logging := { file := some "a\\b", compact := true } } := by
  let c : Config := { logging := { file := some "a\\b", compact := true } }
  let note := ("note", ['n', 'u', 'l', 'l'])
  let compact := ("compact", ['t', 'r', 'u', 'e'])
  let file := ("log_file", ['"', 'a', '\\', '\\', 'b', '"'])
  have hfile : OptionalText c.logging.file file.2 := .present (stringText_quote "a\\b")
  have hlevel : c.logging.level = default := rfl
  have hsettings : Describes c.logging.entries [compact, file] := by
    constructor
    · decide
    · simp [Logging.Settings.entries, compact, file, hlevel]
    · simp [Logging.Settings.entries, compact, file, hfile, c, BooleanText.true]
    · simp [Logging.Settings.entries, compact, file]
  have hconfig : ∀ cs, RecordText c.logging.entries cs →
      Describes c.entries [note, ("logging", cs)] := by
    intro cs h
    constructor
    · simp [entries, note]
    · simp [entries]
    · simp [entries, note, h]
    · simp [entries, note, ValueText.null]
  have hlogging := recordText_of_describes hsettings (by decide)
  have hobject := recordText_of_describes (hconfig _ hlogging)
    (show ∀ name ∈ ["note", "logging"], isPlain name = true by decide)
  have hfeed : Blanks ['\n'] := by simp [Blanks]
  have hdocument := DocumentText.mk blanks_nil hobject hfeed
  exact (ofJson_fills_defaults c).1 _
    (by simpa [compactObject, compactMember, note, compact, file] using hdocument)

end Config

end InbandNull
