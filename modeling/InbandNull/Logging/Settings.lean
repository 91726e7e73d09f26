import InbandNull.Error
import InbandNull.Json.Record
import InbandNull.Logging.Level

/-!
# Settings

How a process logs is the only thing that can be configured: a sentinel is a function of its
descriptor. A document may leave out any field, and the whole section.
-/

namespace InbandNull

namespace Logging

structure Settings where
  level : Level := default
  /-- The file that lines are appended to, in place of standard error. -/
  file : Option String := none
  /-- Whether a line is only the level and the text. -/
  compact : Bool := false
deriving DecidableEq, Repr

def Level.read : Json.Reader Level := Json.member Level.all Level.key

namespace Settings

/-- The fields of the settings that have been read so far. -/
structure Draft where
  level : Option Level := none
  file : Option (Option String) := none
  compact : Option Bool := none
deriving DecidableEq, Repr

def Draft.shape : Json.Shape Draft where
  title := "struct LoggingConfig"
  fields :=
    [.of "level" false Level.read Draft.level fun d v => { d with level := some v },
      .of "log_file" false Json.optionalString Draft.file fun d v => { d with file := some v },
      .of "compact" false Json.boolean Draft.compact fun d v => { d with compact := some v }]

def Draft.toSettings (d : Draft) : Settings where
  level := d.level.getD default
  file := d.file.getD none
  compact := d.compact.getD false

def read : Json.Reader Settings := fun cs =>
  (Draft.shape.read {} cs).map fun (d, cs) => (d.toSettings, cs)

def toJson (s : Settings) : String :=
  let file := (s.file.map Json.quote).getD "null"
  "\x7b\"level\":" ++ Json.quote s.level.key ++ ",\"log_file\":" ++ file
    ++ s!",\"compact\":{s.compact}" ++ "\x7d"

end Settings

end Logging

structure Config where
  logging : Logging.Settings := {}
deriving DecidableEq, Repr

namespace Config

/-- The sections of the configuration that have been read so far. -/
structure Draft where
  logging : Option Logging.Settings := none
deriving DecidableEq, Repr

def Draft.shape : Json.Shape Draft where
  title := "struct CoreConfig"
  fields :=
    [.of "logging" false Logging.Settings.read Draft.logging fun d v =>
      { d with logging := some v }]

def Draft.toConfig (d : Draft) : Config where
  logging := d.logging.getD {}

def read : Json.Reader Config := fun cs =>
  (Draft.shape.read {} cs).map fun (d, cs) => (d.toConfig, cs)

def ofJson (s : String) : Except Error Config :=
  (Json.document read s).mapError .json

def toJson (c : Config) : String :=
  "\x7b\"logging\":" ++ c.logging.toJson ++ "\x7d"

end Config

end InbandNull
