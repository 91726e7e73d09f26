import InbandNull.Error
import InbandNull.Logging.Event
import InbandNull.Logging.Path
import InbandNull.Logging.Settings

/-!
# The logging facility of a process

A process has at most one logger, and the first to be installed stays: the library's own or a
foreign one of the application. `Facility.init` opens the log file of its settings first, so a file
may appear, or fail to open, in a call that installs nothing. Only the first call that gets past its
file tries to install a logger; calls after it have nothing left to do but open their file. How the
file is opened is up to the system, and a parameter of the call.

The library's own logger drops events that its level does not admit and writes one line for each
other. A foreign logger is taken to write every event.
-/

namespace InbandNull.Logging

/-- Where a logger writes to. -/
inductive Target where
  | stderr
  | place (p : Place)
deriving DecidableEq, Repr

inductive Logger where
  | own (level : Level) (compact : Bool) (target : Target)
  | foreign
deriving DecidableEq, Repr

/-- A line of the full format gives the time, the severity in five columns, the origin and the text.
-/
def Event.fullLine (e : Event) (time : String) : String :=
  s!"[{time} {e.severity.column} {e.origin}] {e.text}"

def Event.compactLine (e : Event) : String := s!"[{e.severity.name}] {e.text}"

def Event.foreignLine (e : Event) : String := s!"log: {e.summary}"

def Record.line (r : Record) (compact : Bool) : String :=
  if compact then r.event.compactLine else r.event.fullLine r.time

structure Facility where
  logger : Option Logger := none
  /-- Whether a call of `init` has got past its log file. -/
  attempted : Bool := false
  directory : Directory := {}
  /-- The files of other directories, by their paths. -/
  outside : Directory := {}
  /-- The lines that standard error has received. -/
  stderr : List String := []
deriving DecidableEq, Repr

namespace Facility

def text? (f : Facility) : File → Option String
  | .inside name => f.directory.text? name
  | .outside path => f.outside.text? path

/-- Makes sure that there is the file. One that is there stays as it is. -/
def create (f : Facility) : File → Facility
  | .inside name => { f with directory := f.directory.create name }
  | .outside path => { f with outside := f.outside.create path }

/-- Adds to the end of the file, if it is there. -/
def append (f : Facility) : File → String → Facility
  | .inside name, added => { f with directory := f.directory.append name added }
  | .outside path, added => { f with outside := f.outside.append path added }

theorem text?_create (f : Facility) (file other : File) :
    (f.create file).text? other =
      if other = file then some ((f.text? file).getD "") else f.text? other := by
  cases file <;> cases other <;> simp [create, text?, Directory.text?_create]

theorem text?_append (f : Facility) (file other : File) (added : String) :
    (f.append file added).text? other =
      if other = file then (f.text? file).map (· ++ added) else f.text? other := by
  cases file <;> cases other <;> simp [append, text?, Directory.text?_append]

def write (f : Facility) : Target → String → Facility
  | .stderr, line => { f with stderr := f.stderr ++ [line] }
  | .place (.file file), line => f.append file (line ++ "\n")
  | .place .device, _ => f

theorem text?_write (f : Facility) (target : Target) (line : String) (file : File) :
    (f.write target line).text? file =
      if target = .place (.file file) then (f.text? file).map (· ++ (line ++ "\n"))
      else f.text? file := by
  rcases target with _ | other | _
  · cases file <;> rfl
  · by_cases h : file = other
    · simp [write, text?_append, h]
    · simp [write, text?_append, h, Ne.symm h]
  · rfl

/-- Hands a record to the logger, if there is one. -/
def emit (f : Facility) (r : Record) : Facility :=
  match f.logger with
  | none => f
  | some .foreign => f.write .stderr r.event.foreignLine
  | some (.own level compact target) =>
    if level.admits r.event.severity then f.write target (r.line compact) else f

def emitAll (f : Facility) (rs : List Record) : Facility := rs.foldl emit f

theorem emitAll_cons (f : Facility) (r : Record) (rs : List Record) :
    f.emitAll (r :: rs) = (f.emit r).emitAll rs := rfl

theorem emitAll_append (f : Facility) (rs rs' : List Record) :
    f.emitAll (rs ++ rs') = (f.emitAll rs).emitAll rs' := List.foldl_append

/-- The application installs a logger of its own, which has no effect if there is one already. -/
def installForeign (f : Facility) : Facility :=
  { f with logger := f.logger <|> some .foreign }

/-- Where lines are to go, unless the log file cannot be opened. -/
def target (f : Facility) (file : Option String) (opening : Opening := Directory.locate) :
    Except OpenFault Target :=
  match file with
  | none => .ok .stderr
  | some path => (opening f.directory f.outside path).map .place

/-- Opens a target: its file is created if it is not there. -/
def prepare (f : Facility) : Target → Facility
  | .place (.file file) => f.create file
  | .stderr | .place .device => f

theorem text?_prepare (f : Facility) (target : Target) (file : File) :
    (f.prepare target).text? file =
      if target = .place (.file file) then some ((f.text? file).getD "") else f.text? file := by
  rcases target with _ | other | _
  · rfl
  · by_cases h : file = other
    · simp [prepare, text?_create, h]
    · simp [prepare, text?_create, h, Ne.symm h]
  · rfl

theorem stderr_prepare (f : Facility) (target : Target) : (f.prepare target).stderr = f.stderr := by
  rcases target with _ | (_ | _) | _ <;> rfl

/-- Opening a file that is there changes nothing. -/
theorem prepare_of_isSome (f : Facility) {target : Target}
    (h : ∀ file, target = .place (.file file) → (f.text? file).isSome = true) :
    f.prepare target = f := by
  rcases target with _ | (name | path) | _
  · rfl
  · have hthere : f.directory.contains name = true := h _ rfl
    simp [prepare, create, Directory.create, hthere]
  · have hthere : f.outside.contains path = true := h _ rfl
    simp [prepare, create, Directory.create, hthere]
  · rfl

def init (f : Facility) (settings : Settings) (opening : Opening := Directory.locate) :
    Facility × Except Error Unit :=
  match f.target settings.file opening with
  | .error fault => (f, .error (.io fault))
  | .ok target =>
    let f := f.prepare target
    if f.attempted then (f, .ok ())
    else
      let f := { f with attempted := true }
      match f.logger with
      | none => ({ f with logger := some (.own settings.level settings.compact target) }, .ok ())
      | some _ =>
        (f, .error (.logging
          "attempted to set a logger after the logging system was already initialized"))

end Facility

end InbandNull.Logging
