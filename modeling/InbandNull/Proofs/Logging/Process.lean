import InbandNull.Handler
import InbandNull.Proofs.Buffer.Failure

/-!
# Processes that log

A `Process` sets up its logging, lets its application install a logger and works on buffers, in any
order and any number of times, until a violation halts it. The system may open log files in another
way at every call, and every record has a time of its own. What happens in a run is gathered in
lists: `Process.calls` are the calls of `init`, each with the facility that it found, and
`Process.records` is all that was handed to the log, whether or not somebody wrote it down.
-/

namespace InbandNull.Logging

/-- What a process does next. -/
inductive Step where
  | init (settings : Settings) (opening : Opening := Directory.locate)
  | installForeign
  | operate (clock : Clock) (handler : Handler) (d : Descriptor) (b : Buffer) (op : Operation)

/-- What a step does to the facility, and how it ends. -/
def Facility.act (f : Facility) : Step → Facility × Ending Unit
  | .init settings opening =>
    ((f.init settings opening).1, .answered ((f.init settings opening).2.mapError .error))
  | .installForeign => (f.installForeign, .answered (.ok ()))
  | .operate clock handler d b op => f.run clock handler (op.perform d b).outcome

structure Process where
  facility : Facility := {}
  halted : Bool := false

/-- A call of `init` that took place, with the facility that it found and the way in which the
system opened its log file. -/
structure Call where
  settings : Settings
  before : Facility
  opening : Opening := Directory.locate

namespace Call

def target (c : Call) : Except OpenFault Target := c.before.target c.settings.file c.opening

def after (c : Call) : Facility := (c.before.init c.settings c.opening).1

def result (c : Call) : Except Error Unit := (c.before.init c.settings c.opening).2

/-- Whether the call gets past its log file. -/
def opens (c : Call) : Bool := c.target.isOk

/-- Whether the call complains of the logger that is there. -/
def refused (c : Call) : Bool :=
  match c.result with
  | .error (.logging _) => true
  | .ok _ | .error _ => false

end Call

def Facility.calls (f : Facility) : Step → List Call
  | .init settings opening => [⟨settings, f, opening⟩]
  | .installForeign | .operate .. => []

/-- What the handler of a violation hands to the log. -/
def violationEvents {α : Type} : Handler → Except Failure α → List Event
  | .host, .error (.violation v) => [.violated v]
  | _, _ => []

def Step.records : Step → List Record
  | .init .. | .installForeign => []
  | .operate clock handler d b op =>
    let x := (op.perform d b).outcome
    stamp clock (x.events ++ violationEvents handler x.result)

namespace Process

/-- A process that has halted takes no more steps. -/
def step (p : Process) (s : Step) : Process :=
  if p.halted then p
  else
    match p.facility.act s with
    | (f, .answered _) => ⟨f, false⟩
    | (f, .halted) => ⟨f, true⟩

def run (p : Process) (steps : List Step) : Process := steps.foldl step p

/-- What is to be seen in a run, step by step, as long as the process has not halted. -/
def gather {α : Type} (look : Facility → Step → List α) (p : Process) : List Step → List α
  | [] => []
  | s :: steps => (if p.halted then [] else look p.facility s) ++ (p.step s).gather look steps

/-- The calls of `init` in a run. -/
def calls (p : Process) (steps : List Step) : List Call := p.gather Facility.calls steps

/-- All that is handed to the log in a run. -/
def records (p : Process) (steps : List Step) : List Record :=
  p.gather (fun _ s => s.records) steps

/-- A process that has not tried to log yet. There may be files already. -/
structure Fresh (p : Process) : Prop where
  running : p.halted = false
  logger_eq : p.facility.logger = none
  attempted_eq : p.facility.attempted = false

variable {α : Type} {p : Process}

theorem run_cons (p : Process) (s : Step) (steps : List Step) :
    p.run (s :: steps) = (p.step s).run steps := rfl

theorem run_append (p : Process) (steps steps' : List Step) :
    p.run (steps ++ steps') = (p.run steps).run steps' := List.foldl_append

theorem step_of_halted (h : p.halted = true) (s : Step) : p.step s = p := by
  rw [step, if_pos h]

theorem facility_step (h : p.halted = false) (s : Step) :
    (p.step s).facility = (p.facility.act s).1 := by
  unfold step
  rw [if_neg (by simp [h])]
  split <;> simp [*]

theorem gather_append (look : Facility → Step → List α) (p : Process) (steps steps' : List Step) :
    p.gather look (steps ++ steps') = p.gather look steps ++ (p.run steps).gather look steps' := by
  induction steps generalizing p with
  | nil => rfl
  | cons s steps ih => rw [List.cons_append, gather, gather, ih, List.append_assoc, run_cons]

/-- Every call of a run is the next one of a shorter run. -/
theorem exists_run_of_calls {steps : List Step} {earlier later : List Call} {c : Call}
    (h : p.calls steps = earlier ++ c :: later) :
    ∃ before, (p.run before).facility = c.before ∧ p.calls before = earlier := by
  induction steps generalizing p earlier with
  | nil => simp [calls, gather] at h
  | cons s steps ih =>
      -- The first step is the call, an earlier call, or no call at all.
      have hfirst : (if p.halted then [] else p.facility.calls s) = [] ∨
          ∃ call : Call, call.before = p.facility ∧
            (if p.halted then [] else p.facility.calls s) = [call] := by
        cases p.halted <;> cases s <;> simp [Facility.calls]
      rw [calls, gather] at h
      rcases hfirst with hnone | ⟨call, hbefore, hcall⟩
      · rw [hnone, List.nil_append] at h
        obtain ⟨before, hbefore, hcalls⟩ := ih h
        refine ⟨s :: before, hbefore, ?_⟩
        rw [calls, gather, hnone, List.nil_append]
        exact hcalls
      · rw [hcall, List.singleton_append] at h
        cases earlier with
        | nil =>
            obtain ⟨rfl, -⟩ := List.cons.inj h
            exact ⟨[], hbefore.symm, rfl⟩
        | cons e earlier =>
            obtain ⟨rfl, hrest⟩ := List.cons.inj h
            obtain ⟨before, hbefore, hcalls⟩ := ih hrest
            refine ⟨s :: before, hbefore, ?_⟩
            rw [calls, gather, hcall, List.singleton_append]
            exact congrArg _ hcalls

/-- What every step keeps, every run keeps. -/
theorem run_induction {motive : Process → Prop} (hstep : ∀ p s, motive p → motive (p.step s))
    (hp : motive p) (steps : List Step) : motive (p.run steps) := by
  induction steps generalizing p with
  | nil => exact hp
  | cons s steps ih => exact ih (hstep p s hp)

end Process

end InbandNull.Logging
