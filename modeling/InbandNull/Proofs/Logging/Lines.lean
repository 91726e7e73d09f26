import InbandNull.Proofs.Logging.Installation

/-!
# What log files receive

Files only ever grow, and by whole lines. `Grows` says by which: none when a file is opened, and for
a record its line, in the file of the library's logger, if the level admits it. So a step adds what
the logger of that moment makes of the step's records, and a run adds the steps' lines in their
order. As the logger stays once it is there, the main statement can say what a run adds without
looking at its states: the admitted records of all the steps after the call that installed the
logger, to the file of that call, and nothing to any other file.
-/

namespace InbandNull.Logging

/-- The gravest is the least. -/
def Severity.rank : Severity → Nat
  | .error => 1
  | .warn => 2
  | .info => 3
  | .debug => 4
  | .trace => 5

/-- The greatest rank that the level admits. -/
def Level.rank : Level → Nat
  | .off => 0
  | .error => 1
  | .warn => 2
  | .info => 3
  | .debug => 4
  | .trace => 5

theorem Level.admits_iff_rank_le {l : Level} {s : Severity} :
    l.admits s = true ↔ s.rank ≤ l.rank := by
  cases l <;> cases s <;> decide

/-- The lines that a logger adds to a file for a list of records. -/
def linesIn (file : File) (rs : List Record) : Option Logger → List String
  | some (.own level compact target) =>
    if target = .place (.file file) then
      (rs.filter fun r => r.event.severity.rank ≤ level.rank).map (·.line compact)
    else []
  | some .foreign | none => []

@[simp] theorem linesIn_nil (file : File) (logger : Option Logger) :
    linesIn file [] logger = [] := by
  rcases logger with _ | ⟨level, compact, target⟩ | _
  · rfl
  · simp [linesIn]
  · rfl

theorem linesIn_append (file : File) (rs rs' : List Record) (logger : Option Logger) :
    linesIn file (rs ++ rs') logger = linesIn file rs logger ++ linesIn file rs' logger := by
  rcases logger with _ | ⟨level, compact, target⟩ | _
  · rfl
  · by_cases h : target = .place (.file file)
    · simp [linesIn, h]
    · simp [linesIn, h]
  · rfl

theorem linesIn_of_not_owned {f : Facility} (h : ¬ f.Owned) (file : File) (rs : List Record) :
    linesIn file rs f.logger = [] := by
  cases hlogger : f.logger with
  | none => rfl
  | some logger =>
      cases logger with
      | own level compact target => exact absurd ⟨level, compact, target, hlogger⟩ h
      | foreign => rfl

namespace Facility

/-- What is in a file, nothing if it is not there. -/
def textOf (f : Facility) (file : File) : String := (f.text? file).getD ""

/-- The files of `f` are still there in `g`, with lines added. -/
structure Grows (f g : Facility) (added : File → List String) : Prop where
  textOf_eq : ∀ file, g.textOf file = f.textOf file ++ unlines (added file)
  kept : ∀ file, (f.text? file).isSome = true → (g.text? file).isSome = true

/-- The file of the library's logger is there. -/
def KeepsLog (f : Facility) : Prop :=
  ∀ level compact file, f.logger = some (.own level compact (.place (.file file))) →
    (f.text? file).isSome = true

variable {f g k : Facility} {added added' : File → List String}

namespace Grows

theorem refl (f : Facility) : Grows f f fun _ => [] :=
  ⟨fun _ => String.append_empty.symm, fun _ => id⟩

theorem trans (h : Grows f g added) (h' : Grows g k added') :
    Grows f k fun file => added file ++ added' file where
  textOf_eq file := by rw [h'.textOf_eq, h.textOf_eq, unlines_append, String.append_assoc]
  kept file hthere := h'.kept file (h.kept file hthere)

theorem congr (h : Grows f g added) (hadded : ∀ file, added file = added' file) :
    Grows f g added' := funext hadded ▸ h

theorem of_text? (h : ∀ file, g.text? file = f.text? file) : Grows f g fun _ => [] where
  textOf_eq file := by rw [textOf, h, textOf, unlines_nil, String.append_empty]
  kept file hthere := by rwa [h]

theorem text?_eq (h : Grows f g added) {file : File} {text : String}
    (htext : f.text? file = some text) : g.text? file = some (text ++ unlines (added file)) := by
  have hthere := h.kept file (by simp [htext])
  obtain ⟨text', htext'⟩ := Option.isSome_iff_exists.1 hthere
  have heq := h.textOf_eq file
  rw [textOf, textOf, htext, htext'] at heq
  rw [htext']
  exact congrArg some heq

theorem keepsLog (h : Grows f g added) (hf : f.KeepsLog) (hlogger : g.logger = f.logger) :
    g.KeepsLog := by
  intro level compact file howner
  exact h.kept file (hf level compact file (hlogger.symm.trans howner))

end Grows

theorem grows_prepare (f : Facility) (target : Target) :
    Grows f (f.prepare target) fun _ => [] where
  textOf_eq file := by
    rw [textOf, text?_prepare, textOf, unlines_nil, String.append_empty]
    split <;> rfl
  kept file hthere := by
    rw [text?_prepare]
    split
    · rfl
    · exact hthere

/-- A line is added to the file of the target, which must be there. -/
theorem grows_write {target : Target}
    (h : ∀ file, target = .place (.file file) → (f.text? file).isSome = true) (line : String) :
    Grows f (f.write target line) fun file =>
      if target = .place (.file file) then [line] else [] where
  textOf_eq file := by
    rw [textOf, text?_write, textOf]
    split
    · next htarget =>
        obtain ⟨text, htext⟩ := Option.isSome_iff_exists.1 (h file htarget)
        rw [htext, unlines_singleton]
        rfl
    · exact String.append_empty.symm
  kept file hthere := by
    rw [text?_write]
    split
    · rwa [Option.isSome_map]
    · exact hthere

theorem grows_emit (hf : f.KeepsLog) (r : Record) :
    Grows f (f.emit r) fun file => linesIn file [r] f.logger := by
  unfold emit
  split
  · next hlogger =>
      rw [hlogger]
      exact .refl f
  · next hlogger =>
      rw [hlogger]
      exact .of_text? fun file => by rw [text?_write]; rfl
  · next level compact target hlogger =>
      rw [hlogger]
      by_cases hadmits : level.admits r.event.severity = true
      · rw [if_pos hadmits]
        refine (grows_write ?_ _).congr ?_
        · rintro file rfl
          exact hf level compact file hlogger
        · intro file
          simp [linesIn, Level.admits_iff_rank_le.1 hadmits]
      · have hrank : ¬ r.event.severity.rank ≤ level.rank :=
          fun h => hadmits (Level.admits_iff_rank_le.2 h)
        rw [if_neg hadmits]
        exact (Grows.refl f).congr fun file => by simp [linesIn, hrank]

theorem grows_emitAll (hf : f.KeepsLog) (rs : List Record) :
    Grows f (f.emitAll rs) fun file => linesIn file rs f.logger := by
  induction rs generalizing f with
  | nil => exact (Grows.refl f).congr fun file => by simp
  | cons r rs ih =>
      have hemit := grows_emit hf r
      have hlogger : (f.emit r).logger = f.logger := congrArg Prod.fst (f.status_emit r)
      rw [emitAll_cons]
      refine (hemit.trans (ih (hemit.keepsLog hf hlogger))).congr ?_
      intro file
      rw [hlogger, ← linesIn_append]
      rfl

theorem grows_run {α : Type} (hf : f.KeepsLog) (clock : Clock) (h : Handler) (x : Outcome α) :
    Grows f (f.run clock h x).1 fun file =>
      linesIn file (stamp clock (x.events ++ violationEvents h x.result)) f.logger := by
  have htext : ∀ file, (f.run clock h x).1.text? file =
      (f.emitAll (stamp clock (x.events ++ violationEvents h x.result))).text? file := by
    intro file
    obtain ⟨events, result⟩ := x
    rw [stamp_append, emitAll_append]
    rcases result with (v | _) | _
    · cases h with
      | host =>
          rw [violationEvents, stamp_singleton]
          exact text?_write ..
      | report | device => rfl
    · cases h <;> rfl
    · cases h <;> rfl
  exact ((grows_emitAll hf _).trans (.of_text? htext)).congr fun _ => List.append_nil _

theorem grows_init (f : Facility) (settings : Settings) (opening : Opening) :
    Grows f (f.init settings opening).1 fun _ => [] := by
  let c : Call := ⟨settings, f, opening⟩
  have hopen (target : Target) := f.grows_prepare target
  change Grows f c.after fun _ => []
  cases c.ends with
  | fault _ _ hafter =>
      rw [hafter]
      exact .refl f
  | later _ _ _ hafter =>
      rw [hafter]
      exact hopen _
  | installs _ _ _ _ hafter =>
      rw [hafter]
      exact ⟨(hopen _).textOf_eq, (hopen _).kept⟩
  | refused _ _ _ _ hafter =>
      rw [hafter]
      exact ⟨(hopen _).textOf_eq, (hopen _).kept⟩

theorem grows_act (hf : f.KeepsLog) (s : Step) :
    Grows f (f.act s).1 fun file => linesIn file s.records f.logger := by
  cases s with
  | init settings opening =>
      exact (f.grows_init settings opening).congr fun file => by simp [Step.records]
  | installForeign =>
      refine (Grows.of_text? ?_).congr fun file => by simp [Step.records]
      rintro (name | path) <;> rfl
  | operate clock handler d b op => exact grows_run hf clock handler _

/-- A call that installs the library's logger has opened its file. -/
theorem keepsLog_init (hf : f.KeepsLog) (settings : Settings) (opening : Opening) :
    (f.init settings opening).1.KeepsLog := by
  let c : Call := ⟨settings, f, opening⟩
  have hgrows : Grows f c.after fun _ => [] := f.grows_init settings opening
  have hstatus (target : Target) : (f.prepare target).logger = f.logger :=
    congrArg Prod.fst (f.status_prepare target)
  change c.after.KeepsLog
  cases c.ends with
  | fault _ _ hafter => exact hgrows.keepsLog hf (by rw [hafter])
  | later _ _ _ hafter => exact hgrows.keepsLog hf (by rw [hafter, hstatus])
  | installs _ _ _ _ hafter =>
      rw [hafter]
      rintro level compact file ⟨⟩
      exact (congrArg Option.isSome (text?_prepare ..)).trans (by simp)
  | refused _ _ _ _ hafter => exact hgrows.keepsLog hf (by rw [hafter, hstatus])

theorem keepsLog_act (hf : f.KeepsLog) (s : Step) : (f.act s).1.KeepsLog := by
  cases s with
  | init settings opening => exact keepsLog_init hf settings opening
  | installForeign =>
      intro level compact file howner
      cases hlogger : f.logger with
      | none => simp [act, installForeign, hlogger] at howner
      | some logger =>
          rw [act, installForeign_of_some hlogger] at howner ⊢
          exact hf level compact file howner
  | operate clock handler d b op =>
      exact (grows_run hf clock handler _).keepsLog hf (congrArg Prod.fst (f.status_run ..))

end Facility

namespace Process

variable {p : Process}

theorem keepsLog_step (hp : p.facility.KeepsLog) (s : Step) : (p.step s).facility.KeepsLog := by
  cases hhalted : p.halted with
  | true => rwa [step_of_halted hhalted]
  | false =>
      rw [facility_step hhalted]
      exact Facility.keepsLog_act hp s

theorem keepsLog_run (hp : p.facility.KeepsLog) (steps : List Step) :
    (p.run steps).facility.KeepsLog :=
  run_induction (motive := fun p => p.facility.KeepsLog) (fun _ s h => keepsLog_step h s) hp steps

/-- What the loggers of a run make of its records, for one file. -/
def logged (p : Process) (steps : List Step) (file : File) : List String :=
  p.gather (fun f s => linesIn file s.records f.logger) steps

theorem grows_run (hp : p.facility.KeepsLog) (steps : List Step) :
    p.facility.Grows (p.run steps).facility (p.logged steps) := by
  induction steps generalizing p with
  | nil => exact .refl _
  | cons s steps ih =>
      have hstep : p.facility.Grows (p.step s).facility fun file =>
          if p.halted then [] else linesIn file s.records p.facility.logger := by
        cases hhalted : p.halted with
        | true =>
            rw [step_of_halted hhalted]
            exact .refl _
        | false =>
            rw [facility_step hhalted]
            exact Facility.grows_act hp s
      exact hstep.trans (ih (keepsLog_step hp s))

/-- Under one logger all along, a run adds what this logger makes of all records. -/
theorem logged_of_logger {logger : Logger} (h : p.facility.logger = some logger)
    (steps : List Step) (file : File) :
    p.logged steps file = linesIn file (p.records steps) (some logger) := by
  induction steps generalizing p with
  | nil => simp [logged, records, gather]
  | cons s steps ih =>
      have hrest := ih (logger_run_of_some h [s])
      have hstep : (if p.halted then [] else linesIn file s.records p.facility.logger) =
          linesIn file (if p.halted then [] else s.records) (some logger) := by
        cases p.halted <;> simp [h]
      rw [logged, records, gather, gather, linesIn_append, hstep]
      exact congrArg _ hrest

/-- As long as the library has no logger, nothing is added. -/
theorem logged_of_not_owned {steps : List Step} (h : ¬ (p.run steps).facility.Owned)
    (file : File) : p.logged steps file = [] := by
  induction steps generalizing p with
  | nil => rfl
  | cons s steps ih =>
      -- A logger that was there before the step would be there at the end.
      have hnot : ¬ p.facility.Owned := by
        rintro ⟨level, compact, target, hlogger⟩
        exact h ⟨level, compact, target, logger_run_of_some hlogger (s :: steps)⟩
      have hstep : (if p.halted then [] else linesIn file s.records p.facility.logger) = [] := by
        rw [linesIn_of_not_owned hnot, ite_self]
      rw [logged, gather, hstep]
      exact ih h

/-- The call of `init` with these settings, after these steps, installs the library's logger, and
this logger writes to the target. -/
structure Installs (p : Process) (before : List Step) (settings : Settings) (opening : Opening)
    (target : Target) : Prop where
  bare : (p.run before).facility.logger = none
  opens : (p.run before).facility.target settings.file opening = .ok target
  owns : (p.run (before ++ [.init settings opening])).facility.logger =
    some (.own settings.level settings.compact target)

/-- A run that ends with the library's logger has the call that installed it. -/
theorem exists_installs {steps : List Step} (hp : ¬ p.facility.Owned)
    (h : (p.run steps).facility.Owned) :
    ∃ before settings opening after target,
      steps = before ++ .init settings opening :: after ∧
        p.Installs before settings opening target := by
  induction steps generalizing p with
  | nil => exact absurd h hp
  | cons s steps ih =>
      by_cases hstep : (p.step s).facility.Owned
      · obtain ⟨settings, opening, rfl, hbare, target, htarget, howns⟩ :=
          eq_init_of_owned_step hp hstep
        exact ⟨[], settings, opening, steps, target, rfl, hbare, htarget, howns⟩
      · obtain ⟨before, settings, opening, after, target, rfl, hinstalls⟩ := ih hstep h
        exact ⟨s :: before, settings, opening, after, target, rfl, hinstalls.bare, hinstalls.opens,
          hinstalls.owns⟩

theorem logged_of_installs {before after : List Step} {settings : Settings} {opening : Opening}
    {target : Target} (h : p.Installs before settings opening target) (file : File) :
    p.logged (before ++ .init settings opening :: after) file =
      linesIn file ((p.run (before ++ [.init settings opening])).records after)
        (some (.own settings.level settings.compact target)) := by
  have hbefore : ¬ (p.run before).facility.Owned := by
    rintro ⟨level, compact, target, hlogger⟩
    cases h.bare.symm.trans hlogger
  have hcall : p.logged (before ++ [.init settings opening]) file = [] := by
    rw [logged, gather_append, gather, gather, List.append_nil]
    refine (congrArg₂ (· ++ ·) (logged_of_not_owned hbefore file) ?_).trans (List.append_nil _)
    simp [Step.records]
  have hsplit : before ++ .init settings opening :: after =
      (before ++ [.init settings opening]) ++ after := by simp
  rw [hsplit, logged, gather_append]
  exact (congrArg₂ (· ++ ·) hcall (logged_of_logger h.owns after file)).trans (List.nil_append _)

/-- In every run, files only grow, and by whole lines. Without the library's logger no file receives
a line. Otherwise there is the call that installed it, and the file of this call, if it has one,
receives the lines of the records that come after the call and that its level admits, in their
order. No other file receives a line. -/
theorem files_receive_admitted_records (hp : p.Fresh) (steps : List Step) :
    (∀ later file text, (p.run steps).facility.text? file = some text →
        ∃ added, (p.run (steps ++ later)).facility.text? file = some (text ++ unlines added)) ∧
      (¬ (p.run steps).facility.Owned →
        ∀ file, (p.run steps).facility.textOf file = p.facility.textOf file) ∧
      ((p.run steps).facility.Owned → ∃ before settings opening after target,
        steps = before ++ .init settings opening :: after ∧
          p.Installs before settings opening target) ∧
      ∀ before settings opening after target, steps = before ++ .init settings opening :: after →
        p.Installs before settings opening target →
          ∀ file, (p.run steps).facility.textOf file = p.facility.textOf file ++
            unlines (if target = .place (.file file) then
              (((p.run (before ++ [.init settings opening])).records after).filter fun r =>
                r.event.severity.rank ≤ settings.level.rank).map (·.line settings.compact)
            else []) := by
  have hbare : ¬ p.facility.Owned := by
    rintro ⟨level, compact, target, hlogger⟩
    cases hp.logger_eq.symm.trans hlogger
  have hkeeps : p.facility.KeepsLog := by
    intro level compact file hlogger
    cases hp.logger_eq.symm.trans hlogger
  have hgrows := grows_run hkeeps steps
  refine ⟨?_, ?_, exists_installs hbare, ?_⟩
  · intro later file text htext
    rw [run_append]
    exact ⟨_, (grows_run (keepsLog_run hkeeps steps) later).text?_eq htext⟩
  · intro hnot file
    rw [hgrows.textOf_eq, logged_of_not_owned hnot, unlines_nil, String.append_empty]
  · rintro before settings opening after target rfl hinstalls file
    rw [hgrows.textOf_eq, logged_of_installs hinstalls]
    rfl

/-- A file that does not end with a line feed, a scan before there is a logger, and a call that comes
too late and may not open its file. -/
theorem files_receive_admitted_records_late :
    let p : Process := { facility := { directory := ⟨[("a.log", "old")]⟩ } }
    let column : Descriptor :=
      { sqlType := .int, encoding := .plain, param := 0, size := 4, logicalSize := 4 }
    let scan : Step :=
      .operate (fun i => s!"12:00:0{i}") .report column ⟨[0, 0, 0, 128], 1, .little⟩ .scan
    let settings : Settings := { level := .debug, file := some "a.log" }
    let denied : Opening := fun _ _ _ => .error (.other "Permission denied (os error 13)")
    let steps :=
      [scan, .init settings, .init { level := .trace, file := some "b.log" } denied, scan]
    p.Fresh ∧ p.Installs [scan] settings Directory.locate (.place (.file (.inside "a.log"))) ∧
      (p.run steps).facility.textOf (.inside "a.log") =
        "old[12:00:01 DEBUG inline_nulls::null_handling::sentinel] " ++
          "scan_nulls: 1 INTEGER rows of 4 bytes, 1 null\n" ∧
      (p.run steps).facility.textOf (.inside "b.log") = "" := by
  intro p column scan settings denied steps
  have hfresh : p.Fresh := ⟨rfl, rfl, rfl⟩
  have htarget : p.facility.target settings.file = .ok (.place (.file (.inside "a.log"))) := by
    rw [Facility.target, Directory.locate, if_neg (by simp)]
    rfl
  have hinstalls : p.Installs [scan] settings Directory.locate
      (.place (.file (.inside "a.log"))) := by
    refine ⟨rfl, htarget, ?_⟩
    change (p.step (.init settings)).facility.logger = _
    rw [facility_step rfl, Facility.act, Facility.init, htarget]
    rfl
  obtain ⟨-, -, -, hlines⟩ := files_receive_admitted_records hfresh steps
  have hadded := hlines [scan] settings _ _ _ rfl hinstalls
  have hrecords : (p.run ([scan] ++ [.init settings])).records
      [.init { level := .trace, file := some "b.log" } denied, scan] =
        [⟨"12:00:00", .notInPlace⟩, ⟨"12:00:01", .scanned 1 .int 4 1⟩] := rfl
  refine ⟨hfresh, hinstalls, ?_, ?_⟩
  · rw [hadded, if_pos rfl, hrecords]
    rfl
  · rw [hadded, if_neg (by simp)]
    rfl

end Process

end InbandNull.Logging
