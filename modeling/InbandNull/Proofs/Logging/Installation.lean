import InbandNull.Proofs.Logging.Call

/-!
# Who owns the log

Whose logger a process has is decided once, by the application or by the first call of `init` that
gets past its log file. `History` ties the state of the facility to the calls that led to it, and
every step keeps it: as long as no call has got past its log file the library has no logger, and
after that the logger is the one that this first call left behind. The main statements say this of
every run: who is the owner, which call is refused, what a call that succeeds says about the owner,
and what is left for later calls to do.
-/

namespace InbandNull.Logging

/-- What the calls of a run so far have led to. -/
inductive History (f : Facility) (calls : List Call) : Prop where
  /-- No call has got past its log file. -/
  | pending (hopens : ∀ c ∈ calls, c.opens = false) (hattempted : f.attempted = false)
      (howner : f.logger = none ∨ f.logger = some .foreign)
  /-- The first call that did has decided. -/
  | settled {earlier later : List Call} {c : Call} (hcalls : calls = earlier ++ c :: later)
      (hearlier : ∀ e ∈ earlier, e.opens = false) (hdecides : c.Decides)
      (hlater : ∀ e ∈ later, e.before.attempted = true) (hstatus : f.status = c.after.status)

namespace History

variable {f g : Facility} {calls : List Call}

theorem of_status (h : History f calls) (hg : g.status = f.status) : History g calls := by
  obtain ⟨hlogger, hattempted⟩ := Prod.mk.inj hg
  cases h with
  | pending hopens hnot howner =>
      exact .pending hopens (hattempted.trans hnot) (by rwa [hlogger])
  | settled hcalls hearlier hdecides hlater hstatus =>
      exact .settled hcalls hearlier hdecides hlater (hg.trans hstatus)

theorem init {c : Call} (h : History c.before calls) : History c.after (calls ++ [c]) := by
  cases h with
  | pending hopens hattempted howner =>
      cases hc : c.opens with
      | false =>
          obtain ⟨fault, htarget⟩ := Call.not_opens_iff.1 hc
          rw [(Call.eq_of_fault htarget).2]
          refine .pending ?_ hattempted howner
          simpa [or_imp, forall_and] using ⟨hopens, hc⟩
      | true => exact .settled rfl hopens ⟨hc, hattempted, howner⟩ (by simp) rfl
  | settled hcalls hearlier hdecides hlater hstatus =>
      have hattempted := hdecides.attempted_of_status hstatus
      refine .settled (hcalls ▸ List.append_assoc ..) hearlier hdecides ?_
        ((Call.status_after_of_attempted hattempted).trans hstatus)
      simpa [or_imp, forall_and] using ⟨hlater, hattempted⟩

theorem installForeign (h : History f calls) : History f.installForeign calls := by
  cases h with
  | pending hopens hattempted howner =>
      refine .pending hopens hattempted (Or.inr ?_)
      rcases howner with hlogger | hlogger
      · simp [Facility.installForeign, hlogger]
      · simp [Facility.installForeign, hlogger]
  | settled hcalls hearlier hdecides hlater hstatus =>
      obtain ⟨logger, hafter⟩ := hdecides.status_after
      have hlogger : f.logger = some logger := congrArg Prod.fst (hstatus.trans hafter)
      refine .settled hcalls hearlier hdecides hlater ?_
      rw [Facility.installForeign_of_some hlogger, hstatus]

theorem act (h : History f calls) (s : Step) : History (f.act s).1 (calls ++ f.calls s) := by
  cases s with
  | init settings opening => exact init (c := ⟨settings, f, opening⟩) h
  | installForeign =>
      rw [Facility.calls, List.append_nil]
      exact h.installForeign
  | operate clock handler d b op =>
      rw [Facility.calls, List.append_nil]
      exact h.of_status (f.status_run ..)

theorem run {p : Process} (h : History p.facility calls) (steps : List Step) :
    History (p.run steps).facility (calls ++ p.calls steps) := by
  induction steps generalizing p calls with
  | nil =>
      rw [Process.calls, Process.gather, List.append_nil]
      exact h
  | cons s steps ih =>
      rw [Process.calls, Process.gather, ← List.append_assoc]
      refine ih ?_
      cases hhalted : p.halted with
      | true => simpa [Process.step_of_halted hhalted] using h
      | false =>
          rw [Process.facility_step hhalted]
          exact h.act s

theorem of_fresh {p : Process} (hp : p.Fresh) (steps : List Step) :
    History (p.run steps).facility (p.calls steps) := by
  have hnone : History p.facility [] := .pending (by simp) hp.attempted_eq (Or.inl hp.logger_eq)
  exact hnone.run steps

/-- Every call of a run found what the calls before it had led to. -/
theorem of_call {p : Process} (hp : p.Fresh) {steps : List Step} {earlier later : List Call}
    {c : Call} (h : p.calls steps = earlier ++ c :: later) : History c.before earlier := by
  obtain ⟨before, hbefore, hcalls⟩ := Process.exists_run_of_calls h
  rw [← hbefore, ← hcalls]
  exact of_fresh hp before

theorem attempted_iff (h : History f calls) :
    f.attempted = true ↔ ∃ c ∈ calls, c.opens = true := by
  cases h with
  | pending hopens hattempted =>
      rw [hattempted]
      simpa using hopens
  | settled hcalls _ hdecides _ hstatus =>
      refine iff_of_true (hdecides.attempted_of_status hstatus) ⟨_, ?_, hdecides.opens⟩
      rw [hcalls]
      exact List.mem_append_right _ List.mem_cons_self

theorem owner_of_not_attempted (h : History f calls) (hattempted : f.attempted = false) :
    f.logger = none ∨ f.logger = some .foreign := by
  cases h with
  | pending _ _ howner => exact howner
  | settled _ _ hdecides _ hstatus =>
      cases (hdecides.attempted_of_status hstatus).symm.trans hattempted

/-- The library's logger is the one that the first call to get past its log file asked for. -/
theorem find?_of_own (h : History f calls) {level : Level} {compact : Bool} {target : Target}
    (hlogger : f.logger = some (.own level compact target)) :
    ∃ c, calls.find? Call.opens = some c ∧ c.settings.level = level ∧
      c.settings.compact = compact ∧ c.target = .ok target := by
  cases h with
  | pending _ _ howner => simp [hlogger] at howner
  | @settled earlier later c hcalls hearlier hdecides _ hstatus =>
      have hfind : calls.find? Call.opens = some c := by
        rw [List.find?_eq_some_iff_append]
        exact ⟨hdecides.opens, earlier, later, hcalls, by simpa using hearlier⟩
      have hafter : c.after.logger = some (.own level compact target) :=
        (congrArg Prod.fst hstatus).symm.trans hlogger
      rcases hdecides.outcome with ⟨target', htarget, -, howner⟩ | ⟨-, howner⟩
      · cases hafter.symm.trans (congrArg Prod.fst howner)
        exact ⟨c, hfind, rfl, rfl, htarget⟩
      · cases hafter.symm.trans (congrArg Prod.fst howner)

theorem length_filter_refused_le_one (h : History f calls) :
    (calls.filter Call.refused).length ≤ 1 := by
  have hnone (l : List Call) (hl : ∀ e ∈ l, e.refused = false) : l.filter Call.refused = [] := by
    simpa using hl
  cases h with
  | pending hopens => simp [hnone calls fun e mem => Call.refused_of_not_opens (hopens e mem)]
  | @settled earlier later c hcalls hearlier _ hlater =>
      have hbefore := hnone earlier fun e mem => Call.refused_of_not_opens (hearlier e mem)
      have hafter := hnone later fun e mem => Call.refused_of_attempted (hlater e mem)
      rw [hcalls, List.filter_append, hbefore, List.nil_append, List.filter_cons, hafter]
      split <;> simp

/-- A call is refused if it is the first to get past its log file and a logger is there. -/
theorem refused_iff {c : Call} (h : History c.before calls) :
    c.refused = true ↔
      c.opens = true ∧ (∀ e ∈ calls, e.opens = false) ∧ c.before.logger = some .foreign := by
  have hfirst : c.before.attempted = false ↔ ∀ e ∈ calls, e.opens = false := by
    rw [← Bool.not_eq_true, h.attempted_iff]
    simp
  rw [Call.refused_iff, hfirst]
  refine and_congr_right fun _ => and_congr_right fun hnone => ?_
  rcases h.owner_of_not_attempted (hfirst.2 hnone) with hlogger | hlogger
  · simp [hlogger]
  · simp [hlogger]

/-- Of the calls that led to a decision, only the deciding one can be refused. -/
theorem forall_refused_eq_false_iff {earlier later : List Call} {c : Call}
    (hearlier : ∀ e ∈ earlier, e.opens = false)
    (hlater : ∀ e ∈ later, e.before.attempted = true) :
    (∀ e ∈ earlier ++ c :: later, e.refused = false) ↔ c.refused = false := by
  refine ⟨fun hall => hall c (List.mem_append_right _ List.mem_cons_self), fun hc => ?_⟩
  simp only [List.mem_append, List.mem_cons]
  rintro e (mem | rfl | mem)
  · exact Call.refused_of_not_opens (hearlier e mem)
  · exact hc
  · exact Call.refused_of_attempted (hlater e mem)

/-- A call that succeeds leaves the library's logger behind, unless a call before it was refused. -/
theorem owned_after_iff {c : Call} (h : History c.before calls) (hok : c.result = .ok ()) :
    c.after.Owned ↔ ∀ e ∈ calls, e.refused = false := by
  cases h with
  | pending hnone hattempted howner =>
      have hdecides : c.Decides := ⟨(Call.result_eq_ok_iff.1 hok).1, hattempted, howner⟩
      refine iff_of_true (hdecides.owned_after_iff.2 (Call.refused_of_ok hok)) ?_
      exact fun e mem => Call.refused_of_not_opens (hnone e mem)
  | @settled earlier later d hcalls hearlier hdecides hlater hstatus =>
      have hattempted := hdecides.attempted_of_status hstatus
      have hkept := (Call.status_after_of_attempted hattempted).trans hstatus
      rw [Facility.owned_congr (congrArg Prod.fst hkept), hdecides.owned_after_iff, hcalls,
        forall_refused_eq_false_iff hearlier hlater]

end History

theorem Facility.logger_act_of_some {f : Facility} {logger : Logger} (h : f.logger = some logger)
    (s : Step) : (f.act s).1.logger = some logger := by
  cases s with
  | init settings opening => exact Call.logger_after_of_some (c := ⟨settings, f, opening⟩) h
  | installForeign => rw [act, installForeign_of_some h, h]
  | operate clock handler d b op => exact (congrArg Prod.fst (f.status_run ..)).trans h

/-- Only a call that found no logger makes the logger the library's own. -/
theorem Facility.eq_init_of_owned_act {f : Facility} {s : Step} (hf : ¬ f.Owned)
    (h : (f.act s).1.Owned) :
    ∃ settings opening, s = .init settings opening ∧ f.logger = none ∧ ∃ target,
      f.target settings.file opening = .ok target ∧
        (f.act s).1.logger = some (.own settings.level settings.compact target) := by
  cases s with
  | init settings opening =>
      let c : Call := ⟨settings, f, opening⟩
      have hafter : c.after = (f.act (.init settings opening)).1 := rfl
      rw [← hafter] at h ⊢
      cases c.ends with
      | fault _ _ hunchanged =>
          rw [hunchanged] at h
          exact absurd h hf
      | later _ hattempted _ _ =>
          have hkept := congrArg Prod.fst (Call.status_after_of_attempted hattempted)
          exact absurd ((owned_congr hkept).1 h) hf
      | installs htarget _ hlogger _ hinstalled =>
          refine ⟨settings, opening, rfl, hlogger, _, htarget, ?_⟩
          rw [hinstalled]
      | refused _ _ hlogger _ _ =>
          have hkept := (Call.logger_after_of_some hlogger).trans hlogger.symm
          exact absurd ((owned_congr hkept).1 h) hf
  | installForeign =>
      cases hlogger : f.logger with
      | none => simp [act, installForeign, hlogger, Owned] at h
      | some logger =>
          rw [act, installForeign_of_some hlogger] at h
          exact absurd h hf
  | operate clock handler d b op =>
      exact absurd ((owned_congr (congrArg Prod.fst (f.status_run ..))).1 h) hf

namespace Process

variable {p : Process} {steps : List Step}

theorem logger_run_of_some {logger : Logger} (h : p.facility.logger = some logger)
    (steps : List Step) : (p.run steps).facility.logger = some logger := by
  refine run_induction (motive := fun p => p.facility.logger = some logger) ?_ h steps
  intro p s h
  cases hhalted : p.halted with
  | true => rwa [step_of_halted hhalted]
  | false =>
      rw [facility_step hhalted]
      exact Facility.logger_act_of_some h s

theorem eq_init_of_owned_step {s : Step} (hp : ¬ p.facility.Owned)
    (h : (p.step s).facility.Owned) :
    ∃ settings opening, s = .init settings opening ∧ p.facility.logger = none ∧ ∃ target,
      p.facility.target settings.file opening = .ok target ∧
        (p.step s).facility.logger = some (.own settings.level settings.compact target) := by
  cases hhalted : p.halted with
  | true => exact absurd (step_of_halted hhalted s ▸ h) hp
  | false =>
      rw [facility_step hhalted] at h ⊢
      exact Facility.eq_init_of_owned_act hp h

/-- In every run, a logger that is there stays. The library's own is the one that the first call to
get past its log file asked for. A call that does not get past it changes nothing at all, and at
most one call is refused: the first that does get past, if a foreign logger is there by then. -/
theorem installs_once (hp : p.Fresh) (steps : List Step) :
    (∀ logger, (p.run steps).facility.logger = some logger →
        ∀ later, (p.run (steps ++ later)).facility.logger = some logger) ∧
      (∀ level compact target,
        (p.run steps).facility.logger = some (.own level compact target) →
          ∃ c, (p.calls steps).find? Call.opens = some c ∧ c.settings.level = level ∧
            c.settings.compact = compact ∧ c.target = .ok target) ∧
      (∀ c ∈ p.calls steps, ∀ fault, c.target = .error fault →
        c.result = .error (.io fault) ∧ c.after = c.before) ∧
      ((p.calls steps).filter Call.refused).length ≤ 1 ∧
      ∀ earlier c later, p.calls steps = earlier ++ c :: later →
        (c.refused = true ↔
          c.opens = true ∧ (∀ e ∈ earlier, e.opens = false) ∧ c.before.logger = some .foreign) := by
  have hhistory := History.of_fresh hp steps
  refine ⟨?_, ?_, ?_, hhistory.length_filter_refused_le_one, ?_⟩
  · intro logger hlogger later
    rw [run_append]
    exact logger_run_of_some hlogger later
  · intro level compact target hlogger
    exact hhistory.find?_of_own hlogger
  · intro c _ fault htarget
    exact Call.eq_of_fault htarget
  · intro earlier c later hcalls
    exact (History.of_call hp hcalls).refused_iff

theorem installs_once_interleaved :
    ({} : Process).Fresh ∧
      (∀ later, (({} : Process).run ([.init { file := some "" }, .init { compact := true },
          .installForeign, .init { level := .trace }] ++ later)).facility.logger =
        some (.own .warn true .stderr)) ∧
      ∃ c, (({} : Process).calls [.init { file := some "" }, .init { compact := true },
          .installForeign, .init { level := .trace }]).find? Call.opens = some c ∧
        c.settings.level = .warn ∧ c.settings.compact = true ∧ c.target = .ok .stderr := by
  have hfresh : ({} : Process).Fresh := ⟨rfl, rfl, rfl⟩
  obtain ⟨hstays, hown, -⟩ := installs_once hfresh [.init { file := some "" },
    .init { compact := true }, .installForeign, .init { level := .trace }]
  have hfault : ({} : Facility).target (some "") = .error .notFound := by
    rw [Facility.target, Directory.locate, if_neg (by simp)]
    rfl
  have hfirst : ({} : Process).step (.init { file := some "" }) = {} := by
    simp [step, Facility.act, Facility.init, hfault]
  have hlogger : (({} : Process).run [.init { file := some "" }, .init { compact := true },
      .installForeign, .init { level := .trace }]).facility.logger =
        some (.own .warn true .stderr) := by
    rw [run_cons, hfirst]
    rfl
  exact ⟨hfresh, hstays _ hlogger, hown _ _ _ hlogger⟩

/-- A call that succeeds leaves the library's logger behind exactly if no call before it was
refused. Under a foreign logger the first call to get past its log file is refused, and every later
one that gets past it succeeds. -/
theorem own_logger_of_ok_unless_refused (hp : p.Fresh) {earlier later : List Call} {c : Call}
    (hcalls : p.calls steps = earlier ++ c :: later) :
    (c.result = .ok () →
        (c.after.Owned ↔ ∀ e ∈ earlier, e.refused = false)) ∧
      (c.before.logger = some .foreign → c.opens = true →
        (c.refused = true ↔ ∀ e ∈ earlier, e.opens = false) ∧
          (c.result = .ok () ↔ ∃ e ∈ earlier, e.opens = true)) := by
  have hhistory := History.of_call hp hcalls
  refine ⟨hhistory.owned_after_iff, ?_⟩
  intro hforeign hopens
  rw [hhistory.refused_iff, Call.result_eq_ok_iff, hhistory.attempted_iff]
  simp [hforeign, hopens]

theorem own_logger_of_ok_unless_refused_twice :
    ({} : Process).Fresh ∧
      ∃ first second, ({} : Process).calls [.installForeign, .init {}, .init {}] =
          [first, second] ∧
        (first.refused = true ↔ ∀ e ∈ ([] : List Call), e.opens = false) ∧
        (second.result = .ok () ↔ ∃ e ∈ [first], e.opens = true) ∧
        (second.after.Owned ↔ ∀ e ∈ [first], e.refused = false) := by
  have hfresh : ({} : Process).Fresh := ⟨rfl, rfl, rfl⟩
  let first : Call := { settings := {}, before := { logger := some .foreign } }
  let second : Call := { first with before := { first.before with attempted := true } }
  have hcalls : ({} : Process).calls [.installForeign, .init {}, .init {}] =
      [] ++ first :: [second] := rfl
  have hcalls' : ({} : Process).calls [.installForeign, .init {}, .init {}] =
      [first] ++ second :: [] := rfl
  have hfirst := own_logger_of_ok_unless_refused hfresh hcalls
  have hsecond := own_logger_of_ok_unless_refused hfresh hcalls'
  exact ⟨hfresh, first, second, hcalls, (hfirst.2 rfl rfl).1, (hsecond.2 rfl rfl).2, hsecond.1 rfl⟩

/-- The second call succeeds although the application owns the log. -/
theorem ok_beside_foreign_logger :
    ({} : Process).Fresh ∧
      ∃ first second, ({} : Process).calls [.installForeign, .init {}, .init {}] =
          [first, second] ∧
        second.result = .ok () ∧ second.after.logger = some .foreign ∧
        second.before.logger = some .foreign ∧ second.opens = true ∧ second.refused = false :=
  ⟨⟨rfl, rfl, rfl⟩, _, _, rfl, rfl, rfl, rfl, rfl, rfl⟩

/-- Once a call has succeeded, all that is left for later calls is to open their file: they fail
with it and create it. So they have no effect, and succeed, exactly if they name no file, a device
or a file that is there. -/
theorem later_call_only_opens_file (hp : p.Fresh) {earlier later : List Call} {c : Call}
    (hcalls : p.calls steps = earlier ++ c :: later) (hok : ∃ e ∈ earlier, e.result = .ok ()) :
    (∀ fault, c.target = .error fault → c.result = .error (.io fault) ∧ c.after = c.before) ∧
      (∀ target, c.target = .ok target → c.result = .ok () ∧
        c.after.logger = c.before.logger ∧ c.after.attempted = c.before.attempted ∧
        c.after.stderr = c.before.stderr ∧
        ∀ file, c.after.text? file =
          if target = .place (.file file) then some ((c.before.text? file).getD "")
          else c.before.text? file) ∧
      (c.result = .ok () ∧ c.after = c.before ↔
        ∃ target, c.target = .ok target ∧
          ∀ file, target = .place (.file file) → (c.before.text? file).isSome = true) := by
  have hattempted : c.before.attempted = true := by
    obtain ⟨e, mem, hresult⟩ := hok
    exact (History.of_call hp hcalls).attempted_iff.2 ⟨e, mem, (Call.result_eq_ok_iff.1 hresult).1⟩
  refine ⟨fun fault => Call.eq_of_fault, ?_, ?_⟩
  · intro target htarget
    obtain ⟨hresult, hafter⟩ := Call.eq_of_attempted hattempted htarget
    obtain ⟨hlogger, htried⟩ := Prod.mk.inj (c.before.status_prepare target)
    rw [hafter]
    exact ⟨hresult, hlogger, htried, c.before.stderr_prepare target, c.before.text?_prepare target⟩
  · constructor
    · rintro ⟨hresult, hafter⟩
      obtain ⟨target, htarget⟩ := Call.opens_iff.1 (Call.result_eq_ok_iff.1 hresult).1
      refine ⟨target, htarget, ?_⟩
      rintro file rfl
      have htext := c.before.text?_prepare (.place (.file file)) file
      rw [← (Call.eq_of_attempted hattempted htarget).2, hafter, if_pos rfl] at htext
      rw [htext]
      rfl
    · rintro ⟨target, htarget, hthere⟩
      obtain ⟨hresult, hafter⟩ := Call.eq_of_attempted hattempted htarget
      exact ⟨hresult, hafter.trans (c.before.prepare_of_isSome hthere)⟩

/-- The third call names the file that the second one has created. -/
theorem later_call_only_opens_file_twice :
    ({} : Process).Fresh ∧
      ∃ first second third, ({} : Process).calls [.init {}, .init { file := some "b.log" },
          .init { file := some "./b.log" }] = [first, second, third] ∧
        (∃ e ∈ [first, second], e.result = .ok ()) ∧ third.result = .ok () ∧
        third.after = third.before := by
  let first : Call := { settings := {}, before := {} }
  let second : Call :=
    { settings := { file := some "b.log" }
      before := { logger := some (.own .warn false .stderr), attempted := true } }
  let third : Call :=
    { settings := { file := some "./b.log" }
      before := { second.before with directory := ⟨[("b.log", "")]⟩ } }
  have hcalls : ({} : Process).calls [.init {}, .init { file := some "b.log" },
      .init { file := some "./b.log" }] = [first, second] ++ third :: [] := by
    change _ :: _ :: [Call.mk _ (second.before.init second.settings).1 _] = _
    rw [Facility.init, Facility.target, Directory.locate, if_neg (by simp)]
    rfl
  have hok : ∃ e ∈ [first, second], e.result = .ok () := ⟨first, by simp, rfl⟩
  have htarget : third.target = .ok (.place (.file (.inside "b.log"))) := by
    change (Directory.locate _ _ "./b.log").map _ = _
    rw [Directory.locate, if_neg (by simp)]
    rfl
  obtain ⟨-, -, heffect⟩ := later_call_only_opens_file ⟨rfl, rfl, rfl⟩ hcalls hok
  have hthere := heffect.2 ⟨_, htarget, by rintro _ ⟨⟩; rfl⟩
  exact ⟨⟨rfl, rfl, rfl⟩, first, second, third, hcalls, hok, hthere.1, hthere.2⟩

/-- A later call may create a file, and may fail. -/
theorem later_call_has_effect :
    ({} : Process).Fresh ∧
      (∃ first second, ({} : Process).calls [.init {}, .init { file := some "b.log" }] =
          [first, second] ∧
        first.result = .ok () ∧ second.before.text? (.inside "b.log") = none ∧
        second.after.text? (.inside "b.log") = some "") ∧
      ∃ first second, ({} : Process).calls [.init {}, .init { file := some "missing/b.log" }] =
          [first, second] ∧
        first.result = .ok () ∧ second.result = .error (.io .notFound) := by
  refine ⟨⟨rfl, rfl, rfl⟩, ⟨_, _, rfl, rfl, rfl, ?_⟩, _, _, rfl, rfl, ?_⟩
  · change (Facility.init _ { file := some "b.log" }).1.text? _ = _
    rw [Facility.init, Facility.target, Directory.locate, if_neg (by simp)]
    rfl
  · change (Facility.init _ { file := some "missing/b.log" }).2 = _
    rw [Facility.init, Facility.target, Directory.locate, if_neg (by simp)]
    rfl

end Process

end InbandNull.Logging
