import InbandNull.Proofs.Logging.Process

/-!
# Calls of `init`

`Call.Ends` lists the ways in which a call can end, each with all that the call leaves behind, and
everything below is by cases on it. A call depends on the facility it finds only through its log
file and through `Facility.status`, which no step but a call or a foreign logger changes. The call
that `Decides` is the first to get past its log file: nobody has tried before.
-/

namespace InbandNull.Logging

namespace Facility

/-- What a call of `init` depends on, its log file apart. -/
def status (f : Facility) : Option Logger × Bool := (f.logger, f.attempted)

/-- The logger is the library's own. -/
def Owned (f : Facility) : Prop :=
  ∃ level compact target, f.logger = some (.own level compact target)

theorem owned_congr {f g : Facility} (h : f.logger = g.logger) : f.Owned ↔ g.Owned := by
  rw [Owned, Owned, h]

theorem installForeign_of_some {f : Facility} {logger : Logger} (h : f.logger = some logger) :
    f.installForeign = f := by
  rw [installForeign, h]
  exact congrArg (fun l => { f with logger := l }) h.symm

variable (f : Facility)

theorem status_prepare (target : Target) : (f.prepare target).status = f.status := by
  rcases target with _ | (_ | _) | _ <;> rfl

theorem status_write (target : Target) (line : String) : (f.write target line).status = f.status := by
  rcases target with _ | (_ | _) | _ <;> rfl

theorem status_emit (r : Record) : (f.emit r).status = f.status := by
  unfold emit
  split
  · rfl
  · exact status_write ..
  · next level compact target _ =>
      by_cases h : level.admits r.event.severity
      · rw [if_pos h, status_write]
      · rw [if_neg h]

theorem status_emitAll (rs : List Record) : (f.emitAll rs).status = f.status := by
  induction rs generalizing f with
  | nil => rfl
  | cons r rs ih => rw [emitAll_cons, ih, status_emit]

theorem status_run {α : Type} (clock : Clock) (h : Handler) (x : Outcome α) :
    (f.run clock h x).1.status = f.status := by
  unfold run
  split
  · cases h with
    | host => exact (status_write ..).trans ((status_emit ..).trans (status_emitAll ..))
    | report | device => exact status_emitAll ..
  · exact status_emitAll ..
  · exact status_emitAll ..

end Facility

namespace Call

variable {c : Call}

/-- The ways in which a call ends. -/
inductive Ends (c : Call) : Prop where
  | fault {fault : OpenFault} (htarget : c.target = .error fault)
      (hresult : c.result = .error (.io fault)) (hafter : c.after = c.before)
  | later {target : Target} (htarget : c.target = .ok target)
      (hattempted : c.before.attempted = true) (hresult : c.result = .ok ())
      (hafter : c.after = c.before.prepare target)
  | installs {target : Target} (htarget : c.target = .ok target)
      (hattempted : c.before.attempted = false) (hlogger : c.before.logger = none)
      (hresult : c.result = .ok ())
      (hafter : c.after = { c.before.prepare target with
        attempted := true, logger := some (.own c.settings.level c.settings.compact target) })
  | refused {target : Target} {logger : Logger} {reason : String} (htarget : c.target = .ok target)
      (hattempted : c.before.attempted = false) (hlogger : c.before.logger = some logger)
      (hresult : c.result = .error (.logging reason))
      (hafter : c.after = { c.before.prepare target with attempted := true })

theorem ends (c : Call) : c.Ends := by
  obtain ⟨settings, f, opening⟩ := c
  cases htarget : f.target settings.file opening with
  | error fault =>
      refine .fault htarget ?_ ?_
      · simp [result, Facility.init, htarget]
      · simp [after, Facility.init, htarget]
  | ok target =>
      obtain ⟨hlogger, hattempted⟩ := Prod.mk.inj (f.status_prepare target)
      cases htried : f.attempted with
      | true =>
          refine .later htarget htried ?_ ?_
          · simp [result, Facility.init, htarget, hattempted, htried]
          · simp [after, Facility.init, htarget, hattempted, htried]
      | false =>
          cases howner : f.logger with
          | none =>
              refine .installs htarget htried howner ?_ ?_
              · simp [result, Facility.init, htarget, hattempted, htried, hlogger, howner]
              · simp [after, Facility.init, htarget, hattempted, htried, hlogger, howner]
          | some logger =>
              have hresult : result ⟨settings, f, opening⟩ = .error (.logging
                  "attempted to set a logger after the logging system was already initialized") := by
                simp [result, Facility.init, htarget, hattempted, htried, hlogger, howner]
              refine .refused htarget htried howner hresult ?_
              simp [after, Facility.init, htarget, hattempted, htried, hlogger, howner]

theorem opens_iff : c.opens = true ↔ ∃ target, c.target = .ok target := by
  unfold opens
  cases c.target with
  | error fault => simp [Except.isOk, Except.toBool]
  | ok target => simp [Except.isOk, Except.toBool]

theorem not_opens_iff : c.opens = false ↔ ∃ fault, c.target = .error fault := by
  unfold opens
  cases c.target with
  | error fault => simp [Except.isOk, Except.toBool]
  | ok target => simp [Except.isOk, Except.toBool]

theorem eq_of_fault {fault : OpenFault} (h : c.target = .error fault) :
    c.result = .error (.io fault) ∧ c.after = c.before := by
  cases c.ends with
  | fault htarget hresult hafter =>
      cases h.symm.trans htarget
      exact ⟨hresult, hafter⟩
  | later htarget | installs htarget | refused htarget => cases h.symm.trans htarget

theorem eq_of_attempted (h : c.before.attempted = true) {target : Target}
    (htarget : c.target = .ok target) :
    c.result = .ok () ∧ c.after = c.before.prepare target := by
  cases c.ends with
  | fault htarget' => cases htarget.symm.trans htarget'
  | later htarget' _ hresult hafter =>
      cases htarget.symm.trans htarget'
      exact ⟨hresult, hafter⟩
  | installs _ hattempted | refused _ hattempted => cases h.symm.trans hattempted

theorem status_after_of_attempted (h : c.before.attempted = true) :
    c.after.status = c.before.status := by
  cases htarget : c.target with
  | error fault => rw [(eq_of_fault htarget).2]
  | ok target => rw [(eq_of_attempted h htarget).2, Facility.status_prepare]

theorem logger_after_of_some {logger : Logger} (h : c.before.logger = some logger) :
    c.after.logger = some logger := by
  have hprepare (target : Target) : (c.before.prepare target).logger = some logger :=
    (congrArg Prod.fst (c.before.status_prepare target)).trans h
  cases c.ends with
  | fault _ _ hafter => rw [hafter, h]
  | later _ _ _ hafter => rw [hafter, hprepare]
  | installs _ _ hlogger => cases h.symm.trans hlogger
  | refused _ _ _ _ hafter => rw [hafter, hprepare]

theorem refused_iff :
    c.refused = true ↔ c.opens = true ∧ c.before.attempted = false ∧ c.before.logger ≠ none := by
  rw [opens_iff]
  cases c.ends with
  | fault htarget hresult => simp [refused, htarget, hresult]
  | later htarget hattempted hresult => simp [refused, htarget, hresult, hattempted]
  | installs htarget hattempted hlogger hresult => simp [refused, htarget, hresult, hlogger]
  | refused htarget hattempted hlogger hresult =>
      simp [Call.refused, htarget, hresult, hattempted, hlogger]

theorem refused_of_not_opens (h : c.opens = false) : c.refused = false := by
  rw [← Bool.not_eq_true, refused_iff]
  simp [h]

theorem refused_of_attempted (h : c.before.attempted = true) : c.refused = false := by
  rw [← Bool.not_eq_true, refused_iff]
  simp [h]

theorem refused_of_ok (h : c.result = .ok ()) : c.refused = false := by
  rw [refused, h]

theorem result_eq_ok_iff :
    c.result = .ok () ↔ c.opens = true ∧ (c.before.attempted = true ∨ c.before.logger = none) := by
  rw [opens_iff]
  cases c.ends with
  | fault htarget hresult => simp [htarget, hresult]
  | later htarget hattempted hresult => simp [htarget, hresult, hattempted]
  | installs htarget hattempted hlogger hresult => simp [htarget, hresult, hlogger]
  | refused htarget hattempted hlogger hresult => simp [htarget, hresult, hattempted, hlogger]

/-- The call that decides on the owner of the log: nobody has tried before. -/
structure Decides (c : Call) : Prop where
  opens : c.opens = true
  attempted_eq : c.before.attempted = false
  owner : c.before.logger = none ∨ c.before.logger = some .foreign

/-- The deciding call installs a logger where there is none, and is refused where there is one. -/
theorem Decides.outcome (h : c.Decides) :
    (∃ target, c.target = .ok target ∧ c.before.logger = none ∧
        c.after.status = (some (.own c.settings.level c.settings.compact target), true)) ∨
      (c.before.logger = some .foreign ∧ c.after.status = (some .foreign, true)) := by
  obtain ⟨target, htarget⟩ := opens_iff.1 h.opens
  cases c.ends with
  | fault htarget' => cases htarget.symm.trans htarget'
  | later _ hattempted => cases hattempted.symm.trans h.attempted_eq
  | installs htarget _ hlogger _ hafter =>
      refine Or.inl ⟨_, htarget, hlogger, ?_⟩
      rw [hafter, Facility.status]
  | refused _ _ hlogger _ hafter =>
      have hforeign := h.owner.resolve_left (by simp [hlogger])
      refine Or.inr ⟨hforeign, ?_⟩
      rw [Facility.status, logger_after_of_some hforeign, hafter]

theorem Decides.status_after (h : c.Decides) : ∃ logger, c.after.status = (some logger, true) := by
  rcases h.outcome with ⟨_, -, -, hafter⟩ | ⟨-, hafter⟩
  · exact ⟨_, hafter⟩
  · exact ⟨_, hafter⟩

/-- After the deciding call, the attempt is used up. -/
theorem Decides.attempted_of_status (h : c.Decides) {f : Facility}
    (hstatus : f.status = c.after.status) : f.attempted = true := by
  obtain ⟨logger, hafter⟩ := h.status_after
  exact congrArg Prod.snd (hstatus.trans hafter)

theorem Decides.owned_after_iff (h : c.Decides) : c.after.Owned ↔ c.refused = false := by
  rcases h.outcome with ⟨target, -, hbare, hafter⟩ | ⟨hforeign, hafter⟩
  · refine iff_of_true ⟨_, _, target, congrArg Prod.fst hafter⟩ ?_
    rw [← Bool.not_eq_true, refused_iff]
    simp [hbare]
  · have hlogger : c.after.logger = some .foreign := congrArg Prod.fst hafter
    refine iff_of_false (by simp [Facility.Owned, hlogger]) ?_
    rw [Bool.not_eq_false, refused_iff]
    exact ⟨h.opens, h.attempted_eq, by simp [hforeign]⟩

end Call

end InbandNull.Logging
