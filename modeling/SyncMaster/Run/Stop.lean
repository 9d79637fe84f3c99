import SyncMaster.Run.Once

/-!
# Stopping before the Start

A run that is stopped while it is `CREATED` is to stay unexecuted: a worker that
gets the message later does not find it `CREATED` and leaves it alone.

That covers the workers that look at the run after the stop. A worker that has
looked at it before holds a status that is no longer true, and its update to
`STARTED` overwrites `SEND_STOP_SIGNAL`. So the stop prevents the run exactly
when no worker claims the run at the moment of its commit.

## Main definitions

* `Prevented`: The run is not started and nobody is about to start it.

## Theorems

* `step_prevented`: It stays so, and `perform_transfer` is not entered.
* `starts_of_claims`: A worker that claims the run can start or enter it.
* `stop_prevents_iff`: When a stop that has observed `CREATED` prevents the run.
-/

namespace SyncMaster

namespace Lifecycle

variable {s s₁ t : Lifecycle}

/-- The run is neither `CREATED` nor `STARTED`, and no worker claims it. -/
structure Prevented (s : Lifecycle) : Prop where
  notCreated : s.row.status ≠ some .created
  notStarted : s.row.status ≠ some .started
  begun : s.creator ≠ .idle
  unclaimed : ∀ w ∈ s.workers, w.claims = false

theorem endValue_ne_started (status : Status) (failed : Bool) :
    endValue status failed ≠ some .started := by
  unfold endValue
  split
  · intro h
    cases h
  · cases failed <;> decide

/-- The moves of a worker that does not claim a run that is prevented. -/
theorem worker_prevented {n : Nat} {act : WorkerAct} {w w' : Worker} {row : RunRow}
    (h : Prevented s) (hw : s.workers[n]? = some w) (hmoves : Worker.Moves n s.row act w w' row) :
    row.status ≠ some .created ∧ row.status ≠ some .started ∧ w'.claims = false ∧ act ≠ .enter := by
  have hclaims : w.claims = false := h.unclaimed w (List.mem_of_getElem? hw)
  cases hmoves with
  | pick hcreated => exact absurd hcreated h.notCreated
  | skip | leave | load | gone | writeEnd | missingEnd =>
      exact ⟨h.notCreated, h.notStarted, rfl, WorkerAct.noConfusion⟩
  | commitEnd status failed =>
      refine ⟨?_, ?_, rfl, WorkerAct.noConfusion⟩
      · exact fun hcreated => h.notCreated
          (created_of_commit (endValue_ne_created status failed) hcreated)
      · intro hstarted
        rcases hvalue : endValue status failed with _ | value
        · rw [hvalue] at hstarted
          exact h.notStarted hstarted
        · rw [hvalue] at hstarted
          exact endValue_ne_started status failed (hvalue.trans hstarted)
  | failBefore | failAfter | writeStart | missingStart | commitStart | enter => cases hclaims

/-- A run that is prevented stays so, and `perform_transfer` is not entered. -/
theorem step_prevented {act : Act} (h : Prevented s) (hstep : step s act t) :
    Prevented t ∧ t.entered = s.entered := by
  cases step_cases hstep with
  | creator hmoves =>
      generalize hc : s.creator = c at hmoves
      cases hmoves with
      -- The one step that makes a run `CREATED` is over.
      | insert => exact absurd hc h.begun
      | commit =>
          exact ⟨⟨(fun hs => nomatch hs), (fun hs => nomatch hs), Creator.noConfusion, h.unclaimed⟩,
            rfl⟩
      | accept | sent | raise | escape | mark | missing =>
          exact ⟨⟨h.notCreated, h.notStarted, Creator.noConfusion, h.unclaimed⟩, rfl⟩
  | deliver =>
      refine ⟨⟨h.notCreated, h.notStarted, h.begun, fun w hw => ?_⟩, rfl⟩
      rcases List.mem_append.mp hw with hw | hw
      · exact h.unclaimed w hw
      · rw [List.mem_singleton.mp hw]
        rfl
  | redeliver => exact ⟨⟨h.notCreated, h.notStarted, h.begun, h.unclaimed⟩, rfl⟩
  | worker hw hmoves =>
      rcases worker_prevented h hw hmoves with ⟨hcreated, hstarted, hclaims, hact⟩
      refine ⟨⟨hcreated, hstarted, h.begun, fun v hv => ?_⟩, if_neg hact⟩
      rcases List.mem_or_eq_of_mem_set hv with hv | rfl
      · exact h.unclaimed v hv
      · exact hclaims
  | request => exact ⟨⟨h.notCreated, h.notStarted, h.begun, h.unclaimed⟩, rfl⟩
  | stop _ hmoves =>
      cases hmoves with
      | commit => exact ⟨⟨(fun hs => nomatch hs), (fun hs => nomatch hs), h.begun, h.unclaimed⟩, rfl⟩
      | load | gone | deny | write | refuse =>
          exact ⟨⟨h.notCreated, h.notStarted, h.begun, h.unclaimed⟩, rfl⟩
  | delete =>
      exact ⟨⟨(fun hs => nomatch hs), (fun hs => nomatch hs), h.begun, h.unclaimed⟩, rfl⟩

theorem run_prevented {acts : List Act} (hrun : Machine.Run step s acts t) (h : Prevented s) :
    Prevented t ∧ t.entered = s.entered := by
  induction hrun with
  | nil s => exact ⟨h, rfl⟩
  | cons hstep _ ih =>
      rcases step_prevented h hstep with ⟨hnext, hsame⟩
      rcases ih hnext with ⟨hlast, hentered⟩
      exact ⟨hlast, hentered.trans hsame⟩

/-- A worker that claims the run can start it or enter it, whatever its status is,
    as long as the row is there and free. -/
theorem starts_of_claims {w : Worker} {status : Status} (hw : w ∈ s.workers)
    (hclaims : w.claims = true) (hstatus : s.row.status = some status)
    (hfree : s.row.lockedBy = none) :
    ∃ acts t, Machine.Run step s acts t ∧
      (t.row.status = some .started ∨ t.entered ≠ s.entered) := by
  rcases List.mem_iff_getElem?.mp hw with ⟨n, hn⟩
  cases w with
  | holding => exact ⟨_, _, run_start hn hstatus hfree, Or.inl rfl⟩
  | startWritten =>
      have hcommit := step_worker .commitStart hn WorkerAct.noConfusion rfl
      exact ⟨_, _, Machine.run_single hcommit, Or.inl rfl⟩
  | started =>
      exact ⟨_, _, Machine.run_single (step_enter hn), Or.inr (Nat.succ_ne_self _)⟩
  | began | skipped | performing | ending | loaded | endWritten | done => cases hclaims

/-- The commit of a stop that has observed `CREATED`. From then on the run is never
    `STARTED` and `perform_transfer` is not entered, exactly when no worker is
    between its finding the run `CREATED` and `perform_transfer`. -/
theorem stop_prevents_iff {m : Nat} (hs : Reachable s) (hp : s.stops[m]? = some (.written .created))
    (hstep : step s (.stop m .commit) s₁) :
    (∀ acts t, Machine.Run step s₁ acts t →
      t.row.status ≠ some .started ∧ t.entered = s₁.entered) ↔
      ∀ w ∈ s.workers, w.claims = false := by
  have hcommit := step_stop .commit hp rfl
  have hs₁ : s₁ = s.moveStop m (.stopped .created) (s.row.commit (some .sendStopSignal)) :=
    Option.some.inj (hstep.symm.trans hcommit)
  subst hs₁
  constructor
  · intro hnever w hw
    refine Bool.eq_false_iff.mpr (fun hclaims => ?_)
    -- A worker that claims the run needs nobody else to start it.
    rcases starts_of_claims
      (s := s.moveStop m (.stopped .created) (s.row.commit (some .sendStopSignal)))
      hw hclaims rfl rfl with ⟨acts, t, hrun, hstarted | hentered⟩
    · exact (hnever acts t hrun).1 hstarted
    · exact hentered (hnever acts t hrun).2
  · intro hunclaimed acts t hrun
    -- Before the run is created there is nothing that a request to stop could have written.
    have hbegun : s.creator ≠ .idle := by
      intro hidle
      rcases ((sound_of_reachable hs).idle hidle).2.2.2.2 _ (List.mem_of_getElem? hp) with h | h <;>
        cases h
    have hprevented : Prevented
        (s.moveStop m (.stopped .created) (s.row.commit (some .sendStopSignal))) :=
      ⟨(fun h => nomatch h), (fun h => nomatch h), hbegun, hunclaimed⟩
    rcases run_prevented hrun hprevented with ⟨hlast, hentered⟩
    exact ⟨hlast.notStarted, hentered⟩

/-! ## A stop that is overwritten -/

/-- The run is sent, delivered, and a stop request loads it. -/
def stopLoaded : List Act := [
  .creator .insert, .creator .accept, .creator .sent, .deliver, .request, .stop 0 .load]

/-- The worker has not looked at the run when the stop is about to commit. -/
def beforeSelect : Lifecycle where
  row := ⟨some .created, some (.stop 0)⟩
  messages := 0
  creator := .returned
  workers := [.began]
  stops := [.written .created]
  entered := 0

/-- The worker holds the run when the stop is about to commit. -/
def afterSelect : Lifecycle :=
  { beforeSelect with workers := [.holding] }

theorem reachable_beforeSelect : Reachable beforeSelect :=
  reachable_of_after (stopLoaded ++ [.stop 0 .write]) (by decide +kernel)

theorem reachable_afterSelect : Reachable afterSelect :=
  reachable_of_after (stopLoaded ++ [.worker 0 .select, .stop 0 .write])
    (by decide +kernel)

theorem stop_prevents_beforeSelect :
    (∀ acts t, Machine.Run step
        (beforeSelect.moveStop 0 (.stopped .created) ⟨some .sendStopSignal, none⟩) acts t →
      t.row.status ≠ some .started ∧ t.entered = 0) ↔
      ∀ w ∈ beforeSelect.workers, w.claims = false :=
  stop_prevents_iff (m := 0) reachable_beforeSelect rfl rfl

/-- A stop that has observed `CREATED` succeeds, and the run is started after it. -/
theorem not_stop_prevents :
    ¬ ∀ s m s₁, Reachable s → s.stops[m]? = some (.written .created) →
      step s (.stop m .commit) s₁ → ∀ acts t, Machine.Run step s₁ acts t →
        t.row.status ≠ some .started ∧ t.entered = s₁.entered := by
  intro h
  have hstart := run_start
    (s := afterSelect.moveStop 0 (.stopped .created) ⟨some .sendStopSignal, none⟩) (n := 0)
    rfl rfl rfl
  exact (h afterSelect 0 _ reachable_afterSelect rfl rfl _ _ hstart).1 rfl

end Lifecycle

end SyncMaster
