import SyncMaster.Run.Lifecycle

/-!
# Terminal Statuses

A run that is `FINISHED`, `FAILED` or `STOPPED` is over, and its status is to
stay. No writer looks at the status that it overwrites, so whether it stays
depends on who else is under way at the moment the run is over: a stop request
that has loaded an earlier status, a worker that has found the run `CREATED`,
the creator whose message was refused or may still be refused.

`changes` says of each phase whether the process can still write something
else. Every one that can gets its chance in some continuation, after the holder
of the lock has released it; that is one direction of `terminal_kept_iff`. In
the other direction nobody becomes dangerous who was not: whoever looks at the
run from now on sees that it is over.

## Main definitions

* `Status.terminal`: The run is over.
* `Creator.changes`, `Worker.changes`, `Stop.changes`: The process can still
  write another status.
* `Quiet`: Nobody can.

## Theorems

* `step_quiet`: A run that is over and quiet stays so.
* `worker_overwrites`, `stop_overwrites`, `creator_overwrites`: Who can write
  another status can get to it, when the row is free.
* `terminal_kept_iff`: A run that is over keeps its status in every continuation
  exactly when it is quiet.
-/

namespace SyncMaster

/-- The run is over. -/
def Status.terminal : Status → Bool
  | .finished | .failed | .stopped => true
  | .created | .started | .sendStopSignal => false

/-- The creator can still write a status other than the given one. -/
def Creator.changes (status : Status) : Creator → Bool
  | .sending _ | .failing | .marked => status != .failed
  | .idle | .returned => false

/-- The worker can still write a status other than the given one. Before it has
    loaded the run again, it can write anything; afterwards it writes its outcome,
    unless that is what it has loaded. -/
def Worker.changes (status : Status) : Worker → Bool
  | .holding | .startWritten | .started | .performing => true
  | .ending failed => status != outcome failed
  | .loaded seen failed | .endWritten seen failed =>
      seen != outcome failed && status != outcome failed
  | .began | .skipped | .done => false

/-- The stop request can still write its signal. -/
def Stop.changes : Stop → Bool
  | .loaded status => status == .created || status == .started
  | .written _ => true
  | .requested | .stopped _ | .refused => false

namespace Lifecycle

variable {s t : Lifecycle} {v : Status}

/-- Nobody can write another status any more. -/
structure Quiet (v : Status) (s : Lifecycle) : Prop where
  creator : s.creator.changes v = false
  workers : ∀ w ∈ s.workers, w.changes v = false
  stops : ∀ p ∈ s.stops, p.changes = false

/-! ## A quiet run stays so -/

/-- The run is over and quiet, or deleted. -/
structure Over (v : Status) (s : Lifecycle) : Prop where
  status : s.row.status = some v ∨ s.row.status = none
  begun : s.creator ≠ .idle
  quiet : Quiet v s

theorem ne_of_over {x : Status} (h : Over v s) (hx : x ≠ v) : s.row.status ≠ some x := by
  intro hs
  rcases h.status with hv | hnone
  · exact hx (Option.some.inj (hs.symm.trans hv))
  · cases hs.symm.trans hnone

theorem worker_quiet {n : Nat} {act : WorkerAct} {w w' : Worker} {row : RunRow}
    (hterminal : v.terminal = true) (h : Over v s) (hw : s.workers[n]? = some w)
    (hmoves : Worker.Moves n s.row act w w' row) :
    (row.status = some v ∨ row.status = none) ∧ w'.changes v = false := by
  have hquiet : w.changes v = false := h.quiet.workers w (List.mem_of_getElem? hw)
  cases hmoves with
  | pick hcreated =>
      refine absurd hcreated (ne_of_over h ?_)
      rintro rfl
      cases hterminal
  | skip | gone | missingEnd => exact ⟨h.status, rfl⟩
  | load seen failed hseen =>
      -- Whoever loads the run now sees the status that it has, or writes it.
      have hv : seen = v := by
        by_contra hne
        exact ne_of_over h hne hseen
      refine ⟨h.status, ?_⟩
      rw [hv, Worker.changes, Bool.and_self]
      exact hquiet
  | writeEnd seen failed => exact ⟨h.status, hquiet⟩
  | commitEnd seen failed =>
      refine ⟨?_, rfl⟩
      rcases Bool.and_eq_false_iff.mp hquiet with hsame | hv
      · rw [endValue, if_pos (bne_eq_false_iff_eq.mp hsame)]
        exact h.status
      · rw [endValue]
        split
        · exact h.status
        · rw [← bne_eq_false_iff_eq.mp hv]
          exact Or.inl rfl
  | failBefore | failAfter | writeStart | missingStart | commitStart | enter | leave =>
      cases hquiet

theorem stop_quiet {m : Nat} {act : StopAct} {p p' : Stop} {row : RunRow}
    (hterminal : v.terminal = true) (h : Over v s) (hp : s.stops[m]? = some p)
    (hmoves : Stop.Moves m s.row act p p' row) :
    (row.status = some v ∨ row.status = none) ∧ p'.changes = false := by
  have hquiet : p.changes = false := h.quiet.stops p (List.mem_of_getElem? hp)
  cases hmoves with
  | load seen hseen =>
      have hv : seen = v := by
        by_contra hne
        exact ne_of_over h hne hseen
      rw [hv]
      refine ⟨h.status, ?_⟩
      cases v with
      | finished | failed | stopped => rfl
      | created | started | sendStopSignal => cases hterminal
  | gone | deny | refuse => exact ⟨h.status, rfl⟩
  | write seen hseen =>
      rcases hseen with rfl | rfl <;> cases hquiet
  | commit => cases hquiet

theorem creator_quiet {act : CreatorAct} {c c' : Creator} {row : RunRow} {messages : Nat}
    (h : Over v s) (hc : s.creator = c)
    (hmoves : Creator.Moves s.row s.messages act c c' row messages) :
    (row.status = some v ∨ row.status = none) ∧ c' ≠ .idle ∧ c'.changes v = false := by
  have hquiet : c.changes v = false := hc ▸ h.quiet.creator
  cases hmoves with
  | insert => exact absurd hc h.begun
  | commit =>
      rw [← bne_eq_false_iff_eq.mp hquiet]
      exact ⟨Or.inl rfl, Creator.noConfusion, rfl⟩
  | sent | escape | missing => exact ⟨h.status, Creator.noConfusion, rfl⟩
  | accept | raise | mark => exact ⟨h.status, Creator.noConfusion, hquiet⟩

/-- A run that is over and quiet stays so. -/
theorem step_quiet {act : Act} (hterminal : v.terminal = true) (h : Over v s)
    (hstep : step s act t) : Over v t := by
  cases step_cases hstep with
  | creator hmoves =>
      rcases creator_quiet h rfl hmoves with ⟨hstatus, hbegun, hchanges⟩
      exact ⟨hstatus, hbegun, hchanges, h.quiet.workers, h.quiet.stops⟩
  -- A worker that begins finds the run in a terminal status and leaves it.
  | deliver =>
      refine ⟨h.status, h.begun, h.quiet.creator, fun w hw => ?_, h.quiet.stops⟩
      rcases List.mem_append.mp hw with hw | hw
      · exact h.quiet.workers w hw
      · rw [List.mem_singleton.mp hw]
        rfl
  | redeliver => exact ⟨h.status, h.begun, h.quiet.creator, h.quiet.workers, h.quiet.stops⟩
  | worker hw hmoves =>
      rcases worker_quiet hterminal h hw hmoves with ⟨hstatus, hchanges⟩
      refine ⟨hstatus, h.begun, h.quiet.creator, fun u hu => ?_, h.quiet.stops⟩
      rcases List.mem_or_eq_of_mem_set hu with hu | rfl
      · exact h.quiet.workers u hu
      · exact hchanges
  | request =>
      refine ⟨h.status, h.begun, h.quiet.creator, h.quiet.workers, fun p hp => ?_⟩
      rcases List.mem_append.mp hp with hp | hp
      · exact h.quiet.stops p hp
      · rw [List.mem_singleton.mp hp]
        rfl
  | stop hp hmoves =>
      rcases stop_quiet hterminal h hp hmoves with ⟨hstatus, hchanges⟩
      refine ⟨hstatus, h.begun, h.quiet.creator, h.quiet.workers, fun q hq => ?_⟩
      rcases List.mem_or_eq_of_mem_set hq with hq | rfl
      · exact h.quiet.stops q hq
      · exact hchanges
  | delete => exact ⟨Or.inr rfl, h.begun, h.quiet.creator, h.quiet.workers, h.quiet.stops⟩

/-! ## Whoever can write another status gets to it -/

/-- In some continuation the run has another status. -/
def Overwritten (v : Status) (s : Lifecycle) : Prop :=
  ∃ acts t x, Machine.Run step s acts t ∧ t.row.status = some x ∧ x ≠ v

theorem overwritten_of_step {act : Act} (hstep : step s act t) (h : Overwritten v t) :
    Overwritten v s := by
  rcases h with ⟨acts, u, x, hrun, hx, hne⟩
  exact ⟨act :: acts, u, x, .cons hstep hrun, hx, hne⟩

theorem overwritten_now {act : Act} {x : Status} (hstep : step s act t)
    (hx : t.row.status = some x) (hne : x ≠ v) : Overwritten v s :=
  ⟨[act], t, x, Machine.run_single hstep, hx, hne⟩

section Free

variable {n m : Nat} {failed : Bool}

theorem overwritten_of_endWritten {seen : Status}
    (hw : s.workers[n]? = some (.endWritten seen failed))
    (hchanges : (Worker.endWritten seen failed).changes v = true) : Overwritten v s := by
  rcases Bool.and_eq_true_iff.mp hchanges with ⟨hseen, hv⟩
  refine overwritten_now (x := outcome failed) (step_worker .commitEnd hw WorkerAct.noConfusion rfl)
    ?_ (bne_iff_ne.mp hv).symm
  rw [endValue, if_neg (bne_iff_ne.mp hseen)]
  rfl

theorem overwritten_of_startWritten (hw : s.workers[n]? = some .startWritten)
    (hterminal : v.terminal = true) : Overwritten v s := by
  refine overwritten_now (x := .started) (step_worker .commitStart hw WorkerAct.noConfusion rfl)
    rfl ?_
  rintro rfl
  cases hterminal

theorem overwritten_of_loaded {seen : Status} (hw : s.workers[n]? = some (.loaded seen failed))
    (hchanges : (Worker.loaded seen failed).changes v = true)
    (hstatus : s.row.status = some v) (hfree : s.row.lockedBy = none) : Overwritten v s := by
  have hwrite : step s (.worker n .writeEnd)
      (s.moveWorker n (.endWritten seen failed) (s.row.lock (.worker n))) := by
    refine step_worker .writeEnd hw WorkerAct.noConfusion ?_
    rw [Worker.next, RunRow.update_of_free hstatus hfree]
  exact overwritten_of_step hwrite (overwritten_of_endWritten (getElem?_set_of hw) hchanges)

theorem overwritten_of_ending (hw : s.workers[n]? = some (.ending failed))
    (hchanges : (Worker.ending failed).changes v = true)
    (hstatus : s.row.status = some v) (hfree : s.row.lockedBy = none) : Overwritten v s := by
  have hload : step s (.worker n .load) (s.moveWorker n (.loaded v failed) s.row) := by
    refine step_worker .load hw WorkerAct.noConfusion ?_
    rw [Worker.next, hstatus]
  refine overwritten_of_step hload
    (overwritten_of_loaded (getElem?_set_of hw) ?_ hstatus hfree)
  rw [Worker.changes, Bool.and_self]
  exact hchanges

/-- The worker can end with the outcome that the run does not have. -/
theorem overwritten_of_performing (hw : s.workers[n]? = some .performing)
    (hstatus : s.row.status = some v) (hfree : s.row.lockedBy = none) : Overwritten v s := by
  have hother : ∃ failed, (Worker.ending failed).changes v = true := by
    cases v with
    | failed => exact ⟨false, rfl⟩
    | finished | stopped | created | started | sendStopSignal => exact ⟨true, rfl⟩
  rcases hother with ⟨failed, hchanges⟩
  exact overwritten_of_step (step_worker (.leave failed) hw WorkerAct.noConfusion rfl)
    (overwritten_of_ending (getElem?_set_of hw) hchanges hstatus hfree)

theorem worker_overwrites {w : Worker} (hterminal : v.terminal = true)
    (hw : s.workers[n]? = some w) (hchanges : w.changes v = true)
    (hstatus : s.row.status = some v) (hfree : s.row.lockedBy = none) : Overwritten v s := by
  cases w with
  | holding =>
      have hwrite : step s (.worker n .writeStart)
          (s.moveWorker n .startWritten (s.row.lock (.worker n))) := by
        refine step_worker .writeStart hw WorkerAct.noConfusion ?_
        rw [Worker.next, RunRow.update_of_free hstatus hfree]
      exact overwritten_of_step hwrite
        (overwritten_of_startWritten (getElem?_set_of hw) hterminal)
  | startWritten => exact overwritten_of_startWritten hw hterminal
  | started =>
      exact overwritten_of_step (step_enter hw)
        (overwritten_of_performing (getElem?_set_of hw) hstatus hfree)
  | performing => exact overwritten_of_performing hw hstatus hfree
  | ending failed => exact overwritten_of_ending hw hchanges hstatus hfree
  | loaded seen failed => exact overwritten_of_loaded hw hchanges hstatus hfree
  | endWritten seen failed => exact overwritten_of_endWritten hw hchanges
  | began | skipped | done => cases hchanges

theorem overwritten_of_written {seen : Status} (hterminal : v.terminal = true)
    (hp : s.stops[m]? = some (.written seen)) : Overwritten v s := by
  refine overwritten_now (x := .sendStopSignal) (step_stop .commit hp rfl) rfl ?_
  rintro rfl
  cases hterminal

theorem stop_overwrites {p : Stop} (hterminal : v.terminal = true)
    (hp : s.stops[m]? = some p) (hchanges : p.changes = true)
    (hstatus : s.row.status = some v) (hfree : s.row.lockedBy = none) : Overwritten v s := by
  cases p with
  | loaded seen =>
      have hseen : seen = .created ∨ seen = .started := by
        rcases Bool.or_eq_true_iff.mp hchanges with h | h
        · exact Or.inl (beq_iff_eq.mp h)
        · exact Or.inr (beq_iff_eq.mp h)
      have hwrite : step s (.stop m .write) (s.moveStop m (.written seen) (s.row.lock (.stop m))) := by
        refine step_stop .write hp ?_
        rw [Stop.next, if_pos hseen, RunRow.update_of_free hstatus hfree]
      exact overwritten_of_step hwrite (overwritten_of_written hterminal (getElem?_set_of hp))
  | written seen => exact overwritten_of_written hterminal hp
  | requested | stopped | refused => cases hchanges

theorem overwritten_of_marked (hc : s.creator = .marked) (hv : v ≠ .failed) : Overwritten v s := by
  have hcommit : step s (.creator .commit)
      { s with creator := .returned, row := s.row.commit (some .failed) } := by
    change s.next (.creator .commit) = _
    simp only [next, hc, Creator.next]
  exact overwritten_now (x := .failed) hcommit rfl hv.symm

theorem overwritten_of_failing (hc : s.creator = .failing) (hv : v ≠ .failed)
    (hstatus : s.row.status = some v) (hfree : s.row.lockedBy = none) : Overwritten v s := by
  have hmark : step s (.creator .mark)
      { s with creator := .marked, row := s.row.lock .creator } := by
    change s.next (.creator .mark) = _
    simp only [next, hc, Creator.next, RunRow.update_of_free hstatus hfree]
  exact overwritten_of_step hmark (overwritten_of_marked rfl hv)

theorem creator_overwrites (hchanges : s.creator.changes v = true)
    (hstatus : s.row.status = some v) (hfree : s.row.lockedBy = none) : Overwritten v s := by
  rcases hc : s.creator with _ | accepted | _ | _ | _ <;> rw [hc] at hchanges
  · cases hchanges
  · have hraise : step s (.creator .raise) { s with creator := .failing } := by
      change s.next (.creator .raise) = _
      simp only [next, hc, Creator.next]
    exact overwritten_of_step hraise
      (overwritten_of_failing rfl (bne_iff_ne.mp hchanges) hstatus hfree)
  · exact overwritten_of_failing hc (bne_iff_ne.mp hchanges) hstatus hfree
  · exact overwritten_of_marked hc (bne_iff_ne.mp hchanges)
  · cases hchanges

/-- Where the row is free, a run that is not quiet can be overwritten. -/
theorem overwritten_of_free (hterminal : v.terminal = true) (hstatus : s.row.status = some v)
    (hfree : s.row.lockedBy = none) (hnot : ¬ Quiet v s) : Overwritten v s := by
  by_contra hkept
  refine hnot ⟨?_, fun w hw => ?_, fun p hp => ?_⟩
  · exact Bool.eq_false_iff.mpr (fun hc => hkept (creator_overwrites hc hstatus hfree))
  · rcases List.mem_iff_getElem?.mp hw with ⟨n, hn⟩
    exact Bool.eq_false_iff.mpr (fun hc => hkept (worker_overwrites hterminal hn hc hstatus hfree))
  · rcases List.mem_iff_getElem?.mp hp with ⟨m, hm⟩
    exact Bool.eq_false_iff.mpr (fun hc => hkept (stop_overwrites hterminal hm hc hstatus hfree))

end Free

/-! ## Releasing the lock -/

/-- The holder of the lock overwrites the status with its commit, or it does not,
    and then the run is as quiet after the commit as it was before. -/
theorem release (hterminal : v.terminal = true) (hsound : Sound s)
    (hstatus : s.row.status = some v) {party : Party} (hlocked : s.row.lockedBy = some party) :
    Overwritten v s ∨
      ∃ act t, step s act t ∧ t.row.status = some v ∧ t.row.lockedBy = none ∧
        (Quiet v t → Quiet v s) := by
  have hheld := hsound.holder party hlocked
  cases party with
  | creator =>
      -- The creator marks the run FAILED, which leaves a run that has failed as it was.
      by_cases hv : v = .failed
      · refine Or.inr ⟨.creator .commit,
          { s with creator := .returned, row := s.row.commit (some .failed) }, ?_, ?_, rfl, ?_⟩
        · change s.next (.creator .commit) = _
          have hc : s.creator = .marked := hheld
          simp only [next, hc, Creator.next]
        · rw [hv]
          rfl
        · intro hquiet
          refine ⟨?_, hquiet.workers, hquiet.stops⟩
          have hc : s.creator = .marked := hheld
          rw [hc, hv]
          rfl
      · exact Or.inl (overwritten_of_marked hheld hv)
  | worker n =>
      -- Before the engine starts, the commit writes STARTED over a status that is over.
      rcases hheld with hw | ⟨seen, failed, hw⟩
      · exact Or.inl (overwritten_of_startWritten hw hterminal)
      · by_cases hchanges : (Worker.endWritten seen failed).changes v = true
        · exact Or.inl (overwritten_of_endWritten hw hchanges)
        -- The commit leaves the status out, or sets the one that is stored.
        · have hcommit := step_worker .commitEnd hw WorkerAct.noConfusion rfl
          refine Or.inr ⟨_, _, hcommit, ?_, rfl, fun hquiet => ⟨hquiet.creator, ?_, hquiet.stops⟩⟩
          · rcases Bool.and_eq_false_iff.mp (Bool.eq_false_iff.mpr hchanges) with hsame | hv
            · change (s.row.commit (endValue seen failed)).status = some v
              rw [endValue, if_pos (bne_eq_false_iff_eq.mp hsame)]
              exact hstatus
            · change (s.row.commit (endValue seen failed)).status = some v
              rw [endValue]
              split
              · exact hstatus
              · rw [bne_eq_false_iff_eq.mp hv]
                rfl
          · -- The worker that is done now did not change anything.
            intro w hmem
            rcases List.mem_iff_getElem?.mp hmem with ⟨k, hk⟩
            by_cases hkn : k = n
            · subst hkn
              cases hw.symm.trans hk
              exact Bool.eq_false_iff.mpr hchanges
            · refine hquiet.workers w (List.mem_of_getElem? (i := k) ?_)
              exact (List.getElem?_set_ne (Ne.symm hkn)).trans hk
  | stop m =>
      -- A stop that holds the lock commits SEND_STOP_SIGNAL.
      rcases hheld with ⟨seen, hp⟩
      exact Or.inl (overwritten_of_written hterminal hp)

/-- The status of a run that is over is never changed again, unless the run is
    deleted, exactly when the run is quiet. -/
theorem terminal_kept_iff (hs : Reachable s) (hstatus : s.row.status = some v)
    (hterminal : v.terminal = true) :
    (∀ acts t, Machine.Run step s acts t → t.row.status = some v ∨ t.row.status = none) ↔
      Quiet v s := by
  have hsound := sound_of_reachable hs
  constructor
  · intro hkept
    by_contra hnot
    have hnever : ¬ Overwritten v s := by
      rintro ⟨acts, t, x, hrun, hx, hne⟩
      rcases hkept acts t hrun with hv | hnone
      · exact hne (Option.some.inj (hx.symm.trans hv))
      · cases hx.symm.trans hnone
    -- Whoever has the row locked can commit first, then somebody who is not quiet writes.
    rcases hlock : s.row.lockedBy with _ | party
    · exact hnever (overwritten_of_free hterminal hstatus hlock hnot)
    · rcases release hterminal hsound hstatus hlock with h | ⟨act, t, hstep, hv, hfree, hquiet⟩
      · exact hnever h
      · exact hnever (overwritten_of_step hstep
          (overwritten_of_free hterminal hv hfree (fun h => hnot (hquiet h))))
  · intro hquiet acts t hrun
    have hbegun : s.creator ≠ .idle := by
      intro hidle
      cases hstatus.symm.trans (hsound.idle hidle).1
    exact (Machine.run_invariant (fun _ _ _ h hstep => step_quiet hterminal h hstep) hrun
      ⟨Or.inl hstatus, hbegun, hquiet⟩).status

/-! ## A stop after the end -/

/-- A worker executes the run. -/
def executed : List Act := [
  .creator .insert, .creator .accept, .creator .sent, .deliver,
  .worker 0 .select, .worker 0 .writeStart, .worker 0 .commitStart, .worker 0 .enter,
  .worker 0 (.leave false), .worker 0 .load, .worker 0 .writeEnd]

/-- The run is over, and nobody else is there. -/
def finishedAlone : Lifecycle where
  row := ⟨some .finished, none⟩
  messages := 0
  creator := .returned
  workers := [.done]
  stops := []
  entered := 1

/-- The run is over, and a stop request has loaded it while it was `STARTED`. -/
def finishedWithStop : Lifecycle :=
  { finishedAlone with stops := [.loaded .started] }

theorem reachable_finishedAlone : Reachable finishedAlone :=
  reachable_of_after (executed ++ [.worker 0 .commitEnd]) (by decide +kernel)

theorem reachable_finishedWithStop : Reachable finishedWithStop :=
  reachable_of_after (executed ++ [.request, .stop 0 .load, .worker 0 .commitEnd])
    (by decide +kernel)

theorem terminal_kept_finishedAlone :
    (∀ acts t, Machine.Run step finishedAlone acts t →
      t.row.status = some .finished ∨ t.row.status = none) ↔ Quiet .finished finishedAlone :=
  terminal_kept_iff reachable_finishedAlone rfl rfl

/-- The stop request overwrites `FINISHED`. -/
theorem not_terminal_kept :
    ¬ ∀ s v, Reachable s → s.row.status = some v → v.terminal = true →
      ∀ acts t, Machine.Run step s acts t → t.row.status = some v ∨ t.row.status = none := by
  intro h
  have hoverwritten : Overwritten .finished finishedWithStop :=
    stop_overwrites (m := 0) rfl rfl rfl rfl rfl
  rcases hoverwritten with ⟨acts, t, x, hrun, hx, hne⟩
  rcases h finishedWithStop .finished reachable_finishedWithStop rfl rfl acts t hrun with hv | hnone
  · exact hne (Option.some.inj (hx.symm.trans hv))
  · cases hx.symm.trans hnone

end Lifecycle

end SyncMaster
