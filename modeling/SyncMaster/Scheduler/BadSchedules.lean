import SyncMaster.Scheduler.Convergence

/-!
# Schedules that Are No Crontabs

A schedule is any text that is not empty: the API does not parse it. The
scheduler does, in the loop that brings the jobs of a batch up to date, and
there the parser raises. Nothing catches the error, neither in that loop nor in
the one around it, so the transfers of the batch that come after the bad one
are not looked at, the mark stays where it was, and the process ends. When it
starts again, the bad transfer is fetched again.

## Main definitions

* `Iterates`: A turn of the loop that serves the transfers it can serve.

## Theorems

* `validSchedule_of_updateJobs`: What returned has parsed every schedule.
* `updateJobs_raises`: What a bad schedule leaves done.
* `poll_stuck`: A batch with a bad schedule is not passed.
* `iterates_iff`: A turn of the loop succeeds just when there is none.
-/

namespace SyncMaster

open Program

section BadSchedules

variable {Trigger : Type} {settings : SchedulerSettings Trigger} {s s' : Deployment Trigger}

/-- The turn of the loop completes, the transfers of the batch that are not
    scheduled or have a crontab are in line with the job store, and the mark
    is moved to the latest of the batch. -/
structure Iterates (settings : SchedulerSettings Trigger) (s s' : Deployment Trigger) : Prop where
  completes : Returns (poll settings) s () s'
  inLine : ∀ t ∈ s.batch, ValidSchedule settings t → Agrees settings s'.jobs t
  advances : s.batch ≠ [] → s'.lastUpdatedAt = (s.batch.map (fun t => t.updatedAt)).max?

/-! ## What returned has parsed every schedule -/

theorem validSchedule_of_updateJob {t : Transfer} (h : Returns (updateJob settings t) s () s') :
    ValidSchedule settings t := by
  intro hscheduled
  rcases returns_bind.mp h with ⟨existingJob, s₁, _, h⟩
  rw [if_neg (by rw [hscheduled]; decide)] at h
  rcases returns_bind.mp h with ⟨trigger, s₂, hparse, _⟩
  have hvalue := (returns_query.mp hparse).1
  cases hcrontab : settings.fromCrontab t.schedule with
  | some trigger => rfl
  | none =>
      rw [hcrontab] at hvalue
      cases hvalue

theorem validSchedule_of_updateJobs {transfers : List Transfer} {s : Deployment Trigger}
    (h : Returns (updateJobs settings transfers) s () s') :
    ∀ t ∈ transfers, ValidSchedule settings t := by
  induction transfers generalizing s with
  | nil => exact fun t ht => absurd ht List.not_mem_nil
  | cons t transfers ih =>
      rcases returns_bind.mp h with ⟨_, s₁, hfirst, hrest⟩
      intro u hu
      rcases List.mem_cons.mp hu with rfl | hu
      · exact validSchedule_of_updateJob hfirst
      · exact ih hrest u hu

theorem validSchedule_of_poll (hd : DistinctJobs s.jobs) (h : Returns (poll settings) s () s') :
    ∀ t ∈ s.batch, ValidSchedule settings t := by
  rcases removeOrphanJobs_returns hd with ⟨jobs₁, horphans, _, _⟩
  rcases returns_bind.mp h with ⟨_, s₁, hfirst, h⟩
  rcases returns_bind.mp h with ⟨transfers, s₂, hfetch, h⟩
  -- The jobs without a transfer go first. The batch does not depend on them.
  rw [(returns_unique hfirst horphans).2] at hfetch
  rcases returns_query.mp hfetch with ⟨hbatch, rfl⟩
  rw [Except.ok.injEq] at hbatch
  change s.batch = transfers at hbatch
  rw [hbatch]
  by_cases hempty : transfers.isEmpty = true
  · intro t ht
    rw [List.isEmpty_iff.mp hempty] at ht
    exact absurd ht List.not_mem_nil
  · rw [if_neg hempty] at h
    rcases returns_bind.mp h with ⟨_, s₃, hupdates, _⟩
    exact validSchedule_of_updateJobs hupdates

/-! ## What a bad schedule leaves undone -/

theorem updateJob_raises {bad : Transfer} (hbad : ¬ ValidSchedule settings bad) :
    Raises (updateJob settings bad) s .valueError s := by
  rcases Classical.not_imp.mp hbad with ⟨hscheduled, hnone⟩
  rw [Option.not_isSome_iff_eq_none] at hnone
  refine raises_bind.mpr (Or.inr ⟨_, s, getJob_returns bad.id, ?_⟩)
  rw [if_neg (by rw [hscheduled]; decide)]
  refine raises_bind.mpr (Or.inl (raises_query.mpr ⟨?_, rfl⟩))
  rw [hnone]

theorem updateJobs_append_raises {front rest : List Transfer} {s s₁ : Deployment Trigger}
    {e : SchedulerError} (hfront : Returns (updateJobs settings front) s () s₁)
    (hrest : Raises (updateJobs settings rest) s₁ e s') :
    Raises (updateJobs settings (front ++ rest)) s e s' := by
  induction front generalizing s with
  | nil =>
      rw [← (returns_pure.mp hfront).2] at hrest
      exact hrest
  | cons t front ih =>
      rcases returns_bind.mp hfront with ⟨_, s₂, hfirst, hnext⟩
      exact raises_bind.mpr (Or.inr ⟨(), s₂, hfirst, ih hnext⟩)

/-- The transfers before the first bad one are served, and no others. -/
theorem updateJobs_raises {front : List Transfer} (back : List Transfer) {bad : Transfer}
    (hd : DistinctJobs s.jobs) (hdistinct : Table.Distinct (fun t : Transfer => t.id) front)
    (hfront : ∀ t ∈ front, ValidSchedule settings t) (hbad : ¬ ValidSchedule settings bad) :
    ∃ jobs', Raises (updateJobs settings (front ++ bad :: back)) s .valueError
        { s with jobs := jobs' } ∧ Updated settings front s.jobs jobs' := by
  rcases updateJobs_returns hd hdistinct hfront with ⟨jobs', hreturns, hupdated⟩
  refine ⟨jobs', updateJobs_append_raises hreturns ?_, hupdated⟩
  exact raises_bind.mpr (Or.inl (updateJob_raises hbad))

/-- A batch with a bad schedule ends the loop with the mark where it was, so the
    bad schedule is in the next batch as well, before or after a restart. -/
theorem poll_stuck (hd : DistinctJobs s.jobs)
    (hdistinct : Table.Distinct (fun t : Transfer => t.id) s.db.transfers) {bad : Transfer}
    (hmem : bad ∈ s.batch) (hbad : ¬ ValidSchedule settings bad) :
    ∃ s', Raises (poll settings) s .valueError s' ∧ s'.db = s.db ∧
      s'.lastUpdatedAt = s.lastUpdatedAt ∧ DistinctJobs s'.jobs := by
  rcases removeOrphanJobs_returns hd with ⟨jobs₁, horphans, hd₁, _⟩
  -- The first bad schedule of the batch.
  have hfind : (s.batch.find? (fun t => decide (¬ ValidSchedule settings t))).isSome = true :=
    List.find?_isSome.mpr ⟨bad, hmem, decide_eq_true hbad⟩
  rcases Option.isSome_iff_exists.mp hfind with ⟨first, hfirst⟩
  rcases List.find?_eq_some_iff_append.mp hfirst with ⟨hinvalid, front, back, hbatch, hvalid⟩
  have hfront : ∀ t ∈ front, ValidSchedule settings t := by
    intro t ht
    have hnot := hvalid t ht
    rw [Bool.not_eq_true', decide_eq_false_iff_not, not_not] at hnot
    exact hnot
  have hsub : List.Sublist front s.db.transfers := by
    refine List.Sublist.trans ?_ (List.filter_sublist (p := updatedAfter s.lastUpdatedAt))
    change List.Sublist front s.batch
    rw [hbatch]
    exact List.sublist_append_left _ _
  rcases updateJobs_raises (s := { s with jobs := jobs₁ }) back hd₁
    (Table.distinct_sublist _ hdistinct hsub) hfront (of_decide_eq_true hinvalid)
    with ⟨jobs', hraises, hupdated⟩
  refine ⟨{ s with jobs := jobs' }, raises_bind.mpr (Or.inr ⟨(), _, horphans, ?_⟩), rfl, rfl,
    hupdated.distinct⟩
  refine raises_bind.mpr (Or.inr ⟨s.batch, _, returns_query.mpr ⟨rfl, rfl⟩, ?_⟩)
  have hnonempty : ¬ (front ++ first :: back).isEmpty = true := by
    simp only [List.isEmpty_iff, List.append_eq_nil_iff, reduceCtorEq, and_false, not_false_eq_true]
  rw [hbatch, if_neg hnonempty]
  exact raises_bind.mpr (Or.inl hraises)

/-! ## Exactly when it goes well -/

/-- For every batch and every job store. -/
theorem iterates_iff (hd : DistinctJobs s.jobs)
    (hdistinct : Table.Distinct (fun t : Transfer => t.id) s.db.transfers) :
    (∃ s', Iterates settings s s') ↔ ∀ t ∈ s.batch, ValidSchedule settings t := by
  constructor
  · intro h
    rcases h with ⟨s', hs'⟩
    exact validSchedule_of_poll hd hs'.completes
  · intro hvalid
    rcases poll_updates hd hdistinct hvalid with ⟨jobs₁, jobs', hpoll, _, hupdated⟩
    refine ⟨_, hpoll, fun t ht _ => hupdated.agrees t ht, fun hne => ?_⟩
    unfold Watermark.advance
    rw [if_neg (fun h => hne (List.isEmpty_iff.mp h))]

end BadSchedules

/-! ## A schedule in plain words -/

/-- The sample transfer with the schedule "daily", and a scheduled transfer of
    the other group, that comes after it. -/
def badScheduleTicks : List Tick :=
  sampleEvents.map .commit ++ [
    .commit (.request 8 .returned 1 (.updateTransfer 1
      { sampleTransfer 1 1 1 with
        isScheduled := true
        schedule := some "daily"
        schedulingValid := rfl })),
    .commit (.request 9 .returned 1 (.createTransfer (scheduledTransfer 2 2 2)))]

/-- A batch of one transfer with a crontab. -/
theorem iterates_iff_crontab :
    ∃ s', Iterates sampleSettings (sampleRun (sampleEvents.map .commit ++ [scheduleSample])) s' :=
  (iterates_iff (by decide +kernel) (by decide +kernel)).mpr (by decide +kernel)

/-- The transfer with a crontab has no job after the turn of the loop. -/
theorem not_iterates_badSchedule :
    ¬ (∃ s', Iterates sampleSettings (sampleRun badScheduleTicks) s') ∧
      (∃ t ∈ (sampleRun badScheduleTicks).batch, t.id = 2 ∧ t.isScheduled = true ∧
        ValidSchedule sampleSettings t) ∧
      ∀ job ∈ (sampleRun (badScheduleTicks ++ [.poll])).jobs, job.id ≠ 2 := by
  refine ⟨fun h => ?_, by decide +kernel, by decide +kernel⟩
  rcases h with ⟨s', hs'⟩
  have hvalid := validSchedule_of_poll (by decide +kernel) hs'.completes
  exact absurd hvalid (by decide +kernel)

end SyncMaster
