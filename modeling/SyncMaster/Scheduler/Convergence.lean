import SyncMaster.Tenancy.SameGroup
import SyncMaster.Scheduler.Jobs

/-!
# Convergence of the Scheduler

After each turn of its loop the scheduler is to have one job for each scheduled
transfer, with the trigger of its schedule.

The mark splits the transfers. Those above it are fetched at the next turn,
whatever the job store says about them. Those that it covers are not, so the
store has to be right about them already, and `Tracks` is that invariant. A
commit keeps it when the rows it brings are above the mark, which rows stamped
with the time of the commit are. `copy_transfer` clones the stamp of the
original with the other columns: the copy of a scheduled transfer that the
scheduler has seen is born covered, and gets no job.

## Main definitions

* `Deployment.step`: Commits, turns of the loop and restarts.
* `CopyOf`: A row that a copy brings.
* `Tracks`: The job store is right about the transfers that the mark covers.
* `Converged`: It is right about all of them, and has no other job.
* `CopiesUnseen`: No copy is made of a scheduled transfer that the mark covers.

## Theorems

* `step_stamped`: Where the transfers after an event come from.
* `commit_tracks`, `step_tracks`: The steps keep the invariant.
* `converged_of_polled`: A turn of the loop makes up for what is above the mark.
* `converged_of_copiesUnseen`: In a run whose copies are unseen, every turn of
  the loop ends converged.
-/

namespace SyncMaster

open Program

/-! ## The system -/

/-- The clock reading that an event stamps its rows with. -/
def Event.time : Event → Option Time
  | .request now _ _ _ | .sendJobToCelery now _ _ | .startTask now _ _ | .finishTask now _ _ =>
      some now
  | .login _ | .addSuperusers _ | .removeSuperusers _ => none

/-- What happens to a deployment. -/
inductive Tick where
  | commit (e : Event)
  | poll
  | restart

section System

variable {Trigger : Type}

/-- The clock reading of a commit. -/
def Tick.time : Tick → Option Time
  | .commit e => e.time
  | .poll | .restart => none

/-- The transfer that is copied. -/
def Tick.copied : Tick → Option Id
  | .commit (.request _ _ _ (.copyTransfer transferId _)) => some transferId
  | _ => none

/-- A restart forgets the mark and keeps the job store. -/
def Deployment.step (settings : SchedulerSettings Trigger) (s : Deployment Trigger) :
    Tick → Deployment Trigger
  | .commit e => { s with db := s.db.step e, clock := e.time.getD s.clock }
  | .poll => after (poll settings) s
  | .restart => { s with lastUpdatedAt := none }

/-- Nothing in the database, no jobs, and a scheduler that has seen nothing. -/
def Deployment.init (clock : Time) : Deployment Trigger where
  db := Database.empty
  clock := clock
  lastUpdatedAt := none
  jobs := []

/-- A commit comes later than the one before, and the schedules are crontabs. -/
structure Regular (settings : SchedulerSettings Trigger) (s : Deployment Trigger) (tick : Tick) :
    Prop where
  later : ∀ now ∈ tick.time, s.clock < now
  valid : ∀ t ∈ s.db.transfers, ValidSchedule settings t

/-- A copy is made of a transfer that is not scheduled, or that was updated after
    the mark. -/
def CopiesUnseen (s : Deployment Trigger) (tick : Tick) : Prop :=
  ∀ t ∈ s.db.transfers, tick.copied = some t.id →
    t.isScheduled = false ∨ ¬ Covers s.lastUpdatedAt t

/-- The jobs are the scheduled transfers, each once, with the trigger of the
    schedule. -/
structure Converged (settings : SchedulerSettings Trigger) (s : Deployment Trigger) : Prop where
  once : DistinctJobs s.jobs
  ids : ∀ id, (∃ job ∈ s.jobs, job.id = id) ↔
    ∃ t ∈ s.db.transfers, t.id = id ∧ t.isScheduled = true
  triggers : ∀ job ∈ s.jobs, ∀ t ∈ s.db.transfers, t.id = job.id →
    settings.fromCrontab t.schedule = some job.trigger

end System

/-! ## Stamps -/

/-- The row is new, and made from a transfer that was there. -/
def CopyOf (db : Database) (request : Request) (t : Transfer) : Prop :=
  db.sequences .transfer ≤ t.id ∧
    ∃ origin ∈ db.transfers, (∃ body, request = .copyTransfer origin.id body) ∧
      t.updatedAt = origin.updatedAt ∧ t.isScheduled = origin.isScheduled

/-- The transfers are old, or stamped with the time of the request, or copies. -/
structure Stamped (call : Call) (db : Database) : Prop where
  grows : Grows call.start db
  rows : ∀ t ∈ db.transfers,
    t ∈ call.start.transfers ∨ t.updatedAt = call.now ∨ CopyOf call.start call.request t

section Stamps

variable {db db' : Database}

theorem authorisedStep_stamped {call : Call} {w : Write} (h : Stamped call db)
    (hstep : authorisedStep call db w db') : Stamped call db' := by
  refine ⟨grows_trans _ _ _ h.grows (checkedStep_grows hstep.2), ?_⟩
  have hsub : (∀ t ∈ db'.transfers, t ∈ db.transfers) → ∀ t ∈ db'.transfers,
      t ∈ call.start.transfers ∨ t.updatedAt = call.now ∨ CopyOf call.start call.request t :=
    fun hs t ht => h.rows t (hs t ht)
  rcases hstep with ⟨ha, hc, rfl⟩
  cases w with
  -- These writes touch no transfer, and the deletions below only take some away.
  | advance | insertUser | setSuperuser | insertGroup | updateGroup | insertUserGroup
  | updateUserGroup | deleteUserGroup | insertConnection | updateConnection | insertAuthData
  | updateAuthData | insertQueue | updateQueue | insertRun | updateRun =>
      exact hsub (fun t ht => ht)
  | deleteGroup => exact hsub (fun t ht => (shrinks_deleteGroups _).transfers.subset ht)
  | deleteConnection => exact hsub (fun t ht => (shrinks_deleteConnections _).transfers.subset ht)
  | deleteQueue => exact hsub (fun t ht => (shrinks_deleteQueues _).transfers.subset ht)
  | deleteTransfer => exact hsub (fun t ht => (shrinks_deleteTransfers _).transfers.subset ht)
  | insertTransfer u =>
      intro t ht
      rcases List.mem_append.mp ht with ht | ht
      · exact h.rows t ht
      · rw [List.mem_singleton.mp ht]
        rcases ha.2.2 with hnow | ⟨origin, ho, body, hrequest, hstamp, hscheduled, _⟩
        · exact Or.inr (Or.inl hnow)
        · refine Or.inr (Or.inr ⟨?_, origin, ho, ⟨body, hrequest⟩, hstamp, hscheduled⟩)
          rw [hc.1]
          exact h.grows .transfer
  | updateTransfer u =>
      rcases ha with ⟨old, _, body, _, _, hu, _⟩
      intro t ht
      rcases Table.mem_update.mp ht with ⟨r, hr, rfl⟩
      -- `updated_at` is set by the update, whatever the body.
      by_cases hkey : (r.id == u.id) = true
      · rw [if_pos hkey, hu]
        exact Or.inr (Or.inl rfl)
      · rw [if_neg hkey]
        exact h.rows r hr

/-- The background writes leave the transfers alone. -/
theorem backgroundStep_transfers {w : Write} (hstep : backgroundStep db w db') :
    db'.transfers = db.transfers := by
  rcases hstep with ⟨hw, _, rfl⟩
  cases w with
  | advance | insertUser | setSuperuser | insertRun | updateRun => rfl
  | _ => exact hw.elim

/-- Where the transfers after an event come from. -/
structure Brings (db : Database) (e : Event) (db' : Database) : Prop where
  consistent : Consistent db'
  grows : Grows db db'
  rows : ∀ t ∈ db'.transfers, t ∈ db.transfers ∨
    ∃ now sent userId request, e = .request now sent userId request ∧
      (t.updatedAt = now ∨ CopyOf db request t)

theorem step_stamped (hdb : Consistent db) (e : Event) : Brings db e (db.step e) := by
  by_cases hrequest : ∃ now sent userId request, e = .request now sent userId request
  · rcases hrequest with ⟨now, sent, userId, request, rfl⟩
    rw [step_request]
    rcases api_acts now sent userId db request with hsame | ⟨user, _, _, ws, hrun⟩
    · rw [hsame]
      exact ⟨hdb, grows_refl db, fun t ht => Or.inl ht⟩
    · rcases Machine.run_invariant
        (I := fun s => Consistent s ∧ Stamped ⟨db, user, now, request⟩ s)
        (fun a w b ha hstep => ⟨checkedStep_consistent ha.1 hstep.2,
          authorisedStep_stamped ha.2 hstep⟩)
        hrun ⟨hdb, grows_refl db, fun t ht => Or.inl ht⟩ with ⟨hconsistent, hgrows, hrows⟩
      refine ⟨hconsistent, hgrows, fun t ht => (hrows t ht).imp_right (fun h => ?_)⟩
      exact ⟨now, sent, userId, request, rfl, h⟩
  · have hother : ∀ now sent userId request, e ≠ .request now sent userId request :=
      fun now sent userId request he => hrequest ⟨now, sent, userId, request, he⟩
    -- The other events do not write transfers at all.
    rcases step_background hother with ⟨ws, hrun⟩
    rcases Machine.run_invariant
      (I := fun s => Consistent s ∧ Grows db s ∧ s.transfers = db.transfers)
      (fun a w b ha hstep => ⟨checkedStep_consistent ha.1 hstep.2,
        grows_trans _ _ _ ha.2.1 (checkedStep_grows hstep.2),
        (backgroundStep_transfers hstep).trans ha.2.2⟩)
      hrun ⟨hdb, grows_refl db, rfl⟩ with ⟨hconsistent, hgrows, hsame⟩
    refine ⟨hconsistent, hgrows, fun t ht => Or.inl ?_⟩
    rw [hsame] at ht
    exact ht

end Stamps

/-! ## The invariant -/

section Invariant

variable {Trigger : Type} {settings : SchedulerSettings Trigger} {s s' : Deployment Trigger}

/-- The job store is right about the transfers that the mark covers. The other
    fields are what a new row is compared with: its stamp with the clock, its
    identifier with the jobs. -/
structure Tracks (settings : SchedulerSettings Trigger) (s : Deployment Trigger) : Prop where
  consistent : Consistent s.db
  stamps : ∀ t ∈ s.db.transfers, t.updatedAt ≤ s.clock
  mark : ∀ mark, s.lastUpdatedAt = some mark → mark ≤ s.clock
  distinct : DistinctJobs s.jobs
  jobsBelow : ∀ job ∈ s.jobs, job.id < s.db.sequences .transfer
  agrees : ∀ t ∈ s.db.transfers, Covers s.lastUpdatedAt t → Agrees settings s.jobs t

theorem tracks_init (clock : Time) : Tracks settings (Deployment.init clock) where
  consistent := consistent_empty
  stamps := fun _ ht => absurd ht List.not_mem_nil
  mark := fun _ h => nomatch h
  distinct := Table.distinct_nil _
  jobsBelow := fun _ hjob => absurd hjob List.not_mem_nil
  agrees := fun _ ht => absurd ht List.not_mem_nil

theorem commit_tracks {e : Event} (h : Tracks settings s) (hunseen : CopiesUnseen s (.commit e))
    (hlater : ∀ now ∈ e.time, s.clock < now) : Tracks settings (s.step settings (.commit e)) := by
  have hbrings := step_stamped h.consistent e
  -- A request is stamped after everything that was stamped before it.
  have hclock : s.clock ≤ e.time.getD s.clock := by
    rcases htime : e.time with _ | now
    · exact Int.le_refl _
    · exact Int.le_of_lt (hlater now htime)
  constructor
  · exact hbrings.consistent
  · intro t ht
    rcases hbrings.rows t ht with hold | ⟨now, sent, userId, request, rfl, hnow | hcopy⟩
    · exact Int.le_trans (h.stamps t hold) hclock
    · rw [hnow]
      exact Int.le_refl now
    -- A copy keeps the stamp of its origin, which is stored already.
    · rcases hcopy with ⟨_, origin, ho, _, hstamp, _⟩
      rw [hstamp]
      exact Int.le_trans (h.stamps origin ho) hclock
  · intro mark hmark
    exact Int.le_trans (h.mark mark hmark) hclock
  -- The store is the scheduler's own: a commit leaves it alone.
  · exact h.distinct
  · intro job hjob
    exact Int.lt_of_lt_of_le (h.jobsBelow job hjob) (hbrings.grows .transfer)
  · intro t ht hcovers
    rcases hbrings.rows t ht with hold | ⟨now, sent, userId, request, rfl, hnow | hcopy⟩
    · exact h.agrees t hold hcovers
    · -- A row stamped now is above the mark.
      rcases hcovers with ⟨mark, hmark, hle⟩
      rw [hnow] at hle
      exact absurd (Int.lt_of_lt_of_le (hlater now rfl) (Int.le_trans hle (h.mark mark hmark)))
        (Int.lt_irrefl _)
    · -- A copy that the mark covers is not scheduled, and its identifier is new.
      rcases hcopy with ⟨hnew, origin, ho, ⟨body, rfl⟩, hstamp, hscheduled⟩
      have hoff : t.isScheduled = false := by
        rw [hscheduled]
        refine (hunseen origin ho rfl).resolve_right (not_not.mpr ?_)
        rcases hcovers with ⟨mark, hmark, hle⟩
        exact ⟨mark, hmark, hstamp ▸ hle⟩
      refine ⟨fun hon => absurd (hon.symm.trans hoff) (by decide), fun _ job hjob hid => ?_⟩
      have hlt := Int.lt_of_lt_of_le (h.jobsBelow job hjob) hnew
      rw [hid] at hlt
      exact Int.lt_irrefl _ hlt

/-- After a turn of the loop the store is right about every transfer. -/
theorem agrees_of_polled (h : Tracks settings s) (hpolled : Polled settings s s') :
    ∀ t ∈ s.db.transfers, Agrees settings s'.jobs t := by
  intro t ht
  by_cases hcovers : Covers s.lastUpdatedAt t
  · exact agrees_of_sameJobs (h.agrees t ht hcovers) (hpolled.others t ht hcovers)
  · exact hpolled.fetched t ht hcovers

theorem poll_polled (h : Tracks settings s)
    (hvalid : ∀ t ∈ s.db.transfers, ValidSchedule settings t) :
    Polled settings s (s.step settings .poll) := by
  rcases poll_returns h.distinct h.consistent.keys.transfers hvalid with ⟨s', hret, hpolled⟩
  rw [Deployment.step, after_of_returns hret]
  exact hpolled

theorem tracks_of_polled (h : Tracks settings s) (hpolled : Polled settings s s') :
    Tracks settings s' := by
  constructor
  · rw [hpolled.db]
    exact h.consistent
  · rw [hpolled.db, hpolled.clock]
    exact h.stamps
  · intro mark hmark
    rw [hpolled.clock]
    rcases hpolled.mark with hsame | ⟨t, ht, hstamp⟩
    · exact h.mark mark (hsame ▸ hmark)
    · rw [hstamp] at hmark
      cases hmark
      exact h.stamps t ht
  · exact hpolled.distinct
  · intro job hjob
    rcases hpolled.owned job hjob with ⟨t, ht, hid⟩
    rw [hpolled.db, ← hid]
    exact h.consistent.keys.transfersBelow t ht
  · rw [hpolled.db]
    exact fun t ht _ => agrees_of_polled h hpolled t ht

theorem step_tracks {tick : Tick} (h : Tracks settings s) (hregular : Regular settings s tick)
    (hunseen : CopiesUnseen s tick) : Tracks settings (s.step settings tick) := by
  cases tick with
  | commit e => exact commit_tracks h hunseen hregular.later
  | poll => exact tracks_of_polled h (poll_polled h hregular.valid)
  | restart =>
      exact
        { h with
          mark := fun _ hmark => nomatch hmark
          agrees := fun _ _ hcovers => hcovers.elim (fun _ hmark => nomatch hmark.1) }

theorem converged_of_polled (h : Tracks settings s) (hpolled : Polled settings s s') :
    Converged settings s' := by
  have hagrees := agrees_of_polled h hpolled
  have honce : Table.Distinct (fun t : Transfer => t.id) s.db.transfers :=
    h.consistent.keys.transfers
  constructor
  · exact hpolled.distinct
  · intro id
    rw [hpolled.db]
    constructor
    · rintro ⟨job, hjob, hid⟩
      -- No job is an orphan, and a transfer that is switched off has none.
      rcases hpolled.owned job hjob with ⟨t, ht, htid⟩
      refine ⟨t, ht, htid.trans hid, ?_⟩
      by_contra hoff
      exact (hagrees t ht).2 (Bool.eq_false_iff.mpr hoff) job hjob htid.symm
    · rintro ⟨t, ht, hid, hon⟩
      rcases (hagrees t ht).1 hon with ⟨job, hjob, hjobid, _⟩
      exact ⟨job, hjob, hjobid.trans hid⟩
  · intro job hjob t ht hid
    rw [hpolled.db] at ht
    have hon : t.isScheduled = true := by
      by_contra hoff
      exact (hagrees t ht).2 (Bool.eq_false_iff.mpr hoff) job hjob hid.symm
    rcases (hagrees t ht).1 hon with ⟨job', hjob', hjobid, htrigger⟩
    rw [← Table.eq_of_key_eq _ hpolled.distinct hjob' hjob (hjobid.trans hid)]
    exact htrigger

/-! ## Runs -/

/-- The runs that the scheduler is for. -/
abbrev RegularRun (settings : SchedulerSettings Trigger) :
    Deployment Trigger → List Tick → Deployment Trigger → Prop :=
  Machine.Run (Machine.restrict (Regular settings) (Machine.graph (Deployment.step settings)))

/-- Those whose copies are unseen. -/
abbrev UnseenRun (settings : SchedulerSettings Trigger) :
    Deployment Trigger → List Tick → Deployment Trigger → Prop :=
  Machine.Run (Machine.restrict (fun s tick => Regular settings s tick ∧ CopiesUnseen s tick)
    (Machine.graph (Deployment.step settings)))

/-- In every regular run in which no copy is made of a scheduled transfer that
    the mark covers, every turn of the loop ends converged. -/
theorem converged_of_copiesUnseen (clock : Time) (ticks : List Tick)
    (hrun : UnseenRun settings (Deployment.init clock) (ticks ++ [.poll]) s) :
    Converged settings s := by
  rcases Machine.run_snoc.mp hrun with ⟨before, hbefore, ⟨hregular, _⟩, rfl⟩
  have htracks : Tracks settings before := by
    refine Machine.run_invariant (I := Tracks settings) ?_ hbefore (tracks_init clock)
    rintro a tick b ha ⟨⟨hregular, hunseen⟩, rfl⟩
    exact step_tracks ha hregular hunseen
  exact converged_of_polled htracks (poll_polled htracks hregular.valid)

end Invariant

/-! ## A copy that gets no job -/

section Sample

variable {Trigger : Type}

instance (lastUpdatedAt : Option Time) (t : Transfer) : Decidable (Covers lastUpdatedAt t) :=
  decidable_of_iff _ (not_iff_comm.mp not_covers_iff)

instance (settings : SchedulerSettings Trigger) (t : Transfer) :
    Decidable (ValidSchedule settings t) :=
  inferInstanceAs (Decidable (_ → _))

instance (settings : SchedulerSettings Trigger) (s : Deployment Trigger) (tick : Tick) :
    Decidable (Regular settings s tick) :=
  decidable_of_iff
    ((∀ now ∈ tick.time, s.clock < now) ∧ ∀ t ∈ s.db.transfers, ValidSchedule settings t)
    ⟨fun h => ⟨h.1, h.2⟩, fun h => ⟨h.later, h.valid⟩⟩

instance (s : Deployment Trigger) (tick : Tick) : Decidable (CopiesUnseen s tick) :=
  inferInstanceAs (Decidable (∀ t ∈ s.db.transfers, _ → _))

/-- The fields of the one crontab of the sample. -/
def sampleSettings : SchedulerSettings (List String) where
  misfireGraceTimeSeconds := 300
  fromCrontab schedule :=
    if schedule = "0 0 * * *" then some ["0", "0", "*", "*", "*"] else none

/-- A transfer of the sample, scheduled. -/
def scheduledTransfer (groupId connectionId queueId : Id) : CreateTransferSchema :=
  { sampleTransfer groupId connectionId queueId with
    isScheduled := true
    schedule := some "0 0 * * *"
    schedulingValid := rfl }

def scheduleSample : Tick :=
  .commit (.request 8 .returned 1 (.updateTransfer 1 (scheduledTransfer 1 1 1)))

/-- And copied to the second group. -/
def copySample : Tick :=
  .commit (.request 9 .returned 1 (.copyTransfer 1
    { newGroupId := 2
      newQueueId := 2
      newSourceConnectionName := some ⟨"copied", by decide⟩ }))

/-- The deployment after some ticks, from the clock reading 0 on. -/
def sampleRun (ticks : List Tick) : Deployment (List String) :=
  ticks.foldl (Deployment.step sampleSettings) (Deployment.init 0)

/-- The copy is made before the scheduler has seen the transfer. -/
def unseenCopyTicks : List Tick :=
  sampleEvents.map .commit ++ [scheduleSample, copySample]

theorem converged_unseenCopyTicks :
    Converged sampleSettings (sampleRun (unseenCopyTicks ++ [.poll])) :=
  converged_of_copiesUnseen 0 unseenCopyTicks
    (Machine.run_restrict_graph.mpr ⟨by decide +kernel, rfl⟩)

/-- The copy is made after the scheduler has seen the transfer. -/
def seenCopyTicks : List Tick :=
  sampleEvents.map .commit ++ [scheduleSample, .poll, copySample]

/-- The copy of a transfer that the scheduler has seen gets no job. -/
theorem not_converged_seenCopyTicks :
    ¬ ∀ (settings : SchedulerSettings (List String)) clock ticks s,
      RegularRun settings (Deployment.init clock) (ticks ++ [.poll]) s → Converged settings s := by
  intro h
  have hconverged : Converged sampleSettings (sampleRun (seenCopyTicks ++ [.poll])) :=
    h sampleSettings 0 seenCopyTicks _
      (Machine.run_restrict_graph.mpr ⟨by decide +kernel, rfl⟩)
  have hcopy : (sampleRun (seenCopyTicks ++ [.poll])).db.transfers.any
      (fun t => t.id == 2 && t.isScheduled) = true := by decide +kernel
  have hjobs : (sampleRun (seenCopyTicks ++ [.poll])).jobs.any (fun job => job.id == 2) = false := by
    decide +kernel
  rcases List.any_eq_true.mp hcopy with ⟨t, ht, hscheduled⟩
  rcases Bool.and_eq_true_iff.mp hscheduled with ⟨hid, hscheduled⟩
  rcases (hconverged.ids 2).mpr ⟨t, ht, beq_iff_eq.mp hid, hscheduled⟩ with ⟨job, hjob, hjobid⟩
  exact List.any_eq_false.mp hjobs job hjob (beq_iff_eq.mpr hjobid)

end Sample

end SyncMaster
