import SyncMaster.Db.Models
import SyncMaster.Library.Program
import SyncMaster.Library.Watermark
import Mathlib.Data.List.Dedup

/-!
# The Scheduler and its Job Store

The scheduler keeps one job for every scheduled transfer. It does not read all
transfers at each turn of its loop: it drops the jobs whose transfer is gone,
fetches the transfers that were updated after the last one it has seen, brings
their jobs up to date, and moves its mark to the latest of them.

The job store belongs to a library, and so does the crontab parser. The store
is the list of its jobs with the four operations that the manager calls, each
with the error it raises; the parser is a parameter.

The specification of each part is about the jobs with a given identifier.
`Agrees` is what the job store should say about a transfer, and a part that
does not touch an identifier leaves the jobs with that identifier as they are.

## Main definitions

* `Job`, `Deployment`: The job store, next to the database and the mark.
* `getJob`, `removeJob`, `modifyJob`, `addJob`: The operations of the store.
* `updateJobs`, `removeOrphanJobs`, `fetchUpdatedJobs`: The parts of the loop.
* `poll`: One turn of the loop.
* `Agrees`: The job store is right about a transfer.

## Theorems

* `updateJob_returns`, `updateJobs_returns`: The transfers updated are agreed
  with, the other jobs stay.
* `removeOrphanJobs_returns`: The jobs without a transfer go, the others stay.
* `poll_returns`: One turn of the loop.
-/

namespace SyncMaster

open Program

/-- A job of the store. The function it calls is always the same. -/
structure Job (Trigger : Type) where
  id : Id
  trigger : Trigger
  misfireGraceTime : Nat
  args : Id
  deriving DecidableEq, Repr

/-- The settings of the scheduler that the manager reads, and
    `CronTrigger.from_crontab`, which rejects some strings. -/
structure SchedulerSettings (Trigger : Type) where
  misfireGraceTimeSeconds : Nat
  fromCrontab : String → Option Trigger

inductive SchedulerError where
  /-- `from_crontab` rejects the schedule. -/
  | valueError
  | jobLookupError (jobId : Id)
  | conflictingIdError (jobId : Id)
  deriving DecidableEq, Repr

/-- The database, the clock reading of its last commit, and the scheduler: the
    mark up to which it has seen the transfers, and the job store. -/
structure Deployment (Trigger : Type) where
  db : Database
  clock : Time
  lastUpdatedAt : Option Time
  jobs : List (Job Trigger)

abbrev Scheduling (Trigger : Type) : Type → Type :=
  Program (Deployment Trigger) SchedulerError

section Definitions

variable {Trigger : Type}

/-! ## The job store -/

/-- `get_job` -/
def getJob (jobId : Id) : Scheduling Trigger (Option (Job Trigger)) :=
  query (fun s => .ok (s.jobs.find? (fun job => job.id == jobId)))

/-- `get_jobs` -/
def getJobs : Scheduling Trigger (List (Job Trigger)) :=
  query (fun s => .ok s.jobs)

/-- `remove_job` -/
def removeJob (jobId : Id) : Scheduling Trigger Unit := do
  let existingJob ← getJob jobId
  raiseIf (existingJob.isNone = true) (.jobLookupError jobId)
  execute (fun s => { s with jobs := Table.delete (fun job => job.id == jobId) s.jobs })

/-- `modify_job`: the job found, with the given trigger, grace time and
    arguments. -/
def modifyJob (jobId : Id) (trigger : Trigger) (misfireGraceTime : Nat) (args : Id) :
    Scheduling Trigger Unit := do
  let existingJob ← getJob jobId
  raiseIf (existingJob.isNone = true) (.jobLookupError jobId)
  execute (fun s =>
    { s with
      jobs := Table.update (fun job => job.id == jobId)
        (fun job =>
          { job with
            trigger := trigger
            misfireGraceTime := misfireGraceTime
            args := args })
        s.jobs })

/-- `add_job` -/
def addJob (job : Job Trigger) : Scheduling Trigger Unit := do
  let existingJob ← getJob job.id
  raiseIf (existingJob.isSome = true) (.conflictingIdError job.id)
  execute (fun s => { s with jobs := s.jobs ++ [job] })

/-! ## The job manager -/

variable (settings : SchedulerSettings Trigger)

def parseCrontab (schedule : String) : Scheduling Trigger Trigger :=
  query (fun _ =>
    match settings.fromCrontab schedule with
    | some trigger => .ok trigger
    | none => .error .valueError)

/-- The body of the loop of `update_jobs`. -/
def updateJob (transfer : Transfer) : Scheduling Trigger Unit := do
  let existingJob ← getJob transfer.id
  if transfer.isScheduled = false then
    if existingJob.isSome then removeJob transfer.id else return ()
  else do
    let trigger ← parseCrontab settings transfer.schedule
    if existingJob.isSome then
      modifyJob transfer.id trigger settings.misfireGraceTimeSeconds transfer.id
    else
      addJob
        { id := transfer.id
          trigger := trigger
          misfireGraceTime := settings.misfireGraceTimeSeconds
          args := transfer.id }

def updateJobs : List Transfer → Scheduling Trigger Unit
  | [] => return ()
  | transfer :: transfers => do
      updateJob settings transfer
      updateJobs transfers

def removeJobs : List Id → Scheduling Trigger Unit
  | [] => return ()
  | jobId :: jobIds => do
      removeJob jobId
      removeJobs jobIds

/-- The rows that `Transfer.id == any_(job_transfer_ids)` selects. -/
def existingTransfers (db : Database) (jobTransferIds : List Id) : List Transfer :=
  db.transfers.filter (fun t => jobTransferIds.contains t.id)

def removeOrphanJobs : Scheduling Trigger Unit := do
  let allJobs ← getJobs
  let jobTransferIds := allJobs.map (fun job => job.id)
  let transfers ← query (fun s => .ok (existingTransfers s.db jobTransferIds))
  let existingTransferIds := transfers.map (fun t => t.id)
  removeJobs (jobTransferIds.dedup.filter (fun jobId => !existingTransferIds.contains jobId))

/-! ## The loop -/

/-- The query of `fetch_updated_jobs`. -/
def updatedAfter (lastUpdatedAt : Option Time) (t : Transfer) : Bool :=
  match lastUpdatedAt with
  | none => true
  | some mark => decide (mark < t.updatedAt)

def fetchUpdatedJobs : Scheduling Trigger (List Transfer) :=
  query (fun s => .ok (s.db.transfers.filter (updatedAfter s.lastUpdatedAt)))

/-- One turn of the loop of `main`. -/
def poll : Scheduling Trigger Unit := do
  removeOrphanJobs
  let transfers ← fetchUpdatedJobs
  if transfers.isEmpty then return ()
  else do
    updateJobs settings transfers
    execute (fun s => { s with lastUpdatedAt := (transfers.map (fun t => t.updatedAt)).max? })

end Definitions

/-! ## What the store should say -/

section Specifications

variable {Trigger : Type} {settings : SchedulerSettings Trigger} {s : Deployment Trigger}

/-- No two jobs have the same identifier. -/
abbrev DistinctJobs (jobs : List (Job Trigger)) : Prop :=
  Table.Distinct (fun job : Job Trigger => job.id) jobs

/-- The job store is right about the transfer: there is a job with its trigger
    if it is scheduled, and none if it is not. -/
def Agrees (settings : SchedulerSettings Trigger) (jobs : List (Job Trigger)) (t : Transfer) :
    Prop :=
  (t.isScheduled = true → ∃ job ∈ jobs, job.id = t.id ∧
    settings.fromCrontab t.schedule = some job.trigger) ∧
  (t.isScheduled = false → ∀ job ∈ jobs, job.id ≠ t.id)

/-- The two stores have the same jobs with this identifier. -/
def SameJobs (jobId : Id) (jobs jobs' : List (Job Trigger)) : Prop :=
  ∀ job, job.id = jobId → (job ∈ jobs' ↔ job ∈ jobs)

theorem sameJobs_refl (jobId : Id) (jobs : List (Job Trigger)) : SameJobs jobId jobs jobs :=
  fun _ _ => Iff.rfl

theorem sameJobs_trans {jobId : Id} {jobs₁ jobs₂ jobs₃ : List (Job Trigger)}
    (h₁ : SameJobs jobId jobs₁ jobs₂) (h₂ : SameJobs jobId jobs₂ jobs₃) :
    SameJobs jobId jobs₁ jobs₃ :=
  fun job hid => (h₂ job hid).trans (h₁ job hid)

/-- Being right about a transfer depends on the jobs with its identifier only. -/
theorem agrees_of_sameJobs {jobs jobs' : List (Job Trigger)} {t : Transfer}
    (h : Agrees settings jobs t) (hsame : SameJobs t.id jobs jobs') : Agrees settings jobs' t := by
  constructor
  · intro hscheduled
    rcases h.1 hscheduled with ⟨job, hjob, hid, htrigger⟩
    exact ⟨job, (hsame job hid).mpr hjob, hid, htrigger⟩
  · intro hscheduled job hjob hid
    exact h.2 hscheduled job ((hsame job hid).mp hjob) hid

/-! ## Single jobs -/

theorem find_isSome_iff {jobs : List (Job Trigger)} {jobId : Id} :
    (jobs.find? (fun job => job.id == jobId)).isSome = true ↔ ∃ job ∈ jobs, job.id = jobId := by
  rw [List.find?_isSome]
  simp only [beq_iff_eq]

theorem getJob_returns (jobId : Id) :
    Returns (getJob jobId) s (s.jobs.find? (fun job => job.id == jobId)) s :=
  returns_query.mpr ⟨rfl, rfl⟩

theorem removeJob_returns {jobId : Id} (h : ∃ job ∈ s.jobs, job.id = jobId) :
    Returns (removeJob jobId) s ()
      { s with jobs := Table.delete (fun job => job.id == jobId) s.jobs } := by
  refine returns_bind.mpr ⟨_, _, getJob_returns jobId, ?_⟩
  refine returns_bind.mpr ⟨(), _, returns_raiseIf.mpr ⟨?_, rfl⟩, returns_execute.mpr rfl⟩
  rw [Option.isNone_iff_eq_none, ← ne_eq, Option.ne_none_iff_isSome]
  exact find_isSome_iff.mpr h

theorem modifyJob_returns {jobId args : Id} {trigger : Trigger} {graceTime : Nat}
    (h : ∃ job ∈ s.jobs, job.id = jobId) :
    Returns (modifyJob jobId trigger graceTime args) s ()
      { s with
        jobs := Table.update (fun job => job.id == jobId)
          (fun job => ⟨job.id, trigger, graceTime, args⟩) s.jobs } := by
  refine returns_bind.mpr ⟨_, _, getJob_returns jobId, ?_⟩
  refine returns_bind.mpr ⟨(), _, returns_raiseIf.mpr ⟨?_, rfl⟩, returns_execute.mpr rfl⟩
  rw [Option.isNone_iff_eq_none, ← ne_eq, Option.ne_none_iff_isSome]
  exact find_isSome_iff.mpr h

theorem addJob_returns {job : Job Trigger} (h : ¬ ∃ j ∈ s.jobs, j.id = job.id) :
    Returns (addJob job) s () { s with jobs := s.jobs ++ [job] } := by
  refine returns_bind.mpr ⟨_, _, getJob_returns job.id, ?_⟩
  refine returns_bind.mpr ⟨(), _, returns_raiseIf.mpr ⟨?_, rfl⟩, returns_execute.mpr rfl⟩
  rw [find_isSome_iff]
  exact h

/-- What an update has done to the store. -/
structure Updated (settings : SchedulerSettings Trigger) (transfers : List Transfer)
    (jobs jobs' : List (Job Trigger)) : Prop where
  distinct : DistinctJobs jobs'
  agrees : ∀ t ∈ transfers, Agrees settings jobs' t
  others : ∀ jobId, (∀ t ∈ transfers, t.id ≠ jobId) → SameJobs jobId jobs jobs'

/-- The schedule of a scheduled transfer is a crontab. -/
def ValidSchedule (settings : SchedulerSettings Trigger) (t : Transfer) : Prop :=
  t.isScheduled = true → (settings.fromCrontab t.schedule).isSome = true

theorem updateJob_removes {t : Transfer} (hd : DistinctJobs s.jobs)
    (hscheduled : t.isScheduled = false) :
    Updated settings [t] s.jobs (Table.delete (fun job => job.id == t.id) s.jobs) where
  distinct := Table.distinct_sublist _ hd (Table.delete_sublist _ _)
  agrees := by
    intro u hu
    rw [List.mem_singleton.mp hu]
    refine ⟨fun h => absurd (h.symm.trans hscheduled) (by decide), fun _ job hjob hid => ?_⟩
    exact Bool.false_ne_true ((Table.mem_delete.mp hjob).2.symm.trans (beq_iff_eq.mpr hid))
  others := by
    intro jobId hother job hid
    rw [Table.mem_delete]
    refine ⟨And.left, fun hjob => ⟨hjob, beq_eq_false_iff_ne.mpr ?_⟩⟩
    rw [hid]
    exact (hother t (List.mem_singleton_self t)).symm

theorem updateJob_modifies {t : Transfer} {trigger : Trigger} (graceTime : Nat)
    (hd : DistinctJobs s.jobs) (hscheduled : t.isScheduled = true)
    (htrigger : settings.fromCrontab t.schedule = some trigger)
    (hexists : ∃ job ∈ s.jobs, job.id = t.id) :
    Updated settings [t] s.jobs (Table.update (fun job => job.id == t.id)
      (fun job => ⟨job.id, trigger, graceTime, t.id⟩) s.jobs) where
  distinct := Table.distinct_update _ hd (fun _ _ _ => rfl)
  agrees := by
    intro u hu
    rw [List.mem_singleton.mp hu]
    refine ⟨fun _ => ?_, fun h => absurd (hscheduled.symm.trans h) (by decide)⟩
    rcases hexists with ⟨job, hjob, hid⟩
    exact ⟨_, Table.mem_update_self hjob (beq_iff_eq.mpr hid), hid, htrigger⟩
  others := by
    intro jobId hother job hid
    have hne : ∀ j : Job Trigger, j.id = jobId → ¬ (j.id == t.id) = true := fun j hj heq =>
      hother t (List.mem_singleton_self t) ((beq_iff_eq.mp heq).symm.trans hj)
    rw [Table.mem_update]
    constructor
    · rintro ⟨j, hj, rfl⟩
      by_cases hkey : (j.id == t.id) = true
      · rw [if_pos hkey] at hid
        exact absurd hkey (hne j hid)
      · rw [if_neg hkey]
        exact hj
    · intro hjob
      exact ⟨job, hjob, if_neg (hne job hid)⟩

theorem updateJob_adds {t : Transfer} (job : Job Trigger) (hd : DistinctJobs s.jobs)
    (hscheduled : t.isScheduled = true) (hid : job.id = t.id)
    (htrigger : settings.fromCrontab t.schedule = some job.trigger)
    (hnone : ¬ ∃ j ∈ s.jobs, j.id = job.id) :
    Updated settings [t] s.jobs (s.jobs ++ [job]) where
  distinct := Table.distinct_insert _ hd (fun j hj heq => hnone ⟨j, hj, heq⟩)
  agrees := by
    intro u hu
    rw [List.mem_singleton.mp hu]
    refine ⟨fun _ => ?_, fun h => absurd (hscheduled.symm.trans h) (by decide)⟩
    exact ⟨job, List.mem_append_right _ (List.mem_singleton_self job), hid, htrigger⟩
  others := by
    intro jobId hother j hj
    rw [List.mem_append, List.mem_singleton]
    refine ⟨fun h => h.resolve_right ?_, Or.inl⟩
    rintro rfl
    exact hother t (List.mem_singleton_self t) (hid.symm.trans hj)

/-- The update of a transfer with a valid schedule does not raise. -/
theorem updateJob_returns {t : Transfer} (hd : DistinctJobs s.jobs)
    (hvalid : ValidSchedule settings t) :
    ∃ jobs', Returns (updateJob settings t) s () { s with jobs := jobs' } ∧
      Updated settings [t] s.jobs jobs' := by
  by_cases hexists : ∃ job ∈ s.jobs, job.id = t.id
  · have hfound := find_isSome_iff.mpr hexists
    -- The four branches of `update_jobs`: remove, modify, skip, add.
    by_cases hscheduled : t.isScheduled = false
    · refine ⟨_, returns_bind.mpr ⟨_, _, getJob_returns t.id, ?_⟩, updateJob_removes hd hscheduled⟩
      rw [if_pos hscheduled, if_pos hfound]
      exact removeJob_returns hexists
    · have hon := Bool.not_eq_false _ ▸ hscheduled
      rcases Option.isSome_iff_exists.mp (hvalid hon) with ⟨trigger, htrigger⟩
      refine ⟨_, returns_bind.mpr ⟨_, _, getJob_returns t.id, ?_⟩,
        updateJob_modifies settings.misfireGraceTimeSeconds hd hon htrigger hexists⟩
      rw [if_neg hscheduled]
      refine returns_bind.mpr ⟨trigger, s, returns_query.mpr ⟨?_, rfl⟩, ?_⟩
      · rw [htrigger]
      · rw [if_pos hfound]
        exact modifyJob_returns hexists
  · have hfound : ¬ _ = true := fun h => hexists (find_isSome_iff.mp h)
    -- There is no job and none is wanted.
    by_cases hscheduled : t.isScheduled = false
    · refine ⟨s.jobs, returns_bind.mpr ⟨_, _, getJob_returns t.id, ?_⟩, hd, ?_, fun _ _ => sameJobs_refl _ _⟩
      · rw [if_pos hscheduled, if_neg hfound]
        exact returns_pure.mpr ⟨rfl, rfl⟩
      · intro u hu
        rw [List.mem_singleton.mp hu]
        exact ⟨fun h => absurd (h.symm.trans hscheduled) (by decide),
          fun _ job hjob hid => hexists ⟨job, hjob, hid⟩⟩
    · have hon := Bool.not_eq_false _ ▸ hscheduled
      rcases Option.isSome_iff_exists.mp (hvalid hon) with ⟨trigger, htrigger⟩
      refine ⟨_, returns_bind.mpr ⟨_, _, getJob_returns t.id, ?_⟩,
        updateJob_adds ⟨t.id, trigger, settings.misfireGraceTimeSeconds, t.id⟩ hd hon rfl
          htrigger hexists⟩
      rw [if_neg hscheduled]
      refine returns_bind.mpr ⟨trigger, s, returns_query.mpr ⟨?_, rfl⟩, ?_⟩
      · rw [htrigger]
      · rw [if_neg hfound]
        exact addJob_returns hexists

/-! ## The loop -/

theorem updateJobs_returns {transfers : List Transfer} {s : Deployment Trigger}
    (hd : DistinctJobs s.jobs)
    (hdistinct : Table.Distinct (fun t : Transfer => t.id) transfers)
    (hvalid : ∀ t ∈ transfers, ValidSchedule settings t) :
    ∃ jobs', Returns (updateJobs settings transfers) s () { s with jobs := jobs' } ∧
      Updated settings transfers s.jobs jobs' := by
  induction transfers generalizing s with
  | nil =>
      exact ⟨s.jobs, returns_pure.mpr ⟨rfl, rfl⟩, hd, fun t ht => absurd ht List.not_mem_nil,
        fun _ _ => sameJobs_refl _ _⟩
  | cons t transfers ih =>
      rcases List.nodup_cons.mp hdistinct with ⟨hnew, hrest⟩
      rcases updateJob_returns hd (hvalid t List.mem_cons_self) with ⟨jobs₁, hfirst, hupdated₁⟩
      rcases ih (s := { s with jobs := jobs₁ }) hupdated₁.distinct hrest
        (fun u hu => hvalid u (List.mem_cons_of_mem _ hu)) with ⟨jobs', hnext, hupdated⟩
      refine ⟨jobs', returns_bind.mpr ⟨(), _, hfirst, hnext⟩, hupdated.distinct, ?_, ?_⟩
      · intro u hu
        rcases List.mem_cons.mp hu with rfl | hu
        · -- The rest of the list does not touch the job of its first transfer.
          refine agrees_of_sameJobs (hupdated₁.agrees u (List.mem_singleton_self u))
            (hupdated.others u.id (fun v hv heq => ?_))
          exact hnew (List.mem_map.mpr ⟨v, hv, heq⟩)
        · exact hupdated.agrees u hu
      · intro jobId hother
        refine sameJobs_trans (hupdated₁.others jobId (fun u hu => ?_))
          (hupdated.others jobId (fun u hu => hother u (List.mem_cons_of_mem _ hu)))
        rw [List.mem_singleton.mp hu]
        exact hother t List.mem_cons_self

theorem removeJobs_returns {jobIds : List Id} {s : Deployment Trigger} (hnodup : jobIds.Nodup)
    (hexists : ∀ jobId ∈ jobIds, ∃ job ∈ s.jobs, job.id = jobId) :
    Returns (removeJobs jobIds) s ()
      { s with jobs := Table.delete (fun job => jobIds.contains job.id) s.jobs } := by
  induction jobIds generalizing s with
  | nil =>
      have hnone : Table.delete (fun job : Job Trigger => ([] : List Id).contains job.id) s.jobs =
          s.jobs := Table.delete_eq_self (fun _ _ => rfl)
      rw [hnone]
      exact returns_pure.mpr ⟨rfl, rfl⟩
  | cons jobId jobIds ih =>
      rcases List.nodup_cons.mp hnodup with ⟨hnew, hrest⟩
      refine returns_bind.mpr ⟨(), _, removeJob_returns (hexists jobId List.mem_cons_self), ?_⟩
      -- The jobs that are still to be removed have other identifiers.
      have hstill : ∀ id ∈ jobIds,
          ∃ job ∈ Table.delete (fun job => job.id == jobId) s.jobs, job.id = id := by
        intro id hid
        rcases hexists id (List.mem_cons_of_mem _ hid) with ⟨job, hjob, heq⟩
        refine ⟨job, Table.mem_delete.mpr ⟨hjob, beq_eq_false_iff_ne.mpr ?_⟩, heq⟩
        rintro rfl
        exact hnew (heq ▸ hid)
      have hnext := ih (s := { s with jobs := Table.delete (fun job => job.id == jobId) s.jobs })
        hrest hstill
      have hdelete : Table.delete (fun job : Job Trigger => jobIds.contains job.id)
          (Table.delete (fun job => job.id == jobId) s.jobs) =
          Table.delete (fun job => (jobId :: jobIds).contains job.id) s.jobs := by
        simp only [Table.delete, List.filter_filter, List.contains_cons, Bool.not_or, Bool.and_comm]
      rw [hdelete] at hnext
      exact hnext

/-- The jobs whose transfer is gone are dropped. -/
theorem removeOrphanJobs_returns (hd : DistinctJobs s.jobs) :
    ∃ jobs', Returns removeOrphanJobs s () { s with jobs := jobs' } ∧ DistinctJobs jobs' ∧
      ∀ job, job ∈ jobs' ↔ job ∈ s.jobs ∧ ∃ t ∈ s.db.transfers, t.id = job.id := by
  have hids : (s.jobs.map (fun job => job.id)).dedup = s.jobs.map (fun job => job.id) :=
    List.Nodup.dedup hd
  refine ⟨_, returns_bind.mpr ⟨_, _, returns_query.mpr ⟨rfl, rfl⟩, returns_bind.mpr ⟨_, _,
    returns_query.mpr ⟨rfl, rfl⟩, removeJobs_returns ?_ ?_⟩⟩, ?_, ?_⟩
  · exact (List.nodup_dedup _).filter _
  · intro jobId hjobId
    rw [hids] at hjobId
    exact List.mem_map.mp (List.mem_filter.mp hjobId).1
  · exact Table.distinct_sublist _ hd (Table.delete_sublist _ _)
  · intro job
    rw [Table.mem_delete, hids]
    refine and_congr_right (fun hjob => ?_)
    have hmem : job.id ∈ s.jobs.map (fun j => j.id) := List.mem_map_of_mem hjob
    simp only [existingTransfers, List.contains_eq_mem, List.mem_filter, hmem, true_and,
      decide_eq_false_iff_not, Bool.not_eq_true', decide_eq_true_eq, List.mem_map, not_not]
    constructor
    · rintro ⟨t, ⟨ht, _⟩, hid⟩
      exact ⟨t, ht, hid⟩
    · rintro ⟨t, ht, hid⟩
      exact ⟨t, ⟨ht, job, hjob, hid.symm⟩, hid⟩

/-- The mark covers a transfer. -/
def Covers (lastUpdatedAt : Option Time) (t : Transfer) : Prop :=
  ∃ mark, lastUpdatedAt = some mark ∧ t.updatedAt ≤ mark

theorem not_covers_iff {lastUpdatedAt : Option Time} {t : Transfer} :
    ¬ Covers lastUpdatedAt t ↔ Watermark.Above (fun t => t.updatedAt) lastUpdatedAt t := by
  constructor
  · intro h mark hmark
    exact Int.not_le.mp (fun hle => h ⟨mark, hmark, hle⟩)
  · rintro h ⟨mark, hmark, hle⟩
    exact Int.not_le.mpr (h mark hmark) hle

/-- The query of the fetcher is the one of a poller with a watermark. -/
theorem filter_updatedAfter (lastUpdatedAt : Option Time) (transfers : List Transfer) :
    transfers.filter (updatedAfter lastUpdatedAt) =
      Watermark.fetch (fun t => t.updatedAt) lastUpdatedAt transfers := by
  refine List.filter_congr (fun t _ => ?_)
  cases lastUpdatedAt with
  | none => exact (decide_eq_true (fun _ h => nomatch h)).symm
  | some mark => exact decide_eq_decide.mpr ⟨fun h _ hm => (Option.some.inj hm) ▸ h, fun h => h mark rfl⟩

/-- What one turn of the loop has done. -/
structure Polled (settings : SchedulerSettings Trigger) (s s' : Deployment Trigger) : Prop where
  db : s'.db = s.db
  clock : s'.clock = s.clock
  mark : s'.lastUpdatedAt = s.lastUpdatedAt ∨
    ∃ t ∈ s.db.transfers, s'.lastUpdatedAt = some t.updatedAt
  covers : ∀ t ∈ s.db.transfers, Covers s'.lastUpdatedAt t
  distinct : DistinctJobs s'.jobs
  fetched : ∀ t ∈ s.db.transfers, ¬ Covers s.lastUpdatedAt t → Agrees settings s'.jobs t
  others : ∀ t ∈ s.db.transfers, Covers s.lastUpdatedAt t → SameJobs t.id s.jobs s'.jobs
  owned : ∀ job ∈ s'.jobs, ∃ t ∈ s.db.transfers, t.id = job.id

/-- The rows above the mark brought up to date, and the mark moved to the largest
    of their stamps. -/
theorem polled_of_updated {fetched : List Transfer} {jobs₁ jobs' : List (Job Trigger)}
    (hdistinct : Table.Distinct (fun t : Transfer => t.id) s.db.transfers)
    (hfetched : Watermark.fetch (fun t => t.updatedAt) s.lastUpdatedAt s.db.transfers = fetched)
    (hjobs₁ : ∀ job, job ∈ jobs₁ ↔ job ∈ s.jobs ∧ ∃ t ∈ s.db.transfers, t.id = job.id)
    (hupdated : Updated settings fetched jobs₁ jobs') :
    Polled settings s
      { s with
        jobs := jobs'
        lastUpdatedAt := Watermark.advance (fun t => t.updatedAt) s.lastUpdatedAt fetched } := by
  -- The loop looks at a transfer just when the mark does not cover it.
  have hmem : ∀ t, t ∈ fetched ↔ t ∈ s.db.transfers ∧ ¬ Covers s.lastUpdatedAt t := by
    intro t
    rw [← hfetched, Watermark.mem_fetch, not_covers_iff]
  constructor
  · rfl
  · rfl
  · rcases Watermark.advance_cases (fun t : Transfer => t.updatedAt) s.lastUpdatedAt fetched with
      ⟨_, hsame⟩ | ⟨last, hlast, hmark, _⟩
    · exact Or.inl hsame
    · exact Or.inr ⟨last, ((hmem last).mp hlast).1, hmark⟩
  · intro t ht
    rw [← hfetched]
    exact not_not.mp (fun h => Watermark.not_above_advance_fetch ht (not_covers_iff.mp h))
  · exact hupdated.distinct
  · exact fun t ht hnot => hupdated.agrees t ((hmem t).mpr ⟨ht, hnot⟩)
  -- A transfer that is not fetched has its job as the loop found it.
  · intro t ht hcovers job hid
    have hother : ∀ u ∈ fetched, u.id ≠ t.id := by
      intro u hu heq
      rcases (hmem u).mp hu with ⟨hu, hnot⟩
      rw [Table.eq_of_key_eq _ hdistinct hu ht heq] at hnot
      exact hnot hcovers
    exact (hupdated.others t.id hother job hid).trans
      ((hjobs₁ job).trans (and_iff_left ⟨t, ht, hid.symm⟩))
  · intro job hjob
    by_cases hother : ∀ u ∈ fetched, u.id ≠ job.id
    · exact ((hjobs₁ job).mp ((hupdated.others job.id hother job rfl).mp hjob)).2
    · simp only [not_forall, not_not, exists_prop] at hother
      rcases hother with ⟨u, hu, hid⟩
      exact ⟨u, ((hmem u).mp hu).1, hid⟩

/-- The transfers that the next turn of the loop fetches. The database returns
    them in the order of its table, which can be any. -/
def Deployment.batch (s : Deployment Trigger) : List Transfer :=
  s.db.transfers.filter (updatedAfter s.lastUpdatedAt)

/-- One turn of the loop, with valid schedules in the batch. -/
theorem poll_updates (hd : DistinctJobs s.jobs)
    (hdistinct : Table.Distinct (fun t : Transfer => t.id) s.db.transfers)
    (hvalid : ∀ t ∈ s.batch, ValidSchedule settings t) :
    ∃ jobs₁ jobs',
      Returns (poll settings) s ()
        { s with
          jobs := jobs'
          lastUpdatedAt := Watermark.advance (fun t => t.updatedAt) s.lastUpdatedAt s.batch } ∧
      (∀ job, job ∈ jobs₁ ↔ job ∈ s.jobs ∧ ∃ t ∈ s.db.transfers, t.id = job.id) ∧
      Updated settings s.batch jobs₁ jobs' := by
  rcases removeOrphanJobs_returns hd with ⟨jobs₁, horphans, hd₁, hjobs₁⟩
  rcases hbatch : s.batch with fetched
  have hfetch : Returns fetchUpdatedJobs { s with jobs := jobs₁ } fetched { s with jobs := jobs₁ } :=
    returns_query.mpr ⟨congrArg Except.ok hbatch, rfl⟩
  have hsub : List.Sublist fetched s.db.transfers := hbatch ▸ List.filter_sublist
  rcases updateJobs_returns (s := { s with jobs := jobs₁ }) hd₁ (Table.distinct_sublist _ hdistinct hsub)
    (fun t ht => hvalid t (hbatch ▸ ht)) with ⟨jobs', hupdates, hupdated⟩
  refine ⟨jobs₁, jobs', returns_bind.mpr ⟨_, _, horphans, returns_bind.mpr ⟨_, _, hfetch, ?_⟩⟩,
    hjobs₁, hupdated⟩
  cases fetched with
  | nil =>
      -- The loop of `update_jobs` over no transfers is what the branch leaves out.
      exact returns_bind.mpr ⟨_, _, hupdates, returns_pure.mpr ⟨rfl, rfl⟩⟩
  | cons first rest => exact returns_bind.mpr ⟨_, _, hupdates, returns_execute.mpr rfl⟩

/-- One turn of the loop, with valid schedules. -/
theorem poll_returns (hd : DistinctJobs s.jobs)
    (hdistinct : Table.Distinct (fun t : Transfer => t.id) s.db.transfers)
    (hvalid : ∀ t ∈ s.db.transfers, ValidSchedule settings t) :
    ∃ s', Returns (poll settings) s () s' ∧ Polled settings s s' := by
  rcases poll_updates hd hdistinct (fun t ht => hvalid t (List.mem_filter.mp ht).1) with
    ⟨jobs₁, jobs', hpoll, hjobs₁, hupdated⟩
  exact ⟨_, hpoll, polled_of_updated hdistinct (filter_updatedAfter _ _).symm hjobs₁ hupdated⟩

end Specifications

end SyncMaster
