import SyncMaster.Scheduler.Convergence
import SyncMaster.Scheduler.Polling

/-!
# Fire Times

A job of the store has a trigger, and beside it the instant at which it fires
next. The library computes this instant from the trigger when a job is added
and after each firing, and keeps it otherwise. `update_jobs` gives an existing
job the trigger of its transfer with `modify_job`, which sets what it is given
and nothing else. The job then fires once more at the instant of the schedule
it had before, however far away that is.

The instant was computed from the trigger at some earlier time. As long as it
has not passed it is still the first one after the present, so it is right
after an update when the old and the new schedule have the same first instant,
and wrong otherwise. A job that is added fires at the first instant that has not
passed, which may be the present one.

## Main definitions

* `Calendar`: What a trigger computes.
* `TimedJob`, `Timetable`: The store with its fire times, and the clock.
* `Timetable.updateJobs`, `Timetable.processJobs`: The two events.
* `TakesEffect`: The jobs of a batch fire when their transfers say.
* `KeepsInstant`: The old and the new schedule agree about the next instant.
* `Computed`: The fire times have been computed from the triggers.

## Theorems

* `updateJobs_servesAll`: What an update does to each job.
* `forgets_updateJobs`: Fire times aside, it is the update of the job manager.
* `takesEffect_iff`: For one update, from computed fire times.
* `takesEffect_along_iff`: For every run.
-/

namespace SyncMaster

open Program

/-- What a trigger computes: the first instant after another one that it
    matches. -/
structure Calendar (Trigger : Type) where
  matching : Trigger → Time → Bool
  first : Trigger → Time → Option Time
  first_eq_some : ∀ trigger now instant, first trigger now = some instant ↔
    (now < instant ∧ matching trigger instant = true) ∧
      ∀ other, now < other → matching trigger other = true → instant ≤ other
  first_eq_none : ∀ trigger now, first trigger now = none ↔
    ∀ other, now < other → ¬ matching trigger other = true

/-- `get_next_fire_time(None, now)`, which may be now itself. -/
def Calendar.firstFrom {Trigger : Type} (calendar : Calendar Trigger) (trigger : Trigger)
    (now : Time) : Option Time :=
  if calendar.matching trigger now then some now else calendar.first trigger now

/-- A job with the instant it fires at next. -/
structure TimedJob (Trigger : Type) extends Job Trigger where
  nextRunTime : Option Time
  deriving DecidableEq, Repr

/-- The job store and the time. -/
structure Timetable (Trigger : Type) where
  now : Time
  jobs : List (TimedJob Trigger)

namespace Timetable

section Definitions

variable {Trigger : Type}

/-! ## The job store -/

/-- `get_job` -/
def getJob (jobId : Id) : Program (Timetable Trigger) SchedulerError (Option (TimedJob Trigger)) :=
  query (fun s => .ok (s.jobs.find? (fun job => job.id == jobId)))

/-- `remove_job` -/
def removeJob (jobId : Id) : Program (Timetable Trigger) SchedulerError Unit := do
  let existingJob ← getJob jobId
  raiseIf (existingJob.isNone = true) (.jobLookupError jobId)
  execute (fun s => { s with jobs := Table.delete (fun job => job.id == jobId) s.jobs })

/-- `modify_job`, which leaves the fire time alone. -/
def modifyJob (jobId : Id) (trigger : Trigger) (misfireGraceTime : Nat) (args : Id) :
    Program (Timetable Trigger) SchedulerError Unit := do
  let existingJob ← getJob jobId
  raiseIf (existingJob.isNone = true) (.jobLookupError jobId)
  execute (fun s =>
    { s with
      jobs := Table.update (fun job => job.id == jobId)
        (fun job =>
          { job with
            trigger := trigger
            misfireGraceTime := misfireGraceTime
            args := args })
        s.jobs })

variable (calendar : Calendar Trigger) (settings : SchedulerSettings Trigger)

/-- `add_job`, which computes the fire time. -/
def addJob (job : Job Trigger) : Program (Timetable Trigger) SchedulerError Unit := do
  let existingJob ← getJob job.id
  raiseIf (existingJob.isSome = true) (.conflictingIdError job.id)
  execute (fun s =>
    { s with jobs := s.jobs ++ [{ job with nextRunTime := calendar.firstFrom job.trigger s.now }] })

/-! ## The events -/

def parseCrontab (schedule : String) : Program (Timetable Trigger) SchedulerError Trigger :=
  query (fun _ =>
    match settings.fromCrontab schedule with
    | some trigger => .ok trigger
    | none => .error .valueError)

/-- The body of the loop of `update_jobs`. -/
def updateJob (transfer : Transfer) : Program (Timetable Trigger) SchedulerError Unit := do
  let existingJob ← getJob transfer.id
  if transfer.isScheduled = false then
    if existingJob.isSome then removeJob transfer.id else return ()
  else do
    let trigger ← parseCrontab settings transfer.schedule
    if existingJob.isSome then
      modifyJob transfer.id trigger settings.misfireGraceTimeSeconds transfer.id
    else
      addJob calendar
        { id := transfer.id
          trigger := trigger
          misfireGraceTime := settings.misfireGraceTimeSeconds
          args := transfer.id }

def updateJobs : List Transfer → Program (Timetable Trigger) SchedulerError Unit
  | [] => return ()
  | transfer :: transfers => do
      updateJob calendar settings transfer
      updateJobs transfers

/-- A job is due when its fire time has come. -/
def isDue (now : Time) (job : TimedJob Trigger) : Bool :=
  job.nextRunTime.any (fun instant => decide (instant ≤ now))

/-- The library fires the jobs that are due, and computes when they fire next. A
    job that never fires again is dropped. -/
def processJobs (now : Time) (jobs : List (TimedJob Trigger)) : List (TimedJob Trigger) :=
  jobs.filterMap (fun job =>
    if isDue now job then
      (calendar.first job.trigger now).map (fun instant => { job with nextRunTime := some instant })
    else some job)

end Definitions

end Timetable

/-- A call of `update_jobs`, or the firing of the jobs that are due. -/
inductive Turn where
  | update (now : Time) (transfers : List Transfer)
  | fire (now : Time)

def Turn.time : Turn → Time
  | update now _ | fire now => now

section Runs

variable {Trigger : Type} (calendar : Calendar Trigger) (settings : SchedulerSettings Trigger)

def Timetable.next (s : Timetable Trigger) : Turn → Timetable Trigger
  | .update now transfers => after (Timetable.updateJobs calendar settings transfers) { s with now := now }
  | .fire now => { now := now, jobs := Timetable.processJobs calendar now s.jobs }

/-- Time does not go back, a batch has each transfer once, and its schedules are
    crontabs. -/
def Turn.Regular (s : Timetable Trigger) (turn : Turn) : Prop :=
  s.now ≤ turn.time ∧
    match turn with
    | .update _ transfers =>
        Table.Distinct (fun t : Transfer => t.id) transfers ∧
          ∀ t ∈ transfers, ValidSchedule settings t
    | .fire _ => True

/-- The job with the identifier. -/
def jobOf (jobs : List (TimedJob Trigger)) (jobId : Id) : Option (TimedJob Trigger) :=
  Table.find (fun job => job.id) jobs jobId

/-- After an update, the job of every scheduled transfer of the batch fires at the
    first instant of the schedule. -/
def TakesEffect (s : Timetable Trigger) : Turn → Prop
  | .update now transfers =>
      ∀ t ∈ transfers, t.isScheduled = true → ∀ trigger ∈ settings.fromCrontab t.schedule,
        (jobOf (s.next calendar settings (.update now transfers)).jobs t.id).map
          (fun job => job.nextRunTime) = some (calendar.first trigger now)
  | .fire _ => True

/-- A scheduled transfer of the batch without a job does not match the present instant.
    One that has a job already has one that is not due, and its schedule has the same
    first instant as that of the job. -/
def KeepsInstant (s : Timetable Trigger) : Turn → Prop
  | .update now transfers =>
      ∀ t ∈ transfers, t.isScheduled = true → ∀ trigger ∈ settings.fromCrontab t.schedule,
        (jobOf s.jobs t.id = none → calendar.matching trigger now = false) ∧
          ∀ job ∈ jobOf s.jobs t.id,
            Timetable.isDue now job = false ∧
              calendar.first job.trigger now = calendar.first trigger now
  | .fire _ => True

/-- The job with what `update_jobs` gives to `modify_job`. -/
def modifiedJob (t : Transfer) (trigger : Trigger) (job : TimedJob Trigger) : TimedJob Trigger :=
  { job with
    trigger := trigger
    misfireGraceTime := settings.misfireGraceTimeSeconds
    args := t.id }

/-- The job that `update_jobs` gives to `add_job`. -/
def addedJob (now : Time) (t : Transfer) (trigger : Trigger) : TimedJob Trigger where
  id := t.id
  trigger := trigger
  misfireGraceTime := settings.misfireGraceTimeSeconds
  args := t.id
  nextRunTime := calendar.firstFrom trigger now

/-- What an update makes of the job of a transfer. -/
def served (now : Time) (t : Transfer) (job : Option (TimedJob Trigger)) :
    Option (TimedJob Trigger) :=
  if t.isScheduled = false then none
  else (settings.fromCrontab t.schedule).map (fun trigger =>
    (job.map (modifiedJob settings t trigger)).getD (addedJob calendar settings now t trigger))

/-- No two jobs have the same identifier, and every fire time has been computed
    from the trigger. -/
structure Computed (s : Timetable Trigger) : Prop where
  distinct : Table.Distinct (fun job : TimedJob Trigger => job.id) s.jobs
  fireTimes : ∀ job ∈ s.jobs, ∃ past ≤ s.now, job.nextRunTime = calendar.first job.trigger past

end Runs

/-! ## Instants -/

section Instants

variable {Trigger : Type} {calendar : Calendar Trigger} {trigger : Trigger} {past now : Time}

theorem lt_of_first {instant : Time} (h : calendar.first trigger now = some instant) :
    now < instant :=
  ((calendar.first_eq_some trigger now instant).mp h).1.1

/-- The first instant that has not passed is ahead unless it is now. -/
theorem firstFrom_eq_first_iff :
    calendar.firstFrom trigger now = calendar.first trigger now ↔
      calendar.matching trigger now = false := by
  unfold Calendar.firstFrom
  split
  · rename_i hmatches
    refine iff_of_false (fun h => ?_) (fun h => Bool.false_ne_true (h.symm.trans hmatches))
    exact absurd (lt_of_first h.symm) (lt_irrefl now)
  · rename_i hnot
    exact iff_of_true rfl (Bool.eq_false_iff.mpr hnot)

/-- An instant that has not passed is still the first one. -/
theorem first_later (hle : past ≤ now)
    (hahead : ∀ instant ∈ calendar.first trigger past, now < instant) :
    calendar.first trigger now = calendar.first trigger past := by
  cases hfirst : calendar.first trigger past with
  | none =>
      rw [calendar.first_eq_none] at hfirst ⊢
      exact fun other hother => hfirst other (lt_of_le_of_lt hle hother)
  | some instant =>
      have hlt := hahead instant hfirst
      rw [calendar.first_eq_some] at hfirst ⊢
      refine ⟨⟨hlt, hfirst.1.2⟩, fun other hother hmatches => ?_⟩
      exact hfirst.2 other (lt_of_le_of_lt hle hother) hmatches

theorem isDue_eq_false {job : TimedJob Trigger} :
    Timetable.isDue now job = false ↔ ∀ instant ∈ job.nextRunTime, now < instant := by
  unfold Timetable.isDue
  cases job.nextRunTime with
  | none => simp
  | some instant => simp

/-- A fire time that was computed from the trigger is what another trigger would
    compute now just when it is ahead and both triggers compute the same. -/
theorem nextRunTime_eq_iff {job : TimedJob Trigger} (hle : past ≤ now)
    (hcomputed : job.nextRunTime = calendar.first job.trigger past) :
    job.nextRunTime = calendar.first trigger now ↔
      Timetable.isDue now job = false ∧
        calendar.first job.trigger now = calendar.first trigger now := by
  have hstill : Timetable.isDue now job = false →
      calendar.first job.trigger now = job.nextRunTime := by
    intro hdue
    rw [isDue_eq_false, hcomputed] at hdue
    rw [first_later hle hdue, hcomputed]
  constructor
  · intro h
    have hdue : Timetable.isDue now job = false := by
      rw [isDue_eq_false, h]
      exact fun instant hinstant => lt_of_first hinstant
    exact ⟨hdue, (hstill hdue).trans h⟩
  · intro h
    rw [← hstill h.1]
    exact h.2

end Instants

/-! ## An update -/

section Update

variable {Trigger : Type} {calendar : Calendar Trigger} {settings : SchedulerSettings Trigger}
  {s : Timetable Trigger}

theorem Timetable.getJob_returns (jobId : Id) :
    Returns (Timetable.getJob jobId) s (jobOf s.jobs jobId) s :=
  returns_query.mpr ⟨rfl, rfl⟩

theorem Timetable.removeJob_returns {jobId : Id} {job : TimedJob Trigger}
    (h : jobOf s.jobs jobId = some job) :
    Returns (Timetable.removeJob jobId) s ()
      { s with jobs := Table.delete (fun job => job.id == jobId) s.jobs } := by
  refine returns_bind.mpr ⟨_, _, Timetable.getJob_returns jobId, ?_⟩
  refine returns_bind.mpr ⟨(), _, returns_raiseIf.mpr ⟨?_, rfl⟩, returns_execute.mpr rfl⟩
  rw [h]
  exact Bool.false_ne_true

theorem Timetable.modifyJob_returns {t : Transfer} {trigger : Trigger} {job : TimedJob Trigger}
    (h : jobOf s.jobs t.id = some job) :
    Returns (Timetable.modifyJob t.id trigger settings.misfireGraceTimeSeconds t.id) s ()
      { s with
        jobs := Table.update (fun job => job.id == t.id) (modifiedJob settings t trigger) s.jobs } := by
  refine returns_bind.mpr ⟨_, _, Timetable.getJob_returns t.id, ?_⟩
  refine returns_bind.mpr ⟨(), _, returns_raiseIf.mpr ⟨?_, rfl⟩, returns_execute.mpr rfl⟩
  rw [h]
  exact Bool.false_ne_true

theorem Timetable.addJob_returns {t : Transfer} {trigger : Trigger} (h : jobOf s.jobs t.id = none) :
    Returns (Timetable.addJob calendar ⟨t.id, trigger, settings.misfireGraceTimeSeconds, t.id⟩) s ()
      { s with jobs := s.jobs ++ [addedJob calendar settings s.now t trigger] } := by
  refine returns_bind.mpr ⟨_, _, Timetable.getJob_returns t.id, ?_⟩
  refine returns_bind.mpr ⟨(), _, returns_raiseIf.mpr ⟨?_, rfl⟩, returns_execute.mpr rfl⟩
  rw [h]
  exact Bool.false_ne_true

/-- The store after the update of one transfer. -/
structure Serves (calendar : Calendar Trigger) (settings : SchedulerSettings Trigger) (now : Time)
    (t : Transfer) (jobs jobs' : List (TimedJob Trigger)) : Prop where
  distinct : Table.Distinct (fun job : TimedJob Trigger => job.id) jobs →
    Table.Distinct (fun job : TimedJob Trigger => job.id) jobs'
  own : jobOf jobs' t.id = served calendar settings now t (jobOf jobs t.id)
  others : ∀ jobId, jobId ≠ t.id → jobOf jobs' jobId = jobOf jobs jobId

theorem serves_removed {t : Transfer} (jobs : List (TimedJob Trigger)) (now : Time)
    (hscheduled : t.isScheduled = false) :
    Serves calendar settings now t jobs (Table.delete (fun job => job.id == t.id) jobs) where
  distinct := fun hd => Table.distinct_sublist _ hd (Table.delete_sublist _ _)
  own := by
    rw [served, if_pos hscheduled]
    exact (Table.find_delete jobs t.id t.id).trans (if_pos rfl)
  others := fun jobId hne => (Table.find_delete jobs t.id jobId).trans (if_neg hne)

theorem serves_modified {t : Transfer} {trigger : Trigger} {jobs : List (TimedJob Trigger)}
    {job : TimedJob Trigger} (now : Time) (hscheduled : ¬ t.isScheduled = false)
    (htrigger : settings.fromCrontab t.schedule = some trigger)
    (hjob : jobOf jobs t.id = some job) :
    Serves calendar settings now t jobs
      (Table.update (fun job => job.id == t.id) (modifiedJob settings t trigger) jobs) where
  distinct := fun hd => Table.distinct_update _ hd (fun _ _ _ => rfl)
  own := by
    have hkeeps : ∀ job, (modifiedJob settings t trigger job).id = job.id := fun _ => rfl
    rw [served, if_neg hscheduled, htrigger, hjob]
    refine (Table.find_update jobs t.id t.id hkeeps).trans ?_
    rw [if_pos rfl]
    exact congrArg (Option.map _) hjob
  others := by
    intro jobId hne
    have hkeeps : ∀ job, (modifiedJob settings t trigger job).id = job.id := fun _ => rfl
    exact (Table.find_update jobs t.id jobId hkeeps).trans (if_neg hne)

theorem serves_added {t : Transfer} {trigger : Trigger} {jobs : List (TimedJob Trigger)}
    (now : Time) (hscheduled : ¬ t.isScheduled = false)
    (htrigger : settings.fromCrontab t.schedule = some trigger) (hjob : jobOf jobs t.id = none) :
    Serves calendar settings now t jobs (jobs ++ [addedJob calendar settings now t trigger]) where
  distinct := fun hd => Table.distinct_insert _ hd ((Table.find_eq_none_iff _).mp hjob)
  own := by
    have hnone : Table.find (fun job : TimedJob Trigger => job.id) jobs
        (addedJob calendar settings now t trigger).id = none := hjob
    rw [served, if_neg hscheduled, htrigger, hjob]
    exact (Table.find_insert jobs t.id hnone).trans (if_pos rfl)
  others := by
    intro jobId hne
    have hnone : Table.find (fun job : TimedJob Trigger => job.id) jobs
        (addedJob calendar settings now t trigger).id = none := hjob
    exact (Table.find_insert jobs jobId hnone).trans (if_neg hne)

theorem updateJob_serves {t : Transfer} (hvalid : ValidSchedule settings t) :
    ∃ jobs', Returns (Timetable.updateJob calendar settings t) s () { s with jobs := jobs' } ∧
      Serves calendar settings s.now t s.jobs jobs' := by
  -- The branches of `update_jobs`, as for the jobs alone: skip, remove, add, modify.
  by_cases hscheduled : t.isScheduled = false
  · cases hjob : jobOf s.jobs t.id with
    | none =>
        refine ⟨s.jobs, returns_bind.mpr ⟨_, _, Timetable.getJob_returns t.id, ?_⟩, id, ?_,
          fun _ _ => rfl⟩
        · rw [if_pos hscheduled, hjob]
          exact returns_pure.mpr ⟨rfl, rfl⟩
        · rw [served, if_pos hscheduled, hjob]
    | some job =>
        refine ⟨_, returns_bind.mpr ⟨_, _, Timetable.getJob_returns t.id, ?_⟩,
          serves_removed s.jobs s.now hscheduled⟩
        rw [if_pos hscheduled, hjob]
        exact Timetable.removeJob_returns hjob
  · have hon := Bool.not_eq_false _ ▸ hscheduled
    rcases Option.isSome_iff_exists.mp (hvalid hon) with ⟨trigger, htrigger⟩
    have hparse : Returns (Timetable.parseCrontab settings t.schedule) s trigger s :=
      returns_query.mpr ⟨by rw [htrigger], rfl⟩
    cases hjob : jobOf s.jobs t.id with
    | none =>
        refine ⟨_, returns_bind.mpr ⟨_, _, Timetable.getJob_returns t.id, ?_⟩,
          serves_added s.now hscheduled htrigger hjob⟩
        rw [if_neg hscheduled]
        refine returns_bind.mpr ⟨trigger, s, hparse, ?_⟩
        rw [hjob]
        exact Timetable.addJob_returns hjob
    | some job =>
        refine ⟨_, returns_bind.mpr ⟨_, _, Timetable.getJob_returns t.id, ?_⟩,
          serves_modified s.now hscheduled htrigger hjob⟩
        rw [if_neg hscheduled]
        refine returns_bind.mpr ⟨trigger, s, hparse, ?_⟩
        rw [hjob]
        exact Timetable.modifyJob_returns hjob

/-- The store after the update of a batch. -/
structure ServesAll (calendar : Calendar Trigger) (settings : SchedulerSettings Trigger)
    (now : Time) (transfers : List Transfer) (jobs jobs' : List (TimedJob Trigger)) : Prop where
  distinct : Table.Distinct (fun job : TimedJob Trigger => job.id) jobs →
    Table.Distinct (fun job : TimedJob Trigger => job.id) jobs'
  own : ∀ t ∈ transfers, jobOf jobs' t.id = served calendar settings now t (jobOf jobs t.id)
  others : ∀ jobId, (∀ t ∈ transfers, t.id ≠ jobId) → jobOf jobs' jobId = jobOf jobs jobId

theorem updateJobs_servesAll {transfers : List Transfer} {s : Timetable Trigger}
    (hdistinct : Table.Distinct (fun t : Transfer => t.id) transfers)
    (hvalid : ∀ t ∈ transfers, ValidSchedule settings t) :
    ∃ jobs', Returns (Timetable.updateJobs calendar settings transfers) s ()
        { s with jobs := jobs' } ∧
      ServesAll calendar settings s.now transfers s.jobs jobs' := by
  induction transfers generalizing s with
  | nil =>
      exact ⟨s.jobs, returns_pure.mpr ⟨rfl, rfl⟩, id, fun t ht => absurd ht List.not_mem_nil,
        fun _ _ => rfl⟩
  | cons t transfers ih =>
      rcases List.nodup_cons.mp hdistinct with ⟨hnew, hrest⟩
      rcases updateJob_serves (hvalid t List.mem_cons_self) with ⟨jobs₁, hfirst, hserves⟩
      rcases ih (s := { s with jobs := jobs₁ }) hrest
        (fun u hu => hvalid u (List.mem_cons_of_mem _ hu)) with ⟨jobs', hnext, hall⟩
      have hfresh : ∀ u ∈ transfers, u.id ≠ t.id :=
        fun u hu heq => hnew (List.mem_map.mpr ⟨u, hu, heq⟩)
      refine ⟨jobs', returns_bind.mpr ⟨(), _, hfirst, hnext⟩, fun hd => ?_, ?_, ?_⟩
      · exact hall.distinct (hserves.distinct hd)
      · intro u hu
        rcases List.mem_cons.mp hu with rfl | hu
        · -- The rest of the batch does not touch the job of its first transfer.
          rw [hall.others u.id hfresh, hserves.own]
        · rw [hall.own u hu, hserves.others u.id (hfresh u hu)]
      · intro jobId hother
        rw [hall.others jobId (fun u hu => hother u (List.mem_cons_of_mem _ hu)),
          hserves.others jobId (hother t List.mem_cons_self).symm]

end Update

/-! ## Fire times aside -/

section Forgetting

variable {Trigger α β : Type} {calendar : Calendar Trigger} {settings : SchedulerSettings Trigger}

/-- The jobs of the store without their fire times. -/
def forget (jobs : List (TimedJob Trigger)) : List (Job Trigger) :=
  jobs.map (fun job => job.toJob)

/-- What one program does to a store with fire times, the other does to the store
    without. -/
def Forgets (x : Program (Timetable Trigger) SchedulerError α) (y : Scheduling Trigger β)
    (f : α → β) : Prop :=
  ∀ s a s' (d : Deployment Trigger), Returns x s a s' → d.jobs = forget s.jobs →
    Returns y d (f a) { d with jobs := forget s'.jobs }

theorem forgets_bind {α' β' : Type} {x : Program (Timetable Trigger) SchedulerError α}
    {y : Scheduling Trigger β} {f : α → β}
    {g : α → Program (Timetable Trigger) SchedulerError α'} {h : β → Scheduling Trigger β'}
    {f' : α' → β'} (hx : Forgets x y f) (hg : ∀ a, Forgets (g a) (h (f a)) f') :
    Forgets (x >>= g) (y >>= h) f' := by
  intro s a s' d hreturns hjobs
  rcases returns_bind.mp hreturns with ⟨b, s₁, hfirst, hnext⟩
  have hstep := hg b s₁ a s' { d with jobs := forget s₁.jobs } hnext rfl
  exact returns_bind.mpr ⟨f b, _, hx s b s₁ d hfirst hjobs, hstep⟩

theorem forgets_pure (a : α) (f : α → β) :
    Forgets (pure a : Program (Timetable Trigger) SchedulerError α) (pure (f a)) f := by
  intro s b s' d hreturns hjobs
  rcases returns_pure.mp hreturns with ⟨rfl, rfl⟩
  refine returns_pure.mpr ⟨rfl, ?_⟩
  rw [← hjobs]

theorem forgets_execute {f : Timetable Trigger → Timetable Trigger}
    {g : Deployment Trigger → Deployment Trigger}
    (h : ∀ s d, d.jobs = forget s.jobs → g d = { d with jobs := forget (f s).jobs }) :
    Forgets (execute f) (execute g) id := by
  intro s a s' d hreturns hjobs
  have hs' := returns_execute.mp hreturns
  rw [← hs']
  exact returns_execute.mpr (h s d hjobs)

theorem forgets_raiseIf (c : Prop) [Decidable c] (e : SchedulerError) :
    Forgets (raiseIf c e : Program (Timetable Trigger) SchedulerError Unit) (raiseIf c e) id := by
  intro s a s' d hreturns hjobs
  rcases returns_raiseIf.mp hreturns with ⟨hc, rfl⟩
  refine returns_raiseIf.mpr ⟨hc, ?_⟩
  rw [← hjobs]

theorem forgets_getJob (jobId : Id) :
    Forgets (Timetable.getJob jobId : Program (Timetable Trigger) SchedulerError _)
      (SyncMaster.getJob jobId) (Option.map (fun job => job.toJob)) := by
  intro s a s' d hreturns hjobs
  rcases returns_query.mp hreturns with ⟨hvalue, rfl⟩
  rw [Except.ok.injEq] at hvalue
  refine returns_query.mpr ⟨?_, ?_⟩
  · rw [← hvalue, hjobs, forget, List.find?_map]
    rfl
  · rw [← hjobs]

theorem forgets_parseCrontab (schedule : String) :
    Forgets (Timetable.parseCrontab settings schedule) (SyncMaster.parseCrontab settings schedule)
      id := by
  intro s a s' d hreturns hjobs
  rcases returns_query.mp hreturns with ⟨hvalue, rfl⟩
  refine returns_query.mpr ⟨hvalue, ?_⟩
  rw [← hjobs]

theorem forgets_removeJob (jobId : Id) :
    Forgets (Timetable.removeJob jobId : Program (Timetable Trigger) SchedulerError _)
      (SyncMaster.removeJob jobId) id := by
  refine forgets_bind (forgets_getJob jobId) (fun job => ?_)
  rw [Option.isNone_map]
  refine forgets_bind (forgets_raiseIf _ _) (fun _ => forgets_execute (fun s d hjobs => ?_))
  rw [hjobs, forget, forget, Table.delete, Table.delete, List.filter_map]
  rfl

theorem forgets_modifyJob (jobId : Id) (trigger : Trigger) (misfireGraceTime : Nat) (args : Id) :
    Forgets (Timetable.modifyJob jobId trigger misfireGraceTime args)
      (SyncMaster.modifyJob jobId trigger misfireGraceTime args) id := by
  refine forgets_bind (forgets_getJob jobId) (fun job => ?_)
  rw [Option.isNone_map]
  refine forgets_bind (forgets_raiseIf _ _) (fun _ => forgets_execute (fun s d hjobs => ?_))
  rw [hjobs, forget, forget, Table.update, Table.update, List.map_map, List.map_map]
  refine congrArg (fun jobs => { d with jobs := jobs }) (List.map_congr_left (fun job _ => ?_))
  simp only [Function.comp_apply]
  split <;> rfl

theorem forgets_addJob (job : Job Trigger) :
    Forgets (Timetable.addJob calendar job) (SyncMaster.addJob job) id := by
  refine forgets_bind (forgets_getJob job.id) (fun existing => ?_)
  rw [Option.isSome_map]
  refine forgets_bind (forgets_raiseIf _ _) (fun _ => forgets_execute (fun s d hjobs => ?_))
  rw [hjobs, forget, forget, List.map_append]
  rfl

theorem forgets_ite (c : Prop) [Decidable c] {x x' : Program (Timetable Trigger) SchedulerError α}
    {y y' : Scheduling Trigger β} {f : α → β} (hx : Forgets x y f) (hx' : Forgets x' y' f) :
    Forgets (if c then x else x') (if c then y else y') f := by
  by_cases hc : c
  · rw [if_pos hc, if_pos hc]
    exact hx
  · rw [if_neg hc, if_neg hc]
    exact hx'

theorem forgets_updateJob (t : Transfer) :
    Forgets (Timetable.updateJob calendar settings t) (SyncMaster.updateJob settings t) id := by
  refine forgets_bind (forgets_getJob t.id) (fun job => forgets_ite _ ?_ ?_)
  · rw [Option.isSome_map]
    exact forgets_ite _ (forgets_removeJob t.id) (forgets_pure () id)
  · refine forgets_bind (forgets_parseCrontab t.schedule) (fun trigger => ?_)
    rw [Option.isSome_map]
    exact forgets_ite _ (forgets_modifyJob _ _ _ _) (forgets_addJob _)

/-- Fire times aside, the update is that of the job manager. -/
theorem forgets_updateJobs (transfers : List Transfer) :
    Forgets (Timetable.updateJobs calendar settings transfers)
      (SyncMaster.updateJobs settings transfers) id := by
  induction transfers with
  | nil => exact forgets_pure () id
  | cons t transfers ih => exact forgets_bind (forgets_updateJob t) (fun _ => ih)

end Forgetting

/-! ## Runs -/

section Turns

variable {Trigger : Type} {calendar : Calendar Trigger} {settings : SchedulerSettings Trigger}
  {s : Timetable Trigger}

/-- The state after an update of a regular batch. -/
theorem next_update (calendar : Calendar Trigger) {now : Time} {transfers : List Transfer}
    (hregular : Turn.Regular settings s (.update now transfers)) :
    ∃ jobs', s.next calendar settings (.update now transfers) = { now := now, jobs := jobs' } ∧
      ServesAll calendar settings now transfers s.jobs jobs' := by
  rcases updateJobs_servesAll (s := { s with now := now }) hregular.2.1 hregular.2.2 with
    ⟨jobs', hreturns, hall⟩
  refine ⟨jobs', ?_, hall⟩
  rw [Timetable.next, after_of_returns hreturns]

/-- A job that was added fires at the first instant of the schedule, unless that is now.
    One that was there fires when it did. -/
theorem served_nextRunTime {now : Time} {t : Transfer} {trigger : Trigger}
    (job : Option (TimedJob Trigger)) (hscheduled : t.isScheduled = true)
    (htrigger : settings.fromCrontab t.schedule = some trigger) :
    (served calendar settings now t job).map (fun job => job.nextRunTime) =
        some (calendar.first trigger now) ↔
      (job = none → calendar.matching trigger now = false) ∧
        ∀ existing ∈ job, existing.nextRunTime = calendar.first trigger now := by
  have hon : ¬ t.isScheduled = false := fun h => Bool.false_ne_true (h.symm.trans hscheduled)
  rw [served, if_neg hon, htrigger]
  cases job with
  | none =>
      have hadded : some (calendar.firstFrom trigger now) = some (calendar.first trigger now) ↔
          calendar.matching trigger now = false :=
        Option.some_inj.trans firstFrom_eq_first_iff
      refine hadded.trans ⟨fun h => ⟨fun _ => h, fun existing hexisting => ?_⟩, fun h => h.1 rfl⟩
      cases hexisting
  | some existing =>
      constructor
      · intro h
        refine ⟨fun hnone => absurd hnone (Option.some_ne_none _), fun other hother => ?_⟩
        rw [← Option.mem_some_iff.mp hother]
        exact Option.some.inj h
      · intro h
        exact congrArg some (h.2 existing rfl)

/-- For one update: its jobs fire when their transfers say just when it kept the
    instants. -/
theorem takesEffect_iff {turn : Turn} (hcomputed : Computed calendar s)
    (hregular : Turn.Regular settings s turn) :
    TakesEffect calendar settings s turn ↔ KeepsInstant calendar settings s turn := by
  cases turn with
  | fire now => exact Iff.rfl
  | update now transfers =>
      rcases next_update calendar hregular with ⟨jobs', hnext, hall⟩
      unfold TakesEffect KeepsInstant
      refine forall₂_congr (fun t ht => forall_congr' (fun hscheduled => ?_))
      refine forall₂_congr (fun trigger htrigger => ?_)
      rw [hnext, hall.own t ht, served_nextRunTime _ hscheduled htrigger]
      refine and_congr_right (fun _ => forall₂_congr (fun job hjob => ?_))
      -- The job has its fire time from an earlier turn.
      have hmem : job ∈ s.jobs := (Table.mem_of_find _ hjob).1
      rcases hcomputed.fireTimes job hmem with ⟨past, hpast, hfirst⟩
      exact nextRunTime_eq_iff (le_trans hpast hregular.1) hfirst

/-- The job that an update leaves a transfer of the batch has its trigger. -/
theorem trigger_of_served {now : Time} {t : Transfer} {old : Option (TimedJob Trigger)}
    {job : TimedJob Trigger} (h : served calendar settings now t old = some job) :
    t.isScheduled = true ∧ settings.fromCrontab t.schedule = some job.trigger := by
  unfold served at h
  by_cases hscheduled : t.isScheduled = false
  · rw [if_pos hscheduled] at h
    cases h
  · rw [if_neg hscheduled] at h
    rcases Option.map_eq_some_iff.mp h with ⟨trigger, htrigger, rfl⟩
    refine ⟨Bool.not_eq_false _ ▸ hscheduled, ?_⟩
    rw [htrigger]
    cases old with
    | none => rfl
    | some existing => rfl

theorem computed_update {now : Time} {transfers : List Transfer} (hcomputed : Computed calendar s)
    (hregular : Turn.Regular settings s (.update now transfers))
    (hkeeps : KeepsInstant calendar settings s (.update now transfers)) :
    Computed calendar (s.next calendar settings (.update now transfers)) := by
  have heffect := (takesEffect_iff hcomputed hregular).mpr hkeeps
  rcases next_update calendar hregular with ⟨jobs', hnext, hall⟩
  simp only [TakesEffect] at heffect
  rw [hnext] at heffect ⊢
  have hdistinct := hall.distinct hcomputed.distinct
  refine ⟨hdistinct, fun job hjob => ?_⟩
  have hfind : jobOf jobs' job.id = some job :=
    (Table.find_eq_some_iff _ hdistinct).mpr ⟨hjob, rfl⟩
  by_cases hbatch : ∃ t ∈ transfers, t.id = job.id
  · rcases hbatch with ⟨t, ht, hid⟩
    rw [← hid] at hfind
    rcases trigger_of_served ((hall.own t ht).symm.trans hfind) with ⟨hscheduled, htrigger⟩
    have hinstant := heffect t ht hscheduled job.trigger htrigger
    rw [hfind] at hinstant
    exact ⟨now, le_refl now, Option.some.inj hinstant⟩
  · -- The job of another transfer is the job it was.
    have hother : ∀ t ∈ transfers, t.id ≠ job.id := fun t ht hid => hbatch ⟨t, ht, hid⟩
    rw [hall.others job.id hother] at hfind
    rcases hcomputed.fireTimes job (Table.mem_of_find _ hfind).1 with ⟨past, hpast, hfirst⟩
    exact ⟨past, le_trans hpast hregular.1, hfirst⟩

theorem mem_processJobs {now : Time} {jobs : List (TimedJob Trigger)} {job : TimedJob Trigger} :
    job ∈ Timetable.processJobs calendar now jobs ↔ ∃ old ∈ jobs,
      (if Timetable.isDue now old then
        (calendar.first old.trigger now).map (fun instant =>
          { old with nextRunTime := some instant })
      else some old) = some job :=
  List.mem_filterMap

/-- The firing computes the fire times of the jobs that were due. -/
theorem fired {now : Time} {old job : TimedJob Trigger}
    (h : (if Timetable.isDue now old then
        (calendar.first old.trigger now).map (fun instant =>
          { old with nextRunTime := some instant })
      else some old) = some job) :
    job.id = old.id ∧ (job = old ∨ job.nextRunTime = calendar.first job.trigger now) := by
  by_cases hdue : Timetable.isDue now old = true
  · rw [if_pos hdue] at h
    rcases Option.map_eq_some_iff.mp h with ⟨instant, hfirst, rfl⟩
    exact ⟨rfl, Or.inr hfirst.symm⟩
  · rw [if_neg hdue] at h
    cases h
    exact ⟨rfl, Or.inl rfl⟩

theorem computed_fire {now : Time} (hcomputed : Computed calendar s) (hle : s.now ≤ now) :
    Computed calendar (s.next calendar settings (.fire now)) := by
  refine ⟨?_, fun job hjob => ?_⟩
  · have hdistinct := List.pairwise_map.mp hcomputed.distinct
    refine List.pairwise_map.mpr (hdistinct.filterMap _ ?_)
    intro old other hne job hjob job' hjob' heq
    rw [(fired hjob).1, (fired hjob').1] at heq
    exact hne heq
  · rcases mem_processJobs.mp hjob with ⟨old, hold, hfired⟩
    rcases (fired hfired).2 with rfl | hfirst
    · rcases hcomputed.fireTimes job hold with ⟨past, hpast, hfirst⟩
      exact ⟨past, le_trans hpast hle, hfirst⟩
    · exact ⟨now, le_refl now, hfirst⟩

/-- The step of the induction over a run. -/
theorem computed_next {turn : Turn} (hcomputed : Computed calendar s)
    (hregular : Turn.Regular settings s turn) (hkeeps : KeepsInstant calendar settings s turn) :
    Computed calendar (s.next calendar settings turn) := by
  cases turn with
  | update now transfers => exact computed_update hcomputed hregular hkeeps
  | fire now => exact computed_fire hcomputed hregular.1

theorem computed_empty (now : Time) : Computed calendar (Timetable.mk now []) where
  distinct := List.nodup_nil
  fireTimes := fun _ hjob => absurd hjob List.not_mem_nil

/-- For every run from an empty store: all its updates take effect just when each
    of them keeps the instants. -/
theorem takesEffect_along_iff (now : Time) (turns : List Turn)
    (hregular : Machine.Along (Turn.Regular settings) (Timetable.next calendar settings)
      ⟨now, []⟩ turns) :
    Machine.Along (TakesEffect calendar settings) (Timetable.next calendar settings)
        ⟨now, []⟩ turns ↔
      Machine.Along (KeepsInstant calendar settings) (Timetable.next calendar settings)
        ⟨now, []⟩ turns := by
  refine Machine.along_congr (I := Computed calendar) ?_ ?_ (computed_empty now) hregular
  · exact fun s turn hcomputed hturn => takesEffect_iff hcomputed hturn
  · exact fun s turn hcomputed hturn hkeeps => computed_next hcomputed hturn hkeeps

end Turns

/-! ## A schedule that is put off -/

section Sample

variable {Trigger : Type} (calendar : Calendar Trigger) (settings : SchedulerSettings Trigger)
  (s : Timetable Trigger)

instance (turn : Turn) : Decidable (Turn.Regular settings s turn) :=
  match turn with
  | .update _ _ => inferInstanceAs (Decidable (_ ∧ _ ∧ _))
  | .fire _ => inferInstanceAs (Decidable (_ ∧ True))

instance [DecidableEq Trigger] (turn : Turn) : Decidable (TakesEffect calendar settings s turn) :=
  match turn with
  | .update _ transfers => inferInstanceAs (Decidable (∀ t ∈ transfers, _ → _))
  | .fire _ => inferInstanceAs (Decidable True)

instance (turn : Turn) : Decidable (KeepsInstant calendar settings s turn) :=
  match turn with
  | .update _ transfers => inferInstanceAs (Decidable (∀ t ∈ transfers, _ → _))
  | .fire _ => inferInstanceAs (Decidable True)

/-- The next time the clock shows the hour. The time is in hours. -/
def nextAt (hour : Fin 24) (now : Int) : Int :=
  now + 1 + ((hour : Nat) - (now + 1)) % 24

theorem lt_nextAt (hour : Fin 24) (now : Int) : now < nextAt hour now := by
  unfold nextAt
  omega

theorem nextAt_mod (hour : Fin 24) (now : Int) : nextAt hour now % 24 = (hour : Nat) := by
  have hlt := hour.isLt
  unfold nextAt
  omega

theorem nextAt_le {hour : Fin 24} {now other : Int} (hahead : now < other)
    (hmatches : other % 24 = (hour : Nat)) : nextAt hour now ≤ other := by
  have hlt := hour.isLt
  unfold nextAt
  omega

/-- A trigger is an hour of each day. -/
def daily : Calendar (Fin 24) where
  matching hour instant := decide (instant % 24 = (hour : Nat))
  first hour now := some (nextAt hour now)
  first_eq_some := by
    intro hour now instant
    simp only [Option.some.injEq, decide_eq_true_eq]
    constructor
    · rintro rfl
      exact ⟨⟨lt_nextAt hour now, nextAt_mod hour now⟩, fun other => nextAt_le⟩
    · rintro ⟨⟨hahead, hmatches⟩, hleast⟩
      refine le_antisymm (nextAt_le hahead hmatches) ?_
      exact hleast _ (lt_nextAt hour now) (nextAt_mod hour now)
  first_eq_none := by
    intro hour now
    refine iff_of_false (Option.some_ne_none _) (fun h => ?_)
    exact h _ (lt_nextAt hour now) (decide_eq_true (nextAt_mod hour now))

def dailySettings : SchedulerSettings (Fin 24) where
  misfireGraceTimeSeconds := 300
  fromCrontab schedule :=
    if schedule = "0 0 * * *" then some 0
    else if schedule = "0 2 * * *" then some 2
    else none

def atMidnight : Transfer :=
  { Polling.sampleColumns with id := 1, schedule := "0 0 * * *" }

def atTwo : Transfer :=
  { atMidnight with schedule := "0 2 * * *" }

/-- The transfer was served at one, and gets a new schedule after midnight. -/
def editedAfterFiring : List Turn :=
  [.update 1 [atMidnight], .fire 24, .update 24 [atMidnight], .fire 25]

theorem takesEffect_editedAfterFiring :
    Machine.Along (TakesEffect daily dailySettings) (Timetable.next daily dailySettings)
      ⟨0, []⟩ editedAfterFiring :=
  (takesEffect_along_iff 0 editedAfterFiring (by decide +kernel)).mpr (by decide +kernel)

/-- A transfer that runs at midnight is to run at two from now on. It runs at
    midnight once more. -/
theorem not_takesEffect_editedAtThree :
    ¬ ∀ (calendar : Calendar (Fin 24)) (settings : SchedulerSettings (Fin 24)) now turns,
      Machine.Along (Turn.Regular settings) (Timetable.next calendar settings) ⟨now, []⟩ turns →
      Machine.Along (TakesEffect calendar settings) (Timetable.next calendar settings)
        ⟨now, []⟩ turns := by
  intro h
  have heffect := h daily dailySettings 0 [.update 1 [atMidnight], .update 3 [atTwo]]
    (by decide +kernel)
  exact absurd heffect (by decide +kernel)

end Sample

end SyncMaster
