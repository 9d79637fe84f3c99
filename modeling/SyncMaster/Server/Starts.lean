import SyncMaster.Server.Continuity

/-!
# Starts of Runs

Which event creates a run, and of what.

There are two ways to a run, `start_run` and the job of the scheduler, and both read
the credentials of the two connections before they insert anything. So a run that is
new after an event is of a transfer that was there, whose connections both had
credentials, and whose connections are the ones that the dump of the run names; and if
it was a request, its user had the role to write in the group of the transfer.

All other events leave the runs as they are, as far as identity goes.

## Main definitions

* `RunsFrom`: Each run was there before, or is new in an admissible way.
* `Runnable`: What a new run of a transfer says about the transfer.
* `Event.Starts`: The runs that an event may create.

## Theorems

* `runsFrom_createAndSendRun`: The run of a transfer.
* `runs_of_written`: The requests that create none.
* `step_runsFrom`: One event.
-/

namespace SyncMaster

open Program

/-- The columns of a run that do not change. -/
abbrev RunIdentity : Type :=
  Id × RunType × TransferDump × Time

/-- Each run was there before, or is one that may be new. -/
def RunsFrom (fresh : RunIdentity → Prop) (db db' : Database) : Prop :=
  ∀ r ∈ db'.runs,
    (∃ r' ∈ db.runs, r'.id = r.id ∧ r'.identity = r.identity) ∨ fresh r.identity

section RunsFrom

variable {db : Database} {fresh : RunIdentity → Prop}

theorem runsFrom_sublist {db' : Database} (h : List.Sublist db'.runs db.runs) :
    RunsFrom fresh db db' :=
  fun r hr => Or.inl ⟨r, h.subset hr, rfl, rfl⟩

theorem runsFrom_refl (db : Database) : RunsFrom fresh db db :=
  runsFrom_sublist (List.Sublist.refl _)

theorem runsFrom_trans (a b c : Database) (hab : RunsFrom fresh a b) (hbc : RunsFrom fresh b c) :
    RunsFrom fresh a c := by
  intro r hr
  rcases hbc r hr with ⟨s, hs, hid, hidentity⟩ | hfresh
  · rcases hab s hs with ⟨q, hq, hqid, hqidentity⟩ | hfresh
    · exact Or.inl ⟨q, hq, hqid.trans hid, hqidentity.trans hidentity⟩
    · rw [hidentity] at hfresh
      exact Or.inr hfresh
  · exact Or.inr hfresh

theorem runsFrom_mono {wider : RunIdentity → Prop} (hwider : ∀ i, fresh i → wider i)
    {db' : Database} (h : RunsFrom fresh db db') : RunsFrom wider db db' :=
  fun r hr => (h r hr).imp_right (hwider _)

/-! ## Statements -/

theorem runsFrom_query {α : Type} (f : Database → Except Error α) :
    Always (RunsFrom fresh) (query f) :=
  always_query runsFrom_refl f

theorem runsFrom_readOnly {α : Type} {x : Db α} (hx : ReadOnly x) : Always (RunsFrom fresh) x := by
  intro db
  have hsame : db = after x db := hx db
  rw [← hsame]
  exact runsFrom_refl db

theorem runsFrom_bind {α β : Type} {x : Db α} {f : α → Db β} (hx : Always (RunsFrom fresh) x)
    (hf : ∀ a, Always (RunsFrom fresh) (f a)) : Always (RunsFrom fresh) (x >>= f) :=
  always_bind runsFrom_trans hx hf

theorem runsFrom_pure {α : Type} (a : α) : Always (RunsFrom fresh) (pure a : Db α) :=
  always_pure runsFrom_refl a

theorem runsFrom_unitOfWork {α : Type} {x : Db α} (hx : Always (RunsFrom fresh) x) :
    Always (RunsFrom fresh) (unitOfWork x) := by
  refine always_atomically (fun db db' _ => ?_) hx
  exact runsFrom_sublist (List.Sublist.refl db.runs)

theorem runsFrom_insertUser (u : User) : Always (RunsFrom fresh) (insertRow User.model u) :=
  runsFrom_bind (runsFrom_query _) (fun _ =>
    runsFrom_bind (always_execute (fun db => runsFrom_refl db)) (fun _ => runsFrom_pure _))

/-- An update of a run leaves its identity. -/
theorem runsFrom_updateRun {cond : Run → Bool} {values : Run → Run}
    (hvalues : ∀ r, (values r).id = r.id ∧ (values r).identity = r.identity) :
    Always (RunsFrom fresh) (updateRow Run.model cond values) := by
  refine runsFrom_bind (runsFrom_query _) (fun _ => runsFrom_bind (runsFrom_query _) (fun _ =>
    runsFrom_bind (always_execute (fun db r hr => ?_)) (fun _ => runsFrom_pure _)))
  rcases Table.mem_update.mp hr with ⟨old, hold, rfl⟩
  refine Or.inl ⟨old, hold, ?_⟩
  split
  · exact ⟨(hvalues old).1.symm, (hvalues old).2.symm⟩
  · exact ⟨rfl, rfl⟩

theorem runsFrom_insertRun {run : Run} (hrun : fresh run.identity) :
    Always (RunsFrom fresh) (insertRow Run.model run) := by
  refine runsFrom_bind (runsFrom_query _) (fun _ =>
    runsFrom_bind (always_execute (fun db r hr => ?_)) (fun _ => runsFrom_pure _))
  rcases List.mem_append.mp hr with hold | hlast
  · exact Or.inl ⟨r, hold, rfl, rfl⟩
  · rw [List.mem_singleton.mp hlast]
    exact Or.inr hrun

theorem runsFrom_nextval (s : Sequence) : Always (RunsFrom fresh) (nextval s) :=
  fun db => runsFrom_sublist (List.Sublist.refl db.runs)

end RunsFrom

/-! ## The two ways to a run -/

section Starts

variable {db : Database} {now : Time} {sent : SendTask} {user : User} {fresh : RunIdentity → Prop}

/-- The connection has credentials. -/
def HasCredentials (db : Database) (connectionId : Id) : Prop :=
  ∃ a ∈ db.authData, a.connectionId = connectionId

/-- A new run of the transfer, when the connections of the transfer have credentials. -/
structure Runnable (db : Database) (t : Transfer) (run : RunIdentity) : Prop where
  transfer : run.1 = t.id
  source : run.2.2.1.sourceConnectionId = t.sourceConnectionId
  target : run.2.2.1.targetConnectionId = t.targetConnectionId
  sourceCredentials : HasCredentials db t.sourceConnectionId
  targetCredentials : HasCredentials db t.targetConnectionId

theorem hasCredentials_of_read {connectionId : Id} {value : AuthValue}
    (h : Returns (CredentialsRepository.read connectionId) db value db) :
    HasCredentials db connectionId := by
  rcases CredentialsRepository.returns_read.mp h with ⟨⟨a, ha, _⟩, _⟩
  exact ⟨a, (Table.mem_of_filter_eq ha).1, beq_iff_eq.mp (Table.mem_of_filter_eq ha).2⟩

/-- The dump is of the one transfer with the identifier. -/
theorem returns_dump {transferId : Id} {source target : AuthValue} {dump : TransferDump}
    (h : Returns (RunRepository.readFullSerializedTransfer transferId source target) db dump db) :
    ∃ t, db.transfers.filter (fun t => t.id == transferId) = [t] ∧
      dump.sourceConnectionId = t.sourceConnectionId ∧
      dump.targetConnectionId = t.targetConnectionId := by
  simp only [RunRepository.readFullSerializedTransfer, returns_bind, returns_query,
    one_eq_ok_iff, returns_pure] at h
  rcases h with ⟨t, _, ⟨ht, rfl⟩, _, _, ⟨_, rfl⟩, _, _, ⟨_, rfl⟩, rfl, _⟩
  exact ⟨t, ht, rfl, rfl⟩

theorem runsFrom_createAndSendRun {t : Transfer}
    (ht : t ∈ db.transfers.filter (fun r => r.id == t.id)) (type : RunType) :
    RunsFrom (Runnable db t) db (after (createAndSendRun now t type sent) db) := by
  refine related_bind_read (runsFrom_refl db) (readOnly_readCredentials _) (fun source hsource => ?_)
  refine related_bind_read (runsFrom_refl db) (readOnly_readCredentials _) (fun target htarget => ?_)
  refine related_bind runsFrom_trans ?_ (fun run => ?_)
  · -- The new run. What is rolled back is no run at all.
    refine related_atomically (fun _ _ => runsFrom_sublist (List.Sublist.refl db.runs)) ?_
    have hdump : ∀ source target,
        ReadOnly (RunRepository.readFullSerializedTransfer t.id source target) :=
      fun _ _ => readOnly_bind (readOnly_query _) (fun _ => readOnly_bind (readOnly_query _)
        (fun _ => readOnly_bind (readOnly_query _) (fun _ => always_pure (fun _ => rfl) _)))
    refine related_bind_read (runsFrom_refl db) (hdump _ _) (fun dump hread => ?_)
    rcases returns_dump hread with ⟨row, hrow, hdumpSource, hdumpTarget⟩
    rw [hrow, List.mem_singleton] at ht
    subst ht
    refine runsFrom_bind (runsFrom_nextval _) (fun id => ?_) db
    exact always_catching (runsFrom_insertRun ⟨rfl, hdumpSource, hdumpTarget,
      hasCredentials_of_read hsource, hasCredentials_of_read htarget⟩)
  · cases sent with
    | returned => exact runsFrom_pure _
    | kombuError =>
        refine runsFrom_bind (runsFrom_unitOfWork (always_catching (always_catching ?_)))
          (fun _ => always_throw runsFrom_refl _)
        exact runsFrom_updateRun (fun _ => ⟨rfl, rfl⟩)
    | otherError => exact always_throw runsFrom_refl _

/-- Only a user with the right to write starts a run. -/
theorem runsFrom_startRun (body : CreateRunSchema) :
    RunsFrom (fun run => ∃ t ∈ db.transfers, Runnable db t run ∧
      Permitted memberRights db user t.groupId .write) db
      (after (startRun now sent user body) db) := by
  refine related_bind_read (runsFrom_refl db) (readOnly_query _) (fun role hrole => ?_)
  refine related_bind_read (runsFrom_refl db) (readOnly_raiseIf _ _) (fun _ _ => ?_)
  refine related_bind_read (runsFrom_refl db) (readOnly_raiseIf _ _) (fun _ hwrite => ?_)
  refine related_bind_read (runsFrom_refl db) (always_catching (readOnly_query _))
    (fun transfer htransfer => ?_)
  refine related_bind_read (runsFrom_refl db) (always_catching (readOnly_query _)) (fun _ _ => ?_)
  have hfound := (TransferRepository.returns_readById.mp htransfer).1
  have hmem := (Table.mem_of_filter_eq hfound).1
  have hnot := (returns_raiseIf.mp hwrite).1
  rw [← Except.ok.inj (returns_query.mp hrole).1] at hnot
  refine runsFrom_mono (fun run hrun => ⟨transfer, hmem, hrun,
    permitted_of_resourcePermission hfound none_lt_write hnot⟩) ?_
  exact runsFrom_createAndSendRun (List.mem_filter.mpr ⟨hmem, beq_self_eq_true _⟩) .manual

/-- The requests that touch no run, unless it goes with its transfer. -/
theorem runs_of_written {request : Request} {db' : Database} (h : Written request db db') :
    List.Sublist db'.runs db.runs := by
  rcases h with ⟨ws, hrun⟩
  refine Machine.run_relation (I := fun _ => True)
    (R := fun s t : Database => List.Sublist t.runs s.runs) (fun _ => List.Sublist.refl _)
    (fun _ _ _ hst htu => htu.trans hst) (fun _ _ _ _ _ => trivial) ?_ hrun trivial
  rintro s w t _ ⟨hmakes, _, rfl⟩
  cases w with
  | insertRun | updateRun => cases request <;> exact hmakes.elim
  | deleteGroup => exact (shrinks_deleteGroups _).runs
  | deleteConnection => exact (shrinks_deleteConnections _).runs
  | deleteQueue => exact (shrinks_deleteQueues _).runs
  | deleteTransfer => exact (shrinks_deleteTransfers _).runs
  | _ => exact List.Sublist.refl _

/-- The runs that an event may create. -/
def Event.Starts (db : Database) : Event → RunIdentity → Prop
  | .request _ _ userId (.startRun _), run =>
      ∃ user, db.users.find? (fun u => u.id == userId) = some user ∧ user.isActive = true ∧
        ∃ t ∈ db.transfers, Runnable db t run ∧ Permitted memberRights db user t.groupId .write
  | .sendJobToCelery _ _ transferId, run =>
      ∃ t ∈ db.transfers, t.id = transferId ∧ Runnable db t run
  | _, _ => False

theorem runsFrom_stopRun (runId : Id) : Always (RunsFrom fresh) (stopRun now user runId) := by
  refine runsFrom_bind (runsFrom_query _) (fun _ => ?_)
  refine runsFrom_bind (runsFrom_query _) (fun _ => ?_)
  refine runsFrom_bind (runsFrom_readOnly (readOnly_raiseIf _ _)) (fun _ => ?_)
  refine runsFrom_bind (runsFrom_readOnly (readOnly_raiseIf _ _)) (fun _ => ?_)
  refine runsFrom_unitOfWork (runsFrom_bind (runsFrom_query _) (fun _ => ?_))
  exact runsFrom_bind (runsFrom_readOnly (readOnly_raiseIf _ _))
    (fun _ => runsFrom_updateRun (fun _ => ⟨rfl, rfl⟩))

theorem runsFrom_request (userId : Id) (request : Request) :
    RunsFrom (Event.Starts db (.request now sent userId request)) db
      (after (api now sent userId request) db) := by
  refine related_bind_read (runsFrom_refl db) (readOnly_getUser userId) (fun user huser => ?_)
  rcases returns_getUser.mp huser with ⟨hfind, hactive, _⟩
  by_cases hr : request.OnRuns
  · cases request with
    | read answer =>
        exact runsFrom_bind (runsFrom_query _) (fun _ => runsFrom_pure _) db
    | startRun body =>
        have hsame : after (handle now sent user (.startRun body)) db =
            after (startRun now sent user body) db := after_map _ _ _
        rw [hsame]
        exact runsFrom_mono (fun id hid => ⟨user, hfind, hactive, hid⟩) (runsFrom_startRun body)
    | stopRun runId => exact runsFrom_bind (runsFrom_stopRun runId) (fun _ => runsFrom_pure _) db
    | _ => exact hr.elim
  · rcases returns_or_raises (handle now sent user request) db with ⟨_, _, h⟩ | ⟨e, db', h⟩
    · rw [after_of_returns h]
      exact runsFrom_sublist (runs_of_written (outcome_written (handle_outcome h) hr))
    -- A request that fails leaves the rows, unless it had started a run.
    · have hstart : ∀ body, request ≠ .startRun body := by
        intro body hbody
        rw [hbody] at hr
        exact hr trivial
      rw [after_of_raises h]
      refine runsFrom_sublist ?_
      rw [(cleanFailure_handle hstart db e db' h).1]

theorem runsFrom_insertSuperusers (usernames : List String) :
    Always (RunsFrom fresh) (insertSuperusers usernames) := by
  induction usernames with
  | nil => exact runsFrom_pure _
  | cons username rest ih =>
      refine runsFrom_bind (runsFrom_query _) (fun found => ?_)
      split
      · exact ih
      · refine runsFrom_bind (runsFrom_nextval _) (fun id => ?_)
        exact runsFrom_bind (runsFrom_insertUser _) (fun _ => ih)

theorem runsFrom_updateSelectedRun {runId : Id} {cond : Run → Bool} {values : Run → Run}
    (hvalues : ∀ r, (values r).id = r.id ∧ (values r).identity = r.identity) :
    Always (RunsFrom fresh) (updateSelectedRun runId cond values) := by
  refine runsFrom_unitOfWork (runsFrom_bind (runsFrom_query _) (fun runs => ?_))
  split
  · exact runsFrom_pure _
  · exact runsFrom_bind (runsFrom_updateRun hvalues) (fun _ => runsFrom_pure _)

/-- Whoever starts a run may. -/
theorem step_runsFrom (db : Database) (e : Event) : RunsFrom (e.Starts db) db (db.step e) := by
  cases e with
  | request now sent userId request =>
      rw [step_request]
      exact runsFrom_request userId request
  | login username =>
      rw [Database.step, perform, after_map]
      refine runsFrom_unitOfWork (runsFrom_bind (runsFrom_query _) (fun found => ?_)) db
      split
      · exact runsFrom_pure _
      · exact runsFrom_bind (runsFrom_nextval _) (fun _ => runsFrom_insertUser _)
  | addSuperusers usernames =>
      refine runsFrom_unitOfWork (runsFrom_bind ?_ (fun _ => runsFrom_insertSuperusers _)) db
      exact always_execute (fun db => runsFrom_sublist (List.Sublist.refl _))
  | removeSuperusers usernames =>
      refine runsFrom_unitOfWork ?_ db
      exact always_execute (fun db => runsFrom_sublist (List.Sublist.refl _))
  | sendJobToCelery now sent transferId =>
      rw [Database.step, perform, after_map]
      refine related_bind_read (runsFrom_refl db) (readOnly_query _) (fun transfers hread => ?_)
      split
      · exact runsFrom_refl db
      · rename_i transfer rest
        rw [after_map]
        -- The run is of the transfer that was found, which is the one that was asked for.
        have hmem : transfer ∈ db.transfers.filter (fun t => t.id == transferId) := by
          rw [Except.ok.inj (returns_query.mp hread).1]
          exact List.mem_cons_self
        have hid : transfer.id = transferId := beq_iff_eq.mp (List.mem_filter.mp hmem).2
        refine runsFrom_mono
          (fun run hrun => ⟨transfer, (List.mem_filter.mp hmem).1, hid, hrun⟩) ?_
        rw [← hid] at hmem
        exact runsFrom_createAndSendRun hmem .scheduled
  | startTask now runId logUrl =>
      have htask : Always (RunsFrom (fun _ => False)) (startTask now runId logUrl) :=
        runsFrom_updateSelectedRun (fun _ => ⟨rfl, rfl⟩)
      exact htask db
  | finishTask now runId failed =>
      have htask : Always (RunsFrom (fun _ => False)) (finishTask now runId failed) :=
        runsFrom_updateSelectedRun (fun _ => ⟨rfl, rfl⟩)
      exact htask db

end Starts

end SyncMaster
