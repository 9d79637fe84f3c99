import SyncMaster.Server.Effects

/-!
# Failed Requests

A request that raises leaves the tables as they were.

The handlers read and check first, then write inside one unit of work, whose
rollback restores the tables. What stands after the unit of work is a read
that cannot fail, because the unit of work has just written the row it reads.

`startRun` is different when the broker refuses the message: the run has been
committed by then, a second unit of work marks it as failed, and only then the
error is raised. `createAndSendRun_raises` says what is left behind.

## Main definitions

* `Unchanged`: The tables are the same; a sequence may have moved on.

## Theorems

* `cleanFailure_createConnection` and its siblings: One for each endpoint.
* `createAndSendRun_raises`: The run that a refused message leaves.
* `handle_after_performs`: However a request ends, it is a run of authorised
  writes.
* `after_api`, `after_api_of_no_user`: The authentication.
-/

namespace SyncMaster

open Program

/-- The tables are the same. Identifiers may have been used up. -/
def Unchanged (db db' : Database) : Prop :=
  db'.toTables = db.toTables ∧ Grows db db'

theorem unchanged_refl (db : Database) : Unchanged db db :=
  ⟨rfl, grows_refl db⟩

/-- An unchanged database is one whose sequences were advanced. -/
theorem unchanged_checkedStep {db db' : Database} (h : Unchanged db db') :
    checkedStep db (.advance db'.sequences) db' := by
  refine ⟨h.2, ?_⟩
  rw [Write.apply, ← h.1]

/-- A unit of work that raises has changed nothing. -/
theorem cleanFailure_unitOfWork {α : Type} {body : Db α} (h : Always Grows body) :
    CleanFailure Unchanged (unitOfWork body) :=
  cleanFailure_atomically (P := Grows) (fun _ _ hg => ⟨rfl, hg⟩) h

/-- Reading in front of a program. -/
theorem cleanFailure_read {α β : Type} {x : Db α} {f : α → Db β} (hx : ReadOnly x)
    (hf : ∀ a, CleanFailure Unchanged (f a)) : CleanFailure Unchanged (x >>= f) :=
  cleanFailure_bind unchanged_refl hx hf

/-- A check in front of a program. -/
theorem cleanFailure_check {α : Type} {c : Prop} [Decidable c] {e : Error} {x : Db α}
    (hx : CleanFailure Unchanged x) :
    CleanFailure Unchanged (do raiseIf c e; x) :=
  cleanFailure_read (readOnly_raiseIf c e) (fun _ => hx)

/-- What is done with the result of a unit of work cannot fail. -/
theorem cleanFailure_return {α β : Type} {x : Db α} {f : α → β}
    (hx : CleanFailure Unchanged x) : CleanFailure Unchanged (do let a ← x; return f a) :=
  cleanFailure_bind_total hx (fun _ _ _ _ _ _ => raises_pure)

theorem readOnly_catching {α : Type} {handle : Error → Error} {f : Database → Except Error α} :
    ReadOnly (catching handle (query f) : Db α) :=
  always_catching (readOnly_query f)

theorem readOnly_readCredentials (connectionId : Id) :
    ReadOnly (CredentialsRepository.read connectionId) :=
  readOnly_bind readOnly_catching (fun _ => always_pure (fun _ => rfl) _)

theorem grows_bind {α β : Type} {x : Db α} {f : α → Db β} (hx : Always Grows x)
    (hf : ∀ a, Always Grows (f a)) : Always Grows (x >>= f) :=
  always_bind grows_trans hx hf

theorem grows_pure {α : Type} (a : α) : Always Grows (pure a : Db α) :=
  always_pure grows_refl a

section Endpoints

variable {now : Time} {sent : SendTask} {user : User} {db db' : Database}

/-! ## Connections -/

/-- Credentials that are there can be read and returned. -/
theorem not_raises_readCredentials {α : Type} {connectionId : Id} {row : AuthData} {e : Error}
    {f : AuthValue → α}
    (h : db.authData.filter (fun a => a.connectionId == connectionId) = [row]) :
    ¬ Raises (do
      let credentials ← CredentialsRepository.read connectionId
      return f credentials) db e db' :=
  not_raises_of_returns (returns_bind.mpr ⟨row.value, db,
    CredentialsRepository.returns_read.mpr ⟨⟨row, h, rfl⟩, rfl⟩, returns_pure.mpr ⟨rfl, rfl⟩⟩)

theorem cleanFailure_createConnection (body : CreateConnectionSchema) :
    CleanFailure Unchanged (createConnection now user body) := by
  refine cleanFailure_read (readOnly_query _) (fun _ => ?_)
  refine cleanFailure_check (cleanFailure_check ?_)
  refine cleanFailure_bind_total (cleanFailure_unitOfWork ?_) ?_
  · refine grows_bind (grows_insertNext _ _ _ _) (fun _ => ?_)
    exact grows_bind (always_catching (grows_insertRow _ _)) (fun _ => grows_pure _)
  · intro s c t e u h hraise
    simp only [unitOfWork, returns_atomically, returns_bind, returns_pure,
      CredentialsRepository.returns_create] at h
    rcases h with ⟨_, _, _, a, _, ⟨ha, hinsert⟩, rfl, rfl⟩
    have hcreds := filter_insertAuthData hinsert
    rw [ha] at hcreds
    exact not_raises_readCredentials hcreds hraise

theorem cleanFailure_updateConnection (connectionId : Id) (body : UpdateConnectionSchema) :
    CleanFailure Unchanged (updateConnection now user connectionId body) := by
  refine cleanFailure_read (readOnly_query _) (fun _ => ?_)
  refine cleanFailure_check (cleanFailure_check ?_)
  refine cleanFailure_bind_total (cleanFailure_unitOfWork ?_) ?_
  · refine grows_bind (always_catching (always_query grows_refl _)) (fun _ => ?_)
    refine grows_bind (always_query grows_refl _) (fun _ => ?_)
    refine grows_bind (always_raiseIf grows_refl _ _) (fun _ => ?_)
    refine grows_bind (grows_bind (always_catching (always_query grows_refl _))
      (fun _ => grows_pure _)) (fun _ => ?_)
    refine grows_bind (always_query grows_refl _) (fun _ => ?_)
    refine grows_bind (grows_update _ _ _ _) (fun _ => ?_)
    exact grows_bind (grows_update _ _ _ _) (fun _ => grows_pure _)
  · intro s c t e u h hraise
    simp only [unitOfWork, returns_atomically, returns_bind, returns_pure, returns_query,
      returns_raiseIf, ConnectionRepository.returns_readById, ConnectionRepository.returns_update,
      CredentialsRepository.returns_read, CredentialsRepository.returns_update, Except.ok.injEq,
      and_assoc, exists_and_left, exists_eq_left', exists_const] at h
    rcases h with ⟨_, _, _, _, _, _, _, _, _, _, a, _, ⟨old, hold, ha, hupdate⟩, rfl, rfl⟩
    have hkey : old.connectionId = connectionId := Table.key_of_filter_eq hold
    have haid : a.connectionId = connectionId := by
      rw [ha]
      exact hkey
    exact not_raises_readCredentials (filter_updateAuthData hold haid hupdate) hraise

theorem cleanFailure_deleteConnection (connectionId : Id) :
    CleanFailure Unchanged (deleteConnection user connectionId) := by
  refine cleanFailure_read (readOnly_query _) (fun _ => ?_)
  refine cleanFailure_check (cleanFailure_check ?_)
  refine cleanFailure_read readOnly_catching (fun _ => ?_)
  refine cleanFailure_read (readOnly_query _) (fun _ => ?_)
  exact cleanFailure_check (cleanFailure_return (cleanFailure_unitOfWork (grows_delete _ _ _)))

theorem cleanFailure_copyConnection (connectionId : Id) (body : ConnectionCopySchema) :
    CleanFailure Unchanged (copyConnection user connectionId body) := by
  refine cleanFailure_read (readOnly_query _) (fun _ => ?_)
  refine cleanFailure_check (cleanFailure_check ?_)
  refine cleanFailure_read (readOnly_query _) (fun _ => ?_)
  refine cleanFailure_check (cleanFailure_check ?_)
  refine cleanFailure_return (cleanFailure_unitOfWork ?_)
  refine grows_bind (grows_copy _ _ _ _ _) (fun _ => ?_)
  split
  · exact grows_bind (grows_delete _ _ _) (fun _ => grows_pure _)
  · exact grows_pure _

/-! ## Queues -/

theorem cleanFailure_createQueue (body : CreateQueueSchema) :
    CleanFailure Unchanged (createQueue now user body) := by
  refine cleanFailure_read (readOnly_query _) (fun _ => ?_)
  refine cleanFailure_check (cleanFailure_check ?_)
  exact cleanFailure_unitOfWork (grows_insertNext _ _ _ _)

theorem cleanFailure_updateQueue (queueId : Id) (body : UpdateQueueSchema) :
    CleanFailure Unchanged (updateQueue now user queueId body) := by
  refine cleanFailure_read (readOnly_query _) (fun _ => ?_)
  refine cleanFailure_check (cleanFailure_check ?_)
  exact cleanFailure_unitOfWork (grows_update _ _ _ _)

theorem cleanFailure_deleteQueue (queueId : Id) :
    CleanFailure Unchanged (deleteQueue user queueId) := by
  refine cleanFailure_read (readOnly_query _) (fun _ => ?_)
  refine cleanFailure_check (cleanFailure_check ?_)
  refine cleanFailure_read readOnly_catching (fun _ => ?_)
  refine cleanFailure_read (readOnly_query _) (fun _ => ?_)
  exact cleanFailure_check (cleanFailure_return (cleanFailure_unitOfWork (grows_delete _ _ _)))

/-! ## Transfers -/

theorem readOnly_checkTransferLinks (body : CreateTransferSchema)
    (target source : Connection) (queue : Queue) :
    ReadOnly (checkTransferLinks body target source queue) := by
  refine readOnly_bind (readOnly_raiseIf _ _) (fun _ => ?_)
  refine readOnly_bind (readOnly_raiseIf _ _) (fun _ => ?_)
  exact readOnly_bind (readOnly_raiseIf _ _) (fun _ => readOnly_raiseIf _ _)

theorem cleanFailure_createTransfer (body : CreateTransferSchema) :
    CleanFailure Unchanged (createTransfer now user body) := by
  refine cleanFailure_read (readOnly_query _) (fun _ => ?_)
  refine cleanFailure_check ?_
  refine cleanFailure_read readOnly_catching (fun _ => ?_)
  refine cleanFailure_read readOnly_catching (fun _ => ?_)
  refine cleanFailure_read readOnly_catching (fun _ => ?_)
  refine cleanFailure_read (readOnly_checkTransferLinks _ _ _ _) (fun _ => ?_)
  exact cleanFailure_unitOfWork (grows_insertNext _ _ _ _)

theorem cleanFailure_copyTransfer (transferId : Id) (body : CopyTransferSchema) :
    CleanFailure Unchanged (copyTransfer user transferId body) := by
  refine cleanFailure_read (readOnly_query _) (fun _ => ?_)
  refine cleanFailure_check (cleanFailure_check ?_)
  refine cleanFailure_read (readOnly_query _) (fun _ => ?_)
  refine cleanFailure_check ?_
  refine cleanFailure_read readOnly_catching (fun _ => ?_)
  refine cleanFailure_read (readOnly_query _) (fun _ => ?_)
  refine cleanFailure_check ?_
  refine cleanFailure_read (readOnly_query _) (fun _ => ?_)
  refine cleanFailure_check ?_
  refine cleanFailure_read readOnly_catching (fun _ => ?_)
  refine cleanFailure_check (cleanFailure_unitOfWork ?_)
  refine grows_bind (grows_copy _ _ _ _ _) (fun _ => grows_bind ?_ (fun _ => ?_))
  · split
    · exact grows_pure _
    · exact grows_copy _ _ _ _ _
  · refine grows_bind (grows_copy _ _ _ _ _) (fun _ => ?_)
    split
    · exact grows_bind (grows_delete _ _ _) (fun _ => grows_pure _)
    · exact grows_pure _

theorem cleanFailure_updateTransfer (transferId : Id) (body : CreateTransferSchema) :
    CleanFailure Unchanged (updateTransfer now user transferId body) := by
  refine cleanFailure_read (readOnly_query _) (fun _ => ?_)
  refine cleanFailure_check (cleanFailure_check ?_)
  refine cleanFailure_read readOnly_catching (fun _ => ?_)
  refine cleanFailure_read readOnly_catching (fun _ => ?_)
  refine cleanFailure_read readOnly_catching (fun _ => ?_)
  refine cleanFailure_read (readOnly_query _) (fun _ => ?_)
  refine cleanFailure_read (readOnly_query _) (fun _ => ?_)
  refine cleanFailure_check ?_
  refine cleanFailure_read (readOnly_checkTransferLinks _ _ _ _) (fun _ => ?_)
  exact cleanFailure_unitOfWork (grows_update _ _ _ _)

theorem cleanFailure_deleteTransfer (transferId : Id) :
    CleanFailure Unchanged (deleteTransfer user transferId) := by
  refine cleanFailure_read (readOnly_query _) (fun _ => ?_)
  refine cleanFailure_check (cleanFailure_check ?_)
  exact cleanFailure_return (cleanFailure_unitOfWork (grows_delete _ _ _))

/-! ## Groups -/

theorem cleanFailure_createGroup (body : CreateGroupSchema) :
    CleanFailure Unchanged (createGroup now user body) :=
  cleanFailure_unitOfWork (grows_insertNext _ _ _ _)

theorem cleanFailure_updateGroup (groupId : Id) (body : UpdateGroupSchema) :
    CleanFailure Unchanged (updateGroup now user groupId body) := by
  refine cleanFailure_read (readOnly_query _) (fun _ => ?_)
  refine cleanFailure_check (cleanFailure_check (cleanFailure_unitOfWork ?_))
  refine grows_bind (always_catching (always_query grows_refl _)) (fun _ => ?_)
  refine grows_bind (grows_update _ _ _ _) (fun _ => ?_)
  have hadd : ∀ ug : UserGroup,
      Always Grows (catching GroupRepository.raiseError (insertRow UserGroup.model ug)) :=
    fun ug => always_catching (grows_insertRow _ _)
  split
  · refine grows_bind (always_query grows_refl _) (fun _ => ?_)
    split
    · refine grows_bind (always_catching (grows_deleteRow _ _)) (fun _ => ?_)
      exact grows_bind (hadd _) (fun _ => grows_pure _)
    · exact grows_bind (hadd _) (fun _ => grows_pure _)
  · exact grows_pure _

theorem cleanFailure_deleteGroup (groupId : Id) :
    CleanFailure Unchanged (deleteGroup user groupId) :=
  cleanFailure_check (cleanFailure_return (cleanFailure_unitOfWork (grows_delete _ _ _)))

theorem cleanFailure_updateUserRoleGroup (groupId userId : Id) (body : AddUserSchema) :
    CleanFailure Unchanged (updateUserRoleGroup user groupId userId body) := by
  refine cleanFailure_read (readOnly_query _) (fun _ => ?_)
  refine cleanFailure_check (cleanFailure_check (cleanFailure_unitOfWork ?_))
  exact always_catching (grows_updateRow _ _ _)

theorem cleanFailure_addUserToGroup (groupId userId : Id) (body : AddUserSchema) :
    CleanFailure Unchanged (addUserToGroup user groupId userId body) := by
  refine cleanFailure_read (readOnly_query _) (fun _ => ?_)
  refine cleanFailure_check (cleanFailure_check ?_)
  refine cleanFailure_read readOnly_catching (fun _ => ?_)
  refine cleanFailure_check (cleanFailure_return (cleanFailure_unitOfWork ?_))
  exact always_catching (grows_insertRow _ _)

theorem cleanFailure_deleteUserFromGroup (groupId userId : Id) :
    CleanFailure Unchanged (deleteUserFromGroup user groupId userId) := by
  refine cleanFailure_read (readOnly_query _) (fun _ => ?_)
  refine cleanFailure_check (cleanFailure_check ?_)
  exact cleanFailure_return (cleanFailure_unitOfWork (always_catching (grows_deleteRow _ _)))

/-! ## Runs -/

theorem cleanFailure_createRun (transferId : Id) (source target : AuthValue) (type : RunType) :
    CleanFailure Unchanged (unitOfWork (RunRepository.create now transferId source target type)) := by
  refine cleanFailure_unitOfWork (grows_bind ?_ (fun _ => grows_insertNext _ _ _ _))
  refine grows_bind (always_query grows_refl _) (fun _ => ?_)
  refine grows_bind (always_query grows_refl _) (fun _ => ?_)
  exact grows_bind (always_query grows_refl _) (fun _ => grows_pure _)

/-- What a `createAndSendRun` that raises leaves behind: nothing, or, when
    `send_task` raised, the new run, marked as failed unless that was no `KombuError`
    or even the update raised. -/
theorem createAndSendRun_raises {transfer : Transfer} {type : RunType} {e : Error}
    (h : Raises (createAndSendRun now transfer type sent) db e db') :
    Unchanged db db' ∨
      ∃ run db₁, run.transferId = transfer.id ∧ checkedStep db (.insertRun run) db₁ ∧
        (Unchanged db₁ db' ∨
          ∃ failed : Run, failed.id = run.id ∧ failed.transferId = run.transferId ∧
            checkedStep db₁ (.updateRun failed) db') := by
  rcases raises_bind.mp h with hread | ⟨source, _, hsource, h⟩
  · exact Or.inl (cleanFailure_readOnly unchanged_refl (readOnly_readCredentials _) _ _ _ hread)
  rw [← (CredentialsRepository.returns_read.mp hsource).2] at h
  rcases raises_bind.mp h with hread | ⟨target, _, htarget, h⟩
  · exact Or.inl (cleanFailure_readOnly unchanged_refl (readOnly_readCredentials _) _ _ _ hread)
  rw [← (CredentialsRepository.returns_read.mp htarget).2] at h
  rcases raises_bind.mp h with hcreate | ⟨run, db₁, hrun, h⟩
  · exact Or.inl (cleanFailure_createRun _ _ _ _ _ _ _ hcreate)
  rcases RunRepository.returns_create (returns_atomically.mp hrun) with ⟨_, htid, _, _, hinsert⟩
  refine Or.inr ⟨run, db₁, htid, hinsert, ?_⟩
  cases sent with
  | returned => exact absurd h raises_pure
  | otherError =>
      rw [← (raises_throw.mp h).2]
      exact Or.inl (unchanged_refl db₁)
  | kombuError =>
  rcases raises_bind.mp h with hupdate | ⟨failed, _, hfailed, h⟩
  · exact Or.inl (cleanFailure_unitOfWork (grows_update _ _ _ _) _ _ _ hupdate)
  rw [(raises_throw.mp h).2] at hfailed
  rcases RunRepository.returns_update.mp (returns_atomically.mp hfailed) with
    ⟨old, hold, hvalues, hupdate⟩
  -- The row updated is the row just inserted.
  have hmem : run ∈ db₁.runs.filter (fun r => r.id == run.id) := by
    refine List.mem_filter.mpr ⟨?_, beq_self_eq_true _⟩
    rw [hinsert.2]
    exact List.mem_append_right _ (List.mem_singleton_self run)
  rw [hold, List.mem_singleton] at hmem
  refine Or.inr ⟨failed, ?_, ?_, hupdate⟩
  · rw [hvalues, hmem]
  · rw [hvalues, hmem]

theorem startRun_raises {body : CreateRunSchema} {e : Error}
    (h : Raises (startRun now sent user body) db e db') :
    Performs ⟨db, user, now, .startRun body⟩ db' := by
  have hread : ∀ {α : Type} {x : Db α} {e : Error}, ReadOnly x → Raises x db e db' →
      Performs ⟨db, user, now, .startRun body⟩ db' := by
    intro α x e hx hr
    rw [eq_of_raises hx hr]
    exact performs_none _
  -- What fails before the run is created has only read.
  rcases raises_bind.mp h with hr | ⟨_, _, hrole, h⟩
  · exact hread (readOnly_query _) hr
  rcases returns_query.mp hrole with ⟨hrole, rfl⟩
  cases hrole
  rcases raises_bind.mp h with hr | ⟨_, _, hcheck, h⟩
  · exact hread (readOnly_raiseIf _ _) hr
  rw [← (returns_raiseIf.mp hcheck).2] at h
  rcases raises_bind.mp h with hr | ⟨_, _, hcheck, h⟩
  · exact hread (readOnly_raiseIf _ _) hr
  rcases returns_raiseIf.mp hcheck with ⟨hwrite, rfl⟩
  rcases raises_bind.mp h with hr | ⟨t, _, htransfer, h⟩
  · exact hread readOnly_catching hr
  rcases TransferRepository.returns_readById.mp htransfer with ⟨ht, rfl⟩
  rcases raises_bind.mp h with hr | ⟨_, _, hqueue, h⟩
  · exact hread readOnly_catching hr
  rw [← (QueueRepository.returns_readById.mp hqueue).2] at h
  have hmay := permitted_of_resourcePermission ht none_lt_write hwrite
  have htmem : t ∈ db.transfers := (Table.mem_of_filter_eq ht).1
  -- A failed insertion leaves nothing but the sequence, which has moved on.
  rcases createAndSendRun_raises h with hclean | ⟨run, db₁, htid, hinsert, hrest⟩
  · exact performs_one (w := .advance _) trivial (unchanged_checkedStep hclean)
  have hcall : Performs ⟨db, user, now, .startRun body⟩ db₁ :=
    performs_one (w := .insertRun run) ⟨t, htmem, htid.symm, hmay⟩ hinsert
  rcases hrest with hclean | ⟨failed, hid, hfailed, hupdate⟩
  · exact performs_snoc hcall (w := .advance _) trivial (unchanged_checkedStep hclean)
  -- Celery did not take the task: the run is stored already, and is marked as failed.
  refine performs_snoc hcall (w := .updateRun failed) ⟨⟨run, ?_, hid.symm, hfailed.symm⟩, ?_⟩ hupdate
  · rw [hinsert.2]
    exact List.mem_append_right _ (List.mem_singleton_self run)
  · refine ⟨t, ?_, htid.symm.trans hfailed.symm, hmay⟩
    rw [hinsert.2]
    exact htmem

theorem cleanFailure_stopRun (runId : Id) :
    CleanFailure Unchanged (stopRun now user runId) := by
  refine cleanFailure_read (readOnly_query _) (fun _ => ?_)
  refine cleanFailure_read (readOnly_query _) (fun _ => ?_)
  refine cleanFailure_check (cleanFailure_check (cleanFailure_unitOfWork ?_))
  refine grows_bind (always_query grows_refl _) (fun _ => ?_)
  exact grows_bind (always_raiseIf grows_refl _ _) (fun _ => grows_updateRow _ _ _)

/-! ## All requests -/

/-- A request that fails changes nothing, but for a run whose message the broker
    refused. -/
theorem cleanFailure_handle {request : Request} (h : ∀ body, request ≠ .startRun body) :
    CleanFailure Unchanged (handle now sent user request) := by
  cases request with
  | read => exact cleanFailure_return (cleanFailure_readOnly unchanged_refl (readOnly_query _))
  | startRun body => exact absurd rfl (h body)
  | createConnection => exact cleanFailure_return (cleanFailure_createConnection _)
  | updateConnection => exact cleanFailure_return (cleanFailure_updateConnection _ _)
  | deleteConnection => exact cleanFailure_return (cleanFailure_deleteConnection _)
  | copyConnection => exact cleanFailure_return (cleanFailure_copyConnection _ _)
  | createQueue => exact cleanFailure_return (cleanFailure_createQueue _)
  | updateQueue => exact cleanFailure_return (cleanFailure_updateQueue _ _)
  | deleteQueue => exact cleanFailure_return (cleanFailure_deleteQueue _)
  | createTransfer => exact cleanFailure_return (cleanFailure_createTransfer _)
  | copyTransfer => exact cleanFailure_return (cleanFailure_copyTransfer _ _)
  | updateTransfer => exact cleanFailure_return (cleanFailure_updateTransfer _ _)
  | deleteTransfer => exact cleanFailure_return (cleanFailure_deleteTransfer _)
  | createGroup => exact cleanFailure_return (cleanFailure_createGroup _)
  | updateGroup => exact cleanFailure_return (cleanFailure_updateGroup _ _)
  | deleteGroup => exact cleanFailure_return (cleanFailure_deleteGroup _)
  | updateUserRoleGroup => exact cleanFailure_return (cleanFailure_updateUserRoleGroup _ _ _)
  | addUserToGroup => exact cleanFailure_return (cleanFailure_addUserToGroup _ _ _)
  | deleteUserFromGroup => exact cleanFailure_return (cleanFailure_deleteUserFromGroup _ _)
  | stopRun => exact cleanFailure_return (cleanFailure_stopRun _)

theorem handle_raises_performs {request : Request} {e : Error}
    (h : Raises (handle now sent user request) db e db') :
    Performs ⟨db, user, now, request⟩ db' := by
  by_cases hrun : ∃ body, request = .startRun body
  · rcases hrun with ⟨body, rfl⟩
    rcases raises_bind.mp h with h | ⟨_, _, _, h⟩
    · exact startRun_raises h
    · exact absurd h raises_pure
  · have hclean := cleanFailure_handle (fun body hb => hrun ⟨body, hb⟩) db e db' h
    exact performs_one (w := .advance _) trivial (unchanged_checkedStep hclean)

/-- However a request ends, it is a run of authorised writes. -/
theorem handle_after_performs (now : Time) (sent : SendTask) (user : User) (db : Database)
    (request : Request) :
    Performs ⟨db, user, now, request⟩ (after (handle now sent user request) db) := by
  rcases returns_or_raises (handle now sent user request) db with ⟨_, _, h⟩ | ⟨_, _, h⟩
  · rw [after_of_returns h]
    exact handle_performs h
  · rw [after_of_raises h]
    exact handle_raises_performs h

theorem returns_getUser {userId : Id} :
    Returns (getUser userId) db user db' ↔
      db.users.find? (fun u => u.id == userId) = some user ∧ user.isActive = true ∧ db = db' := by
  simp only [getUser, returns_bind, UserRepository.returns_readById, returns_raiseIf,
    returns_pure, Bool.not_eq_false, and_assoc, exists_and_left, exists_eq_left', exists_const]
  constructor
  · rintro ⟨u, hu, hactive, rfl, rfl⟩
    exact ⟨hu, hactive, rfl⟩
  · rintro ⟨hu, hactive, rfl⟩
    exact ⟨user, hu, hactive, rfl, rfl⟩

theorem readOnly_getUser (userId : Id) : ReadOnly (getUser userId) :=
  readOnly_bind (readOnly_query _) (fun _ =>
    readOnly_bind (readOnly_raiseIf _ _) (fun _ => always_pure (fun _ => rfl) _))

/-- A request of a known and active user is handled. -/
theorem after_api {userId : Id} {request : Request}
    (huser : db.users.find? (fun u => u.id == userId) = some user) (hactive : user.isActive = true) :
    after (api now sent userId request) db = after (handle now sent user request) db :=
  after_bind_of_returns (returns_getUser.mpr ⟨huser, hactive, rfl⟩)

/-- A request of anybody else does nothing. -/
theorem after_api_of_no_user {userId : Id} {request : Request}
    (h : ∀ user, db.users.find? (fun u => u.id == userId) = some user → user.isActive = false) :
    after (api now sent userId request) db = db := by
  rcases returns_or_raises (getUser userId) db with ⟨user, _, hret⟩ | ⟨_, _, hraise⟩
  · rcases returns_getUser.mp hret with ⟨huser, hactive, _⟩
    rw [h user huser] at hactive
    exact absurd hactive Bool.false_ne_true
  · rw [api, after_bind_of_raises hraise]
    exact eq_of_raises (readOnly_getUser userId) hraise

end Endpoints

end SyncMaster
