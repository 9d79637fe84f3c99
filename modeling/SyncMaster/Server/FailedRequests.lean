import SyncMaster.Server.Starts
import SyncMaster.Tenancy.SameGroup

/-!
# What Failed Requests Leave

Every write of an endpoint is inside one unit of work, so a request that fails
changes nothing, with one exception that is there on purpose. `start_run`
commits the new run before it asks the broker, and when the broker does not
take the message, a second unit of work marks the run as failed.

The second unit of work cannot fail itself: the run has a new identifier, so
the update finds one row, and the transfer was there when the run was
inserted. The run it leaves is the only trace, and the error says which.

But it is there for a `KombuError` only. When `send_task` raises anything else,
the request fails and the run stays behind as it was committed. This happens to
every request that comes to `send_task`, and `Request.Sends` says which do.

## Main definitions

* `NotRefused`: The error is not about the broker.
* `FailureEffect`: What a failed request is to leave.
* `Request.Sends`: The request comes to `send_task`.

## Theorems

* `raisesOnly_createRun`: Nothing before the broker is asked raises the error
  about it.
* `refused_leaves`: A refused message leaves one failed run.
* `raises_of_sends`: An exception that is no `KombuError` leaves a run.
* `failed_request_iff`: When a failed request leaves what it is to leave.
-/

namespace SyncMaster

open Program

/-- The error is not the one about the broker. -/
def NotRefused (e : Error) : Prop :=
  ∀ runId, e ≠ .cannotConnectToTaskQueueError runId

section Errors

variable {now : Time} {Row : Type}

theorem notRefused_one {rows : List Row} {e : Error} (h : one rows = .error e) : NotRefused e := by
  match rows with
  | [] =>
      cases h
      exact fun _ => Error.noConfusion
  | [_] => cases h
  | _ :: _ :: _ =>
      cases h
      exact fun _ => Error.noConfusion

theorem raisesOnly_readOne (f : Database → List Row) :
    RaisesOnly NotRefused (query (fun db => one (f db)) : Db Row) :=
  raisesOnly_query (fun _ _ => notRefused_one)

/-- Replacing `NoResultFound` by an error about the row that is missing. -/
theorem raisesOnly_notFoundAs {x : Db Row} {missing : Error} (hx : RaisesOnly NotRefused x)
    (hmissing : NotRefused missing) : RaisesOnly NotRefused (catching (notFoundAs missing) x) := by
  refine raisesOnly_catching hx (fun e he => ?_)
  unfold notFoundAs
  split
  · exact hmissing
  · exact he

theorem raisesOnly_readCredentials (connectionId : Id) :
    RaisesOnly NotRefused (CredentialsRepository.read connectionId) := by
  refine raisesOnly_bind (raisesOnly_notFoundAs (raisesOnly_readOne _) ?_)
    (fun _ => raisesOnly_pure _)
  exact fun _ => Error.noConfusion

/-- The only constraint of a run is its transfer. -/
theorem raisesOnly_insertRun (run : Run) :
    RaisesOnly NotRefused (catching RunRepository.raiseError (insertRow Run.model run)) := by
  have hconstraints : ∀ (db : Database) e,
      firstViolation (Run.model.constraints db (Run.model.rows db) run) = .error e →
      e = .integrityError .fkRunTransferIdTransfer := by
    intro db e h
    unfold firstViolation at h
    split at h
    · rename_i c hfind
      have hmem := List.mem_of_find?_eq_some hfind
      rw [List.mem_singleton.mp hmem] at h
      cases h
      rfl
    · cases h
  refine raisesOnly_catching (Q := fun e => e = .integrityError .fkRunTransferIdTransfer) ?_ ?_
  · refine raisesOnly_bind (raisesOnly_query hconstraints) (fun _ => ?_)
    exact raisesOnly_bind (raisesOnly_execute _) (fun _ => raisesOnly_pure _)
  · intro e he
    rw [he]
    exact fun _ => Error.noConfusion

theorem raisesOnly_createRun (transferId : Id) (source target : AuthValue) (type : RunType) :
    RaisesOnly NotRefused (unitOfWork (RunRepository.create now transferId source target type)) := by
  refine raisesOnly_atomically (raisesOnly_bind ?_ (fun _ => ?_))
  · refine raisesOnly_bind (raisesOnly_readOne _) (fun _ => ?_)
    refine raisesOnly_bind (raisesOnly_readOne _) (fun _ => ?_)
    exact raisesOnly_bind (raisesOnly_readOne _) (fun _ => raisesOnly_pure _)
  · refine raisesOnly_bind ?_ (fun _ => raisesOnly_insertRun _)
    refine raisesOnly_bind (raisesOnly_query (fun _ _ h => by cases h)) (fun _ => ?_)
    exact raisesOnly_bind (raisesOnly_execute _) (fun _ => raisesOnly_pure _)

end Errors

/-! ## A refused message -/

section Refused

variable {now : Time} {sent : SendTask} {db db' : Database}

/-- What a run that was refused by the broker adds. -/
structure Refused (db db' : Database) (run : Run) (transferId : Id) (e : Error) : Prop where
  error : e = .cannotConnectToTaskQueueError run.id
  transfer : run.transferId = transferId
  status : run.status = .failed
  isNew : ∀ r ∈ db.runs, r.id ≠ run.id
  tables : db'.toTables = { db.toTables with runs := db.runs ++ [run] }

/-- Marking the run that was just inserted as failed. -/
theorem updateRun_inserted (now : Time) {run : Run} {db₁ : Database} (hk : Keys db)
    (hinsert : checkedStep db (.insertRun run) db₁) (status : Status) :
    Returns (RunRepository.update now run.id status) db₁
      { run with status := status, updatedAt := now }
      (Write.apply db₁ (.updateRun { run with status := status, updatedAt := now })) ∧
    (Write.apply db₁ (.updateRun { run with status := status, updatedAt := now })).toTables =
      { db.toTables with runs := db.runs ++ [{ run with status := status, updatedAt := now }] } := by
  have hnew : ∀ r ∈ db.runs, (r.id == run.id) = false := fun r hr =>
    beq_eq_false_iff_ne.mpr (fresh_of_below hk.runsBelow hinsert.1.1 r hr)
  have hruns : db₁.runs = db.runs ++ [run] := by
    rw [hinsert.2]
    rfl
  have hfound : db₁.runs.filter (fun r => r.id == run.id) = [run] := by
    have hnone : db.runs.filter (fun r => r.id == run.id) = [] := by
      refine List.filter_eq_nil_iff.mpr (fun r hr => ?_)
      rw [hnew r hr]
      exact Bool.false_ne_true
    rw [hruns, List.filter_append, hnone, List.nil_append, List.filter_singleton,
      beq_self_eq_true, Bool.cond_true]
  have hchecked : checkedStep db₁ (.updateRun { run with status := status, updatedAt := now })
      (Write.apply db₁ (.updateRun { run with status := status, updatedAt := now })) := by
    refine ⟨?_, rfl⟩
    -- The transfer is still there.
    have hsatisfied := hinsert.1.2
    have htransfers : db₁.transfers = db.transfers := by
      rw [hinsert.2]
      rfl
    simp only [Write.Checked, Model.Satisfied, Run.model, List.forall_mem_cons] at hsatisfied ⊢
    rw [htransfers]
    exact hsatisfied
  refine ⟨RunRepository.returns_update.mpr ⟨run, hfound, rfl, hchecked⟩, ?_⟩
  have hupdate : Table.update (fun s => s.id == run.id)
      (fun _ => { run with status := status, updatedAt := now }) (db.runs ++ [run]) =
        db.runs ++ [{ run with status := status, updatedAt := now }] := by
    rw [Table.update, List.map_append, List.map_singleton, beq_self_eq_true, if_pos rfl]
    congr 1
    refine (List.map_congr_left (fun r hr => ?_)).trans (List.map_id db.runs)
    rw [hnew r hr, if_neg Bool.false_ne_true, id]
  rw [Write.apply, hinsert.2, Write.apply]
  simp only [hupdate]

/-- What a `createAndSendRun` that raises leaves: nothing, the failed run, or, when
    `send_task` raised what is no `KombuError`, the run of a transfer whose connections
    have credentials. -/
theorem refused_leaves {transfer : Transfer} {type : RunType} {e : Error} (hk : Keys db)
    (h : Raises (createAndSendRun now transfer type sent) db e db') :
    (Unchanged db db' ∧ NotRefused e) ∨ (∃ run, Refused db db' run transfer.id e) ∨
      (sent = .otherError ∧ HasCredentials db transfer.sourceConnectionId ∧
        HasCredentials db transfer.targetConnectionId) := by
  have hread : ∀ {α : Type} {x : Db α} {e : Error}, CleanFailure Unchanged x →
      RaisesOnly NotRefused x → Raises x db e db' → Unchanged db db' ∧ NotRefused e :=
    fun hx hr hraise => ⟨hx _ _ _ hraise, hr _ _ _ hraise⟩
  have hcredentials : ∀ connectionId,
      CleanFailure Unchanged (CredentialsRepository.read connectionId) :=
    fun _ => cleanFailure_readOnly unchanged_refl (readOnly_readCredentials _)
  -- What fails before the run is committed is rolled back, and is not the broker's doing.
  rcases raises_bind.mp h with hr | ⟨source, _, hsource, h⟩
  · exact Or.inl (hread (hcredentials _) (raisesOnly_readCredentials _) hr)
  rw [← (CredentialsRepository.returns_read.mp hsource).2] at h hsource
  rcases raises_bind.mp h with hr | ⟨target, _, htarget, h⟩
  · exact Or.inl (hread (hcredentials _) (raisesOnly_readCredentials _) hr)
  rw [← (CredentialsRepository.returns_read.mp htarget).2] at h htarget
  rcases raises_bind.mp h with hr | ⟨run, db₁, hrun, h⟩
  · exact Or.inl (hread (cleanFailure_createRun _ _ _ _) (raisesOnly_createRun _ _ _ _) hr)
  cases sent with
  | returned => exact absurd h raises_pure
  | otherError =>
      exact Or.inr (Or.inr ⟨rfl, hasCredentials_of_read hsource, hasCredentials_of_read htarget⟩)
  | kombuError =>
      rcases RunRepository.returns_create (returns_atomically.mp hrun) with
        ⟨hid, htransfer, _, _, hinsert⟩
      rcases updateRun_inserted now hk hinsert .failed with ⟨hupdate, htables⟩
      rcases raises_bind.mp h with hr | ⟨failed, _, hfailed, h⟩
      · -- The second unit of work cannot fail.
        exact absurd hr (not_raises_of_returns (returns_atomically.mpr hupdate))
      rcases raises_throw.mp h with ⟨he, hdb'⟩
      rw [hdb'] at hfailed
      have heq := (returns_atomically.mpr hupdate).symm.trans hfailed
      cases heq
      refine Or.inr (Or.inl ⟨_, he.symm, htransfer, rfl, ?_, htables⟩)
      exact fresh_of_below hk.runsBelow hinsert.1.1

end Refused

/-! ## A run that is left behind -/

section Sends

variable {user : User} {db : Database}

/-- The request comes to `send_task`: it is a `start_run` of a user who may, and both
    connections of the transfer have credentials. -/
def Request.Sends (db : Database) (userId : Id) : Request → Prop
  | .startRun body =>
      ∃ user, db.users.find? (fun u => u.id == userId) = some user ∧ user.isActive = true ∧
        ∃ t ∈ db.transfers, t.id = body.transferId ∧
          Permitted memberRights db user t.groupId .write ∧
          HasCredentials db t.sourceConnectionId ∧ HasCredentials db t.targetConnectionId
  | _ => False

theorem returns_readCredentials (hk : Keys db) {connectionId : Id}
    (h : HasCredentials db connectionId) :
    ∃ value, Returns (CredentialsRepository.read connectionId) db value db := by
  rcases h with ⟨a, ha, hid⟩
  have hone := Table.filter_key_eq (fun b : AuthData => b.connectionId) hk.authData ha hid
  exact ⟨a.value, CredentialsRepository.returns_read.mpr ⟨⟨a, hone, rfl⟩, rfl⟩⟩

/-- The rows that a dump is made of are there, so the run is created. -/
theorem returns_createRun (now : Time) (hdb : Consistent db) {t : Transfer} (ht : t ∈ db.transfers)
    (source target : AuthValue) (type : RunType) :
    ∃ run db₁, Returns (unitOfWork (RunRepository.create now t.id source target type)) db run db₁ ∧
      db₁.runs = db.runs ++ [run] := by
  rcases hdb.resourceLinks.transferSource t ht with ⟨c, hc, hcid⟩
  rcases hdb.resourceLinks.transferTarget t ht with ⟨d, hd, hdid⟩
  have htransfer := Table.filter_key_eq (fun r : Transfer => r.id) hdb.keys.transfers ht rfl
  have hsource := Table.filter_key_eq (fun e : Connection => e.id) hdb.keys.connections hc hcid
  have htarget := Table.filter_key_eq (fun e : Connection => e.id) hdb.keys.connections hd hdid
  have hexists : db.transfers.any (fun r => r.id == t.id) = true :=
    List.any_eq_true.mpr ⟨t, ht, beq_self_eq_true _⟩
  simp only [unitOfWork, returns_atomically, RunRepository.create,
    RunRepository.readFullSerializedTransfer, returns_bind, returns_query, one_eq_ok_iff,
    returns_pure, returns_nextval, returns_catching, returns_insertRow]
  refine ⟨_, _, ⟨_, db, ⟨t, db, ⟨htransfer, rfl⟩, c, db, ⟨hsource, rfl⟩, d, db, ⟨htarget, rfl⟩,
    rfl, rfl⟩, _, _, ⟨rfl, rfl⟩, ?_, rfl, rfl⟩, rfl⟩
  intro check hcheck
  rw [List.mem_singleton.mp hcheck]
  exact hexists

/-- `send_task` has raised what is no `KombuError`, and the new run stays. -/
theorem raises_createAndSendRun (now : Time) (hdb : Consistent db) {t : Transfer} (ht : t ∈ db.transfers)
    (hsource : HasCredentials db t.sourceConnectionId)
    (htarget : HasCredentials db t.targetConnectionId) (type : RunType) :
    ∃ run db₁, Raises (createAndSendRun now t type .otherError) db .sendTaskError db₁ ∧
      db₁.runs = db.runs ++ [run] := by
  rcases returns_readCredentials hdb.keys hsource with ⟨source, hsource⟩
  rcases returns_readCredentials hdb.keys htarget with ⟨target, htarget⟩
  rcases returns_createRun now hdb ht (readAuthData source) (readAuthData target) type with
    ⟨run, db₁, hrun, hruns⟩
  refine ⟨run, db₁, raises_bind.mpr (Or.inr ⟨source, db, hsource, ?_⟩), hruns⟩
  refine raises_bind.mpr (Or.inr ⟨target, db, htarget, ?_⟩)
  exact raises_bind.mpr (Or.inr ⟨run, db₁, hrun, raises_throw.mpr ⟨rfl, rfl⟩⟩)

theorem raises_startRun (now : Time) (hdb : Consistent db) {t : Transfer} (ht : t ∈ db.transfers)
    (hmay : Permitted memberRights db user t.groupId .write)
    (hsource : HasCredentials db t.sourceConnectionId)
    (htarget : HasCredentials db t.targetConnectionId) :
    ∃ run db₁, Raises (startRun now .otherError user { transferId := t.id }) db .sendTaskError db₁ ∧
      db₁.runs = db.runs ++ [run] := by
  rcases raises_createAndSendRun now hdb ht hsource htarget .manual with
    ⟨run, db₁, hraise, hruns⟩
  have hrow := Table.filter_key_eq (fun r : Transfer => r.id) hdb.keys.transfers ht rfl
  have hwrite : ¬ resourcePermission memberRights Transfer.model (·.toResourceMixin) db user t.id
      < .write := resourcePermission_of_permitted hdb.keys.userGroups hdb.keys.transfers ht hmay
  have hfound : resourcePermission memberRights Transfer.model (·.toResourceMixin) db user t.id
      ≠ .none := by
    intro hnone
    rw [hnone] at hwrite
    exact hwrite none_lt_write
  rcases hdb.resourceLinks.transferQueue t ht with ⟨q, hq, hqid⟩
  have hqueue := Table.filter_key_eq (fun r : Queue => r.id) hdb.keys.queues hq hqid
  refine ⟨run, db₁, ?_, hruns⟩
  refine raises_bind.mpr (Or.inr ⟨_, db, returns_query.mpr ⟨rfl, rfl⟩, ?_⟩)
  refine raises_bind.mpr (Or.inr ⟨(), db, returns_raiseIf.mpr ⟨hfound, rfl⟩, ?_⟩)
  refine raises_bind.mpr (Or.inr ⟨(), db, returns_raiseIf.mpr ⟨hwrite, rfl⟩, ?_⟩)
  refine raises_bind.mpr (Or.inr ⟨t, db, TransferRepository.returns_readById.mpr ⟨hrow, rfl⟩, ?_⟩)
  exact raises_bind.mpr
    (Or.inr ⟨q, db, QueueRepository.returns_readById.mpr ⟨hqueue, rfl⟩, hraise⟩)

/-- A request that comes to `send_task` leaves a run when that raises what is no
    `KombuError`. -/
theorem raises_of_sends (now : Time) (hdb : Consistent db) {userId : Id} {request : Request}
    (h : request.Sends db userId) :
    ∃ run db₁, Raises (api now .otherError userId request) db .sendTaskError db₁ ∧
      db₁.runs = db.runs ++ [run] := by
  cases request with
  | startRun body =>
      rcases h with ⟨user, hfind, hactive, t, ht, hid, hmay, hsource, htarget⟩
      rcases raises_startRun now hdb ht hmay hsource htarget with ⟨run, db₁, hraise, hruns⟩
      rw [hid] at hraise
      have huser : Returns (getUser userId) db user db :=
        returns_getUser.mpr ⟨hfind, hactive, rfl⟩
      exact ⟨run, db₁, raises_bind.mpr (Or.inr ⟨user, db, huser, raises_bind.mpr (Or.inl hraise)⟩),
        hruns⟩
  | _ => exact h.elim

end Sends

/-! ## All requests -/

/-- What a failed request is to leave: the tables as they were, or, when the broker
    refused the message of `start_run`, one more run, which has failed. -/
inductive FailureEffect (db : Database) (request : Request) (e : Error) (db' : Database) : Prop
  | unchanged : db'.toTables = db.toTables →
      (∀ body, request = .startRun body → NotRefused e) → FailureEffect db request e db'
  | refused {body : CreateRunSchema} {run : Run} : request = .startRun body →
      Refused db db' run body.transferId e → FailureEffect db request e db'

section Requests

variable {now : Time} {sent : SendTask} {user : User} {db db' : Database} {e : Error}

theorem startRun_failureEffect {body : CreateRunSchema} (hk : Keys db)
    (h : Raises (startRun now sent user body) db e db') :
    FailureEffect db (.startRun body) e db' ∨
      (sent = .otherError ∧ ∃ t ∈ db.transfers, t.id = body.transferId ∧
        Permitted memberRights db user t.groupId .write ∧
        HasCredentials db t.sourceConnectionId ∧ HasCredentials db t.targetConnectionId) := by
  have hread : ∀ {α : Type} {x : Db α} {e : Error} {left : Prop}, ReadOnly x →
      RaisesOnly NotRefused x → Raises x db e db' →
      FailureEffect db (.startRun body) e db' ∨ left := by
    intro α x e left hx hr hraise
    refine Or.inl (.unchanged ?_ (fun _ _ => hr _ _ _ hraise))
    rw [eq_of_raises hx hraise]
  have hpermission : RaisesOnly NotRefused
      (TransferRepository.getResourcePermission user body.transferId) :=
    raisesOnly_query (fun _ _ h => by cases h)
  have hcheck : ∀ {c : Prop} [Decidable c] {e : Error}, NotRefused e →
      RaisesOnly NotRefused (raiseIf c e : Db Unit) := fun he => raisesOnly_raiseIf he
  -- The checks of the endpoint read only, and raise errors of their own.
  rcases raises_bind.mp h with hr | ⟨_, _, hrole, h⟩
  · exact hread (readOnly_query _) hpermission hr
  rw [← (returns_query.mp hrole).2] at h
  rcases raises_bind.mp h with hr | ⟨_, _, hnone, h⟩
  · exact hread (readOnly_raiseIf _ _) (hcheck (fun _ => Error.noConfusion)) hr
  rw [← (returns_raiseIf.mp hnone).2] at h
  rcases raises_bind.mp h with hr | ⟨_, _, hwrite, h⟩
  · exact hread (readOnly_raiseIf _ _) (hcheck (fun _ => Error.noConfusion)) hr
  rw [← (returns_raiseIf.mp hwrite).2] at h
  rcases raises_bind.mp h with hr | ⟨t, _, htransfer, h⟩
  · exact hread readOnly_catching
      (raisesOnly_notFoundAs (raisesOnly_readOne _) (fun _ => Error.noConfusion)) hr
  rcases TransferRepository.returns_readById.mp htransfer with ⟨ht, hdb⟩
  rw [← hdb] at h
  rcases raises_bind.mp h with hr | ⟨_, _, hqueue, h⟩
  · exact hread readOnly_catching
      (raisesOnly_notFoundAs (raisesOnly_readOne _) (fun _ => Error.noConfusion)) hr
  rw [← (QueueRepository.returns_readById.mp hqueue).2] at h
  have htid : t.id = body.transferId := beq_iff_eq.mp (Table.mem_of_filter_eq ht).2
  have hnot := (returns_raiseIf.mp hwrite).1
  rw [← Except.ok.inj (returns_query.mp hrole).1] at hnot
  rcases refused_leaves hk h with ⟨hsame, hnot⟩ | ⟨run, hrefused⟩ | ⟨hother, hsource, htarget⟩
  · exact Or.inl (.unchanged hsame.1 (fun _ _ => hnot))
  · rw [htid] at hrefused
    exact Or.inl (.refused rfl hrefused)
  · exact Or.inr ⟨hother, t, (Table.mem_of_filter_eq ht).1, htid,
      permitted_of_resourcePermission ht none_lt_write hnot, hsource, htarget⟩

/-- The request has failed as it is to fail, or it has left the run that it was to
    send. -/
theorem failureEffect_or_sends (hdb : Consistent db) {userId : Id} {request : Request}
    (h : Raises (api now sent userId request) db e db') :
    FailureEffect db request e db' ∨ (sent = .otherError ∧ request.Sends db userId) := by
  rcases raises_bind.mp h with hr | ⟨user, _, huser, h⟩
  · refine Or.inl (.unchanged ?_ (fun _ _ => ?_))
    · rw [eq_of_raises (readOnly_getUser userId) hr]
    · rcases raises_bind.mp hr with hr | ⟨_, _, _, hr⟩
      · rcases raises_query.mp hr with ⟨hfind, _⟩
        split at hfind
        · cases hfind
          exact fun _ => Error.noConfusion
        · cases hfind
      · rcases raises_bind.mp hr with hr | ⟨_, _, _, hr⟩
        · exact raisesOnly_raiseIf (P := NotRefused) (fun _ => Error.noConfusion) _ _ _ hr
        · exact absurd hr raises_pure
  rcases returns_getUser.mp huser with ⟨hfind, hactive, hsame⟩
  rw [← hsame] at h
  by_cases hrun : ∃ body, request = .startRun body
  · rcases hrun with ⟨body, rfl⟩
    rcases raises_bind.mp h with h | ⟨_, _, _, h⟩
    · exact (startRun_failureEffect hdb.keys h).imp_right
        (fun hsends => ⟨hsends.1, user, hfind, hactive, hsends.2⟩)
    · exact absurd h raises_pure
  · have hstart : ∀ body, request ≠ .startRun body := fun body hb => hrun ⟨body, hb⟩
    exact Or.inl (.unchanged (cleanFailure_handle hstart db e db' h).1
      (fun body hb => absurd hb (hstart body)))

/-- What `start_run` leaves when `send_task` raises what is no `KombuError`. -/
theorem not_failureEffect_of_sends (hdb : Consistent db) {userId : Id} {request : Request}
    (hsends : request.Sends db userId)
    (h : Raises (api now .otherError userId request) db e db') : ¬ FailureEffect db request e db' := by
  rcases raises_of_sends now hdb hsends with ⟨run, db₁, hraise, hruns⟩
  cases hraise.symm.trans h
  intro heffect
  cases heffect with
  | unchanged htables =>
      have hsame : db'.runs = db.runs := by rw [htables]
      have hlength := congrArg List.length (hruns.symm.trans hsame)
      rw [List.length_append, List.length_singleton] at hlength
      omega
  | refused _ hrefused => cases hrefused.error

end Requests

end SyncMaster
