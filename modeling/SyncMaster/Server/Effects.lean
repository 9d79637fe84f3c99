import SyncMaster.Server.Outcomes

/-!
# Effects of the Requests

Every request that returns is a run of authorised writes.

`Write.Authorised` is the specification that the endpoints are measured
against: which reason the user needs for each elementary write, and what else
an endpoint has established by the time it writes. It is stated about the
database the request started from, since the permissions are checked there,
and about the database of the moment.

The outcomes of the requests are runs of such writes, and the invariants of
the later files are proved write by write: what an endpoint does with several
rows at once is the matter of the outcomes themselves.

## Main definitions

* `Call`: A request under way.
* `Write.Authorised`: What the endpoints establish before a write.
* `Performs`: A run of authorised writes.

## Theorems

* `outcome_performs`: What the endpoints have done is authorised.
* `handle_performs`: A request that returns is a run of authorised writes.
-/

namespace SyncMaster

open Program

/-- A request under way: the database it started from, the user, the clock
    reading and the request. -/
structure Call where
  start : Database
  user : User
  now : Time
  request : Request

/-- The user may change the group and its memberships. -/
def Call.Manages (call : Call) (groupId : Id) : Prop :=
  Permitted groupRights call.start call.user groupId .delete

/-- The user has the role in the group that a write of its connections,
    transfers and runs needs. -/
def Call.MayWrite (call : Call) (groupId : Id) (needed : Permission) : Prop :=
  Permitted memberRights call.start call.user groupId needed

namespace Write

/-- What the endpoints establish before a write. -/
def Authorised (call : Call) (db : Database) : Write → Prop
  | advance _ => True
  | insertUser _ | setSuperuser _ _ => False
  | insertGroup g => g.ownerId = call.user.id
  | updateGroup g => call.Manages g.id
  | deleteGroup _ => call.user.isSuperuser = true
  | insertUserGroup ug => call.Manages ug.groupId
  | updateUserGroup ug => call.Manages ug.groupId
  | deleteUserGroup ug =>
      call.Manages ug.groupId ∨
        (ug.userId = call.user.id ∧ Permitted groupRights call.start call.user ug.groupId .read)
  | insertConnection c => call.MayWrite c.groupId .write
  | updateConnection c =>
      call.MayWrite c.groupId .write ∧
        ∃ old ∈ db.connections, old.id = c.id ∧ old.groupId = c.groupId
  | deleteConnection c =>
      call.MayWrite c.groupId .delete ∧ db.transfers = call.start.transfers ∧
        (Unused db c ∨
          ∃ body : ConnectionCopySchema,
            call.request = .copyConnection c.id body ∧ body.removeSource = true)
  | insertAuthData a | updateAuthData a =>
      ∃ c ∈ db.connections, c.id = a.connectionId ∧ call.MayWrite c.groupId .write
  | insertQueue q => Permitted queueRights call.start call.user q.groupId .delete
  | updateQueue q =>
      Permitted queueRights call.start call.user q.groupId .delete ∧
        ∃ old ∈ db.queues, old.id = q.id ∧ old.groupId = q.groupId
  | deleteQueue q =>
      Permitted queueRights call.start call.user q.groupId .delete ∧
        call.request = .deleteQueue q.id ∧ db.transfers = call.start.transfers ∧
        TransferRepository.ofQueue db q.groupId q.id = []
  | insertTransfer t =>
      call.MayWrite t.groupId .write ∧ LinksIn db t t.groupId ∧
        (t.updatedAt = call.now ∨
          ∃ origin ∈ call.start.transfers, ∃ body,
            call.request = .copyTransfer origin.id body ∧ t.updatedAt = origin.updatedAt ∧
            t.isScheduled = origin.isScheduled ∧ t.schedule = origin.schedule)
  | updateTransfer t =>
      ∃ old ∈ db.transfers, ∃ body, call.request = .updateTransfer old.id body ∧
        db.transfers = call.start.transfers ∧
        t = TransferRepository.setColumns call.now body old ∧
        call.MayWrite old.groupId .write ∧ LinksIn db t body.groupId
  | deleteTransfer t => call.MayWrite t.groupId .delete
  | insertRun r => ∃ t ∈ db.transfers, t.id = r.transferId ∧ call.MayWrite t.groupId .write
  | updateRun r =>
      (∃ old ∈ db.runs, old.id = r.id ∧ old.transferId = r.transferId) ∧
        ∃ t ∈ db.transfers, t.id = r.transferId ∧ call.MayWrite t.groupId .write

end Write

/-- The transition system of the authorised writes. -/
def authorisedStep (call : Call) (db : Database) (w : Write) (db' : Database) : Prop :=
  w.Authorised call db ∧ checkedStep db w db'

/-- The request is a run of authorised writes that ends in the database. -/
def Performs (call : Call) (db' : Database) : Prop :=
  ∃ ws, Machine.Run (authorisedStep call) call.start ws db'

section Performs

variable {call : Call} {db' : Database} {w : Write}

theorem performs_none (call : Call) : Performs call call.start :=
  ⟨[], Machine.Run.nil call.start⟩

theorem performs_one (ha : w.Authorised call call.start) (hc : checkedStep call.start w db') :
    Performs call db' :=
  ⟨[w], Machine.run_single ⟨ha, hc⟩⟩

theorem performs_snoc {db : Database} (h : Performs call db) (ha : w.Authorised call db)
    (hc : checkedStep db w db') : Performs call db' := by
  rcases h with ⟨ws, hrun⟩
  exact ⟨ws ++ [w], Machine.run_snoc.mpr ⟨db, hrun, ha, hc⟩⟩

end Performs

section Endpoints

variable {now : Time} {sent : SendTask} {user : User} {db db' : Database} {request : Request}

/-! ## Connections -/

theorem connectionUpdated_performs {connectionId : Id} {body : UpdateConnectionSchema}
    {old : Connection} {stored : AuthData} {authData : AuthValue} {db₁ : Database}
    (h : ConnectionUpdated db user now connectionId body old stored authData db₁ db') :
    Performs ⟨db, user, now, request⟩ db' := by
  have hmay : Permitted memberRights db user old.groupId .write :=
    permitted_of_resourcePermission h.found none_lt_write h.permission
  have hmem : old ∈ db.connections := (Table.mem_of_filter_eq h.found).1
  have hid : old.id = connectionId := beq_iff_eq.mp (Table.mem_of_filter_eq h.found).2
  have hkey : stored.connectionId = connectionId := Table.key_of_filter_eq h.credentials
  have hrow : Performs ⟨db, user, now, request⟩ db₁ := by
    refine performs_one ?_ h.row
    exact ⟨hmay, old, hmem, rfl, rfl⟩
  refine performs_snoc hrow ?_ h.authData
  refine ⟨ConnectionRepository.updated now body old, ?_, ?_, hmay⟩
  · rw [h.row.2]
    exact Table.mem_update_self (f := fun _ => ConnectionRepository.updated now body old) hmem
      (beq_self_eq_true old.id)
  · exact hid.trans hkey.symm

theorem connectionCopied_performs {connectionId : Id} {body : ConnectionCopySchema}
    {origin : Connection} {db₁ : Database}
    (h : ConnectionCopied db user connectionId body origin db₁ db') :
    Performs ⟨db, user, now, .copyConnection connectionId body⟩ db' := by
  have hcopy : Performs ⟨db, user, now, .copyConnection connectionId body⟩ db₁ := by
    refine performs_one ?_ h.copy
    exact h.permission
  have hrest := h.rest
  by_cases hr : body.removeSource = true
  · rw [if_pos hr] at hrest
    have hid : origin.id = connectionId := beq_iff_eq.mp (Table.mem_of_filter_eq h.found).2
    refine performs_snoc hcopy (w := .deleteConnection origin)
      ⟨h.removal hr, ?_, Or.inr ⟨body, by rw [hid], hr⟩⟩ hrest
    exact (insertConnection_frame h.copy).1
  · rw [if_neg hr] at hrest
    rw [hrest]
    exact hcopy

/-! ## Transfers -/

theorem transferCopied_performs {transferId : Id} {body : CopyTransferSchema} {origin : Transfer}
    {sourceOrigin source target : Connection} {db₁ db₂ db₃ : Database}
    (h : TransferCopied db user transferId body origin sourceOrigin source target db₁ db₂ db₃ db') :
    Performs ⟨db, user, now, .copyTransfer transferId body⟩ db' := by
  rcases copies_frame h with ⟨_, hqueues, hsourceMem, htargetMem, htargetGroup⟩
  have hmay : Permitted memberRights db user body.newGroupId .write := h.permission
  have hsourceGroup : source.groupId = body.newGroupId := by
    rw [h.sourceCopy]
    rfl
  have hcall₁ : Performs ⟨db, user, now, .copyTransfer transferId body⟩ db₁ := by
    refine performs_one (w := .insertConnection source) ?_ h.sourceInserted
    rw [← hsourceGroup] at hmay
    exact hmay
  have hcall₂ : Performs ⟨db, user, now, .copyTransfer transferId body⟩ db₂ := by
    have htarget := h.targetCopy
    split at htarget
    · rw [htarget.2]
      exact hcall₁
    · rcases htarget with ⟨_, _, _, hinsert⟩
      refine performs_snoc hcall₁ (w := .insertConnection target) ?_ hinsert
      rw [← htargetGroup] at hmay
      exact hmay
  have horigin : origin ∈ db.transfers := (Table.mem_of_filter_eq h.found).1
  have horiginId : origin.id = transferId := beq_iff_eq.mp (Table.mem_of_filter_eq h.found).2
  -- The copies are in the new group, and so is the queue that the request names.
  have hcall₃ : Performs ⟨db, user, now, .copyTransfer transferId body⟩ db₃ := by
    refine performs_snoc hcall₂ ?_ h.copy
    refine ⟨hmay, ⟨?_, ?_, ?_⟩, Or.inr ?_⟩
    · exact ⟨source, hsourceMem, rfl, hsourceGroup⟩
    · exact ⟨target, htargetMem, rfl, htargetGroup⟩
    · rcases h.queue with ⟨queue, hqueue, hgroup⟩
      rw [hqueues]
      exact ⟨queue, (Table.mem_of_filter_eq hqueue).1,
        beq_iff_eq.mp (Table.mem_of_filter_eq hqueue).2, hgroup⟩
    · exact ⟨origin, horigin, body, by rw [horiginId], rfl, rfl, rfl⟩
  have hrest := h.rest
  by_cases hr : body.removeSource = true
  · rw [if_pos hr] at hrest
    exact performs_snoc hcall₃ (w := .deleteTransfer origin) (h.removal hr) hrest
  · rw [if_neg hr] at hrest
    rw [hrest]
    exact hcall₃

/-! ## Groups -/

theorem groupUpdated_performs {groupId : Id} {body : UpdateGroupSchema} {old : Group}
    {db₁ db₂ : Database} (h : GroupUpdated db user now groupId body old db₁ db₂ db') :
    Performs ⟨db, user, now, request⟩ db' := by
  have hid : old.id = groupId := beq_iff_eq.mp (Table.mem_of_filter_eq h.found).2
  have hmay : Permitted groupRights db user groupId .delete := h.permission
  have hcall₁ : Performs ⟨db, user, now, request⟩ db₁ := by
    refine performs_one ?_ h.row
    rw [← hid] at hmay
    exact hmay
  have hleft := h.left
  have hjoined := h.joined
  by_cases howner : old.ownerId = body.ownerId
  · rw [if_pos howner] at hleft hjoined
    rw [hjoined, hleft]
    exact hcall₁
  · rw [if_neg howner] at hleft hjoined
    -- A new owner leaves the members, if it was one, and the previous one joins them.
    have hcall₂ : Performs ⟨db, user, now, request⟩ db₂ := by
      split at hleft
      · rcases hleft with ⟨ug, hkey, hremove⟩
        refine performs_snoc hcall₁ (w := .deleteUserGroup ug) (Or.inl ?_) hremove
        rw [← hkey.1] at hmay
        exact hmay
      · rw [hleft]
        exact hcall₁
    refine performs_snoc hcall₂ ?_ hjoined
    exact hmay

/-! ## Runs -/

/-- A run was created, and the broker took it. -/
theorem returns_createAndSendRun {transfer : Transfer} {type : RunType} {run : Run}
    (h : Returns (createAndSendRun now transfer type sent) db run db') :
    sent = .returned ∧ run.transferId = transfer.id ∧ checkedStep db (.insertRun run) db' := by
  simp only [createAndSendRun, unitOfWork, returns_bind, returns_atomically,
    CredentialsRepository.returns_read, and_assoc, exists_and_left, exists_eq_left'] at h
  rcases h with ⟨_, _, _, _, created, db₁, hcreate, hrest⟩
  cases sent with
  | returned =>
      rcases returns_pure.mp hrest with ⟨rfl, rfl⟩
      rcases RunRepository.returns_create hcreate with ⟨_, ht, _, _, hinsert⟩
      exact ⟨rfl, ht, hinsert⟩
  -- When `send_task` raises, so does this.
  | kombuError =>
      rcases returns_bind.mp hrest with ⟨_, _, _, hthrow⟩
      exact absurd hthrow returns_throw
  | otherError => exact absurd hrest returns_throw

theorem startRun_performs {body : CreateRunSchema} {response : Run}
    (h : Returns (startRun now sent user body) db response db') :
    Performs ⟨db, user, now, .startRun body⟩ db' := by
  simp only [startRun, TransferRepository.getResourcePermission, returns_bind, returns_query,
    returns_raiseIf, TransferRepository.returns_readById, QueueRepository.returns_readById,
    Except.ok.injEq, and_assoc, exists_and_left, exists_eq_left', exists_const] at h
  rcases h with ⟨_, hwrite, t, ht, _, _, hcreate⟩
  rcases returns_createAndSendRun hcreate with ⟨_, htid, hinsert⟩
  exact performs_one (w := .insertRun response)
    ⟨t, (Table.mem_of_filter_eq ht).1, htid.symm,
      permitted_of_resourcePermission ht none_lt_write hwrite⟩ hinsert

theorem stopRun_performs {runId : Id} {response : Run}
    (h : Returns (stopRun now user runId) db response db') :
    Performs ⟨db, user, now, .stopRun runId⟩ db' := by
  simp only [stopRun, TransferRepository.getResourcePermission, unitOfWork, returns_bind,
    returns_query, returns_raiseIf, returns_atomically, RunRepository.returns_readById,
    RunRepository.returns_stop, Except.ok.injEq, and_assoc, exists_and_left, exists_eq_left',
    exists_const] at h
  rcases h with ⟨run, hrun, _, hwrite, _, _, _, old, hold, hr, hupdate⟩
  have hmem := List.mem_filter.mpr ⟨List.mem_of_find?_eq_some hrun, List.find?_some hrun⟩
  rw [hold, List.mem_singleton] at hmem
  rw [hmem] at hwrite
  rcases exists_permitted_of_resourcePermission none_lt_write hwrite with ⟨t, ht, htid, hmay⟩
  exact performs_one (w := .updateRun response)
    ⟨⟨old, (Table.mem_of_filter_eq hold).1, by rw [hr], by rw [hr]⟩,
      t, ht, by rw [hr]; exact htid, hmay⟩ hupdate

/-! ## All requests -/

/-- What the endpoints have done is authorised. -/
theorem outcome_performs (h : Outcome db user now db' request) (hr : ¬ request.OnRuns) :
    Performs ⟨db, user, now, request⟩ db' := by
  cases h with
  | onRuns h => exact absurd h hr
  | @createConnection body c a db₁ hmay hc ha hinsert hcreds =>
      have hgroup : c.groupId = body.groupId := by rw [hc]; rfl
      rw [← hgroup] at hmay
      -- The second write is authorised by the connection that the first has inserted.
      refine performs_snoc (performs_one (w := .insertConnection c) hmay hinsert)
        (w := .insertAuthData a) ⟨c, ?_, by rw [ha]; rfl, hmay⟩ hcreds
      rw [(insertConnection_frame hinsert).2.2]
      exact List.mem_append_right _ (List.mem_singleton_self c)
  | updateConnection hupdated => exact connectionUpdated_performs hupdated
  | deleteConnection _ hmay hunused hdelete =>
      exact performs_one (w := .deleteConnection _) ⟨hmay, rfl, Or.inl hunused⟩ hdelete
  | copyConnection hcopied => exact connectionCopied_performs hcopied
  | createQueue hmay _ hinsert => exact performs_one (w := .insertQueue _) hmay hinsert
  | updateQueue hold hmay hq hupdate =>
      refine performs_one (w := .updateQueue _) ?_ hupdate
      rw [hq]
      exact ⟨hmay, _, (Table.mem_of_filter_eq hold).1, rfl, rfl⟩
  | deleteQueue hq hmay hempty hdelete =>
      refine performs_one (w := .deleteQueue _) ⟨hmay, ?_, rfl, hempty⟩ hdelete
      rw [beq_iff_eq.mp (Table.mem_of_filter_eq hq).2]
  | createTransfer hmay hlinks ht hinsert =>
      refine performs_one (w := .insertTransfer _) ?_ hinsert
      -- A transfer that is no copy is stamped with the time of the request.
      rw [ht]
      exact ⟨hmay, linksIn_of_bodyLinks hlinks rfl rfl rfl, Or.inl rfl⟩
  | copyTransfer hcopied => exact transferCopied_performs hcopied
  | @updateTransfer transferId body old _ _ _ t hold hmay hlinks ht hupdate =>
      refine performs_one (w := .updateTransfer _) ⟨old, (Table.mem_of_filter_eq hold).1, body, ?_,
        rfl, ht, hmay, ?_⟩ hupdate
      · rw [beq_iff_eq.mp (Table.mem_of_filter_eq hold).2]
      · rw [ht]
        exact linksIn_of_bodyLinks hlinks rfl rfl rfl
  | deleteTransfer _ hmay hdelete => exact performs_one (w := .deleteTransfer _) hmay hdelete
  | createGroup hg hinsert =>
      refine performs_one (w := .insertGroup _) ?_ hinsert
      rw [hg]
      rfl
  | updateGroup hupdated => exact groupUpdated_performs hupdated
  | deleteGroup _ hsuper hdelete => exact performs_one (w := .deleteGroup _) hsuper hdelete
  | updateUserRoleGroup hmay _ hug hupdate =>
      refine performs_one (w := .updateUserGroup _) ?_ hupdate
      rw [hug]
      exact hmay
  | addUserToGroup _ _ hmay hug hinsert =>
      refine performs_one (w := .insertUserGroup _) ?_ hinsert
      rw [hug]
      exact hmay
  | @deleteUserFromGroup groupId userId ug hkey hmay hdelete =>
      refine performs_one (w := .deleteUserGroup ug) ?_ hdelete
      rcases hkey with ⟨rfl, rfl⟩
      exact hmay

/-- A request that returns is a run of authorised writes. -/
theorem handle_performs {response : Response}
    (h : Returns (handle now sent user request) db response db') :
    Performs ⟨db, user, now, request⟩ db' := by
  by_cases hr : request.OnRuns
  · cases request with
    | read answer =>
        rcases returns_bind.mp h with ⟨_, _, hquery, hresponse⟩
        rw [← (returns_pure.mp hresponse).2, ← (returns_query.mp hquery).2]
        exact performs_none _
    | startRun body =>
        rcases returns_bind.mp h with ⟨run, _, hrun, hresponse⟩
        rw [(returns_pure.mp hresponse).2] at hrun
        exact startRun_performs hrun
    | stopRun runId =>
        rcases returns_bind.mp h with ⟨run, _, hrun, hresponse⟩
        rw [(returns_pure.mp hresponse).2] at hrun
        exact stopRun_performs hrun
    | _ => exact hr.elim
  · exact outcome_performs (handle_outcome h) hr

end Endpoints

end SyncMaster
