import SyncMaster.Server.Api
import SyncMaster.Server.Permissions
import SyncMaster.Db.Writes

/-!
# Outcomes of the Requests

What a request that returns has established and what it has written, endpoint
by endpoint.

Each handler is inverted here, and nowhere else. The result is a record of the
rows that the reads found, the checks that were passed and the writes that
were made, in their order. An invariant is then a case analysis over the
requests, with the writes spelled out, and no proof about the service opens a
handler again.

A row that an endpoint computes from what it read is a definition of its own
(`ConnectionRepository.updated`, `TransferRepository.created` and so on), so
that the columns it sets are written once.

The requests that only read, and those on runs, are left out: what they write
is said in the file on runs.

## Main definitions

* `LinksIn`: The rows a transfer refers to are there, in the given group.
* `BodyLinks`: The rows that the body of a transfer names, as they were read.
* `ConnectionUpdated`, `TransferCopied`, `GroupUpdated`: The outcomes that take
  several writes.
* `Outcome`: The outcome of a request.
* `Request.Makes`, `Written`: The writes that a request may make.

## Theorems

* `returns_createConnection` and its siblings: One for each endpoint.
* `handle_outcome`: What a request that returns has done.
* `outcome_written`: An outcome as a run of such writes, for the arguments that
  only ask which tables are touched.
-/

namespace SyncMaster

open Program

/-- The connections and the queue that the transfer refers to exist and belong
    to the group. -/
structure LinksIn (db : Database) (t : Transfer) (groupId : Id) : Prop where
  source : ∃ c ∈ db.connections, c.id = t.sourceConnectionId ∧ c.groupId = groupId
  target : ∃ c ∈ db.connections, c.id = t.targetConnectionId ∧ c.groupId = groupId
  queue : ∃ q ∈ db.queues, q.id = t.queueId ∧ q.groupId = groupId

/-- No transfer uses the connection. -/
def Unused (db : Database) (c : Connection) : Prop :=
  ∀ t ∈ db.transfers, t.sourceConnectionId ≠ c.id ∧ t.targetConnectionId ≠ c.id

theorem none_lt_read : Permission.none < Permission.read := by decide

theorem none_lt_write : Permission.none < Permission.write := by decide

theorem none_lt_delete : Permission.none < Permission.delete := by decide

section Endpoints

variable {now : Time} {sent : SendTask} {user : User} {db db' : Database}

/-! ## Connections -/

/-- The row that `create_connection` inserts. -/
def ConnectionRepository.created (now : Time) (id : Id) (body : CreateConnectionSchema) :
    Connection where
  id := id
  groupId := body.groupId
  type := body.type
  name := body.name.val
  description := varchar 512 body.description
  data := body.data
  createdAt := now
  updatedAt := now

/-- The row that `update_connection` leaves. -/
def ConnectionRepository.updated (now : Time) (body : UpdateConnectionSchema) (old : Connection) :
    Connection :=
  { old with
    type := body.type
    name := body.name.val
    description := varchar 512 body.description
    data := body.data
    updatedAt := now }

/-- The columns hold the row that is inserted when they take the body. -/
theorem ConnectionRepository.created_columnsFit {id : Id} {body : CreateConnectionSchema} :
    (created now id body).ColumnsFit ↔ body.FitsColumns := by
  constructor
  · intro h
    exact ⟨fits_name_iff.mp h.name, storable_iff_fits.mpr h.description, h.data⟩
  · intro h
    exact ⟨fits_name_iff.mpr h.name, storable_iff_fits.mp h.description, h.data⟩

/-- Nor does it matter what the row was before. -/
theorem ConnectionRepository.updated_columnsFit {body : UpdateConnectionSchema}
    {old : Connection} : (updated now body old).ColumnsFit ↔ body.FitsColumns := by
  have hcreated : (created now old.id body).ColumnsFit ↔ body.FitsColumns := created_columnsFit
  rw [← hcreated]
  exact ⟨fun h => ⟨h.name, h.description, h.data⟩, fun h => ⟨h.name, h.description, h.data⟩⟩

/-- The credentials of a connection that is created. -/
def CredentialsRepository.created (now : Time) (connectionId : Id) (value : AuthValue) :
    AuthData where
  connectionId := connectionId
  value := value
  createdAt := now
  updatedAt := now

/-- The credentials that `update_connection` leaves. -/
def CredentialsRepository.updated (now : Time) (value : AuthValue) (old : AuthData) : AuthData :=
  { old with value := value, updatedAt := now }

/-- New credentials are the only ones of their connection. -/
theorem filter_insertAuthData {a : AuthData} (h : checkedStep db (.insertAuthData a) db') :
    db'.authData.filter (fun b => b.connectionId == a.connectionId) = [a] := by
  rcases h with ⟨hsatisfied, rfl⟩
  have hkey := hsatisfied _ List.mem_cons_self
  simp only [Bool.not_eq_true', List.any_eq_false, beq_iff_eq] at hkey
  have hnone : db.authData.filter (fun b => b.connectionId == a.connectionId) = [] :=
    List.filter_eq_nil_iff.mpr (fun b hb => by rw [beq_iff_eq]; exact hkey b hb)
  rw [Write.apply, List.filter_append, hnone, List.nil_append, List.filter_singleton,
    beq_self_eq_true, Bool.cond_true]

/-- Updated credentials are still the only ones of their connection. -/
theorem filter_updateAuthData {a old : AuthData} {connectionId : Id}
    (hold : db.authData.filter (fun b => b.connectionId == connectionId) = [old])
    (ha : a.connectionId = connectionId) (h : checkedStep db (.updateAuthData a) db') :
    db'.authData.filter (fun b => b.connectionId == connectionId) = [a] := by
  rcases h with ⟨_, rfl⟩
  subst ha
  exact Table.filter_update_of_filter hold (beq_self_eq_true _)

/-- What `create_connection` has established when it returns, and what it wrote. -/
theorem returns_createConnection {body : CreateConnectionSchema}
    {response : ReadConnectionSchema}
    (h : Returns (createConnection now user body) db response db') :
    ∃ c a db₁, Permitted memberRights db user body.groupId .write ∧
      c = ConnectionRepository.created now (db.sequences .connection) body ∧
      a = CredentialsRepository.created now c.id body.authData ∧
      response = readConnectionSchema c (some body.authData) ∧
      checkedStep db (.insertConnection c) db₁ ∧ checkedStep db₁ (.insertAuthData a) db' := by
  simp only [createConnection, ConnectionRepository.getGroupPermission, unitOfWork, returns_bind,
    returns_query, returns_raiseIf, returns_atomically, returns_pure,
    ConnectionRepository.returns_create, CredentialsRepository.returns_create,
    CredentialsRepository.returns_read, and_assoc, exists_and_left, exists_eq_left',
    exists_const] at h
  rcases h with ⟨p, hp, _, hwrite, _, _, ⟨c, hc, db₁, hinsert, a, ha, _, hcreds, rfl, rfl⟩,
    value, ⟨row, hrow, hvalue⟩, hresponse, rfl⟩
  -- The credentials read back are the ones just inserted.
  have honly := filter_insertAuthData hcreds
  have hid : a.connectionId = c.id := by rw [ha]
  rw [hid, hrow, List.singleton_inj] at honly
  have hstored : value = body.authData := by rw [← hvalue, honly, ha]
  exact ⟨c, a, db₁, permitted_of_groupPermission hp none_lt_write hwrite, hc, ha,
    by rw [← hresponse, hstored], hinsert, hcreds⟩

/-- The update of a connection and its credentials: the rows found, the checks
    passed, and the two writes. -/
structure ConnectionUpdated (db : Database) (user : User) (now : Time) (connectionId : Id)
    (body : UpdateConnectionSchema) (old : Connection) (stored : AuthData) (authData : AuthValue)
    (db₁ db' : Database) : Prop where
  found : db.connections.filter (fun c => c.id == connectionId) = [old]
  permission : ¬ resourcePermission memberRights Connection.model (·.toResourceMixin) db user
    connectionId < .write
  typeKept : body.type ≠ old.type → TransferRepository.listByConnectionId db connectionId = []
  credentials : db.authData.filter (fun a => a.connectionId == connectionId) = [stored]
  secrets : keepSecrets stored.value body.authData.type.secretFields body.authData = .ok authData
  row : checkedStep db (.updateConnection (ConnectionRepository.updated now body old)) db₁
  authData : checkedStep db₁
    (.updateAuthData (CredentialsRepository.updated now authData stored)) db'

/-- When `update_connection` returns, and what it wrote. -/
theorem returns_updateConnection {connectionId : Id} {body : UpdateConnectionSchema}
    {response : ReadConnectionSchema} :
    Returns (updateConnection now user connectionId body) db response db' ↔
      ∃ old stored authData db₁,
        ConnectionUpdated db user now connectionId body old stored authData db₁ db' ∧
        response = readConnectionSchema (ConnectionRepository.updated now body old)
          (some authData) := by
  have hunused : ∀ old : Connection,
      (¬ (body.type ≠ old.type ∧
        (TransferRepository.listByConnectionId db connectionId).isEmpty = false)) ↔
      (body.type ≠ old.type → TransferRepository.listByConnectionId db connectionId = []) := by
    intro old
    simp only [not_and, Bool.not_eq_false, List.isEmpty_iff]
  constructor
  · intro h
    simp only [updateConnection, ConnectionRepository.getResourcePermission, unitOfWork,
      returns_bind, returns_query, returns_raiseIf, returns_atomically, returns_pure,
      ConnectionRepository.returns_readById, ConnectionRepository.returns_update,
      CredentialsRepository.returns_read, CredentialsRepository.returns_update,
      Except.ok.injEq, and_assoc, exists_and_left, exists_eq_left', exists_const] at h
    rcases h with ⟨_, hwrite, _, _, ⟨old, hold, htype, _, ⟨stored, hstored, rfl⟩, authData,
      hkeep, c, db₁, ⟨old', hold', hc, hupdate⟩, a, _, ⟨stored', hstored', ha, hcreds⟩,
      rfl, rfl⟩, value, ⟨row, hrow, hvalue⟩, hresponse, rfl⟩
    rw [hold, List.singleton_inj] at hold'
    subst hold'
    have hauth : db₁.authData = db.authData := by rw [hupdate.2]; rfl
    rw [hauth, hstored, List.singleton_inj] at hstored'
    subst hstored'
    have hkey : stored.connectionId = connectionId := Table.key_of_filter_eq hstored
    -- The credentials read back are the ones just written.
    have hstored₁ : db₁.authData.filter (fun a => a.connectionId == connectionId) = [stored] := by
      rw [hauth, hstored]
    have hid : a.connectionId = connectionId := by
      rw [ha]
      exact hkey
    have honly := filter_updateAuthData hstored₁ hid hcreds
    rw [hrow, List.singleton_inj] at honly
    have hread : value = authData := by rw [← hvalue, honly, ha]
    refine ⟨old, stored, authData, db₁,
      ⟨hold, hwrite, (hunused old).mp htype, hstored, hkeep, ?_, ?_⟩, ?_⟩
    · rw [hc] at hupdate
      exact hupdate
    · rw [ha] at hcreds
      exact hcreds
    · rw [← hresponse, hread, hc]
      rfl
  · rintro ⟨old, stored, authData, db₁, h, rfl⟩
    have hnone : resourcePermission memberRights Connection.model (·.toResourceMixin) db user
        connectionId ≠ .none := fun hn => h.permission (hn ▸ none_lt_write)
    have hauth : db₁.authData = db.authData := by rw [h.row.2]; rfl
    have hstored₁ : db₁.authData.filter (fun a => a.connectionId == connectionId) = [stored] := by
      rw [hauth, h.credentials]
    have hkey : stored.connectionId = connectionId := Table.key_of_filter_eq h.credentials
    have hread := filter_updateAuthData
      (a := CredentialsRepository.updated now authData stored) hstored₁ hkey h.authData
    simp only [updateConnection, ConnectionRepository.getResourcePermission, unitOfWork,
      returns_bind, returns_query, returns_raiseIf, returns_atomically, returns_pure,
      ConnectionRepository.returns_readById, ConnectionRepository.returns_update,
      CredentialsRepository.returns_read, CredentialsRepository.returns_update,
      Except.ok.injEq, and_assoc, exists_and_left, exists_eq_left', exists_const]
    refine ⟨hnone, h.permission, _, db', ⟨old, h.found, (hunused old).mpr h.typeKept,
      stored.value, ⟨stored, h.credentials, rfl⟩, authData, h.secrets,
      ConnectionRepository.updated now body old, db₁, ⟨old, h.found, rfl, h.row⟩,
      CredentialsRepository.updated now authData stored, db', ⟨stored, hstored₁, rfl, h.authData⟩,
      rfl, rfl⟩, authData, ⟨_, hread, rfl⟩, rfl, rfl⟩

theorem unused_of_listByConnectionId {c : Connection}
    (h : TransferRepository.listByConnectionId db c.id = []) : Unused db c := by
  intro t ht
  have hnot := List.filter_eq_nil_iff.mp h t ht
  simp only [Bool.or_eq_true, beq_iff_eq, not_or] at hnot
  exact hnot

/-- What `delete_connection` has established when it returns, and what it wrote. -/
theorem returns_deleteConnection {connectionId : Id} {response : Unit}
    (h : Returns (deleteConnection user connectionId) db response db') :
    ∃ c, db.connections.filter (fun d => d.id == connectionId) = [c] ∧
      Permitted memberRights db user c.groupId .delete ∧ Unused db c ∧
      checkedStep db (.deleteConnection c) db' := by
  simp only [deleteConnection, ConnectionRepository.getResourcePermission, unitOfWork,
    returns_bind, returns_query, returns_raiseIf, returns_atomically, returns_pure,
    ConnectionRepository.returns_readById, ConnectionRepository.returns_delete,
    Except.ok.injEq, Bool.not_eq_false, List.isEmpty_iff, and_assoc, exists_and_left,
    exists_eq_left', exists_const] at h
  rcases h with ⟨_, hdelete, c, hc, hunused, c', hc', _, hwrite, _, rfl⟩
  have heq : c' = c := List.singleton_inj.mp (hc'.symm.trans hc)
  subst heq
  exact ⟨c', hc, permitted_of_resourcePermission hc none_lt_delete hdelete,
    unused_of_listByConnectionId hunused, hwrite⟩

/-- What `copy_connection` has established when it returns, and what it wrote. -/
theorem returns_copyConnection {connectionId : Id} {body : ConnectionCopySchema}
    {response : ReadConnectionSchema} :
    Returns (copyConnection user connectionId body) db response db' ↔
      resourcePermission memberRights Connection.model (·.toResourceMixin) db user connectionId
        ≠ .none ∧
      ¬ (body.removeSource = true ∧
        resourcePermission memberRights Connection.model (·.toResourceMixin) db user connectionId
          < .delete) ∧
      (∃ p, groupPermission memberRights db user body.newGroupId = .ok p ∧ ¬ p < .write) ∧
      ∃ origin, db.connections.filter (fun d => d.id == connectionId) = [origin] ∧
        ∃ c, c = ConnectionRepository.copied (db.sequences .connection) body.newGroupId
            (body.newName.map (·.val)) origin ∧
          response = readConnectionSchema c none ∧
          ∃ db₁, checkedStep db (.insertConnection c) db₁ ∧
            if body.removeSource = true then
              ∃ d, db₁.connections.filter (fun d => d.id == connectionId) = [d] ∧
                checkedStep db₁ (.deleteConnection d) db'
            else db' = db₁ := by
  -- From the code: each step of the endpoint is inverted, the row that was copied is named.
  constructor
  · intro h
    simp only [copyConnection, ConnectionRepository.getResourcePermission,
      ConnectionRepository.getGroupPermission, unitOfWork, returns_bind, returns_query,
      returns_raiseIf, returns_atomically, returns_pure, returns_ite,
      ConnectionRepository.returns_copy, ConnectionRepository.returns_delete, Except.ok.injEq,
      and_assoc, exists_and_left, exists_eq_left', exists_const] at h
    rcases h with ⟨hnone, hremove, p, hp, _, hwrite, _, _, ⟨c, db₁, ⟨origin, ho, hc, hinsert⟩,
      hrest⟩, rfl, rfl⟩
    refine ⟨hnone, hremove, ⟨p, hp, hwrite⟩, origin, ho, c, hc, ?_⟩
    by_cases hr : body.removeSource = true
    · rw [if_pos hr] at hrest
      rcases hrest with ⟨d, hd, _, hdelete, rfl, rfl⟩
      exact ⟨rfl, db₁, hinsert, by rw [if_pos hr]; exact ⟨d, hd, hdelete⟩⟩
    · rw [if_neg hr] at hrest
      rcases hrest with ⟨rfl, rfl⟩
      exact ⟨rfl, db₁, hinsert, by rw [if_neg hr]⟩
  · rintro ⟨hnone, hremove, ⟨p, hp, hwrite⟩, origin, ho, c, hc, rfl, db₁, hinsert, hrest⟩
    -- And back: what was established is put in for each step.
    have hp' : p ≠ .none := fun h => hwrite (h ▸ none_lt_write)
    simp only [copyConnection, ConnectionRepository.getResourcePermission,
      ConnectionRepository.getGroupPermission, unitOfWork, returns_bind, returns_query,
      returns_raiseIf, returns_atomically, returns_pure, returns_ite,
      ConnectionRepository.returns_copy, ConnectionRepository.returns_delete, Except.ok.injEq,
      and_assoc, exists_and_left, exists_eq_left', exists_const]
    refine ⟨hnone, hremove, p, hp, hp', hwrite, c, db', ⟨c, db₁, ⟨origin, ho, hc, hinsert⟩, ?_⟩,
      rfl, rfl⟩
    by_cases hr : body.removeSource = true
    · rw [if_pos hr] at hrest ⊢
      rcases hrest with ⟨d, hd, hdelete⟩
      exact ⟨d, hd, db', hdelete, rfl, rfl⟩
    · rw [if_neg hr] at hrest ⊢
      exact ⟨rfl, hrest.symm⟩

/-- What a later statement of the same request sees of an inserted connection. -/
theorem insertConnection_frame {c : Connection} (h : checkedStep db (.insertConnection c) db') :
    db'.transfers = db.transfers ∧ db'.queues = db.queues ∧
      db'.connections = db.connections ++ [c] := by
  rw [h.2]
  exact ⟨rfl, rfl, rfl⟩

/-- The row that a copy deletes is the original: the copy only stands behind
    it. -/
theorem eq_of_filter_append {Row : Type} {p : Row → Bool} {rows : List Row} {copy origin found : Row}
    (ho : rows.filter p = [origin]) (h : (rows ++ [copy]).filter p = [found]) : found = origin := by
  rw [List.filter_append, ho, List.cons_append, List.cons.injEq] at h
  exact h.1.symm

/-- The copy of a connection, and the deletion of the original if it was asked
    for. -/
structure ConnectionCopied (db : Database) (user : User) (connectionId : Id)
    (body : ConnectionCopySchema) (origin : Connection) (db₁ db' : Database) : Prop where
  found : db.connections.filter (fun c => c.id == connectionId) = [origin]
  permission : Permitted memberRights db user body.newGroupId .write
  removal : body.removeSource = true → Permitted memberRights db user origin.groupId .delete
  copy : checkedStep db (.insertConnection (ConnectionRepository.copied
    (db.sequences .connection) body.newGroupId (body.newName.map (·.val)) origin)) db₁
  rest : if body.removeSource = true then checkedStep db₁ (.deleteConnection origin) db'
    else db' = db₁

theorem copyConnection_outcome {connectionId : Id} {body : ConnectionCopySchema}
    {response : ReadConnectionSchema}
    (h : Returns (copyConnection user connectionId body) db response db') :
    ∃ origin db₁, ConnectionCopied db user connectionId body origin db₁ db' := by
  rcases returns_copyConnection.mp h with ⟨_, hremove, ⟨p, hp, hwrite⟩, origin, ho, c, hc, _,
    db₁, hinsert, hrest⟩
  subst hc
  refine ⟨origin, db₁, ho, permitted_of_groupPermission hp none_lt_write hwrite, ?_, hinsert, ?_⟩
  · intro hr
    exact permitted_of_resourcePermission ho none_lt_delete (fun hlt => hremove ⟨hr, hlt⟩)
  · by_cases hr : body.removeSource = true
    · rw [if_pos hr] at hrest ⊢
      rcases hrest with ⟨d, hd, hdelete⟩
      rw [(insertConnection_frame hinsert).2.2] at hd
      rw [eq_of_filter_append ho hd] at hdelete
      exact hdelete
    · rw [if_neg hr] at hrest ⊢
      exact hrest

/-! ## Queues -/

/-- The row that `create_queue` inserts. -/
def QueueRepository.created (now : Time) (id : Id) (queueData : CreateQueueSchema) : Queue where
  id := id
  name := queueData.name.val
  groupId := queueData.groupId
  description := varchar 512 queueData.description
  slug := queueData.slug
  createdAt := now
  updatedAt := now

/-- The row that `update_queue` leaves. The slug is not one of the columns that
    are set. -/
def QueueRepository.updated (now : Time) (queueData : UpdateQueueSchema) (old : Queue) : Queue :=
  { old with
    name := queueData.name.val
    description := varchar 512 queueData.description
    updatedAt := now }

theorem returns_createQueue {body : CreateQueueSchema} {response : Queue}
    (h : Returns (createQueue now user body) db response db') :
    Permitted queueRights db user response.groupId .delete ∧
      response = QueueRepository.created now (db.sequences .queue) body ∧
      checkedStep db (.insertQueue response) db' := by
  simp only [createQueue, QueueRepository.getGroupPermission, unitOfWork, returns_bind,
    returns_query, returns_raiseIf, returns_atomically, QueueRepository.returns_create,
    and_assoc, exists_and_left, exists_eq_left', exists_const] at h
  rcases h with ⟨p, hp, _, hdelete, hq, hwrite⟩
  refine ⟨?_, hq, hwrite⟩
  rw [hq]
  exact permitted_of_groupPermission hp none_lt_delete hdelete

theorem returns_updateQueue {queueId : Id} {body : UpdateQueueSchema} {response : Queue}
    (h : Returns (updateQueue now user queueId body) db response db') :
    ∃ old, db.queues.filter (fun q => q.id == queueId) = [old] ∧
      Permitted queueRights db user old.groupId .delete ∧
      response = QueueRepository.updated now body old ∧
      checkedStep db (.updateQueue response) db' := by
  simp only [updateQueue, QueueRepository.getResourcePermission, unitOfWork, returns_bind,
    returns_query, returns_raiseIf, returns_atomically, QueueRepository.returns_update,
    Except.ok.injEq, and_assoc, exists_and_left, exists_eq_left', exists_const] at h
  rcases h with ⟨_, hdelete, old, hold, hq, hwrite⟩
  exact ⟨old, hold, permitted_of_resourcePermission hold none_lt_delete hdelete, hq, hwrite⟩

/-- What `delete_queue` has established when it returns, and what it wrote. -/
theorem returns_deleteQueue {queueId : Id} {response : Unit} :
    Returns (deleteQueue user queueId) db response db' ↔
      ∃ queue, db.queues.filter (fun q => q.id == queueId) = [queue] ∧
        ¬ resourcePermission queueRights Queue.model (·.toResourceMixin) db user queueId
          < .delete ∧
        TransferRepository.ofQueue db queue.groupId queue.id = [] ∧
        checkedStep db (.deleteQueue queue) db' := by
  simp only [deleteQueue, QueueRepository.getResourcePermission, unitOfWork, returns_bind,
    returns_query, returns_raiseIf, returns_atomically, returns_pure,
    QueueRepository.returns_readById, QueueRepository.returns_delete, Except.ok.injEq,
    Bool.not_eq_false, List.isEmpty_iff, and_assoc, exists_and_left, exists_eq_left',
    exists_const]
  constructor
  · rintro ⟨_, hdelete, queue, hq, hempty, q, hq', _, hwrite, _, rfl⟩
    have heq : q = queue := List.singleton_inj.mp (hq'.symm.trans hq)
    subst heq
    exact ⟨q, hq, hdelete, hempty, hwrite⟩
  · rintro ⟨queue, hq, hdelete, hempty, hwrite⟩
    have hnone : resourcePermission queueRights Queue.model (·.toResourceMixin) db user queueId
        ≠ .none := fun h => hdelete (h ▸ none_lt_delete)
    exact ⟨hnone, hdelete, queue, hq, hempty, queue, hq, db', hwrite, trivial, rfl⟩

/-! ## Transfers -/

/-- The rows that the body of a transfer names, as they were read, and what the
    checks found about them. The group compared is the one in the body, whatever
    the group of the transfer is. -/
structure BodyLinks (db : Database) (body : CreateTransferSchema) (source target : Connection)
    (queue : Queue) : Prop where
  sourceRow : db.connections.filter (fun c => c.id == body.sourceConnectionId) = [source]
  targetRow : db.connections.filter (fun c => c.id == body.targetConnectionId) = [target]
  queueRow : db.queues.filter (fun q => q.id == body.queueId) = [queue]
  groups : source.groupId = body.groupId ∧ target.groupId = body.groupId ∧
    queue.groupId = body.groupId
  types : source.type = body.sourceParams.type ∧ target.type = body.targetParams.type

theorem returns_checkTransferLinks {body : CreateTransferSchema} {target source : Connection}
    {queue : Queue} {u : Unit} :
    Returns (checkTransferLinks body target source queue) db u db' ↔
      (source.groupId = body.groupId ∧ target.groupId = body.groupId ∧
        queue.groupId = body.groupId) ∧
      (source.type = body.sourceParams.type ∧ target.type = body.targetParams.type) ∧
      db = db' := by
  simp only [checkTransferLinks, returns_bind, returns_raiseIf, not_or, not_not, and_assoc,
    exists_and_left, exists_eq_left', exists_const]
  constructor
  · rintro ⟨_, ht, hs, htt, hst, hq, rfl⟩
    exact ⟨hs, ht, hq.symm, hst, htt, rfl⟩
  · rintro ⟨hs, ht, hq, hst, htt, rfl⟩
    exact ⟨ht.trans hs.symm, ht, hs, htt, hst, hq.symm, rfl⟩

/-- A transfer with the links of the body refers to the rows that were read. -/
theorem linksIn_of_bodyLinks {body : CreateTransferSchema} {source target : Connection}
    {queue : Queue} {t : Transfer} (h : BodyLinks db body source target queue)
    (hs : t.sourceConnectionId = body.sourceConnectionId)
    (ht : t.targetConnectionId = body.targetConnectionId) (hq : t.queueId = body.queueId) :
    LinksIn db t body.groupId where
  source := by
    rw [hs]
    exact ⟨source, (Table.mem_of_filter_eq h.sourceRow).1,
      beq_iff_eq.mp (Table.mem_of_filter_eq h.sourceRow).2, h.groups.1⟩
  target := by
    rw [ht]
    exact ⟨target, (Table.mem_of_filter_eq h.targetRow).1,
      beq_iff_eq.mp (Table.mem_of_filter_eq h.targetRow).2, h.groups.2.1⟩
  queue := by
    rw [hq]
    exact ⟨queue, (Table.mem_of_filter_eq h.queueRow).1,
      beq_iff_eq.mp (Table.mem_of_filter_eq h.queueRow).2, h.groups.2.2⟩

/-- What `create_transfer` has established when it returns, and what it wrote. -/
theorem returns_createTransfer {body : CreateTransferSchema} {response : Transfer}
    (h : Returns (createTransfer now user body) db response db') :
    ∃ source target queue, Permitted memberRights db user body.groupId .write ∧
      BodyLinks db body source target queue ∧
      response = TransferRepository.created now (db.sequences .transfer) body ∧
      checkedStep db (.insertTransfer response) db' := by
  simp only [createTransfer, TransferRepository.getGroupPermission, unitOfWork, returns_bind,
    returns_query, returns_raiseIf, returns_atomically, ConnectionRepository.returns_readById,
    QueueRepository.returns_readById, TransferRepository.returns_create, and_assoc,
    exists_and_left, exists_eq_left', exists_const] at h
  rcases h with ⟨p, hp, hwrite, target, htarget, source, hsource, queue, hqueue, _, _, hlinks,
    hresponse, hinsert⟩
  rcases returns_checkTransferLinks.mp hlinks with ⟨hgroups, htypes, rfl⟩
  exact ⟨source, target, queue, permitted_of_groupPermission hp none_lt_write hwrite,
    ⟨hsource, htarget, hqueue, hgroups, htypes⟩, hresponse, hinsert⟩

/-- What `update_transfer` has established when it returns, and what it wrote. -/
theorem returns_updateTransfer {transferId : Id} {body : CreateTransferSchema}
    {response : Transfer}
    (h : Returns (updateTransfer now user transferId body) db response db') :
    ∃ old source target queue, db.transfers.filter (fun t => t.id == transferId) = [old] ∧
      Permitted memberRights db user old.groupId .write ∧
      BodyLinks db body source target queue ∧
      response = TransferRepository.setColumns now body old ∧
      checkedStep db (.updateTransfer response) db' := by
  simp only [updateTransfer, TransferRepository.getResourcePermission,
    ConnectionRepository.getResourcePermission, unitOfWork, returns_bind, returns_query,
    returns_raiseIf, returns_atomically, ConnectionRepository.returns_readById,
    QueueRepository.returns_readById, TransferRepository.returns_update, Except.ok.injEq,
    and_assoc, exists_and_left, exists_eq_left', exists_const] at h
  rcases h with ⟨_, hwrite, target, htarget, source, hsource, queue, hqueue, _, _, _, hlinks,
    old, hold, hresponse, hupdate⟩
  rcases returns_checkTransferLinks.mp hlinks with ⟨hgroups, htypes, rfl⟩
  exact ⟨old, source, target, queue, hold,
    permitted_of_resourcePermission hold none_lt_write hwrite,
    ⟨hsource, htarget, hqueue, hgroups, htypes⟩, hresponse, hupdate⟩

/-- The copy of a transfer: the copies of its connections, the copy of the row,
    and the deletion of the original if it was asked for. -/
structure TransferCopied (db : Database) (user : User) (transferId : Id)
    (body : CopyTransferSchema) (origin : Transfer) (sourceOrigin source target : Connection)
    (db₁ db₂ db₃ db' : Database) : Prop where
  found : db.transfers.filter (fun t => t.id == transferId) = [origin]
  permission : Permitted memberRights db user body.newGroupId .write
  removal : body.removeSource = true → Permitted memberRights db user origin.groupId .delete
  queue : ∃ queue, db.queues.filter (fun q => q.id == body.newQueueId) = [queue] ∧
    queue.groupId = body.newGroupId
  sourceFound : db.connections.filter (fun c => c.id == origin.sourceConnectionId) = [sourceOrigin]
  sourceCopy : source = ConnectionRepository.copied (db.sequences .connection) body.newGroupId
    (body.newSourceConnectionName.map (·.val)) sourceOrigin
  sourceInserted : checkedStep db (.insertConnection source) db₁
  /-- The target is a second copy, or the first one again. -/
  targetCopy : if origin.sourceConnectionId = origin.targetConnectionId then
      target = source ∧ db₂ = db₁
    else ∃ targetOrigin,
      db₁.connections.filter (fun c => c.id == origin.targetConnectionId) = [targetOrigin] ∧
        target = ConnectionRepository.copied (db₁.sequences .connection) body.newGroupId
          (body.newTargetConnectionName.map (·.val)) targetOrigin ∧
        checkedStep db₁ (.insertConnection target) db₂
  copy : checkedStep db₂ (.insertTransfer (TransferRepository.copied (db₂.sequences .transfer)
    body.newQueueId body.newGroupId source.id target.id (body.newName.map (·.val)) origin)) db₃
  rest : if body.removeSource = true then checkedStep db₃ (.deleteTransfer origin) db'
    else db' = db₃

/-- Copying the connections touches nothing else that the request looks at. -/
theorem copies_frame {transferId : Id} {body : CopyTransferSchema} {origin : Transfer}
    {sourceOrigin source target : Connection} {db₁ db₂ db₃ : Database}
    (h : TransferCopied db user transferId body origin sourceOrigin source target db₁ db₂ db₃ db') :
    db₂.transfers = db.transfers ∧ db₂.queues = db.queues ∧ source ∈ db₂.connections ∧
      target ∈ db₂.connections ∧ target.groupId = body.newGroupId := by
  rcases insertConnection_frame h.sourceInserted with ⟨ht₁, hq₁, hc₁⟩
  have hsource : source ∈ db₁.connections := by
    rw [hc₁]
    exact List.mem_append_right _ (List.mem_singleton_self source)
  have hcopy := h.targetCopy
  split at hcopy
  · rcases hcopy with ⟨rfl, rfl⟩
    exact ⟨ht₁, hq₁, hsource, hsource, by rw [h.sourceCopy]; rfl⟩
  · rcases hcopy with ⟨_, _, htarget, hinsert⟩
    rcases insertConnection_frame hinsert with ⟨ht₂, hq₂, hc₂⟩
    refine ⟨ht₂.trans ht₁, hq₂.trans hq₁, ?_, ?_, by rw [htarget]; rfl⟩
    · rw [hc₂]
      exact List.mem_append_left _ hsource
    · rw [hc₂]
      exact List.mem_append_right _ (List.mem_singleton_self target)

/-- What `copy_transfer` has established when it returns, and what it wrote. -/
theorem returns_copyTransfer {transferId : Id} {body : CopyTransferSchema} {response : Transfer}
    (h : Returns (copyTransfer user transferId body) db response db') :
    ∃ origin sourceOrigin source target db₁ db₂ db₃,
      TransferCopied db user transferId body origin sourceOrigin source target db₁ db₂ db₃ db' := by
  simp only [copyTransfer, TransferRepository.getResourcePermission,
    TransferRepository.getGroupPermission, ConnectionRepository.getResourcePermission, unitOfWork,
    returns_bind, returns_query, returns_raiseIf, returns_atomically, returns_pure, returns_ite,
    TransferRepository.returns_readById, QueueRepository.returns_readById,
    ConnectionRepository.returns_copy, TransferRepository.returns_copy,
    TransferRepository.returns_delete, Except.ok.injEq, and_assoc, exists_and_left,
    exists_eq_left', exists_const] at h
  rcases h with ⟨_, hremove, p, hp, hwrite, transfer, htransfer, _, _, queue, hqueue, hqueueGroup,
    source, db₁, ⟨sourceOrigin, hsourceOrigin, hsource, hinsertSource⟩, target, db₂, htarget,
    copied, db₃, ⟨origin, horigin, hcopied, hinsert⟩, hrest⟩
  have htargetCopy : if transfer.sourceConnectionId = transfer.targetConnectionId then
      target = source ∧ db₂ = db₁
    else ∃ targetOrigin,
      db₁.connections.filter (fun c => c.id == transfer.targetConnectionId) = [targetOrigin] ∧
        target = ConnectionRepository.copied (db₁.sequences .connection) body.newGroupId
          (body.newTargetConnectionName.map (·.val)) targetOrigin ∧
        checkedStep db₁ (.insertConnection target) db₂ := by
    by_cases hsame : transfer.sourceConnectionId = transfer.targetConnectionId
    · rw [if_pos hsame] at htarget ⊢
      exact ⟨htarget.1.symm, htarget.2.symm⟩
    · rw [if_neg hsame] at htarget ⊢
      exact htarget
  have ht₂ : db₂.transfers = db.transfers := by
    have ht₁ := (insertConnection_frame hinsertSource).1
    split at htargetCopy
    · rw [htargetCopy.2, ht₁]
    · rcases htargetCopy with ⟨_, _, _, hinsertTarget⟩
      rw [(insertConnection_frame hinsertTarget).1, ht₁]
  -- The row copied is the row read first.
  rw [ht₂, htransfer, List.singleton_inj] at horigin
  subst horigin hcopied
  refine ⟨transfer, sourceOrigin, source, target, db₁, db₂, db₃, htransfer,
    permitted_of_groupPermission hp none_lt_write hwrite, ?_,
    ⟨queue, hqueue, not_not.mp hqueueGroup⟩, hsourceOrigin, hsource, hinsertSource, htargetCopy,
    hinsert, ?_⟩
  · intro hr
    exact permitted_of_resourcePermission htransfer none_lt_delete (fun hlt => hremove ⟨hr, hlt⟩)
  · by_cases hr : body.removeSource = true
    · rw [if_pos hr] at hrest ⊢
      rcases hrest with ⟨t, ht, _, hdelete, _, rfl⟩
      rw [hinsert.2, Write.apply, ht₂] at ht
      rw [eq_of_filter_append htransfer ht] at hdelete
      exact hdelete
    · rw [if_neg hr] at hrest ⊢
      exact hrest.2.symm

theorem returns_deleteTransfer {transferId : Id} {response : Unit}
    (h : Returns (deleteTransfer user transferId) db response db') :
    ∃ t, db.transfers.filter (fun r => r.id == transferId) = [t] ∧
      Permitted memberRights db user t.groupId .delete ∧
      checkedStep db (.deleteTransfer t) db' := by
  simp only [deleteTransfer, TransferRepository.getResourcePermission, unitOfWork, returns_bind,
    returns_query, returns_raiseIf, returns_atomically, returns_pure,
    TransferRepository.returns_delete, Except.ok.injEq, and_assoc, exists_and_left,
    exists_eq_left', exists_const] at h
  rcases h with ⟨_, hdelete, t, ht, _, hwrite, _, rfl⟩
  exact ⟨t, ht, permitted_of_resourcePermission ht none_lt_delete hdelete, hwrite⟩

/-! ## Groups -/

/-- The row that `create_group` inserts. -/
def GroupRepository.created (now : Time) (id : Id) (groupData : CreateGroupSchema)
    (ownerId : Id) : Group where
  id := id
  name := groupData.name.val
  description := varchar 512 groupData.description
  ownerId := ownerId
  createdAt := now
  updatedAt := now

/-- The row that `update_group` leaves. -/
def GroupRepository.updated (now : Time) (groupData : UpdateGroupSchema) (old : Group) : Group :=
  { old with
    name := groupData.name.val
    description := varchar 512 groupData.description
    ownerId := groupData.ownerId
    updatedAt := now }

/-- The columns hold the row that is inserted when they take the body. -/
theorem GroupRepository.created_columnsFit {id ownerId : Id} {body : CreateGroupSchema} :
    (created now id body ownerId).ColumnsFit ↔ body.FitsColumns := by
  constructor
  · intro h
    exact ⟨fits_name_iff.mp h.name, storable_iff_fits.mpr h.description⟩
  · intro h
    exact ⟨fits_name_iff.mpr h.name, storable_iff_fits.mp h.description⟩

theorem returns_createGroup {body : CreateGroupSchema} {response : Group}
    (h : Returns (createGroup now user body) db response db') :
    response = GroupRepository.created now (db.sequences .group) body user.id ∧
      checkedStep db (.insertGroup response) db' := by
  simp only [createGroup, unitOfWork, returns_atomically, GroupRepository.returns_create] at h
  exact h

/-- The update of a group. When the owner changes, the membership of the new
    owner goes and the previous owner becomes a guest. -/
structure GroupUpdated (db : Database) (user : User) (now : Time) (groupId : Id)
    (body : UpdateGroupSchema) (old : Group) (db₁ db₂ db' : Database) : Prop where
  found : db.groups.filter (fun g => g.id == groupId) = [old]
  permission : Permitted groupRights db user groupId .delete
  row : checkedStep db (.updateGroup (GroupRepository.updated now body old)) db₁
  /-- The new owner may have been no member. -/
  left : if old.ownerId = body.ownerId then db₂ = db₁
    else if ∃ ug ∈ db₁.userGroups, ug.groupId = groupId ∧ ug.userId = body.ownerId then
      ∃ ug, (ug.groupId = groupId ∧ ug.userId = body.ownerId) ∧
        checkedStep db₁ (.deleteUserGroup ug) db₂
    else db₂ = db₁
  joined : if old.ownerId = body.ownerId then db' = db₂
    else checkedStep db₂ (.insertUserGroup ⟨old.ownerId, groupId, .guest⟩) db'

/-- Whether `get_user_group` finds a row. -/
theorem isSome_find_membership {groupId userId : Id} {rows : List UserGroup} :
    (rows.find? (GroupRepository.isMembership groupId userId)).isSome = true ↔
      ∃ ug ∈ rows, ug.groupId = groupId ∧ ug.userId = userId := by
  rw [List.find?_isSome]
  refine exists_congr (fun ug => and_congr_right (fun _ => ?_))
  exact GroupRepository.isMembership_iff

theorem returns_updateGroup {groupId : Id} {body : UpdateGroupSchema} {response : Group}
    (h : Returns (updateGroup now user groupId body) db response db') :
    ∃ old db₁ db₂, GroupUpdated db user now groupId body old db₁ db₂ db' := by
  simp only [updateGroup, GroupRepository.getGroupPermission, unitOfWork, returns_bind,
    returns_query, returns_raiseIf, returns_atomically, returns_pure, returns_ite,
    GroupRepository.returns_readById, GroupRepository.returns_update,
    GroupRepository.returns_getUserGroup, GroupRepository.returns_deleteUser,
    GroupRepository.returns_addUser, and_assoc, exists_and_left, exists_eq_left',
    exists_const] at h
  rcases h with ⟨p, hp, _, hdelete, previous, hprevious, g, db₁, ⟨old, hold, hg, hupdate⟩, hrest⟩
  have hmay : Permitted groupRights db user groupId .delete :=
    permitted_of_groupPermission hp none_lt_delete hdelete
  rw [hold, List.singleton_inj] at hprevious
  subst hprevious
  have hrow : checkedStep db (.updateGroup (GroupRepository.updated now body old)) db₁ := by
    rw [hg] at hupdate
    exact hupdate
  -- `if previous_owner_id != group_data.owner_id`: only then do the members change.
  by_cases howner : old.ownerId = body.ownerId
  · rw [if_neg (not_not.mpr howner)] at hrest
    refine ⟨old, db₁, db₁, hold, hmay, hrow, ?_, ?_⟩
    · rw [if_pos howner]
    · rw [if_pos howner]
      exact hrest.2.symm
  · rw [if_pos howner] at hrest
    -- The new owner is removed from the members only where it is found among them.
    by_cases hmember : ∃ ug ∈ db₁.userGroups, ug.groupId = groupId ∧ ug.userId = body.ownerId
    · rw [if_pos (isSome_find_membership.mpr hmember)] at hrest
      rcases hrest with ⟨ug, hgid, hu, db₂, hremove, added, hadded, _, hinsert, _, rfl⟩
      subst hadded
      refine ⟨old, db₁, db₂, hold, hmay, hrow, ?_, ?_⟩
      · rw [if_neg howner, if_pos hmember]
        exact ⟨ug, ⟨hgid, hu⟩, hremove⟩
      · rw [if_neg howner]
        exact hinsert
    · rw [if_neg (fun hsome => hmember (isSome_find_membership.mp hsome))] at hrest
      rcases hrest with ⟨added, hadded, _, hinsert, _, rfl⟩
      subst hadded
      refine ⟨old, db₁, db₁, hold, hmay, hrow, ?_, ?_⟩
      · rw [if_neg howner, if_neg hmember]
      · rw [if_neg howner]
        exact hinsert

theorem returns_deleteGroup {groupId : Id} {response : Unit}
    (h : Returns (deleteGroup user groupId) db response db') :
    ∃ g, db.groups.filter (fun h => h.id == groupId) = [g] ∧ user.isSuperuser = true ∧
      checkedStep db (.deleteGroup g) db' := by
  simp only [deleteGroup, unitOfWork, returns_bind, returns_raiseIf, returns_atomically,
    returns_pure, GroupRepository.returns_delete, Bool.not_eq_false, and_assoc, exists_and_left,
    exists_eq_left', exists_const] at h
  rcases h with ⟨hsuper, g, hg, _, hdelete, _, rfl⟩
  exact ⟨g, hg, hsuper, hdelete⟩

theorem returns_updateUserRoleGroup {groupId userId : Id} {body : AddUserSchema}
    {response : UserGroup}
    (h : Returns (updateUserRoleGroup user groupId userId body) db response db') :
    Permitted groupRights db user groupId .delete ∧
      (∃ old, db.userGroups.filter (GroupRepository.isMembership groupId userId) = [old]) ∧
      response = { groupId := groupId, userId := userId, role := body.role } ∧
      checkedStep db (.updateUserGroup response) db' := by
  simp only [updateUserRoleGroup, GroupRepository.getGroupPermission, unitOfWork, returns_bind,
    returns_query, returns_raiseIf, returns_atomically, GroupRepository.returns_updateMemberRole,
    and_assoc, exists_and_left, exists_eq_left', exists_const] at h
  rcases h with ⟨p, hp, _, hdelete, hug, hold, hupdate⟩
  exact ⟨permitted_of_groupPermission hp none_lt_delete hdelete, hold, hug, hupdate⟩

theorem returns_addUserToGroup {groupId userId : Id} {body : AddUserSchema} {response : Unit}
    (h : Returns (addUserToGroup user groupId userId body) db response db') :
    ∃ g, db.groups.filter (fun h => h.id == groupId) = [g] ∧ g.ownerId ≠ userId ∧
      Permitted groupRights db user groupId .delete ∧
      checkedStep db
        (.insertUserGroup { groupId := groupId, userId := userId, role := body.role }) db' := by
  simp only [addUserToGroup, GroupRepository.getGroupPermission, unitOfWork, returns_bind,
    returns_query, returns_raiseIf, returns_atomically, returns_pure,
    GroupRepository.returns_readById, GroupRepository.returns_addUser, and_assoc,
    exists_and_left, exists_eq_left', exists_const] at h
  rcases h with ⟨p, hp, _, hdelete, g, hg, hne, ug, rfl, _, hinsert, _, rfl⟩
  exact ⟨g, hg, hne, permitted_of_groupPermission hp none_lt_delete hdelete, hinsert⟩

theorem not_lt_read_of_ne_none {p : Permission} (h : p ≠ .none) : ¬ p < .read := by
  cases p with
  | none => exact absurd rfl h
  | read | write | delete => decide

/-- What `delete_user_from_group` has established when it returns: the user
    manages the group, or is the member that leaves. -/
theorem returns_deleteUserFromGroup {groupId userId : Id} {response : Unit}
    (h : Returns (deleteUserFromGroup user groupId userId) db response db') :
    ∃ ug, (ug.groupId = groupId ∧ ug.userId = userId) ∧
      (Permitted groupRights db user groupId .delete ∨
        (userId = user.id ∧ Permitted groupRights db user groupId .read)) ∧
      checkedStep db (.deleteUserGroup ug) db' := by
  simp only [deleteUserFromGroup, GroupRepository.getGroupPermission, unitOfWork, returns_bind,
    returns_query, returns_raiseIf, returns_atomically, returns_pure,
    GroupRepository.returns_deleteUser, and_assoc, exists_and_left, exists_eq_left',
    exists_const] at h
  rcases h with ⟨p, hp, hnone, hown, ug, hgid, hu, _, hdelete, _, rfl⟩
  refine ⟨ug, ⟨hgid, hu⟩, ?_, hdelete⟩
  by_cases hp' : p < .delete
  · have hself : userId = user.id := not_not.mp (fun hne => hown ⟨hne, hp'⟩)
    exact Or.inr ⟨hself,
      permitted_of_groupPermission hp none_lt_read (not_lt_read_of_ne_none hnone)⟩
  · exact Or.inl (permitted_of_groupPermission hp none_lt_delete hp')

/-! ## All requests -/

/-- The requests whose only writes are on runs. -/
def Request.OnRuns : Request → Prop
  | .read _ | .startRun _ | .stopRun _ => True
  | _ => False

/-- What a request that returns has established and written. -/
inductive Outcome (db : Database) (user : User) (now : Time) (db' : Database) : Request → Prop
  | onRuns {request : Request} : request.OnRuns → Outcome db user now db' request
  | createConnection {body : CreateConnectionSchema} {c : Connection} {a : AuthData}
      {db₁ : Database} :
      Permitted memberRights db user body.groupId .write →
      c = ConnectionRepository.created now (db.sequences .connection) body →
      a = CredentialsRepository.created now c.id body.authData →
      checkedStep db (.insertConnection c) db₁ → checkedStep db₁ (.insertAuthData a) db' →
      Outcome db user now db' (.createConnection body)
  | updateConnection {connectionId : Id} {body : UpdateConnectionSchema} {old : Connection}
      {stored : AuthData} {authData : AuthValue} {db₁ : Database} :
      ConnectionUpdated db user now connectionId body old stored authData db₁ db' →
      Outcome db user now db' (.updateConnection connectionId body)
  | deleteConnection {connectionId : Id} {c : Connection} :
      db.connections.filter (fun d => d.id == connectionId) = [c] →
      Permitted memberRights db user c.groupId .delete → Unused db c →
      checkedStep db (.deleteConnection c) db' →
      Outcome db user now db' (.deleteConnection connectionId)
  | copyConnection {connectionId : Id} {body : ConnectionCopySchema} {origin : Connection}
      {db₁ : Database} :
      ConnectionCopied db user connectionId body origin db₁ db' →
      Outcome db user now db' (.copyConnection connectionId body)
  | createQueue {body : CreateQueueSchema} {q : Queue} :
      Permitted queueRights db user q.groupId .delete →
      q = QueueRepository.created now (db.sequences .queue) body →
      checkedStep db (.insertQueue q) db' → Outcome db user now db' (.createQueue body)
  | updateQueue {queueId : Id} {body : UpdateQueueSchema} {old q : Queue} :
      db.queues.filter (fun r => r.id == queueId) = [old] →
      Permitted queueRights db user old.groupId .delete →
      q = QueueRepository.updated now body old →
      checkedStep db (.updateQueue q) db' → Outcome db user now db' (.updateQueue queueId body)
  | deleteQueue {queueId : Id} {q : Queue} :
      db.queues.filter (fun r => r.id == queueId) = [q] →
      Permitted queueRights db user q.groupId .delete →
      TransferRepository.ofQueue db q.groupId q.id = [] →
      checkedStep db (.deleteQueue q) db' → Outcome db user now db' (.deleteQueue queueId)
  | createTransfer {body : CreateTransferSchema} {source target : Connection} {queue : Queue}
      {t : Transfer} :
      Permitted memberRights db user body.groupId .write → BodyLinks db body source target queue →
      t = TransferRepository.created now (db.sequences .transfer) body →
      checkedStep db (.insertTransfer t) db' → Outcome db user now db' (.createTransfer body)
  | copyTransfer {transferId : Id} {body : CopyTransferSchema} {origin : Transfer}
      {sourceOrigin source target : Connection} {db₁ db₂ db₃ : Database} :
      TransferCopied db user transferId body origin sourceOrigin source target db₁ db₂ db₃ db' →
      Outcome db user now db' (.copyTransfer transferId body)
  | updateTransfer {transferId : Id} {body : CreateTransferSchema} {old : Transfer}
      {source target : Connection} {queue : Queue} {t : Transfer} :
      db.transfers.filter (fun r => r.id == transferId) = [old] →
      Permitted memberRights db user old.groupId .write → BodyLinks db body source target queue →
      t = TransferRepository.setColumns now body old →
      checkedStep db (.updateTransfer t) db' →
      Outcome db user now db' (.updateTransfer transferId body)
  | deleteTransfer {transferId : Id} {t : Transfer} :
      db.transfers.filter (fun r => r.id == transferId) = [t] →
      Permitted memberRights db user t.groupId .delete →
      checkedStep db (.deleteTransfer t) db' → Outcome db user now db' (.deleteTransfer transferId)
  | createGroup {body : CreateGroupSchema} {g : Group} :
      g = GroupRepository.created now (db.sequences .group) body user.id →
      checkedStep db (.insertGroup g) db' → Outcome db user now db' (.createGroup body)
  | updateGroup {groupId : Id} {body : UpdateGroupSchema} {old : Group} {db₁ db₂ : Database} :
      GroupUpdated db user now groupId body old db₁ db₂ db' →
      Outcome db user now db' (.updateGroup groupId body)
  | deleteGroup {groupId : Id} {g : Group} :
      db.groups.filter (fun h => h.id == groupId) = [g] → user.isSuperuser = true →
      checkedStep db (.deleteGroup g) db' → Outcome db user now db' (.deleteGroup groupId)
  | updateUserRoleGroup {groupId userId : Id} {body : AddUserSchema} {old ug : UserGroup} :
      Permitted groupRights db user groupId .delete →
      db.userGroups.filter (GroupRepository.isMembership groupId userId) = [old] →
      ug = { groupId := groupId, userId := userId, role := body.role } →
      checkedStep db (.updateUserGroup ug) db' →
      Outcome db user now db' (.updateUserRoleGroup groupId userId body)
  | addUserToGroup {groupId userId : Id} {body : AddUserSchema} {g : Group} {ug : UserGroup} :
      db.groups.filter (fun h => h.id == groupId) = [g] → g.ownerId ≠ userId →
      Permitted groupRights db user groupId .delete →
      ug = { groupId := groupId, userId := userId, role := body.role } →
      checkedStep db (.insertUserGroup ug) db' →
      Outcome db user now db' (.addUserToGroup groupId userId body)
  | deleteUserFromGroup {groupId userId : Id} {ug : UserGroup} :
      ug.groupId = groupId ∧ ug.userId = userId →
      (Permitted groupRights db user groupId .delete ∨
        (userId = user.id ∧ Permitted groupRights db user groupId .read)) →
      checkedStep db (.deleteUserGroup ug) db' →
      Outcome db user now db' (.deleteUserFromGroup groupId userId)

/-- What a response is made of has no part in what the request has done. -/
theorem outcome_of_response {α : Type} {x : Db α} {f : α → Response} {response : Response}
    {request : Request} (h : Returns (do let a ← x; return f a) db response db')
    (hx : ∀ a, Returns x db a db' → Outcome db user now db' request) :
    Outcome db user now db' request := by
  rcases returns_bind.mp h with ⟨a, _, ha, hresponse⟩
  rw [(returns_pure.mp hresponse).2] at ha
  exact hx a ha

/-- What a request that returns has done. -/
theorem handle_outcome {request : Request} {response : Response}
    (h : Returns (handle now sent user request) db response db') :
    Outcome db user now db' request := by
  cases request with
  -- Reading, starting and stopping runs are outside the outcomes.
  | read => exact .onRuns trivial
  | startRun => exact .onRuns trivial
  | stopRun => exact .onRuns trivial
  | createConnection =>
      refine outcome_of_response h (fun _ hx => ?_)
      rcases returns_createConnection hx with ⟨c, a, db₁, hmay, hc, ha, _, hinsert, hcreds⟩
      exact .createConnection hmay hc ha hinsert hcreds
  | updateConnection =>
      refine outcome_of_response h (fun _ hx => ?_)
      rcases returns_updateConnection.mp hx with ⟨_, _, _, _, hupdated, _⟩
      exact .updateConnection hupdated
  | deleteConnection =>
      refine outcome_of_response h (fun _ hx => ?_)
      rcases returns_deleteConnection hx with ⟨c, hc, hmay, hunused, hdelete⟩
      exact .deleteConnection hc hmay hunused hdelete
  | copyConnection =>
      refine outcome_of_response h (fun _ hx => ?_)
      rcases copyConnection_outcome hx with ⟨_, _, hcopied⟩
      exact .copyConnection hcopied
  | createQueue =>
      refine outcome_of_response h (fun q hx => ?_)
      rcases returns_createQueue hx with ⟨hmay, hq, hinsert⟩
      exact .createQueue hmay hq hinsert
  | updateQueue =>
      refine outcome_of_response h (fun q hx => ?_)
      rcases returns_updateQueue hx with ⟨old, hold, hmay, hq, hupdate⟩
      exact .updateQueue hold hmay hq hupdate
  | deleteQueue =>
      refine outcome_of_response h (fun _ hx => ?_)
      rcases returns_deleteQueue.mp hx with ⟨q, hq, hpermission, hempty, hdelete⟩
      have hmay : Permitted queueRights db user q.groupId .delete :=
        permitted_of_resourcePermission hq none_lt_delete hpermission
      exact .deleteQueue hq hmay hempty hdelete
  | createTransfer =>
      refine outcome_of_response h (fun t hx => ?_)
      rcases returns_createTransfer hx with ⟨_, _, _, hmay, hlinks, ht, hinsert⟩
      exact .createTransfer hmay hlinks ht hinsert
  | copyTransfer =>
      refine outcome_of_response h (fun _ hx => ?_)
      rcases returns_copyTransfer hx with ⟨_, _, _, _, _, _, _, hcopied⟩
      exact .copyTransfer hcopied
  | updateTransfer =>
      refine outcome_of_response h (fun t hx => ?_)
      rcases returns_updateTransfer hx with ⟨old, _, _, _, hold, hmay, hlinks, ht, hupdate⟩
      exact .updateTransfer hold hmay hlinks ht hupdate
  | deleteTransfer =>
      refine outcome_of_response h (fun _ hx => ?_)
      rcases returns_deleteTransfer hx with ⟨t, ht, hmay, hdelete⟩
      exact .deleteTransfer ht hmay hdelete
  | createGroup =>
      refine outcome_of_response h (fun g hx => ?_)
      exact .createGroup (returns_createGroup hx).1 (returns_createGroup hx).2
  | updateGroup =>
      refine outcome_of_response h (fun _ hx => ?_)
      rcases returns_updateGroup hx with ⟨_, _, _, hupdated⟩
      exact .updateGroup hupdated
  | deleteGroup =>
      refine outcome_of_response h (fun _ hx => ?_)
      rcases returns_deleteGroup hx with ⟨g, hg, hsuper, hdelete⟩
      exact .deleteGroup hg hsuper hdelete
  | updateUserRoleGroup =>
      refine outcome_of_response h (fun ug hx => ?_)
      rcases returns_updateUserRoleGroup hx with ⟨hmay, ⟨old, hold⟩, hug, hupdate⟩
      exact .updateUserRoleGroup hmay hold hug hupdate
  | addUserToGroup =>
      refine outcome_of_response h (fun _ hx => ?_)
      rcases returns_addUserToGroup hx with ⟨g, hg, hne, hmay, hinsert⟩
      exact .addUserToGroup hg hne hmay rfl hinsert
  | deleteUserFromGroup =>
      refine outcome_of_response h (fun _ hx => ?_)
      rcases returns_deleteUserFromGroup hx with ⟨ug, hkey, hmay, hdelete⟩
      exact .deleteUserFromGroup hkey hmay hdelete

/-! ## The writes of a request -/

/-- The writes that a request may make. -/
def Request.Makes : Request → Write → Prop
  | .createConnection _, .insertConnection _ | .createConnection _, .insertAuthData _ => True
  | .updateConnection _ _, .updateConnection _ | .updateConnection _ _, .updateAuthData _ => True
  | .deleteConnection _, .deleteConnection _ => True
  | .copyConnection _ _, .insertConnection _ | .copyConnection _ _, .deleteConnection _ => True
  | .createQueue _, .insertQueue _ => True
  | .updateQueue _ _, .updateQueue _ => True
  | .deleteQueue _, .deleteQueue _ => True
  | .createTransfer _, .insertTransfer _ => True
  | .copyTransfer _ _, .insertConnection _ | .copyTransfer _ _, .insertTransfer _
  | .copyTransfer _ _, .deleteTransfer _ => True
  | .updateTransfer _ _, .updateTransfer _ => True
  | .deleteTransfer _, .deleteTransfer _ => True
  | .createGroup _, .insertGroup _ => True
  | .updateGroup _ _, .updateGroup _ | .updateGroup _ _, .deleteUserGroup _
  | .updateGroup _ _, .insertUserGroup _ => True
  | .deleteGroup _, .deleteGroup _ => True
  | .updateUserRoleGroup _ _ _, .updateUserGroup _ => True
  | .addUserToGroup _ _ _, .insertUserGroup _ => True
  | .deleteUserFromGroup _ _, .deleteUserGroup _ => True
  | _, _ => False

/-- The database changes by writes that the request may make. -/
def Written (request : Request) (db db' : Database) : Prop :=
  ∃ ws, Machine.Run (Machine.restrict (fun _ w => request.Makes w) checkedStep) db ws db'

variable {request : Request}

theorem written_one {w : Write} (h : checkedStep db w db') (hw : request.Makes w) :
    Written request db db' :=
  ⟨[w], Machine.run_single ⟨hw, h⟩⟩

theorem written_snoc {db₁ : Database} {w : Write} (h : Written request db db₁)
    (hstep : checkedStep db₁ w db') (hw : request.Makes w) : Written request db db' := by
  rcases h with ⟨ws, hrun⟩
  exact ⟨ws ++ [w], Machine.run_snoc.mpr ⟨db₁, hrun, hw, hstep⟩⟩

/-- What an outcome has written. -/
theorem outcome_written (h : Outcome db user now db' request) (hr : ¬ request.OnRuns) :
    Written request db db' := by
  cases h with
  | onRuns h => exact absurd h hr
  | createConnection _ _ _ hinsert hcreds =>
      exact written_snoc (written_one hinsert trivial) hcreds trivial
  | updateConnection h => exact written_snoc (written_one h.row trivial) h.authData trivial
  | deleteConnection _ _ _ hdelete => exact written_one hdelete trivial
  | @copyConnection connectionId body origin db₁ h =>
      have hcopy : Written (.copyConnection connectionId body) db db₁ := written_one h.copy trivial
      have hrest := h.rest
      split at hrest
      -- With `remove_source` the origin is deleted, after the copy.
      · exact written_snoc hcopy hrest trivial
      · rw [hrest]
        exact hcopy
  | createQueue _ _ hinsert => exact written_one hinsert trivial
  | updateQueue _ _ _ hupdate => exact written_one hupdate trivial
  | deleteQueue _ _ _ hdelete => exact written_one hdelete trivial
  | createTransfer _ _ _ hinsert => exact written_one hinsert trivial
  | @copyTransfer transferId body _ _ _ _ db₁ db₂ db₃ h =>
      have hsource : Written (.copyTransfer transferId body) db db₁ :=
        written_one h.sourceInserted trivial
      have hboth : Written (.copyTransfer transferId body) db db₂ := by
        have hcopy := h.targetCopy
        -- A transfer within one connection copies that connection once.
        split at hcopy
        · rw [hcopy.2]
          exact hsource
        · rcases hcopy with ⟨_, _, _, hinsert⟩
          exact written_snoc hsource hinsert trivial
      have hcopied : Written (.copyTransfer transferId body) db db₃ :=
        written_snoc hboth h.copy trivial
      have hrest := h.rest
      split at hrest
      · exact written_snoc hcopied hrest trivial
      · rw [hrest]
        exact hcopied
  | updateTransfer _ _ _ _ hupdate => exact written_one hupdate trivial
  | deleteTransfer _ _ hdelete => exact written_one hdelete trivial
  | createGroup _ hinsert => exact written_one hinsert trivial
  | @updateGroup groupId body _ db₁ db₂ h =>
      have hrow : Written (.updateGroup groupId body) db db₁ := written_one h.row trivial
      have hleft := h.left
      have hjoined := h.joined
      split at hleft
      -- The owner stays: only the row of the group is written.
      · rename_i howner
        rw [if_pos howner] at hjoined
        rw [hjoined, hleft]
        exact hrow
      -- The new owner leaves the members, if it is one, and the old owner joins them.
      · rename_i howner
        rw [if_neg howner] at hjoined
        split at hleft
        · rcases hleft with ⟨ug, _, hremove⟩
          exact written_snoc (written_snoc hrow hremove trivial) hjoined trivial
        · rw [hleft] at hjoined
          exact written_snoc hrow hjoined trivial
  | deleteGroup _ _ hdelete => exact written_one hdelete trivial
  | updateUserRoleGroup _ _ _ hupdate => exact written_one hupdate trivial
  | addUserToGroup _ _ _ _ hinsert => exact written_one hinsert trivial
  | deleteUserFromGroup _ _ hdelete => exact written_one hdelete trivial

end Endpoints

end SyncMaster
