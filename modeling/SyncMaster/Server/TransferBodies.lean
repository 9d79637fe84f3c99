import SyncMaster.Schemas.ReadTransfer
import SyncMaster.Server.Driver
import SyncMaster.Tenancy.SameGroup

/-!
# Bodies of Transfers on their Way

`POST /v1/transfers` and `PUT /v1/transfers/{id}` from the JSON body to the
answer. The user is looked up first, then the body is validated, the endpoint
runs, and the row it returns is read by the schema of the response.

Between the endpoint and the database there is the driver, whose errors nothing
turns into errors that the service declares. So there are two places where a request may end without an answer, and
`answered_iff` is the exact condition: the validators have to cope with the
body, and the statements that are reached with what they are given.

## Main definitions

* `Error.IsSyncmaster`: The errors that the service declares.
* `Route`, `send`: A request with a body.
* `Failure.Declared`, `Answered`: The answers that a request may get.
* `LinksCope`, `Driver.ColumnsCope`, `CreateCopes`, `UpdateCopes`: What the
  statements can cope with.
* `Copes`: The condition for an answer.

## Theorems

* `safeAt_createTransfer`, `safeAt_updateTransfer`: The statements of the two
  endpoints.
* `answered_iff`: A request is answered exactly when its body can be coped with.
* `send_step`: A request that succeeds is a step of the service.
-/

namespace SyncMaster

open Program

/-! ## Errors -/

/-- The declared subclasses of `SyncmasterError`. -/
def Error.IsSyncmaster : Error → Prop
  | .syncmasterError | .noResultFound | .multipleResultsFound | .integrityError _ | .dataError
  | .keyError _ | .sendTaskError => False
  | _ => True

/-- What a request may end with instead of a response. -/
inductive Failure where
  | requestValidationError
  | error (e : Error)
  | exception (e : PyException)

/-- The failures that are answers. Nothing handles the others. -/
def Failure.Declared : Failure → Prop
  | .requestValidationError => True
  | .error e => e.IsSyncmaster
  | .exception _ => False

/-! ## Requests -/

/-- The routes that take a `CreateTransferSchema`. -/
inductive Route where
  | create
  | update (transferId : Id)

/-- The endpoint of the route. -/
def Route.endpoint (driver : Driver) (now : Time) (currentUser : User)
    (transferData : CreateTransferSchema) : Route → Db Transfer
  | .create => driver.createTransfer now currentUser transferData
  | .update transferId => driver.updateTransfer now currentUser transferId transferData

/-- The body of a request, validated. -/
def requestBody {α : Type} : Checked α → Program Database Failure α
  | .ok value => pure value
  | .invalid => throw .requestValidationError
  | .raised e => throw (.exception e)

/-- The schema of a response, of which a refusal is an exception like others. -/
def responseBody {α : Type} : Checked α → Program Database Failure α
  | .ok value => pure value
  | .invalid => throw (.exception .other)
  | .raised e => throw (.exception e)

section Send

variable (py : Python) (pydantic : Pydantic) (driver : Driver)

/-- A request with a JSON body, of the user that the access token names. -/
def send (now : Time) (userId : Id) (route : Route) (body : Json) :
    Program Database Failure ReadTransferSchema := do
  let currentUser ← mapError .error (getUser userId)
  let transferData ← requestBody (CreateTransferSchema.validate py pydantic body)
  let transfer ← mapError .error (route.endpoint driver now currentUser transferData)
  responseBody (ReadTransferSchema.modelValidate py pydantic transfer)

/-- The request ends in a response or in a failure that is an answer. -/
def Answered (now : Time) (userId : Id) (route : Route) (body : Json) (db : Database) : Prop :=
  SafeAt Failure.Declared (send py pydantic driver now userId route body) db

end Send

/-! ## What the statements can cope with -/

/-- There is such a group, and the user may write in it. -/
def MayWrite (db : Database) (user : User) (groupId : Id) : Prop :=
  (∃ g ∈ db.groups, g.id = groupId) ∧ Permitted memberRights db user groupId .write

/-- The identifiers of the body, each as far as the statement with it is reached. -/
structure LinksCope (db : Database) (body : CreateTransferSchema) : Prop where
  target : InBigint body.targetConnectionId
  source : (∃ c ∈ db.connections, c.id = body.targetConnectionId) →
    InBigint body.sourceConnectionId
  queue : (∃ c ∈ db.connections, c.id = body.targetConnectionId) →
    (∃ c ∈ db.connections, c.id = body.sourceConnectionId) → InBigint body.queueId

/-- The columns of the body. -/
structure Driver.ColumnsCope (driver : Driver) (body : CreateTransferSchema) : Prop where
  sourceLevels : (Json.obj body.sourceParams.fields).depth ≤ driver.levels
  targetLevels : (Json.obj body.targetParams.fields).depth ≤ driver.levels
  vector : driver.vectorSize body.searchedTexts < 2 ^ 20
  fits : body.FitsColumns

theorem Driver.columnsCope_iff {driver : Driver} {body : CreateTransferSchema} :
    driver.ColumnsCope body ↔ driver.takesTransfer body = true ∧ body.FitsColumns := by
  rw [Driver.takesTransfer, Driver.takes_iff, List.forall_mem_cons, List.forall_mem_singleton]
  constructor
  · intro h
    exact ⟨⟨⟨h.sourceLevels, h.targetLevels⟩, h.vector⟩, h.fits⟩
  · rintro ⟨⟨⟨hsource, htarget⟩, hvector⟩, hfits⟩
    exact ⟨hsource, htarget, hvector, hfits⟩

/-- The links of the body have passed the checks. -/
def Linked (db : Database) (body : CreateTransferSchema) : Prop :=
  ∃ source target queue, BodyLinks db body source target queue

structure CreateCopes (driver : Driver) (db : Database) (user : User)
    (body : CreateTransferSchema) : Prop where
  group : InBigint body.groupId
  links : MayWrite db user body.groupId → LinksCope db body
  columns : MayWrite db user body.groupId → Linked db body → driver.ColumnsCope body

structure UpdateCopes (driver : Driver) (db : Database) (user : User) (transferId : Id)
    (body : CreateTransferSchema) : Prop where
  transfer : InBigint transferId
  links : (∃ t ∈ db.transfers, t.id = transferId ∧
    Permitted memberRights db user t.groupId .write) → LinksCope db body
  columns : (∃ t ∈ db.transfers, t.id = transferId ∧
    Permitted memberRights db user t.groupId .write) → Linked db body →
    Permitted memberRights db user body.groupId .read → driver.ColumnsCope body

def Route.StatementsCope (driver : Driver) (db : Database) (user : User)
    (body : CreateTransferSchema) : Route → Prop
  | .create => CreateCopes driver db user body
  | .update transferId => UpdateCopes driver db user transferId body

/-- The condition for an answer. -/
structure Copes (py : Python) (pydantic : Pydantic) (driver : Driver) (db : Database) (user : User)
    (route : Route) (body : Json) : Prop where
  validators : ∀ d, body = .obj d → ValidatorsCope py pydantic d
  statements : ∀ schema, CreateTransferSchema.validate py pydantic body = .ok schema →
    route.StatementsCope driver db user schema

/-! ## Statements -/

section Statements

variable {db db' : Database} {now : Time} {user : User} {body : CreateTransferSchema}
  {driver : Driver}

theorem not_isSyncmaster_dataError : ¬ Error.IsSyncmaster .dataError :=
  id

/-- The row that a key names, if there is one. -/
theorem safeAt_readOne {Row : Type} {rows : Database → List Row} {key : Row → Id} {id : Id}
    {notFound : Error} (hd : Table.Distinct key (rows db)) (h : notFound.IsSyncmaster) :
    SafeAt Error.IsSyncmaster (catching (notFoundAs notFound)
      (query (fun db => one ((rows db).filter (fun r => key r == id))))) db := by
  rw [safeAt_catching, safeAt_query]
  intro e he
  -- Identifiers are distinct, so the row is missing or the only one.
  have hlength := Table.length_filter_le_one key hd (p := fun r => key r == id) (k := id)
    (fun r _ hr => beq_iff_eq.mp hr)
  cases hfilter : (rows db).filter (fun r => key r == id) with
  | nil =>
      rw [hfilter] at he
      rw [← Except.error.inj he]
      exact h
  | cons r rest =>
      rw [hfilter] at he hlength
      cases rest with
      | nil => cases he
      | cons s rest =>
          simp only [List.length_cons] at hlength
          omega

/-- A statement that only reads, and what is done with its result. -/
theorem safeAt_withId_bind {α β : Type} {id : Id} {read : Db β} {f : β → Db α} {found : β → Prop}
    (hread : SafeAt Error.IsSyncmaster read db)
    (hfound : ∀ b t, Returns read db b t ↔ found b ∧ db = t) :
    SafeAt Error.IsSyncmaster (withId id read >>= f) db ↔
      InBigint id ∧ ∀ b, found b → SafeAt Error.IsSyncmaster (f b) db := by
  rw [safeAt_bind, safeAt_withId not_isSyncmaster_dataError, and_iff_left hread]
  refine and_congr_right (fun hid => ?_)
  constructor
  · intro h b hb
    exact h b db (returns_withId.mpr ⟨hid, (hfound b db).mpr ⟨hb, rfl⟩⟩)
  · intro h b u hret
    rcases (hfound b u).mp (returns_withId.mp hret).2 with ⟨hb, rfl⟩
    exact h b hb

/-- The first statement of `create_transfer`. -/
theorem safeAt_groupPermission {α : Type} {groupId : Id} {f : Permission → Db α} :
    SafeAt Error.IsSyncmaster
      (withId groupId (TransferRepository.getGroupPermission user groupId) >>= f) db ↔
      InBigint groupId ∧ ∀ p, groupPermission memberRights db user groupId = .ok p →
        SafeAt Error.IsSyncmaster (f p) db := by
  refine safeAt_withId_bind (safeAt_query.mpr (fun e he => ?_)) (fun p t => returns_query)
  rw [groupPermission_eq_error he]
  trivial

/-- The first statement of `update_transfer`. -/
theorem safeAt_resourcePermission {α : Type} {transferId : Id} {f : Permission → Db α} :
    SafeAt Error.IsSyncmaster
      (withId transferId (TransferRepository.getResourcePermission user transferId) >>= f) db ↔
      InBigint transferId ∧ SafeAt Error.IsSyncmaster (f (resourcePermission memberRights
        Transfer.model (·.toResourceMixin) db user transferId)) db := by
  have hread : SafeAt Error.IsSyncmaster
      (TransferRepository.getResourcePermission user transferId) db :=
    safeAt_query.mpr (fun e he => nomatch he)
  have hfound : ∀ p t, Returns (TransferRepository.getResourcePermission user transferId) db p t ↔
      resourcePermission memberRights Transfer.model (·.toResourceMixin) db user transferId = p ∧
        db = t := by
    intro p t
    simp only [TransferRepository.getResourcePermission, returns_query, Except.ok.injEq]
  rw [safeAt_withId_bind hread hfound, forall_eq']

/-- The rows that a body refers to are read one after the other. -/
theorem safeAt_readLinks {α : Type} (hkeys : Keys db)
    {rest : Connection → Connection → Queue → Db α} :
    SafeAt Error.IsSyncmaster (do
      let target ← withId body.targetConnectionId
        (ConnectionRepository.readById body.targetConnectionId)
      let source ← withId body.sourceConnectionId
        (ConnectionRepository.readById body.sourceConnectionId)
      let queue ← withId body.queueId (QueueRepository.readById body.queueId)
      rest target source queue) db ↔
      LinksCope db body ∧
        ∀ target source queue,
          db.connections.filter (fun c => c.id == body.targetConnectionId) = [target] →
          db.connections.filter (fun c => c.id == body.sourceConnectionId) = [source] →
          db.queues.filter (fun q => q.id == body.queueId) = [queue] →
          SafeAt Error.IsSyncmaster (rest target source queue) db := by
  -- A row that is there is the one row that the statement reads.
  have hfound : ∀ id, (∃ c ∈ db.connections, c.id = id) ↔
      ∃ c, db.connections.filter (fun d => d.id == id) = [c] :=
    fun id => (Table.exists_filter_key_eq_iff (fun c : Connection => c.id) hkeys.connections).symm
  have hconnection : ∀ id (f : Connection → Db α), SafeAt Error.IsSyncmaster
      (withId id (ConnectionRepository.readById id) >>= f) db ↔
      InBigint id ∧ ∀ c, db.connections.filter (fun d => d.id == id) = [c] →
        SafeAt Error.IsSyncmaster (f c) db :=
    fun id f => safeAt_withId_bind (safeAt_readOne hkeys.connections trivial)
      (fun _ _ => ConnectionRepository.returns_readById)
  have hqueue : ∀ id (f : Queue → Db α), SafeAt Error.IsSyncmaster
      (withId id (QueueRepository.readById id) >>= f) db ↔
      InBigint id ∧ ∀ q, db.queues.filter (fun r => r.id == id) = [q] →
        SafeAt Error.IsSyncmaster (f q) db :=
    fun id f => safeAt_withId_bind (safeAt_readOne hkeys.queues trivial)
      (fun _ _ => QueueRepository.returns_readById)
  simp only [hconnection, hqueue]
  constructor
  -- An identifier is bound only when the reads before it have found their rows.
  · intro h
    rcases h with ⟨htarget, h⟩
    refine ⟨⟨htarget, ?_, ?_⟩, fun target source queue ht hs hq => ((h target ht).2 source hs).2 queue hq⟩
    · intro hexists
      rcases (hfound _).mp hexists with ⟨target, ht⟩
      exact (h target ht).1
    · intro htargets hsources
      rcases (hfound _).mp htargets with ⟨target, ht⟩
      rcases (hfound _).mp hsources with ⟨source, hs⟩
      exact ((h target ht).2 source hs).1
  · intro h
    rcases h with ⟨hcope, h⟩
    refine ⟨hcope.target, fun target ht => ?_⟩
    have htarget := (hfound _).mpr ⟨target, ht⟩
    refine ⟨hcope.source htarget, fun source hs => ?_⟩
    have hsource := (hfound _).mpr ⟨source, hs⟩
    exact ⟨hcope.queue htarget hsource, fun queue hq => h target source queue ht hs hq⟩

theorem safeAt_checkTransferLinks (target source : Connection) (queue : Queue) :
    SafeAt Error.IsSyncmaster (checkTransferLinks body target source queue) db := by
  have hsafe : RaisesOnly Error.IsSyncmaster (checkTransferLinks body target source queue) := by
    refine raisesOnly_bind (raisesOnly_raiseIf trivial) (fun _ => ?_)
    refine raisesOnly_bind (raisesOnly_raiseIf trivial) (fun _ => ?_)
    exact raisesOnly_bind (raisesOnly_raiseIf trivial) (fun _ => raisesOnly_raiseIf trivial)
  exact hsafe db

/-- The statement that writes comes behind the checks of the links. -/
theorem safeAt_checkedWrite {α : Type} {target source : Connection} {queue : Queue}
    {write : Db α} :
    SafeAt Error.IsSyncmaster (do
      checkTransferLinks body target source queue
      unitOfWork (withValues (driver.takesTransfer body) write)) db ↔
      ((source.groupId = body.groupId ∧ target.groupId = body.groupId ∧
        queue.groupId = body.groupId) →
      (source.type = body.sourceParams.type ∧ target.type = body.targetParams.type) →
        driver.takesTransfer body = true ∧ SafeAt Error.IsSyncmaster write db) := by
  rw [safeAt_bind, and_iff_right (safeAt_checkTransferLinks target source queue)]
  simp only [returns_checkTransferLinks, unitOfWork, safeAt_atomically,
    safeAt_withValues not_isSyncmaster_dataError]
  constructor
  · intro h hgroups htypes
    exact h () db ⟨hgroups, htypes, rfl⟩
  · intro h _ u hret
    rcases hret with ⟨hgroups, htypes, rfl⟩
    exact h hgroups htypes

/-! ## The rows that are written -/

/-- Of the constraints of a transfer, those on what its columns hold are the ones whose
    violation is no integrity error, and they come first. -/
theorem safe_constraints {others : List Transfer} {t : Transfer} {Q : Error → Prop}
    (hdata : ¬ Q .dataError)
    (hintegrity : ∀ c ∈ [Constraint.uqTransferNameGroupId, .fkTransferGroupIdGroup,
      .fkTransferQueueIdQueue, .fkTransferSourceConnectionIdConnection,
      .fkTransferTargetConnectionIdConnection], Q (.integrityError c)) :
    (∀ e, firstViolation (Transfer.model.constraints db others t) = .error e → Q e) ↔
      t.ColumnsFit := by
  simp only [List.forall_mem_cons] at hintegrity
  rcases hintegrity with ⟨huq, hgroup, hqueue, hsource, htarget, _⟩
  have hempty : ∀ e, firstViolation [] ≠ .error e := fun e h => nomatch h
  -- A check is made only when those before it have passed.
  have hthen : ∀ p q : Prop, p ∧ (p → q) ↔ p ∧ q :=
    fun p q => and_congr_right (fun hp => imp_iff_right hp)
  unfold Transfer.model
  simp only [firstViolation_cons, fits, searchable, storable, decide_eq_false_iff_not,
    decide_eq_true_eq, huq, hgroup, hqueue, hsource, htarget, hdata, hempty, imp_false, not_not,
    implies_true, and_true, false_implies, hthen]
  constructor
  · rintro ⟨hname, hdescription, hschedule, hsource, htarget, htransformations⟩
    exact ⟨hname, hdescription, hschedule, hsource, htarget, htransformations⟩
  · intro h
    exact ⟨h.name, h.description, h.schedule, h.sourceParams, h.targetParams, h.transformations⟩

/-- The integrity errors that the statement may end in are declared otherwise. -/
theorem isSyncmaster_raiseError : ∀ c ∈ [Constraint.uqTransferNameGroupId, .fkTransferGroupIdGroup,
      .fkTransferQueueIdQueue, .fkTransferSourceConnectionIdConnection,
      .fkTransferTargetConnectionIdConnection],
    (TransferRepository.raiseError (.integrityError c)).IsSyncmaster := by
  simp only [List.forall_mem_cons, TransferRepository.raiseError]
  exact ⟨trivial, trivial, trivial, trivial, trivial, fun c hc => absurd hc List.not_mem_nil⟩

theorem safeAt_create :
    SafeAt Error.IsSyncmaster (TransferRepository.create now body) db ↔ body.FitsColumns := by
  unfold TransferRepository.create
  rw [safeAt_bind, and_iff_right safeAt_nextval]
  simp only [safeAt_catching, safeAt_insertRow]
  constructor
  · intro h
    have hfit := (safe_constraints (Q := fun e => (TransferRepository.raiseError e).IsSyncmaster)
      not_isSyncmaster_dataError isSyncmaster_raiseError).mp
      (h _ _ (returns_nextval.mpr ⟨rfl, rfl⟩))
    exact TransferRepository.created_columnsFit.mp hfit
  · intro h id u _
    have hfit : (TransferRepository.created now id body).ColumnsFit :=
      TransferRepository.created_columnsFit.mpr h
    exact (safe_constraints (Q := fun e => (TransferRepository.raiseError e).IsSyncmaster)
      not_isSyncmaster_dataError isSyncmaster_raiseError).mpr hfit

theorem safeAt_update {transferId : Id} {old : Transfer}
    (hold : db.transfers.filter (fun t => t.id == transferId) = [old]) :
    SafeAt Error.IsSyncmaster (TransferRepository.update now transferId body) db ↔
      body.FitsColumns := by
  unfold TransferRepository.update Repository.update
  rw [safeAt_catching, safeAt_catching, safeAt_updateRow hold]
  have hfit : (TransferRepository.setColumns now body old).ColumnsFit ↔ body.FitsColumns :=
    TransferRepository.setColumns_columnsFit
  rw [← hfit]
  exact safe_constraints not_isSyncmaster_dataError isSyncmaster_raiseError

/-! ## The endpoints -/

/-- The checks on a group are passed in the groups where the user may write. -/
theorem mayWrite_iff (hkeys : Keys db) {groupId : Id} :
    MayWrite db user groupId ↔
      ∃ p, groupPermission memberRights db user groupId = .ok p ∧ ¬ p < .write := by
  constructor
  · intro h
    exact groupPermission_of_permitted hkeys.userGroups h.1 h.2
  · intro h
    rcases h with ⟨p, hp, hwrite⟩
    exact ⟨group_exists_of_groupPermission hp,
      permitted_of_groupPermission hp none_lt_write hwrite⟩

theorem mayUpdate_iff (hkeys : Keys db) {transferId : Id} :
    (∃ t ∈ db.transfers, t.id = transferId ∧ Permitted memberRights db user t.groupId .write) ↔
      ¬ resourcePermission memberRights Transfer.model (·.toResourceMixin) db user transferId
        < .write := by
  constructor
  · intro h
    rcases h with ⟨t, ht, hid, hmay⟩
    have hpassed : ¬ resourcePermission memberRights Transfer.model (·.toResourceMixin) db user t.id
        < .write := resourcePermission_of_permitted hkeys.userGroups hkeys.transfers ht hmay
    rw [← hid]
    exact hpassed
  · intro h
    exact exists_permitted_of_resourcePermission none_lt_write h

/-- A connection that was read is open to the members of its group. -/
theorem mayRead_iff (hkeys : Keys db) {c : Connection} (hc : c ∈ db.connections) :
    resourcePermission memberRights Connection.model (·.toResourceMixin) db user c.id ≠ .none ↔
      Permitted memberRights db user c.groupId .read := by
  constructor
  · intro h
    have hrow : (Connection.model.rows db).filter (fun d => d.toResourceMixin.id == c.id) = [c] :=
      Table.filter_key_eq (fun c : Connection => c.id) hkeys.connections hc rfl
    exact permitted_of_resourcePermission hrow none_lt_read (not_lt_read_of_ne_none h)
  · intro h hnone
    have hread : ¬ resourcePermission memberRights Connection.model (·.toResourceMixin) db user c.id
        < .read := resourcePermission_of_permitted hkeys.userGroups hkeys.connections hc h
    rw [hnone] at hread
    exact hread none_lt_read

theorem safeAt_createTransfer (hkeys : Keys db) :
    SafeAt Error.IsSyncmaster (driver.createTransfer now user body) db ↔
      CreateCopes driver db user body := by
  unfold Driver.createTransfer
  simp only [safeAt_groupPermission, safeAt_raiseIf_bind, safeAt_readLinks hkeys,
    safeAt_checkedWrite, safeAt_create]
  constructor
  · intro h
    rcases h with ⟨hgroup, h⟩
    -- The links are read only by a user who may write in the group.
    refine ⟨hgroup, ?_, ?_⟩
    · intro hmay
      rcases (mayWrite_iff hkeys).mp hmay with ⟨p, hp, hwrite⟩
      exact ((h p hp).2 hwrite).1
    · intro hmay hlinked
      rcases (mayWrite_iff hkeys).mp hmay with ⟨p, hp, hwrite⟩
      -- The columns are filled in only after the links have passed.
      rcases hlinked with ⟨source, target, queue, hlinks⟩
      exact Driver.columnsCope_iff.mpr (((h p hp).2 hwrite).2 target source queue
        hlinks.targetRow hlinks.sourceRow hlinks.queueRow hlinks.groups hlinks.types)
  · intro h
    refine ⟨h.group, fun p hp => ⟨fun _ => trivial, fun hwrite => ?_⟩⟩
    have hmay := (mayWrite_iff hkeys).mpr ⟨p, hp, hwrite⟩
    refine ⟨h.links hmay, ?_⟩
    intro target source queue htarget hsource hqueue hgroups htypes
    exact Driver.columnsCope_iff.mp
      (h.columns hmay ⟨source, target, queue, hsource, htarget, hqueue, hgroups, htypes⟩)

/-- Both connections are in the group of the body, so it decides about both. -/
theorem mayRead_links (hkeys : Keys db) {source target : Connection} {queue : Queue}
    (h : BodyLinks db body source target queue) :
    ¬ (resourcePermission memberRights Connection.model (·.toResourceMixin) db user source.id = .none ∨
      resourcePermission memberRights Connection.model (·.toResourceMixin) db user target.id = .none) ↔
      Permitted memberRights db user body.groupId .read := by
  have hsource := (Table.mem_of_filter_eq h.sourceRow).1
  have htarget := (Table.mem_of_filter_eq h.targetRow).1
  rw [not_or, ← ne_eq, ← ne_eq, mayRead_iff hkeys hsource, mayRead_iff hkeys htarget, h.groups.1,
    h.groups.2.1, and_self]

theorem safeAt_updateTransfer (hkeys : Keys db) {transferId : Id} :
    SafeAt Error.IsSyncmaster (driver.updateTransfer now user transferId body) db ↔
      UpdateCopes driver db user transferId body := by
  have hrow : ∀ t ∈ db.transfers, t.id = transferId →
      db.transfers.filter (fun r => r.id == transferId) = [t] := fun t ht hid =>
    Table.filter_key_eq (fun t : Transfer => t.id) hkeys.transfers ht hid
  unfold Driver.updateTransfer
  simp only [safeAt_resourcePermission, safeAt_raiseIf_bind, safeAt_readLinks hkeys,
    ConnectionRepository.getResourcePermission, safeAt_query_bind, safeAt_checkedWrite]
  constructor
  · intro h
    rcases h with ⟨htransfer, _, h⟩
    -- What lies behind the check of the permission.
    have hreached : (∃ t ∈ db.transfers, t.id = transferId ∧
        Permitted memberRights db user t.groupId .write) → _ := fun hmay => by
      have hwrite := (mayUpdate_iff hkeys).mp hmay
      have hfound : resourcePermission memberRights Transfer.model (·.toResourceMixin) db user
          transferId ≠ .none := by
        intro hnone
        rw [hnone] at hwrite
        exact hwrite none_lt_write
      exact (h hfound).2 hwrite
    refine ⟨htransfer, fun hmay => (hreached hmay).1, ?_⟩
    -- The write comes after the permission to read both connections, which `create_transfer` does
    -- not ask for.
    intro hmay hlinked hread
    rcases hlinked with ⟨source, target, queue, hlinks⟩
    have hcolumns := ((hreached hmay).2 target source queue hlinks.targetRow hlinks.sourceRow
      hlinks.queueRow).2 ((mayRead_links hkeys hlinks).mpr hread) hlinks.groups hlinks.types
    rcases hmay with ⟨t, ht, hid, _⟩
    exact Driver.columnsCope_iff.mpr ⟨hcolumns.1, (safeAt_update (hrow t ht hid)).mp hcolumns.2⟩
  · intro h
    refine ⟨h.transfer, fun _ => trivial, fun _ => ⟨fun _ => trivial, fun hwrite => ?_⟩⟩
    -- Conversely each statement is reached under what the condition assumes of it.
    have hmay := (mayUpdate_iff hkeys).mpr hwrite
    refine ⟨h.links hmay, ?_⟩
    intro target source queue htarget hsource hqueue
    refine ⟨fun _ => trivial, fun hroles hgroups htypes => ?_⟩
    have hlinks : BodyLinks db body source target queue :=
      ⟨hsource, htarget, hqueue, hgroups, htypes⟩
    have hcolumns := Driver.columnsCope_iff.mp (h.columns hmay ⟨source, target, queue, hlinks⟩
      ((mayRead_links hkeys hlinks).mp hroles))
    rcases hmay with ⟨t, ht, hid, _⟩
    exact ⟨hcolumns.1, (safeAt_update (hrow t ht hid)).mpr hcolumns.2⟩

theorem safeAt_endpoint (hkeys : Keys db) (route : Route) :
    SafeAt Error.IsSyncmaster (route.endpoint driver now user body) db ↔
      route.StatementsCope driver db user body := by
  cases route with
  | create => exact safeAt_createTransfer hkeys
  | update transferId => exact safeAt_updateTransfer hkeys

end Statements

/-! ## Requests that succeed -/

/-- The request that the route makes of an accepted body. -/
def Route.request (transferData : CreateTransferSchema) : Route → Request
  | .create => .createTransfer transferData
  | .update transferId => .updateTransfer transferId transferData

section Success

variable {db db' : Database} {now : Time} {sent : SendTask} {user : User}
  {schema : CreateTransferSchema} {driver : Driver} {t : Transfer}

/-- What the driver lets through is what the endpoint does. -/
theorem createTransfer_refines :
    Refines (driver.createTransfer now user schema) (createTransfer now user schema) := by
  refine refines_bind (refines_raiseIf _ _ _) (fun _ => ?_)
  refine refines_bind (refines_refl _) (fun _ => ?_)
  refine refines_bind (refines_raiseIf _ _ _) (fun _ => ?_)
  refine refines_bind (refines_raiseIf _ _ _) (fun _ => ?_)
  refine refines_bind (refines_raiseIf _ _ _) (fun _ => ?_)
  refine refines_bind (refines_refl _) (fun _ => ?_)
  exact refines_atomically (refines_raiseIf _ _ _)

theorem updateTransfer_refines {transferId : Id} :
    Refines (driver.updateTransfer now user transferId schema)
      (updateTransfer now user transferId schema) := by
  refine refines_bind (refines_raiseIf _ _ _) (fun _ => ?_)
  refine refines_bind (refines_refl _) (fun _ => ?_)
  refine refines_bind (refines_refl _) (fun _ => ?_)
  refine refines_bind (refines_raiseIf _ _ _) (fun _ => ?_)
  refine refines_bind (refines_raiseIf _ _ _) (fun _ => ?_)
  refine refines_bind (refines_raiseIf _ _ _) (fun _ => ?_)
  refine refines_bind (refines_refl _) (fun _ => ?_)
  refine refines_bind (refines_refl _) (fun _ => ?_)
  refine refines_bind (refines_refl _) (fun _ => ?_)
  refine refines_bind (refines_refl _) (fun _ => ?_)
  exact refines_atomically (refines_raiseIf _ _ _)

/-- An endpoint that returns through the driver is a request that is handled. -/
theorem returns_endpoint {route : Route}
    (h : Returns (route.endpoint driver now user schema) db t db') :
    Returns (handle now sent user (route.request schema)) db (.transfer t) db' := by
  cases route with
  | create =>
      have hreturns := createTransfer_refines db t db' h
      exact returns_bind.mpr ⟨t, db', hreturns, returns_pure.mpr ⟨rfl, rfl⟩⟩
  | update transferId =>
      have hreturns := updateTransfer_refines db t db' h
      exact returns_bind.mpr ⟨t, db', hreturns, returns_pure.mpr ⟨rfl, rfl⟩⟩

/-- The row that an endpoint returns has the columns of the body. -/
theorem storedColumns_endpoint {route : Route}
    (h : Returns (route.endpoint driver now user schema) db t db') : StoredColumns t schema := by
  cases route with
  | create =>
      rcases returns_createTransfer (createTransfer_refines db t db' h) with
        ⟨_, _, _, _, _, rfl, _⟩
      exact ⟨rfl, rfl, rfl, rfl, rfl, rfl⟩
  | update transferId =>
      rcases returns_updateTransfer (updateTransfer_refines db t db' h) with
        ⟨_, _, _, _, _, _, _, rfl, _⟩
      exact ⟨rfl, rfl, rfl, rfl, rfl, rfl⟩

end Success

/-! ## Answers -/

section Answers

variable {py : Python} {pydantic : Pydantic} {driver : Driver} {db : Database} {now : Time}
  {userId : Id} {user : User} {route : Route} {body : Json}

/-- The lookup of the user ends in declared errors only. -/
theorem safeAt_getUser {α : Type} {f : User → Program Database Failure α} :
    SafeAt Failure.Declared (mapError .error (getUser userId) >>= f) db ↔
      ∀ user, db.users.find? (fun u => u.id == userId) = some user → user.isActive = true →
        SafeAt Failure.Declared (f user) db := by
  -- A missing or inactive user is an error of the service, so it is answered.
  have hsafe : RaisesOnly Error.IsSyncmaster (getUser userId) := by
    refine raisesOnly_bind (raisesOnly_query (fun db e he => ?_)) (fun _ => ?_)
    · split at he
      · rw [← Except.error.inj he]
        trivial
      · cases he
    · exact raisesOnly_bind (raisesOnly_raiseIf trivial) (fun _ => raisesOnly_pure _)
  have hlookup : SafeAt (fun e => (Failure.error e).Declared) (getUser userId) db := hsafe db
  rw [safeAt_bind, safeAt_mapError, and_iff_right hlookup]
  simp only [returns_mapError, returns_getUser]
  constructor
  · intro h user huser hactive
    exact h user db ⟨huser, hactive, rfl⟩
  · intro h user u hret
    rcases hret with ⟨huser, hactive, rfl⟩
    exact h user huser hactive

/-- A refused body is an answer, an exception of its validators is not. -/
theorem safeAt_requestBody {α β : Type} {checked : Checked β}
    {f : β → Program Database Failure α} :
    SafeAt Failure.Declared (requestBody checked >>= f) db ↔
      ¬ checked.Raises ∧ ∀ value, checked = .ok value → SafeAt Failure.Declared (f value) db := by
  rw [safeAt_bind]
  cases checked with
  | ok value =>
      simp only [requestBody, safeAt_pure, returns_pure, true_and, Validated.not_raises_ok,
        not_false_eq_true, Validated.ok.injEq, and_imp]
      constructor
      · intro h v hv
        exact h v db hv rfl
      · intro h v u hv hu
        rw [← hu]
        exact h v hv
  | invalid =>
      have hanswer : Failure.Declared .requestValidationError := trivial
      simp only [requestBody, safeAt_throw, hanswer, returns_throw, false_implies, implies_true,
        and_true, Validated.not_raises_invalid, not_false_eq_true, reduceCtorEq]
  | raised e =>
      have hnone : ¬ Failure.Declared (.exception e) := id
      simp only [requestBody, safeAt_throw, hnone, false_and, Validated.raises_raised, not_true_eq_false]

/-- What an endpoint returns can be read by the schema of the response. -/
theorem safeAt_responseBody (hexact : pydantic.Exact) {schema : CreateTransferSchema}
    (hschema : CreateTransferSchema.validate py pydantic body = .ok schema) :
    SafeAt Failure.Declared (do
      let transfer ← mapError .error (route.endpoint driver now user schema)
      responseBody (ReadTransferSchema.modelValidate py pydantic transfer)) db ↔
      SafeAt Error.IsSyncmaster (route.endpoint driver now user schema) db := by
  rw [safeAt_bind, safeAt_mapError, and_iff_left]
  · rfl
  · intro t u hret
    have hcolumns := storedColumns_endpoint (returns_mapError.mp hret)
    rcases validate_eq_ok.mp hschema with ⟨d, f, _, hf, rfl⟩
    rw [modelValidate_ok hexact hf hcolumns]
    exact safeAt_pure

theorem returns_requestBody {α : Type} {checked : Checked α} {value : α} {db' : Database} :
    Returns (requestBody checked) db value db' ↔ checked = .ok value ∧ db = db' := by
  cases checked with
  | ok v => simp only [requestBody, returns_pure, Validated.ok.injEq]
  | invalid => simp only [requestBody, returns_throw, reduceCtorEq, false_and]
  | raised e => simp only [requestBody, returns_throw, reduceCtorEq, false_and]

theorem responseBody_readOnly {α : Type} (checked : Checked α) : ReadOnly (responseBody checked) := by
  cases checked with
  | ok v => exact always_pure (fun _ => rfl) v
  | invalid => exact always_throw (fun _ => rfl) _
  | raised e => exact always_throw (fun _ => rfl) _

/-- A request that succeeds is a step of the service, with the body as the
    schema accepts it. -/
theorem send_step {response : ReadTransferSchema} {db' : Database}
    (h : Returns (send py pydantic driver now userId route body) db response db') :
    ∃ schema, CreateTransferSchema.validate py pydantic body = .ok schema ∧
      ∀ sent, db.step (.request now sent userId (route.request schema)) = db' := by
  rcases returns_bind.mp h with ⟨user, _, huser, hrest⟩
  have huser := returns_mapError.mp huser
  rcases returns_bind.mp hrest with ⟨schema, _, hbody, hrest⟩
  rcases returns_requestBody.mp hbody with ⟨hschema, rfl⟩
  rcases returns_bind.mp hrest with ⟨t, _, hendpoint, hresponse⟩
  have hendpoint := returns_mapError.mp hendpoint
  rw [← eq_of_returns (responseBody_readOnly _) hresponse] at hendpoint
  refine ⟨schema, hschema, fun sent => ?_⟩
  have hapi : Returns (api now sent userId (route.request schema)) db (.transfer t) db' :=
    returns_bind.mpr ⟨user, _, huser, returns_endpoint hendpoint⟩
  exact after_of_returns (returns_bind.mpr ⟨_, _, hapi, returns_pure.mpr ⟨rfl, rfl⟩⟩)

/-! ## An answer and an exception -/

def answeredBody : Dict :=
  [("group_id", .num 1), ("queue_id", .num 1), ("source_connection_id", .num 1),
    ("target_connection_id", .num 1), ("name", .str "convert"),
    ("source_params", .obj [("type", .str "postgres"), ("table_name", .str "public.source")]),
    ("target_params", .obj [("type", .str "postgres"), ("table_name", .str "public.target")])]

/-- An incremental strategy, and nothing else. -/
def strategyBody : Dict :=
  [("strategy_params", .obj [("type", .str "incremental"), ("increment_by", .str "id")])]

def answeredFields : TransferFields where
  groupId := 1
  queueId := 1
  sourceConnectionId := 1
  targetConnectionId := 1
  name := ⟨"convert", by decide⟩
  description := ""
  sourceParams := .db ⟨.postgres, rfl⟩ "public.source"
  targetParams := .db ⟨.postgres, rfl⟩ "public.target"
  strategyParams := .full
  transformations := []
  resources := {}
  isScheduled := false
  schedule := none

theorem transferFields_answeredBody :
    transferFields asciiPython plainPydantic answeredBody = .ok answeredFields := by
  rfl

theorem columnsCope_answeredFields (h) :
    plainDriver.ColumnsCope (answeredFields.toSchema h) := by
  have hsource : (Json.obj answeredFields.sourceParams.modelDump.modelDump).Searchable := by decide
  have htarget : (Json.obj answeredFields.targetParams.modelDump.modelDump).Searchable := by decide
  have hname : NulFree "convert" := by decide
  have hdescription : Storable "" 512 := by decide
  have hschedule : Storable "" 32 := by decide
  have hvector :
      plainDriver.vectorSize ["convert", "public.source", "public.target", "", ""] < 2 ^ 20 := by
    decide
  exact ⟨Nat.le_of_ble_eq_true rfl, Nat.le_of_ble_eq_true rfl, hvector,
    ⟨hname, hdescription, hschedule, hsource, htarget, by rfl⟩⟩

theorem copes_answeredBody (db : Database) (user : User) :
    Copes asciiPython plainPydantic plainDriver db user .create (.obj answeredBody) := by
  refine ⟨fun d hd => ?_, fun schema hschema => ?_⟩
  · have hcope : ValidatorsCope asciiPython plainPydantic answeredBody := by
      by_contra hcope
      have hraises := raises_transferFields.mpr hcope
      rw [transferFields_answeredBody] at hraises
      exact Validated.not_raises_ok _ hraises
    rw [← Json.obj.inj hd]
    exact hcope
  · rcases validate_eq_ok.mp hschema with ⟨d, f, hd, hf, rfl⟩
    cases hd
    cases transferFields_answeredBody.symm.trans hf
    have hone : InBigint 1 := by decide
    refine ⟨hone, fun _ => ⟨hone, fun _ => hone, fun _ _ => hone⟩, fun _ _ => ?_⟩
    exact columnsCope_answeredFields (validators_passed hf)

/-- The database with one user in it. -/
def loggedIn : Database :=
  [Event.login "owner"].foldl Database.step Database.empty

end Answers

end SyncMaster
