import SyncMaster.Credentials.Update
import SyncMaster.Schemas.TransferParams
import SyncMaster.Tenancy.ReadIsolation

/-!
# Answers

What the caller of the API gets for an error.

`syncmsater_exception_handler` has one branch for each error that the service
declares. What is left over is a server error: the bases of the hierarchy, which
are meant to be replaced by something more telling on the way, and whatever the
database raises. So the question is whether these ever get out.

Of the requests that write, two kinds get out. The schemas accept what the columns
do not take, a description that is too long or a name with a NUL in it, and what
`send_task` raises is caught only if it is an error of the broker. Everything else
that the database may refuse is either turned into a declared error by the
repository, or it does not happen in a state of the service: a row that a check
has found is there to be updated, the keys are unique, a connection that has
just been inserted has no credentials yet, and the rows that are copied fit
their columns since they were stored.

What the driver cannot encode is left aside here: identifiers outside the range of
their column, and bodies that are nested too deeply or too long to be searched.

## Main definitions

* `ErrorResponse`: Status, code and message.
* `Error.response`, `Failure.response`: The handlers.
* `Request.Fits`: The texts of a request fit their columns.
* `StoredFits`: The texts of the stored rows do.

## Theorems

* `reachable_storedFits`: They do in every reachable state.
* `safe_createConnection` and its siblings: One for each endpoint that writes.
* `handled_of_fits`: No server error for a request whose texts fit.
-/

namespace SyncMaster

open Program

/-! ## The handlers -/

/-- `status` with the content of an `APIErrorSchema`. -/
structure ErrorResponse where
  status : Nat
  code : String
  message : String
  deriving DecidableEq, Repr

namespace ErrorResponse

/-- `BadRequestSchema` leaves the code as it is. -/
def badRequest (message : String) : ErrorResponse :=
  ⟨400, "bad_request", message⟩

def forbidden (message : String) : ErrorResponse :=
  ⟨403, "forbidden", message⟩

def notFound (message : String) : ErrorResponse :=
  ⟨404, "not_found", message⟩

def conflict (message : String) : ErrorResponse :=
  ⟨409, "conflict", message⟩

/-- The end of `syncmsater_exception_handler`. -/
def unhandled : ErrorResponse :=
  ⟨500, "unknown", "Got unhandled exception. See logs"⟩

/-- `unknown_exception_handler` -/
def unknown : ErrorResponse :=
  ⟨500, "unknown", "Got unhandled exception. Please contact support"⟩

/-- `validation_exception_handler` -/
def invalidRequest : ErrorResponse :=
  ⟨422, "invalid_request", "Invalid request"⟩

end ErrorResponse

def Status.value : Status → String
  | .created => "CREATED"
  | .started => "STARTED"
  | .failed => "FAILED"
  | .sendStopSignal => "SEND_STOP_SIGNAL"
  | .stopped => "STOPPED"
  | .finished => "FINISHED"

/-- `conn.capitalize()` -/
def Side.capitalize : Side → String
  | .source => "Source"
  | .target => "Target"

open ErrorResponse in
/-- `syncmsater_exception_handler`, and `unknown_exception_handler` for the errors that
    are no `SyncmasterError`. -/
def Error.response : Error → ErrorResponse
  | .authDataNotFoundError message => notFound ("Credentials not found. " ++ message)
  | .connectionDeleteError message => conflict message
  | .actionNotAllowedError => forbidden "You have no power here"
  | .groupNotFoundError => notFound "Group not found"
  | .runNotFoundError => notFound "Run not found"
  | .queueNotFoundError => notFound "Queue not found"
  | .groupAlreadyExistsError => conflict "Group name already taken"
  | .alreadyIsNotGroupMemberError => conflict "User already is not group member"
  | .alreadyIsGroupMemberError => conflict "User already is group member"
  | .alreadyIsGroupOwnerError => conflict "User already is group owner"
  | .userNotFoundError => notFound "User not found"
  | .connectionNotFoundError => notFound "Connection not found"
  | .transferNotFoundError => notFound "Transfer not found"
  | .connectionTypeUpdateError => conflict
      "You cannot update the connection type of a connection already associated with a transfer."
  | .connectionAuthDataUpdateError => conflict
      "You cannot update the connection auth type without providing a new secret value."
  | .differentTransferAndConnectionsGroupsError =>
      badRequest "Connections should belong to the transfer group"
  | .differentTransferAndQueueGroupError => badRequest "Queue should belong to the transfer group"
  | .differentTypeConnectionsAndParamsError connectionType paramsType conn => badRequest
      (conn.capitalize ++ " connection has type `" ++ connectionType.value ++
        "` but its params has `" ++ paramsType.value ++ "` type")
  | .queueDeleteError message => conflict message
  | .duplicatedConnectionNameError => conflict
      "The connection name already exists in the target group, please specify a new one"
  | .duplicatedTransferNameError => conflict
      "The transfer name already exists in the target group, please specify a new one"
  | .duplicatedQueueNameError => conflict
      "The queue name already exists in the target group, please specify a new one"
  | .cannotConnectToTaskQueueError runId =>
      ⟨503, "service_unavaliable",
        "Syncmaster not connected to task queue. Run " ++ toString runId ++ " was failed"⟩
  | .cannotStopRunError runId currentStatus => badRequest
      ("Cannot stop run " ++ toString runId ++ ". Current status is " ++ currentStatus.value)
  | .entityNotFoundError | .syncmasterError => unhandled
  | .noResultFound | .multipleResultsFound | .integrityError _ | .dataError | .keyError _
  | .sendTaskError => unknown

/-- The answer to a request that has failed. -/
def Failure.response : Failure → ErrorResponse
  | .requestValidationError => .invalidRequest
  | .error e => e.response
  | .exception _ => .unknown

/-- The error is answered as something that the caller can do something about. -/
def Error.Handled (e : Error) : Prop :=
  e.response.status ≠ 500

instance (e : Error) : Decidable e.Handled :=
  inferInstanceAs (Decidable (_ ≠ _))

/-! ## Bodies and columns -/

/-- The columns take what the schema accepts. The slug has no description to bound it. -/
structure CreateQueueSchema.FitsColumns (body : CreateQueueSchema) : Prop where
  slug : Fits body.slug 256
  description : Storable body.description 512

/-- The column takes a name that is given. -/
def NameFits (name : Option NameConstr) : Prop :=
  ∀ given ∈ name, NulFree given.val

/-- The columns take the body of the request. -/
def Request.Fits : Request → Prop
  | .createConnection body | .updateConnection _ body => body.FitsColumns
  | .copyConnection _ body => NameFits body.newName
  | .createQueue body => body.FitsColumns
  | .updateQueue _ body => Storable body.description 512
  | .createTransfer body | .updateTransfer _ body => body.FitsColumns
  | .copyTransfer _ body =>
      NameFits body.newName ∧ NameFits body.newSourceConnectionName ∧
        NameFits body.newTargetConnectionName
  | .createGroup body => body.FitsColumns
  | .updateGroup _ body => body.FitsColumns
  | _ => True

/-- The rows that are copied, or updated in part. -/
structure StoredFits (db : Database) : Prop where
  connections : ∀ c ∈ db.connections, c.ColumnsFit
  queues : ∀ q ∈ db.queues, q.ColumnsFit
  transfers : ∀ t ∈ db.transfers, t.ColumnsFit

section Columns

variable {db db' : Database}

theorem storedFits_shrinks (h : StoredFits db) (hs : Shrinks db db') : StoredFits db' where
  connections := fun c hc => h.connections c (hs.connections.subset hc)
  queues := fun q hq => h.queues q (hs.queues.subset hq)
  transfers := fun t ht => h.transfers t (hs.transfers.subset ht)

/-- A row that passes the constraints of its table fits. -/
theorem checkedStep_storedFits {w : Write} (h : StoredFits db) (hstep : checkedStep db w db') :
    StoredFits db' := by
  rcases hstep with ⟨hc, rfl⟩
  cases w with
  | insertConnection c =>
      exact { h with connections := Table.forall_insert h.connections (connection_satisfied.mp hc.2).1 }
  | updateConnection c =>
      exact { h with connections := Table.forall_update h.connections (connection_satisfied.mp hc).1 }
  | insertQueue q =>
      exact { h with queues := Table.forall_insert h.queues (queue_satisfied.mp hc.2).1 }
  | updateQueue q =>
      exact { h with queues := Table.forall_update h.queues (queue_satisfied.mp hc).1 }
  | insertTransfer t =>
      exact { h with transfers := Table.forall_insert h.transfers (transfer_satisfied.mp hc.2).1 }
  | updateTransfer t =>
      exact { h with transfers := Table.forall_update h.transfers (transfer_satisfied.mp hc).1 }
  | deleteGroup => exact storedFits_shrinks h (shrinks_deleteGroups _)
  | deleteConnection => exact storedFits_shrinks h (shrinks_deleteConnections _)
  | deleteQueue => exact storedFits_shrinks h (shrinks_deleteQueues _)
  | deleteTransfer => exact storedFits_shrinks h (shrinks_deleteTransfers _)
  | _ => exact ⟨h.connections, h.queues, h.transfers⟩

theorem reachable_storedFits (hdb : Reachable db) : StoredFits db :=
  reachable_of_checked
    ⟨fun _ h => absurd h List.not_mem_nil, fun _ h => absurd h List.not_mem_nil,
      fun _ h => absurd h List.not_mem_nil⟩
    (fun _ _ _ h hstep => checkedStep_storedFits h hstep) hdb

end Columns

/-! ## Statements -/

section Statements

variable {db : Database} {Row : Type} {model : Model Row}

/-- The errors of a list of checks are those of its members that fail. -/
theorem firstViolation_error {checks : List Check} {e : Error}
    (h : firstViolation checks = .error e) : ∃ c ∈ checks, c.1 = false ∧ c.2 = e := by
  unfold firstViolation at h
  split at h
  · rename_i c hfind
    refine ⟨c, List.mem_of_find?_eq_some hfind, ?_, Except.error.inj h⟩
    have hfails := List.find?_some hfind
    rwa [Bool.not_eq_true'] at hfails
  · cases h

/-- The constraints of a row that may fail are answered. None of them is about a row that
    is not found. -/
def Model.Answered (model : Model Row) (handle : Error → Error) (db : Database)
    (others : List Row) (row : Row) : Prop :=
  ∀ c ∈ model.constraints db others row, c.1 = false →
    c.2 ≠ .noResultFound ∧ (handle c.2).Handled

theorem safe_insertRow {handle : Error → Error} {row : Row}
    (h : model.Answered handle db (model.rows db) row) :
    SafeAt Error.Handled (catching handle (insertRow model row)) db := by
  rw [safeAt_catching, safeAt_insertRow]
  intro e he
  rcases firstViolation_error he with ⟨c, hc, hfails, rfl⟩
  exact (h c hc hfails).2

theorem safe_updateRow {handle : Error → Error} {notFound : Error} {cond : Row → Bool}
    {values : Row → Row} {old : Row} (hold : (model.rows db).filter cond = [old])
    (h : model.Answered handle db (Table.delete cond (model.rows db)) (values old)) :
    SafeAt Error.Handled
      (catching (fun e => handle (notFoundAs notFound e)) (updateRow model cond values)) db := by
  rw [safeAt_catching, safeAt_updateRow hold]
  intro e he
  rcases firstViolation_error he with ⟨c, hc, hfails, rfl⟩
  rcases h c hc hfails with ⟨hne, hhandled⟩
  have hsame : notFoundAs notFound c.2 = c.2 := by
    unfold notFoundAs
    split
    · exact absurd (by assumption) hne
    · rfl
  rw [hsame]
  exact hhandled

/-- The row that is updated may be missing. -/
theorem safe_updateFound {handle : Error → Error} {notFound : Error} {cond : Row → Bool}
    {values : Row → Row} (hlength : ((model.rows db).filter cond).length ≤ 1)
    (hnotFound : (handle notFound).Handled)
    (h : ∀ old, model.Answered handle db (Table.delete cond (model.rows db)) (values old)) :
    SafeAt Error.Handled
      (catching (fun e => handle (notFoundAs notFound e)) (updateRow model cond values)) db := by
  match hrows : (model.rows db).filter cond, hlength with
  | [old], _ => exact safe_updateRow hrows (h old)
  | [], _ =>
      rw [safeAt_catching]
      refine (safeAt_bind_read (readOnly_query _)).mpr ⟨safeAt_query.mpr (fun e he => ?_), ?_⟩
      · rw [hrows] at he
        cases he
        exact hnotFound
      · intro row hrow
        have hone := (returns_query.mp hrow).1
        rw [hrows] at hone
        cases hone

/-- The row that is updated is there. -/
theorem safe_update {handle : Error → Error} {cond : Row → Bool} {values : Row → Row} {old : Row}
    (hold : (model.rows db).filter cond = [old])
    (h : model.Answered handle db (Table.delete cond (model.rows db)) (values old)) :
    SafeAt Error.Handled (catching handle (Repository.update model cond values)) db := by
  have hrow : SafeAt Error.Handled (catching (fun e => handle (notFoundAs .entityNotFoundError e))
      (updateRow model cond values)) db := safe_updateRow hold h
  unfold Repository.update
  rw [safeAt_catching] at hrow ⊢
  rw [safeAt_catching]
  exact hrow

/-- The row that a key names, if there is one. -/
theorem safe_readOne {rows : Database → List Row} {cond : Row → Bool} {notFound : Error}
    (hlength : ((rows db).filter cond).length ≤ 1) (h : notFound.Handled) :
    SafeAt Error.Handled (catching (notFoundAs notFound)
      (query (fun db => one ((rows db).filter cond)))) db := by
  rw [safeAt_catching, safeAt_query]
  intro e he
  match hrows : (rows db).filter cond, hlength with
  | [], _ =>
      rw [hrows] at he
      cases he
      exact h
  | [r], _ =>
      rw [hrows] at he
      cases he

theorem safe_deleteRow {cond : Row → Bool} {notFound : Error}
    (hlength : ((model.rows db).filter cond).length ≤ 1) (h : notFound.Handled) :
    SafeAt Error.Handled (catching (notFoundAs notFound) (deleteRow model cond)) db := by
  have hread := safe_readOne hlength h
  rw [safeAt_catching] at hread ⊢
  unfold deleteRow
  refine safeAt_bind.mpr ⟨hread, fun _ _ _ => ?_⟩
  exact safeAt_bind.mpr ⟨safeAt_execute, fun _ _ _ => safeAt_pure⟩

/-- The row that is copied is there. -/
theorem safe_copy {handle : Error → Error} {s : Sequence} {cond : Row → Bool}
    {values : Id → Row → Row} {origin : Row} (horigin : (model.rows db).filter cond = [origin])
    (h : ∀ id db', model.Answered handle db' (model.rows db') (values id origin)) :
    SafeAt Error.Handled (catching handle (Repository.copy model s cond values)) db := by
  have hone : one ((model.rows db).filter cond) = .ok origin := one_eq_ok_iff.mpr horigin
  rw [safeAt_catching]
  refine (safeAt_bind_read (readOnly_query _)).mpr ⟨safeAt_query.mpr (fun e he => ?_), ?_⟩
  · rw [hone] at he
    cases he
  · intro row hrow
    have hrow := (returns_query.mp hrow).1
    rw [hone] at hrow
    rw [← Except.ok.inj hrow]
    refine safeAt_bind.mpr ⟨safeAt_nextval, fun id u _ => ?_⟩
    rw [← safeAt_catching]
    exact safe_insertRow (h id u)

/-- A check in front of a program. -/
theorem safe_check {α : Type} {c : Prop} [Decidable c] {e : Error} {x : Db α} (he : e.Handled)
    (h : ¬ c → SafeAt Error.Handled x db) : SafeAt Error.Handled (do raiseIf c e; x) db :=
  safeAt_raiseIf_bind.mpr ⟨fun _ => he, h⟩

theorem safe_unitOfWork {α β : Type} {x : Db α} {f : α → Db β} (hx : SafeAt Error.Handled x db)
    (hf : ∀ a db', Returns x db a db' → SafeAt Error.Handled (f a) db') :
    SafeAt Error.Handled (unitOfWork x >>= f) db :=
  safeAt_bind.mpr ⟨safeAt_atomically.mpr hx, fun a db' ha => hf a db' (returns_atomically.mp ha)⟩

/-- A program whose result is only handed on. -/
theorem safe_return {α β : Type} {x : Db α} {f : α → β} (hx : SafeAt Error.Handled x db) :
    SafeAt Error.Handled (do let a ← x; return f a) db :=
  safeAt_bind.mpr ⟨hx, fun _ _ _ => safeAt_pure⟩

variable {rights : GroupMemberRole → Permission} {user : User}

/-- The permission on a group is asked for, and the group is there. -/
theorem safe_groupGuard {α : Type} {groupId : Id} {f : Permission → Db α}
    (h : (∃ g ∈ db.groups, g.id = groupId) → ∀ p, SafeAt Error.Handled (f p) db) :
    SafeAt Error.Handled
      (query (fun db => groupPermission rights db user groupId) >>= f) db := by
  refine (safeAt_bind_read (readOnly_query _)).mpr ⟨safeAt_query.mpr (fun e he => ?_), ?_⟩
  · rw [groupPermission_eq_error he]
    decide
  · intro p hp
    exact h (group_exists_of_groupPermission (returns_query.mp hp).1) p

/-- The permission on a row is asked for, and the row is there. -/
theorem safe_resourceGuard {α : Type} {resource : Row → ResourceMixin} {resourceId : Id}
    {notFound : Error} {f : Permission → Db α} (hnotFound : notFound.Handled)
    (h : ∀ row ∈ model.rows db, (resource row).id = resourceId →
      ∀ p, SafeAt Error.Handled (f p) db) :
    SafeAt Error.Handled (do
      let p ← query (fun db => .ok (resourcePermission rights model resource db user resourceId))
      raiseIf (p = .none) notFound
      f p) db := by
  rw [safeAt_query_bind]
  refine safe_check hnotFound (fun hne => ?_)
  rcases exists_permitted_of_resourcePermission none_lt_read (not_lt_read_of_ne_none hne) with
    ⟨row, hrow, hid, _⟩
  exact h row hrow hid _

end Statements

/-! ## The endpoints -/

section Rows

variable {db : Database}

theorem connection_answered {others : List Connection} {c : Connection} (h : c.ColumnsFit) :
    Connection.model.Answered ConnectionRepository.raiseError db others c := by
  simp only [Model.Answered, Connection.model, List.forall_mem_cons, fits, searchable,
    decide_eq_false_iff_not]
  exact ⟨fun hname => absurd h.name hname, fun hdescription => absurd h.description hdescription,
    fun hdata => absurd h.data hdata, fun _ => by decide, fun _ => by decide,
    fun _ hc => absurd hc List.not_mem_nil⟩

theorem transfer_answered {others : List Transfer} {t : Transfer} (h : t.ColumnsFit) :
    Transfer.model.Answered TransferRepository.raiseError db others t := by
  simp only [Model.Answered, Transfer.model, List.forall_mem_cons, fits, searchable, storable,
    decide_eq_false_iff_not]
  exact ⟨fun hname => absurd h.name hname, fun hdescription => absurd h.description hdescription,
    fun hschedule => absurd h.schedule hschedule, fun hsource => absurd h.sourceParams hsource,
    fun htarget => absurd h.targetParams htarget, fun hjson => absurd h.transformations hjson,
    fun _ => by decide, fun _ => by decide, fun _ => by decide, fun _ => by decide,
    fun _ => by decide, fun _ hc => absurd hc List.not_mem_nil⟩

theorem group_answered {others : List Group} {g : Group} (h : g.ColumnsFit) :
    Group.model.Answered GroupRepository.raiseError db others g := by
  simp only [Model.Answered, Group.model, List.forall_mem_cons, fits, decide_eq_false_iff_not]
  exact ⟨fun hname => absurd h.name hname, fun hdescription => absurd h.description hdescription,
    fun _ => by decide, fun _ => by decide, fun _ hc => absurd hc List.not_mem_nil⟩

theorem userGroup_answered {others : List UserGroup} {ug : UserGroup} :
    UserGroup.model.Answered GroupRepository.raiseError db others ug := by
  simp only [Model.Answered, UserGroup.model, List.forall_mem_cons]
  exact ⟨fun _ => by decide, fun _ => by decide, fun _ => by decide,
    fun _ hc => absurd hc List.not_mem_nil⟩

theorem run_answered {others : List Run} {r : Run} :
    Run.model.Answered RunRepository.raiseError db others r := by
  simp only [Model.Answered, Run.model, List.forall_mem_cons]
  exact ⟨fun _ => by decide, fun _ hc => absurd hc List.not_mem_nil⟩

/-- The repository has no error of its own for a queue without a group. -/
theorem queue_answered {others : List Queue} {q : Queue} (h : q.ColumnsFit)
    (hgroup : ∃ g ∈ db.groups, g.id = q.groupId) :
    Queue.model.Answered QueueRepository.raiseError db others q := by
  have hany : db.groups.any (fun g => g.id == q.groupId) = true := by
    simpa only [List.any_eq_true, beq_iff_eq] using hgroup
  simp only [Model.Answered, Queue.model, List.forall_mem_cons, fits, decide_eq_false_iff_not, hany]
  exact ⟨fun hname => absurd h.name hname, fun hslug => absurd h.slug hslug,
    fun hdescription => absurd h.description hdescription, fun _ => by decide,
    fun htrue => absurd htrue.symm Bool.false_ne_true, fun _ hc => absurd hc List.not_mem_nil⟩

/-- Nor for credentials. -/
theorem authData_answered {others : List AuthData} {a : AuthData} {handle : Error → Error}
    (hnew : ∀ b ∈ others, b.connectionId ≠ a.connectionId)
    (hconnection : ∃ c ∈ db.connections, c.id = a.connectionId) :
    AuthData.model.Answered handle db others a := by
  have hany : db.connections.any (fun c => c.id == a.connectionId) = true := by
    simpa only [List.any_eq_true, beq_iff_eq] using hconnection
  have hnone : others.any (fun b => b.connectionId == a.connectionId) = false := by
    rw [List.any_eq_false]
    intro b hb hid
    exact hnew b hb (beq_iff_eq.mp hid)
  simp only [Model.Answered, AuthData.model, List.forall_mem_cons, hany, hnone]
  exact ⟨fun htrue => absurd htrue.symm Bool.false_ne_true,
    fun htrue => absurd htrue.symm Bool.false_ne_true, fun _ hc => absurd hc List.not_mem_nil⟩

end Rows

section Endpoints

variable {db : Database} {now : Time} {sent : SendTask} {user : User}

theorem length_byId_le_one {Row : Type} {rows : List Row} {key : Row → Id}
    (hd : Table.Distinct key rows) (id : Id) : (rows.filter (fun r => key r == id)).length ≤ 1 :=
  Table.length_filter_le_one key hd (fun _ _ hr => beq_iff_eq.mp hr)

/-! ### Connections -/

theorem safe_readConnection (hkeys : Keys db) (connectionId : Id) :
    SafeAt Error.Handled (ConnectionRepository.readById connectionId) db :=
  safe_readOne (length_byId_le_one hkeys.connections connectionId) (by decide)

theorem safe_readCredentials (hkeys : Keys db) (connectionId : Id) :
    SafeAt Error.Handled (CredentialsRepository.read connectionId) db := by
  have hnotFound : ∀ message, (Error.authDataNotFoundError message).Handled :=
    fun _ => (by decide : (404 : Nat) ≠ 500)
  exact safe_return
    (safe_readOne (length_byId_le_one hkeys.authData connectionId) (hnotFound _))

/-- The credentials of a connection that was just inserted. -/
theorem safe_createCredentials (hdb : Consistent db) {c : Connection} {db₁ : Database}
    (hinsert : checkedStep db (.insertConnection c) db₁) (value : AuthValue) :
    SafeAt Error.Handled (CredentialsRepository.create now c.id value) db₁ := by
  have hfresh := fresh_of_below hdb.keys.connectionsBelow hinsert.1.1
  rw [hinsert.2]
  refine safe_insertRow (authData_answered (fun b hb hid => ?_) ?_)
  · rcases hdb.resourceLinks.credentials b hb with ⟨d, hd, hdid⟩
    exact hfresh d hd (hdid.trans hid)
  · exact ⟨c, List.mem_append_right _ (List.mem_singleton.mpr rfl), rfl⟩

theorem safe_createConnection (hdb : Consistent db) {body : CreateConnectionSchema}
    (hfits : body.FitsColumns) :
    SafeAt Error.Handled (createConnection now user body) db := by
  refine safe_groupGuard (fun _ p => safe_check (by decide) (fun _ => safe_check (by decide)
    (fun _ => safe_unitOfWork ?_ ?_)))
  · refine safeAt_bind.mpr ⟨?_, fun c db₁ hc => safeAt_bind.mpr ⟨?_, fun _ _ _ => safeAt_pure⟩⟩
    · refine safeAt_bind.mpr ⟨safeAt_nextval, fun id u _ => safe_insertRow ?_⟩
      exact connection_answered (ConnectionRepository.created_columnsFit.mpr hfits)
    · exact safe_createCredentials hdb (ConnectionRepository.returns_create.mp hc).2 _
  · intro c db' hc
    simp only [returns_bind, returns_pure, ConnectionRepository.returns_create,
      CredentialsRepository.returns_create] at hc
    rcases hc with ⟨_, db₁, ⟨_, hinsert⟩, _, _, ⟨_, hcreds⟩, _, rfl⟩
    have hdb' := checkedStep_consistent (checkedStep_consistent hdb hinsert) hcreds
    exact safe_return (safe_readCredentials hdb'.keys _)

/-- The loop over the secrets finds what it looks up. -/
theorem keepSecrets_error {existing authData : AuthValue} {secretFields : List String} {e : Error}
    (hrequest : ∀ f ∈ secretFields, f ∈ authData.fields.map Prod.fst)
    (hstored : existing.type = authData.type →
      ∀ f ∈ secretFields, f ∈ existing.fields.map Prod.fst)
    (h : keepSecrets existing secretFields authData = .error e) :
    e = .connectionAuthDataUpdateError := by
  induction secretFields generalizing authData with
  | nil => cases h
  | cons secretField rest ih =>
      have hhere := hrequest secretField List.mem_cons_self
      have hrest : ∀ f ∈ rest, f ∈ authData.fields.map Prod.fst :=
        fun f hf => hrequest f (List.mem_cons_of_mem _ hf)
      rcases Assoc.exists_lookup hhere with ⟨value, hlookup⟩
      cases hvalue : value.isNull with
      | false =>
          rw [keepSecrets_cons_given hlookup hvalue] at h
          exact ih hrest (fun htype f hf => hstored htype f (List.mem_cons_of_mem _ hf)) h
      | true =>
          have hnull : authData.fields.lookup secretField = some .null := by
            rw [hlookup, Json.isNull_iff.mp hvalue]
          by_cases htype : existing.type = authData.type
          · rcases Assoc.exists_lookup (hstored htype secretField List.mem_cons_self) with
              ⟨stored, hfound⟩
            rw [keepSecrets_cons_omitted hnull htype hfound] at h
            -- Filling a secret in sets a field that is there, so the names of the fields stay.
            have hkeys : (authData.fields.set secretField stored).map Prod.fst =
                authData.fields.map Prod.fst := by
              rw [set_of_mem hhere stored, List.map_map]
              rfl
            exact @ih { authData with fields := authData.fields.set secretField stored }
              (hkeys ▸ hrest) (fun htype f hf => hstored htype f (List.mem_cons_of_mem _ hf)) h
          · rw [keepSecrets_cons_refused hnull htype] at h
            exact (Except.error.inj h).symm

/-- The loop, for a valid body and credentials that were stored. -/
theorem keepSecrets_handled {stored : AuthValue} {authData : AuthValue} {e : Error}
    (hvalid : UpdateCredentials authData) (hstored : StoredCredentials stored)
    (h : keepSecrets stored authData.type.secretFields authData = .error e) : e.Handled := by
  have herror := keepSecrets_error (fun f hf => by
      rw [keys_of_update hvalid]
      exact mem_fieldNames_of_secret hf)
    (fun htype f hf => by
      rw [keys_of_stored hstored, htype]
      exact mem_fieldNames_of_secret hf) h
  rw [herror]
  decide

/-- The credentials of a connection that is there. -/
theorem safe_updateCredentials (hdb : Consistent db) {stored : AuthData} {connectionId : Id}
    (hstored : db.authData.filter (fun a => a.connectionId == connectionId) = [stored])
    (value : AuthValue) :
    SafeAt Error.Handled (CredentialsRepository.update now connectionId value) db := by
  have hrow := Table.mem_of_filter_eq hstored
  have hid : stored.connectionId = connectionId := beq_iff_eq.mp hrow.2
  refine safe_update hstored (authData_answered (fun b hb hbid => ?_) ?_)
  · have hother := (List.mem_filter.mp hb).2
    rw [Bool.not_eq_true', beq_eq_false_iff_ne] at hother
    exact hother (hbid.trans hid)
  · exact hdb.resourceLinks.credentials stored hrow.1

theorem safe_updateConnection (hdb : Consistent db) (hwell : WellStored db)
    {connectionId : Id} {body : UpdateConnectionSchema} (hvalid : ValidUpdate body)
    (hfits : body.FitsColumns) :
    SafeAt Error.Handled (updateConnection now user connectionId body) db := by
  refine safe_resourceGuard (by decide) (fun _ _ _ p => safe_check (by decide) (fun _ => ?_))
  refine safe_unitOfWork ?_ (fun c db' hc => ?_)
  · refine (safeAt_bind_read (always_catching (readOnly_query _))).mpr
      ⟨safe_readConnection hdb.keys _, fun old hold => ?_⟩
    have hrow := (ConnectionRepository.returns_readById.mp hold).1
    rw [safeAt_query_bind]
    refine safe_check (by decide) (fun _ => ?_)
    refine (safeAt_bind_read (readOnly_readCredentials _)).mpr
      ⟨safe_readCredentials hdb.keys _, fun value hvalue => ?_⟩
    rcases CredentialsRepository.returns_read.mp hvalue with ⟨⟨stored, hstored, rfl⟩, _⟩
    have hold := Table.mem_of_filter_eq hrow
    have hkept := Table.mem_of_filter_eq hstored
    have hlinked : stored.connectionId = old.id :=
      (beq_iff_eq.mp hkept.2).trans (beq_iff_eq.mp hold.2).symm
    -- What is stored was accepted as a whole, so the missing secrets can be filled in.
    have haccepted := stored_of_acceptedTogether (hwell old hold.1 stored hkept.1 hlinked)
    refine (safeAt_bind_read (readOnly_query _)).mpr ⟨safeAt_query.mpr (fun e he =>
      keepSecrets_handled (updateCredentials_of_valid hvalid) haccepted he), fun value _ => ?_⟩
    refine safeAt_bind.mpr ⟨?_, fun c db₁ hc => safe_return ?_⟩
    · exact safe_update hrow
        (connection_answered (ConnectionRepository.updated_columnsFit.mpr hfits))
    · rcases ConnectionRepository.returns_update.mp hc with ⟨_, _, _, hupdate⟩
      have hcredentials :
          db₁.authData.filter (fun a => a.connectionId == connectionId) = [stored] := by
        rw [hupdate.2]
        exact hstored
      exact safe_updateCredentials (checkedStep_consistent hdb hupdate) hcredentials _
  · simp only [returns_bind, returns_pure, returns_query, returns_raiseIf,
      ConnectionRepository.returns_readById, CredentialsRepository.returns_read,
      ConnectionRepository.returns_update, CredentialsRepository.returns_update] at hc
    rcases hc with ⟨_, _, ⟨_, rfl⟩, _, _, ⟨_, rfl⟩, _, _, ⟨_, rfl⟩, _, _, ⟨_, rfl⟩, _, _,
      ⟨_, rfl⟩, _, db₁, ⟨_, _, _, hupdate⟩, _, _, ⟨_, _, _, hcreds⟩, _, rfl⟩
    have hdb' := checkedStep_consistent (checkedStep_consistent hdb hupdate) hcreds
    exact safe_return (safe_readCredentials hdb'.keys _)

/-- A row is deleted by its identifier. -/
theorem safe_deleteConnectionRow (hkeys : Keys db) (connectionId : Id) :
    SafeAt Error.Handled (ConnectionRepository.delete connectionId) db :=
  safe_deleteRow (length_byId_le_one hkeys.connections connectionId) (by decide)

theorem safe_deleteConnection (hdb : Consistent db) (connectionId : Id) :
    SafeAt Error.Handled (deleteConnection user connectionId) db := by
  have hhandled : ∀ message, (Error.connectionDeleteError message).Handled :=
    fun _ => (by decide : (409 : Nat) ≠ 500)
  refine safe_resourceGuard (by decide) (fun _ _ _ p => safe_check (by decide) (fun _ => ?_))
  refine (safeAt_bind_read (always_catching (readOnly_query _))).mpr
    ⟨safe_readConnection hdb.keys _, fun c _ => ?_⟩
  rw [safeAt_query_bind]
  refine safe_check (hhandled _) (fun _ => safe_unitOfWork ?_ (fun _ _ _ => safeAt_pure))
  exact safe_deleteConnectionRow hdb.keys _

/-- A name that takes the place of another. -/
theorem fits_newName {name : String} {newName : Option NameConstr} (hname : Fits name 128)
    (h : NameFits newName) : Fits ((newName.map (·.val)).getD name) 128 := by
  cases newName with
  | none => exact hname
  | some given => exact fits_name_iff.mpr (h given rfl)

/-- The columns of the row that is copied have fitted before. -/
theorem safe_copyConnectionRow (hstored : StoredFits db) {connectionId : Id} {origin : Connection}
    (horigin : db.connections.filter (fun c => c.id == connectionId) = [origin]) (newGroupId : Id)
    {newName : Option NameConstr} (hname : NameFits newName) :
    SafeAt Error.Handled
      (ConnectionRepository.copy connectionId newGroupId (newName.map (·.val))) db := by
  have hfits := hstored.connections origin (Table.mem_of_filter_eq horigin).1
  exact safe_copy horigin (fun id _ => connection_answered
    { hfits with name := fits_newName hfits.name hname })

theorem safe_copyConnection (hdb : Consistent db) (hstored : StoredFits db) (connectionId : Id)
    {body : ConnectionCopySchema} (hname : NameFits body.newName) :
    SafeAt Error.Handled (copyConnection user connectionId body) db := by
  refine safe_resourceGuard (by decide) (fun row hrow hid p => safe_check (by decide) (fun _ => ?_))
  refine safe_groupGuard (fun _ p => safe_check (by decide) (fun _ => safe_check (by decide)
    (fun _ => safe_unitOfWork ?_ (fun _ _ _ => safeAt_pure))))
  have horigin := Table.filter_key_eq (fun c : Connection => c.id) hdb.keys.connections hrow hid
  refine safeAt_bind.mpr ⟨safe_copyConnectionRow hstored horigin _ hname, fun c db₁ hc => ?_⟩
  rcases ConnectionRepository.returns_copy.mp hc with ⟨_, _, _, hinsert⟩
  split
  · exact safe_return (safe_deleteConnectionRow (checkedStep_consistent hdb hinsert).keys _)
  · exact safeAt_pure

/-! ### Queues -/

theorem safe_createQueue {body : CreateQueueSchema}
    (hfits : body.FitsColumns) :
    SafeAt Error.Handled (createQueue now user body) db := by
  refine safe_groupGuard (fun hgroup p => safe_check (by decide) (fun _ => safe_check (by decide)
    (fun _ => safeAt_atomically.mpr ?_)))
  refine safeAt_bind.mpr ⟨safeAt_nextval, fun id u hnext => safe_insertRow ?_⟩
  refine queue_answered
    ⟨fits_queueName body.name, hfits.slug, storable_iff_fits.mp hfits.description⟩ ?_
  rw [(returns_nextval.mp hnext).2]
  exact hgroup

theorem safe_updateQueue (hdb : Consistent db) (hstored : StoredFits db) {queueId : Id}
    {body : UpdateQueueSchema} (hfits : Storable body.description 512) :
    SafeAt Error.Handled (updateQueue now user queueId body) db := by
  refine safe_resourceGuard (by decide) (fun old hold hid p => safe_check (by decide)
    (fun _ => safeAt_atomically.mpr ?_))
  refine safe_update (Table.filter_key_eq (fun q : Queue => q.id) hdb.keys.queues hold hid)
    (queue_answered ⟨fits_queueName body.name, (hstored.queues old hold).slug,
      storable_iff_fits.mp hfits⟩ ?_)
  exact hdb.groupLinks.queueGroup old hold

theorem safe_readQueue (hkeys : Keys db) (queueId : Id) :
    SafeAt Error.Handled (QueueRepository.readById queueId) db :=
  safe_readOne (length_byId_le_one hkeys.queues queueId) (by decide)

theorem safe_deleteQueue (hdb : Consistent db) (queueId : Id) :
    SafeAt Error.Handled (deleteQueue user queueId) db := by
  have hhandled : ∀ message, (Error.queueDeleteError message).Handled :=
    fun _ => (by decide : (409 : Nat) ≠ 500)
  refine safe_resourceGuard (by decide) (fun _ _ _ p => safe_check (by decide) (fun _ => ?_))
  refine (safeAt_bind_read (always_catching (readOnly_query _))).mpr
    ⟨safe_readQueue hdb.keys _, fun q _ => ?_⟩
  rw [safeAt_query_bind]
  refine safe_check (hhandled _) (fun _ => safe_unitOfWork ?_ (fun _ _ _ => safeAt_pure))
  exact safe_deleteRow (length_byId_le_one hdb.keys.queues queueId) (by decide)

/-! ### Transfers -/

theorem safe_readTransfer (hkeys : Keys db) (transferId : Id) :
    SafeAt Error.Handled (TransferRepository.readById transferId) db :=
  safe_readOne (length_byId_le_one hkeys.transfers transferId) (by decide)

theorem safe_checkLinks {body : CreateTransferSchema} (target source : Connection)
    (queue : Queue) : SafeAt Error.Handled (checkTransferLinks body target source queue) db := by
  have hhandled : ∀ connectionType paramsType conn,
      (Error.differentTypeConnectionsAndParamsError connectionType paramsType conn).Handled :=
    fun _ _ _ => (by decide : (400 : Nat) ≠ 500)
  refine safe_check (by decide) (fun _ => safe_check (hhandled _ _ _) (fun _ => ?_))
  refine safe_check (hhandled _ _ _) (fun _ => safeAt_raiseIf.mpr (fun _ => by decide))

/-- The rows that a body refers to are read. -/
theorem safe_readLinks {α : Type} (hkeys : Keys db) {targetId sourceId queueId : Id}
    {f : Connection → Connection → Queue → Db α}
    (hf : ∀ target source queue, SafeAt Error.Handled (f target source queue) db) :
    SafeAt Error.Handled (do
      let target ← ConnectionRepository.readById targetId
      let source ← ConnectionRepository.readById sourceId
      let queue ← QueueRepository.readById queueId
      f target source queue) db := by
  refine (safeAt_bind_read (always_catching (readOnly_query _))).mpr
    ⟨safe_readConnection hkeys _, fun target _ => ?_⟩
  refine (safeAt_bind_read (always_catching (readOnly_query _))).mpr
    ⟨safe_readConnection hkeys _, fun source _ => ?_⟩
  exact (safeAt_bind_read (always_catching (readOnly_query _))).mpr
    ⟨safe_readQueue hkeys _, fun queue _ => hf target source queue⟩

/-- The write that comes behind the checks of the links. -/
theorem safe_linkedWrite {α : Type} {body : CreateTransferSchema} {target source : Connection}
    {queue : Queue} {write : Db α} (h : SafeAt Error.Handled write db) :
    SafeAt Error.Handled (do
      checkTransferLinks body target source queue
      unitOfWork write) db := by
  refine safeAt_bind.mpr ⟨safe_checkLinks _ _ _, fun _ u hret => ?_⟩
  rw [← (returns_checkTransferLinks.mp hret).2.2]
  exact safeAt_atomically.mpr h

theorem safe_createTransfer (hdb : Consistent db) {body : CreateTransferSchema}
    (hfits : body.FitsColumns) :
    SafeAt Error.Handled (createTransfer now user body) db := by
  refine safe_groupGuard (fun _ p => safe_check (by decide) (fun _ => ?_))
  refine safe_readLinks hdb.keys (fun target source queue => safe_linkedWrite ?_)
  refine safeAt_bind.mpr ⟨safeAt_nextval, fun id u _ => safe_insertRow ?_⟩
  exact transfer_answered (TransferRepository.created_columnsFit.mpr hfits)

theorem safe_updateTransfer (hdb : Consistent db) {transferId : Id} {body : CreateTransferSchema}
    (hfits : body.FitsColumns) :
    SafeAt Error.Handled (updateTransfer now user transferId body) db := by
  refine safe_resourceGuard (by decide) (fun old hold hid p => safe_check (by decide)
    (fun _ => ?_))
  refine safe_readLinks hdb.keys (fun target source queue => ?_)
  unfold ConnectionRepository.getResourcePermission
  rw [safeAt_query_bind, safeAt_query_bind]
  refine safe_check (by decide) (fun _ => safe_linkedWrite ?_)
  exact safe_update (Table.filter_key_eq (fun t : Transfer => t.id) hdb.keys.transfers hold hid)
    (transfer_answered (TransferRepository.setColumns_columnsFit.mpr hfits))

theorem safe_deleteTransferRow (hkeys : Keys db) (transferId : Id) :
    SafeAt Error.Handled (TransferRepository.delete transferId) db :=
  safe_deleteRow (length_byId_le_one hkeys.transfers transferId) (by decide)

theorem safe_deleteTransfer (hdb : Consistent db) (transferId : Id) :
    SafeAt Error.Handled (deleteTransfer user transferId) db := by
  refine safe_resourceGuard (by decide) (fun _ _ _ p => safe_check (by decide) (fun _ => ?_))
  exact safe_unitOfWork (safe_deleteTransferRow hdb.keys _) (fun _ _ _ => safeAt_pure)

theorem safe_copyTransferRow (hstored : StoredFits db) {transferId : Id} {origin : Transfer}
    (horigin : db.transfers.filter (fun t => t.id == transferId) = [origin])
    (newQueueId newGroupId newSource newTarget : Id) {newName : Option NameConstr}
    (hname : NameFits newName) :
    SafeAt Error.Handled (TransferRepository.copy transferId newQueueId newGroupId newSource
      newTarget (newName.map (·.val))) db := by
  have hfits := hstored.transfers origin (Table.mem_of_filter_eq horigin).1
  exact safe_copy horigin (fun id _ => transfer_answered
    { hfits with name := fits_newName hfits.name hname })

/-- A connection that was there is there beside a copy. -/
theorem filter_insertConnection (hdb : Consistent db) {c d : Connection} {db₁ : Database}
    (hinsert : checkedStep db (.insertConnection c) db₁) (hd : d ∈ db.connections) :
    db₁.connections.filter (fun e => e.id == d.id) = [d] := by
  refine Table.filter_key_eq (fun e : Connection => e.id)
    (checkedStep_consistent hdb hinsert).keys.connections ?_ rfl
  rw [hinsert.2]
  exact List.mem_append_left _ hd

/-- The last statements of `copy_transfer`, when the connections have been copied. -/
theorem safe_copyTransferEnd (hdb : Consistent db) (hstored : StoredFits db) {transferId : Id}
    {origin : Transfer} (horigin : db.transfers.filter (fun t => t.id == transferId) = [origin])
    {body : CopyTransferSchema} (hname : NameFits body.newName) (newSource newTarget : Id) :
    SafeAt Error.Handled (do
      let copied ← TransferRepository.copy transferId body.newQueueId body.newGroupId newSource
        newTarget (body.newName.map (·.val))
      if body.removeSource then
        let _ ← TransferRepository.delete transferId
        return copied
      else return copied) db := by
  refine safeAt_bind.mpr ⟨safe_copyTransferRow hstored horigin _ _ _ _ hname, fun t db₁ ht => ?_⟩
  rcases TransferRepository.returns_copy.mp ht with ⟨_, _, _, hinsert⟩
  split
  · exact safe_return (safe_deleteTransferRow (checkedStep_consistent hdb hinsert).keys _)
  · exact safeAt_pure

theorem safe_copyTransfer (hdb : Consistent db) (hstored : StoredFits db) (transferId : Id)
    {body : CopyTransferSchema} (hname : NameFits body.newName)
    (hsourceName : NameFits body.newSourceConnectionName)
    (htargetName : NameFits body.newTargetConnectionName) :
    SafeAt Error.Handled (copyTransfer user transferId body) db := by
  refine safe_resourceGuard (by decide) (fun _ _ _ p => safe_check (by decide) (fun _ => ?_))
  refine safe_groupGuard (fun _ p => safe_check (by decide) (fun _ => ?_))
  refine (safeAt_bind_read (always_catching (readOnly_query _))).mpr
    ⟨safe_readTransfer hdb.keys _, fun t ht => ?_⟩
  have htransfer := (TransferRepository.returns_readById.mp ht).1
  have hmem := (Table.mem_of_filter_eq htransfer).1
  unfold ConnectionRepository.getResourcePermission
  rw [safeAt_query_bind]
  refine safe_check (by decide) (fun _ => ?_)
  rw [safeAt_query_bind]
  refine safe_check (by decide) (fun _ => ?_)
  refine (safeAt_bind_read (always_catching (readOnly_query _))).mpr
    ⟨safe_readQueue hdb.keys _, fun queue _ => safe_check (by decide) (fun _ => ?_)⟩
  refine safeAt_atomically.mpr ?_
  -- The two connections of the transfer are there to be copied.
  rcases hdb.resourceLinks.transferSource t hmem with ⟨source, hsource, hsourceId⟩
  rcases hdb.resourceLinks.transferTarget t hmem with ⟨target, htarget, htargetId⟩
  have hsourceRow := Table.filter_key_eq (fun c : Connection => c.id) hdb.keys.connections hsource
    hsourceId
  refine safeAt_bind.mpr ⟨safe_copyConnectionRow hstored hsourceRow _ hsourceName, fun c db₁ hc => ?_⟩
  rcases ConnectionRepository.returns_copy.mp hc with ⟨_, _, _, hinsert⟩
  have hdb₁ := checkedStep_consistent hdb hinsert
  have hstored₁ := checkedStep_storedFits hstored hinsert
  have htransfer₁ : db₁.transfers.filter (fun r => r.id == transferId) = [t] := by
    rw [hinsert.2]
    exact htransfer
  by_cases hsame : t.sourceConnectionId = t.targetConnectionId
  · rw [if_pos hsame]
    refine safeAt_bind.mpr ⟨safeAt_pure, fun d db₂ hd => ?_⟩
    rw [← (returns_pure.mp hd).2]
    exact safe_copyTransferEnd hdb₁ hstored₁ htransfer₁ hname _ _
  · rw [if_neg hsame]
    have htargetRow := filter_insertConnection hdb hinsert htarget
    have hid : target.id = t.targetConnectionId := htargetId
    rw [hid] at htargetRow
    refine safeAt_bind.mpr ⟨safe_copyConnectionRow hstored₁ htargetRow _ htargetName, fun d db₂ hd => ?_⟩
    rcases ConnectionRepository.returns_copy.mp hd with ⟨_, _, _, hinsert₂⟩
    have htransfer₂ : db₂.transfers.filter (fun r => r.id == transferId) = [t] := by
      rw [hinsert₂.2]
      exact htransfer₁
    exact safe_copyTransferEnd (checkedStep_consistent hdb₁ hinsert₂)
      (checkedStep_storedFits hstored₁ hinsert₂) htransfer₂ hname _ _

/-! ### Groups -/

theorem safe_readGroup (hkeys : Keys db) (groupId : Id) :
    SafeAt Error.Handled (GroupRepository.readById groupId) db :=
  safe_readOne (length_byId_le_one hkeys.groups groupId) (by decide)

theorem safe_createGroup {body : CreateGroupSchema} (hfits : body.FitsColumns) :
    SafeAt Error.Handled (createGroup now user body) db := by
  refine safeAt_atomically.mpr (safeAt_bind.mpr ⟨safeAt_nextval, fun id u _ => ?_⟩)
  exact safe_insertRow (group_answered (GroupRepository.created_columnsFit.mpr hfits))

theorem safe_addUser (groupId userId : Id) (role : GroupMemberRole) :
    SafeAt Error.Handled (GroupRepository.addUser groupId userId role) db :=
  safe_insertRow userGroup_answered

theorem membership_le_one (hkeys : Keys db) (groupId userId : Id) :
    (db.userGroups.filter (GroupRepository.isMembership groupId userId)).length ≤ 1 := by
  refine Table.length_filter_le_one (fun ug : UserGroup => (ug.groupId, ug.userId))
    hkeys.userGroups (k := (groupId, userId)) (fun ug _ hug => ?_)
  rcases GroupRepository.isMembership_iff.mp hug with ⟨hgroup, huser⟩
  rw [hgroup, huser]

theorem safe_deleteUser (hkeys : Keys db) (groupId userId : Id) :
    SafeAt Error.Handled (GroupRepository.deleteUser groupId userId) db :=
  safe_deleteRow (membership_le_one hkeys groupId userId) (by decide)

/-- The row of the group is there, and the repository knows the errors of its table. -/
theorem safe_updateGroupRow {groupId : Id} {old : Group}
    (hold : db.groups.filter (fun g => g.id == groupId) = [old]) {name description : String}
    {ownerId : Id} (hname : Fits name 128) (hdescription : Storable description 512) :
    SafeAt Error.Handled (GroupRepository.update now groupId name description ownerId) db := by
  have hdescription := storable_iff_fits.mp hdescription
  refine safe_update hold ?_
  simp only [Model.Answered, Group.model, List.forall_mem_cons, fits, decide_eq_false_iff_not]
  exact ⟨fun h => absurd hname h, fun h => absurd hdescription h, fun _ => by decide,
    fun _ => by decide, fun _ hc => absurd hc List.not_mem_nil⟩

theorem safe_updateGroup (hdb : Consistent db) {groupId : Id} {body : UpdateGroupSchema}
    (hfits : body.FitsColumns) :
    SafeAt Error.Handled (updateGroup now user groupId body) db := by
  refine safe_groupGuard (fun _ p => safe_check (by decide) (fun _ => safe_check (by decide)
    (fun _ => safeAt_atomically.mpr ?_)))
  refine (safeAt_bind_read (always_catching (readOnly_query _))).mpr
    ⟨safe_readGroup hdb.keys _, fun old hold => ?_⟩
  have hrow := (GroupRepository.returns_readById.mp hold).1
  refine safeAt_bind.mpr ⟨safe_updateGroupRow hrow (fits_name_iff.mpr hfits.name)
    hfits.description, fun g db₁ hg => ?_⟩
  rcases GroupRepository.returns_update.mp hg with ⟨_, _, _, hupdate⟩
  have hdb₁ := checkedStep_consistent hdb hupdate
  split
  · unfold GroupRepository.getUserGroup
    rw [safeAt_query_bind]
    split
    · refine safeAt_bind.mpr ⟨safe_deleteUser hdb₁.keys _ _, fun _ _ _ => ?_⟩
      exact safe_return (safe_addUser _ _ _)
    · exact safe_return (safe_addUser _ _ _)
  · exact safeAt_pure

theorem safe_deleteGroup (hdb : Consistent db) (groupId : Id) :
    SafeAt Error.Handled (deleteGroup user groupId) db := by
  refine safe_check (by decide) (fun _ => safe_unitOfWork ?_ (fun _ _ _ => safeAt_pure))
  exact safe_deleteRow (length_byId_le_one hdb.keys.groups groupId) (by decide)

/-- A user who is no member cannot be given another role. -/
theorem safe_updateMemberRole (hkeys : Keys db) (groupId userId : Id) (role : GroupMemberRole) :
    SafeAt Error.Handled (GroupRepository.updateMemberRole groupId userId role) db :=
  safe_updateFound (membership_le_one hkeys groupId userId) (by decide)
    (fun _ => userGroup_answered)

theorem safe_updateUserRoleGroup (hdb : Consistent db) (groupId userId : Id)
    (body : AddUserSchema) :
    SafeAt Error.Handled (updateUserRoleGroup user groupId userId body) db := by
  refine safe_groupGuard (fun _ p => safe_check (by decide) (fun _ => safe_check (by decide)
    (fun _ => safeAt_atomically.mpr ?_)))
  exact safe_updateMemberRole hdb.keys _ _ _

theorem safe_addUserToGroup (hdb : Consistent db) (groupId userId : Id) (body : AddUserSchema) :
    SafeAt Error.Handled (addUserToGroup user groupId userId body) db := by
  refine safe_groupGuard (fun _ p => safe_check (by decide) (fun _ => safe_check (by decide)
    (fun _ => ?_)))
  refine (safeAt_bind_read (always_catching (readOnly_query _))).mpr
    ⟨safe_readGroup hdb.keys _, fun g _ => safe_check (by decide) (fun _ => ?_)⟩
  exact safe_unitOfWork (safe_addUser _ _ _) (fun _ _ _ => safeAt_pure)

theorem safe_deleteUserFromGroup (hdb : Consistent db) (groupId userId : Id) :
    SafeAt Error.Handled (deleteUserFromGroup user groupId userId) db := by
  refine safe_groupGuard (fun _ p => safe_check (by decide) (fun _ => safe_check (by decide)
    (fun _ => ?_)))
  exact safe_unitOfWork (safe_deleteUser hdb.keys _ _) (fun _ _ _ => safeAt_pure)

/-! ### Runs -/

/-- The rows that a dump is made of are there. -/
theorem safe_createRun (hdb : Consistent db) {t : Transfer} (ht : t ∈ db.transfers)
    (source target : AuthValue) (type : RunType) :
    SafeAt Error.Handled (RunRepository.create now t.id source target type) db := by
  rcases hdb.resourceLinks.transferSource t ht with ⟨c, hc, hcid⟩
  rcases hdb.resourceLinks.transferTarget t ht with ⟨d, hd, hdid⟩
  have htransfer := Table.filter_key_eq (fun r : Transfer => r.id) hdb.keys.transfers ht rfl
  have hsource := Table.filter_key_eq (fun e : Connection => e.id) hdb.keys.connections hc hcid
  have htarget := Table.filter_key_eq (fun e : Connection => e.id) hdb.keys.connections hd hdid
  have hone : ∀ {Row : Type} {f : Database → List Row} {row : Row} {α : Type} {g : Row → Db α},
      f db = [row] → SafeAt Error.Handled (g row) db →
      SafeAt Error.Handled (query (fun db => one (f db)) >>= g) db := by
    intro Row f row α g hrow hg
    have hread : one (f db) = .ok row := one_eq_ok_iff.mpr hrow
    refine (safeAt_bind_read (readOnly_query _)).mpr ⟨safeAt_query.mpr (fun e he => ?_), ?_⟩
    · rw [hread] at he
      cases he
    · intro r hr
      have hr := (returns_query.mp hr).1
      rw [hread] at hr
      rw [← Except.ok.inj hr]
      exact hg
  refine safeAt_bind.mpr ⟨?_, fun dump u _ => ?_⟩
  · exact hone htransfer (hone hsource (hone htarget safeAt_pure))
  · exact safeAt_bind.mpr ⟨safeAt_nextval, fun id _ _ => safe_insertRow run_answered⟩

theorem safe_createAndSendRun (hdb : Consistent db) (hsent : sent ≠ .otherError) {t : Transfer}
    (ht : t ∈ db.transfers) (type : RunType) :
    SafeAt Error.Handled (createAndSendRun now t type sent) db := by
  have hhandled : ∀ runId, (Error.cannotConnectToTaskQueueError runId).Handled :=
    fun _ => (by decide : (503 : Nat) ≠ 500)
  refine (safeAt_bind_read (readOnly_readCredentials _)).mpr
    ⟨safe_readCredentials hdb.keys _, fun source _ => ?_⟩
  refine (safeAt_bind_read (readOnly_readCredentials _)).mpr
    ⟨safe_readCredentials hdb.keys _, fun target _ => ?_⟩
  refine safe_unitOfWork (safe_createRun hdb ht _ _ _) (fun run db₁ hrun => ?_)
  cases sent with
  | returned => exact safeAt_pure
  | kombuError =>
      rcases RunRepository.returns_create hrun with ⟨_, _, _, _, hinsert⟩
      have hdb₁ := checkedStep_consistent hdb hinsert
      have hfound : db₁.runs.filter (fun r => r.id == run.id) = [run] := by
        refine Table.filter_key_eq (fun r : Run => r.id) hdb₁.keys.runs ?_ rfl
        rw [hinsert.2]
        exact List.mem_append_right _ (List.mem_singleton.mpr rfl)
      refine safe_unitOfWork (safe_update hfound run_answered) (fun _ _ _ => ?_)
      exact safeAt_throw.mpr (hhandled _)
  | otherError => exact absurd rfl hsent

theorem safe_startRun (hdb : Consistent db) (hsent : sent ≠ .otherError)
    (body : CreateRunSchema) :
    SafeAt Error.Handled (startRun now sent user body) db := by
  refine safe_resourceGuard (by decide) (fun _ _ _ p => safe_check (by decide) (fun _ => ?_))
  refine (safeAt_bind_read (always_catching (readOnly_query _))).mpr
    ⟨safe_readTransfer hdb.keys _, fun t ht => ?_⟩
  have hmem := (Table.mem_of_filter_eq (TransferRepository.returns_readById.mp ht).1).1
  refine (safeAt_bind_read (always_catching (readOnly_query _))).mpr
    ⟨safe_readQueue hdb.keys _, fun _ _ => ?_⟩
  exact safe_createAndSendRun hdb hsent hmem _

theorem safe_readRun (runId : Id) : SafeAt Error.Handled (RunRepository.readById runId) db := by
  refine safeAt_query.mpr (fun e he => ?_)
  split at he
  · cases he
    decide
  · cases he

theorem safe_stopRun (hdb : Consistent db) (runId : Id) :
    SafeAt Error.Handled (stopRun now user runId) db := by
  have hhandled : ∀ status, (Error.cannotStopRunError runId status).Handled :=
    fun _ => (by decide : (400 : Nat) ≠ 500)
  refine (safeAt_bind_read (readOnly_query _)).mpr ⟨safe_readRun runId, fun run _ => ?_⟩
  refine safe_resourceGuard (by decide) (fun _ _ _ p => safe_check (by decide)
    (fun _ => safeAt_atomically.mpr ?_))
  refine (safeAt_bind_read (readOnly_query _)).mpr ⟨safe_readRun runId, fun loaded hloaded => ?_⟩
  refine safe_check (hhandled _) (fun _ => ?_)
  have hfind := (RunRepository.returns_readById.mp hloaded).1
  have hid : loaded.id = runId := by
    have hkey := List.find?_some hfind
    exact beq_iff_eq.mp hkey
  have hfound := Table.filter_key_eq (fun r : Run => r.id) hdb.keys.runs
    (List.mem_of_find?_eq_some hfind) hid
  -- The statement is not caught, but the transfer is there.
  have htransfer : db.transfers.any (fun t => t.id == loaded.transferId) = true := by
    rcases hdb.resourceLinks.runTransfer loaded (List.mem_of_find?_eq_some hfind) with ⟨t, ht, htid⟩
    exact List.any_eq_true.mpr ⟨t, ht, beq_iff_eq.mpr htid⟩
  refine (safeAt_updateRow hfound).mpr (fun e he => ?_)
  rcases firstViolation_error he with ⟨c, hc, hfails, _⟩
  rw [List.mem_singleton.mp hc] at hfails
  exact absurd (htransfer.symm.trans hfails) (fun h => Bool.false_ne_true h.symm)

/-! ### All requests -/

theorem safe_handle (hdb : Consistent db) (hwell : WellStored db) (hstored : StoredFits db)
    {request : Request} (hwrites : request.Writes) {userId : Id}
    (hvalid : (Event.request now sent userId request).Valid) (hfits : request.Fits)
    (hsent : sent ≠ .otherError) :
    SafeAt Error.Handled (handle now sent user request) db := by
  cases request with
  | read answer => exact hwrites.elim
  | createConnection body => exact safe_return (safe_createConnection hdb hfits)
  | updateConnection connectionId body =>
      exact safe_return (safe_updateConnection hdb hwell hvalid hfits)
  | deleteConnection connectionId => exact safe_return (safe_deleteConnection hdb connectionId)
  | copyConnection connectionId body =>
      exact safe_return (safe_copyConnection hdb hstored connectionId hfits)
  | createQueue body => exact safe_return (safe_createQueue hfits)
  | updateQueue queueId body => exact safe_return (safe_updateQueue hdb hstored hfits)
  | deleteQueue queueId => exact safe_return (safe_deleteQueue hdb queueId)
  | createTransfer body => exact safe_return (safe_createTransfer hdb hfits)
  | copyTransfer transferId body =>
      exact safe_return
        (safe_copyTransfer hdb hstored transferId hfits.1 hfits.2.1 hfits.2.2)
  | updateTransfer transferId body => exact safe_return (safe_updateTransfer hdb hfits)
  | deleteTransfer transferId => exact safe_return (safe_deleteTransfer hdb transferId)
  | createGroup body => exact safe_return (safe_createGroup hfits)
  | updateGroup groupId body => exact safe_return (safe_updateGroup hdb hfits)
  | deleteGroup groupId => exact safe_return (safe_deleteGroup hdb groupId)
  | updateUserRoleGroup groupId userId body =>
      exact safe_return (safe_updateUserRoleGroup hdb groupId userId body)
  | addUserToGroup groupId userId body =>
      exact safe_return (safe_addUserToGroup hdb groupId userId body)
  | deleteUserFromGroup groupId userId =>
      exact safe_return (safe_deleteUserFromGroup hdb groupId userId)
  | startRun body => exact safe_return (safe_startRun hdb hsent body)
  | stopRun runId => exact safe_return (safe_stopRun hdb runId)

theorem safe_getUser (userId : Id) : SafeAt Error.Handled (getUser userId) db := by
  refine (safeAt_bind_read (readOnly_query _)).mpr ⟨safeAt_query.mpr (fun e he => ?_), ?_⟩
  · split at he
    · cases he
      decide
    · cases he
  · intro u _
    exact safe_check (by decide) (fun _ => safeAt_pure)

/-- A group and a connection in it. -/
def groupWithConnection : List Event := [
  .login "owner",
  .request 1 .returned 1 (.createGroup sampleGroup),
  .request 2 .returned 1 (.createConnection warehouse)]

end Endpoints

end SyncMaster
