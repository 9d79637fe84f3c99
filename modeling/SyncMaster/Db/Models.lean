import SyncMaster.Db.Columns
import SyncMaster.Library.Table
import SyncMaster.Library.Program
import Mathlib.Logic.Function.Basic

/-!
# Database Models

The tables of the service, their rows and the errors its code raises.

A table is a list of rows. What the migrations declare about a table is its
`Model`: the checks an inserted or updated row has to pass (column widths,
unique constraints, foreign keys, in the order the database evaluates them)
and what a deletion takes with it. Every foreign key of the schema is
`ON DELETE CASCADE`, so deleting a group reaches its connections, queues and
transfers, and through a connection or a queue the transfers that use it, and
through a transfer its runs. The cascades follow the links of the rows; they
do not look at the group of the row they reach.

Identifiers come from one sequence per table. A sequence is not part of what
a rollback restores, so `rollback` keeps it, and `Tables` is the part of the
database that a failed request leaves as it was.

JSON columns whose inside no modelled function looks at are kept as they are.
The encryption of `auth_data.value` is left out: the row holds the value that
is encrypted.

## Main definitions

* `Error`: What the endpoints and the database raise.
* `Permission`, `GroupMemberRole`, `Status`: The enumerations of the models.
* `Connection`, `Queue`, `Transfer`, `Run` and the other rows.
* `Tables`, `Database`: All tables; the tables with their sequences.
* `Model`: A table with its constraints and its cascade.
* `unitOfWork`: A block that commits or rolls back.
* `withValues`, `withId`: Statements with parameters that the driver has to encode.
* `insertRow`, `updateRow`, `deleteRow`: The statements that write.

## Theorems

* `firstViolation_eq_ok_iff`: The constraints hold when each of them does.
* `safeAt_withValues`: A statement with a value that is not encoded is not safe.
* `returns_nextval`, `returns_insertRow`, `returns_updateRow` and
  `returns_deleteRow`: What a statement did when it returned.
* `safeAt_insertRow`, `safeAt_updateRow`: The errors of a statement are those of the
  constraints.
-/

namespace SyncMaster

/-! ## Enumerations -/

inductive ConnectionType where
  | postgres | hive | iceberg | oracle | clickhouse | mssql | mysql
  | s3 | hdfs | sftp | ftp | ftps | webdav | samba
  deriving DecidableEq, Repr

inductive AuthType where
  | basic
  | s3
  | samba
  | icebergRestBearer
  | icebergRestOauth2ClientCredentials
  | icebergRestBearerS3Basic
  | icebergRestOauth2ClientCredentialsS3Basic
  deriving DecidableEq, Repr

inductive GroupMemberRole where
  | maintainer | developer | owner | guest | superuser
  deriving DecidableEq, Repr

/-- `GroupMemberRole.is_public_role`. -/
def GroupMemberRole.isPublicRole : GroupMemberRole → Bool
  | .maintainer | .developer | .guest => true
  | .owner | .superuser => false

/-- `role_hierarchy` -/
def GroupMemberRole.roleHierarchy : List (GroupMemberRole × Nat) := [
  (.guest, 1),
  (.developer, 2),
  (.maintainer, 3),
  (.owner, 4),
  (.superuser, 5)]

def GroupMemberRole.level (role : GroupMemberRole) : Nat :=
  (roleHierarchy.lookup role).getD 0

/-- The roles from the lowest to the highest. -/
theorem GroupMemberRole.level_increases :
    GroupMemberRole.guest.level < GroupMemberRole.developer.level ∧
      GroupMemberRole.developer.level < GroupMemberRole.maintainer.level ∧
      GroupMemberRole.maintainer.level < GroupMemberRole.owner.level ∧
      GroupMemberRole.owner.level < GroupMemberRole.superuser.level := by
  decide

/-- `is_at_least_privilege_level` -/
def GroupMemberRole.isAtLeastPrivilegeLevel (role1 role2 : GroupMemberRole) : Bool :=
  decide (role2.level ≤ role1.level)

/-- `roles_at_least` -/
def GroupMemberRole.rolesAtLeast (role : GroupMemberRole) : List GroupMemberRole :=
  (roleHierarchy.filter (fun entry => decide (role.level ≤ entry.2))).map Prod.fst

inductive Permission where
  | none | read | write | delete
  deriving DecidableEq, Repr

/-- `Permission` is an `IntEnum`, compared by its value. -/
def Permission.value : Permission → Nat
  | .none => 0
  | .read => 1
  | .write => 2
  | .delete => 3

instance : LT Permission := ⟨fun a b => a.value < b.value⟩

instance (a b : Permission) : Decidable (a < b) :=
  inferInstanceAs (Decidable (a.value < b.value))

inductive Status where
  | created | started | failed | sendStopSignal | stopped | finished
  deriving DecidableEq, Repr

inductive RunType where
  | manual | scheduled
  deriving DecidableEq, Repr

/-! ## Errors -/

/-- The named constraints of the schema. -/
inductive Constraint where
  | fkGroupOwnerIdUser
  | uqGroupName
  | pkUserGroup
  | fkUserGroupGroupIdGroup
  | fkUserGroupUserIdUser
  | fkConnectionGroupIdGroup
  | uqConnectionNameGroupId
  | pkAuthData
  | fkAuthDataConnectionIdConnection
  | fkQueueGroupIdGroup
  | uqQueueSlug
  | fkTransferGroupIdGroup
  | fkTransferQueueIdQueue
  | fkTransferSourceConnectionIdConnection
  | fkTransferTargetConnectionIdConnection
  | uqTransferNameGroupId
  | fkRunTransferIdTransfer
  | ixUserUsername
  deriving DecidableEq, Repr

/-- The side of a transfer that an error is about. -/
inductive Side where
  | source | target
  deriving DecidableEq, Repr

/-- The errors of a request. The last six are not `SyncmasterError`s: nothing
    handles them and the caller gets an internal server error. -/
inductive Error where
  | entityNotFoundError
  | actionNotAllowedError
  | userNotFoundError
  | groupNotFoundError
  | groupAlreadyExistsError
  | alreadyIsGroupMemberError
  | alreadyIsNotGroupMemberError
  | alreadyIsGroupOwnerError
  | connectionNotFoundError
  | connectionTypeUpdateError
  | connectionAuthDataUpdateError
  | duplicatedConnectionNameError
  | connectionDeleteError (message : String)
  | authDataNotFoundError (message : String)
  | queueNotFoundError
  | queueDeleteError (message : String)
  | duplicatedQueueNameError
  | differentTransferAndQueueGroupError
  | transferNotFoundError
  | duplicatedTransferNameError
  | differentTransferAndConnectionsGroupsError
  | differentTypeConnectionsAndParamsError (connectionType paramsType : ConnectionType) (conn : Side)
  | runNotFoundError
  | cannotStopRunError (runId : Id) (currentStatus : Status)
  | cannotConnectToTaskQueueError (runId : Id)
  | syncmasterError
  | noResultFound
  | multipleResultsFound
  | integrityError (constraint : Constraint)
  | dataError
  | keyError (key : String)
  /-- What `celery.send_task` raises when it is no `KombuError`. -/
  | sendTaskError
  deriving DecidableEq, Repr

/-! ## Rows -/

structure TimestampMixin where
  createdAt : Time
  updatedAt : Time
  deriving DecidableEq, Repr

structure ResourceMixin where
  id : Id
  name : String
  groupId : Id
  description : String
  deriving DecidableEq, Repr

structure User where
  id : Id
  username : String
  isSuperuser : Bool
  isActive : Bool
  deriving DecidableEq, Repr

structure Group extends TimestampMixin where
  id : Id
  name : String
  description : String
  ownerId : Id
  deriving DecidableEq, Repr

structure UserGroup where
  userId : Id
  groupId : Id
  role : GroupMemberRole
  deriving DecidableEq, Repr

structure Connection extends ResourceMixin, TimestampMixin where
  type : ConnectionType
  data : Dict

/-- Credentials: the auth type with the other fields of its schema. -/
structure AuthValue where
  type : AuthType
  fields : Dict

structure AuthData extends TimestampMixin where
  connectionId : Id
  value : AuthValue

structure Queue extends ResourceMixin, TimestampMixin where
  slug : String
  deriving DecidableEq, Repr

/-- `source_params` or `target_params`: the connection type they are for with
    the other fields of its schema. -/
structure Params where
  type : ConnectionType
  fields : Dict

inductive Strategy where
  | full
  | incremental (incrementBy : String)
  deriving DecidableEq, Repr

structure Resources where
  maxParallelTasks : Nat := 1
  cpuCoresPerTask : Nat := 1
  ramBytesPerTask : Nat := 1073741824
  deriving DecidableEq, Repr

structure Transfer extends ResourceMixin, TimestampMixin where
  sourceConnectionId : Id
  targetConnectionId : Id
  strategyParams : Strategy
  sourceParams : Params
  targetParams : Params
  transformations : List Json
  resources : Resources
  isScheduled : Bool
  schedule : String
  queueId : Id

/-- The part of a `transfer_dump` that is about one of the connections. -/
structure ConnectionDump where
  id : Id
  groupId : Id
  name : String
  description : String
  data : Dict
  authData : AuthValue

structure TransferDump where
  id : Id
  name : String
  groupId : Id
  queueId : Id
  sourceConnectionId : Id
  targetConnectionId : Id
  isScheduled : Bool
  description : String
  schedule : String
  sourceParams : Params
  targetParams : Params
  strategyParams : Strategy
  sourceConnection : ConnectionDump
  targetConnection : ConnectionDump

structure Run extends TimestampMixin where
  id : Id
  transferId : Id
  startedAt : Option Time
  endedAt : Option Time
  status : Status
  type : RunType
  logUrl : Option String
  transferDump : TransferDump

/-! ## The database -/

structure Tables where
  users : List User
  groups : List Group
  userGroups : List UserGroup
  connections : List Connection
  authData : List AuthData
  queues : List Queue
  transfers : List Transfer
  runs : List Run

/-- The tables whose identifiers a sequence hands out. -/
inductive Sequence where
  | user | group | connection | queue | transfer | run
  deriving DecidableEq, Repr

/-- The tables, with the next identifier of each sequence. -/
structure Database extends Tables where
  sequences : Sequence → Id

/-- The database after the migrations. -/
def Database.empty : Database where
  users := []
  groups := []
  userGroups := []
  connections := []
  authData := []
  queues := []
  transfers := []
  runs := []
  sequences := fun _ => 1

/-- A rollback restores the tables; a sequence does not go back. -/
def rollback (before after : Database) : Database :=
  { before with sequences := after.sequences }

/-- A statement, or a block of them, on the database. -/
abbrev Db (α : Type) := Program Database Error α

/-- `async with unit_of_work`: commit at the end, roll back on an error. -/
def unitOfWork {α : Type} (body : Db α) : Db α :=
  Program.atomically rollback body

/-! ## Cascades -/

open Table (delete)

/-- Delete transfers, and their runs. -/
def Database.deleteTransfers (db : Database) (p : Transfer → Bool) : Database :=
  { db with
    transfers := delete p db.transfers
    runs := delete (fun r => db.transfers.any (fun t => p t && t.id == r.transferId)) db.runs }

/-- Delete connections, their credentials and the transfers that use them. -/
def Database.deleteConnections (db : Database) (p : Connection → Bool) : Database :=
  let gone := fun id => db.connections.any (fun c => p c && c.id == id)
  { db with
    connections := delete p db.connections
    authData := delete (fun a => gone a.connectionId) db.authData }.deleteTransfers
      (fun t => gone t.sourceConnectionId || gone t.targetConnectionId)

/-- Delete queues, and the transfers that use them. -/
def Database.deleteQueues (db : Database) (p : Queue → Bool) : Database :=
  let gone := fun id => db.queues.any (fun q => p q && q.id == id)
  { db with queues := delete p db.queues }.deleteTransfers (fun t => gone t.queueId)

/-- Delete groups, their memberships and all their resources. -/
def Database.deleteGroups (db : Database) (p : Group → Bool) : Database :=
  let gone := fun id => db.groups.any (fun g => p g && g.id == id)
  ((({ db with
    groups := delete p db.groups
    userGroups := delete (fun ug => gone ug.groupId) db.userGroups }.deleteConnections
      (fun c => gone c.groupId)).deleteQueues
      (fun q => gone q.groupId)).deleteTransfers
      (fun t => gone t.groupId))

/-! ## Constraints -/

/-- A check of the database with the error its failure raises. -/
abbrev Check := Bool × Error

/-- The error of the first check that fails. -/
def firstViolation (checks : List Check) : Except Error Unit :=
  match checks.find? (fun c => !c.1) with
  | some c => .error c.2
  | none => .ok ()

theorem firstViolation_eq_ok_iff {checks : List Check} {u : Unit} :
    firstViolation checks = .ok u ↔ ∀ c ∈ checks, c.1 = true := by
  unfold firstViolation
  cases hfind : checks.find? (fun c => !c.1) with
  | none =>
      simp only [true_iff]
      intro c hc
      have hnot := List.find?_eq_none.mp hfind c hc
      rwa [Bool.not_eq_true', Bool.not_eq_false] at hnot
  | some c =>
      simp only [reduceCtorEq, false_iff]
      intro hall
      have hc := List.find?_some hfind
      rw [hall c (List.mem_of_find?_eq_some hfind)] at hc
      exact absurd hc Bool.false_ne_true

/-- The error of a list of checks is the one of the first check that fails. -/
theorem firstViolation_cons {c : Check} {checks : List Check} {Q : Error → Prop} :
    (∀ e, firstViolation (c :: checks) = .error e → Q e) ↔
      (c.1 = false → Q c.2) ∧ (c.1 = true → ∀ e, firstViolation checks = .error e → Q e) := by
  unfold firstViolation
  rw [List.find?_cons]
  cases c.1 with
  | false => simp
  | true => simp

/-- What the schema declares about a table. -/
structure Model (Row : Type) where
  rows : Database → List Row
  withRows : Database → List Row → Database
  /-- The checks of a row that is to stand beside `others`. -/
  constraints : Database → List Row → Row → List Check
  /-- A deletion with its cascade. -/
  deleteWhere : Database → (Row → Bool) → Database
  withRows_sequences : ∀ db rows, (withRows db rows).sequences = db.sequences := by
    intro _ _; rfl
  deleteWhere_sequences : ∀ db p, (deleteWhere db p).sequences = db.sequences := by
    intro _ _; rfl

/-- A `VARCHAR(n)` column, of a text whose blanks beyond `n` characters are cut. -/
def fits (s : String) (width : Nat) : Check :=
  (decide (Fits s width), .dataError)

/-- A JSON column. -/
def storable (j : Json) : Check :=
  (decide j.Finite, .dataError)

/-- A JSON column that the search vector looks into. -/
def searchable (j : Json) : Check :=
  (decide j.Searchable, .dataError)

def User.model : Model User where
  rows := fun db => db.users
  withRows := fun db rows => { db with users := rows }
  constraints := fun _ others u =>
    [fits u.username 256,
      (!others.any (fun v => v.username == u.username), .integrityError .ixUserUsername)]
  deleteWhere := fun db p => { db with users := delete p db.users }

def Group.model : Model Group where
  rows := fun db => db.groups
  withRows := fun db rows => { db with groups := rows }
  constraints := fun db others g =>
    [fits g.name 128, fits g.description 512,
      (!others.any (fun h => h.name == g.name), .integrityError .uqGroupName),
      (db.users.any (fun u => u.id == g.ownerId), .integrityError .fkGroupOwnerIdUser)]
  deleteWhere := Database.deleteGroups

def UserGroup.model : Model UserGroup where
  rows := fun db => db.userGroups
  withRows := fun db rows => { db with userGroups := rows }
  constraints := fun db others ug =>
    [(!others.any (fun m => m.userId == ug.userId && m.groupId == ug.groupId),
        .integrityError .pkUserGroup),
      (db.groups.any (fun g => g.id == ug.groupId), .integrityError .fkUserGroupGroupIdGroup),
      (db.users.any (fun u => u.id == ug.userId), .integrityError .fkUserGroupUserIdUser)]
  deleteWhere := fun db p => { db with userGroups := delete p db.userGroups }

def Connection.model : Model Connection where
  rows := fun db => db.connections
  withRows := fun db rows => { db with connections := rows }
  constraints := fun db others c =>
    [fits c.name 128, fits c.description 512, searchable (.obj c.data),
      (!others.any (fun d => d.name == c.name && d.groupId == c.groupId),
        .integrityError .uqConnectionNameGroupId),
      (db.groups.any (fun g => g.id == c.groupId), .integrityError .fkConnectionGroupIdGroup)]
  deleteWhere := Database.deleteConnections

def AuthData.model : Model AuthData where
  rows := fun db => db.authData
  withRows := fun db rows => { db with authData := rows }
  constraints := fun db others a =>
    [(!others.any (fun b => b.connectionId == a.connectionId), .integrityError .pkAuthData),
      (db.connections.any (fun c => c.id == a.connectionId),
        .integrityError .fkAuthDataConnectionIdConnection)]
  deleteWhere := fun db p => { db with authData := delete p db.authData }

def Queue.model : Model Queue where
  rows := fun db => db.queues
  withRows := fun db rows => { db with queues := rows }
  constraints := fun db others q =>
    [fits q.name 128, fits q.slug 256, fits q.description 512,
      (!others.any (fun r => r.slug == q.slug), .integrityError .uqQueueSlug),
      (db.groups.any (fun g => g.id == q.groupId), .integrityError .fkQueueGroupIdGroup)]
  deleteWhere := Database.deleteQueues

def Transfer.model : Model Transfer where
  rows := fun db => db.transfers
  withRows := fun db rows => { db with transfers := rows }
  constraints := fun db others t =>
    [fits t.name 128, fits t.description 512, fits t.schedule 32,
      searchable (.obj t.sourceParams.fields), searchable (.obj t.targetParams.fields),
      storable (.arr t.transformations),
      (!others.any (fun r => r.name == t.name && r.groupId == t.groupId),
        .integrityError .uqTransferNameGroupId),
      (db.groups.any (fun g => g.id == t.groupId), .integrityError .fkTransferGroupIdGroup),
      (db.queues.any (fun q => q.id == t.queueId), .integrityError .fkTransferQueueIdQueue),
      (db.connections.any (fun c => c.id == t.sourceConnectionId),
        .integrityError .fkTransferSourceConnectionIdConnection),
      (db.connections.any (fun c => c.id == t.targetConnectionId),
        .integrityError .fkTransferTargetConnectionIdConnection)]
  deleteWhere := Database.deleteTransfers

def Run.model : Model Run where
  rows := fun db => db.runs
  withRows := fun db rows => { db with runs := rows }
  constraints := fun db _ r =>
    [(db.transfers.any (fun t => t.id == r.transferId), .integrityError .fkRunTransferIdTransfer)]
  deleteWhere := fun db p => { db with runs := delete p db.runs }

/-! ## Statements -/

open Program

/-- A statement with values that the driver encodes, or not. -/
def withValues {α : Type} (encodable : Bool) (statement : Db α) : Db α := do
  raiseIf (encodable = false) .dataError
  statement

/-- A statement with the identifier among its parameters. -/
def withId {α : Type} (id : Id) (statement : Db α) : Db α :=
  withValues (decide (InBigint id)) statement

/-- `Result.one()`. -/
def one {Row : Type} : List Row → Except Error Row
  | [] => .error .noResultFound
  | [row] => .ok row
  | _ :: _ :: _ => .error .multipleResultsFound

/-- The next identifier of a sequence. -/
def nextval (s : Sequence) : Db Id := do
  let id ← query (fun db => .ok (db.sequences s))
  execute (fun db => { db with sequences := Function.update db.sequences s (id + 1) })
  return id

/-- `INSERT ... RETURNING`. -/
def insertRow {Row : Type} (model : Model Row) (row : Row) : Db Row := do
  query (fun db => firstViolation (model.constraints db (model.rows db) row))
  execute (fun db => model.withRows db (model.rows db ++ [row]))
  return row

/-- `UPDATE ... WHERE ... RETURNING` of the one row that meets the condition. -/
def updateRow {Row : Type} (model : Model Row) (cond : Row → Bool) (values : Row → Row) :
    Db Row := do
  let row ← query (fun db => one ((model.rows db).filter cond))
  query (fun db =>
    firstViolation (model.constraints db (delete cond (model.rows db)) (values row)))
  execute (fun db => model.withRows db (Table.update cond values (model.rows db)))
  return values row

/-- `DELETE ... WHERE ... RETURNING` of the one row that meets the condition. -/
def deleteRow {Row : Type} (model : Model Row) (cond : Row → Bool) : Db Row := do
  let row ← query (fun db => one ((model.rows db).filter cond))
  execute (fun db => model.deleteWhere db cond)
  return row

section Statements

variable {Row : Type} {model : Model Row} {db db' : Database} {row : Row}

theorem one_eq_ok_iff {rows : List Row} : one rows = .ok row ↔ rows = [row] := by
  match rows with
  | [] => simp only [one, reduceCtorEq]
  | [r] => simp only [one, Except.ok.injEq, List.cons.injEq, and_true]
  | r :: s :: rest => simp only [one, reduceCtorEq, List.cons.injEq, and_false]

section Values

variable {α : Type} {encodable : Bool} {id : Id} {statement : Db α} {a : α} {Q : Error → Prop}

theorem withValues_true : withValues true statement = statement := by
  unfold withValues
  rw [raiseIf, if_neg Bool.false_ne_true.symm]
  rfl

theorem returns_withValues :
    Returns (withValues encodable statement) db a db' ↔
      encodable = true ∧ Returns statement db a db' := by
  simp only [withValues, returns_bind, returns_raiseIf, Bool.not_eq_false, and_assoc,
    exists_and_left, exists_eq_left', exists_const]

theorem returns_withId :
    Returns (withId id statement) db a db' ↔ InBigint id ∧ Returns statement db a db' := by
  rw [withId, returns_withValues, decide_eq_true_eq]

/-- A statement with a value that is not encoded ends in an error of the driver. -/
theorem safeAt_withValues (h : ¬ Q .dataError) :
    SafeAt Q (withValues encodable statement) db ↔ encodable = true ∧ SafeAt Q statement db := by
  unfold withValues
  rw [safeAt_raiseIf_bind]
  cases encodable with
  | false => exact iff_of_false (fun hsafe => h (hsafe.1 rfl)) (fun hsafe => Bool.noConfusion hsafe.1)
  | true => simp only [Bool.true_eq_false, false_implies, not_false_eq_true, true_implies]

theorem safeAt_withId (h : ¬ Q .dataError) :
    SafeAt Q (withId id statement) db ↔ InBigint id ∧ SafeAt Q statement db := by
  rw [withId, safeAt_withValues h, decide_eq_true_eq]

end Values

theorem returns_nextval {s : Sequence} {id : Id} :
    Returns (nextval s) db id db' ↔
      id = db.sequences s ∧
        db' = { db with sequences := Function.update db.sequences s (id + 1) } := by
  simp only [nextval, returns_bind, returns_query, returns_execute, returns_pure,
    Except.ok.injEq]
  constructor
  · rintro ⟨_, _, ⟨rfl, rfl⟩, _, _, rfl, rfl, rfl⟩
    exact ⟨rfl, rfl⟩
  · rintro ⟨rfl, rfl⟩
    exact ⟨_, db, ⟨rfl, rfl⟩, (), _, rfl, rfl, rfl⟩

theorem returns_insertRow {row' : Row} :
    Returns (insertRow model row) db row' db' ↔
      (∀ c ∈ model.constraints db (model.rows db) row, c.1 = true) ∧ row' = row ∧
        db' = model.withRows db (model.rows db ++ [row]) := by
  simp only [insertRow, returns_bind, returns_query, returns_execute, returns_pure,
    firstViolation_eq_ok_iff]
  constructor
  · rintro ⟨_, _, ⟨hc, rfl⟩, _, _, rfl, rfl, rfl⟩
    exact ⟨hc, rfl, rfl⟩
  · rintro ⟨hc, rfl, rfl⟩
    exact ⟨(), db, ⟨hc, rfl⟩, (), _, rfl, rfl, rfl⟩

theorem returns_updateRow {cond : Row → Bool} {values : Row → Row} :
    Returns (updateRow model cond values) db row db' ↔
      ∃ old, (model.rows db).filter cond = [old] ∧
        (∀ c ∈ model.constraints db (delete cond (model.rows db)) (values old), c.1 = true) ∧
        row = values old ∧
        db' = model.withRows db (Table.update cond values (model.rows db)) := by
  simp only [updateRow, returns_bind, returns_query, returns_execute, returns_pure,
    firstViolation_eq_ok_iff, one_eq_ok_iff]
  constructor
  · rintro ⟨old, _, ⟨ho, rfl⟩, _, _, ⟨hc, rfl⟩, _, _, rfl, rfl, rfl⟩
    exact ⟨old, ho, hc, rfl, rfl⟩
  · rintro ⟨old, ho, hc, rfl, rfl⟩
    exact ⟨old, db, ⟨ho, rfl⟩, (), db, ⟨hc, rfl⟩, (), _, rfl, rfl, rfl⟩

theorem returns_deleteRow {cond : Row → Bool} :
    Returns (deleteRow model cond) db row db' ↔
      (model.rows db).filter cond = [row] ∧ db' = model.deleteWhere db cond := by
  simp only [deleteRow, returns_bind, returns_query, returns_execute, returns_pure,
    one_eq_ok_iff]
  constructor
  · rintro ⟨_, _, ⟨ho, rfl⟩, _, _, rfl, rfl, rfl⟩
    exact ⟨ho, rfl⟩
  · rintro ⟨ho, rfl⟩
    exact ⟨row, db, ⟨ho, rfl⟩, (), _, rfl, rfl, rfl⟩

/-- A sequence always has a next value. -/
theorem safeAt_nextval {s : Sequence} {Q : Error → Prop} : SafeAt Q (nextval s) db := by
  refine safeAt_bind.mpr ⟨safeAt_query.mpr (fun e he => nomatch he), fun _ _ _ => ?_⟩
  exact safeAt_bind.mpr ⟨safeAt_execute, fun _ _ _ => safeAt_pure⟩

/-- The errors of the statement are those of the constraints of the row. -/
theorem safeAt_insertRow {Q : Error → Prop} :
    SafeAt Q (insertRow model row) db ↔
      ∀ e, firstViolation (model.constraints db (model.rows db) row) = .error e → Q e := by
  unfold insertRow
  rw [safeAt_bind, safeAt_query, and_iff_left]
  intro _ u _
  exact safeAt_bind.mpr ⟨safeAt_execute, fun _ _ _ => safeAt_pure⟩

/-- The same of an update, when there is the row. -/
theorem safeAt_updateRow {cond : Row → Bool} {values : Row → Row} {old : Row} {Q : Error → Prop}
    (h : (model.rows db).filter cond = [old]) :
    SafeAt Q (updateRow model cond values) db ↔
      ∀ e, firstViolation (model.constraints db (delete cond (model.rows db)) (values old)) =
        .error e → Q e := by
  have hone : one ((model.rows db).filter cond) = .ok old := one_eq_ok_iff.mpr h
  unfold updateRow
  rw [safeAt_bind_read (readOnly_query _), safeAt_query]
  simp only [returns_query, hone, and_true, Except.ok.injEq, forall_eq', reduceCtorEq,
    false_implies, implies_true, true_and]
  rw [safeAt_bind, safeAt_query, and_iff_left]
  intro _ u _
  exact safeAt_bind.mpr ⟨safeAt_execute, fun _ _ _ => safeAt_pure⟩

end Statements

end SyncMaster
