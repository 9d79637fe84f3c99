import SyncMaster.Schemas

/-!
# Repositories

What the endpoints call to read and write the database.

The generic part is `Repository`: an update or a deletion by identifier, and
`copy`, which clones every column of a row but the identifier and then applies
the arguments that are not `None`. The timestamps are columns like any other,
so a clone has the timestamps of its original.

Each repository turns the integrity errors of its table into errors of its
own; an error of another kind, such as a value too long for its column, passes
through. The schemas bound the names, but neither descriptions nor schedules, so
these are stored as their columns cut them.

Permissions are computed from the same two facts everywhere: who owns the
group, and which role the membership row gives. The repositories differ in
what a role is worth, so the computation takes that as a parameter.

## Main definitions

* `groupPermission`, `resourcePermission`: The permission of a user in a group
  or on a row.
* `memberRights`, `queueRights`, `groupRights`: What a role is worth.
* `Repository.update`, `Repository.delete`, `Repository.copy`: The generic
  operations.
* `ConnectionRepository`, `QueueRepository`, `TransferRepository`,
  `GroupRepository`, `RunRepository`, `CredentialsRepository`,
  `UserRepository`: One namespace for each repository.
-/

namespace SyncMaster

open Program

/-! ## Permissions -/

/-- `RepositoryWithOwner`: what the role of a member is worth. -/
def memberRights : GroupMemberRole → Permission
  | .maintainer => .delete
  | .developer => .write
  | .guest | .owner | .superuser => .read

/-- `QueueRepository`: a developer does not write queues. -/
def queueRights : GroupMemberRole → Permission
  | .maintainer => .delete
  | .developer | .guest | .owner | .superuser => .read

/-- `GroupRepository`: a member only reads the group. -/
def groupRights : GroupMemberRole → Permission :=
  fun _ => .read

/-- `get_group_permission`. -/
def groupPermission (rights : GroupMemberRole → Permission) (db : Database) (user : User)
    (groupId : Id) : Except Error Permission :=
  if !db.groups.any (fun g => g.id == groupId) then .error .groupNotFoundError
  else if user.isSuperuser then .ok .delete
  else if db.groups.any (fun g => g.ownerId == user.id && g.id == groupId) then .ok .delete
  else match db.userGroups.find? (fun ug => ug.groupId == groupId && ug.userId == user.id) with
    | none => .ok .none
    | some ug => .ok (rights ug.role)

/-- `get_resource_permission`. -/
def resourcePermission {Row : Type} (rights : GroupMemberRole → Permission) (model : Model Row)
    (resource : Row → ResourceMixin) (db : Database) (user : User) (resourceId : Id) :
    Permission :=
  let rows := model.rows db
  if !rows.any (fun r => (resource r).id == resourceId) then .none
  else if user.isSuperuser then .delete
  else if rows.any (fun r => db.groups.any (fun g => g.id == (resource r).groupId &&
      g.ownerId == user.id && (resource r).id == resourceId)) then .delete
  else match db.userGroups.find? (fun ug => rows.any (fun r => ug.groupId == (resource r).groupId &&
      (resource r).id == resourceId) && ug.userId == user.id) with
    | none => .none
    | some ug => rights ug.role

/-! ## The generic repository -/

/-- Replace `NoResultFound`. -/
def notFoundAs (e : Error) : Error → Error
  | .noResultFound => e
  | other => other

namespace Repository

variable {Row : Type}

/-- `_update` -/
def update (model : Model Row) (cond : Row → Bool) (values : Row → Row) : Db Row :=
  catching (notFoundAs .entityNotFoundError) (updateRow model cond values)

/-- `_delete` -/
def delete (model : Model Row) (cond : Row → Bool) : Db Row :=
  deleteRow model cond

/-- `_copy`: `values` is given the new identifier and the original row. -/
def copy (model : Model Row) (s : Sequence) (cond : Row → Bool) (values : Id → Row → Row) :
    Db Row := do
  let origin ← query (fun db => one ((model.rows db).filter cond))
  let id ← nextval s
  insertRow model (values id origin)

end Repository

/-! ## Users -/

namespace UserRepository

def readById (userId : Id) : Db User :=
  query (fun db => match db.users.find? (fun u => u.id == userId) with
    | none => .error .userNotFoundError
    | some user => .ok user)

def create (username : String) : Db User := do
  let id ← nextval .user
  insertRow User.model { id := id, username := username, isSuperuser := false, isActive := true }

end UserRepository

/-! ## Groups -/

namespace GroupRepository

/-- `_raise_error` -/
def raiseError : Error → Error
  | .integrityError .fkGroupOwnerIdUser => .userNotFoundError
  | .integrityError .uqGroupName => .groupAlreadyExistsError
  | .integrityError .pkUserGroup => .alreadyIsGroupMemberError
  | .integrityError .fkUserGroupGroupIdGroup => .groupNotFoundError
  | .integrityError .fkUserGroupUserIdUser => .userNotFoundError
  | .integrityError _ => .syncmasterError
  | other => other

def getGroupPermission (user : User) (groupId : Id) : Db Permission :=
  query (fun db => groupPermission groupRights db user groupId)

def readById (groupId : Id) : Db Group :=
  catching (notFoundAs .groupNotFoundError)
    (query (fun db => one (db.groups.filter (fun g => g.id == groupId))))

def create (now : Time) (name description : String) (ownerId : Id) : Db Group := do
  let id ← nextval .group
  catching raiseError (insertRow Group.model
    { id := id, name := name, description := varchar 512 description, ownerId := ownerId,
      createdAt := now, updatedAt := now })

def update (now : Time) (groupId : Id) (name description : String) (ownerId : Id) : Db Group :=
  catching (fun e => raiseError (if e = .entityNotFoundError then .groupNotFoundError else e))
    (Repository.update Group.model (fun g => g.id == groupId) (fun g =>
      { g with
        name := name
        description := varchar 512 description
        ownerId := ownerId
        updatedAt := now }))

def delete (groupId : Id) : Db Group :=
  catching (notFoundAs .groupNotFoundError)
    (Repository.delete Group.model (fun g => g.id == groupId))

/-- The primary key of `user_group`. -/
def isMembership (groupId userId : Id) (ug : UserGroup) : Bool :=
  ug.groupId == groupId && ug.userId == userId

def getUserGroup (groupId userId : Id) : Db (Option UserGroup) :=
  query (fun db => .ok (db.userGroups.find? (isMembership groupId userId)))

def getMemberRole (user : User) (groupId : Id) : Db GroupMemberRole :=
  query (fun db =>
    if user.isSuperuser then .ok .superuser
    else match db.userGroups.find? (isMembership groupId user.id) with
      | some ug => .ok ug.role
      | none => .ok .owner)

def updateMemberRole (groupId userId : Id) (role : GroupMemberRole) : Db UserGroup :=
  catching (fun e => raiseError (notFoundAs .userNotFoundError e))
    (updateRow UserGroup.model (isMembership groupId userId)
      (fun _ => { groupId := groupId, userId := userId, role := role }))

def addUser (groupId newUserId : Id) (role : GroupMemberRole) : Db UserGroup :=
  catching raiseError
    (insertRow UserGroup.model { groupId := groupId, userId := newUserId, role := role })

def deleteUser (groupId targetUserId : Id) : Db UserGroup :=
  catching (notFoundAs .alreadyIsNotGroupMemberError)
    (deleteRow UserGroup.model (isMembership groupId targetUserId))

end GroupRepository

/-! ## Connections -/

namespace ConnectionRepository

/-- `_raise_error` -/
def raiseError : Error → Error
  | .integrityError .fkConnectionGroupIdGroup => .groupNotFoundError
  | .integrityError .uqConnectionNameGroupId => .duplicatedConnectionNameError
  | .integrityError _ => .syncmasterError
  | other => other

def getGroupPermission (user : User) (groupId : Id) : Db Permission :=
  query (fun db => groupPermission memberRights db user groupId)

def getResourcePermission (user : User) (resourceId : Id) : Db Permission :=
  query (fun db => .ok (resourcePermission memberRights Connection.model (·.toResourceMixin)
    db user resourceId))

def readById (connectionId : Id) : Db Connection :=
  catching (notFoundAs .connectionNotFoundError)
    (query (fun db => one (db.connections.filter (fun c => c.id == connectionId))))

def create (now : Time) (groupId : Id) (type : ConnectionType) (name description : String)
    (data : Dict) : Db Connection := do
  let id ← nextval .connection
  catching raiseError (insertRow Connection.model
    { id := id, groupId := groupId, type := type, name := name,
      description := varchar 512 description, data := data, createdAt := now, updatedAt := now })

def update (now : Time) (connectionId : Id) (name : String) (type : ConnectionType)
    (description : String) (data : Dict) : Db Connection :=
  catching raiseError
    (Repository.update Connection.model (fun c => c.id == connectionId) (fun c =>
      { c with
        type := type
        name := name
        description := varchar 512 description
        data := data
        updatedAt := now }))

def delete (connectionId : Id) : Db Connection :=
  catching (notFoundAs .connectionNotFoundError)
    (Repository.delete Connection.model (fun c => c.id == connectionId))

def copy (connectionId newGroupId : Id) (newName : Option String) : Db Connection :=
  catching raiseError
    (Repository.copy Connection.model .connection (fun c => c.id == connectionId)
      (fun id origin =>
        { origin with id := id, groupId := newGroupId, name := newName.getD origin.name }))

end ConnectionRepository

/-! ## Credentials -/

namespace CredentialsRepository

/-- `_raise_error` -/
def raiseError : Error → Error
  | .integrityError _ => .syncmasterError
  | other => other

def read (connectionId : Id) : Db AuthValue := do
  let authData ← catching
    (notFoundAs (.authDataNotFoundError ("Connection id = " ++ toString connectionId)))
    (query (fun db => one (db.authData.filter (fun a => a.connectionId == connectionId))))
  return authData.value

def create (now : Time) (connectionId : Id) (data : AuthValue) : Db AuthData :=
  catching raiseError (insertRow AuthData.model
    { connectionId := connectionId, value := data, createdAt := now, updatedAt := now })

def update (now : Time) (connectionId : Id) (data : AuthValue) : Db AuthData :=
  catching raiseError
    (Repository.update AuthData.model (fun a => a.connectionId == connectionId)
      (fun a => { a with value := data, updatedAt := now }))

end CredentialsRepository

/-! ## Queues -/

namespace QueueRepository

/-- `_raise_error` -/
def raiseError : Error → Error
  | .integrityError .uqQueueSlug => .duplicatedQueueNameError
  | .integrityError _ => .syncmasterError
  | other => other

def getGroupPermission (user : User) (groupId : Id) : Db Permission :=
  query (fun db => groupPermission queueRights db user groupId)

def getResourcePermission (user : User) (resourceId : Id) : Db Permission :=
  query (fun db => .ok (resourcePermission queueRights Queue.model (·.toResourceMixin)
    db user resourceId))

def readById (queueId : Id) : Db Queue :=
  catching (notFoundAs .queueNotFoundError)
    (query (fun db => one (db.queues.filter (fun q => q.id == queueId))))

def create (now : Time) (queueData : CreateQueueSchema) : Db Queue := do
  let id ← nextval .queue
  catching raiseError (insertRow Queue.model
    { id := id, name := queueData.name.val, groupId := queueData.groupId,
      description := varchar 512 queueData.description, slug := queueData.slug,
      createdAt := now, updatedAt := now })

def update (now : Time) (queueId : Id) (name description : String) : Db Queue :=
  catching raiseError
    (Repository.update Queue.model (fun q => q.id == queueId)
      (fun q => { q with
        name := name
        description := varchar 512 description
        updatedAt := now }))

def delete (queueId : Id) : Db Queue :=
  catching (notFoundAs .queueNotFoundError)
    (Repository.delete Queue.model (fun q => q.id == queueId))

end QueueRepository

/-! ## Transfers -/

namespace TransferRepository

/-- `_raise_error` -/
def raiseError : Error → Error
  | .integrityError .fkTransferGroupIdGroup => .groupNotFoundError
  | .integrityError .fkTransferSourceConnectionIdConnection => .connectionNotFoundError
  | .integrityError .fkTransferTargetConnectionIdConnection => .connectionNotFoundError
  | .integrityError .fkTransferQueueIdQueue => .queueNotFoundError
  | .integrityError .uqTransferNameGroupId => .duplicatedTransferNameError
  | .integrityError _ => .syncmasterError
  | other => other

def getGroupPermission (user : User) (groupId : Id) : Db Permission :=
  query (fun db => groupPermission memberRights db user groupId)

def getResourcePermission (user : User) (resourceId : Id) : Db Permission :=
  query (fun db => .ok (resourcePermission memberRights Transfer.model (·.toResourceMixin)
    db user resourceId))

def readById (transferId : Id) : Db Transfer :=
  catching (notFoundAs .transferNotFoundError)
    (query (fun db => one (db.transfers.filter (fun t => t.id == transferId))))

/-- The rows of `paginate` when it is given a group and a queue. -/
def ofQueue (db : Database) (groupId queueId : Id) : List Transfer :=
  db.transfers.filter (fun t => t.groupId == groupId && t.queueId == queueId)

/-- `list_by_connection_id` -/
def listByConnectionId (db : Database) (connId : Id) : List Transfer :=
  db.transfers.filter (fun t => t.sourceConnectionId == connId || t.targetConnectionId == connId)

def create (now : Time) (transferData : CreateTransferSchema) : Db Transfer := do
  let id ← nextval .transfer
  catching raiseError (insertRow Transfer.model
    { id := id
      groupId := transferData.groupId
      name := transferData.name.val
      description := varchar 512 transferData.description
      targetConnectionId := transferData.targetConnectionId
      sourceConnectionId := transferData.sourceConnectionId
      sourceParams := transferData.sourceParams
      targetParams := transferData.targetParams
      strategyParams := transferData.strategyParams
      transformations := transferData.transformations
      resources := transferData.resources
      queueId := transferData.queueId
      isScheduled := transferData.isScheduled
      schedule := varchar 32 (transferData.schedule.getD "")
      createdAt := now
      updatedAt := now })

/-- The columns that `update` sets. The group is not one of them. -/
def setColumns (now : Time) (transferData : CreateTransferSchema) (t : Transfer) : Transfer :=
  { t with
    name := transferData.name.val
    description := varchar 512 transferData.description
    strategyParams := transferData.strategyParams
    isScheduled := transferData.isScheduled
    schedule := varchar 32 (transferData.schedule.getD "")
    sourceConnectionId := transferData.sourceConnectionId
    targetConnectionId := transferData.targetConnectionId
    sourceParams := transferData.sourceParams
    targetParams := transferData.targetParams
    transformations := transferData.transformations
    resources := transferData.resources
    queueId := transferData.queueId
    updatedAt := now }

def update (now : Time) (transferId : Id) (transferData : CreateTransferSchema) : Db Transfer :=
  catching raiseError
    (Repository.update Transfer.model (fun t => t.id == transferId) (setColumns now transferData))

def delete (transferId : Id) : Db Transfer :=
  catching (notFoundAs .transferNotFoundError)
    (Repository.delete Transfer.model (fun t => t.id == transferId))

def copy (transferId newQueueId newGroupId newSourceConnection newTargetConnection : Id)
    (newName : Option String) : Db Transfer :=
  catching raiseError
    (Repository.copy Transfer.model .transfer (fun t => t.id == transferId) (fun id origin =>
      { origin with
        id := id
        groupId := newGroupId
        sourceConnectionId := newSourceConnection
        targetConnectionId := newTargetConnection
        queueId := newQueueId
        name := newName.getD origin.name }))

end TransferRepository

/-! ## Runs -/

/-- The statuses in which `stop` lets a run be stopped. -/
def Status.canStop (s : Status) : Bool :=
  s == .created || s == .started

namespace RunRepository

/-- `_raise_error` -/
def raiseError : Error → Error
  | .integrityError .fkRunTransferIdTransfer => .transferNotFoundError
  | .integrityError _ => .syncmasterError
  | other => other

def readById (runId : Id) : Db Run :=
  query (fun db => match db.runs.find? (fun r => r.id == runId) with
    | none => .error .runNotFoundError
    | some run => .ok run)

def connectionDump (c : Connection) (creds : AuthValue) : ConnectionDump where
  id := c.id
  groupId := c.groupId
  name := c.name
  description := c.description
  data := c.data
  authData := creds

/-- `read_full_serialized_transfer` -/
def readFullSerializedTransfer (transferId : Id) (sourceCreds targetCreds : AuthValue) :
    Db TransferDump := do
  let transfer ← query (fun db => one (db.transfers.filter (fun t => t.id == transferId)))
  let sourceConnection ← query (fun db =>
    one (db.connections.filter (fun c => c.id == transfer.sourceConnectionId)))
  let targetConnection ← query (fun db =>
    one (db.connections.filter (fun c => c.id == transfer.targetConnectionId)))
  return {
    id := transfer.id
    name := transfer.name
    groupId := transfer.groupId
    queueId := transfer.queueId
    sourceConnectionId := transfer.sourceConnectionId
    targetConnectionId := transfer.targetConnectionId
    isScheduled := transfer.isScheduled
    description := transfer.description
    schedule := transfer.schedule
    sourceParams := transfer.sourceParams
    targetParams := transfer.targetParams
    strategyParams := transfer.strategyParams
    sourceConnection := connectionDump sourceConnection sourceCreds
    targetConnection := connectionDump targetConnection targetCreds }

def create (now : Time) (transferId : Id) (sourceCreds targetCreds : AuthValue) (type : RunType) :
    Db Run := do
  let transferDump ← readFullSerializedTransfer transferId sourceCreds targetCreds
  let id ← nextval .run
  catching raiseError (insertRow Run.model
    { id := id, transferId := transferId, transferDump := transferDump, type := type,
      status := .created, startedAt := none, endedAt := none, logUrl := none,
      createdAt := now, updatedAt := now })

def update (now : Time) (runId : Id) (status : Status) : Db Run :=
  catching raiseError
    (Repository.update Run.model (fun r => r.id == runId)
      (fun r => { r with status := status, updatedAt := now }))

def stop (now : Time) (runId : Id) : Db Run := do
  let run ← readById runId
  raiseIf (run.status.canStop = false) (.cannotStopRunError runId run.status)
  updateRow Run.model (fun r => r.id == runId)
    (fun r => { r with status := .sendStopSignal, updatedAt := now })

end RunRepository

end SyncMaster
