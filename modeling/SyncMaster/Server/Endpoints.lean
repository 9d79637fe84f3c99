import SyncMaster.Db.Repositories

/-!
# Endpoints

The handlers of the routes that write, one definition each, in the order of
the source: first the permission checks and the reads, then one unit of work,
then the response.

`startRun` is the exception. It commits the new run, asks the broker to queue
it, and opens a second unit of work to mark the run as failed when the broker
raised a `KombuError`. How that ended is the parameter `sent`. Nobody catches an
exception that is no `KombuError`, and the run stays as it was committed.

Each handler takes the clock reading `now` of the request, which stamps the
rows it writes, and the current user, found by `getUser`.

## Main definitions

* `createConnection`, `updateConnection`, `deleteConnection`,
  `copyConnection`: The connection routes.
* `createQueue`, `updateQueue`, `deleteQueue`: The queue routes.
* `createTransfer`, `updateTransfer`, `deleteTransfer`, `copyTransfer`: The
  transfer routes.
* `createGroup`, `updateGroup`, `deleteGroup`, `addUserToGroup`,
  `updateUserRoleGroup`, `deleteUserFromGroup`: The group routes.
* `SendTask`: How `celery.send_task` ends.
* `startRun`, `stopRun`: The run routes.
* `sendJobToCelery`: The job of the scheduler, which creates runs as well.
-/

namespace SyncMaster

open Program

/-! ## Connections -/

/-- `TypeAdapter(ReadConnectionSchema)` applied to a row and its credentials. -/
def readConnectionSchema (connection : Connection) (authData : Option AuthValue) :
    ReadConnectionSchema where
  id := connection.id
  groupId := connection.groupId
  name := connection.name
  description := connection.description
  type := connection.type
  data := connection.data
  authData := authData.map readAuthData

def createConnection (now : Time) (currentUser : User) (connectionData : CreateConnectionSchema) :
    Db ReadConnectionSchema := do
  let groupPermission ← ConnectionRepository.getGroupPermission currentUser connectionData.groupId
  raiseIf (groupPermission = .none) .groupNotFoundError
  raiseIf (groupPermission < .write) .actionNotAllowedError
  let connection ← unitOfWork do
    let connection ← ConnectionRepository.create now connectionData.groupId connectionData.type
      connectionData.name.val connectionData.description connectionData.data
    let _ ← CredentialsRepository.create now connection.id connectionData.authData
    return connection
  let credentials ← CredentialsRepository.read connection.id
  return readConnectionSchema connection (some credentials)

/-- The value of a key of the stored credentials, a `KeyError` without it. -/
def getItem (d : Dict) (key : String) : Except Error Json :=
  match d.lookup key with
  | some value => .ok value
  | none => .error (.keyError key)

/-- Whether the value under the key is `None`. -/
def isNone (d : Dict) (key : String) : Except Error Bool := do
  let value ← getItem d key
  match value with
  | .null => return true
  | _ => return false

/-- The loop of `update_connection` over the secret fields: a secret that the
    request leaves out is taken from the stored credentials, which have to be
    of the same auth type. -/
def keepSecrets (existingCredentials : AuthValue) :
    List String → AuthValue → Except Error AuthValue
  | [], authData => .ok authData
  | secretField :: rest, authData => do
      let omitted ← isNone authData.fields secretField
      if omitted then
        if existingCredentials.type ≠ authData.type then
          .error .connectionAuthDataUpdateError
        else do
          let stored ← getItem existingCredentials.fields secretField
          keepSecrets existingCredentials rest
            { authData with fields := authData.fields.set secretField stored }
      else keepSecrets existingCredentials rest authData

def updateConnection (now : Time) (currentUser : User) (connectionId : Id)
    (connectionData : UpdateConnectionSchema) : Db ReadConnectionSchema := do
  let resourceRole ← ConnectionRepository.getResourcePermission currentUser connectionId
  raiseIf (resourceRole = .none) .connectionNotFoundError
  raiseIf (resourceRole < .write) .actionNotAllowedError
  let connection ← unitOfWork do
    let existingConnection ← ConnectionRepository.readById connectionId
    let linkedTransfers ← query (fun db =>
      .ok (TransferRepository.listByConnectionId db connectionId))
    raiseIf (connectionData.type ≠ existingConnection.type ∧ linkedTransfers.isEmpty = false)
      .connectionTypeUpdateError
    let existingCredentials ← CredentialsRepository.read connectionId
    let authData ← query (fun _ => keepSecrets existingCredentials
      connectionData.authData.type.secretFields connectionData.authData)
    let connection ← ConnectionRepository.update now connectionId connectionData.name.val
      connectionData.type connectionData.description connectionData.data
    let _ ← CredentialsRepository.update now connectionId authData
    return connection
  let credentials ← CredentialsRepository.read connectionId
  return readConnectionSchema connection (some credentials)

def deleteConnection (currentUser : User) (connectionId : Id) : Db Unit := do
  let resourceRole ← ConnectionRepository.getResourcePermission currentUser connectionId
  raiseIf (resourceRole = .none) .connectionNotFoundError
  raiseIf (resourceRole < .delete) .actionNotAllowedError
  let connection ← ConnectionRepository.readById connectionId
  let transfers ← query (fun db => .ok (TransferRepository.listByConnectionId db connection.id))
  raiseIf (transfers.isEmpty = false) (.connectionDeleteError
    ("The connection has an associated transfers. Number of the connected transfers: "
      ++ toString transfers.length))
  let _ ← unitOfWork (ConnectionRepository.delete connectionId)
  return ()

def copyConnection (currentUser : User) (connectionId : Id)
    (copyConnectionData : ConnectionCopySchema) : Db ReadConnectionSchema := do
  let resourceRole ← ConnectionRepository.getResourcePermission currentUser connectionId
  raiseIf (resourceRole = .none) .connectionNotFoundError
  raiseIf (copyConnectionData.removeSource = true ∧ resourceRole < .delete) .actionNotAllowedError
  let targetGroupRole ←
    ConnectionRepository.getGroupPermission currentUser copyConnectionData.newGroupId
  raiseIf (targetGroupRole = .none) .groupNotFoundError
  raiseIf (targetGroupRole < .write) .actionNotAllowedError
  let connection ← unitOfWork do
    let connection ← ConnectionRepository.copy connectionId copyConnectionData.newGroupId
      (copyConnectionData.newName.map (·.val))
    if copyConnectionData.removeSource then
      let _ ← ConnectionRepository.delete connectionId
      return connection
    else return connection
  return readConnectionSchema connection none

/-! ## Queues -/

def createQueue (now : Time) (currentUser : User) (queueData : CreateQueueSchema) : Db Queue := do
  let groupPermission ← QueueRepository.getGroupPermission currentUser queueData.groupId
  raiseIf (groupPermission = .none) .groupNotFoundError
  raiseIf (groupPermission < .delete) .actionNotAllowedError
  unitOfWork (QueueRepository.create now queueData)

def updateQueue (now : Time) (currentUser : User) (queueId : Id) (queueData : UpdateQueueSchema) :
    Db Queue := do
  let resourceRole ← QueueRepository.getResourcePermission currentUser queueId
  raiseIf (resourceRole = .none) .queueNotFoundError
  raiseIf (resourceRole < .delete) .actionNotAllowedError
  unitOfWork (QueueRepository.update now queueId queueData.name.val queueData.description)

def deleteQueue (currentUser : User) (queueId : Id) : Db Unit := do
  let resourceRole ← QueueRepository.getResourcePermission currentUser queueId
  raiseIf (resourceRole = .none) .queueNotFoundError
  raiseIf (resourceRole < .delete) .actionNotAllowedError
  let queue ← QueueRepository.readById queueId
  -- Only the transfers of the queue's own group are looked at.
  let transfers ← query (fun db => .ok (TransferRepository.ofQueue db queue.groupId queue.id))
  raiseIf (transfers.isEmpty = false) (.queueDeleteError
    ("The queue has an associated transfers(s). Number of the linked transfers: "
      ++ toString transfers.length))
  let _ ← unitOfWork (QueueRepository.delete queueId)
  return ()

/-! ## Transfers -/

/-- The checks that `create_transfer` and `update_transfer` make on the rows a
    body refers to. The group compared is the one in the body. -/
def checkTransferLinks (transferData : CreateTransferSchema)
    (targetConnection sourceConnection : Connection) (queue : Queue) : Db Unit := do
  raiseIf (targetConnection.groupId ≠ sourceConnection.groupId ∨
      targetConnection.groupId ≠ transferData.groupId ∨
      sourceConnection.groupId ≠ transferData.groupId)
    .differentTransferAndConnectionsGroupsError
  raiseIf (targetConnection.type ≠ transferData.targetParams.type)
    (.differentTypeConnectionsAndParamsError targetConnection.type transferData.targetParams.type
      .target)
  raiseIf (sourceConnection.type ≠ transferData.sourceParams.type)
    (.differentTypeConnectionsAndParamsError sourceConnection.type transferData.sourceParams.type
      .source)
  raiseIf (transferData.groupId ≠ queue.groupId) .differentTransferAndQueueGroupError

def createTransfer (now : Time) (currentUser : User) (transferData : CreateTransferSchema) :
    Db Transfer := do
  let groupPermission ← TransferRepository.getGroupPermission currentUser transferData.groupId
  raiseIf (groupPermission < .write) .actionNotAllowedError
  let targetConnection ← ConnectionRepository.readById transferData.targetConnectionId
  let sourceConnection ← ConnectionRepository.readById transferData.sourceConnectionId
  let queue ← QueueRepository.readById transferData.queueId
  checkTransferLinks transferData targetConnection sourceConnection queue
  unitOfWork (TransferRepository.create now transferData)

def copyTransfer (currentUser : User) (transferId : Id) (transferData : CopyTransferSchema) :
    Db Transfer := do
  let resourceRole ← TransferRepository.getResourcePermission currentUser transferId
  raiseIf (resourceRole = .none) .transferNotFoundError
  raiseIf (transferData.removeSource = true ∧ resourceRole < .delete) .actionNotAllowedError
  let targetGroupRole ← TransferRepository.getGroupPermission currentUser transferData.newGroupId
  raiseIf (targetGroupRole < .write) .actionNotAllowedError
  let transfer ← TransferRepository.readById transferId
  let sourceConnectionRole ←
    ConnectionRepository.getResourcePermission currentUser transfer.sourceConnectionId
  raiseIf (sourceConnectionRole = .none) .connectionNotFoundError
  let targetConnectionRole ←
    ConnectionRepository.getResourcePermission currentUser transfer.targetConnectionId
  raiseIf (targetConnectionRole = .none) .connectionNotFoundError
  let newQueue ← QueueRepository.readById transferData.newQueueId
  raiseIf (newQueue.groupId ≠ transferData.newGroupId) .differentTransferAndQueueGroupError
  unitOfWork do
    let copiedSourceConnection ← ConnectionRepository.copy transfer.sourceConnectionId
      transferData.newGroupId (transferData.newSourceConnectionName.map (·.val))
    let copiedTargetConnection ←
      (if transfer.sourceConnectionId = transfer.targetConnectionId then
        pure copiedSourceConnection
      else
        ConnectionRepository.copy transfer.targetConnectionId transferData.newGroupId
          (transferData.newTargetConnectionName.map (·.val)))
    let copiedTransfer ← TransferRepository.copy transferId transferData.newQueueId
      transferData.newGroupId copiedSourceConnection.id copiedTargetConnection.id
      (transferData.newName.map (·.val))
    if transferData.removeSource then
      let _ ← TransferRepository.delete transferId
      return copiedTransfer
    else return copiedTransfer

def updateTransfer (now : Time) (currentUser : User) (transferId : Id)
    (transferData : CreateTransferSchema) : Db Transfer := do
  let resourceRole ← TransferRepository.getResourcePermission currentUser transferId
  raiseIf (resourceRole = .none) .transferNotFoundError
  raiseIf (resourceRole < .write) .actionNotAllowedError
  let targetConnection ← ConnectionRepository.readById transferData.targetConnectionId
  let sourceConnection ← ConnectionRepository.readById transferData.sourceConnectionId
  let queue ← QueueRepository.readById transferData.queueId
  let targetConnectionResourceRole ←
    ConnectionRepository.getResourcePermission currentUser targetConnection.id
  let sourceConnectionResourceRole ←
    ConnectionRepository.getResourcePermission currentUser sourceConnection.id
  raiseIf (sourceConnectionResourceRole = .none ∨ targetConnectionResourceRole = .none)
    .connectionNotFoundError
  checkTransferLinks transferData targetConnection sourceConnection queue
  unitOfWork (TransferRepository.update now transferId transferData)

def deleteTransfer (currentUser : User) (transferId : Id) : Db Unit := do
  let resourceRole ← TransferRepository.getResourcePermission currentUser transferId
  raiseIf (resourceRole = .none) .transferNotFoundError
  raiseIf (resourceRole < .delete) .actionNotAllowedError
  let _ ← unitOfWork (TransferRepository.delete transferId)
  return ()

/-! ## Groups -/

def createGroup (now : Time) (currentUser : User) (groupData : CreateGroupSchema) : Db Group :=
  unitOfWork (GroupRepository.create now groupData.name.val groupData.description currentUser.id)

def updateGroup (now : Time) (currentUser : User) (groupId : Id) (groupData : UpdateGroupSchema) :
    Db Group := do
  let resourceRule ← GroupRepository.getGroupPermission currentUser groupId
  raiseIf (resourceRule = .none) .groupNotFoundError
  raiseIf (resourceRule < .delete) .actionNotAllowedError
  unitOfWork do
    let group ← GroupRepository.readById groupId
    let previousOwnerId := group.ownerId
    let group ← GroupRepository.update now groupId groupData.name.val groupData.description
      groupData.ownerId
    if previousOwnerId ≠ groupData.ownerId then
      let newOwnerUserGroup ← GroupRepository.getUserGroup groupId groupData.ownerId
      if newOwnerUserGroup.isSome then
        let _ ← GroupRepository.deleteUser groupId groupData.ownerId
        let _ ← GroupRepository.addUser groupId previousOwnerId .guest
        return group
      else
        let _ ← GroupRepository.addUser groupId previousOwnerId .guest
        return group
    else return group

/-- The route asks `get_user` for a superuser. -/
def deleteGroup (currentUser : User) (groupId : Id) : Db Unit := do
  raiseIf (currentUser.isSuperuser = false) .actionNotAllowedError
  let _ ← unitOfWork (GroupRepository.delete groupId)
  return ()

def updateUserRoleGroup (currentUser : User) (groupId userId : Id)
    (updateUserData : AddUserSchema) : Db UserGroup := do
  let resourceRule ← GroupRepository.getGroupPermission currentUser groupId
  raiseIf (resourceRule = .none) .groupNotFoundError
  raiseIf (resourceRule < .delete) .actionNotAllowedError
  unitOfWork (GroupRepository.updateMemberRole groupId userId updateUserData.role)

def addUserToGroup (currentUser : User) (groupId userId : Id) (addUserData : AddUserSchema) :
    Db Unit := do
  let resourceRule ← GroupRepository.getGroupPermission currentUser groupId
  raiseIf (resourceRule = .none) .groupNotFoundError
  raiseIf (resourceRule < .delete) .actionNotAllowedError
  let group ← GroupRepository.readById groupId
  raiseIf (group.ownerId = userId) .alreadyIsGroupOwnerError
  let _ ← unitOfWork (GroupRepository.addUser groupId userId addUserData.role)
  return ()

def deleteUserFromGroup (currentUser : User) (groupId userId : Id) : Db Unit := do
  let resourceRule ← GroupRepository.getGroupPermission currentUser groupId
  raiseIf (resourceRule = .none) .groupNotFoundError
  raiseIf (userId ≠ currentUser.id ∧ resourceRule < .delete) .actionNotAllowedError
  let _ ← unitOfWork (GroupRepository.deleteUser groupId userId)
  return ()

/-! ## Runs -/

/-- How `celery.send_task` ends. -/
inductive SendTask where
  | returned
  | kombuError
  /-- It raises an exception that is no `KombuError`, such as those of the AMQP
      client about access and missing queues. -/
  | otherError
  deriving DecidableEq, Repr

/-- The run that a request or the scheduler creates, and what becomes of it when
    the broker does not take it. -/
def createAndSendRun (now : Time) (transfer : Transfer) (type : RunType) (sent : SendTask) :
    Db Run := do
  let credentialsSource ← CredentialsRepository.read transfer.sourceConnectionId
  let credentialsTarget ← CredentialsRepository.read transfer.targetConnectionId
  let run ← unitOfWork (RunRepository.create now transfer.id (readAuthData credentialsSource)
    (readAuthData credentialsTarget) type)
  match sent with
  | .returned => return run
  | .kombuError =>
      let run ← unitOfWork (RunRepository.update now run.id .failed)
      throw (.cannotConnectToTaskQueueError run.id)
  -- `except KombuError` does not catch it, and the run stays `CREATED`.
  | .otherError => throw .sendTaskError

def startRun (now : Time) (sent : SendTask) (currentUser : User) (createRunData : CreateRunSchema) :
    Db Run := do
  let resourceRule ← TransferRepository.getResourcePermission currentUser createRunData.transferId
  raiseIf (resourceRule = .none) .transferNotFoundError
  raiseIf (resourceRule < .write) .actionNotAllowedError
  let transfer ← TransferRepository.readById createRunData.transferId
  let _ ← QueueRepository.readById transfer.queueId
  createAndSendRun now transfer .manual sent

def stopRun (now : Time) (currentUser : User) (runId : Id) : Db Run := do
  let run ← RunRepository.readById runId
  let resourceRule ← TransferRepository.getResourcePermission currentUser run.transferId
  raiseIf (resourceRule = .none) .transferNotFoundError
  raiseIf (resourceRule < .write) .actionNotAllowedError
  unitOfWork (RunRepository.stop now runId)

/-- `TransferJobManager.send_job_to_celery`. A transfer that is gone is no
    error. -/
def sendJobToCelery (now : Time) (sent : SendTask) (transferId : Id) : Db (Option Run) := do
  let transfers ← query (fun db => .ok (db.transfers.filter (fun t => t.id == transferId)))
  match transfers with
  | [] => return none
  | transfer :: _ =>
      let run ← createAndSendRun now transfer .scheduled sent
      return some run

end SyncMaster
