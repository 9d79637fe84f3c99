import SyncMaster.Server.Endpoints
import SyncMaster.Library.Machine

/-!
# The Service as a Transition System

The requests of the API, and the other processes that write the same database:
the login that creates a user, the script that names superusers, the jobs of
the scheduler and the tasks of the worker.

Each event runs to its end before the next one starts. Interleavings of the
statements of several processes are a matter of their own, taken up where a
claim is about them.

`Database.step` is total: an event that ends in an error is a step too, to the
state the error leaves.

## Main definitions

* `Request`, `Response`, `handle`: The routes.
* `getUser`, `api`: A request with its authentication.
* `login`, `addSuperusers`, `removeSuperusers`: How users come about.
* `startTask`, `finishTask`: The two writes of a worker.
* `Event`, `perform`, `Database.step`: The service.
* `Reachable`: The states of the service.
-/

namespace SyncMaster

open Program

/-! ## Requests -/

inductive Response where
  | noContent
  | connection (body : ReadConnectionSchema)
  | queue (body : Queue)
  | transfer (body : Transfer)
  | group (body : Group)
  | userGroup (body : UserGroup)
  | run (body : Run)
  | json (body : Json)

/-- A request, after the validation of its body. The routes that only read are
    one constructor: whatever such a route computes, it computes from the
    database. -/
inductive Request where
  | read (answer : User → Database → Except Error Json)
  | createConnection (body : CreateConnectionSchema)
  | updateConnection (connectionId : Id) (body : UpdateConnectionSchema)
  | deleteConnection (connectionId : Id)
  | copyConnection (connectionId : Id) (body : ConnectionCopySchema)
  | createQueue (body : CreateQueueSchema)
  | updateQueue (queueId : Id) (body : UpdateQueueSchema)
  | deleteQueue (queueId : Id)
  | createTransfer (body : CreateTransferSchema)
  | copyTransfer (transferId : Id) (body : CopyTransferSchema)
  | updateTransfer (transferId : Id) (body : CreateTransferSchema)
  | deleteTransfer (transferId : Id)
  | createGroup (body : CreateGroupSchema)
  | updateGroup (groupId : Id) (body : UpdateGroupSchema)
  | deleteGroup (groupId : Id)
  | updateUserRoleGroup (groupId userId : Id) (body : AddUserSchema)
  | addUserToGroup (groupId userId : Id) (body : AddUserSchema)
  | deleteUserFromGroup (groupId userId : Id)
  | startRun (body : CreateRunSchema)
  | stopRun (runId : Id)

/-- The request is no `GET`. -/
def Request.Writes : Request → Prop
  | .read _ => False
  | _ => True

/-- The route of a request, with the clock reading that stamps what it writes
    and the answer of the broker, if it asks the broker. -/
def handle (now : Time) (sent : SendTask) (currentUser : User) : Request → Db Response
  | .read answer => do
      let body ← query (answer currentUser)
      return .json body
  | .createConnection body => do
      let connection ← createConnection now currentUser body
      return .connection connection
  | .updateConnection connectionId body => do
      let connection ← updateConnection now currentUser connectionId body
      return .connection connection
  | .deleteConnection connectionId => do
      deleteConnection currentUser connectionId
      return .noContent
  | .copyConnection connectionId body => do
      let connection ← copyConnection currentUser connectionId body
      return .connection connection
  | .createQueue body => do
      let queue ← createQueue now currentUser body
      return .queue queue
  | .updateQueue queueId body => do
      let queue ← updateQueue now currentUser queueId body
      return .queue queue
  | .deleteQueue queueId => do
      deleteQueue currentUser queueId
      return .noContent
  | .createTransfer body => do
      let transfer ← createTransfer now currentUser body
      return .transfer transfer
  | .copyTransfer transferId body => do
      let transfer ← copyTransfer currentUser transferId body
      return .transfer transfer
  | .updateTransfer transferId body => do
      let transfer ← updateTransfer now currentUser transferId body
      return .transfer transfer
  | .deleteTransfer transferId => do
      deleteTransfer currentUser transferId
      return .noContent
  | .createGroup body => do
      let group ← createGroup now currentUser body
      return .group group
  | .updateGroup groupId body => do
      let group ← updateGroup now currentUser groupId body
      return .group group
  | .deleteGroup groupId => do
      deleteGroup currentUser groupId
      return .noContent
  | .updateUserRoleGroup groupId userId body => do
      let userGroup ← updateUserRoleGroup currentUser groupId userId body
      return .userGroup userGroup
  | .addUserToGroup groupId userId body => do
      addUserToGroup currentUser groupId userId body
      return .noContent
  | .deleteUserFromGroup groupId userId => do
      deleteUserFromGroup currentUser groupId userId
      return .noContent
  | .startRun body => do
      let run ← startRun now sent currentUser body
      return .run run
  | .stopRun runId => do
      let run ← stopRun now currentUser runId
      return .run run

/-- `get_user`, given the user that the access token names. -/
def getUser (userId : Id) : Db User := do
  let user ← UserRepository.readById userId
  raiseIf (user.isActive = false) .actionNotAllowedError
  return user

/-- A request of the user that the access token names. -/
def api (now : Time) (sent : SendTask) (userId : Id) (request : Request) : Db Response := do
  let currentUser ← getUser userId
  handle now sent currentUser request

/-! ## Other processes -/

/-- The user that logs in, created at the first login. -/
def login (username : String) : Db User := unitOfWork do
  let found ← query (fun db => .ok (db.users.find? (fun u => u.username == username)))
  match found with
  | some user => return user
  | none => UserRepository.create username

/-- The users of the list that do not exist yet, as superusers. -/
def insertSuperusers : List String → Db Unit
  | [] => return ()
  | username :: rest => do
      let found ← query (fun db => .ok (db.users.any (fun u => u.username == username)))
      if found then insertSuperusers rest
      else do
        let id ← nextval .user
        let _ ← insertRow User.model
          { id := id, username := username, isSuperuser := true, isActive := true }
        insertSuperusers rest

/-- The `is_superuser` flag of the users of the list. -/
def setSuperuser (usernames : List String) (isSuperuser : Bool) : Db Unit :=
  execute (fun db =>
    { db with
      users := Table.update (fun u => usernames.contains u.username)
        (fun u => { u with isSuperuser := isSuperuser }) db.users })

/-- `add_superusers` -/
def addSuperusers (usernames : List String) : Db Unit := unitOfWork do
  setSuperuser usernames true
  insertSuperusers usernames

/-- `remove_superusers` -/
def removeSuperusers (usernames : List String) : Db Unit :=
  unitOfWork (setSuperuser usernames false)

/-- A transaction of the worker on a run: select it, with a condition, and
    update it by its identifier if it was found. -/
def updateSelectedRun (runId : Id) (cond : Run → Bool) (values : Run → Run) : Db Unit :=
  unitOfWork do
    let runs ← query (fun db => .ok (db.runs.filter (fun r => r.id == runId && cond r)))
    match runs with
    | [] => return ()
    | _ :: _ => do
        let _ ← updateRow Run.model (fun r => r.id == runId) values
        return ()

/-- The first transaction of `run_transfer`: a run that is not `CREATED` is
    left alone. -/
def startTask (now : Time) (runId : Id) (logUrl : String) : Db Unit :=
  updateSelectedRun runId (fun r => r.status == .created) (fun r =>
    { r with
      status := .started
      startedAt := some now
      logUrl := some logUrl
      updatedAt := now })

/-- The last transaction of `run_transfer`. -/
def finishTask (now : Time) (runId : Id) (failed : Bool) : Db Unit :=
  updateSelectedRun runId (fun _ => true) (fun r =>
    { r with
      status := if failed then .failed else .finished
      endedAt := some now
      updatedAt := now })

/-! ## Events -/

inductive Event where
  | request (now : Time) (sent : SendTask) (userId : Id) (request : Request)
  | login (username : String)
  | addSuperusers (usernames : List String)
  | removeSuperusers (usernames : List String)
  | sendJobToCelery (now : Time) (sent : SendTask) (transferId : Id)
  | startTask (now : Time) (runId : Id) (logUrl : String)
  | finishTask (now : Time) (runId : Id) (failed : Bool)

/-- What an event does to the database, its result left aside. -/
def perform : Event → Db Unit
  | .request now sent userId request => do
      let _ ← api now sent userId request
      return ()
  | .login username => do
      let _ ← login username
      return ()
  | .addSuperusers usernames => addSuperusers usernames
  | .removeSuperusers usernames => removeSuperusers usernames
  | .sendJobToCelery now sent transferId => do
      let _ ← sendJobToCelery now sent transferId
      return ()
  | .startTask now runId logUrl => startTask now runId logUrl
  | .finishTask now runId failed => finishTask now runId failed

def Database.step (db : Database) (e : Event) : Database :=
  after (perform e) db

/-- The states of the service. -/
def Reachable (db : Database) : Prop :=
  Machine.Reachable (Machine.graph Database.step) Database.empty db

end SyncMaster
