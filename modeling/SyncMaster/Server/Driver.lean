import SyncMaster.Server.Failures

/-!
# The Driver

What stands between an endpoint and the database.

A statement is given values, and not every value gets through. An identifier has
to fit its column, and there are texts and numbers that JSON has and the database
has not. A statement that cannot be encoded ends in a `DataError`, like one with a
text that is too long for its column. Nothing turns these into errors that the
service declares.

Two more limits are those of the libraries, and so are the functions that they
bound: how deep a value may be nested to be dumped, and how large the search
vector of a row may be, which the database computes when the row is written.

## Main definitions

* `Driver`: The limits of the libraries.
* `Driver.takes`: The columns are within the limits.
* `Driver.updateConnection`, `Driver.createTransfer`, `Driver.updateTransfer`: The
  endpoints that are asked about what they cannot write.

## Theorems

* `Driver.updateConnection_eq`: What the driver takes is written as before.
* `Driver.cleanFailure_updateConnection`: What it does not take changes nothing.
-/

namespace SyncMaster

open Program

/-! ## Limits -/

/-- The text in a field, as `->>` reads it. -/
def Dict.text (d : Dict) (key : String) : String :=
  match d.lookup key with
  | some (.str s) => s
  | _ => ""

/-- The texts that the search vector of a connection is made of. -/
def CreateConnectionSchema.searchedTexts (connectionData : CreateConnectionSchema) :
    List String :=
  [connectionData.name.val, connectionData.data.text "host"]

/-- The texts that the search vector of a transfer is made of. -/
def CreateTransferSchema.searchedTexts (transferData : CreateTransferSchema) : List String :=
  let source := transferData.sourceParams.fields
  let target := transferData.targetParams.fields
  [transferData.name.val, Dict.text source "table_name", Dict.text target "table_name",
    Dict.text source "directory_path", Dict.text target "directory_path"]

/-- The limits of what the columns of a row may be. -/
structure Driver where
  /-- How many values `model_dump` finds inside one another before it gives up. -/
  levels : Nat
  /-- The size in bytes of the vector that `to_tsvector` makes of the texts. -/
  vectorSize : List String → Nat

/-- The recursion limit of the serializer below a field of a schema, and a vector of the
    words as they are. -/
def plainDriver : Driver where
  levels := 257
  vectorSize := fun texts => (String.join texts).utf8ByteSize

namespace Driver

variable (driver : Driver)

/-- The values can be dumped, and the search vector is smaller than 1 MB. -/
def takes (dumped : List Dict) (searched : List String) : Bool :=
  dumped.all (fun d => decide ((Json.obj d).depth ≤ driver.levels)) &&
    decide (driver.vectorSize searched < 2 ^ 20)

def takesConnection (connectionData : CreateConnectionSchema) : Bool :=
  driver.takes [connectionData.data] connectionData.searchedTexts

def takesTransfer (transferData : CreateTransferSchema) : Bool :=
  driver.takes [transferData.sourceParams.fields, transferData.targetParams.fields]
    transferData.searchedTexts

theorem takes_iff {driver : Driver} {dumped : List Dict} {searched : List String} :
    driver.takes dumped searched = true ↔
      (∀ d ∈ dumped, (Json.obj d).depth ≤ driver.levels) ∧
        driver.vectorSize searched < 2 ^ 20 := by
  simp only [takes, Bool.and_eq_true, List.all_eq_true, decide_eq_true_eq]

end Driver

/-! ## Endpoints -/

namespace Driver

variable (driver : Driver)

/-- `update_connection`, with its statements as the driver runs them. -/
def updateConnection (now : Time) (currentUser : User) (connectionId : Id)
    (connectionData : UpdateConnectionSchema) : Db ReadConnectionSchema := do
  let resourceRole ← ConnectionRepository.getResourcePermission currentUser connectionId
  raiseIf (resourceRole = .none) .connectionNotFoundError
  raiseIf (resourceRole < .write) .actionNotAllowedError
  let connection ← unitOfWork do
    let existingConnection ← ConnectionRepository.readById connectionId
    let linkedTransfers ← query (fun db =>
      .ok (TransferRepository.listByConnectionId db connectionId))
    raiseIf (connectionData.type ≠ existingConnection.type ∧ linkedTransfers.isEmpty = false)
      .connectionTypeUpdateError
    let existingCredentials ← CredentialsRepository.read connectionId
    let authData ← query (fun _ => keepSecrets existingCredentials
      connectionData.authData.type.secretFields connectionData.authData)
    let connection ← withValues (driver.takesConnection connectionData)
      (ConnectionRepository.update now connectionId connectionData.name.val connectionData.type
        connectionData.description connectionData.data)
    let _ ← CredentialsRepository.update now connectionId authData
    return connection
  let credentials ← CredentialsRepository.read connectionId
  return readConnectionSchema connection (some credentials)

/-- `create_transfer`, with its statements as the driver runs them. -/
def createTransfer (now : Time) (currentUser : User) (transferData : CreateTransferSchema) :
    Db Transfer := do
  let groupPermission ← withId transferData.groupId
    (TransferRepository.getGroupPermission currentUser transferData.groupId)
  raiseIf (groupPermission < .write) .actionNotAllowedError
  let targetConnection ← withId transferData.targetConnectionId
    (ConnectionRepository.readById transferData.targetConnectionId)
  let sourceConnection ← withId transferData.sourceConnectionId
    (ConnectionRepository.readById transferData.sourceConnectionId)
  let queue ← withId transferData.queueId (QueueRepository.readById transferData.queueId)
  checkTransferLinks transferData targetConnection sourceConnection queue
  unitOfWork (withValues (driver.takesTransfer transferData)
    (TransferRepository.create now transferData))

/-- `update_transfer`, with its statements as the driver runs them. -/
def updateTransfer (now : Time) (currentUser : User) (transferId : Id)
    (transferData : CreateTransferSchema) : Db Transfer := do
  let resourceRole ← withId transferId
    (TransferRepository.getResourcePermission currentUser transferId)
  raiseIf (resourceRole = .none) .transferNotFoundError
  raiseIf (resourceRole < .write) .actionNotAllowedError
  let targetConnection ← withId transferData.targetConnectionId
    (ConnectionRepository.readById transferData.targetConnectionId)
  let sourceConnection ← withId transferData.sourceConnectionId
    (ConnectionRepository.readById transferData.sourceConnectionId)
  let queue ← withId transferData.queueId (QueueRepository.readById transferData.queueId)
  let targetConnectionResourceRole ←
    ConnectionRepository.getResourcePermission currentUser targetConnection.id
  let sourceConnectionResourceRole ←
    ConnectionRepository.getResourcePermission currentUser sourceConnection.id
  raiseIf (sourceConnectionResourceRole = .none ∨ targetConnectionResourceRole = .none)
    .connectionNotFoundError
  checkTransferLinks transferData targetConnection sourceConnection queue
  unitOfWork (withValues (driver.takesTransfer transferData)
    (TransferRepository.update now transferId transferData))

/-! ## What is taken, and what is not -/

variable {driver} {now : Time} {user : User} {connectionId : Id} {body : UpdateConnectionSchema}
  {db db' : Database}

theorem updateConnection_eq (h : driver.takesConnection body = true) :
    driver.updateConnection now user connectionId body =
      SyncMaster.updateConnection now user connectionId body := by
  unfold Driver.updateConnection
  rw [h]
  simp only [withValues_true]
  rfl

/-- Nothing is returned of a body that the driver does not take. -/
theorem takesConnection_of_returns {response : ReadConnectionSchema}
    (h : Returns (driver.updateConnection now user connectionId body) db response db') :
    driver.takesConnection body = true := by
  by_contra hnot
  have hnot := Bool.eq_false_iff.mpr hnot
  simp only [Driver.updateConnection, unitOfWork, returns_bind, returns_atomically,
    returns_withValues, hnot, Bool.false_eq_true, false_and, exists_false, and_false] at h

theorem cleanFailure_updateConnection :
    CleanFailure Unchanged (driver.updateConnection now user connectionId body) := by
  by_cases htakes : driver.takesConnection body = true
  · rw [updateConnection_eq htakes]
    exact SyncMaster.cleanFailure_updateConnection connectionId body
  · have hnot := Bool.eq_false_iff.mpr htakes
    refine cleanFailure_read (readOnly_query _) (fun _ => ?_)
    refine cleanFailure_check (cleanFailure_check ?_)
    refine cleanFailure_bind_total (cleanFailure_unitOfWork ?_) ?_
    · refine grows_bind (always_catching (always_query grows_refl _)) (fun _ => ?_)
      refine grows_bind (always_query grows_refl _) (fun _ => ?_)
      refine grows_bind (always_raiseIf grows_refl _ _) (fun _ => ?_)
      refine grows_bind (grows_bind (always_catching (always_query grows_refl _))
        (fun _ => grows_pure _)) (fun _ => ?_)
      refine grows_bind (always_query grows_refl _) (fun _ => ?_)
      refine grows_bind (grows_bind (always_raiseIf grows_refl _ _) (fun _ => grows_update _ _ _ _))
        (fun _ => ?_)
      exact grows_bind (grows_update _ _ _ _) (fun _ => grows_pure _)
    -- The unit of work does not return, so there is nothing behind it.
    · intro s c t e u h
      simp only [unitOfWork, returns_atomically, returns_bind, returns_withValues, hnot,
        Bool.false_eq_true, false_and, exists_false, and_false] at h

end Driver

end SyncMaster
