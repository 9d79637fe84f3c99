import SyncMaster.Worker.Controller
import SyncMaster.Tenancy.SameGroup

/-!
# The Dump of a Run

`RunRepository.create` writes the transfer and its connections into the row of
the run, as they are at that moment and without secrets. The worker does not
read the dump. It loads the rows again when it executes the run, so the dump is
the only record of what a run was started with, and it is one only if it keeps
what the worker would have consumed.

Two lists of fields are written down, one where the dump is made and one where
the handlers are built. They are compared here as functions: `dump` of a state
and `consumed` of a state. Of the fields that are consumed the dump leaves out
two, the transformations and the resources. With them it determines the rest,
which is `consumed_eq_read`, and states that differ in nothing but these two have
the same dump.

## Main definitions

* `TransferState`: A transfer with its connections.
* `TransferState.dump`, `TransferState.StoredFor`: What a run keeps of it.
* `Consumed`, `TransferState.consumed`: What the worker consumes.
* `TransferState.SameDumped`: Two states with the same in all dumped fields.

## Theorems

* `transferDump_of_storedFor`: The dump of a run is that of the state.
* `init_eq_of_consumed`: The worker consumes nothing else.
* `dump_eq_iff`: Which states have the same dump.
* `differs_iff`: When a difference in what is consumed is a difference in the
  dump.
-/

namespace SyncMaster

open Program

/-- A transfer with its two connections, and the credentials of these as a dump
    keeps them. -/
structure TransferState where
  transfer : Transfer
  sourceConnection : Connection
  targetConnection : Connection
  sourceCreds : AuthValue
  targetCreds : AuthValue
  source : sourceConnection.id = transfer.sourceConnectionId
  target : targetConnection.id = transfer.targetConnectionId

/-- The stored fields that the worker consumes. -/
structure Consumed where
  name : String
  sourceData : Dict
  targetData : Dict
  sourceParams : Params
  targetParams : Params
  strategyParams : Strategy
  transformations : List Json
  resources : Resources

namespace TransferState

def consumed (s : TransferState) : Consumed where
  name := s.transfer.name
  sourceData := s.sourceConnection.data
  targetData := s.targetConnection.data
  sourceParams := s.transfer.sourceParams
  targetParams := s.transfer.targetParams
  strategyParams := s.transfer.strategyParams
  transformations := s.transfer.transformations
  resources := s.transfer.resources

/-- What `read_full_serialized_transfer` makes of the rows. -/
def dump (s : TransferState) : TransferDump where
  id := s.transfer.id
  name := s.transfer.name
  groupId := s.transfer.groupId
  queueId := s.transfer.queueId
  sourceConnectionId := s.transfer.sourceConnectionId
  targetConnectionId := s.transfer.targetConnectionId
  isScheduled := s.transfer.isScheduled
  description := s.transfer.description
  schedule := s.transfer.schedule
  sourceParams := s.transfer.sourceParams
  targetParams := s.transfer.targetParams
  strategyParams := s.transfer.strategyParams
  sourceConnection := RunRepository.connectionDump s.sourceConnection s.sourceCreds
  targetConnection := RunRepository.connectionDump s.targetConnection s.targetCreds

/-- The rows are in the database. -/
structure In (s : TransferState) (db : Database) : Prop where
  transfer : s.transfer ∈ db.transfers
  sourceConnection : s.sourceConnection ∈ db.connections
  targetConnection : s.targetConnection ∈ db.connections

/-- A run that `RunRepository.create` stores when the transfer is in this state. -/
def StoredFor (s : TransferState) (run : Run) : Prop :=
  ∃ db now type db', s.In db ∧
    Returns (RunRepository.create now s.transfer.id s.sourceCreds s.targetCreds type) db run db'

structure SameIds (s t : TransferState) : Prop where
  transfer : s.transfer.id = t.transfer.id
  sourceConnection : s.sourceConnection.id = t.sourceConnection.id
  targetConnection : s.targetConnection.id = t.targetConnection.id

/-- The fields of a connection, and its credentials, that a dump keeps. -/
structure SameConnection (c d : Connection) (creds creds' : AuthValue) : Prop where
  groupId : c.groupId = d.groupId
  name : c.name = d.name
  description : c.description = d.description
  data : c.data = d.data
  creds : creds = creds'

/-- The states have the same in all fields that a dump keeps. -/
structure SameDumped (s t : TransferState) : Prop where
  name : s.transfer.name = t.transfer.name
  groupId : s.transfer.groupId = t.transfer.groupId
  queueId : s.transfer.queueId = t.transfer.queueId
  isScheduled : s.transfer.isScheduled = t.transfer.isScheduled
  description : s.transfer.description = t.transfer.description
  schedule : s.transfer.schedule = t.transfer.schedule
  sourceParams : s.transfer.sourceParams = t.transfer.sourceParams
  targetParams : s.transfer.targetParams = t.transfer.targetParams
  strategyParams : s.transfer.strategyParams = t.transfer.strategyParams
  sourceConnection : SameConnection s.sourceConnection t.sourceConnection s.sourceCreds
    t.sourceCreds
  targetConnection : SameConnection s.targetConnection t.targetConnection s.targetCreds
    t.targetCreds

end TransferState

/-- What can be read off a dump, given the two fields that it leaves out. -/
def TransferDump.read (dump : TransferDump) (transformations : List Json) (resources : Resources) :
    Consumed where
  name := dump.name
  sourceData := dump.sourceConnection.data
  targetData := dump.targetConnection.data
  sourceParams := dump.sourceParams
  targetParams := dump.targetParams
  strategyParams := dump.strategyParams
  transformations := transformations
  resources := resources

/-! ## What the worker consumes -/

section Worker

variable {library : WorkerLibrary} {loaded loaded' : LoadedTransfer} {s t : TransferState}

/-- `run_transfer` has loaded the transfer in this state. -/
structure LoadedTransfer.Loads (loaded : LoadedTransfer) (s : TransferState) : Prop where
  transfer : loaded.transfer = s.transfer
  sourceConnection : loaded.sourceConnection = s.sourceConnection
  targetConnection : loaded.targetConnection = s.targetConnection
  sourceCreds : readAuthData loaded.sourceAuthData = s.sourceCreds
  targetCreds : readAuthData loaded.targetAuthData = s.targetCreds

/-- What a worker has apart from the fields of the transfer and its connections:
    the run, the name of the group, and the secrets. -/
structure LoadedTransfer.SameRun (loaded loaded' : LoadedTransfer) : Prop where
  runId : loaded.runId = loaded'.runId
  runCreatedAt : loaded.runCreatedAt = loaded'.runCreatedAt
  groupName : loaded.groupName = loaded'.groupName
  sourceAuthData : loaded.sourceAuthData = loaded'.sourceAuthData
  targetAuthData : loaded.targetAuthData = loaded'.targetAuthData

theorem transferDto_congr (hids : s.SameIds t) (h : s.consumed = t.consumed) (groupName : String)
    (type : ConnectionType) (transferParams : Dict) :
    transferDto library s.transfer groupName type transferParams =
      transferDto library t.transfer groupName type transferParams := by
  unfold transferDto
  rw [hids.transfer, show s.transfer.name = t.transfer.name from congrArg Consumed.name h,
    show s.transfer.strategyParams = t.transfer.strategyParams from
      congrArg Consumed.strategyParams h,
    show s.transfer.resources = t.transfer.resources from congrArg Consumed.resources h,
    show s.transfer.transformations = t.transfer.transformations from
      congrArg Consumed.transformations h]

theorem getHandler_congr (hrun : loaded.SameRun loaded') (hload : loaded.Loads s)
    (hload' : loaded'.Loads t) (hids : s.SameIds t) (h : s.consumed = t.consumed)
    (connectionId : Id) (authData : AuthValue) (transferParams : Params) :
    getHandler library loaded connectionId authData transferParams =
      getHandler library loaded' connectionId authData transferParams := by
  unfold getHandler
  simp only [hrun.runId, hrun.runCreatedAt, hrun.groupName, hload.transfer, hload'.transfer,
    transferDto_congr hids h]

/-- The worker consumes nothing else: from the same fields it builds the same
    handlers. -/
theorem init_eq_of_consumed (hrun : loaded.SameRun loaded') (hload : loaded.Loads s)
    (hload' : loaded'.Loads t) (hids : s.SameIds t) (h : s.consumed = t.consumed) :
    TransferController.init library loaded = TransferController.init library loaded' ∧
      ∀ heap, loaded.Fresh heap ↔ loaded'.Fresh heap := by
  have hsourceId : loaded.sourceConnection.id = loaded'.sourceConnection.id := by
    rw [hload.sourceConnection, hload'.sourceConnection, hids.sourceConnection]
  have htargetId : loaded.targetConnection.id = loaded'.targetConnection.id := by
    rw [hload.targetConnection, hload'.targetConnection, hids.targetConnection]
  -- What the worker consumes of the rows, one column after the other.
  have hsourceData : loaded.sourceConnection.data = loaded'.sourceConnection.data := by
    rw [hload.sourceConnection, hload'.sourceConnection]
    exact congrArg Consumed.sourceData h
  have htargetData : loaded.targetConnection.data = loaded'.targetConnection.data := by
    rw [hload.targetConnection, hload'.targetConnection]
    exact congrArg Consumed.targetData h
  have hsourceParams : loaded.transfer.sourceParams = loaded'.transfer.sourceParams := by
    rw [hload.transfer, hload'.transfer]
    exact congrArg Consumed.sourceParams h
  have htargetParams : loaded.transfer.targetParams = loaded'.transfer.targetParams := by
    rw [hload.transfer, hload'.transfer]
    exact congrArg Consumed.targetParams h
  constructor
  · unfold TransferController.init
    simp only [hsourceId, htargetId, hsourceParams, htargetParams, hrun.sourceAuthData,
      hrun.targetAuthData, getHandler_congr hrun hload hload' hids h]
  · intro heap
    unfold LoadedTransfer.Fresh
    rw [hsourceId, htargetId, hsourceData, htargetData]

end Worker

/-! ## What the dump keeps -/

section Dump

variable {s t : TransferState} {run run' : Run}

/-- The dump of a run is that of the state. -/
theorem transferDump_of_storedFor (h : s.StoredFor run) : run.transferDump = s.dump := by
  rcases h with ⟨db, now, type, db', hin, hcreate⟩
  simp only [RunRepository.create, RunRepository.readFullSerializedTransfer, returns_bind,
    returns_query, one_eq_ok_iff, returns_pure, returns_nextval, returns_catching,
    returns_insertRow] at hcreate
  rcases hcreate with ⟨dump, _, ⟨t, _, ⟨ht, rfl⟩, c, _, ⟨hc, rfl⟩, d, _, ⟨hd, rfl⟩, hdump, rfl⟩,
    _, _, ⟨rfl, rfl⟩, _, rfl, rfl⟩
  -- The rows that are found are the only ones with their identifiers.
  have htransfer : t = s.transfer :=
    Table.eq_of_filter_eq ht hin.transfer (beq_self_eq_true s.transfer.id)
  rw [htransfer] at hc hd
  have hsource : c = s.sourceConnection :=
    Table.eq_of_filter_eq hc hin.sourceConnection (beq_iff_eq.mpr s.source)
  have htarget : d = s.targetConnection :=
    Table.eq_of_filter_eq hd hin.targetConnection (beq_iff_eq.mpr s.target)
  rw [← hdump, htransfer, hsource, htarget]
  rfl

/-- With the transformations and the resources a dump determines what is
    consumed. -/
theorem consumed_eq_read (s : TransferState) :
    s.consumed = s.dump.read s.transfer.transformations s.transfer.resources :=
  rfl

theorem connectionDump_eq_iff {c d : Connection} {creds creds' : AuthValue} (hid : c.id = d.id) :
    RunRepository.connectionDump c creds = RunRepository.connectionDump d creds' ↔
      TransferState.SameConnection c d creds creds' := by
  unfold RunRepository.connectionDump
  rw [ConnectionDump.mk.injEq]
  constructor
  · intro h
    rcases h with ⟨_, hgroup, hname, hdescription, hdata, hcreds⟩
    exact ⟨hgroup, hname, hdescription, hdata, hcreds⟩
  · intro h
    exact ⟨hid, h.groupId, h.name, h.description, h.data, h.creds⟩

/-- Which states of a transfer have the same dump. -/
theorem dump_eq_iff (hids : s.SameIds t) : s.dump = t.dump ↔ s.SameDumped t := by
  unfold TransferState.dump
  rw [TransferDump.mk.injEq, connectionDump_eq_iff hids.sourceConnection,
    connectionDump_eq_iff hids.targetConnection]
  constructor
  · intro h
    rcases h with ⟨_, hname, hgroup, hqueue, _, _, hscheduled, hdescription, hschedule,
      hsourceParams, htargetParams, hstrategy, hsource, htarget⟩
    exact ⟨hname, hgroup, hqueue, hscheduled, hdescription, hschedule, hsourceParams,
      htargetParams, hstrategy, hsource, htarget⟩
  · intro h
    have hsourceId : s.transfer.sourceConnectionId = t.transfer.sourceConnectionId := by
      rw [← s.source, ← t.source, hids.sourceConnection]
    have htargetId : s.transfer.targetConnectionId = t.transfer.targetConnectionId := by
      rw [← s.target, ← t.target, hids.targetConnection]
    exact ⟨hids.transfer, h.name, h.groupId, h.queueId, hsourceId, htargetId, h.isScheduled,
      h.description, h.schedule, h.sourceParams, h.targetParams, h.strategyParams,
      h.sourceConnection, h.targetConnection⟩

/-- States with the same dump have the same in what is consumed just when they
    have the same transformations and the same resources. -/
theorem consumed_eq_iff (h : s.dump = t.dump) :
    s.consumed = t.consumed ↔ s.transfer.transformations = t.transfer.transformations ∧
      s.transfer.resources = t.transfer.resources := by
  constructor
  · intro hconsumed
    exact ⟨congrArg Consumed.transformations hconsumed, congrArg Consumed.resources hconsumed⟩
  · intro hforgotten
    rw [consumed_eq_read s, consumed_eq_read t, h, hforgotten.1, hforgotten.2]

/-- A difference in what the worker consumes is one in the dump just when it is
    not only in the transformations and the resources, which the dump leaves
    out. -/
theorem differs_iff (hids : s.SameIds t) (hs : s.StoredFor run) (ht : t.StoredFor run') :
    (s.consumed ≠ t.consumed → run.transferDump ≠ run'.transferDump) ↔
      (s.transfer.transformations = t.transfer.transformations ∧
        s.transfer.resources = t.transfer.resources) ∨ ¬ s.SameDumped t := by
  rw [transferDump_of_storedFor hs, transferDump_of_storedFor ht, ← dump_eq_iff hids]
  by_cases hdump : s.dump = t.dump
  · rw [or_iff_left (not_not_intro hdump), ← consumed_eq_iff hdump]
    exact ⟨fun h => by_contra (fun hne => h hne hdump), fun h hne => absurd h hne⟩
  · exact iff_of_true (fun _ => hdump) (Or.inr hdump)

end Dump

/-! ## A transfer that is updated -/

/-- The sample transfer with two tasks at a time. -/
def resizedTransfer : CreateTransferSchema :=
  { sampleTransfer 1 1 1 with
    resources := { maxParallelTasks := 2 }
    schedulingValid := rfl
    strategyValid := rfl }

/-- The sample transfer with another name. -/
def renamedTransfer : CreateTransferSchema :=
  { sampleTransfer 1 1 1 with
    name := ⟨"renamed", by decide⟩
    schedulingValid := rfl
    strategyValid := rfl }

/-- The sample transfer is updated with the body. -/
def updateEvents (body : CreateTransferSchema) : List Event :=
  sampleEvents ++ [.request 8 .returned 1 (.updateTransfer 1 body)]

/-- A state of the sample transfer. -/
def sampleState (transfer : Transfer) (hsource : transfer.sourceConnectionId = 1)
    (htarget : transfer.targetConnectionId = 1) : TransferState where
  transfer := transfer
  sourceConnection := ConnectionRepository.created 3 1 (sampleConnection 1)
  targetConnection := ConnectionRepository.created 3 1 (sampleConnection 1)
  sourceCreds := readAuthData (sampleConnection 1).authData
  targetCreds := readAuthData (sampleConnection 1).authData
  source := hsource.symm
  target := htarget.symm

def startedState : TransferState :=
  sampleState (TransferRepository.created 7 1 (sampleTransfer 1 1 1)) rfl rfl

def resizedState : TransferState :=
  sampleState (TransferRepository.setColumns 8 resizedTransfer startedState.transfer) rfl rfl

def renamedState : TransferState :=
  sampleState (TransferRepository.setColumns 8 renamedTransfer startedState.transfer) rfl rfl

/-- The rows are those of the database after the events. -/
theorem storedFor_of_events {s : TransferState} (events : List Event)
    (htransfers : (events.foldl Database.step Database.empty).transfers = [s.transfer])
    (hsource : s.sourceConnection ∈ (events.foldl Database.step Database.empty).connections)
    (htarget : s.targetConnection ∈ (events.foldl Database.step Database.empty).connections)
    (hsucceeds : succeeds (RunRepository.create 9 s.transfer.id s.sourceCreds s.targetCreds .manual)
      (events.foldl Database.step Database.empty) = true) : ∃ run, s.StoredFor run := by
  rcases succeeds_iff.mp hsucceeds with ⟨run, hreturns⟩
  refine ⟨run, _, 9, .manual, _, ⟨?_, hsource, htarget⟩, hreturns⟩
  rw [htransfers]
  exact List.mem_singleton_self _

theorem storedFor_started : ∃ run, startedState.StoredFor run :=
  storedFor_of_events sampleEvents rfl List.mem_cons_self List.mem_cons_self
    (by decide +kernel)

theorem storedFor_resized : ∃ run, resizedState.StoredFor run :=
  storedFor_of_events (updateEvents resizedTransfer) rfl List.mem_cons_self
    List.mem_cons_self (by decide +kernel)

theorem storedFor_renamed : ∃ run, renamedState.StoredFor run :=
  storedFor_of_events (updateEvents renamedTransfer) rfl List.mem_cons_self
    List.mem_cons_self (by decide +kernel)

/-- The new name is in the dump. -/
theorem differs_iff_renamed :
    ∃ run run', startedState.StoredFor run ∧ renamedState.StoredFor run' ∧
      run.transferDump ≠ run'.transferDump := by
  rcases storedFor_started with ⟨run, hrun⟩
  rcases storedFor_renamed with ⟨run', hrun'⟩
  have hids : startedState.SameIds renamedState := ⟨rfl, rfl, rfl⟩
  have hname : startedState.transfer.name ≠ renamedState.transfer.name := by decide
  refine ⟨run, run', hrun, hrun', (differs_iff hids hrun hrun').mpr (Or.inr ?_) ?_⟩
  · exact fun hsame => hname hsame.name
  · exact fun hconsumed => hname (congrArg Consumed.name hconsumed)

/-- The new resources are not. -/
theorem not_differs_resized :
    ¬ ∀ (s t : TransferState) (run run' : Run), s.SameIds t → s.StoredFor run → t.StoredFor run' →
      s.consumed ≠ t.consumed → run.transferDump ≠ run'.transferDump := by
  intro h
  rcases storedFor_started with ⟨run, hrun⟩
  rcases storedFor_resized with ⟨run', hrun'⟩
  have hresources : startedState.transfer.resources ≠ resizedState.transfer.resources := by decide
  refine h startedState resizedState run run' ⟨rfl, rfl, rfl⟩ hrun hrun' ?_ ?_
  · exact fun hconsumed => hresources (congrArg Consumed.resources hconsumed)
  · rw [transferDump_of_storedFor hrun, transferDump_of_storedFor hrun']
    rfl

end SyncMaster
