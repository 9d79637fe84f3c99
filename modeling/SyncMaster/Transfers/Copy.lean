import SyncMaster.Tenancy.SameGroup

/-!
# What Copying a Transfer Does

`copy_transfer` clones up to three rows and may delete one. `_copy` takes over
every column of a row and then overwrites the ones it is given, so which
columns a clone keeps is a matter of what is passed.

`CopyEffect` is the whole effect, table by table. The clones stand behind the
rows that were there, with new identifiers; credentials are a table of their
own, which no statement of the request touches, so the clones have none. A
transfer from a connection to itself needs one clone only, and both sides of
the new transfer are that one. What `remove_source` takes away is the original
transfer with its runs. The clone of the transfer has another identifier, so
the deletion spares it.

## Main definitions

* `ConnectionClone`, `TransferClone`: The columns of the clones.
* `CopyEffect`: The effect of the request on every table.

## Theorems

* `transferCopied_copies`: The connections after the copies.
* `transferCopied_effect`: The effect of the outcome.
* `copyTransfer_effect`: The effect of every request that succeeds.
-/

namespace SyncMaster

open Program

/-- A clone of a connection in the group, with the name that was asked for or
    the old one. -/
structure ConnectionClone (db : Database) (origin clone : Connection) (groupId : Id)
    (name : Option NameConstr) : Prop where
  isNew : ∀ c ∈ db.connections, c.id ≠ clone.id
  noCredentials : ∀ a ∈ db.authData, a.connectionId ≠ clone.id
  group : clone.groupId = groupId
  name : clone.name = (name.map (·.val)).getD origin.name
  type : clone.type = origin.type
  data : clone.data = origin.data
  description : clone.description = origin.description

/-- A clone of a transfer in the group, on the queue and the connections. -/
structure TransferClone (db : Database) (origin clone : Transfer) (body : CopyTransferSchema)
    (source target : Connection) : Prop where
  isNew : ∀ t ∈ db.transfers, t.id ≠ clone.id
  group : clone.groupId = body.newGroupId
  queue : clone.queueId = body.newQueueId
  source : clone.sourceConnectionId = source.id
  target : clone.targetConnectionId = target.id
  name : clone.name = (body.newName.map (·.val)).getD origin.name
  description : clone.description = origin.description
  strategyParams : clone.strategyParams = origin.strategyParams
  sourceParams : clone.sourceParams = origin.sourceParams
  targetParams : clone.targetParams = origin.targetParams
  transformations : clone.transformations = origin.transformations
  resources : clone.resources = origin.resources
  isScheduled : clone.isScheduled = origin.isScheduled
  schedule : clone.schedule = origin.schedule

/-- The effect of copying the transfer `origin`, from the connection
    `sourceOrigin` to the connection `targetOrigin`. -/
structure CopyEffect (db : Database) (body : CopyTransferSchema) (origin : Transfer)
    (sourceOrigin targetOrigin source target : Connection) (clone : Transfer) (db' : Database) :
    Prop where
  sourceFound : sourceOrigin ∈ db.connections ∧ sourceOrigin.id = origin.sourceConnectionId
  targetFound : targetOrigin ∈ db.connections ∧ targetOrigin.id = origin.targetConnectionId
  sourceClone : ConnectionClone db sourceOrigin source body.newGroupId body.newSourceConnectionName
  /-- One clone, or two. -/
  connections : if origin.sourceConnectionId = origin.targetConnectionId then
      target = source ∧ db'.connections = db.connections ++ [source]
    else
      ConnectionClone db targetOrigin target body.newGroupId body.newTargetConnectionName ∧
        target.id ≠ source.id ∧ db'.connections = db.connections ++ [source, target]
  transferClone : TransferClone db origin clone body source target
  /-- The new transfer, and the original or not. -/
  transfers : db'.transfers =
    (if body.removeSource = true then Table.delete (fun t => t.id == origin.id) db.transfers
      else db.transfers) ++ [clone]
  runs : db'.runs =
    if body.removeSource = true then Table.delete (fun r => r.transferId == origin.id) db.runs
      else db.runs
  users : db'.users = db.users
  groups : db'.groups = db.groups
  userGroups : db'.userGroups = db.userGroups
  authData : db'.authData = db.authData
  queues : db'.queues = db.queues

section Effect

variable {user : User} {transferId : Id} {body : CopyTransferSchema} {origin : Transfer}
  {sourceOrigin source target : Connection} {db db₁ db₂ db₃ db' : Database}

/-- The columns of a clone, and that it has no credentials: the credentials are
    of connections that were there. -/
theorem connectionClone_copied {c : Connection} {groupId : Id} {name : Option NameConstr}
    {id : Id} (hdb : Consistent db) (hid : ∀ d ∈ db.connections, d.id ≠ id) :
    ConnectionClone db c (ConnectionRepository.copied id groupId (name.map (·.val)) c) groupId
      name where
  isNew := hid
  noCredentials := by
    intro a ha heq
    rcases hdb.resourceLinks.credentials a ha with ⟨d, hd, hkey⟩
    exact hid d hd (hkey.trans heq)
  group := rfl
  name := rfl
  type := rfl
  data := rfl
  description := rfl

/-- A new row behind the others. -/
theorem isNew_insertConnection {c : Connection} (hdb : Consistent db)
    (h : checkedStep db (.insertConnection c) db') : ∀ d ∈ db.connections, d.id ≠ c.id :=
  fresh_of_below hdb.keys.connectionsBelow h.1.1

/-- The connection of a row found behind a clone is one that was there. -/
theorem found_before {id : Id} {c : Connection} (hdb : Consistent db)
    (hexists : ∃ d ∈ db.connections, d.id = id)
    (hinsert : checkedStep db (.insertConnection source) db₁)
    (hfound : db₁.connections.filter (fun d => d.id == id) = [c]) :
    c ∈ db.connections ∧ c.id = id := by
  have hid : c.id = id := beq_iff_eq.mp (Table.mem_of_filter_eq hfound).2
  have hmem : c ∈ db₁.connections := (Table.mem_of_filter_eq hfound).1
  rw [(insertConnection_frame hinsert).2.2] at hmem
  rcases List.mem_append.mp hmem with hmem | hmem
  · exact ⟨hmem, hid⟩
  · rcases hexists with ⟨d, hd, hdid⟩
    rw [List.mem_singleton.mp hmem] at hid
    exact absurd (hdid.trans hid.symm) (isNew_insertConnection hdb hinsert d hd)

/-- The tables that the copies of the connections leave. -/
theorem transferCopied_copies (hdb : Consistent db)
    (h : TransferCopied db user transferId body origin sourceOrigin source target db₁ db₂ db₃ db') :
    db₂.toTables = { db.toTables with connections := db₂.connections } ∧
      ∃ targetOrigin, (targetOrigin ∈ db.connections ∧
        targetOrigin.id = origin.targetConnectionId) ∧
        if origin.sourceConnectionId = origin.targetConnectionId then
          target = source ∧ db₂.connections = db.connections ++ [source]
        else
          ConnectionClone db targetOrigin target body.newGroupId body.newTargetConnectionName ∧
            target.id ≠ source.id ∧ db₂.connections = db.connections ++ [source, target] := by
  have horigin : origin ∈ db.transfers := (Table.mem_of_filter_eq h.found).1
  have hsource := h.sourceInserted
  have hdb₁ : Consistent db₁ := checkedStep_consistent hdb hsource
  have hcopy := h.targetCopy
  -- One connection on both sides is cloned once, and the clone is put on both.
  by_cases hsame : origin.sourceConnectionId = origin.targetConnectionId
  · rw [if_pos hsame] at hcopy
    rcases hcopy with ⟨htarget, hdb₂⟩
    have hfound := Table.mem_of_filter_eq h.sourceFound
    refine ⟨?_, sourceOrigin, ⟨hfound.1, (beq_iff_eq.mp hfound.2).trans hsame⟩, ?_⟩
    · rw [hdb₂, hsource.2]
      rfl
    · rw [if_pos hsame, hdb₂]
      exact ⟨htarget, (insertConnection_frame hsource).2.2⟩
  · rw [if_neg hsame] at hcopy
    rcases hcopy with ⟨targetOrigin, hfound, htarget, hinsert⟩
    -- The target was stored before the first clone, so its own clone is of the old table.
    have hbefore := found_before hdb (hdb.resourceLinks.transferTarget origin horigin) hsource hfound
    have hnew := isNew_insertConnection hdb₁ hinsert
    rw [(insertConnection_frame hsource).2.2] at hnew
    refine ⟨?_, targetOrigin, hbefore, ?_⟩
    · rw [hinsert.2, hsource.2]
      rfl
    · rw [if_neg hsame]
      refine ⟨?_, ?_, ?_⟩
      · rw [htarget] at hnew ⊢
        exact connectionClone_copied hdb (fun d hd => hnew d (List.mem_append_left _ hd))
      · exact (hnew source (List.mem_append_right _ (List.mem_singleton_self source))).symm
      · rw [(insertConnection_frame hinsert).2.2, (insertConnection_frame hsource).2.2,
          List.append_assoc]
        rfl

/-- Deleting the original spares the clone, which has another identifier, and
    takes the runs of the original only. -/
theorem deleteTransfer_origin {clone : Transfer} (horigin : origin ∈ db.transfers)
    (hnew : ∀ t ∈ db.transfers, t.id ≠ clone.id) (hdb₃ : db₃.transfers = db.transfers ++ [clone]) :
    (db₃.deleteTransfers (fun t => t.id == origin.id)).transfers =
        Table.delete (fun t => t.id == origin.id) db.transfers ++ [clone] ∧
      (db₃.deleteTransfers (fun t => t.id == origin.id)).runs =
        Table.delete (fun r => r.transferId == origin.id) db₃.runs := by
  have hspared : (clone.id == origin.id) = false :=
    beq_eq_false_iff_ne.mpr (hnew origin horigin).symm
  constructor
  · change Table.delete (fun t => t.id == origin.id) db₃.transfers = _
    rw [hdb₃, Table.delete, List.filter_append, List.filter_singleton, hspared, Bool.not_false,
      Bool.cond_true]
    rfl
  -- The runs are deleted by their transfer, which is one row.
  · refine List.filter_congr (fun r _ => congrArg Bool.not (Bool.eq_iff_iff.mpr ?_))
    rw [List.any_eq_true, beq_iff_eq]
    constructor
    · intro hany
      rcases hany with ⟨t, _, ht⟩
      rw [Bool.and_eq_true, beq_iff_eq, beq_iff_eq] at ht
      exact ht.2.symm.trans ht.1
    · intro hid
      refine ⟨origin, ?_, ?_⟩
      · rw [hdb₃]
        exact List.mem_append_left _ horigin
      · rw [Bool.and_eq_true, beq_iff_eq, beq_iff_eq]
        exact ⟨rfl, hid.symm⟩

/-- The copies of the connections keep the keys. -/
theorem transferCopied_keys (hdb : Consistent db)
    (h : TransferCopied db user transferId body origin sourceOrigin source target db₁ db₂ db₃ db') :
    Keys db₂ := by
  have hdb₁ := checkedStep_consistent hdb h.sourceInserted
  have hcases := h.targetCopy
  split at hcases
  · rw [hcases.2]
    exact hdb₁.keys
  · rcases hcases with ⟨_, _, _, hinsert⟩
    exact (checkedStep_consistent hdb₁ hinsert).keys

/-- All tables that the request leaves, with the clone of the transfer. -/
theorem transferCopied_tables {clone : Transfer} (hdb : Consistent db)
    (h : TransferCopied db user transferId body origin sourceOrigin source target db₁ db₂ db₃ db')
    (hcopy : checkedStep db₂ (.insertTransfer clone) db₃) :
    (∀ t ∈ db.transfers, t.id ≠ clone.id) ∧
      db'.toTables = { db.toTables with
        connections := db₂.connections
        transfers := (if body.removeSource = true then
          Table.delete (fun t => t.id == origin.id) db.transfers else db.transfers) ++ [clone]
        runs := if body.removeSource = true then
          Table.delete (fun r => r.transferId == origin.id) db.runs else db.runs } := by
  have htables := (transferCopied_copies hdb h).1
  -- The clone gets its identifier from a table that the copies above left alone.
  have htransfers₂ : db₂.transfers = db.transfers := by
    rw [htables]
  have hnew : ∀ t ∈ db.transfers, t.id ≠ clone.id := by
    rw [← htransfers₂]
    exact fresh_of_below (transferCopied_keys hdb h).transfersBelow hcopy.1.1
  have htables₃ : db₃.toTables = { db.toTables with
      connections := db₂.connections, transfers := db.transfers ++ [clone] } := by
    rw [hcopy.2, Write.apply, htransfers₂]
    exact congrArg (fun tables : Tables => { tables with transfers := db.transfers ++ [clone] })
      htables
  refine ⟨hnew, ?_⟩
  have hlast := h.rest
  by_cases hremove : body.removeSource = true
  -- The original goes with its runs, and the clone has none yet.
  · rw [if_pos hremove] at hlast
    have htransfers₃ : db₃.transfers = db.transfers ++ [clone] := by
      rw [htables₃]
    have horigin : origin ∈ db.transfers := (Table.mem_of_filter_eq h.found).1
    rcases deleteTransfer_origin horigin hnew htransfers₃ with ⟨htransfers, hruns⟩
    have hruns₃ : db₃.runs = db.runs := by
      rw [htables₃]
    rw [hruns₃] at hruns
    rw [if_pos hremove, if_pos hremove, ← htransfers, ← hruns, hlast.2, Write.apply,
      Database.deleteTransfers]
    simp only [htables₃]
  · rw [if_neg hremove] at hlast
    rw [if_neg hremove, if_neg hremove, hlast]
    exact htables₃

/-- The effect of the outcome. -/
theorem transferCopied_effect (hdb : Consistent db)
    (h : TransferCopied db user transferId body origin sourceOrigin source target db₁ db₂ db₃ db') :
    ∃ targetOrigin clone,
      CopyEffect db body origin sourceOrigin targetOrigin source target clone db' := by
  have hsourceFound := Table.mem_of_filter_eq h.sourceFound
  have hnewSource := isNew_insertConnection hdb h.sourceInserted
  rcases transferCopied_copies hdb h with ⟨_, targetOrigin, htarget, hconnections⟩
  have hcopy := h.copy
  -- The row of the copy, under a name.
  generalize hclone : TransferRepository.copied (db₂.sequences .transfer) body.newQueueId
    body.newGroupId source.id target.id (body.newName.map (·.val)) origin = clone at hcopy
  rcases transferCopied_tables hdb h hcopy with ⟨hnew, htables⟩
  refine ⟨targetOrigin, clone, ?_⟩
  exact {
    sourceFound := ⟨hsourceFound.1, beq_iff_eq.mp hsourceFound.2⟩
    targetFound := htarget
    sourceClone := by
      rw [h.sourceCopy] at hnewSource ⊢
      exact connectionClone_copied hdb hnewSource
    connections := by
      have hsame : db'.connections = db₂.connections := by
        rw [htables]
      rw [hsame]
      exact hconnections
    transferClone := by
      subst hclone
      exact ⟨hnew, rfl, rfl, rfl, rfl, rfl, rfl, rfl, rfl, rfl, rfl, rfl, rfl, rfl⟩
    transfers := by rw [htables]
    runs := by rw [htables]
    users := by rw [htables]
    groups := by rw [htables]
    userGroups := by rw [htables]
    authData := by rw [htables]
    queues := by rw [htables] }

/-- What a request to copy a transfer does when it succeeds. -/
theorem copyTransfer_effect (hdb : Reachable db) {now : Time} {sent : SendTask} {userId : Id}
    {response : Response}
    (h : Returns (api now sent userId (.copyTransfer transferId body)) db response db') :
    ∃ origin ∈ db.transfers, origin.id = transferId ∧
      ∃ sourceOrigin targetOrigin source target clone,
        CopyEffect db body origin sourceOrigin targetOrigin source target clone db' := by
  rcases returns_bind.mp h with ⟨user, _, huser, h⟩
  rw [← (returns_getUser.mp huser).2.2] at h
  rcases returns_bind.mp h with ⟨_, _, hcopy, hpure⟩
  rw [(returns_pure.mp hpure).2] at hcopy
  rcases returns_copyTransfer hcopy with ⟨origin, sourceOrigin, source, target, _, _, _, hcopied⟩
  have hfound := Table.mem_of_filter_eq hcopied.found
  rcases transferCopied_effect (reachable_consistent hdb) hcopied with
    ⟨targetOrigin, clone, heffect⟩
  exact ⟨origin, hfound.1, beq_iff_eq.mp hfound.2, sourceOrigin, targetOrigin, source, target,
    clone, heffect⟩

end Effect

/-- The sample transfer, moved to the second group. -/
def moveTransfer : CopyTransferSchema where
  newGroupId := 2
  newQueueId := 2
  newSourceConnectionName := some ⟨"moved warehouse", by decide⟩
  removeSource := true

theorem copyTransfer_effect_sample :
    ∃ origin ∈ (sampleEvents.foldl Database.step Database.empty).transfers, origin.id = 1 ∧
      ∃ sourceOrigin targetOrigin source target clone,
        CopyEffect (sampleEvents.foldl Database.step Database.empty) moveTransfer origin
          sourceOrigin targetOrigin source target clone
          (after (api 8 .returned 1 (.copyTransfer 1 moveTransfer))
            (sampleEvents.foldl Database.step Database.empty)) := by
  have hsucceeds : succeeds (api 8 .returned 1 (.copyTransfer 1 moveTransfer))
      (sampleEvents.foldl Database.step Database.empty) = true := by
    decide +kernel
  rcases succeeds_iff.mp hsucceeds with ⟨response, hreturns⟩
  exact copyTransfer_effect (reachable_foldl sampleEvents) hreturns

end SyncMaster
