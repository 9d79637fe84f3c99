import SyncMaster.Server.Answers
import SyncMaster.Server.Continuity
import SyncMaster.Server.ReadRoutes
import SyncMaster.Transfers.Types

/-!
# Sending a Transfer Back

A client that edits a transfer reads it, changes some of the fields and sends all of
them back, since `PUT /v1/transfers/{id}` replaces every column. So a response of the
service has to be a body that the service accepts, and a body that changes no field
must not change the transfer.

The schemas of a transfer dump what they accept as something that they accept as the
same value, and the columns of a row hold such dumps. So the body is accepted. What
stands behind it are the checks of `update_transfer`: the connections and the queue
must belong to the group that the body names. That group is the group of the transfer,
which may be another one than that of its connections, if an earlier update named a
third group. Where the links are in the group of the transfer, the request succeeds and
`updated_at` is all that changes.

## Main definitions

* `ReadTransferSchema.modelDump`: The body of a response.
* `Event.BodyAccepted`: The bodies of transfers have been validated.
* `HoldsFields`: The columns of a row hold the fields of a body.
* `Touched`: The database with a new `updated_at` of a transfer.

## Theorems

* `transferFields_modelDump`: The body of a response is accepted.
* `stateAfter_holdsFields`: Every row holds the fields of a body.
* `stateAfter_storable`: Every row passes the constraints of its table.
* `sentBack_iff`: When a transfer that is sent back is taken, and what it changes.
-/

namespace SyncMaster

open Program Validated

/-! ## The body of a response -/

/-- `TransferSchema.model_dump(mode="json")`. -/
def TransferFields.modelDump (f : TransferFields) : Dict :=
  [("group_id", .num f.groupId), ("queue_id", .num f.queueId),
    ("source_connection_id", .num f.sourceConnectionId),
    ("target_connection_id", .num f.targetConnectionId), ("name", .str f.name.val),
    ("description", .str f.description),
    ("source_params", .obj f.sourceParams.modelDump.modelDump),
    ("target_params", .obj f.targetParams.modelDump.modelDump),
    ("strategy_params", .obj f.strategyParams.modelDump),
    ("transformations", .arr (f.transformations.map TransformationSchema.modelDump)),
    ("resources", .obj f.resources.modelDump), ("is_scheduled", .bool f.isScheduled),
    ("schedule", dumpOption f.schedule)]

/-- `ReadTransferSchema.model_dump(mode="json")`. -/
def ReadTransferSchema.modelDump (t : ReadTransferSchema) : Dict :=
  t.toTransferFields.modelDump ++ [("id", .num t.id)]

section Fields

variable {py : Python} {pydantic : Pydantic} {f : TransferFields}

theorem nullable_dumpOption (value : Option String) :
    nullable str (dumpOption value) = .ok value := by
  cases value <;> rfl

/-- A schedule that is cut is as empty as it was. -/
theorem validateScheduling_varchar {isScheduled : Bool} {schedule : Option String}
    (h : validateScheduling isScheduled schedule = .ok schedule) :
    validateScheduling isScheduled (schedule.map (varchar 32)) =
      .ok (schedule.map (varchar 32)) := by
  cases schedule with
  | none => exact h
  | some value =>
      unfold validateScheduling at h ⊢
      by_cases hvalue : value = ""
      · rw [hvalue] at h
        cases isScheduled <;> cases h
      · have hcut : varchar 32 value ≠ "" :=
          fun hempty => hvalue ((varchar_eq_empty_iff (by decide)).mp hempty)
        rw [Option.map_some, Option.filter_some, if_pos (bne_iff_ne.mpr hcut)]
        rfl

/-- What the validator of the schedule makes of a column. -/
theorem validateScheduling_column {isScheduled : Bool} {schedule : Option String}
    (h : validateScheduling isScheduled schedule = .ok schedule) :
    validateScheduling isScheduled (some (schedule.getD "")) = .ok schedule := by
  cases schedule with
  | none => exact h
  | some value => exact h

/-- The fields of a response are accepted, with the schedule that the validator makes
    of them. What else is in the body is not looked at. -/
theorem transferFields_modelDump (hexact : pydantic.Exact) (hread : Readable py pydantic f)
    (hstrategy : validateStrategy f.sourceParams.modelDump f.strategyParams = .ok f.strategyParams)
    {schedule : Option String}
    (hschedule : validateScheduling f.isScheduled f.schedule = .ok schedule) (rest : Dict) :
    transferFields py pydantic (f.modelDump ++ rest) = .ok { f with schedule := schedule } := by
  let d := f.modelDump ++ rest
  have hname : field d "name" (fun j =>
      (str j).andThen (constrained (fun s => validName s = true))) = .ok f.name :=
    dif_pos f.name.property
  have hsource : sourceParamsField py pydantic d = .ok f.sourceParams := hread.sourceParams
  have htarget : field d "target_params" (TransferTarget.validate py pydantic) =
      .ok f.targetParams := hread.targetParams
  have hstrategy : fieldOr d "strategy_params" .full (fun j =>
      (Strategy.validate j).andThen (checkStrategy (sourceParamsField py pydantic d))) =
        .ok f.strategyParams := by
    refine andThen_eq_ok.mpr ⟨f.strategyParams, strategy_validate_modelDump _, ?_⟩
    rw [hsource]
    unfold checkStrategy
    cases hparams : f.strategyParams with
    | full => rfl
    | incremental incrementBy =>
        rw [hparams] at hstrategy
        simp only [hstrategy]
  have htransformations : fieldOr d "transformations" []
      (array (TransformationSchema.validate py pydantic)) = .ok f.transformations :=
    hread.transformations
  have hresources : fieldOr d "resources" {} (Resources.validate pydantic) = .ok f.resources :=
    hread.resources
  have hscheduled : isScheduledField pydantic d = .ok f.isScheduled := hexact.boolean _
  have hschedule : (fieldOr d "schedule" none (nullable str)).andThen
      (checkScheduling (isScheduledField pydantic d)) = .ok schedule := by
    refine andThen_eq_ok.mpr ⟨f.schedule, nullable_dumpOption _, ?_⟩
    rw [hscheduled]
    unfold checkScheduling
    simp only [hschedule]
  -- The plain fields read what they were written from.
  have hgroup : field d "group_id" pydantic.integer = .ok f.groupId := hexact.integer _
  have hqueue : field d "queue_id" pydantic.integer = .ok f.queueId := hexact.integer _
  have hsourceId : field d "source_connection_id" pydantic.integer = .ok f.sourceConnectionId :=
    hexact.integer _
  have htargetId : field d "target_connection_id" pydantic.integer = .ok f.targetConnectionId :=
    hexact.integer _
  have hdescription : fieldOr d "description" "" str = .ok f.description := rfl
  change transferFields py pydantic d = _
  unfold transferFields
  -- The validators that look at an earlier field come before that field is rewritten.
  rw [hgroup, hqueue, hsourceId, htargetId, hname, hdescription, hstrategy, hschedule, hsource,
    htarget, htransformations, hresources, hscheduled]
  rfl

end Fields

/-! ## Where rows come from -/

section Origins

variable {db db' : Database} {now : Time} {user : User} {request : Request}

/-- The requests that write transfers. -/
def Request.WritesTransfers : Request → Prop
  | .createTransfer _ | .updateTransfer _ _ | .copyTransfer _ _ => True
  | _ => False

/-- The other requests at most take transfers away. -/
theorem transfers_of_written (hr : ¬ request.WritesTransfers) (h : Written request db db') :
    List.Sublist db'.transfers db.transfers := by
  rcases h with ⟨ws, hrun⟩
  refine Machine.run_relation (I := fun _ => True)
    (R := fun s t : Database => List.Sublist t.transfers s.transfers)
    (fun _ => List.Sublist.refl _) (fun _ _ _ hst htu => htu.trans hst)
    (fun _ _ _ _ _ => trivial) ?_ hrun trivial
  rintro s w t _ ⟨hmakes, _, rfl⟩
  cases w with
  | insertTransfer | updateTransfer =>
      cases request with
      | createTransfer | updateTransfer | copyTransfer => exact absurd trivial hr
      | _ => exact hmakes.elim
  | deleteGroup => exact (shrinks_deleteGroups _).transfers
  | deleteConnection => exact (shrinks_deleteConnections _).transfers
  | deleteQueue => exact (shrinks_deleteQueues _).transfers
  | deleteTransfer => exact (shrinks_deleteTransfers _).transfers
  | _ => exact List.Sublist.refl _

/-- The row that a request makes of a body, or of a row that was there. -/
inductive Originates (db : Database) (now : Time) (t : Transfer) : Request → Prop
  | created {id : Id} {body : CreateTransferSchema} : t = TransferRepository.created now id body →
      Originates db now t (.createTransfer body)
  | updated {transferId : Id} {body : CreateTransferSchema} {old : Transfer} :
      old ∈ db.transfers → t = TransferRepository.setColumns now body old →
      Originates db now t (.updateTransfer transferId body)
  | copied {transferId id source target : Id} {body : CopyTransferSchema} {origin : Transfer} :
      origin ∈ db.transfers →
      t = TransferRepository.copied id body.newQueueId body.newGroupId source target
        (body.newName.map (·.val)) origin →
      Originates db now t (.copyTransfer transferId body)

theorem outcome_originates (h : Outcome db user now db' request) (hr : ¬ request.OnRuns)
    {t : Transfer} (ht : t ∈ db'.transfers) : t ∈ db.transfers ∨ Originates db now t request := by
  by_cases hwrites : request.WritesTransfers
  · cases h with
    | onRuns h => exact absurd h hr
    | createTransfer _ _ hnew hinsert =>
        rw [hinsert.2] at ht
        rcases List.mem_append.mp ht with hold | hlast
        · exact Or.inl hold
        · exact Or.inr (.created ((List.mem_singleton.mp hlast).trans hnew))
    | updateTransfer hold _ _ hnew hupdate =>
        rw [hupdate.2] at ht
        rcases Table.mem_update.mp ht with ⟨s, hs, rfl⟩
        split
        · exact Or.inr (.updated (Table.mem_of_filter_eq hold).1 hnew)
        · exact Or.inl hs
    | @copyTransfer _ body origin _ source target db₁ db₂ db₃ hcopied =>
        have hframe := copies_frame hcopied
        -- A transfer that is moved is deleted in the end, so all that is left was there before.
        have hmiddle : t ∈ db₃.transfers := by
          have hrest := hcopied.rest
          split at hrest
          · rw [hrest.2] at ht
            exact (shrinks_deleteTransfers _).transfers.subset ht
          · rwa [hrest] at ht
        rw [hcopied.copy.2] at hmiddle
        rcases List.mem_append.mp hmiddle with hold | hlast
        · rw [hframe.1] at hold
          exact Or.inl hold
        · exact Or.inr (.copied (Table.mem_of_filter_eq hcopied.found).1
            (List.mem_singleton.mp hlast))
    | _ => exact hwrites.elim
  · exact Or.inl ((transfers_of_written hwrites (outcome_written h hr)).subset ht)

end Origins

/-! ## What the rows hold -/

/-- The columns of the row hold the fields of a body that was accepted. -/
structure HoldsFields (py : Python) (pydantic : Pydantic) (t : Transfer) (f : TransferFields) :
    Prop where
  readable : Readable py pydantic f
  passed : f.Passed
  groupId : f.groupId = t.groupId
  queueId : f.queueId = t.queueId
  sourceConnectionId : f.sourceConnectionId = t.sourceConnectionId
  targetConnectionId : f.targetConnectionId = t.targetConnectionId
  name : t.name = f.name.val
  description : t.description = f.description
  sourceParams : t.sourceParams = f.sourceParams.modelDump
  targetParams : t.targetParams = f.targetParams.modelDump
  strategyParams : t.strategyParams = f.strategyParams
  transformations : t.transformations = f.transformations.map TransformationSchema.modelDump
  resources : t.resources = f.resources
  isScheduled : t.isScheduled = f.isScheduled
  schedule : t.schedule = f.schedule.getD ""

/-- The bodies of transfers are what the schema has made of JSON bodies. -/
def Request.BodyAccepted (py : Python) (pydantic : Pydantic) : Request → Prop
  | .createTransfer body | .updateTransfer _ body =>
      ∃ json, CreateTransferSchema.validate py pydantic json = .ok body
  | _ => True

def Event.BodyAccepted (py : Python) (pydantic : Pydantic) : Event → Prop
  | .request _ _ _ r => r.BodyAccepted py pydantic
  | _ => True

section Holds

variable {py : Python} {pydantic : Pydantic} {t : Transfer} {body : CreateTransferSchema}

/-- The fields with the texts that the columns make of them. -/
def TransferFields.cut (f : TransferFields) : TransferFields :=
  { f with
    description := varchar 512 f.description
    schedule := f.schedule.map (varchar 32) }

theorem passed_cut {f : TransferFields} (h : f.Passed) : f.cut.Passed :=
  ⟨validateScheduling_varchar h.scheduling, h.strategy⟩

/-- No schedule is stored as an empty one, which is not cut. -/
theorem schedule_cut (f : TransferFields) :
    varchar 32 (f.schedule.getD "") = f.cut.schedule.getD "" := by
  unfold TransferFields.cut
  cases f.schedule with
  | none => exact varchar_of_length_le (Nat.zero_le 32)
  | some value => rfl

theorem holdsFields_created (hexact : pydantic.Exact) {json : Json}
    (h : CreateTransferSchema.validate py pydantic json = .ok body) (now : Time) (id : Id) :
    ∃ f, HoldsFields py pydantic (TransferRepository.created now id body) f := by
  rcases validate_eq_ok.mp h with ⟨d, f, _, hf, rfl⟩
  have hread := readable_of_accepted hexact hf
  exact ⟨f.cut, ⟨⟨hread.sourceParams, hread.targetParams, hread.transformations, hread.resources⟩,
    passed_cut (validators_passed hf), rfl, rfl, rfl, rfl, rfl, rfl, rfl, rfl, rfl, rfl, rfl, rfl,
    schedule_cut f⟩⟩

/-- An update takes every field but the group. -/
theorem holdsFields_updated (hexact : pydantic.Exact) {json : Json}
    (h : CreateTransferSchema.validate py pydantic json = .ok body) (now : Time) :
    ∃ f, HoldsFields py pydantic (TransferRepository.setColumns now body t) f := by
  rcases validate_eq_ok.mp h with ⟨d, f, _, hf, rfl⟩
  have hread := readable_of_accepted hexact hf
  have hpassed := passed_cut (validators_passed hf)
  exact ⟨{ f.cut with groupId := t.groupId },
    ⟨⟨hread.sourceParams, hread.targetParams, hread.transformations, hread.resources⟩,
      ⟨hpassed.scheduling, hpassed.strategy⟩, rfl, rfl, rfl, rfl, rfl, rfl, rfl, rfl, rfl, rfl,
      rfl, rfl, schedule_cut f⟩⟩

/-- A copy has other links, and a name that was validated too. -/
theorem holdsFields_copied {f : TransferFields} (h : HoldsFields py pydantic t f)
    (id queueId groupId source target : Id) (newName : Option NameConstr) :
    ∃ g, HoldsFields py pydantic (TransferRepository.copied id queueId groupId source target
      (newName.map (·.val)) t) g := by
  refine ⟨{ f with
    groupId := groupId
    queueId := queueId
    sourceConnectionId := source
    targetConnectionId := target
    name := newName.getD f.name }, ?_⟩
  have hread := h.readable
  have hpassed := h.passed
  refine ⟨⟨hread.sourceParams, hread.targetParams, hread.transformations, hread.resources⟩,
    ⟨hpassed.scheduling, hpassed.strategy⟩, rfl, rfl, rfl, rfl, ?_, h.description,
    h.sourceParams, h.targetParams, h.strategyParams, h.transformations, h.resources,
    h.isScheduled, h.schedule⟩
  cases newName with
  | none => exact h.name
  | some name => rfl

/-- Every row of a history of validated bodies holds the fields of one. -/
theorem stateAfter_holdsFields (hexact : pydantic.Exact) {events : List Event}
    (hevents : ∀ e ∈ events, e.BodyAccepted py pydantic) :
    ∀ t ∈ (stateAfter events).transfers, ∃ f, HoldsFields py pydantic t f := by
  induction events using List.reverseRecOn with
  | nil => exact fun t ht => absurd ht List.not_mem_nil
  | append_singleton events e ih =>
      have hbefore := ih (fun e' he' => hevents e' (List.mem_append_left _ he'))
      have haccepted := hevents e (List.mem_append_right _ (List.mem_singleton_self e))
      intro t ht
      rw [stateAfter_append] at ht
      rcases step_outcome (stateAfter events) e with
        hbackground | ⟨now, sent, userId, request, user, rfl, hrequest⟩
      · refine hbefore t ?_
        rw [← (backgroundRun_frame hbackground).transfers]
        exact ht
      · rcases outcome_originates hrequest.outcome hrequest.notOnRuns ht with hold | hnew
        · exact hbefore t hold
        · cases hnew with
          | created hrow =>
              rcases haccepted with ⟨json, hjson⟩
              rw [hrow]
              exact holdsFields_created hexact hjson _ _
          | updated _ hrow =>
              rcases haccepted with ⟨json, hjson⟩
              rw [hrow]
              exact holdsFields_updated hexact hjson _
          -- A copy has no body: its fields are those of the original.
          | copied horigin hrow =>
              rcases hbefore _ horigin with ⟨f, hf⟩
              rw [hrow]
              exact holdsFields_copied hf _ _ _ _ _ _

end Holds

/-! ## What the constraints allow -/

section Constraints

variable {db db' : Database}

/-- No two transfers of a group have the same name. -/
def DistinctNames (db : Database) : Prop :=
  Table.Distinct (fun t : Transfer => (t.name, t.groupId)) db.transfers

theorem checkedStep_distinctNames {w : Write} (hk : Keys db) (h : DistinctNames db)
    (hstep : checkedStep db w db') : DistinctNames db' := by
  have hfresh : ∀ {others : List Transfer} {t : Transfer}, Transfer.model.Satisfied db others t →
      ∀ r ∈ others, (r.name, r.groupId) ≠ (t.name, t.groupId) := by
    intro others t hsatisfied r hr heq
    rcases Prod.mk.inj heq with ⟨hname, hgroup⟩
    exact (transfer_satisfied.mp hsatisfied).2.1 r hr hname hgroup
  rcases hstep with ⟨hc, rfl⟩
  cases w with
  | insertTransfer t => exact Table.distinct_insert _ h (hfresh hc.2)
  | updateTransfer t =>
      refine Table.distinct_replace _ h ?_ (hfresh hc)
      exact Table.length_filter_le_one _ hk.transfers (fun _ _ hid => beq_iff_eq.mp hid)
  | deleteGroup => exact Table.distinct_sublist _ h (shrinks_deleteGroups _).transfers
  | deleteConnection => exact Table.distinct_sublist _ h (shrinks_deleteConnections _).transfers
  | deleteQueue => exact Table.distinct_sublist _ h (shrinks_deleteQueues _).transfers
  | deleteTransfer => exact Table.distinct_sublist _ h (shrinks_deleteTransfers _).transfers
  | _ => exact h

theorem reachable_distinctNames (hdb : Reachable db) : DistinctNames db := by
  have hboth : Consistent db ∧ DistinctNames db := by
    refine reachable_of_checked (I := fun db => Consistent db ∧ DistinctNames db)
      ⟨consistent_empty, List.nodup_nil⟩ ?_ hdb
    intro a w b ha hstep
    exact ⟨checkedStep_consistent ha.1 hstep, checkedStep_distinctNames ha.1.keys ha.2 hstep⟩
  exact hboth.2

/-- A row could be written again beside the other rows. -/
theorem reachable_storable (hdb : Reachable db) {t : Transfer} (ht : t ∈ db.transfers) :
    Transfer.model.Satisfied db (Table.delete (fun r => r.id == t.id) db.transfers) t := by
  have hconsistent := reachable_consistent hdb
  refine transfer_satisfied.mpr ⟨(reachable_storedFits hdb).transfers t ht, ?_,
    hconsistent.groupLinks.transferGroup t ht, hconsistent.resourceLinks.transferQueue t ht,
    hconsistent.resourceLinks.transferSource t ht, hconsistent.resourceLinks.transferTarget t ht⟩
  intro r hr hname hgroup
  rcases Table.mem_delete.mp hr with ⟨hmem, hother⟩
  have hsame : r = t := Table.eq_of_key_eq _ (reachable_distinctNames hdb) hmem ht
    (Prod.ext hname hgroup)
  rw [hsame, beq_self_eq_true] at hother
  exact Bool.noConfusion hother

end Constraints

/-! ## The request -/

section Update

variable {db db' : Database} {now : Time} {user : User} {t : Transfer}
  {body : CreateTransferSchema} {source target : Connection} {queue : Queue}

/-- Who may write in a group may read in it. -/
theorem permitted_read_of_write {groupId : Id}
    (h : Permitted memberRights db user groupId .write) :
    Permitted memberRights db user groupId .read := by
  rcases h with hsuper | howner | ⟨ug, hug, hgroup, huser, hrights⟩
  · exact Or.inl hsuper
  · exact Or.inr (Or.inl howner)
  · refine Or.inr (Or.inr ⟨ug, hug, hgroup, huser, fun hlt => hrights ?_⟩)
    exact lt_trans (b := Permission.read.value) hlt (by decide)

/-- `update_transfer` takes a body whose links are in its group. -/
theorem updateTransfer_returns (now : Time) (hk : Keys db) (ht : t ∈ db.transfers)
    (hmay : Permitted memberRights db user t.groupId .write)
    (hlinks : BodyLinks db body source target queue)
    (hread : Permitted memberRights db user body.groupId .read)
    (hstorable : Transfer.model.Satisfied db (Table.delete (fun r => r.id == t.id) db.transfers)
      (TransferRepository.setColumns now body t)) :
    Returns (updateTransfer now user t.id body) db (TransferRepository.setColumns now body t)
      (Write.apply db (.updateTransfer (TransferRepository.setColumns now body t))) := by
  have hwrite := (mayUpdate_iff hk).mp ⟨t, ht, rfl, hmay⟩
  have hfound := Table.filter_key_eq (fun t : Transfer => t.id) hk.transfers ht rfl
  simp only [updateTransfer, TransferRepository.getResourcePermission,
    ConnectionRepository.getResourcePermission, unitOfWork, returns_bind, returns_query,
    returns_raiseIf, returns_atomically, ConnectionRepository.returns_readById,
    QueueRepository.returns_readById, TransferRepository.returns_update, Except.ok.injEq,
    and_assoc, exists_and_left, exists_eq_left', exists_const]
  refine ⟨fun hnone => ?_, hwrite, target, hlinks.targetRow, source, hlinks.sourceRow, queue,
    hlinks.queueRow, (mayRead_links hk hlinks).mpr hread, (), db,
    returns_checkTransferLinks.mpr ⟨hlinks.groups, hlinks.types, rfl⟩, t, hfound, rfl, ?_, rfl⟩
  · rw [hnone] at hwrite
    exact hwrite none_lt_write
  · exact hstorable

/-- Who may write in the group of a transfer is shown its row. -/
theorem readTransfer_returns (hk : Keys db) (ht : t ∈ db.transfers)
    (hmay : Permitted memberRights db user t.groupId .write) :
    Returns (readTransfer user t.id) db t db := by
  have hwrite := (mayUpdate_iff hk).mp ⟨t, ht, rfl, hmay⟩
  refine returns_bind.mpr ⟨_, _, returns_query.mpr ⟨rfl, rfl⟩, ?_⟩
  refine returns_bind.mpr ⟨(), _, returns_raiseIf.mpr ⟨fun hnone => ?_, rfl⟩, ?_⟩
  · rw [hnone] at hwrite
    exact hwrite none_lt_write
  · exact TransferRepository.returns_readById.mpr
      ⟨Table.filter_key_eq (fun t : Transfer => t.id) hk.transfers ht rfl, rfl⟩

end Update

/-! ## What comes back -/

/-- The database with a new `updated_at` of the transfer. -/
def Database.touch (db : Database) (transferId : Id) (now : Time) : Database :=
  { db with
    transfers := Table.update (fun t => t.id == transferId) (fun t => { t with updatedAt := now })
      db.transfers }

section SentBack

variable {py : Python} {pydantic : Pydantic} {db : Database} {t : Transfer} {f : TransferFields}

/-- The fields of the response. -/
def TransferFields.response (f : TransferFields) (t : Transfer) : ReadTransferSchema where
  toTransferFields := { f with schedule := some t.schedule }
  id := t.id

/-- The body that the response is validated as has the fields of the row. -/
theorem accepted_response (hexact : pydantic.Exact) (h : HoldsFields py pydantic t f) :
    transferFields py pydantic (f.response t).modelDump = .ok f := by
  have hread : Readable py pydantic (f.response t).toTransferFields :=
    ⟨h.readable.sourceParams, h.readable.targetParams, h.readable.transformations,
      h.readable.resources⟩
  refine transferFields_modelDump hexact hread h.passed.strategy ?_ _
  have hschedule := validateScheduling_column h.passed.scheduling
  rw [← h.schedule] at hschedule
  exact hschedule

theorem modelValidate_response (hexact : pydantic.Exact) (h : HoldsFields py pydantic t f) :
    ReadTransferSchema.modelValidate py pydantic t = .ok (f.response t) := by
  have hcolumns : StoredColumns t (f.toSchema (validators_passed (accepted_response hexact h))) :=
    ⟨h.name, h.sourceParams, h.targetParams, h.strategyParams, h.transformations, h.resources⟩
  rw [modelValidate_ok hexact (accepted_response hexact h) hcolumns]
  rw [← h.groupId, ← h.queueId, ← h.sourceConnectionId, ← h.targetConnectionId, h.isScheduled,
    h.description]
  rfl

/-- An update with the fields of the row leaves all columns but one. What is in the columns
    is not cut once more. -/
theorem setColumns_self (h : HoldsFields py pydantic t f) (hfit : t.ColumnsFit)
    (hpassed : f.Passed) (now : Time) :
    TransferRepository.setColumns now (f.toSchema hpassed) t = { t with updatedAt := now } := by
  have hdescription : varchar 512 f.description = t.description := by
    rw [← h.description]
    exact varchar_of_length_le hfit.description.1
  have hschedule : varchar 32 (f.schedule.getD "") = t.schedule := by
    rw [← h.schedule]
    exact varchar_of_length_le hfit.schedule.1
  change { t with
    name := f.name.val
    description := varchar 512 f.description
    strategyParams := f.strategyParams
    isScheduled := f.isScheduled
    schedule := varchar 32 (f.schedule.getD "")
    sourceConnectionId := f.sourceConnectionId
    targetConnectionId := f.targetConnectionId
    sourceParams := f.sourceParams.modelDump
    targetParams := f.targetParams.modelDump
    transformations := f.transformations.map TransformationSchema.modelDump
    resources := f.resources
    queueId := f.queueId
    updatedAt := now } = { t with updatedAt := now }
  rw [hdescription, hschedule, ← h.name, ← h.sourceParams, ← h.targetParams, ← h.transformations,
    h.queueId, h.sourceConnectionId, h.targetConnectionId, ← h.strategyParams, ← h.resources,
    ← h.isScheduled]

/-- The links of the row, as the endpoint reads them. -/
theorem bodyLinks_of_linksIn (hk : Keys db) (h : HoldsFields py pydantic t f) (hpassed : f.Passed)
    (hlinks : LinksIn db t t.groupId) (htyped : TypedLinks db t) :
    ∃ source target queue, BodyLinks db (f.toSchema hpassed) source target queue := by
  rcases hlinks with ⟨⟨source, hsource, hsid, hsgroup⟩, ⟨target, htarget, htid, htgroup⟩,
    ⟨queue, hqueue, hqid, hqgroup⟩⟩
  rcases htyped with ⟨⟨source', hsource', hsid', hstype⟩, ⟨target', htarget', htid', httype⟩⟩
  -- The connections of the right group and those of the right type are the same rows.
  have hs : source' = source :=
    Table.eq_of_key_eq _ hk.connections hsource' hsource (hsid'.trans hsid.symm)
  have ht : target' = target :=
    Table.eq_of_key_eq _ hk.connections htarget' htarget (htid'.trans htid.symm)
  subst hs ht
  refine ⟨source', target', queue, ⟨?_, ?_, ?_, ?_, ?_⟩⟩
  · exact Table.filter_key_eq (fun c : Connection => c.id) hk.connections hsource
      (hsid.trans h.sourceConnectionId.symm)
  · exact Table.filter_key_eq (fun c : Connection => c.id) hk.connections htarget
      (htid.trans h.targetConnectionId.symm)
  · exact Table.filter_key_eq (fun q : Queue => q.id) hk.queues hqueue
      (hqid.trans h.queueId.symm)
  · change source'.groupId = f.groupId ∧ target'.groupId = f.groupId ∧ queue.groupId = f.groupId
    rw [h.groupId]
    exact ⟨hsgroup, htgroup, hqgroup⟩
  · change source'.type = f.sourceParams.modelDump.type ∧
      target'.type = f.targetParams.modelDump.type
    rw [← h.sourceParams, ← h.targetParams]
    exact ⟨hstype, httype⟩

variable {user : User} {now : Time}

/-- A row is taken back if its links are in its group. -/
theorem updateTransfer_self (hdb : Reachable db) (ht : t ∈ db.transfers)
    (h : HoldsFields py pydantic t f) (hpassed : f.Passed)
    (hmay : Permitted memberRights db user t.groupId .write) (hlinks : LinksIn db t t.groupId) :
    Returns (updateTransfer now user t.id (f.toSchema hpassed)) db { t with updatedAt := now }
      (db.touch t.id now) := by
  have hk := (reachable_consistent hdb).keys
  rcases bodyLinks_of_linksIn hk h hpassed hlinks (reachable_allTyped hdb t ht) with
    ⟨source, target, queue, hbody⟩
  have hread : Permitted memberRights db user (f.toSchema hpassed).groupId .read := by
    have hgroup : (f.toSchema hpassed).groupId = t.groupId := h.groupId
    rw [hgroup]
    exact permitted_read_of_write hmay
  have hfit := (reachable_storedFits hdb).transfers t ht
  have hstorable := reachable_storable hdb ht
  have hreturns := updateTransfer_returns now hk ht hmay hbody hread
    (by rw [setColumns_self h hfit]; exact hstorable)
  rw [setColumns_self h hfit] at hreturns
  have htouch : db.touch t.id now =
      Write.apply db (.updateTransfer { t with updatedAt := now }) := by
    unfold Database.touch
    rw [Table.update_eq_of_filter
      (Table.filter_key_eq (fun t : Transfer => t.id) hk.transfers ht rfl)]
    rfl
  rwa [htouch]

/-- And only then. -/
theorem linksIn_of_updateTransfer (h : HoldsFields py pydantic t f) (hpassed : f.Passed)
    {written : Transfer} {db' : Database}
    (hreturns : Returns (updateTransfer now user t.id (f.toSchema hpassed)) db written db') :
    LinksIn db t t.groupId := by
  rcases returns_updateTransfer hreturns with ⟨_, source, target, queue, _, _, hbody, _, _⟩
  have hlinks : LinksIn db t (f.toSchema hpassed).groupId :=
    linksIn_of_bodyLinks hbody h.sourceConnectionId.symm h.targetConnectionId.symm
      h.queueId.symm
  have hgroup : (f.toSchema hpassed).groupId = t.groupId := h.groupId
  rwa [hgroup] at hlinks

/-- When a transfer is read and sent back as it is, the request is taken exactly if the links
    are in the group of the transfer, and then `updated_at` is all that changes. -/
theorem sentBack_iff (hexact : pydantic.Exact) {events : List Event}
    (hevents : ∀ e ∈ events, e.BodyAccepted py pydantic) {t : Transfer}
    (ht : t ∈ (stateAfter events).transfers) {userId : Id} {user : User}
    (huser : (stateAfter events).users.find? (fun u => u.id == userId) = some user)
    (hactive : user.isActive = true)
    (hmay : Permitted memberRights (stateAfter events) user t.groupId .write)
    (now : Time) (sent : SendTask) :
    ∃ response body,
      Returns (readTransfer user t.id) (stateAfter events) t (stateAfter events) ∧
      ReadTransferSchema.modelValidate py pydantic t = .ok response ∧
      CreateTransferSchema.validate py pydantic (.obj response.modelDump) = .ok body ∧
      (succeeds (api now sent userId (.updateTransfer t.id body)) (stateAfter events) = true ↔
        LinksIn (stateAfter events) t t.groupId) ∧
      (LinksIn (stateAfter events) t t.groupId →
        Returns (api now sent userId (.updateTransfer t.id body)) (stateAfter events)
          (.transfer { t with updatedAt := now }) ((stateAfter events).touch t.id now)) := by
  have hdb := reachable_stateAfter events
  have hk := (reachable_consistent hdb).keys
  rcases stateAfter_holdsFields hexact hevents t ht with ⟨f, hf⟩
  have haccepted := accepted_response hexact hf
  have hpassed := validators_passed haccepted
  -- The response is the row once more, so the update sets what is there.
  have htaken : LinksIn (stateAfter events) t t.groupId →
      Returns (api now sent userId (.updateTransfer t.id (f.toSchema hpassed))) (stateAfter events)
        (.transfer { t with updatedAt := now }) ((stateAfter events).touch t.id now) := by
    intro hlinks
    refine returns_bind.mpr ⟨user, _, returns_getUser.mpr ⟨huser, hactive, rfl⟩, ?_⟩
    exact returns_bind.mpr
      ⟨_, _, updateTransfer_self hdb ht hf hpassed hmay hlinks, returns_pure.mpr ⟨rfl, rfl⟩⟩
  refine ⟨f.response t, f.toSchema hpassed, readTransfer_returns hk ht hmay,
    modelValidate_response hexact hf, validate_eq_ok.mpr ⟨_, f, rfl, haccepted, rfl⟩,
    ⟨fun hsucceeds => ?_, fun hlinks => ?_⟩, htaken⟩
  · rcases succeeds_iff.mp hsucceeds with ⟨_, hreturns⟩
    rcases returns_bind.mp hreturns with ⟨user', _, huser', hhandle⟩
    rw [← (returns_getUser.mp huser').2.2] at hhandle
    rcases returns_bind.mp hhandle with ⟨_, _, hupdate, _⟩
    exact linksIn_of_updateTransfer hf hpassed hupdate
  · have hreturns := htaken hlinks
    rw [← after_of_returns hreturns] at hreturns
    exact succeeds_iff.mpr ⟨_, hreturns⟩

/-- A transfer of a body with defaults, beside connections and a queue of its group. -/
def answeredEvents : List Event :=
  sampleEvents.take 7 ++ [.request 8 .returned 1
    (.createTransfer (answeredFields.toSchema (validators_passed transferFields_answeredBody)))]

theorem bodyAccepted_answeredEvents :
    ∀ e ∈ answeredEvents, e.BodyAccepted asciiPython plainPydantic := by
  intro e he
  rcases List.mem_append.mp he with hsample | hlast
  · simp only [sampleEvents, List.take_succ_cons, List.take_zero, List.mem_cons, List.not_mem_nil,
      or_false] at hsample
    rcases hsample with rfl | rfl | rfl | rfl | rfl | rfl | rfl
    all_goals exact trivial
  · rw [List.mem_singleton.mp hlast]
    exact ⟨_, validate_eq_ok.mpr ⟨answeredBody, answeredFields, rfl, transferFields_answeredBody,
      rfl⟩⟩

theorem sentBack_answeredEvents :
    ∃ t ∈ (stateAfter answeredEvents).transfers, ∃ user response body,
      Returns (readTransfer user t.id) (stateAfter answeredEvents) t (stateAfter answeredEvents) ∧
      ReadTransferSchema.modelValidate asciiPython plainPydantic t = .ok response ∧
      CreateTransferSchema.validate asciiPython plainPydantic (.obj response.modelDump) =
        .ok body ∧
      (succeeds (api 9 .returned 1 (.updateTransfer t.id body)) (stateAfter answeredEvents) = true ↔
        LinksIn (stateAfter answeredEvents) t t.groupId) ∧
      (LinksIn (stateAfter answeredEvents) t t.groupId →
        Returns (api 9 .returned 1 (.updateTransfer t.id body)) (stateAfter answeredEvents)
          (.transfer { t with updatedAt := 9 }) ((stateAfter answeredEvents).touch t.id 9)) := by
  have hcreated : ((stateAfter answeredEvents).transfers.any fun t => t.groupId == 1) = true := by
    decide +kernel
  have howner : ((stateAfter answeredEvents).groups.any fun g => g.id == 1 && g.ownerId == 1) =
      true := by
    decide +kernel
  rcases List.any_eq_true.mp hcreated with ⟨t, ht, hgroup⟩
  rcases List.any_eq_true.mp howner with ⟨g, hg, hboth⟩
  rcases Bool.and_eq_true_iff.mp hboth with ⟨hid, hownerId⟩
  have hmay : Permitted memberRights (stateAfter answeredEvents) ⟨1, "owner", false, true⟩
      t.groupId .write :=
    Or.inr (Or.inl ⟨g, hg, (beq_iff_eq.mp hid).trans (beq_iff_eq.mp hgroup).symm,
      beq_iff_eq.mp hownerId⟩)
  exact ⟨t, ht, _, sentBack_iff exact_plainPydantic bodyAccepted_answeredEvents ht
    (by decide +kernel) rfl hmay 9 .returned⟩

end SentBack

end SyncMaster
