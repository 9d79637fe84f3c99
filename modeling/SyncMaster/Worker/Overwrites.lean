import SyncMaster.Library.Partitions
import SyncMaster.Worker.Controller
import SyncMaster.Worker.Hwm

/-!
# Overwriting Partitions

A full run into Hive or Iceberg is meant to rewrite the partitions that it has
rows for, and to leave the others alone. The class of their transfers says so:
it sets `replace_overlapping_partitions` as a default. It sets it with
`setdefault`, after the base class has set `replace_entire_table` in the same
way, so the key is there and nothing happens.

An accepted transfer cannot say otherwise. The parameters of a database have a
table name and nothing else, so the options are empty when the defaults are
set, and the mode that reaches the library is `replace_entire_table` in every
full run. `targetOptions_eq` follows the parameters from the row through the
controller to the options of the handler.

What is lost is then a matter of the table. The run does what it is meant to
just when no partition of the table is without a row in the data frame.

## Main definitions

* `WriteOptions.parse`: The options, as the library reads them.
* `DBHandler.BuiltFrom`: A handler for an object of the controller.
* `PartitionedOnEtl`: The library, for tables in partitions.

## Theorems

* `parse_dbOptions`: The defaults for databases, as they come out.
* `targetOptions_eq`: The options of a target in Hive or Iceberg.
* `write_overlapping`: What the mode that was meant does.
* `replaces_write_iff`: When a full run does the same.
-/

namespace SyncMaster

open Assoc Program Partitions

/-! ## Options -/

def IfExists.value : IfExists → String
  | .append => "append"
  | .replaceEntireTable => "replace_entire_table"
  | .replaceOverlappingPartitions => "replace_overlapping_partitions"

/-- A value of `if_exists`. -/
def ifExistsOf : Json → Option IfExists
  | .str value => [.append, .replaceEntireTable, .replaceOverlappingPartitions].find?
      (fun mode => mode.value == value)
  | _ => none

/-- The options, as the library reads them. -/
def WriteOptions.parse (options : Dict) : WriteOptions where
  ifExists := (options.lookup "if_exists").bind ifExistsOf
  createTableOptions :=
    match options.lookup "createTableOptions" with
    | some (.str text) => some text
    | _ => none

theorem ifExistsOf_value (mode : IfExists) : ifExistsOf (.str mode.value) = some mode := by
  cases mode <;> decide

/-- The value of `if_exists`, if there is one, is one of the three. -/
def ModeKnown (options : Dict) : Prop :=
  ∀ value, options.lookup "if_exists" = some value → (ifExistsOf value).isSome = true

/-- `setdefault` on the dictionary, as the library reads it. -/
theorem parse_setDefaultIfExists {options : Dict} (h : ModeKnown options) (mode : IfExists) :
    WriteOptions.parse (setDefaultIfExists options mode.value) =
      (WriteOptions.parse options).setDefault mode := by
  unfold setDefaultIfExists
  by_cases hkey : hasKey options "if_exists" = true
  · rw [if_pos hkey]
    rcases Option.isSome_iff_exists.mp hkey with ⟨value, hvalue⟩
    refine (WriteOptions.setDefault_of_isSome ?_).symm
    change ((options.lookup "if_exists").bind ifExistsOf).isSome = true
    rw [hvalue]
    exact h value hvalue
  · rw [if_neg hkey]
    have hnone : options.lookup "if_exists" = none :=
      Option.not_isSome_iff_eq_none.mp hkey
    unfold WriteOptions.parse WriteOptions.setDefault
    rw [lookup_put, lookup_put, if_pos rfl, if_neg (by decide), hnone]
    exact congrArg (WriteOptions.mk · _) (ifExistsOf_value mode)

theorem modeKnown_setDefaultIfExists {options : Dict} (h : ModeKnown options) (mode : IfExists) :
    ModeKnown (setDefaultIfExists options mode.value) := by
  unfold setDefaultIfExists
  by_cases hkey : hasKey options "if_exists" = true
  · rw [if_pos hkey]
    exact h
  · rw [if_neg hkey]
    intro value hvalue
    rw [lookup_put, if_pos rfl] at hvalue
    rw [← Option.some.inj hvalue, ifExistsOf_value]
    rfl

/-- The defaults for databases, as they come out. For Hive and Iceberg they are
    set twice. -/
theorem parse_dbOptions {type : ConnectionType} {options result : Dict} (h : ModeKnown options)
    (hresult : dbOptions type (some (.obj options)) = .ok result) :
    WriteOptions.parse result =
      if type = .hive ∨ type = .iceberg then hivePostInit (some (WriteOptions.parse options))
      else dbPostInit (some (WriteOptions.parse options)) := by
  have hbase : WriteOptions.parse (setDefaultIfExists options "replace_entire_table") =
      dbPostInit (some (WriteOptions.parse options)) :=
    parse_setDefaultIfExists h .replaceEntireTable
  rw [← Except.ok.inj hresult]
  by_cases htype : type = .hive ∨ type = .iceberg
  · simp only [if_pos htype]
    rw [hivePostInit, ← hbase]
    exact parse_setDefaultIfExists (modeKnown_setDefaultIfExists h .replaceEntireTable)
      .replaceOverlappingPartitions
  · simp only [if_neg htype]
    exact hbase

/-- Without options of its own, every transfer into a database replaces the
    table. -/
theorem ifExists_of_dbOptions {type : ConnectionType} {result : Dict}
    (h : dbOptions type (some (.obj [])) = .ok result) :
    (WriteOptions.parse result).ifExists = some .replaceEntireTable := by
  have hempty : ModeKnown [] := by
    intro value hvalue
    cases hvalue
  rw [parse_dbOptions hempty h, hivePostInit_eq, ite_self]
  rfl

/-! ## The handler of an accepted transfer -/

section Built

variable {library : WorkerLibrary} {loaded : LoadedTransfer} {t : Transfer} {dto : TransferDTO}
  {type : ConnectionType} {groupName : String}

/-- What an object for a transfer is made of. -/
theorem transferDto_eq_ok {transferParams : Dict}
    (h : transferDto library t groupName type transferParams = .ok dto) :
    dto.type = type ∧ strategyFromDict t.strategyParams.modelDump = .ok dto.strategy ∧
      ∃ fields fileFormat dfSchema,
        construct (transferSignature library type) transferParams = .ok fields ∧
        postInit library type fields = .ok (dto.options, fileFormat, dfSchema) := by
  unfold transferDto at h
  cases hstrategy : strategyFromDict t.strategyParams.modelDump with
  | error e =>
      rw [hstrategy] at h
      cases h
  | ok strategy =>
      cases hresources : resourcesOf t.resources.modelDump with
      | error e =>
          rw [hstrategy, hresources] at h
          cases h
      | ok resources =>
          cases hfields : construct (transferSignature library type) transferParams with
          | error e =>
              rw [hstrategy, hresources, hfields] at h
              cases h
          | ok fields =>
              cases hinit : postInit library type fields with
              | error e =>
                  rw [hstrategy, hresources, hfields] at h
                  simp only [bind, Except.bind, hinit] at h
                  cases h
              | ok result =>
                  rw [hstrategy, hresources, hfields] at h
                  simp only [bind, Except.bind, hinit] at h
                  cases h
                  exact ⟨rfl, rfl, fields, result.2.1, result.2.2, rfl, hinit⟩

/-- The options of an object for a table are the defaults. -/
theorem dbOptions_of_postInit {tableName : String} {fields options : Dict}
    {fileFormat : Option Dict} {dfSchema : Option Json} (hfile : type.isFile = false)
    (hfields : construct (transferSignature library type) [("table_name", .str tableName)] =
      .ok fields)
    (hpost : postInit library type fields = .ok (options, fileFormat, dfSchema)) :
    dbOptions type (some (.obj [])) = .ok options := by
  rcases construct_db library tableName hfile with ⟨bound, hbound, hoptions⟩
  rw [Except.ok.inj (hfields.symm.trans hbound)] at hpost
  unfold postInit at hpost
  rw [if_neg (Bool.eq_false_iff.mp hfile), hoptions] at hpost
  exact congrArg (Except.map Prod.fst) hpost

/-- What `get_handler` makes of the parameters. -/
theorem returns_getHandler {connectionId : Id} {authData : AuthValue} {transferParams : Params}
    {heap heap' : Heap} {handler : Handler}
    (h : Returns (getHandler library loaded connectionId authData transferParams) heap handler
      heap') :
    ∃ type, handlerTypeOf (transferParams.modelDump.lookup "type") = some type ∧
      transferDto library loaded.transfer loaded.groupName type
        (erase transferParams.modelDump "type") = .ok handler.transferDto := by
  unfold getHandler at h
  rcases returns_bind.mp h with ⟨connectionData, heap₁, _, h⟩
  cases htype : handlerTypeOf (transferParams.modelDump.lookup "type") with
  | none =>
      simp only [htype] at h
      exact absurd h returns_throw
  | some type =>
      simp only [htype, returns_bind, returns_query, returns_pure] at h
      rcases h with ⟨connection, _, _, transfer, _, ⟨htransfer, _⟩, hhandler, _⟩
      rw [← hhandler]
      exact ⟨type, rfl, htransfer⟩

/-- The target of an accepted transfer into Hive or Iceberg has no options of
    its own, and the strategy of the transfer. -/
theorem targetOptions_eq {py : Python} {pydantic : Pydantic} {heap heap' : Heap}
    {controller : TransferController} (haccepted : AcceptedTransfer py pydantic loaded.transfer)
    (htype : loaded.transfer.targetParams.type = .hive ∨
      loaded.transfer.targetParams.type = .iceberg)
    (hinit : Returns (TransferController.init library loaded) heap controller heap') :
    controller.targetHandler.transferDto.type = loaded.transfer.targetParams.type ∧
      strategyFromDict loaded.transfer.strategyParams.modelDump =
        .ok controller.targetHandler.transferDto.strategy ∧
      dbOptions loaded.transfer.targetParams.type (some (.obj [])) =
        .ok controller.targetHandler.transferDto.options := by
  rcases params_of_accepted haccepted with ⟨_, target, _, htarget⟩
  unfold TransferController.init at hinit
  simp only [returns_bind, returns_pure] at hinit
  rcases hinit with ⟨source, _, _, handler, _, hhandler, hcontroller, _⟩
  rw [← hcontroller]
  rcases returns_getHandler hhandler with ⟨type, hlookup, hdto⟩
  rw [htarget] at htype hlookup hdto ⊢
  rw [(type_of_target target).1, handlerTypeOf_value] at hlookup
  rw [(type_of_target target).2, ← Option.some.inj hlookup] at hdto
  rcases transferDto_eq_ok hdto with ⟨hdtoType, hstrategy, fields, fileFormat, dfSchema, hfields,
    hpost⟩
  refine ⟨hdtoType, hstrategy, ?_⟩
  cases target with
  | file fileType =>
      -- Hive and Iceberg have no files.
      have hfile := fileType.property
      change fileType.val = .hive ∨ fileType.val = .iceberg at htype
      rcases htype with heq | heq
      · rw [heq] at hfile
        cases hfile
      · rw [heq] at hfile
        cases hfile
  | db dbType tableName =>
      exact dbOptions_of_postInit dbType.property hfields hpost

end Built

/-! ## Tables in partitions -/

/-- A handler for an object of the controller. -/
structure DBHandler.BuiltFrom (handler : DBHandler) (dto : TransferDTO) : Prop where
  type : handler.cls.type = dto.type
  tableName : dto.params.lookup "table_name" = some (.str handler.transferDto.tableName)
  strategy : strategyFromDict handler.transferDto.strategy.modelDump = .ok dto.strategy
  options : handler.transferDto.options = WriteOptions.parse dto.options

/-- The library, over target tables in partitions. -/
structure PartitionedOnEtl (Row Out Key : Type) [DecidableEq Key] (value : Row → Int) extends
    OnEtl Row Out value where
  keyOf : Out → Key
  write_overlapping : ∀ (writer : DBWriter) (table : List Out) (df : DataFrame Out),
    writer.options.ifExists = some .replaceOverlappingPartitions →
    (write writer table df).Perm (overlay keyOf table df.rows)

section Write

variable {Row Out Key : Type} [DecidableEq Key] {value : Row → Int}
  (etl : PartitionedOnEtl Row Out Key value) {handler : DBHandler} (table : List Out)
  (df : DataFrame Out)

/-- What the mode that was meant does. -/
theorem write_overlapping (htype : handler.cls.type ≠ .clickhouse)
    (h : handler.writeOptions.ifExists = some .replaceOverlappingPartitions) :
    Replaces etl.keyOf table df.rows (handler.write etl.toOnEtl table df) := by
  rcases DBHandler.write_eq etl.toOnEtl handler table df with ⟨writer, df', hwrite, hmode, hrows⟩
  rw [DBHandler.stored_of_ne_clickhouse etl.toOnEtl handler htype, List.map_id] at hrows
  rw [replaces_iff_perm_overlay, hwrite, ← hrows]
  exact etl.write_overlapping writer table df' (hmode.trans h)

/-- What the mode does that replaces the table. -/
theorem replaces_write_of_entire (htype : handler.cls.type ≠ .clickhouse)
    (h : handler.writeOptions.ifExists = some .replaceEntireTable) :
    Replaces etl.keyOf table df.rows (handler.write etl.toOnEtl table df) ↔
      ∀ old ∈ table, Touches etl.keyOf df.rows (etl.keyOf old) := by
  have hwrite := DBHandler.write_replaced etl.toOnEtl handler table df h
  rw [DBHandler.stored_of_ne_clickhouse etl.toOnEtl handler htype, List.map_id] at hwrite
  exact replaces_iff_of_perm hwrite

/-- The strategy of a handler is that of the object. -/
theorem strategy_eq_full {strategy : Strategy} {fields : Dict}
    (hfull : strategyFromDict Strategy.full.modelDump = .ok fields)
    (h : strategyFromDict strategy.modelDump = .ok fields) : strategy = .full := by
  cases strategy with
  | full => rfl
  | incremental incrementBy =>
      -- An incremental strategy has a field more.
      rw [← hfull] at h
      have hlength := congrArg (Except.map List.length) h
      cases hlength

variable {library : WorkerLibrary} {py : Python} {pydantic : Pydantic} {loaded : LoadedTransfer}
  {heap heap' : Heap} {controller : TransferController}

/-- A full run into Hive or Iceberg replaces the partitions that it has rows for
    and no others just when the table has no others. -/
theorem replaces_write_iff (haccepted : AcceptedTransfer py pydantic loaded.transfer)
    (htype : loaded.transfer.targetParams.type = .hive ∨
      loaded.transfer.targetParams.type = .iceberg)
    (hfull : loaded.transfer.strategyParams = .full)
    (hinit : Returns (TransferController.init library loaded) heap controller heap')
    (hhandler : handler.BuiltFrom controller.targetHandler.transferDto) :
    Replaces etl.keyOf table df.rows (handler.write etl.toOnEtl table df) ↔
      ∀ old ∈ table, Touches etl.keyOf df.rows (etl.keyOf old) := by
  rcases targetOptions_eq haccepted htype hinit with ⟨hdtoType, hstrategy, hoptions⟩
  have hother : handler.cls.type ≠ .clickhouse := by
    rw [hhandler.type, hdtoType]
    intro hclickhouse
    rw [hclickhouse] at htype
    exact htype.elim (fun h => nomatch h) (fun h => nomatch h)
  rw [hfull] at hstrategy
  have hhandlerFull := strategy_eq_full hstrategy hhandler.strategy
  -- With the full strategy the handler leaves the options alone.
  have hmode : handler.writeOptions.ifExists = some .replaceEntireTable := by
    rw [DBHandler.writeOptions, hhandlerFull, hhandler.options]
    exact ifExists_of_dbOptions hoptions
  exact replaces_write_of_entire etl table df hother hmode

end Write

/-! ## A report for each day -/

/-- The data and the credentials of a Hive. -/
def lakeSchema : ConnectionSchema String where
  data := .hive "lake"
  authData := .basic "user" "secret"
  inUnion := by decide
  dataMatch := rfl

def lake : Connection where
  id := 1
  groupId := 1
  name := "lake"
  description := ""
  createdAt := 0
  updatedAt := 0
  type := lakeSchema.data.type
  data := lakeSchema.data.modelDump

/-- A full transfer from a table in Hive to another one. -/
def reportFields : TransferFields where
  groupId := 1
  queueId := 1
  sourceConnectionId := 1
  targetConnectionId := 1
  name := ⟨"report", by decide⟩
  description := ""
  sourceParams := .db ⟨.hive, rfl⟩ "events.daily"
  targetParams := .db ⟨.hive, rfl⟩ "reports.daily"
  strategyParams := .full
  transformations := []
  resources := {}
  isScheduled := false
  schedule := none

def reportBody : Dict :=
  [("group_id", .num 1), ("queue_id", .num 1), ("source_connection_id", .num 1),
    ("target_connection_id", .num 1), ("name", .str "report"),
    ("source_params", .obj [("type", .str "hive"), ("table_name", .str "events.daily")]),
    ("target_params", .obj [("type", .str "hive"), ("table_name", .str "reports.daily")])]

theorem transferFields_report :
    transferFields asciiPython plainPydantic reportBody = .ok reportFields := by
  rfl

def report : Transfer where
  id := 1
  groupId := 1
  name := "report"
  description := ""
  createdAt := 0
  updatedAt := 0
  sourceConnectionId := 1
  targetConnectionId := 1
  strategyParams := reportFields.strategyParams
  sourceParams := reportFields.sourceParams.modelDump
  targetParams := reportFields.targetParams.modelDump
  transformations := []
  resources := reportFields.resources
  isScheduled := false
  schedule := ""
  queueId := 1

theorem accepted_report : AcceptedTransfer asciiPython plainPydantic report := by
  have hbody : CreateTransferSchema.validate asciiPython plainPydantic (.obj reportBody) =
      .ok (reportFields.toSchema (validators_passed transferFields_report)) :=
    validate_eq_ok.mpr ⟨reportBody, reportFields, rfl, transferFields_report, rfl⟩
  exact ⟨_, _, hbody, rfl, rfl, rfl, rfl, rfl⟩

def reportLoaded : LoadedTransfer where
  runId := 1
  runCreatedAt := 0
  transfer := report
  groupName := "first"
  sourceConnection := lake
  targetConnection := lake
  sourceAuthData := CreateAuthSchema.modelDump lakeSchema.authData
  targetAuthData := CreateAuthSchema.modelDump lakeSchema.authData
  identity := fun _ => ⟨rfl, rfl⟩

def reportHandler : DBHandler where
  cls := hiveHandler
  transferDto :=
    { id := 1
      tableName := "reports.daily"
      strategy := .full
      resources := {}
      transformations := []
      options := hivePostInit none }
  hwm := none

theorem builtFrom_report : ∃ controller heap',
    Returns (TransferController.init plainLibrary reportLoaded) (fun _ => lake.data) controller
      heap' ∧
      reportHandler.BuiltFrom controller.targetHandler.transferDto :=
  ⟨_, _, rfl, ⟨rfl, rfl, rfl, rfl⟩⟩

/-- A library that has the three modes, for rows that are numbers, a hundred for
    each day. -/
def dailyWrite (writer : DBWriter) (table : List Int) (df : DataFrame Int) : List Int :=
  match writer.options.ifExists with
  | some .append => table ++ df.rows
  | some .replaceOverlappingPartitions => overlay (· / 100) table df.rows
  | _ => df.rows

def dailyEtl : PartitionedOnEtl Int Int Int id where
  toOnEtl :=
    { History.singleColumn with
      write := dailyWrite
      write_append := by
        intro writer table df happend
        rw [dailyWrite, happend]
      write_replace := by
        intro writer table df hreplace
        rw [dailyWrite, hreplace] }
  keyOf := (· / 100)
  write_overlapping := by
    intro writer table df hoverlap
    change (dailyWrite writer table df).Perm _
    rw [dailyWrite, hoverlap]

/-- The rows of the second day are written. -/
def secondDay : DataFrame Int where
  schema := History.idColumn
  rows := [201, 202]

/-- A table that has rows of the second day only. -/
theorem replaces_write_secondDay : Replaces dailyEtl.keyOf [200] secondDay.rows
    (reportHandler.write dailyEtl.toOnEtl [200] secondDay) := by
  rcases builtFrom_report with ⟨controller, heap', hinit, hhandler⟩
  exact (replaces_write_iff dailyEtl [200] secondDay accepted_report (Or.inl rfl) rfl hinit
    hhandler).mpr (by decide)

/-- The rows of the first day are lost. -/
theorem not_replaces_write_firstDay :
    ¬ ∀ (etl : PartitionedOnEtl Int Int Int id) (table : List Int) (df : DataFrame Int)
        (library : WorkerLibrary) (py : Python) (pydantic : Pydantic) (loaded : LoadedTransfer)
        (heap heap' : Heap) (controller : TransferController) (handler : DBHandler),
      AcceptedTransfer py pydantic loaded.transfer →
      loaded.transfer.targetParams.type = .hive ∨ loaded.transfer.targetParams.type = .iceberg →
      loaded.transfer.strategyParams = .full →
      Returns (TransferController.init library loaded) heap controller heap' →
      handler.BuiltFrom controller.targetHandler.transferDto →
      Replaces etl.keyOf table df.rows (handler.write etl.toOnEtl table df) := by
  intro h
  rcases builtFrom_report with ⟨controller, heap', hinit, hhandler⟩
  have hreplaces := h dailyEtl [100, 200] secondDay plainLibrary asciiPython plainPydantic
    reportLoaded _ heap' controller reportHandler accepted_report (Or.inl rfl) rfl hinit hhandler
  -- The first day is not written, and its row is gone.
  have hkept := hreplaces.kept 1 (by decide)
  revert hkept
  decide

end SyncMaster
