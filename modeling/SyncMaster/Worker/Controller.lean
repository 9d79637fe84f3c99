import SyncMaster.Worker.TransferDTO
import SyncMaster.Credentials.Stored

/-!
# The Controller of a Run

`TransferController` turns the rows that `run_transfer` loaded into handlers.

It works on the dictionary of the connection itself: the credentials are merged
into it and the type is taken out. When the source and the target of a transfer
are one connection, the session has one object for it, and the target finds the
dictionary as the source left it. So the dictionaries are a heap here, by the
identifier of the connection, and a constructor is a program on it.

A merged dictionary has the fields that are stored, and merging the same
credentials into it again and dropping the type again changes no field. This is
`stored_merged`, and with it the source and the target are alike.

What may be refused are the options of a CSV file, by the library. Their lengths
are bounded there, and not by the schemas of the API.

## Main definitions

* `LoadedTransfer`: What `run_transfer` loads.
* `getHandler`: `TransferController.get_handler`.
* `TransferController.init`: `TransferController.__init__`.
* `StoredBy`: A connection and its credentials, as one schema dumps them.
* `AcceptedTransfer`: A transfer as the API accepts it.
* `DecodesStored`: Both handlers are built, and decode what is stored.
* `Params.CsvInBounds`: The lengths that the library takes.

## Theorems

* `stored_merged`: A merged dictionary has the fields that are stored.
* `getHandler_decodes`: What one call of `get_handler` does.
* `init_decodes`: The handlers of parameters that the library takes.
* `decodesStored_iff`: When what the API accepts is decoded.
-/

namespace SyncMaster

open Assoc Program

/-! ## The controller -/

/-- What `run_transfer` loads. The session has one object for a row. -/
structure LoadedTransfer where
  runId : Id
  runCreatedAt : Time
  transfer : Transfer
  groupName : String
  sourceConnection : Connection
  targetConnection : Connection
  sourceAuthData : AuthValue
  targetAuthData : AuthValue
  identity : sourceConnection.id = targetConnection.id →
    sourceConnection = targetConnection ∧ sourceAuthData = targetAuthData

structure RunDTO where
  id : Id
  createdAt : Time

structure Handler where
  handlerType : ConnectionType
  connectionDto : ConnectionDTO
  transferDto : TransferDTO
  runDto : RunDTO

structure TransferController where
  sourceHandler : Handler
  targetHandler : Handler

/-- The dictionaries of the connection objects. -/
abbrev Heap := Id → Dict

/-- The stored credentials, with their type. -/
def AuthValue.modelDump (authData : AuthValue) : Dict :=
  ("type", .str authData.type.value) :: authData.fields

/-- The keys of `connection_handler_proxy`. -/
def handlerTypeOf : Option Json → Option ConnectionType
  | some (.str handlerType) => connectionTypes.find? (fun type => type.value == handlerType)
  | _ => none

/-- `connection_data.update(connection_auth_data)` and `connection_data.pop("type")`. -/
def mergeConnectionData (connectionId : Id) (authData : AuthValue) :
    Program Heap ControllerError Dict := do
  execute (fun heap =>
    Function.update heap connectionId (update (heap connectionId) authData.modelDump))
  query (fun heap =>
    if hasKey (heap connectionId) "type" then .ok () else .error (.keyError "type"))
  execute (fun heap => Function.update heap connectionId (erase (heap connectionId) "type"))
  query (fun heap => .ok (heap connectionId))

/-- The constructor of the DTO for the connection. -/
def connectionDto (type : ConnectionType) (connectionData : Dict) :
    Except ControllerError ConnectionDTO :=
  match (dtoClass connectionData type).construct connectionData with
  | .ok dto => .ok dto
  | .error cause => .error (.typeError cause)

/-- `get_handler`. -/
def getHandler (library : WorkerLibrary) (loaded : LoadedTransfer) (connectionId : Id)
    (authData : AuthValue) (transferParams : Params) : Program Heap ControllerError Handler := do
  let connectionData ← mergeConnectionData connectionId authData
  let handlerType := transferParams.modelDump.lookup "type"
  let transferParams := erase transferParams.modelDump "type"
  match handlerTypeOf handlerType with
  | none => throw .connectionTypeNotRecognizedError
  | some type => do
      let dto ← query (fun _ => connectionDto type connectionData)
      let transfer ← query (fun _ =>
        transferDto library loaded.transfer loaded.groupName type transferParams)
      return {
        handlerType := type
        connectionDto := dto
        transferDto := transfer
        runDto := ⟨loaded.runId, loaded.runCreatedAt⟩ }

namespace TransferController

/-- `__init__`, apart from the temporary directories. -/
def init (library : WorkerLibrary) (loaded : LoadedTransfer) :
    Program Heap ControllerError TransferController := do
  let sourceHandler ← getHandler library loaded loaded.sourceConnection.id loaded.sourceAuthData
    loaded.transfer.sourceParams
  let targetHandler ← getHandler library loaded loaded.targetConnection.id loaded.targetAuthData
    loaded.transfer.targetParams
  return ⟨sourceHandler, targetHandler⟩

end TransferController

/-- The dictionaries as they were loaded. -/
def LoadedTransfer.Fresh (loaded : LoadedTransfer) (heap : Heap) : Prop :=
  heap loaded.sourceConnection.id = loaded.sourceConnection.data ∧
    heap loaded.targetConnection.id = loaded.targetConnection.data

/-! ## What is stored -/

/-- The connection and its credentials are what the schema dumps. -/
structure StoredBy (schema : ConnectionSchema String) (c : Connection) (authData : AuthValue) :
    Prop where
  type : c.type = schema.data.type
  data : c.data = schema.data.modelDump
  authData : authData = CreateAuthSchema.modelDump schema.authData

theorem acceptedTogether_iff {c : Connection} {authData : AuthValue} :
    AcceptedTogether c authData ↔ ∃ schema, StoredBy schema c authData := by
  constructor
  · intro h
    rcases h with ⟨schema, htype, hdata, hauth⟩
    exact ⟨schema, htype, hdata, hauth⟩
  · intro h
    rcases h with ⟨schema, hstored⟩
    exact ⟨schema, hstored.type, hstored.data, hstored.authData⟩

/-- The parameters of the transfer are those of a body that the API accepts. -/
def AcceptedTransfer (py : Python) (pydantic : Pydantic) (t : Transfer) : Prop :=
  ∃ body schema, CreateTransferSchema.validate py pydantic body = .ok schema ∧
    t.sourceParams = schema.sourceParams ∧ t.targetParams = schema.targetParams ∧
    t.strategyParams = schema.strategyParams ∧ t.resources = schema.resources ∧
    t.transformations = schema.transformations

/-! ## Merging -/

section Merge

variable {schema : ConnectionSchema String} {d : Dict}

theorem type_not_mem_fieldNames (type : AuthType) : "type" ∉ type.fieldNames := by
  cases type <;> decide

theorem nodup_keys_auth (schema : ConnectionSchema String) :
    (keys (CreateAuthSchema.modelDump schema.authData).modelDump).Nodup := by
  have hkeys : keys (CreateAuthSchema.modelDump schema.authData).modelDump =
      "type" :: schema.authData.type.fieldNames :=
    congrArg (List.cons "type") (schema.authData.keys_fields Json.str)
  rw [hkeys]
  exact List.nodup_cons.mpr ⟨type_not_mem_fieldNames _, AuthType.nodup_fieldNames _⟩

/-- The dictionary has the stored data, apart from the type and from what the
    credentials overwrite anyway. -/
def HasData (schema : ConnectionSchema String) (d : Dict) : Prop :=
  ∀ key, key ≠ "type" →
    (schema.authField key).or (d.lookup key) = (schema.authField key).or (schema.dataField key)

theorem hasData_modelDump : HasData schema schema.data.modelDump := by
  intro key hkey
  unfold ConnectionSchema.dataField
  rw [if_neg hkey]

/-- A dictionary that was merged already has the data still. -/
theorem hasData_of_stored (h : Stored schema d) : HasData schema d := by
  intro key _
  rw [h key]
  cases schema.authField key <;> rfl

theorem lookup_modelDump (schema : ConnectionSchema String) {key : String} (hkey : key ≠ "type") :
    (CreateAuthSchema.modelDump schema.authData).modelDump.lookup key = schema.authField key := by
  unfold AuthValue.modelDump
  rw [List.lookup_cons, beq_eq_false_iff_ne.mpr hkey]
  rfl

/-- A merged dictionary has the fields that are stored. -/
theorem stored_merged (h : HasData schema d) :
    Stored schema
      (erase (update d (CreateAuthSchema.modelDump schema.authData).modelDump) "type") := by
  intro key
  rw [lookup_erase]
  by_cases hkey : key = "type"
  · have hauth : schema.authField key = none := by
      rw [← Option.not_isSome_iff_eq_none, isSome_authField, hkey]
      exact type_not_mem_fieldNames _
    have hdata : schema.dataField key = none := if_pos hkey
    rw [if_pos hkey, hauth, hdata]
    rfl
  · rw [if_neg hkey, lookup_update d _ (nodup_keys_auth schema), lookup_modelDump schema hkey]
    exact h key hkey

/-- The credentials bring a type with them. -/
theorem hasKey_type (schema : ConnectionSchema String) (d : Dict) :
    hasKey (update d (CreateAuthSchema.modelDump schema.authData).modelDump) "type" = true := by
  unfold hasKey
  rw [lookup_update d _ (nodup_keys_auth schema)]
  rfl

/-- Merging succeeds, leaves the other dictionaries alone, and keeps the data. -/
theorem returns_mergeConnectionData {heap : Heap} {connectionId : Id}
    (h : HasData schema (heap connectionId)) :
    ∃ merged heap', Returns
        (mergeConnectionData connectionId (CreateAuthSchema.modelDump schema.authData)) heap merged
        heap' ∧
      Stored schema merged ∧ HasData schema (heap' connectionId) ∧
      ∀ id, id ≠ connectionId → heap' id = heap id := by
  have hstored := stored_merged h
  have htype := hasKey_type schema (heap connectionId)
  refine ⟨_, Function.update (Function.update heap connectionId
    (update (heap connectionId) (CreateAuthSchema.modelDump schema.authData).modelDump))
    connectionId (erase (update (heap connectionId)
      (CreateAuthSchema.modelDump schema.authData).modelDump) "type"), ?_, hstored, ?_, ?_⟩
  · unfold mergeConnectionData
    simp only [returns_bind, returns_execute, returns_query]
    refine ⟨(), _, rfl, (), _, ⟨?_, rfl⟩, (), _, rfl, ?_, ?_⟩
    · simp only [Function.update_self, htype, if_true]
    · simp only [Function.update_self]
    · simp only [Function.update_self]
  · rw [Function.update_self]
    exact hasData_of_stored hstored
  · intro id hid
    rw [Function.update_of_ne hid, Function.update_of_ne hid]

end Merge

/-! ## Handlers -/

section Handlers

variable {library : WorkerLibrary} {schema : ConnectionSchema String}

theorem handlerTypeOf_value (type : ConnectionType) :
    handlerTypeOf (some (.str type.value)) = some type := by
  cases type <;> rfl

/-- One call of `get_handler`, for parameters that become an object. -/
theorem getHandler_decodes (loaded : LoadedTransfer) {heap : Heap} {connectionId : Id}
    {transferParams : Params}
    (hdata : HasData schema (heap connectionId)) (htype : transferParams.type = schema.data.type)
    (hlookup : transferParams.modelDump.lookup "type" = some (.str transferParams.type.value))
    (herase : erase transferParams.modelDump "type" = transferParams.fields)
    (hdto : ∃ dto, transferDto library loaded.transfer loaded.groupName transferParams.type
      transferParams.fields = .ok dto) :
    ∃ handler heap', Returns (getHandler library loaded connectionId
        (CreateAuthSchema.modelDump schema.authData) transferParams) heap handler heap' ∧
      handler.handlerType = schema.data.type ∧ Decodes schema handler.connectionDto ∧
      HasData schema (heap' connectionId) ∧ ∀ id, id ≠ connectionId → heap' id = heap id := by
  rcases returns_mergeConnectionData hdata with ⟨merged, heap', hmerge, hstored, hkept, hframe⟩
  rcases construct_decodes hstored with ⟨dto, hconstruct, hdecodes⟩
  rcases hdto with ⟨transfer, htransfer⟩
  have hconnection : connectionDto transferParams.type merged = .ok dto := by
    unfold connectionDto
    rw [htype, dtoClass_eq_variant hstored, hconstruct]
  refine ⟨⟨transferParams.type, dto, transfer, ⟨loaded.runId, loaded.runCreatedAt⟩⟩, heap', ?_,
    htype, hdecodes, hkept, hframe⟩
  unfold getHandler
  rw [returns_bind]
  refine ⟨merged, heap', hmerge, ?_⟩
  simp only [hlookup, handlerTypeOf_value, herase, returns_bind, returns_query, returns_pure]
  exact ⟨dto, heap', ⟨hconnection, rfl⟩, transfer, heap', ⟨htransfer, rfl⟩, rfl, rfl⟩

/-- The fields of parameters that are dumped have no type. -/
theorem type_of_source (source : TransferSource) :
    source.modelDump.modelDump.lookup "type" = some (.str source.modelDump.type.value) ∧
      erase source.modelDump.modelDump "type" = source.modelDump.fields := by
  cases source <;> exact ⟨rfl, rfl⟩

theorem type_of_target (target : TransferTarget) :
    target.modelDump.modelDump.lookup "type" = some (.str target.modelDump.type.value) ∧
      erase target.modelDump.modelDump "type" = target.modelDump.fields := by
  cases target <;> exact ⟨rfl, rfl⟩

/-- A call of `get_handler` that returns has built an object for the parameters. -/
theorem dto_of_getHandler {loaded : LoadedTransfer} {heap heap' : Heap} {connectionId : Id}
    {authData : AuthValue} {transferParams : Params} {handler : Handler}
    (hlookup : transferParams.modelDump.lookup "type" = some (.str transferParams.type.value))
    (herase : erase transferParams.modelDump "type" = transferParams.fields)
    (h : Returns (getHandler library loaded connectionId authData transferParams) heap handler
      heap') :
    ∃ dto, transferDto library loaded.transfer loaded.groupName transferParams.type
      transferParams.fields = .ok dto := by
  rcases returns_bind.mp h with ⟨merged, heap₁, _, hrest⟩
  simp only [hlookup, handlerTypeOf_value, herase, returns_bind, returns_query,
    returns_pure] at hrest
  rcases hrest with ⟨_, _, _, dto, _, ⟨hdto, _⟩, _⟩
  exact ⟨dto, hdto⟩

/-- The quote and the escape of a CSV file have one character at most, and its line
    separator one or two. -/
def Params.CsvInBounds (params : Params) : Prop :=
  ∀ (fileFormat : Dict) (quote escape lineSep : String),
    params.fields.lookup "file_format" = some (.obj fileFormat) →
    fileFormat.lookup "type" = some (.str "csv") →
    fileFormat.lookup "quote" = some (.str quote) →
    fileFormat.lookup "escape" = some (.str escape) →
    fileFormat.lookup "line_sep" = some (.str lineSep) →
    quote.length ≤ 1 ∧ escape.length ≤ 1 ∧ 1 ≤ lineSep.length ∧ lineSep.length ≤ 2

theorem csvInBounds_iff {params : Params} {fileFormat : FileFormat}
    (hformat : params.fields.lookup "file_format" = some (.obj fileFormat.modelDump)) :
    params.CsvInBounds ↔ fileFormat.InBounds := by
  constructor
  · intro h
    cases fileFormat with
    | csv delimiter encoding quote escape includeHeader lineSep compression =>
        exact h _ quote escape lineSep hformat rfl rfl rfl rfl
    | jsonline | json | excel | xml | orc | parquet => trivial
  · intro h dump quote escape lineSep hdump htype hquote hescape hlineSep
    rw [hformat] at hdump
    cases hdump
    have htag : fileFormat.type.value = "csv" := Json.str.inj (Option.some.inj htype)
    cases fileFormat with
    | csv =>
        cases hquote
        cases hescape
        cases hlineSep
        exact h
    | jsonline | json | excel | xml | orc | parquet =>
        simp only [FileFormat.type, FormatType.value, String.reduceEq] at htag

theorem taken_source_iff (hlibrary : library.ParsesDeclared) {source : TransferSource} :
    source.Taken library ↔ source.modelDump.CsvInBounds := by
  cases source with
  | db type tableName =>
      refine iff_of_true trivial (fun _ _ _ _ hformat => ?_)
      cases hformat
  | file type directoryPath fileFormat options =>
      exact (takesFormat_iff hlibrary).trans (csvInBounds_iff rfl).symm

theorem taken_target_iff (hlibrary : library.ParsesDeclared) {target : TransferTarget} :
    target.Taken library ↔ target.modelDump.CsvInBounds := by
  cases target with
  | db type tableName =>
      refine iff_of_true trivial (fun _ _ _ _ hformat => ?_)
      cases hformat
  | file type directoryPath fileFormat fileNameTemplate options =>
      exact (takesFormat_iff hlibrary).trans (csvInBounds_iff rfl).symm

/-- What the API accepts are dumps of the parameter schemas. -/
theorem params_of_accepted {py : Python} {pydantic : Pydantic} {t : Transfer}
    (h : AcceptedTransfer py pydantic t) :
    ∃ (source : TransferSource) (target : TransferTarget),
      t.sourceParams = source.modelDump ∧ t.targetParams = target.modelDump := by
  rcases h with ⟨body, schema, hvalid, hsource, htarget, _⟩
  rcases validate_eq_ok.mp hvalid with ⟨d, f, _, hfields, hschema⟩
  rw [hschema] at hsource htarget
  exact ⟨f.sourceParams, f.targetParams, hsource, htarget⟩

/-- Schemas that dump the same have the same fields. -/
theorem hasData_congr {other : ConnectionSchema String} {d : Dict}
    (hauth : CreateAuthSchema.modelDump schema.authData =
      CreateAuthSchema.modelDump other.authData)
    (hdata : schema.data.modelDump = other.data.modelDump) (h : HasData schema d) :
    HasData other d := by
  intro key hkey
  have hkept := h key hkey
  unfold ConnectionSchema.authField ConnectionSchema.dataField at hkept ⊢
  rw [hauth, hdata] at hkept
  exact hkept

end Handlers

/-! ## Decoding -/

/-- Both handlers are built, for the connection types of the rows, and their connections
    are what is stored. -/
def DecodesStored (library : WorkerLibrary) (loaded : LoadedTransfer)
    (sourceSchema targetSchema : ConnectionSchema String) (heap : Heap) : Prop :=
  ∃ controller heap', Returns (TransferController.init library loaded) heap controller heap' ∧
    (controller.sourceHandler.handlerType = loaded.sourceConnection.type ∧
      Decodes sourceSchema controller.sourceHandler.connectionDto) ∧
    (controller.targetHandler.handlerType = loaded.targetConnection.type ∧
      Decodes targetSchema controller.targetHandler.connectionDto)

section Decoding

variable {library : WorkerLibrary} {py : Python} {pydantic : Pydantic} {loaded : LoadedTransfer}
  {sourceSchema targetSchema : ConnectionSchema String} {heap : Heap}

/-- What the library takes is decoded. -/
theorem init_decodes (hlibrary : library.ParsesDeclared)
    (hsource : StoredBy sourceSchema loaded.sourceConnection loaded.sourceAuthData)
    (htarget : StoredBy targetSchema loaded.targetConnection loaded.targetAuthData)
    (haccepted : AcceptedTransfer py pydantic loaded.transfer)
    (hsourceType : loaded.transfer.sourceParams.type = loaded.sourceConnection.type)
    (htargetType : loaded.transfer.targetParams.type = loaded.targetConnection.type)
    (hsourceFormat : loaded.transfer.sourceParams.CsvInBounds)
    (htargetFormat : loaded.transfer.targetParams.CsvInBounds) (hfresh : loaded.Fresh heap) :
    DecodesStored library loaded sourceSchema targetSchema heap := by
  rcases params_of_accepted haccepted with ⟨source, target, hsourceParams, htargetParams⟩
  rw [hsourceParams] at hsourceType hsourceFormat
  rw [htargetParams] at htargetType htargetFormat
  have hsourceData : HasData sourceSchema (heap loaded.sourceConnection.id) := by
    rw [hfresh.1, hsource.data]
    exact hasData_modelDump
  rcases getHandler_decodes loaded hsourceData (hsourceType.trans hsource.type)
      (type_of_source source).1 (type_of_source source).2
      ((transferDto_source_iff _ _).mpr ((taken_source_iff hlibrary).mpr hsourceFormat)) with
    ⟨sourceHandler, heap₁, hbuilt, hsourceHandler, hsourceDecodes, hkept, hframe⟩
  -- The target finds the dictionary that the source has merged already, or an untouched one.
  have htargetData : HasData targetSchema (heap₁ loaded.targetConnection.id) := by
    by_cases hsame : loaded.sourceConnection.id = loaded.targetConnection.id
    · rcases loaded.identity hsame with ⟨hconnection, hauth⟩
      rw [← hsame]
      refine hasData_congr ?_ ?_ hkept
      · rw [← hsource.authData, ← htarget.authData, hauth]
      · rw [← hsource.data, ← htarget.data, hconnection]
    · rw [hframe _ (fun h => hsame h.symm), hfresh.2, htarget.data]
      exact hasData_modelDump
  rcases getHandler_decodes loaded htargetData (htargetType.trans htarget.type)
      (type_of_target target).1 (type_of_target target).2
      ((transferDto_target_iff _ _).mpr ((taken_target_iff hlibrary).mpr htargetFormat)) with
    ⟨targetHandler, heap₂, hbuilt₂, htargetHandler, htargetDecodes, _, _⟩
  refine ⟨⟨sourceHandler, targetHandler⟩, heap₂, ?_,
    ⟨hsourceHandler.trans hsource.type.symm, hsourceDecodes⟩,
    ⟨htargetHandler.trans htarget.type.symm, htargetDecodes⟩⟩
  unfold TransferController.init
  rw [hsourceParams, htargetParams, hsource.authData, htarget.authData]
  simp only [returns_bind, returns_pure]
  exact ⟨sourceHandler, heap₁, hbuilt, targetHandler, heap₂, hbuilt₂, rfl, rfl⟩

/-- What is built at all was taken by the library. -/
theorem csvInBounds_of_decodes (hlibrary : library.ParsesDeclared)
    (haccepted : AcceptedTransfer py pydantic loaded.transfer)
    (h : DecodesStored library loaded sourceSchema targetSchema heap) :
    loaded.transfer.sourceParams.CsvInBounds ∧ loaded.transfer.targetParams.CsvInBounds := by
  rcases params_of_accepted haccepted with ⟨source, target, hsourceParams, htargetParams⟩
  rcases h with ⟨controller, heap', hinit, _, _⟩
  unfold TransferController.init at hinit
  rw [hsourceParams, htargetParams] at hinit
  simp only [returns_bind, returns_pure] at hinit
  rcases hinit with ⟨sourceHandler, heap₁, hbuilt, targetHandler, heap₂, hbuilt₂, _, _⟩
  rw [hsourceParams, htargetParams]
  have hsource := dto_of_getHandler (type_of_source source).1 (type_of_source source).2 hbuilt
  have htarget := dto_of_getHandler (type_of_target target).1 (type_of_target target).2 hbuilt₂
  exact ⟨(taken_source_iff hlibrary).mp ((transferDto_source_iff _ _).mp hsource),
    (taken_target_iff hlibrary).mp ((transferDto_target_iff _ _).mp htarget)⟩

/-- What the API accepts, the worker can decode, if the library takes the options of the
    CSV files. -/
theorem decodesStored_iff (hlibrary : library.ParsesDeclared)
    (hsource : StoredBy sourceSchema loaded.sourceConnection loaded.sourceAuthData)
    (htarget : StoredBy targetSchema loaded.targetConnection loaded.targetAuthData)
    (haccepted : AcceptedTransfer py pydantic loaded.transfer)
    (hsourceType : loaded.transfer.sourceParams.type = loaded.sourceConnection.type)
    (htargetType : loaded.transfer.targetParams.type = loaded.targetConnection.type)
    (hfresh : loaded.Fresh heap) :
    DecodesStored library loaded sourceSchema targetSchema heap ↔
      loaded.transfer.sourceParams.CsvInBounds ∧ loaded.transfer.targetParams.CsvInBounds := by
  constructor
  · exact csvInBounds_of_decodes hlibrary haccepted
  · intro h
    exact init_decodes hlibrary hsource htarget haccepted hsourceType htargetType h.1 h.2 hfresh

end Decoding

/-! ## A bucket copied within itself -/

/-- A library that takes the options it declares, and no others. -/
def plainLibrary : WorkerLibrary where
  parseObj := fun type given =>
    if type.declares given && type.inBounds given then some given else none
  loads := fun _ => none
  catalogName := "iceberg_0000"

theorem parsesDeclared_plainLibrary : plainLibrary.ParsesDeclared := by
  intro type given hdeclares
  unfold plainLibrary
  simp only [hdeclares, Bool.true_and]
  split
  · rename_i hbounds
    exact iff_of_true rfl hbounds
  · rename_i hbounds
    exact iff_of_false Bool.false_ne_true hbounds

def bucketSchema : ConnectionSchema String where
  data := .s3 "storage" "data" .https "region" none .path []
  authData := .s3 "key" "secret"
  inUnion := by decide
  dataMatch := rfl

def bucket : Connection where
  id := 1
  groupId := 1
  name := "bucket"
  description := ""
  createdAt := 0
  updatedAt := 0
  type := bucketSchema.data.type
  data := bucketSchema.data.modelDump

/-- The defaults of the two formats are among their compressions. -/
theorem gzip_mem_compressions : Compression.gzip ∈ FormatType.csv.compressions := by
  decide

theorem snappy_mem_compressions : Compression.snappy ∈ FormatType.parquet.compressions := by
  decide

section Convert

variable (quote : String)

/-- The fields of a transfer from CSV with the given quote to Parquet. -/
def convertFields : TransferFields where
  groupId := 1
  queueId := 1
  sourceConnectionId := 1
  targetConnectionId := 1
  name := ⟨"convert", Eq.refl true⟩
  description := ""
  sourceParams := .file ⟨.s3, rfl⟩ "/in"
    (.csv "," "utf-8" quote "\\" false "\n" ⟨.gzip, gzip_mem_compressions⟩) []
  targetParams := .file ⟨.s3, rfl⟩ "/out" (.parquet ⟨.snappy, snappy_mem_compressions⟩)
    defaultFileNameTemplate []
  strategyParams := .full
  transformations := []
  resources := {}
  isScheduled := false
  schedule := none

def convertBody : Dict :=
  [("group_id", .num 1), ("queue_id", .num 1), ("source_connection_id", .num 1),
    ("target_connection_id", .num 1), ("name", .str "convert"),
    ("source_params", .obj [("type", .str "s3"), ("directory_path", .str "/in"),
      ("file_format", .obj [("type", .str "csv"), ("quote", .str quote)])]),
    ("target_params", .obj [("type", .str "s3"), ("directory_path", .str "/out"),
      ("file_format", .obj [("type", .str "parquet")])])]

theorem transferFields_convert :
    transferFields asciiPython plainPydantic (convertBody quote) = .ok (convertFields quote) := by
  rfl

def convert : Transfer where
  id := 1
  groupId := 1
  name := "convert"
  description := ""
  createdAt := 0
  updatedAt := 0
  sourceConnectionId := 1
  targetConnectionId := 1
  strategyParams := (convertFields quote).strategyParams
  sourceParams := (convertFields quote).sourceParams.modelDump
  targetParams := (convertFields quote).targetParams.modelDump
  transformations := []
  resources := (convertFields quote).resources
  isScheduled := false
  schedule := ""
  queueId := 1

theorem accepted_convert : AcceptedTransfer asciiPython plainPydantic (convert quote) := by
  have hbody : CreateTransferSchema.validate asciiPython plainPydantic
      (.obj (convertBody quote)) =
      .ok ((convertFields quote).toSchema (validators_passed (transferFields_convert quote))) :=
    validate_eq_ok.mpr
      ⟨convertBody quote, convertFields quote, rfl, transferFields_convert quote, rfl⟩
  exact ⟨_, _, hbody, rfl, rfl, rfl, rfl, rfl⟩

theorem csvInBounds_source : (convert quote).sourceParams.CsvInBounds ↔ quote.length ≤ 1 := by
  have hformat : (convert quote).sourceParams.fields.lookup "file_format" =
      some (.obj (FileFormat.csv "," "utf-8" quote "\\" false "\n"
        ⟨.gzip, gzip_mem_compressions⟩).modelDump) :=
    rfl
  exact (csvInBounds_iff hformat).trans (and_iff_left ⟨by decide, by decide, by decide⟩)

theorem csvInBounds_target : (convert quote).targetParams.CsvInBounds := by
  have hformat : (convert quote).targetParams.fields.lookup "file_format" = some (.obj
      (FileFormat.parquet ⟨.snappy, snappy_mem_compressions⟩).modelDump) :=
    rfl
  exact (csvInBounds_iff hformat).mpr trivial

/-- Source and target are one connection, hence one object. -/
def convertLoaded : LoadedTransfer where
  runId := 1
  runCreatedAt := 0
  transfer := convert quote
  groupName := "first"
  sourceConnection := bucket
  targetConnection := bucket
  sourceAuthData := CreateAuthSchema.modelDump bucketSchema.authData
  targetAuthData := CreateAuthSchema.modelDump bucketSchema.authData
  identity := fun _ => ⟨rfl, rfl⟩

end Convert

theorem storedBy_bucket :
    StoredBy bucketSchema bucket (CreateAuthSchema.modelDump bucketSchema.authData) :=
  ⟨rfl, rfl, rfl⟩

/-- The default quote is a character. -/
theorem decodesStored_convert :
    DecodesStored plainLibrary (convertLoaded "\"") bucketSchema bucketSchema
      (fun _ => bucket.data) := by
  refine (decodesStored_iff parsesDeclared_plainLibrary storedBy_bucket storedBy_bucket
    (accepted_convert _) rfl rfl ⟨rfl, rfl⟩).mpr
      ⟨(csvInBounds_source _).mpr (by decide), csvInBounds_target _⟩

/-- A quote of two characters is accepted by the API and refused by the library. -/
theorem not_decodesStored_longQuote :
    ¬ ∀ (library : WorkerLibrary) (py : Python) (pydantic : Pydantic) (loaded : LoadedTransfer)
        (sourceSchema targetSchema : ConnectionSchema String) (heap : Heap),
      library.ParsesDeclared →
      StoredBy sourceSchema loaded.sourceConnection loaded.sourceAuthData →
      StoredBy targetSchema loaded.targetConnection loaded.targetAuthData →
      AcceptedTransfer py pydantic loaded.transfer →
      loaded.transfer.sourceParams.type = loaded.sourceConnection.type →
      loaded.transfer.targetParams.type = loaded.targetConnection.type →
      loaded.Fresh heap →
      DecodesStored library loaded sourceSchema targetSchema heap := by
  intro h
  have hdecodes := h plainLibrary asciiPython plainPydantic (convertLoaded "''") bucketSchema
    bucketSchema (fun _ => bucket.data) parsesDeclared_plainLibrary storedBy_bucket storedBy_bucket
    (accepted_convert _) rfl rfl ⟨rfl, rfl⟩
  have hbounds := (csvInBounds_of_decodes parsesDeclared_plainLibrary (accepted_convert _)
    hdecodes).1
  exact absurd ((csvInBounds_source _).mp hbounds) (by decide)

end SyncMaster
