import SyncMaster.Worker.ConnectionDTO
import SyncMaster.Schemas.Transfers

/-!
# Transfer DTOs

What the worker makes of the parameters of a transfer.

The constructor gets the parameters as keyword arguments, beside those that it
gets for every transfer. After that the object fills in its options, and an
object for files replaces the dictionary of its file format by an object of the
library, with the options under the names that the library has for them.

Everything succeeds for the parameters that the schemas of a transfer dump, with
one exception: the library bounds the length of three options for CSV files, which
the schemas do not.

## Main definitions

* `WorkerLibrary`: What the worker asks of others.
* `transferSignature`: The dataclasses, with their signatures.
* `getFileFormat`: The file format of the library.
* `FormatType.options`: The options that the library declares.
* `WorkerLibrary.ParsesDeclared`: What the library promises of `parse_obj`.
* `postInit`: What happens after construction.
* `transferDto`: The object for the parameters.
* `FileFormat.InBounds`: The options are within the bounds of the library.

## Theorems

* `takesFormat_iff`: The library takes what is within its bounds.
* `transferDto_source_iff`, `transferDto_target_iff`: The parameters that schemas
  dump become objects if the library takes them.
-/

namespace SyncMaster

open Assoc

/-- What a controller may raise. -/
inductive ControllerError where
  | connectionTypeNotRecognizedError
  | typeError (cause : BindError String)
  | keyError (key : String)
  | attributeError
  | unknownStrategyType (strategyType : Option Json)
  | unknownFileType (fileType : Option Json)
  | jsonDecodeError
  | validationError

/-- What the worker asks of others. -/
structure WorkerLibrary where
  /-- `parse_obj` of the class of a format. -/
  parseObj : FormatType → Dict → Option Dict
  /-- `json.loads`. -/
  loads : String → Option Json
  /-- The default of `catalog_name`, made of a random identifier. -/
  catalogName : String

/-! ## Strategy and resources -/

/-- The fields of an object, given the arguments of its constructor. -/
def construct (sig : Signature String Json) (kwargs : Dict) : Except ControllerError Dict :=
  match sig.bind kwargs with
  | .ok fields => .ok fields
  | .error cause => .error (.typeError cause)

/-- `Strategy.from_dict`. -/
def strategyFromDict (data : Dict) : Except ControllerError Dict :=
  match data.lookup "type" with
  | some (.str "full") => construct ⟨[required "type"]⟩ data
  | some (.str "incremental") => construct ⟨[required "type", required "increment_by"]⟩ data
  | strategyType => .error (.unknownStrategyType strategyType)

/-- `Resources(**resources)`. -/
def resourcesOf (resources : Dict) : Except ControllerError Dict :=
  construct ⟨[required "max_parallel_tasks", required "cpu_cores_per_task",
    required "ram_bytes_per_task"]⟩ resources

/-! ## File formats -/

/-- `_rewrite_option_name`. -/
def rewriteOptionName (fileFormat : Dict) (fromName toName : String) : Dict :=
  match fileFormat.lookup fromName with
  | some value => put (erase fileFormat fromName) toName value
  | none => fileFormat

/-- The options of a format under the names that the library has for them. -/
def rewriteOptions (fileFormat : Dict) : FormatType → Dict
  | .xml =>
      let renamed := rewriteOptionName (rewriteOptionName fileFormat "root_tag" "rootTag")
        "row_tag" "rowTag"
      -- XML at spark-xml has no "none" option.
      match renamed.lookup "compression" with
      | some (.str "none") => erase renamed "compression"
      | _ => renamed
  | .excel =>
      rewriteOptionName (rewriteOptionName fileFormat "include_header" "header")
        "start_cell" "dataAddress"
  | .csv =>
      rewriteOptionName (rewriteOptionName fileFormat "line_sep" "lineSep")
        "include_header" "header"
  | .json | .jsonline => rewriteOptionName fileFormat "line_sep" "lineSep"
  | .orc | .parquet => fileFormat

/-- The format in `_format_parsers`. -/
def formatOfTag : Option Json → Option FormatType
  | some (.str tag) => sourceFileFormat.find? (fun type => type.value == tag)
  | _ => none

/-- `_get_file_format`. -/
def getFileFormat (library : WorkerLibrary) (fileFormat : Dict) : Except ControllerError Dict :=
  let fileType := fileFormat.lookup "type"
  let fileFormat := erase fileFormat "type"
  match formatOfTag fileType with
  | none => .error (.unknownFileType fileType)
  | some type =>
      match library.parseObj type (rewriteOptions fileFormat type) with
      | some parsed => .ok parsed
      | none => .error .validationError

/-! ## Dataclasses -/

/-- The fields that the parameters of a transfer may set. -/
def transferSignature (library : WorkerLibrary) (type : ConnectionType) : Signature String Json :=
  if type.isFile then
    ⟨[optional "options" (.obj []), required "directory_path", required "file_format",
      optional "file_name_template" .null, optional "df_schema" .null]⟩
  else if type = .iceberg then
    ⟨[optional "options" (.obj []), required "table_name",
      optional "catalog_name" (.str library.catalogName)]⟩
  else ⟨[optional "options" (.obj []), required "table_name"]⟩

/-- `options.setdefault("if_exists", value)`. -/
def setDefaultIfExists (options : Dict) (value : String) : Dict :=
  if hasKey options "if_exists" then options else put options "if_exists" (.str value)

/-- The `__post_init__` of the classes for databases. -/
def dbOptions (type : ConnectionType) (options : Option Json) : Except ControllerError Dict :=
  let afterBase (options : Dict) : Dict :=
    let options := setDefaultIfExists options "replace_entire_table"
    if type = .hive ∨ type = .iceberg then
      setDefaultIfExists options "replace_overlapping_partitions"
    else options
  match options with
  | some .null => .ok (afterBase [])
  | some (.obj options) => .ok (afterBase options)
  | _ => .error .attributeError

/-- The `__post_init__` of the classes for files, as far as the options. -/
def fileOptions (options : Option Json) : Except ControllerError Dict :=
  match options with
  | some (.obj options) => .ok (setDefaultIfExists options "replace_overlapping_partitions")
  | _ => .error .attributeError

/-- The `file_format` of an object for files: a dictionary is parsed. -/
def fileFormatField (library : WorkerLibrary) (fileFormat : Option Json) :
    Except ControllerError (Option Dict) :=
  match fileFormat with
  | some (.obj fileFormat) => (getFileFormat library fileFormat).map some
  | _ => .ok none

/-- The `df_schema` of an object for files: a string is parsed. -/
def dfSchemaField (library : WorkerLibrary) (dfSchema : Option Json) :
    Except ControllerError (Option Json) :=
  match dfSchema with
  | some (.str text) =>
      match library.loads text with
      | some value => .ok (some value)
      | none => .error .jsonDecodeError
  | _ => .ok dfSchema

/-- An object for a transfer. -/
structure TransferDTO where
  type : ConnectionType
  id : Id
  name : String
  groupName : String
  strategy : Dict
  resources : Dict
  transformations : List Json
  options : Dict
  /-- The other fields, as they were given. -/
  params : Dict
  fileFormat : Option Dict
  dfSchema : Option Json

/-- `__post_init__`, given the fields of the object. -/
def postInit (library : WorkerLibrary) (type : ConnectionType) (fields : Dict) :
    Except ControllerError (Dict × Option Dict × Option Json) :=
  if type.isFile then do
    let fileFormat ← fileFormatField library (fields.lookup "file_format")
    let dfSchema ← dfSchemaField library (fields.lookup "df_schema")
    let options ← fileOptions (fields.lookup "options")
    return (options, fileFormat, dfSchema)
  else do
    let options ← dbOptions type (fields.lookup "options")
    return (options, none, none)

/-- The object for a transfer, given its parameters without their type. -/
def transferDto (library : WorkerLibrary) (t : Transfer) (groupName : String)
    (type : ConnectionType) (transferParams : Dict) : Except ControllerError TransferDTO := do
  let strategy ← strategyFromDict t.strategyParams.modelDump
  let resources ← resourcesOf t.resources.modelDump
  let fields ← construct (transferSignature library type) transferParams
  let (options, fileFormat, dfSchema) ← postInit library type fields
  return {
    type := type
    id := t.id
    name := t.name
    groupName := groupName
    strategy := strategy
    resources := resources
    transformations := t.transformations
    options := options
    params := fields
    fileFormat := fileFormat
    dfSchema := dfSchema }

/-! ## Options of the library -/

/-- What a class of the library declares for an option. -/
inductive OptionField where
  | text (lengths : Option (Nat × Nat))
  | flag
  | nullableText

namespace OptionField

/-- The value is of the declared type. -/
def hasType : OptionField → Json → Bool
  | .text _, .str _ => true
  | .flag, .bool _ => true
  | .nullableText, .str _ => true
  | .nullableText, .null => true
  | _, _ => false

/-- A text is as long as declared, if that is. -/
def inBounds : OptionField → Json → Bool
  | .text lengths, .str s => lengths.all (fun l => decide (l.1 ≤ s.length ∧ s.length ≤ l.2))
  | _, _ => true

end OptionField

namespace FormatType

/-- The options of the classes, as far as the worker sets them. -/
def options : FormatType → List (String × OptionField)
  | .csv =>
      [("delimiter", .text none), ("encoding", .text none), ("quote", .text (some (0, 1))),
        ("escape", .text (some (0, 1))), ("header", .flag), ("lineSep", .text (some (1, 2))),
        ("compression", .text none)]
  | .json | .jsonline =>
      [("encoding", .text none), ("lineSep", .text none), ("compression", .text none)]
  | .excel => [("header", .flag), ("dataAddress", .nullableText)]
  | .xml => [("rootTag", .text none), ("rowTag", .text none), ("compression", .text none)]
  | .orc | .parquet => [("compression", .text none)]

/-- The options without a default. -/
def requiredOptions : FormatType → List String
  | .xml => ["rowTag"]
  | _ => []

/-- The options are among those of the class and of their types, and none is missing. -/
def declares (type : FormatType) (given : Dict) : Bool :=
  given.all (fun kv => (type.options.lookup kv.1).any (fun option => option.hasType kv.2)) &&
    type.requiredOptions.all (hasKey given)

/-- The texts are as long as declared. -/
def inBounds (type : FormatType) (given : Dict) : Bool :=
  given.all (fun kv => (type.options.lookup kv.1).all (fun option => option.inBounds kv.2))

end FormatType

/-- `parse_obj` refuses options of the declared types only for the length of a text. -/
def WorkerLibrary.ParsesDeclared (library : WorkerLibrary) : Prop :=
  ∀ (type : FormatType) (given : Dict), type.declares given = true →
    ((library.parseObj type given).isSome = true ↔ type.inBounds given = true)

/-- The library takes the options of the format, under its names for them. -/
def WorkerLibrary.TakesFormat (library : WorkerLibrary) (fileFormat : FileFormat) : Prop :=
  (library.parseObj fileFormat.type
    (rewriteOptions fileFormat.fields fileFormat.type)).isSome = true

/-- The bounds of the library, which only the options for CSV files have. -/
def FileFormat.InBounds : FileFormat → Prop
  | .csv _ _ quote escape _ lineSep _ =>
      quote.length ≤ 1 ∧ escape.length ≤ 1 ∧ 1 ≤ lineSep.length ∧ lineSep.length ≤ 2
  | _ => True

/-- What the worker asks the library to parse has the declared types. -/
theorem declares_rewriteOptions (fileFormat : FileFormat) :
    fileFormat.type.declares (rewriteOptions fileFormat.fields fileFormat.type) = true := by
  cases fileFormat with
  | csv | jsonline | json | orc | parquet => rfl
  | excel includeHeader startCell => cases startCell <;> rfl
  | xml rootTag rowTag compression =>
      rcases compression with ⟨compression, _⟩
      cases compression <;> rfl

/-- The renamed options are within the bounds when the options of the schema are. -/
theorem inBounds_rewriteOptions (fileFormat : FileFormat) :
    fileFormat.type.inBounds (rewriteOptions fileFormat.fields fileFormat.type) = true ↔
      fileFormat.InBounds := by
  cases fileFormat with
  | csv delimiter encoding quote escape includeHeader lineSep compression =>
      -- The three bounds, in the order of the renamed options.
      change (decide (0 ≤ quote.length ∧ quote.length ≤ 1) &&
        (decide (0 ≤ escape.length ∧ escape.length ≤ 1) &&
          (decide (1 ≤ lineSep.length ∧ lineSep.length ≤ 2) && true))) = true ↔ _
      simp only [FileFormat.InBounds, Bool.and_eq_true, decide_eq_true_eq, Nat.zero_le, true_and,
        and_true]
  | jsonline | json | orc | parquet => exact iff_of_true rfl trivial
  | excel includeHeader startCell => cases startCell <;> exact iff_of_true rfl trivial
  | xml rootTag rowTag compression =>
      rcases compression with ⟨compression, _⟩
      cases compression <;> exact iff_of_true rfl trivial

/-- The library takes what is within its bounds. -/
theorem takesFormat_iff {library : WorkerLibrary} (hlibrary : library.ParsesDeclared)
    {fileFormat : FileFormat} : library.TakesFormat fileFormat ↔ fileFormat.InBounds :=
  (hlibrary _ _ (declares_rewriteOptions fileFormat)).trans (inBounds_rewriteOptions fileFormat)

/-! ## The parameters that schemas dump -/

/-- The library takes the file format of the source, if it has one. -/
def TransferSource.Taken (library : WorkerLibrary) : TransferSource → Prop
  | .db _ _ => True
  | .file _ _ fileFormat _ => library.TakesFormat fileFormat

/-- The library takes the file format of the target, if it has one. -/
def TransferTarget.Taken (library : WorkerLibrary) : TransferTarget → Prop
  | .db _ _ => True
  | .file _ _ fileFormat _ _ => library.TakesFormat fileFormat

section Dumped

variable {library : WorkerLibrary} {type : ConnectionType}

theorem strategyFromDict_ok (strategy : Strategy) :
    ∃ fields, strategyFromDict strategy.modelDump = .ok fields := by
  cases strategy with
  | full => exact ⟨_, rfl⟩
  | incremental incrementBy => exact ⟨_, rfl⟩

theorem resourcesOf_ok (resources : Resources) :
    ∃ fields, resourcesOf resources.modelDump = .ok fields :=
  ⟨_, rfl⟩

theorem formatOfTag_value (type : FormatType) : formatOfTag (some (.str type.value)) = some type := by
  cases type <;> rfl

theorem erase_type_modelDump (fileFormat : FileFormat) :
    erase fileFormat.modelDump "type" = fileFormat.fields := by
  cases fileFormat <;> rfl

/-- A file format is parsed if the library takes it. -/
theorem getFileFormat_iff {fileFormat : FileFormat} :
    (∃ parsed, getFileFormat library fileFormat.modelDump = .ok parsed) ↔
      library.TakesFormat fileFormat := by
  have htype : fileFormat.modelDump.lookup "type" = some (.str fileFormat.type.value) := rfl
  unfold getFileFormat WorkerLibrary.TakesFormat
  simp only [htype, formatOfTag_value, erase_type_modelDump]
  split
  · rename_i parsed hparsed
    exact iff_of_true ⟨parsed, rfl⟩ (hparsed ▸ rfl)
  · rename_i hrefused
    refine iff_of_false (fun h => ?_) (fun h => ?_)
    · rcases h with ⟨parsed, h⟩
      cases h
    · rw [hrefused] at h
      cases h

/-- What is left to do after construction decides. -/
theorem transferDto_iff_of_fields (t : Transfer) (groupName : String) {transferParams fields : Dict}
    (hfields : construct (transferSignature library type) transferParams = .ok fields) :
    (∃ dto, transferDto library t groupName type transferParams = .ok dto) ↔
      ∃ result, postInit library type fields = .ok result := by
  rcases strategyFromDict_ok t.strategyParams with ⟨strategy, hstrategy⟩
  rcases resourcesOf_ok t.resources with ⟨resources, hresources⟩
  unfold transferDto
  rw [hstrategy, hresources, hfields]
  simp only [bind, Except.bind]
  constructor
  · rintro ⟨dto, hdto⟩
    split at hdto
    · cases hdto
    · rename_i result hresult
      exact ⟨result, hresult⟩
  · rintro ⟨result, hresult⟩
    rw [hresult]
    exact ⟨_, rfl⟩

/-- The fields of an object for a table. There are no options. -/
theorem construct_db (library : WorkerLibrary) (tableName : String) (hfile : type.isFile = false) :
    ∃ fields, construct (transferSignature library type) [("table_name", .str tableName)] =
      .ok fields ∧ fields.lookup "options" = some (.obj []) := by
  unfold transferSignature
  rw [if_neg (Bool.eq_false_iff.mp hfile)]
  by_cases hiceberg : type = .iceberg
  · rw [if_pos hiceberg]
    exact ⟨_, rfl, rfl⟩
  · rw [if_neg hiceberg]
    exact ⟨_, rfl, rfl⟩

/-- The object for a table. -/
theorem transferDto_db (t : Transfer) (groupName tableName : String) (hfile : type.isFile = false) :
    ∃ dto, transferDto library t groupName type [("table_name", .str tableName)] = .ok dto := by
  rcases construct_db library tableName hfile with ⟨fields, hfields, hoptions⟩
  refine (transferDto_iff_of_fields t groupName hfields).mpr ?_
  unfold postInit
  rw [if_neg (Bool.eq_false_iff.mp hfile), hoptions]
  exact ⟨_, rfl⟩

/-- The object for files, with or without a template for their names. -/
theorem transferDto_file_iff (t : Transfer) (groupName : String) {transferParams fields : Dict}
    {fileFormat : FileFormat} {options : Dict} (hfile : type.isFile = true)
    (hfields : construct (transferSignature library type) transferParams = .ok fields)
    (hformat : fields.lookup "file_format" = some (.obj fileFormat.modelDump))
    (hschema : fields.lookup "df_schema" = some .null)
    (hoptions : fields.lookup "options" = some (.obj options)) :
    (∃ dto, transferDto library t groupName type transferParams = .ok dto) ↔
      library.TakesFormat fileFormat := by
  rw [transferDto_iff_of_fields t groupName hfields, ← getFileFormat_iff]
  unfold postInit fileFormatField
  rw [if_pos hfile, hformat, hschema, hoptions]
  constructor
  · rintro ⟨result, hresult⟩
    cases hparsed : getFileFormat library fileFormat.modelDump with
    | ok parsed => exact ⟨parsed, rfl⟩
    | error e =>
        simp only [hparsed] at hresult
        cases hresult
  · rintro ⟨parsed, hparsed⟩
    simp only [hparsed]
    exact ⟨_, rfl⟩

/-- The parameters of a source become an object. -/
theorem transferDto_source_iff (t : Transfer) (groupName : String) {source : TransferSource} :
    (∃ dto, transferDto library t groupName source.modelDump.type source.modelDump.fields =
      .ok dto) ↔ source.Taken library := by
  cases source with
  | db type tableName =>
      exact iff_of_true (transferDto_db t groupName tableName type.property) trivial
  | file type directoryPath fileFormat options =>
      have hfields : ∃ fields, construct (transferSignature library type.val)
          (TransferSource.file type directoryPath fileFormat options).modelDump.fields =
            .ok fields ∧ fields.lookup "file_format" = some (.obj fileFormat.modelDump) ∧
          fields.lookup "df_schema" = some .null ∧
          fields.lookup "options" = some (.obj options) := by
        unfold transferSignature
        rw [if_pos type.property]
        exact ⟨_, rfl, rfl, rfl, rfl⟩
      rcases hfields with ⟨fields, hfields, hformat, hschema, hoptions⟩
      exact transferDto_file_iff t groupName type.property hfields hformat hschema hoptions

/-- The parameters of a target become an object. -/
theorem transferDto_target_iff (t : Transfer) (groupName : String) {target : TransferTarget} :
    (∃ dto, transferDto library t groupName target.modelDump.type target.modelDump.fields =
      .ok dto) ↔ target.Taken library := by
  cases target with
  | db type tableName =>
      exact iff_of_true (transferDto_db t groupName tableName type.property) trivial
  | file type directoryPath fileFormat fileNameTemplate options =>
      have hfields : ∃ fields, construct (transferSignature library type.val)
          (TransferTarget.file type directoryPath fileFormat fileNameTemplate
            options).modelDump.fields = .ok fields ∧
          fields.lookup "file_format" = some (.obj fileFormat.modelDump) ∧
          fields.lookup "df_schema" = some .null ∧
          fields.lookup "options" = some (.obj options) := by
        unfold transferSignature
        rw [if_pos type.property]
        exact ⟨_, rfl, rfl, rfl, rfl⟩
      rcases hfields with ⟨fields, hfields, hformat, hschema, hoptions⟩
      exact transferDto_file_iff t groupName type.property hfields hformat hschema hoptions

end Dumped

end SyncMaster
