import SyncMaster.Schemas.FileFormats

/-!
# Parameters of a Transfer

The schemas of `source_params` and `target_params`: a table of a database, or a
directory with a file format. A target of files has a template for their names
as well.

The types of databases share one schema, those of file storages share another
one, and the connection type selects it. The pattern of a table name depends on
the type for Iceberg only, whose tables may be in nested namespaces.

## Main definitions

* `TransferSource`, `TransferTarget`: The parameters.
* `tableNameIsQualified`, `directoryPathIsValidPath`: The validators that run
  before the value is known to be a string.
* `validateFileNameTemplate`: The validator of a template.
* `TransferSource.validate`, `TransferTarget.validate`: What accepts them.
* `BreaksLocation`, `BreaksTemplate`: What the validators cannot cope with.

## Theorems

* `raises_source`, `raises_target`: When an exception leaves the schemas.
-/

namespace SyncMaster

open Validated

def ConnectionType.value : ConnectionType → String
  | .postgres => "postgres"
  | .hive => "hive"
  | .iceberg => "iceberg"
  | .oracle => "oracle"
  | .clickhouse => "clickhouse"
  | .mssql => "mssql"
  | .mysql => "mysql"
  | .s3 => "s3"
  | .hdfs => "hdfs"
  | .sftp => "sftp"
  | .ftp => "ftp"
  | .ftps => "ftps"
  | .webdav => "webdav"
  | .samba => "samba"

/-- `CONNECTION_TYPES`. -/
def connectionTypes : List ConnectionType :=
  [.clickhouse, .hive, .iceberg, .mssql, .mysql, .oracle, .postgres,
    .ftp, .ftps, .hdfs, .s3, .samba, .sftp, .webdav]

/-- The stored parameters, with their type. -/
def Params.modelDump (params : Params) : Dict :=
  params.fields ++ [("type", .str params.type.value)]

abbrev DBType := { type : ConnectionType // type.isFile = false }

abbrev FileType := { type : ConnectionType // type.isFile = true }

inductive TransferSource where
  | db (type : DBType) (tableName : String)
  | file (type : FileType) (directoryPath : String) (fileFormat : FileFormat) (options : Dict)

inductive TransferTarget where
  | db (type : DBType) (tableName : String)
  | file (type : FileType) (directoryPath : String) (fileFormat : FileFormat)
      (fileNameTemplate : String) (options : Dict)

namespace TransferSource

/-- `model_dump(mode="json")`. -/
def modelDump : TransferSource → Params
  | db type tableName => ⟨type.val, [("table_name", .str tableName)]⟩
  | file type directoryPath fileFormat options =>
      ⟨type.val, [("directory_path", .str directoryPath),
        ("file_format", .obj fileFormat.modelDump), ("options", .obj options)]⟩

end TransferSource

namespace TransferTarget

/-- `model_dump(mode="json")`. -/
def modelDump : TransferTarget → Params
  | db type tableName => ⟨type.val, [("table_name", .str tableName)]⟩
  | file type directoryPath fileFormat fileNameTemplate options =>
      ⟨type.val, [("directory_path", .str directoryPath),
        ("file_format", .obj fileFormat.modelDump),
        ("file_name_template", .str fileNameTemplate), ("options", .obj options)]⟩

end TransferTarget

/-! ## Validators -/

/-- `TABLE_NAME_PATTERN`: two words with a dot between them, or more words for
    Iceberg. -/
def tableNamePattern (py : Python) (type : ConnectionType) (value : String) : Bool :=
  let (first, rest) := splitDots (beforeEnd value.toList)
  let isName := fun word : List Char => !word.isEmpty && word.all py.isWord
  isName first && rest.all isName &&
    (if type = .iceberg then !rest.isEmpty else rest.length == 1)

/-- `_table_name_is_qualified`. `re.match` takes nothing but strings. -/
def tableNameIsQualified (py : Python) (type : ConnectionType) : Json → Checked String
  | .str value => if tableNamePattern py type value then .ok value else .invalid
  | _ => .raised .typeError

/-- `_directory_path_is_valid_path`. `PurePosixPath` takes nothing but strings. -/
def directoryPathIsValidPath : Json → Checked String
  | .str value => if value.toList.head? = some '/' then .ok value else .invalid
  | _ => .raised .typeError

/-- `FILE_NAME_PATTERN`. -/
def fileNamePattern (py : Python) (value : String) : Bool :=
  let text := beforeEnd value.toList
  !text.isEmpty && text.all (fun c => py.isWord c || c == '.' || c == '{' || c == '}' || c == '-')

/-- `placeholder in value`, with its braces. -/
def hasPlaceholder (value name : String) : Bool :=
  decide (('{' :: name.toList ++ ['}']) <:+: value.toList)

/-- The arguments that the validator formats a template with. -/
def emptyPlaceholders : List (String × String) :=
  [("index", ""), ("extension", ""), ("run_created_at", ""), ("run_id", "")]

/-- The `format` at the end of the validator. Only a `KeyError` is caught, and
    of the others only a `ValueError` is an error of validation. -/
def tryFormat (py : Python) (value : String) : Checked String :=
  match py.format emptyPlaceholders value with
  | .ok _ => .ok value
  | .error .valueError | .error (.keyError _) => .invalid
  | .error (.indexError _) => .raised .indexError
  | .error (.attributeError name) => .raised (.attributeError name)

/-- The template has the characters and the placeholders that it needs. -/
def templateText (py : Python) (value : String) : Bool :=
  fileNamePattern py value && hasPlaceholder value "index" && hasPlaceholder value "extension" &&
    (hasPlaceholder value "run_id" || hasPlaceholder value "run_created_at")

/-- `_validate_file_name_template`. -/
def validateFileNameTemplate (py : Python) (value : String) : Checked String :=
  if templateText py value then tryFormat py value else .invalid

def defaultFileNameTemplate : String := "{run_created_at}-{index}.{extension}"

/-! ## Validation -/

section Validate

variable (py : Python) (pydantic : Pydantic)

namespace TransferSource

/-- The schema of the type, with its defaults. -/
def ofType (d : Dict) (type : ConnectionType) : Checked TransferSource :=
  if h : type.isFile = true then
    TransferSource.file ⟨type, h⟩ <$> field d "directory_path" directoryPathIsValidPath <*>
      field d "file_format" (FileFormat.validate pydantic sourceFileFormat) <*>
      fieldOr d "options" [] dict
  else
    TransferSource.db ⟨type, Bool.eq_false_iff.mpr h⟩ <$>
      field d "table_name" (tableNameIsQualified py type)

def validate : Json → Checked TransferSource :=
  tagged ConnectionType.value connectionTypes (fun type d => ofType py pydantic d type)

end TransferSource

namespace TransferTarget

/-- The schema of the type, with its defaults. -/
def ofType (d : Dict) (type : ConnectionType) : Checked TransferTarget :=
  if h : type.isFile = true then
    TransferTarget.file ⟨type, h⟩ <$> field d "directory_path" directoryPathIsValidPath <*>
      field d "file_format" (FileFormat.validate pydantic targetFileFormat) <*>
      fieldOr d "file_name_template" defaultFileNameTemplate
        (fun j => (str j).andThen (validateFileNameTemplate py)) <*>
      fieldOr d "options" [] dict
  else
    TransferTarget.db ⟨type, Bool.eq_false_iff.mpr h⟩ <$>
      field d "table_name" (tableNameIsQualified py type)

def validate : Json → Checked TransferTarget :=
  tagged ConnectionType.value connectionTypes (fun type d => ofType py pydantic d type)

end TransferTarget

end Validate

/-! ## Exceptions -/

section Raises

variable {py : Python} {pydantic : Pydantic} {d : Dict} {j : Json} {type : ConnectionType}

/-- A value that is not a string. -/
def NotText (j : Json) : Prop := ∀ s, j ≠ .str s

/-- `_table_name_is_qualified` raises on whatever is not a string. -/
theorem raises_tableNameIsQualified : (tableNameIsQualified py type j).Raises ↔ NotText j := by
  cases j with
  | str value =>
      exact iff_of_false (not_raises_ite (not_raises_ok value) not_raises_invalid)
        (fun h => h value rfl)
  | _ => exact iff_of_true (raises_raised _) (fun s h => nomatch h)

/-- So does `_directory_path_is_valid_path`. -/
theorem raises_directoryPathIsValidPath : (directoryPathIsValidPath j).Raises ↔ NotText j := by
  cases j with
  | str value =>
      exact iff_of_false (not_raises_ite (not_raises_ok value) not_raises_invalid)
        (fun h => h value rfl)
  | _ => exact iff_of_true (raises_raised _) (fun s h => nomatch h)

/-- The first piece of the template that cannot be rendered is a field for a
    positional argument, or one for an attribute that strings do not have. -/
def BreaksFormat (py : Python) (value : String) : Prop :=
  ∃ before name behind, pieces value = before ++ .field name :: behind ∧
    (∀ p ∈ before, ∃ text, py.pieceText emptyPlaceholders p = .ok text) ∧
    (py.Positional name ∨
      ∃ missing, py.fieldText emptyPlaceholders name = .error (.attributeError missing))

/-- Of the errors of `format`, two leave the validator. -/
theorem raises_tryFormat_iff_error {value : String} :
    (tryFormat py value).Raises ↔
      ∃ e, py.format emptyPlaceholders value = .error e ∧
        ((∃ index, e = .indexError index) ∨ ∃ missing, e = .attributeError missing) := by
  unfold tryFormat
  cases py.format emptyPlaceholders value with
  | ok text => exact iff_of_false (not_raises_ok value) (by simp)
  | error e =>
      cases e with
      | valueError => exact iff_of_false not_raises_invalid (by simp)
      | keyError key => exact iff_of_false not_raises_invalid (by simp)
      | indexError index => exact iff_of_true (raises_raised _) (by simp)
      | attributeError name => exact iff_of_true (raises_raised _) (by simp)

/-- A template that is accepted formats with empty strings. -/
theorem format_of_accepted {value : String} (h : validateFileNameTemplate py value = .ok value) :
    ∃ text, py.renderPieces emptyPlaceholders (pieces value) = .ok text := by
  unfold validateFileNameTemplate at h
  by_cases htext : templateText py value = true
  · rw [if_pos htext, tryFormat] at h
    cases hrender : py.renderPieces emptyPlaceholders (pieces value) with
    | ok text => exact ⟨text, rfl⟩
    | error e =>
        rw [Python.format_eq_error.mpr hrender] at h
        cases e <;> cases h
  · rw [if_neg htext] at h
    cases h

theorem fieldText_of_pieceText {kwargs : List (String × String)} {piece : Piece} {e : FormatError}
    (h : py.pieceText kwargs piece = .error e) :
    piece = .malformed ∧ e = .valueError ∨
      ∃ name, piece = .field name ∧ py.fieldText kwargs name = .error e := by
  cases piece with
  | literal c => cases h
  | malformed => exact Or.inl ⟨rfl, (Except.error.inj h).symm⟩
  | field name => exact Or.inr ⟨name, rfl, Python.pieceText_field_eq_error.mp h⟩

theorem raises_tryFormat {value : String} : (tryFormat py value).Raises ↔ BreaksFormat py value := by
  rw [raises_tryFormat_iff_error]
  constructor
  · intro h
    rcases h with ⟨e, herror, hcase⟩
    rcases Python.renderPieces_eq_error.mp (Python.format_eq_error.mp herror) with
      ⟨before, piece, behind, hpieces, hbefore, hpiece⟩
    -- Only the fields of a template can be in error like this, not its literal text.
    rcases fieldText_of_pieceText hpiece with ⟨_, hvalue⟩ | ⟨name, hname, hfield⟩
    · rw [hvalue] at hcase
      rcases hcase with ⟨_, h⟩ | ⟨_, h⟩
      · cases h
      · cases h
    · refine ⟨before, name, behind, hname ▸ hpieces, hbefore, ?_⟩
      rcases hcase with ⟨index, h⟩ | ⟨missing, h⟩
      · exact Or.inl (Python.fieldText_eq_indexError.mp ⟨index, h ▸ hfield⟩)
      · exact Or.inr ⟨missing, h ▸ hfield⟩
  · intro h
    rcases h with ⟨before, name, behind, hpieces, hbefore, hcase⟩
    have herror : ∀ e, py.fieldText emptyPlaceholders name = .error e →
        py.format emptyPlaceholders value = .error e := by
      intro e he
      exact Python.format_eq_error.mpr (Python.renderPieces_eq_error.mpr
        ⟨before, .field name, behind, hpieces, hbefore, Python.pieceText_field_eq_error.mpr he⟩)
    rcases hcase with hpositional | ⟨missing, hfield⟩
    · rcases Python.fieldText_eq_indexError.mpr hpositional with ⟨index, hfield⟩
      exact ⟨_, herror _ hfield, Or.inl ⟨index, rfl⟩⟩
    · exact ⟨_, herror _ hfield, Or.inr ⟨missing, rfl⟩⟩

/-- The field that the validators look at before anything else does. -/
def locationField (type : ConnectionType) : String :=
  if type.isFile then "directory_path" else "table_name"

/-- The parameters say where, but not with a string. -/
def BreaksLocation (j : Json) : Prop :=
  ∃ type d v, Tagged ConnectionType.value connectionTypes j type d ∧
    d.lookup (locationField type) = some v ∧ NotText v

/-- The parameters are for files, with a template that breaks `format`. -/
def BreaksTemplate (py : Python) (j : Json) : Prop :=
  ∃ type d value, Tagged ConnectionType.value connectionTypes j type d ∧ type.isFile = true ∧
    d.lookup "file_name_template" = some (.str value) ∧ templateText py value = true ∧
    BreaksFormat py value

/-- An exception leaves the schema of a source when its location is no string. -/
theorem raises_source_ofType :
    (TransferSource.ofType py pydantic d type).Raises ↔
      ∃ v, d.lookup (locationField type) = some v ∧ NotText v := by
  unfold TransferSource.ofType locationField
  by_cases hfile : type.isFile = true
  · have hformat : ¬ (field d "file_format"
        (FileFormat.validate pydantic sourceFileFormat)).Raises :=
      not_raises_field (FileFormat.not_raises_validate _ _)
    have hoptions : ¬ (fieldOr d "options" [] dict).Raises := not_raises_fieldOr not_raises_dict
    rw [dif_pos hfile, if_pos hfile, raises_seq, raises_seq, raises_map, raises_field,
      or_iff_left hoptions, or_iff_left hformat]
    simp only [raises_directoryPathIsValidPath]
  · rw [dif_neg hfile, if_neg hfile, raises_map, raises_field]
    simp only [raises_tableNameIsQualified]

theorem raises_source :
    (TransferSource.validate py pydantic j).Raises ↔ BreaksLocation j := by
  unfold TransferSource.validate BreaksLocation
  rw [raises_tagged]
  simp only [raises_source_ofType]
  constructor
  · intro h
    rcases h with ⟨type, d, htag, v, hv⟩
    exact ⟨type, d, v, htag, hv⟩
  · intro h
    rcases h with ⟨type, d, v, htag, hv⟩
    exact ⟨type, d, htag, v, hv⟩

theorem raises_template {value : String} :
    (validateFileNameTemplate py value).Raises ↔
      templateText py value = true ∧ BreaksFormat py value := by
  unfold validateFileNameTemplate
  by_cases h : templateText py value = true
  · rw [if_pos h, raises_tryFormat, and_iff_right h]
  · rw [if_neg h]
    exact iff_of_false not_raises_invalid (fun hboth => h hboth.1)

/-- An exception leaves the schema of a target for the same reason, or for its
    template. -/
theorem raises_target_ofType :
    (TransferTarget.ofType py pydantic d type).Raises ↔
      (∃ v, d.lookup (locationField type) = some v ∧ NotText v) ∨
        ∃ value, type.isFile = true ∧ d.lookup "file_name_template" = some (.str value) ∧
          templateText py value = true ∧ BreaksFormat py value := by
  unfold TransferTarget.ofType locationField
  by_cases hfile : type.isFile = true
  · have hformat : ¬ (field d "file_format"
        (FileFormat.validate pydantic targetFileFormat)).Raises :=
      not_raises_field (FileFormat.not_raises_validate _ _)
    have hoptions : ¬ (fieldOr d "options" [] dict).Raises := not_raises_fieldOr not_raises_dict
    have htemplate : (fieldOr d "file_name_template" defaultFileNameTemplate
        (fun j => (str j).andThen (validateFileNameTemplate py))).Raises ↔
        ∃ value, d.lookup "file_name_template" = some (.str value) ∧
          templateText py value = true ∧ BreaksFormat py value := by
      rw [raises_fieldOr]
      constructor
      · intro h
        rcases h with ⟨v, hv, hraises⟩
        rcases raises_andThen.mp hraises with hstr | ⟨value, hvalue, hraises⟩
        · exact absurd hstr (not_raises_str v)
        · exact ⟨value, str_eq_ok.mp hvalue ▸ hv, raises_template.mp hraises⟩
      · intro h
        rcases h with ⟨value, hvalue, hbreaks⟩
        exact ⟨.str value, hvalue,
          raises_andThen.mpr (Or.inr ⟨value, rfl, raises_template.mpr hbreaks⟩)⟩
    rw [dif_pos hfile, if_pos hfile, raises_seq, raises_seq, raises_seq, raises_map, raises_field,
      or_iff_left hoptions, or_iff_left hformat, htemplate]
    simp only [raises_directoryPathIsValidPath, hfile, true_and]
  · rw [dif_neg hfile, if_neg hfile, raises_map, raises_field]
    simp only [raises_tableNameIsQualified, hfile, false_and, exists_false, or_false,
      Bool.false_eq_true]

theorem raises_target :
    (TransferTarget.validate py pydantic j).Raises ↔ BreaksLocation j ∨ BreaksTemplate py j := by
  unfold TransferTarget.validate BreaksLocation BreaksTemplate
  rw [raises_tagged]
  simp only [raises_target_ofType]
  constructor
  · intro h
    rcases h with ⟨type, d, htag, ⟨v, hv⟩ | ⟨value, hvalue⟩⟩
    · exact Or.inl ⟨type, d, v, htag, hv⟩
    · exact Or.inr ⟨type, d, value, htag, hvalue⟩
  · intro h
    rcases h with ⟨type, d, v, htag, hv⟩ | ⟨type, d, value, htag, hvalue⟩
    · exact ⟨type, d, htag, Or.inl ⟨v, hv⟩⟩
    · exact ⟨type, d, htag, Or.inr ⟨value, hvalue⟩⟩

end Raises

end SyncMaster
