import SyncMaster.Db.Models

/-!
# Request and Response Schemas

The bodies of the requests, after validation. A schema whose validator relates
fields to one another carries the outcome of that validator as a field, so a
body that the validator refuses cannot be built.

The credentials schemas come in three kinds for each auth type. `Update`
schemas list the secrets that a request may leave out (`getSecretFields`), and
`Read` schemas are what a response or a run dump keeps: everything but the
secrets.

## Main definitions

* `NameConstr`, `QueueName`: The constrained strings.
* `AuthType.secretFields`, `AuthType.readFields`: The fields of the schemas.
* `readAuthData`: Credentials as a `Read` schema dumps them.
* `CreateConnectionSchema.FitsColumns` and its siblings: The columns take the body.
* `validateScheduling`, `validateStrategy`: The validators of a transfer.
* `CreateQueueSchema.slug`: The slug of a queue.

## Theorems

* `fits_queueName`: The name of a queue fits its column.
* `not_mem_readFields_of_secret`: No `Read` schema keeps a secret.
-/

namespace SyncMaster

/-! ## Constrained strings -/

def validName (s : String) : Bool :=
  decide (3 ≤ s.length ∧ s.length ≤ 128)

abbrev NameConstr := { s : String // validName s = true }

/-- A name fits its column, if it has no NUL. -/
theorem fits_name_iff {name : NameConstr} : Fits name.val 128 ↔ NulFree name.val :=
  and_iff_right (of_decide_eq_true name.property).2

/-- `ALLOWED_PATTERN`: printable ASCII; the final `$` also matches before a
    newline that ends the string. -/
def allowedChars : List Char → Bool
  | [] => false
  | [c] => decide (' ' ≤ c ∧ c ≤ '~')
  | [c, '\n'] => decide (' ' ≤ c ∧ c ≤ '~')
  | c :: cs => decide (' ' ≤ c ∧ c ≤ '~') && allowedChars cs

abbrev QueueName := { s : String // validName s = true ∧ allowedChars s.toList = true }

/-- A newline and printable characters are no NUL. -/
theorem nul_not_mem_of_allowedChars {cs : List Char} (h : allowedChars cs = true) : nul ∉ cs := by
  have hprintable : ∀ c : Char, decide (' ' ≤ c ∧ c ≤ '~') = true → nul ≠ c := by
    rintro c hc rfl
    exact absurd (of_decide_eq_true hc).1 (by decide)
  fun_induction allowedChars cs with
  | case1 => cases h
  | case2 c => exact fun hmem => hprintable c h (List.mem_singleton.mp hmem)
  | case3 c =>
      intro hmem
      rcases List.mem_cons.mp hmem with heq | hmem
      · exact hprintable c h heq
      · exact absurd (List.mem_singleton.mp hmem) (by decide)
  | case4 c cs _ _ ih =>
      rcases Bool.and_eq_true_iff.mp h with ⟨hc, hcs⟩
      intro hmem
      rcases List.mem_cons.mp hmem with heq | hmem
      · exact hprintable c hc heq
      · exact ih hcs hmem

/-- The name of a queue fits its column. -/
theorem fits_queueName (name : QueueName) : Fits name.val 128 :=
  ⟨(of_decide_eq_true name.property.1).2, nul_not_mem_of_allowedChars name.property.2⟩

/-! ## Credentials -/

/-- `get_secret_fields` of the `Update` schemas. -/
def AuthType.secretFields : AuthType → List String
  | .basic => ["password"]
  | .s3 => ["secret_key"]
  | .samba => ["password"]
  | .icebergRestBearer => ["rest_catalog_token"]
  | .icebergRestOauth2ClientCredentials => ["rest_catalog_oauth2_client_secret"]
  | .icebergRestBearerS3Basic => ["rest_catalog_token", "s3_secret_key"]
  | .icebergRestOauth2ClientCredentialsS3Basic =>
      ["rest_catalog_oauth2_client_secret", "s3_secret_key"]

/-- The fields of the OAuth2 schemas that are not secret. -/
def oauth2ReadFields : List String :=
  ["rest_catalog_oauth2_client_id", "rest_catalog_oauth2_scopes",
    "rest_catalog_oauth2_resource", "rest_catalog_oauth2_audience",
    "rest_catalog_oauth2_token_endpoint"]

/-- The fields of the `Read` schemas, the type apart. -/
def AuthType.readFields : AuthType → List String
  | .basic => ["user"]
  | .s3 => ["access_key"]
  | .samba => ["user", "auth_type"]
  | .icebergRestBearer => []
  | .icebergRestOauth2ClientCredentials => oauth2ReadFields
  | .icebergRestBearerS3Basic => ["s3_access_key"]
  | .icebergRestOauth2ClientCredentialsS3Basic => oauth2ReadFields ++ ["s3_access_key"]

/-- Credentials validated and dumped by the `Read` schema of their type, which
    ignores the fields it does not have. -/
def readAuthData (value : AuthValue) : AuthValue :=
  { value with fields := value.fields.filter (fun kv => value.type.readFields.contains kv.1) }

theorem not_mem_readFields_of_secret (type : AuthType) :
    ∀ field ∈ type.secretFields, field ∉ type.readFields := by
  cases type <;> decide

/-! ## Connections -/

structure CreateConnectionSchema where
  groupId : Id
  name : NameConstr
  description : String
  type : ConnectionType
  data : Dict
  authData : AuthValue

/-- As `CreateConnectionSchema`, but the secrets of `authData` may be null. -/
abbrev UpdateConnectionSchema := CreateConnectionSchema

/-- The columns take what the schema accepts. The name it bounds itself. -/
structure CreateConnectionSchema.FitsColumns (body : CreateConnectionSchema) : Prop where
  name : NulFree body.name.val
  description : Storable body.description 512
  data : (Json.obj body.data).Searchable

structure ConnectionCopySchema where
  newGroupId : Id
  newName : Option NameConstr := none
  removeSource : Bool := false

structure ReadConnectionSchema where
  id : Id
  groupId : Id
  name : String
  description : String
  type : ConnectionType
  data : Dict
  authData : Option AuthValue

/-! ## Queues -/

/-- `RESTRICTED_PATTERN.sub("_", ...)`: each maximal run of characters that are
    neither letters nor digits becomes one underscore. -/
def replaceRestricted : List Char → List Char
  | [] => []
  | c :: cs =>
      if c.isAlphanum then c :: replaceRestricted cs
      else match cs with
        | [] => ['_']
        | d :: _ => if d.isAlphanum then '_' :: replaceRestricted cs else replaceRestricted cs

/-- `str.strip("_")`. -/
def stripUnderscores (cs : List Char) : List Char :=
  ((cs.dropWhile (· == '_')).reverse.dropWhile (· == '_')).reverse

structure CreateQueueSchema where
  name : QueueName
  groupId : Id
  description : String := ""

/-- The computed field `slug`. The name is ASCII, so lowering it is lowering
    each character. -/
def CreateQueueSchema.slug (queueData : CreateQueueSchema) : String :=
  let shortName := stripUnderscores
    (replaceRestricted (queueData.name.val.toList.map Char.toLower))
  toString queueData.groupId ++ "-" ++ String.ofList shortName

structure UpdateQueueSchema where
  name : QueueName
  description : String := ""

/-! ## Groups -/

structure CreateGroupSchema where
  name : NameConstr
  description : String

/-- The columns take what the schema accepts. -/
structure CreateGroupSchema.FitsColumns (body : CreateGroupSchema) : Prop where
  name : NulFree body.name.val
  description : Storable body.description 512

structure UpdateGroupSchema extends CreateGroupSchema where
  ownerId : Id

/-- A role that a member can be given. -/
structure AddUserSchema where
  role : GroupMemberRole
  isPublic : role.isPublicRole = true

/-! ## Transfers -/

/-- `FILE_CONNECTION_TYPES`. -/
def ConnectionType.isFile : ConnectionType → Bool
  | .ftp | .ftps | .hdfs | .s3 | .samba | .sftp | .webdav => true
  | .postgres | .hive | .iceberg | .oracle | .clickhouse | .mssql | .mysql => false

/-- `CreateTransferSchema.validate_scheduling`. -/
def validateScheduling (isScheduled : Bool) (value : Option String) :
    Except String (Option String) :=
  let given := value.filter (fun s => s != "")
  if given.isNone && isScheduled then
    .error "If transfer must be scheduled then set schedule"
  else .ok given

/-- `CreateTransferSchema.validate_strategy`. -/
def validateStrategy (sourceParams : Params) (value : Strategy) : Except String Strategy :=
  match value with
  | .full => .ok .full
  | .incremental incrementBy =>
      if sourceParams.type = .s3 ∨ sourceParams.type = .hdfs then
        .error "S3 and HDFS sources do not support incremental strategy for now"
      else if sourceParams.type.isFile ∧
          ¬ (incrementBy = "file_modified_since" ∨ incrementBy = "file_name") then
        .error ("Field 'increment_by' must be equal to 'file_modified_since' or 'file_name' "
          ++ "for file source types")
      else .ok value

structure CreateTransferSchema where
  groupId : Id
  queueId : Id
  sourceConnectionId : Id
  targetConnectionId : Id
  name : NameConstr
  description : String := ""
  sourceParams : Params
  targetParams : Params
  strategyParams : Strategy := .full
  transformations : List Json := []
  resources : Resources := {}
  isScheduled : Bool := false
  schedule : Option String := none
  schedulingValid : validateScheduling isScheduled schedule = .ok schedule
  strategyValid : validateStrategy sourceParams strategyParams = .ok strategyParams

/-- The columns take what the schema accepts. -/
structure CreateTransferSchema.FitsColumns (body : CreateTransferSchema) : Prop where
  name : NulFree body.name.val
  description : Storable body.description 512
  schedule : Storable (body.schedule.getD "") 32
  sourceParams : (Json.obj body.sourceParams.fields).Searchable
  targetParams : (Json.obj body.targetParams.fields).Searchable
  transformations : (Json.arr body.transformations).Finite

structure CopyTransferSchema where
  newGroupId : Id
  newQueueId : Id
  newSourceConnectionName : Option NameConstr := none
  newTargetConnectionName : Option NameConstr := none
  newName : Option NameConstr := none
  removeSource : Bool := false

/-! ## Runs -/

structure CreateRunSchema where
  transferId : Id

end SyncMaster
