import SyncMaster.Library.Assoc
import SyncMaster.Schemas.Connections

/-!
# Connection DTOs

What the worker makes of the data and the credentials of a connection.

The worker does not read them through the schemas that wrote them. It merges
the two dictionaries and passes the result to the constructor of a dataclass as
keyword arguments, so a field that one side has and the other does not is an
exception. The class follows from the connection type, for Iceberg also from
which of two keys are there.

What the constructor is given depends on the schemas only through the names of
their fields. `namesFit` compares the names for every combination of data and
credentials that the schemas accept, and everything else follows from what
merging does to a lookup.

## Main definitions

* `ConnectionDTOClass`: The dataclasses, with their signatures.
* `dtoClass`: The class that the worker chooses.
* `ConnectionSchema.variant`: The class that is meant for what is stored.
* `Decodes`: The fields of the object are those that are stored.

## Theorems

* `namesFit`: The names of the fields on both sides.
* `dtoClass_eq_variant`: The worker chooses the class that is meant.
* `construct_decodes`: Construction succeeds, and loses and adds nothing.
-/

namespace SyncMaster

open Assoc

inductive ConnectionDTOClass where
  | postgres | clickhouse | mssql | mysql | oracle | hive
  | icebergBearerS3Basic | icebergOauth2S3Basic
  | icebergBearerS3Delegated | icebergOauth2S3Delegated
  | hdfs | s3 | sftp | ftp | ftps | samba | webdav
  deriving DecidableEq, Repr

/-- A field of a dataclass without a default. -/
def required (name : String) : String × Option Json := (name, none)

/-- A field of a dataclass with a default. -/
def optional (name : String) (default : Json) : String × Option Json := (name, some default)

/-! ## Signatures -/

/-- The fields that all classes with a server begin with. -/
def serverFields : List (String × Option Json) :=
  [required "host", required "port", required "user", required "password"]

/-- `IcebergRESTCatalogS3DirectConnectionBaseDTO`. -/
def icebergDirectFields : List (String × Option Json) :=
  [required "rest_catalog_url", required "s3_warehouse_path", required "s3_host",
    required "s3_bucket", required "s3_bucket_style", required "s3_region",
    required "s3_access_key", required "s3_secret_key", required "s3_port",
    required "s3_protocol", optional "s3_additional_params" (.obj [])]

/-- `IcebergRESTCatalogS3DelegatedConnectionBaseDTO`. -/
def icebergDelegatedFields : List (String × Option Json) :=
  [required "rest_catalog_url", optional "s3_warehouse_name" .null,
    optional "s3_access_delegation" (.str "vended-credentials")]

def bearerFields : List (String × Option Json) :=
  [required "rest_catalog_token", optional "rest_catalog_auth_type" (.str "bearer")]

def oauth2Fields : List (String × Option Json) :=
  [required "rest_catalog_oauth2_client_id", required "rest_catalog_oauth2_client_secret",
    required "rest_catalog_oauth2_scopes", optional "rest_catalog_oauth2_resource" .null,
    optional "rest_catalog_oauth2_audience" .null,
    optional "rest_catalog_oauth2_token_endpoint" .null,
    optional "rest_catalog_auth_type" (.str "oauth2")]

namespace ConnectionDTOClass

/-- The fields of the dataclass. -/
def signature : ConnectionDTOClass → Signature String Json
  | postgres | mssql =>
      ⟨serverFields ++ [required "database_name", optional "additional_params" (.obj [])]⟩
  | clickhouse | mysql =>
      ⟨serverFields ++ [optional "database_name" .null, optional "additional_params" (.obj [])]⟩
  | oracle =>
      ⟨serverFields ++ [optional "additional_params" (.obj []), optional "sid" .null,
        optional "service_name" .null]⟩
  | hive | hdfs => ⟨[required "user", required "password", required "cluster"]⟩
  | icebergBearerS3Basic => ⟨icebergDirectFields ++ bearerFields⟩
  | icebergOauth2S3Basic => ⟨icebergDirectFields ++ oauth2Fields⟩
  | icebergBearerS3Delegated => ⟨icebergDelegatedFields ++ bearerFields⟩
  | icebergOauth2S3Delegated => ⟨icebergDelegatedFields ++ oauth2Fields⟩
  | s3 =>
      ⟨[required "host", required "port", required "access_key", required "secret_key",
        required "bucket", required "bucket_style", required "region",
        optional "additional_params" (.obj []), optional "protocol" (.str "https")]⟩
  | sftp | ftp | ftps => ⟨serverFields⟩
  | samba =>
      ⟨[required "host", required "share", required "user", required "password",
        optional "protocol" (.str "SMB"), optional "auth_type" (.str "NTLMv2"),
        optional "domain" (.str ""), optional "port" .null]⟩
  | webdav => ⟨serverFields ++ [optional "protocol" (.str "https")]⟩

end ConnectionDTOClass

/-- An object of a dataclass. -/
structure ConnectionDTO where
  cls : ConnectionDTOClass
  fields : Dict

/-- The constructor of a dataclass. -/
def ConnectionDTOClass.construct (cls : ConnectionDTOClass) (kwargs : Dict) :
    Except (BindError String) ConnectionDTO :=
  (cls.signature.bind kwargs).map (ConnectionDTO.mk cls)

/-- `key in data`. -/
def hasKey (data : Dict) (key : String) : Bool := (data.lookup key).isSome

/-- `get_iceberg_connection_dto`, as far as the class. -/
def icebergDtoClass (data : Dict) : ConnectionDTOClass :=
  if hasKey data "s3_warehouse_path" then
    if hasKey data "rest_catalog_oauth2_client_id" then .icebergOauth2S3Basic
    else .icebergBearerS3Basic
  else
    if hasKey data "rest_catalog_oauth2_client_id" then .icebergOauth2S3Delegated
    else .icebergBearerS3Delegated

/-- The class in `connection_handler_proxy`. -/
def dtoClass (data : Dict) : ConnectionType → ConnectionDTOClass
  | .iceberg => icebergDtoClass data
  | .postgres => .postgres
  | .hive => .hive
  | .oracle => .oracle
  | .clickhouse => .clickhouse
  | .mssql => .mssql
  | .mysql => .mysql
  | .s3 => .s3
  | .hdfs => .hdfs
  | .sftp => .sftp
  | .ftp => .ftp
  | .ftps => .ftps
  | .webdav => .webdav
  | .samba => .samba

/-! ## What is meant -/

/-- The credentials are for a catalog with OAuth2. -/
def AuthType.isOauth2 : AuthType → Bool
  | .icebergRestOauth2ClientCredentials | .icebergRestOauth2ClientCredentialsS3Basic => true
  | _ => false

/-- The class for data and credentials that are stored. -/
def storedVariant (data : ConnectionDataSchema) (authType : AuthType) : ConnectionDTOClass :=
  match data with
  | .icebergRestS3Direct .. =>
      if authType.isOauth2 then .icebergOauth2S3Basic else .icebergBearerS3Basic
  | .icebergRestS3Delegated .. =>
      if authType.isOauth2 then .icebergOauth2S3Delegated else .icebergBearerS3Delegated
  | .clickhouse .. => .clickhouse
  | .hive .. => .hive
  | .mssql .. => .mssql
  | .mysql .. => .mysql
  | .oracle .. => .oracle
  | .postgres .. => .postgres
  | .ftp .. => .ftp
  | .ftps .. => .ftps
  | .hdfs .. => .hdfs
  | .s3 .. => .s3
  | .samba .. => .samba
  | .sftp .. => .sftp
  | .webdav .. => .webdav

namespace ConnectionSchema

variable (schema : ConnectionSchema String)

def variant : ConnectionDTOClass := storedVariant schema.data schema.authData.type

/-- The stored data, without the discriminator that Iceberg has. -/
def dataField (key : String) : Option Json :=
  if key = "type" then none else schema.data.modelDump.lookup key

/-- The stored credentials. -/
def authField (key : String) : Option Json :=
  (CreateAuthSchema.modelDump schema.authData).fields.lookup key

end ConnectionSchema

/-- The object is of the class that is meant, with the fields that are stored. -/
structure Decodes (schema : ConnectionSchema String) (dto : ConnectionDTO) : Prop where
  cls : dto.cls = schema.variant
  data : ∀ key value, schema.dataField key = some value → dto.fields.lookup key = some value
  authData : ∀ key value, schema.authField key = some value → dto.fields.lookup key = some value
  /-- One field is not stored: the class sets it. -/
  fields : ∀ key value, dto.fields.lookup key = some value →
    schema.dataField key = some value ∨ schema.authField key = some value ∨
      (key = "rest_catalog_auth_type" ∧
        value = .str (if schema.authData.type.isOauth2 then "oauth2" else "bearer"))

/-! ## Names of fields -/

/-- The names that are stored are those that the constructor takes, and it takes
    all of them that it needs. -/
structure NamesFit (dataNames authNames : List String) (sig : Signature String Json) : Prop where
  data : ∀ key ∈ dataNames, key = "type" ∨ key ∈ sig.names
  authData : ∀ key ∈ authNames, key ≠ "type" ∧ key ∈ sig.names
  disjoint : ∀ key ∈ authNames, key ∉ dataNames
  required : ∀ key ∈ sig.required, key ∈ dataNames ∨ key ∈ authNames
  stored : ∀ key ∈ sig.names, key ≠ "type" ∧
    (key ∈ dataNames ∨ key ∈ authNames ∨ key = "rest_catalog_auth_type")
  names : sig.names.Nodup

instance (dataNames authNames : List String) (sig : Signature String Json) :
    Decidable (NamesFit dataNames authNames sig) :=
  decidable_of_iff
    ((∀ key ∈ dataNames, key = "type" ∨ key ∈ sig.names) ∧
      (∀ key ∈ authNames, key ≠ "type" ∧ key ∈ sig.names) ∧
      (∀ key ∈ authNames, key ∉ dataNames) ∧
      (∀ key ∈ sig.required, key ∈ dataNames ∨ key ∈ authNames) ∧
      (∀ key ∈ sig.names, key ≠ "type" ∧
        (key ∈ dataNames ∨ key ∈ authNames ∨ key = "rest_catalog_auth_type")) ∧
      sig.names.Nodup)
    ⟨fun h => ⟨h.1, h.2.1, h.2.2.1, h.2.2.2.1, h.2.2.2.2.1, h.2.2.2.2.2⟩,
      fun h => ⟨h.data, h.authData, h.disjoint, h.required, h.stored, h.names⟩⟩

/-- The names in the dump of connection data. -/
def ConnectionDataSchema.fieldNames : ConnectionDataSchema → List String
  | clickhouse .. | mssql .. | mysql .. | postgres .. =>
      ["host", "port", "database_name", "additional_params"]
  | hive .. | hdfs .. => ["cluster"]
  | icebergRestS3Direct .. =>
      ["type", "rest_catalog_url", "s3_warehouse_path", "s3_host", "s3_port", "s3_protocol",
        "s3_bucket", "s3_region", "s3_bucket_style", "s3_additional_params"]
  | icebergRestS3Delegated .. =>
      ["type", "rest_catalog_url", "s3_warehouse_name", "s3_access_delegation"]
  | oracle .. => ["host", "port", "service_name", "sid", "additional_params"]
  | ftp .. | ftps .. | sftp .. => ["host", "port"]
  | s3 .. => ["host", "bucket", "protocol", "region", "port", "bucket_style", "additional_params"]
  | samba .. => ["host", "share", "port", "protocol", "domain"]
  | webdav .. => ["host", "port", "protocol"]

theorem keys_modelDump (data : ConnectionDataSchema) : keys data.modelDump = data.fieldNames := by
  cases data <;> rfl

/-- Which credentials are for S3 as well. -/
theorem mentionsS3_iff (authType : AuthType) :
    authType.mentionsS3 = true ↔ authType = .s3 ∨ authType = .icebergRestBearerS3Basic ∨
      authType = .icebergRestOauth2ClientCredentialsS3Basic := by
  cases authType <;> decide +kernel

/-- The credentials for data of Iceberg, by the storage. -/
theorem iceberg_authType {data : ConnectionDataSchema} {authType : AuthType}
    (hiceberg : data.type = .iceberg) (hunion : authType ∈ data.type.authTypes) :
    (authType.mentionsS3 = true ∧ (authType = .icebergRestBearerS3Basic ∨
      authType = .icebergRestOauth2ClientCredentialsS3Basic)) ∨
    (authType.mentionsS3 = false ∧ (authType = .icebergRestBearer ∨
      authType = .icebergRestOauth2ClientCredentials)) := by
  rw [hiceberg] at hunion
  have hs3 := mentionsS3_iff authType
  cases authType with
  | basic | s3 | samba => exact absurd hunion (by decide)
  | icebergRestBearerS3Basic => exact Or.inl ⟨hs3.mpr (by decide), Or.inl rfl⟩
  | icebergRestOauth2ClientCredentialsS3Basic => exact Or.inl ⟨hs3.mpr (by decide), Or.inr rfl⟩
  | icebergRestBearer =>
      exact Or.inr ⟨Bool.eq_false_iff.mpr (fun h => absurd (hs3.mp h) (by decide)), Or.inl rfl⟩
  | icebergRestOauth2ClientCredentials =>
      exact Or.inr ⟨Bool.eq_false_iff.mpr (fun h => absurd (hs3.mp h) (by decide)), Or.inr rfl⟩

/-- Data and credentials have the names that the class takes. -/
theorem namesFit {data : ConnectionDataSchema} {authType : AuthType}
    (hunion : authType ∈ data.type.authTypes)
    (hmatch : connectionAndAuthDataMatch data authType = .ok ()) :
    NamesFit data.fieldNames authType.fieldNames (storedVariant data authType).signature := by
  cases data with
  | icebergRestS3Direct =>
      rcases iceberg_authType rfl hunion with ⟨_, hauth⟩ | ⟨hs3, _⟩
      · rcases hauth with hauth | hauth
        · rw [hauth]
          simp only [ConnectionDataSchema.fieldNames, storedVariant]
          decide
        · rw [hauth]
          simp only [ConnectionDataSchema.fieldNames, storedVariant]
          decide
      -- Credentials for the other kind of catalog do not pass the validator.
      · simp only [connectionAndAuthDataMatch, hs3, Bool.false_eq_true, if_false, reduceCtorEq]
          at hmatch
  | icebergRestS3Delegated =>
      rcases iceberg_authType rfl hunion with ⟨hs3, _⟩ | ⟨_, hauth⟩
      · simp only [connectionAndAuthDataMatch, hs3, if_true, reduceCtorEq] at hmatch
      · rcases hauth with hauth | hauth
        · rw [hauth]
          simp only [ConnectionDataSchema.fieldNames, storedVariant]
          decide
        · rw [hauth]
          simp only [ConnectionDataSchema.fieldNames, storedVariant]
          decide
  | _ =>
      have hauth := List.mem_singleton.mp hunion
      rw [hauth]
      simp only [ConnectionDataSchema.fieldNames, storedVariant]
      decide

/-- The one field that is not stored has its value from the class. -/
theorem lookup_authType {data : ConnectionDataSchema} {authType : AuthType} {default : Option Json}
    (hunion : authType ∈ data.type.authTypes)
    (h : (storedVariant data authType).signature.parameters.lookup "rest_catalog_auth_type" =
      some default) :
    default = some (.str (if authType.isOauth2 then "oauth2" else "bearer")) := by
  cases data with
  | icebergRestS3Direct | icebergRestS3Delegated =>
      unfold storedVariant at h
      by_cases hoauth2 : authType.isOauth2 = true
      · simp only [hoauth2, if_true] at h ⊢
        exact (Option.some.inj h).symm
      · simp only [hoauth2] at h ⊢
        exact (Option.some.inj h).symm
  | _ => cases h

/-! ## Construction -/

section Construct

variable (schema : ConnectionSchema String)

theorem isSome_authField (key : String) :
    (schema.authField key).isSome = true ↔ key ∈ schema.authData.type.fieldNames := by
  have hkeys : keys (CreateAuthSchema.modelDump schema.authData).fields =
      schema.authData.type.fieldNames := schema.authData.keys_fields Json.str
  rw [← hkeys]
  exact isSome_lookup

theorem isSome_dataField (key : String) :
    (schema.dataField key).isSome = true ↔ key ≠ "type" ∧ key ∈ schema.data.fieldNames := by
  unfold ConnectionSchema.dataField
  by_cases hkey : key = "type"
  · rw [if_pos hkey]
    exact iff_of_false Bool.false_ne_true (fun h => h.1 hkey)
  · rw [if_neg hkey, ← keys_modelDump, and_iff_right hkey]
    exact isSome_lookup

/-- The keyword arguments are what is stored. -/
def Stored (kwargs : Dict) : Prop :=
  ∀ key, kwargs.lookup key = (schema.authField key).or (schema.dataField key)

variable {schema} {kwargs : Dict}

theorem isSome_stored (h : Stored schema kwargs) (key : String) :
    hasKey kwargs key = true ↔ key ∈ schema.authData.type.fieldNames ∨
      (key ≠ "type" ∧ key ∈ schema.data.fieldNames) := by
  unfold hasKey
  rw [h key, Option.isSome_or, Bool.or_eq_true, isSome_authField, isSome_dataField]

/-- The key that tells the catalogs apart is there for one of them. -/
theorem hasKey_clientId (h : Stored schema kwargs) (hiceberg : schema.data.type = .iceberg) :
    hasKey kwargs "rest_catalog_oauth2_client_id" = schema.authData.type.isOauth2 := by
  rw [Bool.eq_iff_iff, isSome_stored h]
  have hdata : "rest_catalog_oauth2_client_id" ∉ schema.data.fieldNames := by
    cases hd : schema.data with
    | icebergRestS3Direct | icebergRestS3Delegated =>
        simp only [ConnectionDataSchema.fieldNames]
        decide
    | _ =>
        rw [hd] at hiceberg
        cases hiceberg
  rw [or_iff_left (fun hboth => hdata hboth.2)]
  rcases iceberg_authType hiceberg schema.inUnion with ⟨_, hauth | hauth⟩ | ⟨_, hauth | hauth⟩
  all_goals
    rw [hauth]
    decide

/-- The worker chooses the class that is meant. -/
theorem dtoClass_eq_variant (h : Stored schema kwargs) :
    dtoClass kwargs schema.data.type = schema.variant := by
  have hkey := isSome_stored h "s3_warehouse_path"
  have hclient := hasKey_clientId h
  -- No credentials have the key that tells the storages apart.
  have hauth : "s3_warehouse_path" ∉ schema.authData.type.fieldNames := by
    cases schema.authData.type <;> decide
  rw [or_iff_right hauth] at hkey
  unfold ConnectionSchema.variant
  cases hdata : schema.data with
  | icebergRestS3Direct =>
      rw [hdata] at hkey hclient
      have hpath : hasKey kwargs "s3_warehouse_path" = true := by
        rw [hkey]
        simp only [ConnectionDataSchema.fieldNames]
        decide
      simp only [dtoClass, ConnectionDataSchema.type, icebergDtoClass, storedVariant, hpath,
        hclient rfl, if_true]
  | icebergRestS3Delegated =>
      rw [hdata] at hkey hclient
      have hpath : hasKey kwargs "s3_warehouse_path" = false := by
        rw [Bool.eq_false_iff, ne_eq, hkey]
        simp only [ConnectionDataSchema.fieldNames]
        decide
      simp only [dtoClass, ConnectionDataSchema.type, icebergDtoClass, storedVariant, hpath,
        hclient rfl, Bool.false_eq_true, if_false]
  | _ => rfl

/-- Construction succeeds, and loses and adds nothing. -/
theorem construct_decodes (h : Stored schema kwargs) :
    ∃ dto, schema.variant.construct kwargs = .ok dto ∧ Decodes schema dto := by
  have hfit : NamesFit schema.data.fieldNames schema.authData.type.fieldNames
      schema.variant.signature := namesFit schema.inUnion schema.dataMatch
  have hkey := isSome_stored h
  have hbind : schema.variant.signature.bind kwargs =
      .ok (schema.variant.signature.bound kwargs) := by
    -- Python binds the call: each argument is a parameter, each required parameter an argument.
    refine Signature.bind_eq_ok (fun key hsome => ?_) (fun key hrequired => ?_)
    · rcases (hkey key).mp hsome with hauth | ⟨htype, hdata⟩
      · exact (hfit.authData key hauth).2
      · exact (hfit.data key hdata).resolve_left htype
    · refine (hkey key).mpr ?_
      rcases hfit.required key hrequired with hdata | hauth
      · have hname : key ∈ schema.variant.signature.names := by
          rcases List.mem_map.mp hrequired with ⟨p, hp, hkeyp⟩
          exact List.mem_map.mpr ⟨p, (List.mem_filter.mp hp).1, hkeyp⟩
        exact Or.inr ⟨(hfit.stored key hname).1, hdata⟩
      · exact Or.inl hauth
  refine ⟨⟨schema.variant, schema.variant.signature.bound kwargs⟩, ?_, rfl, ?_, ?_, ?_⟩
  · unfold ConnectionDTOClass.construct
    rw [hbind]
    rfl
  · intro key value hvalue
    have hdata := (isSome_dataField schema key).mp (by rw [hvalue]; rfl)
    -- The credentials are merged over the data, and the two share no name.
    have hauth : schema.authField key = none := by
      rw [← Option.not_isSome_iff_eq_none, isSome_authField]
      exact fun hmem => hfit.disjoint key hmem hdata.2
    refine Signature.lookup_bound_of_argument hfit.names
      ((hfit.data key hdata.2).resolve_left hdata.1) ?_
    rw [h key, hauth, hvalue]
    rfl
  · intro key value hvalue
    have hauth := (isSome_authField schema key).mp (by rw [hvalue]; rfl)
    refine Signature.lookup_bound_of_argument hfit.names (hfit.authData key hauth).2 ?_
    rw [h key, hvalue]
    rfl
  · intro key value hvalue
    rcases Signature.argument_or_default hfit.names hvalue with hargument | ⟨hnone, hdefault⟩
    · rw [h key] at hargument
      rcases Option.or_eq_some_iff.mp hargument with hauth | ⟨_, hdata⟩
      · exact Or.inr (Or.inl hauth)
      · exact Or.inl hdata
    · -- What is not stored has a default, and there is one such field.
      have hmissing : ¬ hasKey kwargs key = true := by
        unfold hasKey
        rw [hnone]
        exact Bool.false_ne_true
      rw [hkey key, not_or] at hmissing
      have hname : key ∈ schema.variant.signature.names := mem_keys_of_lookup hdefault
      rcases hfit.stored key hname with ⟨htype, hdata | hauth | hcatalog⟩
      · exact absurd ⟨htype, hdata⟩ hmissing.2
      · exact absurd hauth hmissing.1
      · rw [hcatalog] at hdefault
        exact Or.inr (Or.inr ⟨hcatalog,
          Option.some.inj (lookup_authType schema.inUnion hdefault)⟩)

end Construct

end SyncMaster
