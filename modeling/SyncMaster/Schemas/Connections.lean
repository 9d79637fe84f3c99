import SyncMaster.Schemas.Auth
import Mathlib.Data.List.Infix

/-!
# Connection Schemas

The schemas of `connection_data`, one for each connection type and two for
iceberg, with the dictionaries they are dumped to, and the bodies that the
`Create` and the `Update` connection schemas accept.

A body is a union over the connection types, and the connection type selects
both the data schema and the credentials schemas. For iceberg that still leaves
combinations that make no sense, which `connection_and_auth_data_match` refuses
afterwards. `ConnectionSchema` has the outcome of both as fields, so what is
accepted is what can be built.

## Main definitions

* `ConnectionDataSchema`: The data schemas.
* `ConnectionDataSchema.modelDump`: What is stored in `connection.data`.
* `validatePort`: The port of an S3 connection, which is never missing.
* `connectionAndAuthDataMatch`: The validator of the iceberg schemas.
* `ConnectionSchema`: A connection that the schemas accept.
* `ValidCreate`, `ValidUpdate`: The bodies that the schemas accept.
-/

namespace SyncMaster

/-! ## Constrained values -/

/-- `Field(gt=0, le=65535)`. -/
abbrev Port := { n : Int // 0 < n ∧ n ≤ 65535 }

inductive HttpProtocol where
  | http | https
  deriving DecidableEq, Repr

def HttpProtocol.value : HttpProtocol → String
  | .http => "http"
  | .https => "https"

inductive BucketStyle where
  | domain | path
  deriving DecidableEq, Repr

def BucketStyle.value : BucketStyle → String
  | .domain => "domain"
  | .path => "path"

inductive SambaProtocol where
  | smb | netBios
  deriving DecidableEq, Repr

def SambaProtocol.value : SambaProtocol → String
  | .smb => "SMB"
  | .netBios => "NetBIOS"

inductive S3AccessDelegation where
  | vendedCredentials | remoteSigning
  deriving DecidableEq, Repr

def S3AccessDelegation.value : S3AccessDelegation → String
  | .vendedCredentials => "vended-credentials"
  | .remoteSigning => "remote-signing"

/-- The values of the discriminator. -/
def AuthType.value : AuthType → String
  | .basic => "basic"
  | .s3 => "s3"
  | .samba => "samba"
  | .icebergRestBearer => "iceberg_rest_bearer"
  | .icebergRestOauth2ClientCredentials => "iceberg_rest_oauth2_client_credentials"
  | .icebergRestBearerS3Basic => "iceberg_rest_bearer_s3_basic"
  | .icebergRestOauth2ClientCredentialsS3Basic =>
      "iceberg_rest_oauth2_client_credentials_s3_basic"

/-! ## Connection data -/

/-- The truth value of a field that may be `None`. -/
def truthy (s : Option String) : Bool :=
  s.any (fun s => s != "")

/-- `OracleConnectionDataSchema.validate_connection_identifiers`. -/
def validateConnectionIdentifiers (serviceName sid : Option String) : Except String Unit :=
  if truthy sid && truthy serviceName then
    .error "You must specify either sid or service_name but not both"
  else .ok ()

/-- `CreateS3ConnectionDataSchema.validate_port`. -/
def validatePort (port : Option Port) (protocol : HttpProtocol) : Port :=
  match port with
  | some port => port
  | none => if protocol = .https then ⟨443, by decide⟩ else ⟨80, by decide⟩

/-- The schemas of `connection_data`. -/
inductive ConnectionDataSchema where
  | clickhouse (host : String) (port : Port) (databaseName : Option String)
      (additionalParams : Dict)
  | hive (cluster : String)
  | icebergRestS3Direct (restCatalogUrl s3WarehousePath s3Host : String) (s3Port : Option Port)
      (s3Protocol : HttpProtocol) (s3Bucket s3Region : String) (s3BucketStyle : BucketStyle)
      (s3AdditionalParams : Dict)
  | icebergRestS3Delegated (restCatalogUrl : String) (s3WarehouseName : Option String)
      (s3AccessDelegation : S3AccessDelegation)
  | mssql (host : String) (port : Port) (databaseName : String) (additionalParams : Dict)
  | mysql (host : String) (port : Port) (databaseName : Option String) (additionalParams : Dict)
  | oracle (host : String) (port : Port) (serviceName sid : Option String)
      (additionalParams : Dict)
      (identifiers : validateConnectionIdentifiers serviceName sid = .ok ())
  | postgres (host : String) (port : Port) (databaseName : String) (additionalParams : Dict)
  | ftp (host : String) (port : Port)
  | ftps (host : String) (port : Port)
  | hdfs (cluster : String)
  | s3 (host bucket : String) (protocol : HttpProtocol) (region : String) (port : Option Port)
      (bucketStyle : BucketStyle) (additionalParams : Dict)
  | samba (host share : String) (port : Option Port) (protocol : SambaProtocol) (domain : String)
  | sftp (host : String) (port : Port)
  | webdav (host : String) (port : Option Port) (protocol : HttpProtocol)

def dumpPort (port : Port) : Json := .num port.val

/-- A port that may be `None`. -/
def dumpPortOption : Option Port → Json
  | some port => dumpPort port
  | none => .null

namespace ConnectionDataSchema

def type : ConnectionDataSchema → ConnectionType
  | clickhouse .. => .clickhouse
  | hive .. => .hive
  | icebergRestS3Direct .. | icebergRestS3Delegated .. => .iceberg
  | mssql .. => .mssql
  | mysql .. => .mysql
  | oracle .. => .oracle
  | postgres .. => .postgres
  | ftp .. => .ftp
  | ftps .. => .ftps
  | hdfs .. => .hdfs
  | s3 .. => .s3
  | samba .. => .samba
  | sftp .. => .sftp
  | webdav .. => .webdav

/-- `model_dump(mode="json")`. -/
def modelDump : ConnectionDataSchema → Dict
  | clickhouse host port databaseName additionalParams =>
      [("host", .str host), ("port", dumpPort port), ("database_name", dumpOption databaseName),
        ("additional_params", .obj additionalParams)]
  | hive cluster => [("cluster", .str cluster)]
  | icebergRestS3Direct restCatalogUrl s3WarehousePath s3Host s3Port s3Protocol s3Bucket s3Region
      s3BucketStyle s3AdditionalParams =>
      [("type", .str "iceberg_rest_s3_direct"), ("rest_catalog_url", .str restCatalogUrl),
        ("s3_warehouse_path", .str s3WarehousePath), ("s3_host", .str s3Host),
        ("s3_port", dumpPortOption s3Port), ("s3_protocol", .str s3Protocol.value),
        ("s3_bucket", .str s3Bucket), ("s3_region", .str s3Region),
        ("s3_bucket_style", .str s3BucketStyle.value),
        ("s3_additional_params", .obj s3AdditionalParams)]
  | icebergRestS3Delegated restCatalogUrl s3WarehouseName s3AccessDelegation =>
      [("type", .str "iceberg_rest_s3_delegated"), ("rest_catalog_url", .str restCatalogUrl),
        ("s3_warehouse_name", dumpOption s3WarehouseName),
        ("s3_access_delegation", .str s3AccessDelegation.value)]
  | mssql host port databaseName additionalParams =>
      [("host", .str host), ("port", dumpPort port), ("database_name", .str databaseName),
        ("additional_params", .obj additionalParams)]
  | mysql host port databaseName additionalParams =>
      [("host", .str host), ("port", dumpPort port), ("database_name", dumpOption databaseName),
        ("additional_params", .obj additionalParams)]
  | oracle host port serviceName sid additionalParams _ =>
      [("host", .str host), ("port", dumpPort port), ("service_name", dumpOption serviceName),
        ("sid", dumpOption sid), ("additional_params", .obj additionalParams)]
  | postgres host port databaseName additionalParams =>
      [("host", .str host), ("port", dumpPort port), ("database_name", .str databaseName),
        ("additional_params", .obj additionalParams)]
  | ftp host port | ftps host port | sftp host port =>
      [("host", .str host), ("port", dumpPort port)]
  | hdfs cluster => [("cluster", .str cluster)]
  | s3 host bucket protocol region port bucketStyle additionalParams =>
      [("host", .str host), ("bucket", .str bucket), ("protocol", .str protocol.value),
        ("region", .str region), ("port", dumpPort (validatePort port protocol)),
        ("bucket_style", .str bucketStyle.value), ("additional_params", .obj additionalParams)]
  | samba host share port protocol domain =>
      [("host", .str host), ("share", .str share), ("port", dumpPortOption port),
        ("protocol", .str protocol.value), ("domain", .str domain)]
  | webdav host port protocol =>
      [("host", .str host), ("port", dumpPortOption port), ("protocol", .str protocol.value)]

end ConnectionDataSchema

/-! ## Bodies -/

/-- The credentials schemas in the union of the connection type. -/
def ConnectionType.authTypes : ConnectionType → List AuthType
  | .s3 => [.s3]
  | .samba => [.samba]
  | .iceberg =>
      [.icebergRestBearerS3Basic, .icebergRestOauth2ClientCredentialsS3Basic,
        .icebergRestBearer, .icebergRestOauth2ClientCredentials]
  | .postgres | .hive | .oracle | .clickhouse | .mssql | .mysql | .hdfs | .sftp | .ftp | .ftps
  | .webdav => [.basic]

/-- `"s3" in self.auth_data.type`. -/
def AuthType.mentionsS3 (type : AuthType) : Bool :=
  decide ("s3".toList <:+: type.value.toList)

/-- `CreateIcebergConnectionSchema.connection_and_auth_data_match`. -/
def connectionAndAuthDataMatch (data : ConnectionDataSchema) (authType : AuthType) :
    Except String Unit :=
  match data with
  | .icebergRestS3Direct .. =>
      if authType.mentionsS3 then .ok ()
      else .error "Cannot create direct S3 connection without S3 credentials"
  | .icebergRestS3Delegated .. =>
      if authType.mentionsS3 then
        .error "Cannot create delegated S3 connection with S3 credentials"
      else .ok ()
  | _ => .ok ()

/-- Data and credentials that the schemas accept together. -/
structure ConnectionSchema (Secret : Type) where
  data : ConnectionDataSchema
  authData : AuthSchema Secret
  inUnion : authData.type ∈ data.type.authTypes
  dataMatch : connectionAndAuthDataMatch data authData.type = .ok ()

/-- The body of a `create_connection` that is accepted. -/
def ValidCreate (body : CreateConnectionSchema) : Prop :=
  ∃ schema : ConnectionSchema String, body.type = schema.data.type ∧
    body.data = schema.data.modelDump ∧ body.authData = CreateAuthSchema.modelDump schema.authData

/-- The body of an `update_connection` that is accepted. -/
def ValidUpdate (body : UpdateConnectionSchema) : Prop :=
  ∃ schema : ConnectionSchema (Option String), body.type = schema.data.type ∧
    body.data = schema.data.modelDump ∧ body.authData = UpdateAuthSchema.modelDump schema.authData

end SyncMaster
