import SyncMaster.Schemas

/-!
# Credentials Schemas

The `Create` and the `Update` schema of each auth type, and the dictionaries
that they are dumped to.

An `Update` schema is its `Create` schema with secrets that may be left out,
so both are one type here, with the type of a secret as its parameter. Which
fields a dump has depends on the auth type only: those of the `Read` schema
come first, then the secrets.

## Main definitions

* `AuthSchema`: The credentials schemas, by the type of a secret.
* `CreateAuthSchema`, `UpdateAuthSchema`: The two kinds of them.
* `AuthSchema.dumpWith`: What is handed to the repository.
* `AuthType.fieldNames`: The fields of stored credentials.

## Theorems

* `AuthSchema.keys_fields`: The fields of a dump.
* `AuthType.nodup_fieldNames`: No two of them have one name.
-/

namespace SyncMaster

/-- The `auth_type` of samba credentials. -/
inductive SambaAuthType where
  | ntlmV1 | ntlmV2
  deriving DecidableEq, Repr

def SambaAuthType.value : SambaAuthType → String
  | .ntlmV1 => "NTLMv1"
  | .ntlmV2 => "NTLMv2"

/-- The fields of the OAuth2 schemas that are not secret. -/
structure OAuth2ClientCredentials where
  restCatalogOauth2ClientId : String
  restCatalogOauth2Scopes : List String := []
  restCatalogOauth2Resource : Option String := none
  restCatalogOauth2Audience : Option String := none
  restCatalogOauth2TokenEndpoint : Option String := none
  deriving DecidableEq, Repr

/-- The credentials schemas. The secrets of a `Create` schema are strings, those
    of an `Update` schema may be missing. -/
inductive AuthSchema (Secret : Type) where
  | basic (user : String) (password : Secret)
  | s3 (accessKey : String) (secretKey : Secret)
  | samba (user : String) (authType : SambaAuthType) (password : Secret)
  | icebergRestBearer (restCatalogToken : Secret)
  | icebergRestOauth2ClientCredentials (oauth2 : OAuth2ClientCredentials)
      (restCatalogOauth2ClientSecret : Secret)
  | icebergRestBearerS3Basic (s3AccessKey : String) (restCatalogToken s3SecretKey : Secret)
  | icebergRestOauth2ClientCredentialsS3Basic (oauth2 : OAuth2ClientCredentials)
      (s3AccessKey : String) (restCatalogOauth2ClientSecret s3SecretKey : Secret)

abbrev CreateAuthSchema := AuthSchema String

abbrev UpdateAuthSchema := AuthSchema (Option String)

/-! ## Dumps -/

/-- A field that may be `None`. -/
def dumpOption : Option String → Json
  | some s => .str s
  | none => .null

def OAuth2ClientCredentials.modelDump (o : OAuth2ClientCredentials) : Dict := [
  ("rest_catalog_oauth2_client_id", .str o.restCatalogOauth2ClientId),
  ("rest_catalog_oauth2_scopes", .arr (o.restCatalogOauth2Scopes.map Json.str)),
  ("rest_catalog_oauth2_resource", dumpOption o.restCatalogOauth2Resource),
  ("rest_catalog_oauth2_audience", dumpOption o.restCatalogOauth2Audience),
  ("rest_catalog_oauth2_token_endpoint", dumpOption o.restCatalogOauth2TokenEndpoint)]

namespace AuthSchema

variable {Secret : Type}

def type : AuthSchema Secret → AuthType
  | basic .. => .basic
  | s3 .. => .s3
  | samba .. => .samba
  | icebergRestBearer .. => .icebergRestBearer
  | icebergRestOauth2ClientCredentials .. => .icebergRestOauth2ClientCredentials
  | icebergRestBearerS3Basic .. => .icebergRestBearerS3Basic
  | icebergRestOauth2ClientCredentialsS3Basic .. => .icebergRestOauth2ClientCredentialsS3Basic

/-- The fields of `model_dump(mode="json")`, the type apart, with a dump of the
    secrets. -/
def fields (dumpSecret : Secret → Json) : AuthSchema Secret → Dict
  | basic user password => [("user", .str user), ("password", dumpSecret password)]
  | s3 accessKey secretKey =>
      [("access_key", .str accessKey), ("secret_key", dumpSecret secretKey)]
  | samba user authType password =>
      [("user", .str user), ("auth_type", .str authType.value), ("password", dumpSecret password)]
  | icebergRestBearer token => [("rest_catalog_token", dumpSecret token)]
  | icebergRestOauth2ClientCredentials oauth2 clientSecret =>
      oauth2.modelDump ++ [("rest_catalog_oauth2_client_secret", dumpSecret clientSecret)]
  | icebergRestBearerS3Basic s3AccessKey token s3SecretKey =>
      [("s3_access_key", .str s3AccessKey), ("rest_catalog_token", dumpSecret token),
        ("s3_secret_key", dumpSecret s3SecretKey)]
  | icebergRestOauth2ClientCredentialsS3Basic oauth2 s3AccessKey clientSecret s3SecretKey =>
      oauth2.modelDump ++ [("s3_access_key", .str s3AccessKey),
        ("rest_catalog_oauth2_client_secret", dumpSecret clientSecret),
        ("s3_secret_key", dumpSecret s3SecretKey)]

def dumpWith (dumpSecret : Secret → Json) (schema : AuthSchema Secret) : AuthValue where
  type := schema.type
  fields := schema.fields dumpSecret

/-- The secrets of the schema, in the order of `get_secret_fields`. -/
def secrets : AuthSchema Secret → List Secret
  | basic _ password => [password]
  | s3 _ secretKey => [secretKey]
  | samba _ _ password => [password]
  | icebergRestBearer token => [token]
  | icebergRestOauth2ClientCredentials _ clientSecret => [clientSecret]
  | icebergRestBearerS3Basic _ token s3SecretKey => [token, s3SecretKey]
  | icebergRestOauth2ClientCredentialsS3Basic _ _ clientSecret s3SecretKey =>
      [clientSecret, s3SecretKey]

/-- The fields of a dump are those of the `Read` schema, then the secrets. -/
theorem keys_fields (dumpSecret : Secret → Json) (schema : AuthSchema Secret) :
    (schema.fields dumpSecret).map Prod.fst =
      schema.type.readFields ++ schema.type.secretFields := by
  cases schema <;> rfl

end AuthSchema

def CreateAuthSchema.modelDump (schema : CreateAuthSchema) : AuthValue :=
  schema.dumpWith Json.str

def UpdateAuthSchema.modelDump (schema : UpdateAuthSchema) : AuthValue :=
  schema.dumpWith dumpOption

/-- The fields of stored credentials of the type. -/
def AuthType.fieldNames (type : AuthType) : List String :=
  type.readFields ++ type.secretFields

theorem AuthType.nodup_fieldNames (type : AuthType) : type.fieldNames.Nodup := by
  cases type <;> decide

end SyncMaster
