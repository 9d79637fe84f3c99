import SyncMaster.Schemas.Auth
import SyncMaster.Server.Endpoints
import SyncMaster.Library.Assoc

/-!
# Omitted Secrets

What `update_connection` makes of the credentials in a request.

Its loop looks at the secrets one at a time and writes into the dictionary as
it goes. `keepSecrets_eq_ok` says what it amounts to: every omitted secret gets
its stored value, all at once, provided that there are none or that the stored
credentials are of the same type. Nothing else of the request changes, which is
`fillSecrets`.

The dictionaries are the dumps of the credentials schemas, so their fields are
known from the auth type and no lookup of the loop can fail. What comes out is
the dump of a `Create` schema again, and this is the invariant of the table.

## Main definitions

* `Omits`: The credentials leave a secret out.
* `fillSecrets`: The omitted secrets are filled in.
* `mergedAuthData`: The credentials of a request, with the stored secrets.
* `StoredCredentials`: Credentials that a `Create` schema dumps.

## Theorems

* `keepSecrets_eq_ok`: What the loop returns, and when.
* `stored_keepSecrets`: What it returns can be stored.
-/

namespace SyncMaster

/-! ## Dictionaries -/

def Json.isNull : Json → Bool
  | .null => true
  | _ => false

theorem Json.isNull_iff {j : Json} : j.isNull = true ↔ j = .null := by
  cases j with
  | null => exact ⟨fun _ => rfl, fun _ => rfl⟩
  | bool | num | decimal | str | arr | obj =>
      exact ⟨fun h => absurd h Bool.false_ne_true, fun h => nomatch h⟩

/-- Setting a key that is there keeps the keys. -/
theorem set_of_mem {d : Dict} {key : String} (h : key ∈ d.map Prod.fst) (value : Json) :
    d.set key value = d.map (fun kv => (kv.1, if kv.1 = key then value else kv.2)) :=
  Assoc.put_of_mem h value

/-! ## Filling in -/

/-- The value of a field, a secret that is null filled in. -/
def fillSecret (secretFields : List String) (fill : String → Json) (kv : String × Json) : Json :=
  if kv.2.isNull = true ∧ kv.1 ∈ secretFields then fill kv.1 else kv.2

/-- The fields, with every secret that is null filled in. -/
def fillSecrets (secretFields : List String) (fill : String → Json) (fields : Dict) : Dict :=
  fields.map (fun kv => (kv.1, fillSecret secretFields fill kv))

/-- The credentials leave out a secret of their type. -/
def Omits (authData : AuthValue) : Prop :=
  ∃ secretField ∈ authData.type.secretFields, authData.fields.lookup secretField = some .null

/-- The stored value of a secret. -/
def storedSecret (stored : Option AuthValue) (secretField : String) : Json :=
  (stored.bind (fun credentials => credentials.fields.lookup secretField)).getD .null

/-- The credentials of a request, each omitted secret replaced by the stored
    one. -/
def mergedAuthData (stored : Option AuthValue) (authData : AuthValue) : AuthValue :=
  { authData with
    fields := fillSecrets authData.type.secretFields (storedSecret stored) authData.fields }

variable {secretFields : List String} {fill : String → Json} {fields : Dict}

/-- What fills in the fields only matters where something is filled in. -/
theorem fillSecrets_congr {fill' : String → Json}
    (h : ∀ kv ∈ fields, kv.2.isNull = true → kv.1 ∈ secretFields → fill kv.1 = fill' kv.1) :
    fillSecrets secretFields fill fields = fillSecrets secretFields fill' fields := by
  refine List.map_congr_left (fun kv hkv => congrArg (Prod.mk kv.1) ?_)
  unfold fillSecret
  by_cases hnull : kv.2.isNull = true ∧ kv.1 ∈ secretFields
  · rw [if_pos hnull, if_pos hnull, h kv hkv hnull.1 hnull.2]
  · rw [if_neg hnull, if_neg hnull]

/-- One secret that is not null needs no filling in. -/
theorem fillSecrets_cons_given (hkeys : (fields.map Prod.fst).Nodup) {secretField : String}
    {value : Json} (hlookup : fields.lookup secretField = some value) (hvalue : value.isNull = false) :
    fillSecrets (secretField :: secretFields) fill fields = fillSecrets secretFields fill fields := by
  refine List.map_congr_left (fun kv hkv => congrArg (Prod.mk kv.1) ?_)
  have hiff : (kv.2.isNull = true ∧ kv.1 ∈ secretField :: secretFields) ↔
      (kv.2.isNull = true ∧ kv.1 ∈ secretFields) := by
    refine and_congr_right (fun hnull => ?_)
    rw [List.mem_cons, or_iff_right]
    intro hkey
    have hfound := Assoc.lookup_of_mem hkeys hkv
    rw [hkey, hlookup, Option.some.injEq] at hfound
    rw [← hfound, hvalue] at hnull
    exact Bool.false_ne_true hnull
  unfold fillSecret
  by_cases hnull : kv.2.isNull = true ∧ kv.1 ∈ secretFields
  · rw [if_pos (hiff.mpr hnull), if_pos hnull]
  · rw [if_neg (fun h => hnull (hiff.mp h)), if_neg hnull]

/-- One secret that is null is filled in first, the others after it. -/
theorem fillSecrets_cons_omitted (hkeys : (fields.map Prod.fst).Nodup) {secretField : String}
    (hlookup : fields.lookup secretField = some .null) :
    fillSecrets (secretField :: secretFields) fill fields =
      fillSecrets secretFields fill (fields.map (fun kv =>
        (kv.1, if kv.1 = secretField then fill secretField else kv.2))) := by
  unfold fillSecrets
  rw [List.map_map]
  refine List.map_congr_left (fun kv hkv => congrArg (Prod.mk kv.1) ?_)
  unfold fillSecret
  by_cases hkey : kv.1 = secretField
  · have hfound := Assoc.lookup_of_mem hkeys hkv
    rw [hkey, hlookup, Option.some.injEq] at hfound
    rw [if_pos ⟨Json.isNull_iff.mpr hfound.symm, hkey ▸ List.mem_cons_self⟩]
    simp only [hkey, if_true, ite_self]
  · have hmem : kv.1 ∈ secretField :: secretFields ↔ kv.1 ∈ secretFields := by
      rw [List.mem_cons, or_iff_right hkey]
    simp only [if_neg hkey, hmem]

/-- Nothing is filled in when nothing is omitted. -/
theorem fillSecrets_given (hkeys : (fields.map Prod.fst).Nodup)
    (h : ∀ secretField ∈ secretFields, fields.lookup secretField ≠ some .null) :
    fillSecrets secretFields fill fields = fields := by
  refine (List.map_congr_left (fun kv hkv => ?_)).trans (List.map_id fields)
  have hgiven : ¬ (kv.2.isNull = true ∧ kv.1 ∈ secretFields) := by
    intro hnull
    have hfound := Assoc.lookup_of_mem hkeys hkv
    rw [Json.isNull_iff.mp hnull.1] at hfound
    exact h kv.1 hnull.2 hfound
  unfold fillSecret
  rw [if_neg hgiven]
  rfl

/-! ## The loop -/

theorem getItem_of_lookup {d : Dict} {key : String} {value : Json}
    (h : d.lookup key = some value) : getItem d key = .ok value := by
  rw [getItem, h]

theorem isNone_of_lookup {d : Dict} {key : String} {value : Json}
    (h : d.lookup key = some value) : isNone d key = .ok value.isNull := by
  unfold isNone
  rw [getItem_of_lookup h]
  cases value <;> rfl

section Steps

variable {existing authData : AuthValue} {secretField : String} {rest : List String} {value : Json}

/-- A secret that is given is left as it is. -/
theorem keepSecrets_cons_given (hlookup : authData.fields.lookup secretField = some value)
    (hvalue : value.isNull = false) :
    keepSecrets existing (secretField :: rest) authData = keepSecrets existing rest authData := by
  rw [keepSecrets, isNone_of_lookup hlookup, hvalue]
  rfl

/-- A secret that is omitted is taken over, if the types are the same. -/
theorem keepSecrets_cons_omitted (hnull : authData.fields.lookup secretField = some .null)
    (htype : existing.type = authData.type) (hfound : existing.fields.lookup secretField = some value) :
    keepSecrets existing (secretField :: rest) authData =
      keepSecrets existing rest
        { authData with fields := authData.fields.set secretField value } := by
  rw [keepSecrets, isNone_of_lookup hnull]
  change (if existing.type ≠ authData.type then _ else _) = _
  rw [if_neg (fun h => h htype), getItem_of_lookup hfound]
  rfl

/-- The update is refused otherwise. -/
theorem keepSecrets_cons_refused (hnull : authData.fields.lookup secretField = some .null)
    (htype : existing.type ≠ authData.type) :
    keepSecrets existing (secretField :: rest) authData = .error .connectionAuthDataUpdateError := by
  rw [keepSecrets, isNone_of_lookup hnull]
  exact if_pos htype

theorem omits_cons_of_given {fields : Dict} (hlookup : fields.lookup secretField = some value)
    (hvalue : value.isNull = false) :
    (∃ f ∈ secretField :: rest, fields.lookup f = some .null) ↔
      ∃ f ∈ rest, fields.lookup f = some .null := by
  have hgiven : fields.lookup secretField ≠ some .null := by
    intro hnull
    rw [hlookup, Option.some.injEq] at hnull
    rw [Json.isNull_iff.mpr hnull] at hvalue
    cases hvalue
  simp only [List.mem_cons, or_and_right, exists_or, exists_eq_left, hgiven, false_or]

end Steps

/-- The loop over the secrets, all at once. No lookup fails, for the secrets are
    fields of the request and, where they are needed, of the stored
    credentials. -/
theorem keepSecrets_eq_ok {existing authData result : AuthValue}
    (hkeys : (authData.fields.map Prod.fst).Nodup)
    (hrequest : ∀ f ∈ secretFields, f ∈ authData.fields.map Prod.fst)
    (hstored : existing.type = authData.type →
      ∀ f ∈ secretFields, f ∈ existing.fields.map Prod.fst) :
    keepSecrets existing secretFields authData = .ok result ↔
      ((∃ f ∈ secretFields, authData.fields.lookup f = some .null) →
        existing.type = authData.type) ∧
      result = { authData with
        fields := fillSecrets secretFields (storedSecret (some existing)) authData.fields } := by
  induction secretFields generalizing authData with
  | nil =>
      have hnone : ¬ ∃ f ∈ ([] : List String), authData.fields.lookup f = some .null := by
        intro h
        rcases h with ⟨_, hmem, _⟩
        exact List.not_mem_nil hmem
      have hsame : fillSecrets [] (storedSecret (some existing)) authData.fields =
          authData.fields := fillSecrets_given hkeys (fun _ h => absurd h List.not_mem_nil)
      rw [keepSecrets, Except.ok.injEq, hsame, eq_comm]
      exact (and_iff_right (fun h => absurd h hnone)).symm
  | cons secretField rest ih =>
      have hhere : secretField ∈ authData.fields.map Prod.fst :=
        hrequest secretField List.mem_cons_self
      rcases Assoc.exists_lookup hhere with ⟨value, hlookup⟩
      have hrest : ∀ f ∈ rest, f ∈ authData.fields.map Prod.fst :=
        fun f hf => hrequest f (List.mem_cons_of_mem _ hf)
      cases hvalue : value.isNull with
      | false =>
          rw [keepSecrets_cons_given hlookup hvalue, fillSecrets_cons_given hkeys hlookup hvalue,
            omits_cons_of_given hlookup hvalue]
          exact ih hkeys hrest (fun h f hf => hstored h f (List.mem_cons_of_mem _ hf))
      | true =>
          have hnull : authData.fields.lookup secretField = some .null := by
            rw [hlookup, Json.isNull_iff.mp hvalue]
          by_cases htype : existing.type = authData.type
          · rcases Assoc.exists_lookup (hstored htype secretField List.mem_cons_self) with
              ⟨stored, hfound⟩
            have hfill : storedSecret (some existing) secretField = stored := by
              simp only [storedSecret, Option.bind_some, hfound, Option.getD_some]
            have hset := set_of_mem hhere stored
            -- The loop goes on with the same keys, so the induction applies.
            have hkeys' : (authData.fields.set secretField stored).map Prod.fst =
                authData.fields.map Prod.fst := by
              rw [hset, List.map_map]
              rfl
            have hstep := @ih { authData with fields := authData.fields.set secretField stored }
              (hkeys' ▸ hkeys) (hkeys' ▸ hrest)
              (fun h f hf => hstored h f (List.mem_cons_of_mem _ hf))
            rw [fillSecrets_cons_omitted hkeys hnull, hfill, ← hset,
              keepSecrets_cons_omitted hnull htype hfound]
            simp only [htype, implies_true, true_and] at hstep ⊢
            exact hstep
          · rw [keepSecrets_cons_refused hnull htype]
            refine iff_of_false (fun h => by cases h) (fun h => ?_)
            exact htype (h.1 ⟨secretField, List.mem_cons_self, hnull⟩)

/-- The loop leaves the auth type alone. -/
theorem keepSecrets_type {existing authData result : AuthValue}
    (h : keepSecrets existing secretFields authData = .ok result) :
    result.type = authData.type := by
  induction secretFields generalizing authData with
  | nil =>
      rw [keepSecrets, Except.ok.injEq] at h
      rw [h]
  | cons f rest ih =>
      rw [keepSecrets] at h
      cases homitted : isNone authData.fields f with
      | error e =>
          rw [homitted] at h
          cases h
      | ok omitted =>
          rw [homitted] at h
          cases omitted with
          | false => exact ih h
          | true =>
              change (if existing.type ≠ authData.type then _ else _) = _ at h
              split at h
              · cases h
              · cases hstored : getItem existing.fields f with
                | error e =>
                    rw [hstored] at h
                    cases h
                | ok stored =>
                    rw [hstored] at h
                    -- The loop goes on with one more field, and the type as it was.
                    change keepSecrets existing rest
                      { authData with fields := authData.fields.set f stored } = _ at h
                    have hkept := ih h
                    exact hkept

/-! ## Dumps of the schemas -/

/-- Credentials that a `Create` schema dumps, which are those with all their
    secrets. -/
def StoredCredentials (authData : AuthValue) : Prop :=
  ∃ schema : CreateAuthSchema, authData = schema.modelDump

/-- Credentials of an `update_connection` body. -/
def UpdateCredentials (authData : AuthValue) : Prop :=
  ∃ schema : UpdateAuthSchema, authData = schema.modelDump

theorem keys_of_stored {authData : AuthValue} (h : StoredCredentials authData) :
    authData.fields.map Prod.fst = authData.type.fieldNames := by
  rcases h with ⟨schema, rfl⟩
  exact schema.keys_fields _

theorem keys_of_update {authData : AuthValue} (h : UpdateCredentials authData) :
    authData.fields.map Prod.fst = authData.type.fieldNames := by
  rcases h with ⟨schema, rfl⟩
  exact schema.keys_fields _

theorem mem_fieldNames_of_secret {type : AuthType} {f : String} (h : f ∈ type.secretFields) :
    f ∈ type.fieldNames :=
  List.mem_append_right _ h

/-- A `Create` schema has its secrets, as strings. -/
theorem lookup_secret (schema : CreateAuthSchema) :
    ∀ f ∈ schema.type.secretFields, ∃ s, (schema.fields Json.str).lookup f = some (.str s) := by
  cases schema <;>
    simp [AuthSchema.type, AuthType.secretFields, AuthSchema.fields,
      OAuth2ClientCredentials.modelDump, List.lookup_cons]

/-- Stored credentials have their secrets as strings. -/
theorem storedSecret_of_stored {authData : AuthValue} (h : StoredCredentials authData) {f : String}
    (hf : f ∈ authData.type.secretFields) : ∃ s, storedSecret (some authData) f = .str s := by
  rcases h with ⟨schema, rfl⟩
  rcases lookup_secret schema f hf with ⟨s, hs⟩
  refine ⟨s, ?_⟩
  simp only [storedSecret, Option.bind_some, CreateAuthSchema.modelDump, AuthSchema.dumpWith, hs,
    Option.getD_some]

/-- An `Update` schema with every missing secret supplied. -/
def UpdateAuthSchema.fillIn (fill : String → String) : UpdateAuthSchema → CreateAuthSchema
  | .basic user password => .basic user (password.getD (fill "password"))
  | .s3 accessKey secretKey => .s3 accessKey (secretKey.getD (fill "secret_key"))
  | .samba user authType password => .samba user authType (password.getD (fill "password"))
  | .icebergRestBearer token => .icebergRestBearer (token.getD (fill "rest_catalog_token"))
  | .icebergRestOauth2ClientCredentials oauth2 clientSecret =>
      .icebergRestOauth2ClientCredentials oauth2
        (clientSecret.getD (fill "rest_catalog_oauth2_client_secret"))
  | .icebergRestBearerS3Basic s3AccessKey token s3SecretKey =>
      .icebergRestBearerS3Basic s3AccessKey (token.getD (fill "rest_catalog_token"))
        (s3SecretKey.getD (fill "s3_secret_key"))
  | .icebergRestOauth2ClientCredentialsS3Basic oauth2 s3AccessKey clientSecret s3SecretKey =>
      .icebergRestOauth2ClientCredentialsS3Basic oauth2 s3AccessKey
        (clientSecret.getD (fill "rest_catalog_oauth2_client_secret"))
        (s3SecretKey.getD (fill "s3_secret_key"))

theorem dumpOption_getD (secret : Option String) (s : String) :
    (if (dumpOption secret).isNull = true then Json.str s else dumpOption secret) =
      Json.str (secret.getD s) := by
  cases secret <;> rfl

/-- Filling in before the dump and after it is the same. -/
theorem modelDump_fillIn (fill : String → String) (schema : UpdateAuthSchema) :
    (schema.fillIn fill).modelDump = { schema.modelDump with
      fields := fillSecrets schema.modelDump.type.secretFields (fun f => .str (fill f))
        schema.modelDump.fields } := by
  cases schema <;>
    simp [UpdateAuthSchema.fillIn, CreateAuthSchema.modelDump, UpdateAuthSchema.modelDump,
      AuthSchema.dumpWith, AuthSchema.fields, AuthSchema.type, AuthType.secretFields,
      OAuth2ClientCredentials.modelDump, fillSecrets, fillSecret, dumpOption_getD]

/-- What the loop returns has all its secrets. -/
theorem stored_keepSecrets {existing authData result : AuthValue} (hstored : StoredCredentials existing)
    (hrequest : UpdateCredentials authData)
    (h : keepSecrets existing authData.type.secretFields authData = .ok result) :
    StoredCredentials result := by
  have hrequestKeys := keys_of_update hrequest
  have hkeys : (authData.fields.map Prod.fst).Nodup := by
    rw [hrequestKeys]
    exact authData.type.nodup_fieldNames
  rcases (keepSecrets_eq_ok hkeys (fun f hf => hrequestKeys ▸ mem_fieldNames_of_secret hf)
    (fun htype f hf => by
      rw [keys_of_stored hstored, htype]
      exact mem_fieldNames_of_secret hf)).mp h with ⟨htype, hresult⟩
  -- As strings, the stored secrets are what a `Create` schema is filled in with.
  have hstring : ∀ f, ∃ s : String, (f ∈ existing.type.secretFields →
      storedSecret (some existing) f = .str s) := by
    intro f
    by_cases hf : f ∈ existing.type.secretFields
    · rcases storedSecret_of_stored hstored hf with ⟨s, hs⟩
      exact ⟨s, fun _ => hs⟩
    · exact ⟨"", fun h => absurd h hf⟩
  choose fill hfill using hstring
  rcases hrequest with ⟨schema, rfl⟩
  refine ⟨schema.fillIn fill, ?_⟩
  rw [hresult, modelDump_fillIn]
  refine congrArg (AuthValue.mk _) (fillSecrets_congr (fun kv hkv hnull hsecret => ?_))
  have hfound := Assoc.lookup_of_mem hkeys hkv
  rw [Json.isNull_iff.mp hnull] at hfound
  rw [hfill]
  rw [htype ⟨kv.1, hsecret, hfound⟩]
  exact hsecret

end SyncMaster
