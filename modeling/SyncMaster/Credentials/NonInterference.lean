import SyncMaster.Credentials.Stored
import SyncMaster.Library.TwoRuns
import SyncMaster.Server.Reads

/-!
# Secrets Stay in the Credentials Table

What a request answers, and what a run keeps of the connections it was created
with, do not depend on the values of the secrets that are stored.

The statement is about two runs, from databases that differ in those values
only. It is proved with the rules of `Library.TwoRuns`: most statements do not
touch the credentials at all, so they do the same on both sides; the few that
do hand on credentials that again differ in the secrets only; and wherever
credentials leave the table they go through a `Read` schema, which drops every
field that may differ.

The last part is the one that the schemas decide. `readAuthData_eq` uses that
no `Read` schema of the seven has a field with the name of a secret, of any
auth type.

## Main definitions

* `secretNames`: The names of the secrets of all auth types.
* `SameButSecrets`: Databases that differ in stored secrets only.
* `SameBodyButSecrets`: Bodies of `create_connection` that do.

## Theorems

* `readAuthData_eq`: The dump of a `Read` schema does not depend on secrets.
* `keepSecrets_agree`: The merge copies secrets without looking at them.
* `agree_readConnection` and the others: The endpoints.
* `secrets_stay`: All of them together.
-/

namespace SyncMaster

open Program

/-! ## The relations -/

/-- The fields that hold secrets, over all auth types. -/
def secretNames : List String :=
  ["password", "secret_key", "rest_catalog_token", "rest_catalog_oauth2_client_secret",
    "s3_secret_key"]

/-- The same field, with the same value unless it is one of the names. -/
def SameField (names : List String) (kv kv' : String × Json) : Prop :=
  kv.1 = kv'.1 ∧ (kv.1 ∉ names → kv.2 = kv'.2)

/-- The same fields, with the same values outside of the names. -/
def SameFields (names : List String) (d d' : Dict) : Prop :=
  List.Forall₂ (SameField names) d d'

structure SameAuthValue (value value' : AuthValue) : Prop where
  type : value.type = value'.type
  fields : SameFields secretNames value.fields value'.fields

structure SameAuthData (a a' : AuthData) : Prop where
  connectionId : a.connectionId = a'.connectionId
  createdAt : a.createdAt = a'.createdAt
  updatedAt : a.updatedAt = a'.updatedAt
  value : SameAuthValue a.value a'.value

/-- The databases are equal, the values of stored secrets apart. -/
structure SameButSecrets (db db' : Database) : Prop where
  rest : db' = { db with authData := db'.authData }
  authData : List.Forall₂ SameAuthData db.authData db'.authData

/-- The bodies are equal, the values of the secrets apart. -/
structure SameBodyButSecrets (body body' : CreateConnectionSchema) : Prop where
  rest : body' = { body with authData := body'.authData }
  authData : SameAuthValue body.authData body'.authData

/-! ## Credentials -/

theorem secretFields_subset (type : AuthType) : ∀ f ∈ type.secretFields, f ∈ secretNames := by
  cases type <;> decide

theorem readFields_not_secret (type : AuthType) : ∀ f ∈ type.readFields, f ∉ secretNames := by
  cases type <;> decide

theorem nodup_secretFields (type : AuthType) : type.secretFields.Nodup := by
  cases type <;> decide

section Fields

variable {names : List String} {d d' : Dict}

/-- Dropping the names leaves the same fields. -/
theorem filter_eq_of_sameFields {keep : String → Bool} (h : SameFields names d d')
    (hkeep : ∀ f, keep f = true → f ∉ names) :
    d.filter (fun kv => keep kv.1) = d'.filter (fun kv => keep kv.1) := by
  induction h with
  | nil => rfl
  | @cons kv kv' rest rest' hkv _ ih =>
      rw [List.filter_cons, List.filter_cons, ← hkv.1, ih]
      by_cases hk : keep kv.1 = true
      · have heq : kv = kv' := Prod.ext hkv.1 (hkv.2 (hkeep kv.1 hk))
        rw [if_pos hk, if_pos hk, heq]
      · rw [if_neg hk, if_neg hk]

/-- A field outside of the names is looked up with the same result. -/
theorem lookup_eq_of_sameFields (h : SameFields names d d') {f : String} (hf : f ∉ names) :
    d.lookup f = d'.lookup f := by
  induction h with
  | nil => rfl
  | @cons kv kv' rest rest' hkv _ ih =>
      rw [List.lookup_cons, List.lookup_cons, ← hkv.1]
      by_cases hk : f = kv.1
      · rw [beq_iff_eq.mpr hk, hkv.2 (hk ▸ hf)]
      · rw [beq_eq_false_iff_ne.mpr hk]
        exact ih

/-- A field is there on both sides or on neither. -/
theorem lookup_isSome_of_sameFields (h : SameFields names d d') (f : String) :
    (d.lookup f).isSome = (d'.lookup f).isSome := by
  induction h with
  | nil => rfl
  | @cons kv kv' rest rest' hkv _ ih =>
      rw [List.lookup_cons, List.lookup_cons, ← hkv.1]
      by_cases hk : f = kv.1
      · rw [beq_iff_eq.mpr hk]
        rfl
      · rw [beq_eq_false_iff_ne.mpr hk]
        exact ih

theorem any_key_of_sameFields (h : SameFields names d d') (f : String) :
    d.any (fun kv => kv.1 == f) = d'.any (fun kv => kv.1 == f) := by
  induction h with
  | nil => rfl
  | cons hkv _ ih => rw [List.any_cons, List.any_cons, hkv.1, ih]

/-- Setting a field to values that may differ. -/
theorem sameFields_set (h : SameFields names d d') (f : String) (v v' : Json) :
    SameFields (f :: names) (d.set f v) (d'.set f v') := by
  have hweaker : SameFields (f :: names) d d' :=
    h.imp (fun _ _ hkv => ⟨hkv.1, fun hnot => hkv.2 (fun hin => hnot (List.mem_cons_of_mem f hin))⟩)
  have hset : SameField (f :: names) (f, v) (f, v') :=
    ⟨rfl, fun hnot => absurd List.mem_cons_self hnot⟩
  unfold Dict.set
  rw [← any_key_of_sameFields h f]
  by_cases hany : d.any (fun kv => kv.1 == f) = true
  · rw [if_pos hany, if_pos hany]
    refine List.forall₂_map_left_iff.mpr (List.forall₂_map_right_iff.mpr ?_)
    refine hweaker.imp (fun kv kv' hkv => ?_)
    rw [← hkv.1]
    by_cases hk : (kv.1 == f) = true
    · rw [if_pos hk, if_pos hk]
      exact hset
    · rw [if_neg hk, if_neg hk]
      exact hkv
  · rw [if_neg hany, if_neg hany]
    exact List.rel_append hweaker (List.Forall₂.cons hset List.Forall₂.nil)

end Fields

/-- What a `Read` schema dumps does not depend on the secrets. -/
theorem readAuthData_eq {value value' : AuthValue} (h : SameAuthValue value value') :
    readAuthData value = readAuthData value' := by
  have hfields := filter_eq_of_sameFields h.fields
    (fun f hf => readFields_not_secret value.type f (List.contains_iff_mem.mp hf))
  unfold readAuthData
  rw [hfields, h.type]

theorem readConnectionSchema_eq {value value' : AuthValue} (c : Connection)
    (h : SameAuthValue value value') :
    readConnectionSchema c (some value) = readConnectionSchema c (some value') := by
  unfold readConnectionSchema
  rw [Option.map_some, Option.map_some, readAuthData_eq h]

/-! ## The merge -/

/-- The merge copies the stored secrets without looking at them. What it has
    set so far may differ, and is not looked at again, since a type names each
    secret once. -/
theorem keepSecrets_agree {stored stored' : AuthValue} (hstored : SameAuthValue stored stored')
    {secretFields done : List String} {authData authData' : AuthValue}
    (htype : authData.type = authData'.type)
    (hfields : SameFields done authData.fields authData'.fields)
    (hdone : ∀ f ∈ done, f ∈ secretNames) (hsecret : ∀ f ∈ secretFields, f ∈ secretNames)
    (hnew : ∀ f ∈ secretFields, f ∉ done) (hnodup : secretFields.Nodup) :
    SameResult SameAuthValue (keepSecrets stored secretFields authData)
      (keepSecrets stored' secretFields authData') := by
  induction secretFields generalizing done authData authData' with
  | nil =>
      have hweaker := hfields.imp (fun _ _ hkv =>
        (⟨hkv.1, fun hnot => hkv.2 (fun hin => hnot (hdone _ hin))⟩ : SameField secretNames _ _))
      -- The secrets set so far are among the secret names, so they may differ.
      exact ⟨htype, hweaker⟩
  | cons f rest ih =>
      rw [List.nodup_cons] at hnodup
      have hrest : ∀ g ∈ rest, g ∈ secretNames := fun g hg => hsecret g (List.mem_cons_of_mem f hg)
      have hlookup := lookup_eq_of_sameFields hfields (hnew f List.mem_cons_self)
      have homitted : isNone authData.fields f = isNone authData'.fields f := by
        unfold isNone getItem
        rw [hlookup]
      rw [keepSecrets, keepSecrets, ← homitted]
      cases isNone authData.fields f with
      -- Reading the request's field fails in both runs alike.
      | error e => exact rfl
      | ok omitted =>
          cases omitted with
          | false =>
              -- The request brings its own secret: nothing is read from what is stored.
              exact ih htype hfields hdone hrest
                (fun g hg => hnew g (List.mem_cons_of_mem f hg)) hnodup.2
          | true =>
              change SameResult SameAuthValue (if stored.type ≠ authData.type then _ else _)
                (if stored'.type ≠ authData'.type then _ else _)
              rw [hstored.type, htype]
              -- The source refuses to keep a secret over a change of the type.
              by_cases hsame : stored'.type ≠ authData'.type
              · rw [if_pos hsame, if_pos hsame]
                exact rfl
              · rw [if_neg hsame, if_neg hsame]
                have hthere := lookup_isSome_of_sameFields hstored.fields f
                unfold getItem
                cases hv : stored.fields.lookup f with
                -- Both stored values lack the secret, so both runs fail on it.
                | none =>
                    rw [hv] at hthere
                    have hnone : stored'.fields.lookup f = none := by
                      refine Option.not_isSome_iff_eq_none.mp ?_
                      rw [← hthere]
                      exact Bool.false_ne_true
                    rw [hnone]
                    exact rfl
                | some v =>
                    rw [hv] at hthere
                    rcases Option.isSome_iff_exists.mp hthere.symm with ⟨v', hv'⟩
                    rw [hv']
                    -- The two runs set different values at `f`, which the invariant then puts among
                    -- the done.
                    refine ih rfl (sameFields_set hfields f v v') ?_ hrest ?_ hnodup.2
                    · intro g hg
                      rcases List.mem_cons.mp hg with heq | hin
                      · exact heq ▸ hsecret f List.mem_cons_self
                      · exact hdone g hin
                    · intro g hg hin
                      rcases List.mem_cons.mp hin with heq | hold
                      · exact hnodup.1 (heq ▸ hg)
                      · exact hnew g (List.mem_cons_of_mem f hg) hold

/-! ## Statements -/

section Statements

variable {db db' : Database} {α : Type}

/-- A query that does not look at the credentials. -/
theorem agree_query_frame {f : Database → Except Error α}
    (hf : ∀ db authData, f { db with authData := authData } = f db) :
    Agree SameButSecrets Eq (query f) (query f) := by
  refine agree_query (fun s t hst => sameResult_of_eq ?_)
  have ht := hf s t.authData
  rw [← hst.rest] at ht
  exact ht.symm

/-- A change that leaves the credentials alone, and does not look at them. -/
theorem agree_execute_frame {f : Database → Database}
    (hf : ∀ db authData, f { db with authData := authData } = { f db with authData := authData }) :
    Agree SameButSecrets Eq (execute f : Db Unit) (execute f) := by
  refine agree_execute (fun s t hst => ?_)
  have hs : f s = { f s with authData := s.authData } := hf s s.authData
  have ht : f t = { f s with authData := t.authData } := by
    rw [← hf s t.authData, ← hst.rest]
  rw [hs, ht]
  exact ⟨rfl, hst.authData⟩

theorem agree_unitOfWork {β : Type} {Q : α → β → Prop} {x : Db α} {y : Db β}
    (h : Agree SameButSecrets Q x y) : Agree SameButSecrets Q (unitOfWork x) (unitOfWork y) := by
  refine agree_atomically (fun s t s' t' hst hst' => ?_) h
  have hsequences : t'.sequences = s'.sequences := by rw [hst'.rest]
  unfold rollback
  rw [hsequences]
  exact ⟨by rw [hst.rest], hst.authData⟩

theorem agree_nextval (s : Sequence) : Agree SameButSecrets Eq (nextval s) (nextval s) :=
  agree_bind_eq (agree_query_frame (fun _ _ => rfl)) (fun _ =>
    agree_bind_eq (agree_execute_frame (fun _ _ => rfl)) (fun _ => agree_pure rfl))

/-- A table whose statements do not look at the credentials. -/
structure Model.Blind {Row : Type} (model : Model Row) : Prop where
  rows : ∀ db authData, model.rows { db with authData := authData } = model.rows db
  constraints : ∀ db authData others row,
    model.constraints { db with authData := authData } others row = model.constraints db others row
  withRows : ∀ db authData rows, model.withRows { db with authData := authData } rows =
    { model.withRows db rows with authData := authData }

theorem blind_connection : Connection.model.Blind :=
  ⟨fun _ _ => rfl, fun _ _ _ _ => rfl, fun _ _ _ => rfl⟩

theorem blind_run : Run.model.Blind :=
  ⟨fun _ _ => rfl, fun _ _ _ _ => rfl, fun _ _ _ => rfl⟩

theorem agree_insertRow {Row : Type} {model : Model Row} (hmodel : model.Blind) (row : Row) :
    Agree SameButSecrets Eq (insertRow model row) (insertRow model row) := by
  refine agree_bind_eq (agree_query_frame (fun _ _ => ?_)) (fun _ => ?_)
  · rw [hmodel.rows, hmodel.constraints]
  · refine agree_bind_eq (agree_execute_frame (fun _ _ => ?_)) (fun _ => agree_pure rfl)
    rw [hmodel.rows, hmodel.withRows]

theorem agree_updateRow {Row : Type} {model : Model Row} (hmodel : model.Blind)
    (cond : Row → Bool) (values : Row → Row) :
    Agree SameButSecrets Eq (updateRow model cond values) (updateRow model cond values) := by
  refine agree_bind_eq (agree_query_frame (fun _ _ => ?_)) (fun _ => ?_)
  · rw [hmodel.rows]
  · refine agree_bind_eq (agree_query_frame (fun _ _ => ?_)) (fun _ => ?_)
    · rw [hmodel.rows, hmodel.constraints]
    · refine agree_bind_eq (agree_execute_frame (fun _ _ => ?_)) (fun _ => agree_pure rfl)
      rw [hmodel.rows, hmodel.withRows]

/-! ## Statements on the credentials -/

/-- The rows of one connection. -/
theorem sameRows_filter {rows rows' : List AuthData} (h : List.Forall₂ SameAuthData rows rows')
    (p : Id → Bool) :
    List.Forall₂ SameAuthData (rows.filter (fun a => p a.connectionId))
      (rows'.filter (fun a => p a.connectionId)) := by
  refine List.rel_filter (fun a a' ha => ?_) h
  change p a.connectionId = true ↔ p a'.connectionId = true
  rw [ha.connectionId]

theorem sameResult_one {rows rows' : List AuthData} (h : List.Forall₂ SameAuthData rows rows') :
    SameResult SameAuthData (one rows) (one rows') := by
  cases h with
  | nil => exact rfl
  | cons ha hrest => cases hrest with
    | nil => exact ha
    | cons => exact rfl

theorem agree_readCredentials (connectionId : Id) :
    Agree SameButSecrets SameAuthValue (CredentialsRepository.read connectionId)
      (CredentialsRepository.read connectionId) := by
  refine agree_bind (P := SameAuthData) (agree_catching (agree_query (fun s t hst => ?_)))
    (fun a a' ha => agree_pure ha.value)
  exact sameResult_one (sameRows_filter hst.authData (fun id => id == connectionId))

theorem any_of_sameRows {rows rows' : List AuthData} (h : List.Forall₂ SameAuthData rows rows')
    (p : Id → Bool) :
    rows.any (fun a => p a.connectionId) = rows'.any (fun a => p a.connectionId) := by
  induction h with
  | nil => rfl
  | cons ha _ ih => rw [List.any_cons, List.any_cons, ha.connectionId, ih]

/-- The constraints of the table are about the connections only. -/
theorem constraints_eq {others others' : List AuthData} {a a' : AuthData}
    (hst : SameButSecrets db db') (hothers : List.Forall₂ SameAuthData others others')
    (ha : SameAuthData a a') :
    AuthData.model.constraints db others a = AuthData.model.constraints db' others' a' := by
  have hconnections : db'.connections = db.connections := by rw [hst.rest]
  have hany := any_of_sameRows hothers (fun id => id == a.connectionId)
  simp only [AuthData.model, hconnections, ← ha.connectionId, hany]

theorem agree_insertAuthData {a a' : AuthData} (ha : SameAuthData a a') :
    Agree SameButSecrets SameAuthData (insertRow AuthData.model a)
      (insertRow AuthData.model a') := by
  refine agree_bind (agree_query (fun s t hst => sameResult_of_eq ?_)) (fun _ _ _ => ?_)
  · exact congrArg firstViolation (constraints_eq hst hst.authData ha)
  · refine agree_bind (agree_execute (fun s t hst => ?_)) (fun _ _ _ => agree_pure ha)
    have hrows := List.rel_append hst.authData (List.Forall₂.cons ha List.Forall₂.nil)
    exact ⟨by rw [hst.rest]; rfl, hrows⟩

theorem agree_updateAuthData {connectionId : Id} {values values' : AuthData → AuthData}
    (hvalues : ∀ a a', SameAuthData a a' → SameAuthData (values a) (values' a')) :
    Agree SameButSecrets SameAuthData
      (updateRow AuthData.model (fun a => a.connectionId == connectionId) values)
      (updateRow AuthData.model (fun a => a.connectionId == connectionId) values') := by
  refine agree_bind (P := SameAuthData) (agree_query (fun s t hst => ?_)) (fun a a' ha => ?_)
  · exact sameResult_one (sameRows_filter hst.authData (fun id => id == connectionId))
  · refine agree_bind (agree_query (fun s t hst => sameResult_of_eq ?_)) (fun _ _ _ => ?_)
    · refine congrArg firstViolation (constraints_eq hst ?_ (hvalues a a' ha))
      exact sameRows_filter hst.authData (fun id => !(id == connectionId))
    · refine agree_bind (agree_execute (fun s t hst => ?_))
        (fun _ _ _ => agree_pure (hvalues a a' ha))
      -- The same row is replaced on both sides, for which connection it is no secret.
      have hrows : List.Forall₂ SameAuthData
          (Table.update (fun a => a.connectionId == connectionId) values s.authData)
          (Table.update (fun a => a.connectionId == connectionId) values' t.authData) := by
        refine List.forall₂_map_left_iff.mpr (List.forall₂_map_right_iff.mpr ?_)
        refine hst.authData.imp (fun b b' hb => ?_)
        beta_reduce
        rw [← hb.connectionId]
        by_cases hkey : (b.connectionId == connectionId) = true
        · rw [if_pos hkey, if_pos hkey]
          exact hvalues b b' hb
        · rw [if_neg hkey, if_neg hkey]
          exact hb
      exact ⟨by rw [hst.rest]; rfl, hrows⟩

end Statements

/-! ## Endpoints -/

section Endpoints

variable {now : Time} {sent : SendTask} {user : User}

theorem agree_readConnection_byId (connectionId : Id) :
    Agree SameButSecrets Eq (ConnectionRepository.readById connectionId)
      (ConnectionRepository.readById connectionId) :=
  agree_catching (agree_query_frame (fun _ _ => rfl))

theorem agree_readConnection (connectionId : Id) :
    Agree SameButSecrets Eq (readConnection user connectionId) (readConnection user connectionId) := by
  refine agree_bind_eq (agree_query_frame (fun _ _ => rfl)) (fun _ => ?_)
  refine agree_bind_eq (agree_raiseIf _ _) (fun _ => ?_)
  refine agree_bind_eq (agree_readConnection_byId connectionId) (fun c => ?_)
  refine agree_bind (P := Option.Rel SameAuthValue) (agree_recovering ?_ ?_) ?_
  · intro e credentials h
    unfold noCredentials at h
    split at h
    · rw [← Option.some.inj h]
      exact Option.Rel.none
    · cases h
  · exact agree_bind (agree_readCredentials c.id) (fun _ _ h => agree_pure (Option.Rel.some h))
  · intro credentials credentials' h
    cases h with
    | none => exact agree_pure rfl
    | some h => exact agree_pure (readConnectionSchema_eq c h)

/-- The credentials of a page, by connection. -/
theorem lookup_readBulk {rows rows' : List AuthData} (h : List.Forall₂ SameAuthData rows rows')
    (connectionId : Id) :
    Option.Rel SameAuthValue ((rows.map (fun a => (a.connectionId, a.value))).lookup connectionId)
      ((rows'.map (fun a => (a.connectionId, a.value))).lookup connectionId) := by
  induction h with
  | nil => exact Option.Rel.none
  | cons ha _ ih =>
      rw [List.map_cons, List.map_cons, List.lookup_cons, List.lookup_cons, ← ha.connectionId]
      split
      · exact Option.Rel.some ha.value
      · exact ih

theorem agree_readConnections (listing : Listing) (params : ReadConnectionsParams) :
    Agree SameButSecrets Eq (readConnections listing user params)
      (readConnections listing user params) := by
  refine agree_bind_eq (agree_query_frame (fun _ _ => rfl)) (fun _ => ?_)
  refine agree_bind_eq (agree_raiseIf _ _) (fun _ => ?_)
  refine agree_bind_eq (agree_bind_eq (agree_raiseIf _ _)
    (fun _ => agree_query_frame (fun _ _ => rfl))) (fun pagination => ?_)
  refine agree_bind (P := fun credentials credentials' => ∀ connectionId : Id,
    Option.Rel SameAuthValue (credentials.lookup connectionId) (credentials'.lookup connectionId))
    (agree_query (fun s t hst => ?_)) (fun credentials credentials' h => agree_pure ?_)
  · exact fun connectionId => lookup_readBulk
      (sameRows_filter hst.authData (fun id => (pagination.items.map (fun c => c.id)).contains id))
      connectionId
  · refine congrArg (ConnectionPageSchema.mk _) (List.map_congr_left (fun c _ => ?_))
    have hc := h c.id
    -- A connection has credentials in both databases or in neither.
    cases hl : credentials.lookup c.id with
    | none =>
        rw [hl] at hc
        cases hl' : credentials'.lookup c.id with
        | none => rfl
        | some v =>
            rw [hl'] at hc
            cases hc
    | some v =>
        rw [hl] at hc
        cases hl' : credentials'.lookup c.id with
        | none =>
            rw [hl'] at hc
            cases hc
        | some v' =>
            rw [hl'] at hc
            cases hc with
            | some h => exact readConnectionSchema_eq c h

/-- The responses that end a request on a connection. -/
theorem agree_respond (c : Connection) :
    Agree SameButSecrets Eq
      (do
        let credentials ← CredentialsRepository.read c.id
        return readConnectionSchema c (some credentials))
      (do
        let credentials ← CredentialsRepository.read c.id
        return readConnectionSchema c (some credentials)) :=
  agree_bind (agree_readCredentials c.id) (fun _ _ h => agree_pure (readConnectionSchema_eq c h))

theorem agree_createConnection {body body' : CreateConnectionSchema}
    (h : SameBodyButSecrets body body') :
    Agree SameButSecrets Eq (createConnection now user body) (createConnection now user body') := by
  rw [h.rest]
  refine agree_bind_eq (agree_query_frame (fun _ _ => rfl)) (fun _ => ?_)
  refine agree_bind_eq (agree_raiseIf _ _) (fun _ => ?_)
  refine agree_bind_eq (agree_raiseIf _ _) (fun _ => ?_)
  refine agree_bind_eq (agree_unitOfWork ?_) agree_respond
  refine agree_bind_eq ?_ (fun c => ?_)
  · exact agree_bind_eq (agree_nextval _) (fun _ =>
      agree_catching (agree_insertRow blind_connection _))
  · refine agree_bind (agree_catching (agree_insertAuthData ?_)) (fun _ _ _ => agree_pure rfl)
    exact ⟨rfl, rfl, rfl, h.authData⟩

theorem agree_updateConnection (connectionId : Id) (body : UpdateConnectionSchema) :
    Agree SameButSecrets Eq (updateConnection now user connectionId body)
      (updateConnection now user connectionId body) := by
  refine agree_bind_eq (agree_query_frame (fun _ _ => rfl)) (fun _ => ?_)
  refine agree_bind_eq (agree_raiseIf _ _) (fun _ => ?_)
  refine agree_bind_eq (agree_raiseIf _ _) (fun _ => ?_)
  refine agree_bind_eq (agree_unitOfWork ?_) (fun c => ?_)
  · refine agree_bind_eq (agree_readConnection_byId connectionId) (fun _ => ?_)
    refine agree_bind_eq (agree_query_frame (fun _ _ => rfl)) (fun _ => ?_)
    refine agree_bind_eq (agree_raiseIf _ _) (fun _ => ?_)
    refine agree_bind (agree_readCredentials connectionId) (fun stored stored' hstored => ?_)
    refine agree_bind (P := SameAuthValue) (agree_query (fun _ _ _ => ?_))
      (fun authData authData' hauth => ?_)
    · exact keepSecrets_agree hstored rfl (List.forall₂_same.mpr (fun _ _ => ⟨rfl, fun _ => rfl⟩))
        (fun _ hf => absurd hf List.not_mem_nil) (secretFields_subset _)
        (fun _ _ => List.not_mem_nil) (nodup_secretFields _)
    · refine agree_bind_eq ?_ (fun _ => ?_)
      · exact agree_catching (agree_catching (agree_updateRow blind_connection _ _))
      · refine agree_bind (agree_catching (agree_catching (agree_updateAuthData ?_)))
          (fun _ _ _ => agree_pure rfl)
        exact fun a a' ha => ⟨ha.connectionId, ha.createdAt, rfl, hauth⟩
  · exact agree_bind (agree_readCredentials connectionId)
      (fun _ _ h => agree_pure (readConnectionSchema_eq c h))

/-- The run is created from the dumps of the `Read` schemas, which are equal. -/
theorem agree_createAndSendRun (transfer : Transfer) (type : RunType) :
    Agree SameButSecrets Eq (createAndSendRun now transfer type sent)
      (createAndSendRun now transfer type sent) := by
  refine agree_bind (agree_readCredentials _) (fun source source' hsource => ?_)
  refine agree_bind (agree_readCredentials _) (fun target target' htarget => ?_)
  rw [readAuthData_eq hsource, readAuthData_eq htarget]
  refine agree_bind_eq (agree_unitOfWork ?_) (fun run => ?_)
  · refine agree_bind_eq ?_ (fun _ => ?_)
    · exact agree_bind_eq (agree_query_frame (fun _ _ => rfl)) (fun _ =>
        agree_bind_eq (agree_query_frame (fun _ _ => rfl)) (fun _ =>
          agree_bind_eq (agree_query_frame (fun _ _ => rfl)) (fun _ => agree_pure rfl)))
    · exact agree_bind_eq (agree_nextval _) (fun _ => agree_catching (agree_insertRow blind_run _))
  · cases sent with
    | returned => exact agree_pure rfl
    | kombuError =>
        refine agree_bind_eq (agree_unitOfWork ?_) (fun _ => agree_throw _)
        exact agree_catching (agree_catching (agree_updateRow blind_run _ _))
    | otherError => exact agree_throw _

theorem agree_startRun (body : CreateRunSchema) :
    Agree SameButSecrets Eq (startRun now sent user body) (startRun now sent user body) := by
  refine agree_bind_eq (agree_query_frame (fun _ _ => rfl)) (fun _ => ?_)
  refine agree_bind_eq (agree_raiseIf _ _) (fun _ => ?_)
  refine agree_bind_eq (agree_raiseIf _ _) (fun _ => ?_)
  refine agree_bind_eq (agree_catching (agree_query_frame (fun _ _ => rfl))) (fun transfer => ?_)
  refine agree_bind_eq (agree_catching (agree_query_frame (fun _ _ => rfl))) (fun _ => ?_)
  exact agree_createAndSendRun transfer .manual

theorem agree_sendJobToCelery (transferId : Id) :
    Agree SameButSecrets Eq (sendJobToCelery now sent transferId)
      (sendJobToCelery now sent transferId) := by
  refine agree_bind_eq (agree_query_frame (fun _ _ => rfl)) (fun transfers => ?_)
  cases transfers with
  | nil => exact agree_pure rfl
  | cons transfer _ =>
      exact agree_bind_eq (agree_createAndSendRun transfer .scheduled) (fun _ => agree_pure rfl)

end Endpoints

/-! ## All of them -/

/-- The two runs return the same or raise the same error, and leave databases
    that differ in stored secrets only. -/
def SameAnswer {α : Type} (x y : Db α) (db db' : Database) : Prop :=
  (∃ a s s', Returns x db a s ∧ Returns y db' a s' ∧ SameButSecrets s s') ∨
    ∃ e s s', Raises x db e s ∧ Raises y db' e s' ∧ SameButSecrets s s'

/-- Nothing that leaves the credentials table tells the databases apart. -/
structure SecretsStay (db db' : Database) : Prop where
  one : ∀ user connectionId,
    SameAnswer (readConnection user connectionId) (readConnection user connectionId) db db'
  page : ∀ listing user params, SameAnswer (readConnections listing user params)
    (readConnections listing user params) db db'
  update : ∀ now user connectionId body,
    SameAnswer (updateConnection now user connectionId body)
      (updateConnection now user connectionId body) db db'
  create : ∀ now user body body', SameBodyButSecrets body body' →
    SameAnswer (createConnection now user body) (createConnection now user body') db db'
  run : ∀ now sent user body,
    SameAnswer (startRun now sent user body) (startRun now sent user body) db db'
  runRows : ∀ now sent user body,
    (after (startRun now sent user body) db).runs = (after (startRun now sent user body) db').runs
  scheduledRun : ∀ now sent transferId,
    SameAnswer (sendJobToCelery now sent transferId) (sendJobToCelery now sent transferId) db db'
  scheduledRows : ∀ now sent transferId,
    (after (sendJobToCelery now sent transferId) db).runs =
      (after (sendJobToCelery now sent transferId) db').runs

section Answers

variable {α : Type} {x y : Db α} {db db' : Database}

theorem sameAnswer_of_agree (h : Agree SameButSecrets Eq x y) (hdb : SameButSecrets db db') :
    SameAnswer x y db db' := by
  rcases h db db' hdb with ⟨a, b, s, s', ha, hb, hab, hs⟩ | ⟨e, s, s', ha, hb, hs⟩
  · rw [← hab] at hb
    exact Or.inl ⟨a, s, s', ha, hb, hs⟩
  · exact Or.inr ⟨e, s, s', ha, hb, hs⟩

/-- The runs are not credentials. -/
theorem runs_eq_of_agree (h : Agree SameButSecrets Eq x y) (hdb : SameButSecrets db db') :
    (after x db).runs = (after y db').runs := by
  rcases sameAnswer_of_agree h hdb with ⟨a, s, s', ha, hb, hs⟩ | ⟨e, s, s', ha, hb, hs⟩
  · rw [after_of_returns ha, after_of_returns hb, hs.rest]
  · rw [after_of_raises ha, after_of_raises hb, hs.rest]

/-- Secrets never leave the credentials table. -/
theorem secrets_stay (h : SameButSecrets db db') : SecretsStay db db' where
  one := fun _ connectionId => sameAnswer_of_agree (agree_readConnection connectionId) h
  page := fun listing _ params =>
    sameAnswer_of_agree (agree_readConnections listing params) h
  update := fun _ _ connectionId body =>
    sameAnswer_of_agree (agree_updateConnection connectionId body) h
  create := fun _ _ _ _ hbody => sameAnswer_of_agree (agree_createConnection hbody) h
  run := fun _ _ _ body => sameAnswer_of_agree (agree_startRun body) h
  runRows := fun _ _ _ body => runs_eq_of_agree (agree_startRun body) h
  scheduledRun := fun _ _ transferId =>
    sameAnswer_of_agree (agree_sendJobToCelery transferId) h
  scheduledRows := fun _ _ transferId =>
    runs_eq_of_agree (agree_sendJobToCelery transferId) h

end Answers

/-- Every stored secret replaced by one string. -/
def Database.withSecrets (db : Database) (secret : String) : Database :=
  { db with
    authData := db.authData.map (fun a => { a with value := { a.value with
      fields := a.value.fields.map (fun kv =>
        (kv.1, if secretNames.contains kv.1 then .str secret else kv.2)) } }) }

theorem sameButSecrets_withSecrets (db : Database) (secret : String) :
    SameButSecrets db (db.withSecrets secret) := by
  refine ⟨rfl, List.forall₂_map_right_iff.mpr (List.forall₂_same.mpr (fun a _ => ?_))⟩
  refine ⟨rfl, rfl, rfl, rfl, List.forall₂_map_right_iff.mpr (List.forall₂_same.mpr ?_)⟩
  intro kv _
  refine ⟨rfl, fun hnot => ?_⟩
  rw [if_neg (fun hin => hnot (List.contains_iff_mem.mp hin))]

theorem secrets_stay_copied :
    SecretsStay (copiedEvents.foldl Database.step Database.empty)
      ((copiedEvents.foldl Database.step Database.empty).withSecrets "another secret") :=
  secrets_stay (sameButSecrets_withSecrets _ _)

end SyncMaster
