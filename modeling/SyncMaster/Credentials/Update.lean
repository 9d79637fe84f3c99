import SyncMaster.Credentials.Stored
import SyncMaster.Server.Driver
import SyncMaster.Server.FailedRequests

/-!
# Credentials of an Updated Connection

What becomes of the credentials when a connection is updated by a request that
passes validation, has the permission, and does not run into a name or a
transfer that is in its way.

The contract has two cases. Either the secrets of the new credentials are all
there, in the request or in stored credentials of the same type, and then the
request succeeds and stores them. Or they are not, and then it is refused and
nothing changes.

The second case is kept always. The first one fails in two ways. The endpoint
reads the stored credentials before it looks at the request, and a connection
that was copied has none, so the request is refused even when it supplies every
secret; `read_connection` of such a connection answers without credentials
instead. And the schema accepts what cannot be written: a long description, a text
with a NUL, an infinite number or too deep a value among the additional parameters.

## Main definitions

* `storedCredentials`: The credentials of a connection, if it has any.
* `Mergeable`: Every secret is in the request or in the store.
* `UpdateAllowed`: The request passes the checks that are not about credentials.
* `Driver.putConnection`: The request.
* `CredentialsContract`: The contract.

## Theorems

* `mergeable_of_returns`, `returns_of_mergeable`: When the request succeeds.
* `raises_of_not_mergeable`: Otherwise it is refused and changes nothing.
* `credentialsContract_iff`: When the contract is kept.
-/

namespace SyncMaster

open Program

/-- The credentials of the connection. A copy has none. -/
def storedCredentials (db : Database) (connectionId : Id) : Option AuthValue :=
  (db.authData.find? (fun a => a.connectionId == connectionId)).map (fun a => a.value)

/-- Every secret that the type needs is in the request, or the stored
    credentials are of that type. -/
def Mergeable (db : Database) (connectionId : Id) (authData : AuthValue) : Prop :=
  ¬ Omits authData ∨
    ∃ stored, storedCredentials db connectionId = some stored ∧ stored.type = authData.type

/-- The request passes validation and every check that has nothing to do with
    credentials. -/
structure UpdateAllowed (db : Database) (userId : Id) (user : User) (c : Connection)
    (body : UpdateConnectionSchema) : Prop where
  found : db.users.find? (fun u => u.id == userId) = some user
  active : user.isActive = true
  connection : c ∈ db.connections
  permission : Permitted memberRights db user c.groupId .write
  valid : ValidUpdate body
  nameFree : ∀ d ∈ db.connections, d.groupId = c.groupId → d.name = body.name.val → d.id = c.id
  typeKept : body.type = c.type ∨ Unused db c

/-- `PUT /v1/connections/{id}`, of the user that the access token names. -/
def Driver.putConnection (driver : Driver) (now : Time) (userId connectionId : Id)
    (body : UpdateConnectionSchema) : Db ReadConnectionSchema := do
  let currentUser ← getUser userId
  driver.updateConnection now currentUser connectionId body

/-- The contract of `update_connection` about credentials. -/
def CredentialsContract (driver : Driver) (now : Time) (userId : Id) (db : Database)
    (connectionId : Id) (body : UpdateConnectionSchema) : Prop :=
  let request := driver.putConnection now userId connectionId body
  (Mergeable db connectionId body.authData →
    ∃ response db', Returns request db response db' ∧
      storedCredentials db' connectionId =
        some (mergedAuthData (storedCredentials db connectionId) body.authData)) ∧
  (¬ Mergeable db connectionId body.authData →
    ∃ e db', Raises request db e db' ∧ db'.connections = db.connections ∧
      db'.authData = db.authData)

/-- The connection has credentials, and the columns take what the request writes. The
    name is bounded by the schema. -/
structure UpdateCondition (driver : Driver) (db : Database) (connectionId : Id)
    (body : UpdateConnectionSchema) : Prop where
  credentials : (storedCredentials db connectionId).isSome = true
  columns : body.FitsColumns
  levels : (Json.obj body.data).depth ≤ driver.levels
  vector : driver.vectorSize body.searchedTexts < 2 ^ 20

variable {driver : Driver} {now : Time} {db db' : Database} {connectionId : Id}

theorem storedCredentials_of_filter {a : AuthData}
    (h : db.authData.filter (fun b => b.connectionId == connectionId) = [a]) :
    storedCredentials db connectionId = some a.value := by
  unfold storedCredentials
  rw [← List.head?_filter, h]
  rfl

theorem exists_filter_of_storedCredentials (hdb : Consistent db) {value : AuthValue}
    (h : storedCredentials db connectionId = some value) :
    ∃ a, db.authData.filter (fun b => b.connectionId == connectionId) = [a] ∧ a.value = value := by
  rcases Option.map_eq_some_iff.mp h with ⟨a, hfind, hvalue⟩
  have hkey := List.find?_some hfind
  have hid : a.connectionId = connectionId := beq_iff_eq.mp hkey
  exact ⟨a, Table.filter_key_eq _ hdb.keys.authData (List.mem_of_find?_eq_some hfind) hid, hvalue⟩

/-- An omitted secret is taken from credentials of the same type or not at
    all. -/
theorem mergeable_iff {stored : AuthData} {authData : AuthValue}
    (h : db.authData.filter (fun b => b.connectionId == connectionId) = [stored]) :
    Mergeable db connectionId authData ↔ (Omits authData → stored.value.type = authData.type) := by
  unfold Mergeable
  rw [storedCredentials_of_filter h]
  simp only [Option.some.injEq, exists_eq_left']
  exact imp_iff_not_or.symm

section Allowed

variable {userId : Id} {user : User} {c : Connection} {body : UpdateConnectionSchema}

/-- The loop over the secrets, for stored credentials. -/
theorem keepSecrets_stored {stored authData : AuthValue} (hvalid : UpdateCredentials body.authData)
    (hstored : StoredCredentials stored) :
    keepSecrets stored body.authData.type.secretFields body.authData = .ok authData ↔
      (Omits body.authData → stored.type = body.authData.type) ∧
        authData = mergedAuthData (some stored) body.authData := by
  have hkeys := keys_of_update hvalid
  refine keepSecrets_eq_ok ?_ (fun f hf => ?_) (fun htype f hf => ?_)
  · rw [hkeys]
    exact body.authData.type.nodup_fieldNames
  · rw [hkeys]
    exact mem_fieldNames_of_secret hf
  · rw [keys_of_stored hstored, htype]
    exact mem_fieldNames_of_secret hf

theorem listByConnectionId_of_unused (h : Unused db c) :
    TransferRepository.listByConnectionId db c.id = [] := by
  refine List.filter_eq_nil_iff.mpr (fun t ht => ?_)
  rw [Bool.or_eq_true, beq_iff_eq, beq_iff_eq, not_or]
  exact h t ht

/-- The database takes the row of the connection when it fits. -/
theorem updated_satisfied (now : Time) (hdb : Consistent db) (h : UpdateAllowed db userId user c body)
    (hcondition : UpdateCondition driver db connectionId body) :
    Connection.model.Satisfied db (Table.delete (fun d => d.id == c.id) db.connections)
      (ConnectionRepository.updated now body c) := by
  refine connection_satisfied.mpr ⟨ConnectionRepository.updated_columnsFit.mpr hcondition.columns, fun d hd hname hgroup => ?_,
    hdb.groupLinks.connectionGroup c h.connection⟩
  rcases Table.mem_delete.mp hd with ⟨hmem, hother⟩
  rw [beq_eq_false_iff_ne] at hother
  exact hother (h.nameFree d hmem hgroup hname)

/-- The database takes the credentials of a connection that has some. -/
theorem updateAuthData_checked (now : Time) (authData : AuthValue) {stored : AuthData}
    {row : Connection} {db₁ : Database} (hc : c ∈ db.connections) (hid : stored.connectionId = c.id)
    (hupdate : checkedStep db (.updateConnection row) db₁) (hrow : row.id = c.id) :
    Write.Checked db₁
      (.updateAuthData (CredentialsRepository.updated now authData stored)) := by
  have hother : ∀ b ∈ Table.delete (fun b : AuthData => b.connectionId == stored.connectionId)
      db₁.authData, b.connectionId ≠ stored.connectionId := by
    intro b hb
    exact beq_eq_false_iff_ne.mp (Table.mem_delete.mp hb).2
  have hthere : ∃ d ∈ db₁.connections, d.id = stored.connectionId := by
    refine ⟨row, ?_, hrow.trans hid.symm⟩
    rw [hupdate.2]
    refine Table.mem_update.mpr ⟨c, hc, ?_⟩
    rw [if_pos (beq_iff_eq.mpr hrow.symm)]
  simp only [Write.Checked, Model.Satisfied, AuthData.model, List.forall_mem_cons,
    Bool.not_eq_true', List.any_eq_false, List.any_eq_true, beq_iff_eq]
  exact ⟨hother, hthere, fun _ hnil => absurd hnil List.not_mem_nil⟩

/-- The request is answered with what it wrote, and it is one that the driver takes. -/
theorem returns_putConnection (hallowed : UpdateAllowed db userId user c body)
    {response : ReadConnectionSchema} :
    Returns (driver.putConnection now userId connectionId body) db response db' ↔
      driver.takesConnection body = true ∧
      ∃ old stored authData db₁,
        ConnectionUpdated db user now connectionId body old stored authData db₁ db' ∧
        response = readConnectionSchema (ConnectionRepository.updated now body old)
          (some authData) := by
  constructor
  · intro h
    rcases returns_bind.mp h with ⟨u, _, huser, hupdate⟩
    rcases returns_getUser.mp huser with ⟨hfound, _, hsame⟩
    rw [hallowed.found, Option.some.injEq] at hfound
    rw [← hfound, ← hsame] at hupdate
    have htakes := Driver.takesConnection_of_returns hupdate
    rw [Driver.updateConnection_eq htakes] at hupdate
    exact ⟨htakes, returns_updateConnection.mp hupdate⟩
  · intro h
    rcases h with ⟨htakes, hupdated⟩
    have hupdate := returns_updateConnection.mpr hupdated
    rw [← Driver.updateConnection_eq htakes] at hupdate
    exact returns_bind.mpr
      ⟨user, db, returns_getUser.mpr ⟨hallowed.found, hallowed.active, rfl⟩, hupdate⟩

theorem takesConnection_iff :
    driver.takesConnection body = true ↔
      (Json.obj body.data).depth ≤ driver.levels ∧
        driver.vectorSize body.searchedTexts < 2 ^ 20 := by
  rw [Driver.takesConnection, Driver.takes_iff, List.forall_mem_singleton]

/-- The connection is found, and its credentials are whole. -/
theorem stored_of_allowed (hdb : ValidlyReachable db)
    (hallowed : UpdateAllowed db userId user c body) {a : AuthData}
    (ha : db.authData.filter (fun b => b.connectionId == c.id) = [a]) :
    StoredCredentials a.value := by
  have hmem := Table.mem_of_filter_eq ha
  exact stored_of_acceptedTogether (wellStored_of_reachable hdb c hallowed.connection a hmem.1
    (beq_iff_eq.mp hmem.2))

/-- What a request that succeeds has found. -/
theorem mergeable_of_returns (hdb : ValidlyReachable db)
    (hallowed : UpdateAllowed db userId user c body) {response : ReadConnectionSchema}
    (h : Returns (driver.putConnection now userId c.id body) db response db') :
    Mergeable db c.id body.authData ∧ UpdateCondition driver db c.id body := by
  rcases (returns_putConnection hallowed).mp h with
    ⟨htakes, old, stored, authData, db₁, hupdated, _⟩
  have hstored := hupdated.credentials
  have hkept := (keepSecrets_stored (updateCredentials_of_valid hallowed.valid)
    (stored_of_allowed hdb hallowed hstored)).mp hupdated.secrets
  have hfit := (connection_satisfied.mp hupdated.row.1).1
  have hsome : (storedCredentials db c.id).isSome = true := by
    rw [storedCredentials_of_filter hstored]
    rfl
  rcases takesConnection_iff.mp htakes with ⟨hlevels, hvector⟩
  exact ⟨(mergeable_iff hstored).mpr hkept.1, hsome,
    ConnectionRepository.updated_columnsFit.mp hfit, hlevels, hvector⟩

/-- When the secrets are there and nothing else is in the way, the request
    stores them. -/
theorem returns_of_mergeable (now : Time) (hdb : ValidlyReachable db)
    (hallowed : UpdateAllowed db userId user c body)
    (hmergeable : Mergeable db c.id body.authData)
    (hcondition : UpdateCondition driver db c.id body) :
    ∃ response db', Returns (driver.putConnection now userId c.id body) db response db' ∧
      storedCredentials db' c.id =
        some (mergedAuthData (storedCredentials db c.id) body.authData) := by
  have hcons : Consistent db := reachable_consistent (reachable_of_validly hdb)
  rcases Option.isSome_iff_exists.mp hcondition.credentials with ⟨value, hvalue⟩
  rcases exists_filter_of_storedCredentials hcons hvalue with ⟨stored, hstored, _⟩
  have hid : stored.connectionId = c.id := Table.key_of_filter_eq hstored
  -- The two writes pass the constraints, one after the other.
  have hsatisfied := updated_satisfied now hcons hallowed hcondition
  have hrow : ∃ db₁,
      checkedStep db (.updateConnection (ConnectionRepository.updated now body c)) db₁ :=
    ⟨_, hsatisfied, rfl⟩
  rcases hrow with ⟨db₁, hrow⟩
  have hcreds : ∃ db', checkedStep db₁ (.updateAuthData (CredentialsRepository.updated now
      (mergedAuthData (some stored.value) body.authData) stored)) db' :=
    ⟨_, updateAuthData_checked now _ hallowed.connection hid hrow rfl, rfl⟩
  rcases hcreds with ⟨db', hcreds⟩
  have hupdated : ConnectionUpdated db user now c.id body c stored
      (mergedAuthData (some stored.value) body.authData) db₁ db' := {
    found := Table.filter_key_eq _ hcons.keys.connections hallowed.connection rfl
    permission := resourcePermission_of_permitted hcons.keys.userGroups
      hcons.keys.connections hallowed.connection hallowed.permission
    typeKept := fun htype => by
      rcases hallowed.typeKept with hsame | hunused
      · exact absurd hsame htype
      · exact listByConnectionId_of_unused hunused
    credentials := hstored
    secrets := (keepSecrets_stored (updateCredentials_of_valid hallowed.valid)
      (stored_of_allowed hdb hallowed hstored)).mpr ⟨(mergeable_iff hstored).mp hmergeable, rfl⟩
    row := hrow
    authData := hcreds }
  have htakes := takesConnection_iff.mpr ⟨hcondition.levels, hcondition.vector⟩
  refine ⟨_, db', (returns_putConnection hallowed).mpr ⟨htakes, _, _, _, _, hupdated, rfl⟩, ?_⟩
  have hauthData : db₁.authData = db.authData := by
    rw [hrow.2]
    rfl
  have hstored₁ : db₁.authData.filter (fun b => b.connectionId == c.id) = [stored] := by
    rw [hauthData, hstored]
  have hread := filter_updateAuthData
    (a := CredentialsRepository.updated now _ stored) hstored₁ hid hcreds
  rw [storedCredentials_of_filter hread, storedCredentials_of_filter hstored]
  rfl

/-- A request whose secrets are missing is refused, and changes neither the
    connections nor the credentials. -/
theorem raises_of_not_mergeable (now : Time) (hdb : ValidlyReachable db)
    (hallowed : UpdateAllowed db userId user c body)
    (h : ¬ Mergeable db c.id body.authData) :
    ∃ e db', Raises (driver.putConnection now userId c.id body) db e db' ∧
      db'.connections = db.connections ∧ db'.authData = db.authData := by
  rcases returns_or_raises (driver.putConnection now userId c.id body) db with
    ⟨response, db', hreturns⟩ | ⟨e, db', hraises⟩
  · exact absurd (mergeable_of_returns hdb hallowed hreturns).1 h
  · refine ⟨e, db', hraises, ?_⟩
    have hclean : CleanFailure Unchanged (driver.putConnection now userId c.id body) :=
      cleanFailure_read (readOnly_getUser userId) (fun _ => Driver.cleanFailure_updateConnection)
    have hunchanged := hclean db e db' hraises
    rw [hunchanged.1]
    exact ⟨rfl, rfl⟩

end Allowed

/-! ## A copy that is given credentials -/

/-- The schema of a new name and a new password. -/
def renewedSchema : ConnectionSchema (Option String) where
  data := warehouseSchema.data
  authData := .basic "user" (some "new secret")
  inUnion := by decide
  dataMatch := rfl

def renewed : UpdateConnectionSchema where
  groupId := 1
  name := ⟨"renewed copy", by decide⟩
  description := ""
  type := renewedSchema.data.type
  data := renewedSchema.data.modelDump
  authData := UpdateAuthSchema.modelDump renewedSchema.authData

/-- The owner may update the copy, and supplies the password. -/
theorem updateAllowed_copied :
    ∃ user c, c.id = 2 ∧
      UpdateAllowed (copiedEvents.foldl Database.step Database.empty) 1 user c renewed := by
  have hconnection : ((copiedEvents.foldl Database.step Database.empty).connections.any (fun c =>
      c.id == 2 && c.groupId == 1 && c.type == .postgres)) = true := by
    decide +kernel
  rcases List.any_eq_true.mp hconnection with ⟨c, hc, hcolumns⟩
  simp only [Bool.and_eq_true, beq_iff_eq] at hcolumns
  have howner : (⟨⟨1, 1⟩, 1, "first", "", 1⟩ : Group) ∈
      (copiedEvents.foldl Database.step Database.empty).groups := by
    decide +kernel
  have hfree : ∀ d ∈ (copiedEvents.foldl Database.step Database.empty).connections,
      d.name ≠ "renewed copy" := by
    decide +kernel
  refine ⟨⟨1, "owner", false, true⟩, c, hcolumns.1.1, ?_⟩
  exact {
    found := by decide +kernel
    active := rfl
    connection := hc
    permission := Or.inr (Or.inl ⟨_, howner, hcolumns.1.2.symm, rfl⟩)
    valid := ⟨renewedSchema, rfl, rfl, rfl⟩
    nameFree := fun d hd _ hname => absurd hname (hfree d hd)
    typeKept := Or.inl hcolumns.2.symm }

theorem not_omits_renewed : ¬ Omits renewed.authData := by
  intro h
  rcases h with ⟨f, hf, hnull⟩
  rw [List.mem_singleton.mp hf] at hnull
  cases hnull

end SyncMaster
