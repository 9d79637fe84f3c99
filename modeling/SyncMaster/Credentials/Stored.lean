import SyncMaster.Credentials.Secrets
import SyncMaster.Schemas.Connections
import SyncMaster.Tenancy.SameGroup

/-!
# Stored Credentials

What the connections and the credentials of a reachable state look like.

The database takes any dictionary. That `connection.data` and the credentials
of the connection are dumps of schemas that go together is an invariant of the
service, because both are written by the requests that validate them, together.
The events of this file are therefore those whose bodies pass validation.

A connection without credentials satisfies the invariant as well. The copies
are such connections, and nothing but `create_connection` ever inserts
credentials.

## Main definitions

* `Event.Valid`: The body of the request passes validation.
* `ValidlyReachable`: The states that valid events lead to.
* `AcceptedTogether`: Data and credentials that one schema accepts.
* `WellStored`: The invariant.

## Theorems

* `validlyReachable_of_outcomes`: The rule for invariants of these states.
* `wellStored_of_reachable`: Credentials go with the data of their connection.
-/

namespace SyncMaster

/-- The body of a connection request is what the schema of its route accepts. -/
def Event.Valid : Event → Prop
  | .request _ _ _ (.createConnection body) => ValidCreate body
  | .request _ _ _ (.updateConnection _ body) => ValidUpdate body
  | _ => True

/-- The states of the service, by events whose bodies pass validation. -/
def ValidlyReachable (db : Database) : Prop :=
  Machine.Reachable (Machine.restrict (fun _ e => e.Valid) (Machine.graph Database.step))
    Database.empty db

theorem validlyReachable_foldl {events : List Event} (h : ∀ e ∈ events, e.Valid) :
    ValidlyReachable (events.foldl Database.step Database.empty) := by
  refine ⟨events, Machine.run_restrict_graph.mpr ⟨?_, rfl⟩⟩
  refine Machine.along_iff.mpr (fun before e after hevents => h e ?_)
  rw [hevents]
  exact List.mem_append_right before List.mem_cons_self

theorem reachable_of_validly {db : Database} (h : ValidlyReachable db) : Reachable db :=
  Machine.reachable_of_restrict h

/-- What the outcomes of the valid requests keep holds in every state that valid
    events lead to. -/
theorem validlyReachable_of_outcomes {I : Database → Prop} (hempty : I Database.empty)
    (hframe : ∀ db db', SameResources db db' → I db → I db')
    (houtcome : ∀ db now sent userId request user db', Consistent db → I db →
      (Event.request now sent userId request).Valid →
      Accepted db now userId request user db' → I db')
    {db : Database} (hdb : ValidlyReachable db) : I db := by
  have hboth : Consistent db ∧ I db := by
    refine Machine.reachable_invariant (I := fun db => Consistent db ∧ I db)
      ⟨consistent_empty, hempty⟩ ?_ hdb
    intro a e b ha hstep
    have hvalid : e.Valid := hstep.1
    have hb : a.step e = b := hstep.2
    rw [← hb]
    refine ⟨step_consistent ha.1 e, ?_⟩
    rcases step_outcome a e with hbackground | ⟨now, sent, userId, request, user, he, haccepted⟩
    · exact hframe _ _ (backgroundRun_frame hbackground) ha.2
    · rw [he] at hvalid
      exact houtcome _ now sent userId request user _ ha.1 ha.2 hvalid haccepted
  exact hboth.2

/-- The data of the connection and the credentials are dumped by one schema. -/
def AcceptedTogether (c : Connection) (authData : AuthValue) : Prop :=
  ∃ schema : ConnectionSchema String, c.type = schema.data.type ∧
    c.data = schema.data.modelDump ∧ authData = CreateAuthSchema.modelDump schema.authData

/-- Credentials go with the data of their connection. -/
def WellStored (db : Database) : Prop :=
  ∀ c ∈ db.connections, ∀ a ∈ db.authData, a.connectionId = c.id → AcceptedTogether c a.value

theorem stored_of_acceptedTogether {c : Connection} {authData : AuthValue}
    (h : AcceptedTogether c authData) : StoredCredentials authData := by
  rcases h with ⟨schema, _, _, hvalue⟩
  exact ⟨schema.authData, hvalue⟩

theorem updateCredentials_of_valid {body : UpdateConnectionSchema} (h : ValidUpdate body) :
    UpdateCredentials body.authData := by
  rcases h with ⟨schema, _, _, hvalue⟩
  exact ⟨schema.authData, hvalue⟩

section Writes

variable {db db' : Database}

theorem wellStored_of_subset (h : WellStored db)
    (hconnections : ∀ c ∈ db'.connections, c ∈ db.connections)
    (hauthData : ∀ a ∈ db'.authData, a ∈ db.authData) : WellStored db' :=
  fun c hc a ha hid => h c (hconnections c hc) a (hauthData a ha) hid

theorem wellStored_of_shrinks (h : WellStored db) (hs : Shrinks db db') : WellStored db' :=
  wellStored_of_subset h (fun _ hc => hs.connections.subset hc) (fun _ ha => hs.authData.subset ha)

/-- The write leaves the data of the connections and the credentials alone,
    insertions of connections and deletions apart. -/
def Write.KeepsCredentials : Write → Prop
  | .updateConnection _ | .insertAuthData _ | .updateAuthData _ => False
  | _ => True

theorem checkedStep_wellStored {w : Write} (hw : w.KeepsCredentials) (hdb : Consistent db)
    (h : WellStored db) (hstep : checkedStep db w db') : WellStored db' := by
  rcases hstep with ⟨hc, rfl⟩
  cases w with
  | updateConnection | insertAuthData | updateAuthData => exact hw.elim
  | insertConnection d =>
      intro c hmem a ha hid
      rcases List.mem_append.mp hmem with hold | hnew
      · exact h c hold a ha hid
      · -- There are no credentials for an identifier that is new.
        rw [List.mem_singleton.mp hnew] at hid
        rcases hdb.resourceLinks.credentials a ha with ⟨b, hb, hbid⟩
        exact absurd (hbid.trans hid) (fresh_of_below hdb.keys.connectionsBelow hc.1 b hb)
  | deleteGroup => exact wellStored_of_shrinks h (shrinks_deleteGroups _)
  | deleteConnection => exact wellStored_of_shrinks h (shrinks_deleteConnections _)
  | deleteQueue => exact wellStored_of_shrinks h (shrinks_deleteQueues _)
  | deleteTransfer => exact wellStored_of_shrinks h (shrinks_deleteTransfers _)
  | _ => exact h

/-- The credentials of a new connection, inserted after it. -/
theorem insertAuthData_wellStored {c : Connection} {a : AuthData} {db₁ : Database}
    (hdb : Consistent db) (h : WellStored db) (hinsert : checkedStep db (.insertConnection c) db₁)
    (hcreds : checkedStep db₁ (.insertAuthData a) db') (hid : a.connectionId = c.id)
    (haccepted : AcceptedTogether c a.value) : WellStored db' := by
  have hfresh := fresh_of_below hdb.keys.connectionsBelow hinsert.1.1
  have h₁ : WellStored db₁ :=
    checkedStep_wellStored (w := .insertConnection c) trivial hdb h hinsert
  have hconnections : db'.connections = db.connections ++ [c] := by
    rw [hcreds.2, hinsert.2]
    rfl
  have hauthData : db'.authData = db₁.authData ++ [a] := by rw [hcreds.2]; rfl
  intro d hd b hb hbid
  rw [hauthData] at hb
  rcases List.mem_append.mp hb with hold | hnew
  · refine h₁ d ?_ b hold hbid
    rw [hinsert.2]
    rw [hconnections] at hd
    exact hd
  · rw [List.mem_singleton.mp hnew] at hbid ⊢
    rw [hconnections] at hd
    rcases List.mem_append.mp hd with hother | hsame
    · exact absurd (hbid.symm.trans hid) (hfresh d hother)
    · rw [List.mem_singleton.mp hsame]
      exact haccepted

/-- What `update_connection` stores goes together, for the body does and the
    secrets are of the same type. -/
theorem acceptedTogether_updated {now : Time} {user : User} {connectionId : Id}
    {body : UpdateConnectionSchema} {old : Connection} {stored : AuthData} {authData : AuthValue}
    {db₁ : Database} (hvalid : ValidUpdate body) (hstored : StoredCredentials stored.value)
    (h : ConnectionUpdated db user now connectionId body old stored authData db₁ db') :
    AcceptedTogether (ConnectionRepository.updated now body old) authData := by
  rcases stored_keepSecrets hstored (updateCredentials_of_valid hvalid) h.secrets with
    ⟨merged, hmerged⟩
  rcases hvalid with ⟨schema, htype, hdata, hbody⟩
  have hauthType : merged.type = schema.authData.type := by
    have hkept := keepSecrets_type h.secrets
    rw [hmerged, hbody] at hkept
    exact hkept
  exact ⟨⟨schema.data, merged, hauthType ▸ schema.inUnion, hauthType ▸ schema.dataMatch⟩, htype,
    hdata, hmerged⟩

/-- The rows of a connection, updated one after the other. -/
theorem updateConnection_wellStored {now : Time} {user : User} {connectionId : Id}
    {body : UpdateConnectionSchema} {old : Connection} {stored : AuthData} {authData : AuthValue}
    {db₁ : Database} (h : WellStored db) (hvalid : ValidUpdate body)
    (hupdated : ConnectionUpdated db user now connectionId body old stored authData db₁ db') :
    WellStored db' := by
  have hold := Table.mem_of_filter_eq hupdated.found
  have hkept := Table.mem_of_filter_eq hupdated.credentials
  have holdId : old.id = connectionId := beq_iff_eq.mp hold.2
  have hstoredId : stored.connectionId = connectionId := beq_iff_eq.mp hkept.2
  have hstored : StoredCredentials stored.value :=
    stored_of_acceptedTogether (h old hold.1 stored hkept.1 (hstoredId.trans holdId.symm))
  have hconnections : db'.connections = Table.update (fun d => d.id == connectionId)
      (fun _ => ConnectionRepository.updated now body old) db.connections := by
    rw [hupdated.authData.2, hupdated.row.2, ← holdId]
    rfl
  have hauthData : db'.authData = Table.update (fun b => b.connectionId == connectionId)
      (fun _ => CredentialsRepository.updated now authData stored) db.authData := by
    rw [hupdated.authData.2, hupdated.row.2, ← hstoredId]
    rfl
  intro c hc a ha hid
  rw [hconnections] at hc
  rw [hauthData] at ha
  rcases Table.mem_update.mp hc with ⟨d, hd, hdc⟩
  rcases Table.mem_update.mp ha with ⟨b, hb, hba⟩
  -- The row and its credentials share the identifier, so both are written or neither is.
  by_cases hdid : (d.id == connectionId) = true
  · rw [if_pos hdid] at hdc
    by_cases hbid : (b.connectionId == connectionId) = true
    · rw [if_pos hbid] at hba
      rw [← hdc, ← hba]
      exact acceptedTogether_updated hvalid hstored hupdated
    · rw [if_neg hbid] at hba
      rw [← hba, ← hdc] at hid
      exact absurd (beq_iff_eq.mpr (hid.trans holdId)) hbid
  · rw [if_neg hdid] at hdc
    by_cases hbid : (b.connectionId == connectionId) = true
    · rw [if_pos hbid] at hba
      rw [← hba, ← hdc] at hid
      exact absurd (beq_iff_eq.mpr (hid.symm.trans hstoredId)) hdid
    · rw [if_neg hbid] at hba
      rw [← hdc, ← hba] at hid ⊢
      exact h d hd b hb hid

/-- The request writes the data of a connection or credentials. -/
def Request.OnCredentials : Request → Prop
  | .createConnection _ | .updateConnection _ _ => True
  | _ => False

theorem keepsCredentials_of_makes {request : Request} {w : Write} (hr : ¬ request.OnCredentials)
    (hw : request.Makes w) : w.KeepsCredentials := by
  cases request with
  | createConnection | updateConnection => exact absurd trivial hr
  | _ => cases w with
    | updateConnection | insertAuthData | updateAuthData => exact hw
    | _ => trivial

end Writes

/-- In every state that valid events lead to, credentials go with the data of
    their connection. -/
theorem wellStored_of_reachable {db : Database} (hdb : ValidlyReachable db) : WellStored db := by
  refine validlyReachable_of_outcomes (I := WellStored) ?_ ?_ ?_ hdb
  · intro c hc
    exact absurd hc List.not_mem_nil
  · intro db db' hsame h
    refine wellStored_of_subset h (fun c hc => ?_) (fun a ha => ?_)
    · rw [← hsame.connections]
      exact hc
    · rw [← hsame.authData]
      exact ha
  · intro db now sent userId request user db' hc h hvalid haccepted
    have houtcome := haccepted.outcome
    -- Two requests write credentials and data together, the others keep what is stored.
    by_cases hon : request.OnCredentials
    · cases houtcome with
      | @createConnection body c a db₁ _ hrow ha hinsert hcreds =>
          rcases hvalid with ⟨schema, htype, hdata, hvalue⟩
          refine insertAuthData_wellStored hc h hinsert hcreds (by rw [ha]; rfl)
            ⟨schema, ?_, ?_, ?_⟩
          · rw [hrow]
            exact htype
          · rw [hrow]
            exact hdata
          · rw [ha]
            exact hvalue
      | updateConnection hupdated => exact updateConnection_wellStored h hvalid hupdated
      | onRuns hr => exact absurd hr haccepted.notOnRuns
      | _ => exact hon.elim
    · rcases outcome_written houtcome haccepted.notOnRuns with ⟨ws, hrun⟩
      have hboth := Machine.run_invariant (I := fun db => Consistent db ∧ WellStored db)
        (fun a w b ha hstep => ⟨checkedStep_consistent ha.1 hstep.2,
          checkedStep_wellStored (keepsCredentials_of_makes hon hstep.1) ha.1 ha.2 hstep.2⟩)
        hrun ⟨hc, h⟩
      exact hboth.2

/-! ## A connection and its copy -/

/-- The data and the credentials of a database. -/
def warehouseSchema : ConnectionSchema String where
  data := .postgres "localhost" ⟨5432, by decide⟩ "warehouse" []
  authData := .basic "user" "secret"
  inUnion := by decide
  dataMatch := rfl

def warehouse : CreateConnectionSchema where
  groupId := 1
  name := (sampleConnection 1).name
  description := ""
  type := warehouseSchema.data.type
  data := warehouseSchema.data.modelDump
  authData := CreateAuthSchema.modelDump warehouseSchema.authData

/-- A connection with credentials, and a copy of it in the same group. -/
def copiedEvents : List Event := [
  .login "owner",
  .request 1 .returned 1 (.createGroup sampleGroup),
  .request 2 .returned 1 (.createConnection warehouse),
  .request 3 .returned 1 (.copyConnection 1
    { newGroupId := 1, newName := some ⟨"warehouse copy", by decide⟩ })]

theorem validlyReachable_copied :
    ValidlyReachable (copiedEvents.foldl Database.step Database.empty) := by
  refine validlyReachable_foldl (fun e he => ?_)
  simp only [copiedEvents, List.mem_cons, List.not_mem_nil, or_false] at he
  rcases he with rfl | rfl | rfl | rfl
  · trivial
  · trivial
  · exact ⟨warehouseSchema, rfl, rfl, rfl⟩
  · trivial

end SyncMaster
