import SyncMaster.Tenancy.Dependencies

/-!
# Group Isolation

What a user without any role in a group can do to the rows of that group.

`rowsOf` is everything that belongs to a group, credentials and runs included.
An authorised write of an outsider is about a row of another group, so the
view of the group stays as it is, unless the write is a deletion whose cascade
follows a link into the group. `authorisedStep_rowsOf` is that case analysis,
write by write, and the run lemma carries it through a whole request.

The links into another group are what `update_transfer` makes possible, and
the two deletions that do not look for them are the ones of
`SyncMaster.Tenancy.Dependencies`.

## Main definitions

* `GroupRows`, `Tables.rowsOf`: The rows that belong to a group.
* `Write.Severs`: A deletion whose cascade reaches into the group.
* `Request.Spares`: No transfer of the group uses what the request may delete.

## Theorems

* `authorisedStep_rowsOf`: An authorised write of an outsider leaves the group
  alone, unless it severs.
* `performs_rowsOf`: So does a run of them.
* `isolation_iff`: A request of an outsider leaves the rows of a group as they
  are exactly when it severs none of its transfers.
-/

namespace SyncMaster

open Program

/-- The rows that belong to a group. -/
@[ext]
structure GroupRows where
  group : List Group
  members : List UserGroup
  connections : List Connection
  authData : List AuthData
  queues : List Queue
  transfers : List Transfer
  runs : List Run

/-- The credentials of the connections of a group. -/
def Tables.ownsAuthData (db : Tables) (groupId : Id) (a : AuthData) : Bool :=
  db.connections.any (fun c => c.groupId == groupId && c.id == a.connectionId)

/-- The runs of the transfers of a group. -/
def Tables.ownsRun (db : Tables) (groupId : Id) (r : Run) : Bool :=
  db.transfers.any (fun t => t.groupId == groupId && t.id == r.transferId)

def Tables.rowsOf (db : Tables) (groupId : Id) : GroupRows where
  group := db.groups.filter (fun g => g.id == groupId)
  members := db.userGroups.filter (fun ug => ug.groupId == groupId)
  connections := db.connections.filter (fun c => c.groupId == groupId)
  authData := db.authData.filter (db.ownsAuthData groupId)
  queues := db.queues.filter (fun q => q.groupId == groupId)
  transfers := db.transfers.filter (fun t => t.groupId == groupId)
  runs := db.runs.filter (db.ownsRun groupId)

/-- The rows of a group are part of the tables. -/
theorem rowsOf_eq_of_tables_eq {db db' : Database} (h : db'.toTables = db.toTables)
    (groupId : Id) : db'.rowsOf groupId = db.rowsOf groupId :=
  congrArg (fun tables => tables.rowsOf groupId) h

/-- A deletion whose cascade reaches a transfer of the group. -/
def Write.Severs (db : Database) (groupId : Id) : Write → Prop
  | deleteConnection c =>
      ∃ t ∈ db.transfers, t.groupId = groupId ∧
        (t.sourceConnectionId = c.id ∨ t.targetConnectionId = c.id)
  | deleteQueue q => ∃ t ∈ db.transfers, t.groupId = groupId ∧ t.queueId = q.id
  | _ => False

section Writes

variable {db db' : Database} {groupId : Id}

theorem ne_group {a : Id} (h : a ≠ groupId) : (a == groupId) = false :=
  beq_eq_false_iff_ne.mpr h

/-- Transfers of other groups deleted, and their runs. -/
theorem deleteTransfers_rowsOf {p : Transfer → Bool} (hk : Keys db)
    (hp : ∀ t ∈ db.transfers, p t = true → t.groupId ≠ groupId) :
    (db.deleteTransfers p).rowsOf groupId = db.rowsOf groupId := by
  have hview : ∀ t ∈ db.transfers, p t = true → (t.groupId == groupId) = false :=
    fun t ht hpt => ne_group (hp t ht hpt)
  have howns : (db.deleteTransfers p).ownsRun groupId = db.ownsRun groupId := by
    funext r
    refine Table.any_delete (fun t ht hpt => ?_)
    rw [hview t ht hpt, Bool.false_and]
  have hruns : (db.deleteTransfers p).runs.filter (db.ownsRun groupId) =
      db.runs.filter (db.ownsRun groupId) := by
    refine Table.view_delete (fun r _ hgone => ?_)
    rcases List.any_eq_true.mp hgone with ⟨t, ht, hpt⟩
    rcases Bool.and_eq_true_iff.mp hpt with ⟨hpt, hid⟩
    rw [Tables.ownsRun, ← beq_iff_eq.mp hid]
    exact Table.any_key_of_not_view hk.transfers ht (hview t ht hpt)
  have htransfers : (db.deleteTransfers p).transfers.filter (fun t => t.groupId == groupId) =
      db.transfers.filter (fun t => t.groupId == groupId) :=
    Table.view_delete hview
  rw [Tables.rowsOf, howns, hruns, htransfers]
  rfl

/-- Connections of other groups deleted, with their credentials and with
    transfers of other groups. -/
theorem deleteConnections_rowsOf {p : Connection → Bool} (hk : Keys db)
    (hp : ∀ c ∈ db.connections, p c = true → c.groupId ≠ groupId)
    (huses : ∀ c ∈ db.connections, p c = true → ∀ t ∈ db.transfers,
      t.sourceConnectionId = c.id ∨ t.targetConnectionId = c.id → t.groupId ≠ groupId) :
    (db.deleteConnections p).rowsOf groupId = db.rowsOf groupId := by
  have hview : ∀ c ∈ db.connections, p c = true → (c.groupId == groupId) = false :=
    fun c hc hpc => ne_group (hp c hc hpc)
  -- Credentials belong to a group through their connection, so both have to be looked at.
  have howns : (db.deleteConnections p).ownsAuthData groupId = db.ownsAuthData groupId := by
    funext a
    refine Table.any_delete (fun c hc hpc => ?_)
    rw [hview c hc hpc, Bool.false_and]
  have hauth : (db.deleteConnections p).authData.filter (db.ownsAuthData groupId) =
      db.authData.filter (db.ownsAuthData groupId) := by
    refine Table.view_delete (fun a _ hgone => ?_)
    rcases List.any_eq_true.mp hgone with ⟨c, hc, hpc⟩
    rcases Bool.and_eq_true_iff.mp hpc with ⟨hpc, hid⟩
    rw [Tables.ownsAuthData, ← beq_iff_eq.mp hid]
    exact Table.any_key_of_not_view hk.connections hc (hview c hc hpc)
  have hconnections : (db.deleteConnections p).connections.filter (fun c => c.groupId == groupId) =
      db.connections.filter (fun c => c.groupId == groupId) :=
    Table.view_delete hview
  have htransfers := deleteTransfers_rowsOf (p := fun t =>
    db.connections.any (fun c => p c && c.id == t.sourceConnectionId) ||
      db.connections.any (fun c => p c && c.id == t.targetConnectionId)) hk (fun t ht hgone => by
    rcases Bool.or_eq_true_iff.mp hgone with hgone | hgone
    · rcases List.any_eq_true.mp hgone with ⟨c, hc, hpc⟩
      rcases Bool.and_eq_true_iff.mp hpc with ⟨hpc, hid⟩
      exact huses c hc hpc t ht (Or.inl (beq_iff_eq.mp hid).symm)
    · rcases List.any_eq_true.mp hgone with ⟨c, hc, hpc⟩
      rcases Bool.and_eq_true_iff.mp hpc with ⟨hpc, hid⟩
      exact huses c hc hpc t ht (Or.inr (beq_iff_eq.mp hid).symm))
  rw [Tables.rowsOf, howns, hauth, hconnections]
  exact congrArg (fun rows : GroupRows => { db.rowsOf groupId with
    transfers := rows.transfers, runs := rows.runs }) htransfers

/-- Queues of other groups deleted, with transfers of other groups. -/
theorem deleteQueues_rowsOf {p : Queue → Bool} (hk : Keys db)
    (hp : ∀ q ∈ db.queues, p q = true → q.groupId ≠ groupId)
    (huses : ∀ q ∈ db.queues, p q = true → ∀ t ∈ db.transfers, t.queueId = q.id →
      t.groupId ≠ groupId) :
    (db.deleteQueues p).rowsOf groupId = db.rowsOf groupId := by
  have hqueues : (db.deleteQueues p).queues.filter (fun q => q.groupId == groupId) =
      db.queues.filter (fun q => q.groupId == groupId) :=
    Table.view_delete (fun q hq hpq => ne_group (hp q hq hpq))
  have htransfers := deleteTransfers_rowsOf (p := fun t =>
    db.queues.any (fun q => p q && q.id == t.queueId)) hk (fun t ht hgone => by
    rcases List.any_eq_true.mp hgone with ⟨q, hq, hpq⟩
    rcases Bool.and_eq_true_iff.mp hpq with ⟨hpq, hid⟩
    exact huses q hq hpq t ht (beq_iff_eq.mp hid).symm)
  rw [Tables.rowsOf, hqueues]
  exact congrArg (fun rows : GroupRows => { db.rowsOf groupId with
    transfers := rows.transfers, runs := rows.runs }) htransfers

/-- A connection of another group, written in place. -/
theorem updateConnection_rowsOf {c old : Connection} (hk : Keys db) (hold : old ∈ db.connections)
    (hid : old.id = c.id) (hgroup : old.groupId = c.groupId) (hne : c.groupId ≠ groupId) :
    (Write.apply db (.updateConnection c)).rowsOf groupId = db.rowsOf groupId := by
  have hview : (c.groupId == groupId) = false := ne_group hne
  have hview' : (old.groupId == groupId) = false := by
    rw [hgroup]
    exact hview
  refine GroupRows.ext rfl rfl (Table.view_update_key hk.connections hold hid hview' hview) ?_
    rfl rfl rfl
  refine List.filter_congr (fun a _ => Table.any_update_key hk.connections hold hid ?_ ?_)
  · rw [hview', Bool.false_and]
  · rw [hview, Bool.false_and]

/-- A transfer of another group, written in place. -/
theorem updateTransfer_rowsOf {t old : Transfer} (hk : Keys db) (hold : old ∈ db.transfers)
    (hid : old.id = t.id) (hgroup : old.groupId = t.groupId) (hne : old.groupId ≠ groupId) :
    (Write.apply db (.updateTransfer t)).rowsOf groupId = db.rowsOf groupId := by
  have hview' : (old.groupId == groupId) = false := ne_group hne
  have hview : (t.groupId == groupId) = false := by
    rw [← hgroup]
    exact hview'
  refine GroupRows.ext rfl rfl rfl rfl rfl
    (Table.view_update_key hk.transfers hold hid hview' hview) ?_
  refine List.filter_congr (fun r _ => Table.any_update_key hk.transfers hold hid ?_ ?_)
  · rw [hview', Bool.false_and]
  · rw [hview, Bool.false_and]

/-- A connection of another group, deleted, when its cascade does not reach into
    the group. -/
theorem deleteConnection_rowsOf {c : Connection} (hk : Keys db)
    (hfound : db.connections.filter (fun d => d.id == c.id) = [c]) (hne : c.groupId ≠ groupId)
    (hsevers : ¬ (Write.deleteConnection c).Severs db groupId) :
    (db.deleteConnections (fun d => d.id == c.id)).rowsOf groupId = db.rowsOf groupId := by
  refine deleteConnections_rowsOf hk (fun d hd hid => ?_) (fun d hd hid t ht huses htg => ?_)
  · rw [← Table.eq_of_filter_eq hfound hd hid]
    exact hne
  · rw [← Table.eq_of_filter_eq hfound hd hid] at huses
    exact hsevers ⟨t, ht, htg, huses⟩

/-- The same of a queue. -/
theorem deleteQueue_rowsOf {q : Queue} (hk : Keys db)
    (hfound : db.queues.filter (fun r => r.id == q.id) = [q]) (hne : q.groupId ≠ groupId)
    (hsevers : ¬ (Write.deleteQueue q).Severs db groupId) :
    (db.deleteQueues (fun r => r.id == q.id)).rowsOf groupId = db.rowsOf groupId := by
  refine deleteQueues_rowsOf hk (fun r hr hid => ?_) (fun r hr hid t ht huses htg => ?_)
  · rw [← Table.eq_of_filter_eq hfound hr hid]
    exact hne
  · rw [← Table.eq_of_filter_eq hfound hr hid] at huses
    exact hsevers ⟨t, ht, htg, huses⟩

/-- Credentials of a connection of another group are no rows of the group. -/
theorem ownsAuthData_eq_false {a : AuthData} {c : Connection} (hk : Keys db)
    (hc : c ∈ db.connections) (hid : c.id = a.connectionId) (hne : c.groupId ≠ groupId) :
    db.ownsAuthData groupId a = false := by
  rw [Tables.ownsAuthData, ← hid]
  exact Table.any_key_of_not_view hk.connections hc (ne_group hne)

/-- Nor are runs of a transfer of another group. -/
theorem ownsRun_eq_false {r : Run} {t : Transfer} (hk : Keys db) (ht : t ∈ db.transfers)
    (hid : t.id = r.transferId) (hne : t.groupId ≠ groupId) : db.ownsRun groupId r = false := by
  rw [Tables.ownsRun, ← hid]
  exact Table.any_key_of_not_view hk.transfers ht (ne_group hne)

theorem ne_of_permitted {call : Call} {rights : GroupMemberRole → Permission} {a : Id}
    {needed : Permission} (hout : Outsider call.start call.user groupId)
    (h : Permitted rights call.start call.user a needed) : a ≠ groupId := by
  rintro rfl
  exact not_permitted_of_outsider hout h

/-- An authorised write of an outsider leaves the group alone, unless its cascade
    reaches into the group. -/
theorem authorisedStep_rowsOf {call : Call} {w : Write} (hdb : Consistent db)
    (hgroup : ∃ g ∈ db.groups, g.id = groupId)
    (hout : Outsider call.start call.user groupId) (hsevers : ¬ w.Severs db groupId)
    (hstep : authorisedStep call db w db') : db'.rowsOf groupId = db.rowsOf groupId := by
  rcases hstep with ⟨ha, hc, rfl⟩
  have hk := hdb.keys
  cases w with
  | advance => rfl
  -- No endpoint adds a user or makes one a superuser.
  | insertUser | setSuperuser => exact ha.elim
  | insertGroup g =>
      have hne : g.id ≠ groupId := by
        rcases hgroup with ⟨h, hh, hid⟩
        -- The id comes from the sequence, which is past every stored group.
        rw [← hid, hc.1]
        exact (ne_of_lt (hk.groupsBelow h hh)).symm
      exact GroupRows.ext (Table.view_insert (ne_group hne)) rfl rfl rfl rfl rfl rfl
  | updateGroup g =>
      have hne : g.id ≠ groupId := ne_of_permitted hout ha
      refine GroupRows.ext (Table.view_update (fun h _ hid => ?_)) rfl rfl rfl rfl rfl rfl
      rw [beq_iff_eq.mp hid]
      exact ⟨ne_group hne, ne_group hne⟩
  | deleteGroup g =>
      -- Only a superuser deletes groups.
      rw [Write.Authorised, hout.notSuperuser] at ha
      exact absurd ha Bool.false_ne_true
  | insertUserGroup ug =>
      have hne : ug.groupId ≠ groupId := ne_of_permitted hout ha
      exact GroupRows.ext rfl (Table.view_insert (ne_group hne)) rfl rfl rfl rfl rfl
  | updateUserGroup ug =>
      have hne : ug.groupId ≠ groupId := ne_of_permitted hout ha
      refine GroupRows.ext rfl (Table.view_update (fun m _ hm => ?_)) rfl rfl rfl rfl rfl
      rw [(GroupRepository.isMembership_iff.mp hm).1]
      exact ⟨ne_group hne, ne_group hne⟩
  | deleteUserGroup ug =>
      have hne : ug.groupId ≠ groupId := by
        -- The member itself, too, must be able to read the group.
        rcases ha with ha | ⟨_, ha⟩
        · exact ne_of_permitted hout ha
        · exact ne_of_permitted hout ha
      refine GroupRows.ext rfl (Table.view_delete (fun m _ hm => ?_)) rfl rfl rfl rfl rfl
      rw [(GroupRepository.isMembership_iff.mp hm).1]
      exact ne_group hne
  | insertConnection c =>
      have hne : (c.groupId == groupId) = false := ne_group (ne_of_permitted hout ha)
      -- The new connection is in another group, and so is whatever refers to it.
      refine GroupRows.ext rfl rfl (Table.view_insert hne) ?_ rfl rfl rfl
      refine List.filter_congr (fun a _ => Table.any_insert ?_)
      rw [hne, Bool.false_and]
  | updateConnection c =>
      rcases ha with ⟨hmay, old, hold, hid, hgid⟩
      -- The stored connection is in the group it is written to, so both views skip it.
      exact updateConnection_rowsOf hk hold hid hgid (ne_of_permitted hout hmay)
  | deleteConnection c =>
      exact deleteConnection_rowsOf hk hc (ne_of_permitted hout ha.1) hsevers
  | insertAuthData a =>
      rcases ha with ⟨c, hcmem, hid, hmay⟩
      have hview := ownsAuthData_eq_false hk hcmem hid (ne_of_permitted hout hmay)
      exact GroupRows.ext rfl rfl rfl (Table.view_insert hview) rfl rfl rfl
  | updateAuthData a =>
      rcases ha with ⟨c, hcmem, hid, hmay⟩
      have hview := ownsAuthData_eq_false hk hcmem hid (ne_of_permitted hout hmay)
      refine GroupRows.ext rfl rfl rfl (Table.view_update (fun b _ hb => ⟨?_, hview⟩)) rfl rfl rfl
      rw [Tables.ownsAuthData, beq_iff_eq.mp hb]
      exact hview
  | insertQueue q =>
      have hne : (q.groupId == groupId) = false := ne_group (ne_of_permitted hout ha)
      exact GroupRows.ext rfl rfl rfl rfl (Table.view_insert hne) rfl rfl
  | updateQueue q =>
      rcases ha with ⟨hmay, old, hold, hid, hgid⟩
      have hne : (q.groupId == groupId) = false := ne_group (ne_of_permitted hout hmay)
      have hne' : (old.groupId == groupId) = false := by
        rw [hgid]
        exact hne
      exact GroupRows.ext rfl rfl rfl rfl (Table.view_update_key hk.queues hold hid hne' hne) rfl rfl
  | deleteQueue q =>
      -- Its transfers go with it: `hsevers` keeps the cascade out of the group.
      exact deleteQueue_rowsOf hk hc (ne_of_permitted hout ha.1) hsevers
  | insertTransfer t =>
      have hne : (t.groupId == groupId) = false := ne_group (ne_of_permitted hout ha.1)
      refine GroupRows.ext rfl rfl rfl rfl rfl (Table.view_insert hne) ?_
      refine List.filter_congr (fun r _ => Table.any_insert ?_)
      rw [hne, Bool.false_and]
  | updateTransfer t =>
      rcases ha with ⟨old, hold, body, _, _, ht, hmay, _⟩
      have hid : old.id = t.id := by rw [ht]; rfl
      have hgid : old.groupId = t.groupId := by rw [ht]; rfl
      exact updateTransfer_rowsOf hk hold hid hgid (ne_of_permitted hout hmay)
  | deleteTransfer t =>
      have hne : t.groupId ≠ groupId := ne_of_permitted hout ha
      refine deleteTransfers_rowsOf hk (fun r hr hid => ?_)
      rw [← Table.eq_of_filter_eq hc hr hid]
      exact hne
  | insertRun r =>
      rcases ha with ⟨t, ht, hid, hmay⟩
      have hview := ownsRun_eq_false hk ht hid (ne_of_permitted hout hmay)
      exact GroupRows.ext rfl rfl rfl rfl rfl rfl (Table.view_insert hview)
  | updateRun r =>
      rcases ha with ⟨⟨old, hold, hid, htid⟩, t, ht, hrt, hmay⟩
      have hview := ownsRun_eq_false hk ht hrt (ne_of_permitted hout hmay)
      -- A run keeps its transfer, so the stored row is not the group's either.
      have hview' : db.ownsRun groupId old = false := by
        rw [Tables.ownsRun, htid]
        exact hview
      exact GroupRows.ext rfl rfl rfl rfl rfl rfl
        (Table.view_update_key hk.runs hold hid hview' hview)

end Writes

/-! ## Requests -/

/-- No transfer of the group uses the connection or the queue that the request
    deletes. -/
def Request.Spares (db : Database) (groupId : Id) : Request → Prop
  | .copyConnection connectionId body =>
      body.removeSource = true → ∀ t ∈ db.transfers, t.groupId = groupId →
        ¬ (t.sourceConnectionId = connectionId ∨ t.targetConnectionId = connectionId)
  | .deleteQueue queueId => ∀ t ∈ db.transfers, t.groupId = groupId → t.queueId ≠ queueId
  | _ => True

section Requests

variable {db db' : Database} {now : Time} {sent : SendTask} {user : User} {groupId : Id}

/-- The writes of a request that spares the group do not reach into it. -/
theorem not_severs_of_spares {call : Call} {w : Write}
    (hspares : call.request.Spares call.start groupId) (ha : w.Authorised call db) :
    ¬ w.Severs db groupId := by
  intro hsevers
  cases w with
  | deleteConnection c =>
      rcases hsevers with ⟨t, ht, hgroup, huses⟩
      rcases ha with ⟨_, hsame, hunused | ⟨body, hrequest, hremove⟩⟩
      · exact not_or.mpr (hunused t ht) huses
      · rw [hrequest] at hspares
        rw [hsame] at ht
        exact hspares hremove t ht hgroup huses
  | deleteQueue q =>
      rcases hsevers with ⟨t, ht, hgroup, huses⟩
      rcases ha with ⟨_, hrequest, hsame, _⟩
      rw [hrequest] at hspares
      rw [hsame] at ht
      exact hspares t ht hgroup huses
  | _ => exact hsevers

/-- A request of an outsider that spares the group leaves it alone, write by
    write. -/
theorem performs_rowsOf {call : Call} (hdb : Consistent call.start)
    (hgroup : ∃ g ∈ call.start.groups, g.id = groupId)
    (hout : Outsider call.start call.user groupId)
    (hspares : call.request.Spares call.start groupId) (h : Performs call db') :
    db'.rowsOf groupId = call.start.rowsOf groupId := by
  rcases h with ⟨ws, hrun⟩
  refine (Machine.run_invariant
    (I := fun db => Consistent db ∧ db.rowsOf groupId = call.start.rowsOf groupId)
    ?_ hrun ⟨hdb, rfl⟩).2
  rintro a w b ⟨ha, hrows⟩ hstep
  refine ⟨checkedStep_consistent ha hstep.2, ?_⟩
  -- The group is still there: its row is one of the rows that stayed.
  have hstays : ∃ g ∈ a.groups, g.id = groupId := by
    rcases hgroup with ⟨g, hg, hid⟩
    have hmem : g ∈ (call.start.rowsOf groupId).group :=
      List.mem_filter.mpr ⟨hg, beq_iff_eq.mpr hid⟩
    rw [← hrows] at hmem
    exact ⟨g, (List.mem_filter.mp hmem).1, hid⟩
  rw [authorisedStep_rowsOf ha hstays hout (not_severs_of_spares hspares hstep.1) hstep, hrows]

/-- A request that is accepted and does not spare the group severs one of its
    transfers. -/
theorem severs_of_returns {request : Request} {response : Response} (hk : Keys db)
    (hspares : ¬ request.Spares db groupId)
    (h : Returns (handle now sent user request) db response db') :
    request.Severs db user (fun t => t.groupId = groupId) := by
  cases request with
  | copyConnection connectionId body =>
      rcases returns_bind.mp h with ⟨_, _, hret, _⟩
      simp only [Request.Spares, Classical.not_imp, not_forall, not_not] at hspares
      rcases hspares with ⟨hremove, t, ht, hgroup, huses⟩
      exact ⟨(movesAway_of_returns hremove hret).1, t, ht, hgroup, huses⟩
  | deleteQueue queueId =>
      rcases returns_bind.mp h with ⟨_, _, hret, _⟩
      simp only [Request.Spares, not_forall, ne_eq, not_not] at hspares
      rcases hspares with ⟨t, ht, hgroup, huses⟩
      exact ⟨(dropsQueue_iff hk).mpr ⟨_, _, hret⟩, t, ht, hgroup, huses⟩
  | _ => exact absurd trivial hspares

/-- What a request of an outsider does to the group: nothing, unless it severs. -/
theorem handle_rowsOf {request : Request} (hdb : Consistent db)
    (hgroup : ∃ g ∈ db.groups, g.id = groupId) (hout : Outsider db user groupId)
    (hsevers : ¬ request.Severs db user (fun t => t.groupId = groupId)) :
    (after (handle now sent user request) db).rowsOf groupId = db.rowsOf groupId := by
  by_cases hspares : request.Spares db groupId
  · have hperforms : Performs ⟨db, user, now, request⟩ _ :=
      handle_after_performs now sent user db request
    exact performs_rowsOf hdb hgroup hout hspares hperforms
  · rcases returns_or_raises (handle now sent user request) db with ⟨_, _, h⟩ | ⟨e, db', h⟩
    · exact absurd (severs_of_returns hdb.keys hspares h) hsevers
    · rw [after_of_raises h]
      have hstart : ∀ body, request ≠ .startRun body := by
        rintro body rfl
        exact hspares trivial
      exact rowsOf_eq_of_tables_eq (cleanFailure_handle hstart db e db' h).1 groupId

/-- In every reachable state, a request of a user without any role in a group
    leaves the rows of the group as they are, unless it is accepted and moves
    away a connection, or drops a queue, that a transfer of the group uses. -/
theorem isolation_iff (hdb : Reachable db) (now : Time) (sent : SendTask) (userId : Id)
    (request : Request) (hgroup : ∃ g ∈ db.groups, g.id = groupId)
    (hout : ∀ user, db.users.find? (fun u => u.id == userId) = some user →
      Outsider db user groupId) :
    (db.step (.request now sent userId request)).rowsOf groupId = db.rowsOf groupId ↔
      ¬ request.SeversAs db userId (fun t => t.groupId = groupId) := by
  have hc : Consistent db := reachable_consistent hdb
  rw [step_request]
  constructor
  · rintro hrows ⟨user, hfind, hactive, hsevers⟩
    rw [after_api hfind hactive] at hrows
    -- A transfer of the group goes with the connection or the queue that it uses.
    rcases lost_of_severs hc.keys hsevers with ⟨t, ht, hkind, hlost⟩
    have hmem : t ∈ (db.rowsOf groupId).transfers :=
      List.mem_filter.mpr ⟨ht, beq_iff_eq.mpr hkind⟩
    rw [← hrows] at hmem
    exact hlost (List.mem_filter.mp hmem).1
  · intro hnot
    by_cases huser : ∃ user, db.users.find? (fun u => u.id == userId) = some user ∧
        user.isActive = true
    · rcases huser with ⟨user, hfind, hactive⟩
      rw [after_api hfind hactive]
      exact handle_rowsOf hc hgroup (hout user hfind)
        (fun hsevers => hnot ⟨user, hfind, hactive, hsevers⟩)
    · rw [after_api_of_no_user (fun user hfind =>
        Bool.eq_false_iff.mpr (fun hactive => huser ⟨user, hfind, hactive⟩))]

end Requests

/-! ## An outsider who reaches into a group -/

section Sample

/-- The linked groups of `crossGroupEvents`, and a maintainer of the second who
    has no role in the first. -/
def linkedEvents : List Event :=
  crossGroupEvents ++ [
    .login "maintainer",
    .request 9 .returned 1 (.addUserToGroup 2 2 sampleRole)]

instance (db : Database) (user : User) (groupId : Id) : Decidable (Outsider db user groupId) :=
  decidable_of_iff
    (user.isSuperuser = false ∧ (∀ g ∈ db.groups, g.id = groupId → g.ownerId ≠ user.id) ∧
      ∀ ug ∈ db.userGroups, ug.groupId = groupId → ug.userId ≠ user.id)
    ⟨fun h => ⟨h.1, h.2.1, h.2.2⟩, fun h => ⟨h.notSuperuser, h.notOwner, h.notMember⟩⟩

/-- The second user of `linkedEvents`, and the first group. -/
theorem outsider_linkedEvents (user : User)
    (h : (linkedEvents.foldl Database.step Database.empty).users.find? (fun u => u.id == 2) =
      some user) :
    Outsider (linkedEvents.foldl Database.step Database.empty) user 1 := by
  have hall : ((linkedEvents.foldl Database.step Database.empty).users.find?
      (fun u => u.id == 2)).all
      (fun u => decide (Outsider (linkedEvents.foldl Database.step Database.empty) u 1)) = true := by
    decide +kernel
  rw [h] at hall
  exact of_decide_eq_true hall

theorem group_linkedEvents :
    ∃ g ∈ (linkedEvents.foldl Database.step Database.empty).groups, g.id = 1 := by
  have hany : (linkedEvents.foldl Database.step Database.empty).groups.any
      (fun g => g.id == 1) = true := by decide +kernel
  rcases List.any_eq_true.mp hany with ⟨g, hg, hid⟩
  exact ⟨g, hg, beq_iff_eq.mp hid⟩

theorem isolation_linkedEvents :
    ((linkedEvents.foldl Database.step Database.empty).step
        (.request 10 .returned 2 (.deleteQueue 2))).rowsOf 1 =
      (linkedEvents.foldl Database.step Database.empty).rowsOf 1 ↔
      ¬ (Request.deleteQueue 2).SeversAs (linkedEvents.foldl Database.step Database.empty) 2
        (fun t => t.groupId = 1) :=
  isolation_iff (reachable_foldl linkedEvents) 10 .returned 2 (.deleteQueue 2) group_linkedEvents
    outsider_linkedEvents

/-- The maintainer of the second group drops its queue, and the transfer of the
    first group is gone. -/
theorem not_isolation :
    ¬ ∀ db, Reachable db → ∀ now sent userId request groupId,
      (∃ g ∈ db.groups, g.id = groupId) →
      (∀ user, db.users.find? (fun u => u.id == userId) = some user → Outsider db user groupId) →
      (db.step (.request now sent userId request)).rowsOf groupId = db.rowsOf groupId := by
  intro h
  have hrows := h _ (reachable_foldl linkedEvents) 10 .returned 2 (.deleteQueue 2) 1 group_linkedEvents
    outsider_linkedEvents
  have hcount := congrArg (fun rows => rows.transfers.length) hrows
  revert hcount
  decide +kernel

end Sample

end SyncMaster
