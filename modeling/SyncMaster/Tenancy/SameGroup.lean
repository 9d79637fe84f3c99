import SyncMaster.Tenancy.Consistent

/-!
# Transfers and the Groups of their Connections

A transfer, its two connections and its queue are meant to belong to one
group. `create_transfer` and `copy_transfer` see to it. `update_transfer`
compares the connections and the queue with the group that the body names,
and neither compares that group with the group of the stored transfer nor
stores it. A user who may write in two groups can therefore link a transfer
of the one to the connections of the other.

`NamesOwnGroup` is the comparison that is missing. Where every update passes
it, the invariant holds in every state of the run, and one accepted update
that does not pass it is enough to break the invariant.

## Main definitions

* `Transfer.sourceConnection`, `Transfer.targetConnection`, `Transfer.queue`:
  The relationships of the model.
* `SameGroup`: The invariant.
* `NamesOwnGroup`: The comparison that is missing.

## Theorems

* `sameGroup_iff_linksIn`: The invariant as a statement about rows.
* `authorisedStep_ownLinks`: The authorised writes keep it.
* `sameGroup_of_namesOwnGroup`: It holds along every run whose updates name
  the group of the transfer.
* `not_sameGroup_of_updateTransfer`: Any other accepted update breaks it.
-/

namespace SyncMaster

open Program

/-! ## Relationships -/

namespace Transfer

def sourceConnection (db : Database) (t : Transfer) : Option Connection :=
  Table.find (fun c : Connection => c.id) db.connections t.sourceConnectionId

def targetConnection (db : Database) (t : Transfer) : Option Connection :=
  Table.find (fun c : Connection => c.id) db.connections t.targetConnectionId

def queue (db : Database) (t : Transfer) : Option Queue :=
  Table.find (fun q : Queue => q.id) db.queues t.queueId

end Transfer

/-- Every transfer is in the group of its source connection, of its target
    connection and of its queue. -/
def SameGroup (db : Database) : Prop :=
  ∀ t ∈ db.transfers,
    (t.sourceConnection db).map (fun c => c.groupId) = some t.groupId ∧
    (t.targetConnection db).map (fun c => c.groupId) = some t.groupId ∧
    (t.queue db).map (fun q => q.groupId) = some t.groupId

instance (db : Database) : Decidable (SameGroup db) :=
  inferInstanceAs (Decidable (∀ t ∈ db.transfers, _ ∧ _ ∧ _))

/-- A row looked up by its identifier has the group, when the table has such a
    row. -/
theorem find_group_iff {Row : Type} {resource : Row → ResourceMixin} {rows : List Row} {id : Id}
    {groupId : Id} (hd : Table.Distinct (fun r => (resource r).id) rows) :
    (Table.find (fun r => (resource r).id) rows id).map (fun r => (resource r).groupId)
        = some groupId ↔
      ∃ r ∈ rows, (resource r).id = id ∧ (resource r).groupId = groupId := by
  rw [Option.map_eq_some_iff]
  constructor
  · rintro ⟨r, hfind, hg⟩
    rcases (Table.find_eq_some_iff _ hd).mp hfind with ⟨hr, hid⟩
    exact ⟨r, hr, hid, hg⟩
  · rintro ⟨r, hr, hid, hg⟩
    exact ⟨r, (Table.find_eq_some_iff _ hd).mpr ⟨hr, hid⟩, hg⟩

theorem sameGroup_iff_linksIn {db : Database} (hk : Keys db) :
    SameGroup db ↔ ∀ t ∈ db.transfers, LinksIn db t t.groupId := by
  refine forall_congr' (fun t => forall_congr' (fun _ => ?_))
  constructor
  · rintro ⟨hs, ht, hq⟩
    exact ⟨(find_group_iff hk.connections).mp hs, (find_group_iff hk.connections).mp ht,
      (find_group_iff hk.queues).mp hq⟩
  · rintro ⟨hs, ht, hq⟩
    exact ⟨(find_group_iff hk.connections).mpr hs, (find_group_iff hk.connections).mpr ht,
      (find_group_iff hk.queues).mpr hq⟩

/-! ## The missing comparison -/

/-- The body of an update names the group of the stored transfer. -/
def Request.NamesOwnGroup (db : Database) : Request → Prop
  | .updateTransfer transferId body =>
      ∀ t ∈ db.transfers, t.id = transferId → body.groupId = t.groupId
  | _ => True

def Event.NamesOwnGroup (db : Database) : Event → Prop
  | .request _ _ _ r => r.NamesOwnGroup db
  | _ => True

/-! ## Frames -/

section Writes

variable {db db' : Database}

/-- The rows that transfers refer to are still there, in their groups. -/
structure KeepsLinked (db db' : Database) : Prop where
  connections : ∀ c ∈ db.connections, ∃ d ∈ db'.connections, d.id = c.id ∧ d.groupId = c.groupId
  queues : ∀ q ∈ db.queues, ∃ r ∈ db'.queues, r.id = q.id ∧ r.groupId = q.groupId

theorem keepsLinked_of_eq (hc : db'.connections = db.connections) (hq : db'.queues = db.queues) :
    KeepsLinked db db' where
  connections := fun c hmem => ⟨c, hc ▸ hmem, rfl, rfl⟩
  queues := fun q hmem => ⟨q, hq ▸ hmem, rfl, rfl⟩

theorem linksIn_of_keepsLinked {t : Transfer} {groupId : Id} (h : LinksIn db t groupId)
    (hkeeps : KeepsLinked db db') : LinksIn db' t groupId := by
  rcases h with ⟨⟨c, hc, hcid, hcg⟩, ⟨d, hd, hdid, hdg⟩, ⟨q, hq, hqid, hqg⟩⟩
  rcases hkeeps.connections c hc with ⟨c', hc', hcid', hcg'⟩
  rcases hkeeps.connections d hd with ⟨d', hd', hdid', hdg'⟩
  rcases hkeeps.queues q hq with ⟨q', hq', hqid', hqg'⟩
  exact ⟨⟨c', hc', hcid'.trans hcid, hcg'.trans hcg⟩, ⟨d', hd', hdid'.trans hdid, hdg'.trans hdg⟩,
    ⟨q', hq', hqid'.trans hqid, hqg'.trans hqg⟩⟩

/-- Every transfer is linked to rows of its own group. -/
def OwnLinks (db : Database) : Prop :=
  ∀ t ∈ db.transfers, LinksIn db t t.groupId

/-- The transfers are the same, or fewer, and what they refer to stays. -/
theorem ownLinks_of_keepsLinked (h : OwnLinks db) (hkeeps : KeepsLinked db db')
    (hsub : ∀ t ∈ db'.transfers, t ∈ db.transfers) : OwnLinks db' :=
  fun t ht => linksIn_of_keepsLinked (h t (hsub t ht)) hkeeps

/-- A cascade spares a transfer only with the rows it refers to. -/
theorem ownLinks_shrinks (h : OwnLinks db) (hk : Keys db) (hs : Shrinks db db')
    (hr : ResourceLinks db') : OwnLinks db' := by
  intro t ht
  rcases h t (hs.transfers.subset ht) with ⟨⟨c, hc, hcid, hcg⟩, ⟨d, hd, hdid, hdg⟩,
    ⟨q, hq, hqid, hqg⟩⟩
  rcases hr.transferSource t ht with ⟨c', hc', hcid'⟩
  rcases hr.transferTarget t ht with ⟨d', hd', hdid'⟩
  rcases hr.transferQueue t ht with ⟨q', hq', hqid'⟩
  have hceq : c' = c := Table.eq_of_key_eq _ hk.connections (hs.connections.subset hc') hc
    (hcid'.trans hcid.symm)
  have hdeq : d' = d := Table.eq_of_key_eq _ hk.connections (hs.connections.subset hd') hd
    (hdid'.trans hdid.symm)
  have hqeq : q' = q := Table.eq_of_key_eq _ hk.queues (hs.queues.subset hq') hq
    (hqid'.trans hqid.symm)
  subst hceq hdeq hqeq
  exact ⟨⟨c', hc', hcid, hcg⟩, ⟨d', hd', hdid, hdg⟩, ⟨q', hq', hqid, hqg⟩⟩

/-- A row replaced by one with its key and its group. -/
theorem keeps_update {Row : Type} {resource : Row → ResourceMixin} {rows : List Row} {row old : Row}
    (hd : Table.Distinct (fun r => (resource r).id) rows) (hold : old ∈ rows)
    (hid : (resource old).id = (resource row).id)
    (hgroup : (resource old).groupId = (resource row).groupId) :
    ∀ r ∈ rows, ∃ s ∈ Table.update (fun s => (resource s).id == (resource row).id) (fun _ => row)
      rows, (resource s).id = (resource r).id ∧ (resource s).groupId = (resource r).groupId := by
  intro r hr
  refine ⟨_, Table.mem_update.mpr ⟨r, hr, rfl⟩, ?_⟩
  by_cases hkey : (resource r).id = (resource row).id
  · have heq : r = old := Table.eq_of_key_eq _ hd hr hold (hkey.trans hid.symm)
    rw [if_pos (beq_iff_eq.mpr hkey), heq]
    exact ⟨hid.symm, hgroup.symm⟩
  · rw [if_neg (fun h => hkey (beq_iff_eq.mp h))]
    exact ⟨rfl, rfl⟩

/-- The background writes leave the transfers and their links alone. -/
theorem backgroundStep_ownLinks {w : Write} (h : OwnLinks db) (hstep : backgroundStep db w db') :
    OwnLinks db' := by
  rcases hstep with ⟨hw, _, rfl⟩
  cases w with
  | advance | insertUser | setSuperuser | insertRun | updateRun =>
      exact ownLinks_of_keepsLinked h (keepsLinked_of_eq rfl rfl) (fun _ ht => ht)
  | _ => exact hw.elim

/-- The authorised writes keep the links in the group, if an update names the
    group of the transfer. -/
theorem authorisedStep_ownLinks {call : Call} {w : Write}
    (hown : call.request.NamesOwnGroup call.start) (hdb : Consistent db) (h : OwnLinks db)
    (hstep : authorisedStep call db w db') : OwnLinks db' := by
  have hdb' : Consistent db' := checkedStep_consistent hdb hstep.2
  rcases hstep with ⟨ha, hc, rfl⟩
  have hsame : ∀ {db' : Database}, db'.connections = db.connections → db'.queues = db.queues →
      db'.transfers = db.transfers → OwnLinks db' := by
    intro db' hconn hqueue htransfer
    refine ownLinks_of_keepsLinked h (keepsLinked_of_eq hconn hqueue) (fun t ht => ?_)
    rw [← htransfer]
    exact ht
  cases w with
  | advance | insertUser | setSuperuser | insertGroup | updateGroup | insertUserGroup
  | updateUserGroup | deleteUserGroup | insertAuthData | updateAuthData | insertRun
  | updateRun => exact hsame rfl rfl rfl
  | deleteGroup g => exact ownLinks_shrinks h hdb.keys (shrinks_deleteGroups _) hdb'.resourceLinks
  | insertConnection c =>
      refine ownLinks_of_keepsLinked h ⟨fun d hd => ?_, fun q hq => ⟨q, hq, rfl, rfl⟩⟩
        (fun _ ht => ht)
      exact ⟨d, List.mem_append_left _ hd, rfl, rfl⟩
  | updateConnection c =>
      rcases ha.2 with ⟨old, hold, hid, hgroup⟩
      refine ownLinks_of_keepsLinked h ⟨?_, fun q hq => ⟨q, hq, rfl, rfl⟩⟩ (fun _ ht => ht)
      exact keeps_update hdb.keys.connections hold hid hgroup
  | deleteConnection c =>
      exact ownLinks_shrinks h hdb.keys (shrinks_deleteConnections _) hdb'.resourceLinks
  | insertQueue q =>
      refine ownLinks_of_keepsLinked h ⟨fun c hc => ⟨c, hc, rfl, rfl⟩, fun r hr => ?_⟩
        (fun _ ht => ht)
      exact ⟨r, List.mem_append_left _ hr, rfl, rfl⟩
  | updateQueue q =>
      rcases ha.2 with ⟨old, hold, hid, hgroup⟩
      refine ownLinks_of_keepsLinked h ⟨fun c hc => ⟨c, hc, rfl, rfl⟩, ?_⟩ (fun _ ht => ht)
      exact keeps_update hdb.keys.queues hold hid hgroup
  | deleteQueue q =>
      exact ownLinks_shrinks h hdb.keys (shrinks_deleteQueues _) hdb'.resourceLinks
  | insertTransfer t =>
      intro r hr
      rcases List.mem_append.mp hr with hr | hr
      · exact linksIn_of_keepsLinked (h r hr) (keepsLinked_of_eq rfl rfl)
      · rw [List.mem_singleton.mp hr]
        exact linksIn_of_keepsLinked ha.2.1 (keepsLinked_of_eq rfl rfl)
  | updateTransfer t =>
      rcases ha with ⟨old, hold, body, hrequest, hstart, ht, _, hlinks⟩
      -- The group of the body is the group of the row: the comparison that is missing.
      rw [hrequest] at hown
      have hgroup : body.groupId = t.groupId := by
        rw [ht]
        exact hown old (hstart ▸ hold) rfl
      rw [hgroup] at hlinks
      intro r hr
      rcases Table.mem_update.mp hr with ⟨s, hs, rfl⟩
      by_cases hkey : (s.id == t.id) = true
      · rw [if_pos hkey]
        exact linksIn_of_keepsLinked hlinks (keepsLinked_of_eq rfl rfl)
      · rw [if_neg hkey]
        exact linksIn_of_keepsLinked (h s hs) (keepsLinked_of_eq rfl rfl)
  | deleteTransfer t =>
      exact ownLinks_shrinks h hdb.keys (shrinks_deleteTransfers _) hdb'.resourceLinks

end Writes

/-! ## Runs -/

/-- An event that passes the missing comparison keeps the links in the group. -/
theorem step_ownLinks {db : Database} {e : Event} (hown : e.NamesOwnGroup db)
    (hdb : Consistent db) (h : OwnLinks db) :
    Consistent (db.step e) ∧ OwnLinks (db.step e) := by
  by_cases hrequest : ∃ now sent userId request, e = .request now sent userId request
  · rcases hrequest with ⟨now, sent, userId, request, rfl⟩
    rw [step_request]
    rcases api_acts now sent userId db request with hsame | ⟨user, _, _, ws, hrun⟩
    · rw [hsame]
      exact ⟨hdb, h⟩
    · refine Machine.run_invariant (I := fun db => Consistent db ∧ OwnLinks db) ?_ hrun ⟨hdb, h⟩
      intro a w b ha hstep
      refine ⟨checkedStep_consistent ha.1 hstep.2, authorisedStep_ownLinks ?_ ha.1 ha.2 hstep⟩
      exact hown
  · have hother : ∀ now sent userId request, e ≠ .request now sent userId request :=
      fun now sent userId request he => hrequest ⟨now, sent, userId, request, he⟩
    rcases step_background hother with ⟨ws, hrun⟩
    refine Machine.run_invariant (I := fun db => Consistent db ∧ OwnLinks db) ?_ hrun ⟨hdb, h⟩
    intro a w b ha hstep
    exact ⟨checkedStep_consistent ha.1 hstep.2, backgroundStep_ownLinks ha.2 hstep⟩

/-- The runs whose updates name the group of the transfer. -/
abbrev OwnGroupRun : Database → List Event → Database → Prop :=
  Machine.Run (Machine.restrict (fun db e => e.NamesOwnGroup db) (Machine.graph Database.step))

theorem ownGroupRun_ownLinks {db : Database} {es : List Event}
    (hrun : OwnGroupRun Database.empty es db) : Consistent db ∧ OwnLinks db := by
  refine Machine.run_invariant (I := fun db => Consistent db ∧ OwnLinks db) ?_ hrun ?_
  · rintro a e b ⟨ha, hlinks⟩ ⟨hown, rfl⟩
    exact step_ownLinks hown ha hlinks
  · exact ⟨consistent_empty, fun t ht => absurd ht List.not_mem_nil⟩

/-- In every run whose updates name the group of the transfer, every transfer
    is in the group of its connections and of its queue. -/
theorem sameGroup_of_namesOwnGroup {db : Database} {es : List Event}
    (hrun : OwnGroupRun Database.empty es db) : SameGroup db := by
  rcases ownGroupRun_ownLinks hrun with ⟨hdb, hlinks⟩
  exact (sameGroup_iff_linksIn hdb.keys).mpr hlinks

/-- An accepted update that names another group breaks the invariant, whatever
    the state was before. -/
theorem not_sameGroup_of_updateTransfer {now : Time} {user : User} {transferId : Id}
    {body : CreateTransferSchema} {response : Transfer} {db db' : Database} (hdb : Consistent db)
    (h : Returns (updateTransfer now user transferId body) db response db')
    (hother : body.groupId ≠ response.groupId) : ¬ SameGroup db' := by
  rcases returns_updateTransfer h with ⟨old, _, _, _, hold, _, hbody, hresponse, hupdate⟩
  have hlinks : LinksIn db response body.groupId := by
    rw [hresponse]
    exact linksIn_of_bodyLinks hbody rfl rfl rfl
  have hdb' : Consistent db' := checkedStep_consistent hdb hupdate
  intro hsame
  have hid : (old.id == response.id) = true := by
    rw [hresponse]
    exact beq_self_eq_true _
  have hmem : response ∈ db'.transfers := by
    rw [hupdate.2]
    exact Table.mem_update_self (f := fun _ => response) (Table.mem_of_filter_eq hold).1 hid
  rcases ((sameGroup_iff_linksIn hdb'.keys).mp hsame response hmem).source with ⟨c, hc, hcid, hcg⟩
  rcases hlinks.source with ⟨d, hd, hdid, hdg⟩
  have hconnections : db'.connections = db.connections := by
    rw [hupdate.2]
    rfl
  rw [hconnections] at hc
  have heq : c = d := Table.eq_of_key_eq _ hdb.keys.connections hc hd (hcid.trans hdid.symm)
  rw [heq, hdg] at hcg
  exact hother hcg

/-! ## A run that links two groups -/

section Sample

def sampleGroup : CreateGroupSchema where
  name := ⟨"first", by decide⟩
  description := ""

/-- A connection of the group, with credentials. -/
def sampleConnection (groupId : Id) : CreateConnectionSchema where
  groupId := groupId
  name := ⟨"warehouse", by decide⟩
  description := ""
  type := .postgres
  data := []
  authData := { type := .basic, fields := [("user", .str "user"), ("password", .str "secret")] }

def sampleQueue (groupId : Id) : CreateQueueSchema where
  name := ⟨"queue", by decide⟩
  groupId := groupId

/-- The role of a maintainer. -/
def sampleRole : AddUserSchema where
  role := .maintainer
  isPublic := rfl

/-- A transfer from a connection to itself. -/
def sampleTransfer (groupId connectionId queueId : Id) : CreateTransferSchema where
  groupId := groupId
  queueId := queueId
  sourceConnectionId := connectionId
  targetConnectionId := connectionId
  name := ⟨"transfer", by decide⟩
  sourceParams := { type := .postgres, fields := [] }
  targetParams := { type := .postgres, fields := [] }
  schedulingValid := rfl
  strategyValid := rfl

/-- A user with two groups, each with a connection and a queue, and a transfer
    in the first. -/
def sampleEvents : List Event := [
  .login "owner",
  .request 1 .returned 1 (.createGroup sampleGroup),
  .request 2 .returned 1 (.createGroup { name := ⟨"second", by decide⟩, description := "" }),
  .request 3 .returned 1 (.createConnection (sampleConnection 1)),
  .request 4 .returned 1 (.createConnection (sampleConnection 2)),
  .request 5 .returned 1 (.createQueue (sampleQueue 1)),
  .request 6 .returned 1 (.createQueue (sampleQueue 2)),
  .request 7 .returned 1 (.createTransfer (sampleTransfer 1 1 1))]

/-- The transfer of the first group, updated with a body that names the second
    group, its connection and its queue. -/
def crossGroupEvents : List Event :=
  sampleEvents ++ [.request 8 .returned 1 (.updateTransfer 1 (sampleTransfer 2 2 2))]

theorem reachable_foldl (es : List Event) : Reachable (es.foldl Database.step Database.empty) :=
  ⟨es, Machine.run_graph.mpr rfl⟩

/-- The same update, naming the group of the transfer. -/
def ownGroupEvents : List Event :=
  sampleEvents ++ [.request 8 .returned 1 (.updateTransfer 1 (sampleTransfer 1 1 1))]

theorem ownGroupRun_sample :
    OwnGroupRun Database.empty ownGroupEvents
      (ownGroupEvents.foldl Database.step Database.empty) := by
  have hstep : ∀ {db : Database} {e : Event}, e.NamesOwnGroup db →
      Machine.restrict (fun db e => e.NamesOwnGroup db) (Machine.graph Database.step) db e
        (db.step e) :=
    fun hown => ⟨hown, rfl⟩
  have hlast : ((sampleEvents.foldl Database.step Database.empty).transfers.map
      (fun t => t.groupId)) = [1] := by decide +kernel
  refine Machine.run_snoc.mpr ⟨sampleEvents.foldl Database.step Database.empty, ?_, hstep ?_⟩
  · exact .cons (hstep trivial) (.cons (hstep trivial) (.cons (hstep trivial) (.cons (hstep trivial)
      (.cons (hstep trivial) (.cons (hstep trivial) (.cons (hstep trivial) (.cons (hstep trivial)
      (.nil _))))))))
  · intro t ht _
    have hgroup : t.groupId ∈ [1] := hlast ▸ List.mem_map_of_mem ht
    exact (List.mem_singleton.mp hgroup).symm

theorem sameGroup_ownGroupEvents :
    SameGroup (ownGroupEvents.foldl Database.step Database.empty) :=
  sameGroup_of_namesOwnGroup ownGroupRun_sample

/-- The invariant fails in a reachable state: a transfer of the first group
    uses the connections and the queue of the second. -/
theorem not_sameGroup_crossGroup :
    ¬ ∀ db, Reachable db → SameGroup db := by
  intro h
  have hsame := h _ (reachable_foldl crossGroupEvents)
  revert hsame
  decide +kernel

end Sample

end SyncMaster
