import SyncMaster.Tenancy.SameGroup

/-!
# Transfers and what they Depend on

A connection or a queue that is deleted takes with it every transfer that uses
it, and the runs of that transfer.

There are three ways to delete one. `delete_connection` refuses while any
transfer uses the connection. `delete_queue` looks only at the transfers of
the queue's own group, and `copy_connection` with `remove_source` looks at
none. `Request.Severs` says when one of the last two is accepted and some
transfer is lost by it, in terms of the state before and of the checks that
the code makes there; the theorem says that nothing else is.

## Main definitions

* `MovesAway`, `DropsQueue`: The two deletions, with what they check.
* `Request.Severs`: A deletion takes a transfer of the given kind with it.
* `Request.OnConnectionOrQueue`: The requests that this is about.

## Theorems

* `deleteConnection_keepsTransfers`: A checked deletion loses nothing.
* `returns_of_movesAway`, `dropsQueue_iff`: When the other two are accepted.
* `lost_of_severs`: What they take with them.
* `dependencies_kept_iff`: A request on connections or queues keeps every
  transfer and every run exactly when it severs none.
-/

namespace SyncMaster

open Program

/-! ## Deletions that take nothing with them -/

section Cascades

variable {db db' : Database}

/-- No transfer selected, nothing deleted. -/
theorem deleteTransfers_of_none {p : Transfer → Bool} (h : ∀ t ∈ db.transfers, p t = false) :
    (db.deleteTransfers p).transfers = db.transfers ∧ (db.deleteTransfers p).runs = db.runs := by
  refine ⟨Table.delete_eq_self h, Table.delete_eq_self (fun r _ => ?_)⟩
  refine List.any_eq_false.mpr (fun t ht => ?_)
  rw [h t ht, Bool.false_and]
  exact Bool.false_ne_true

theorem any_key_eq_false {Row : Type} {key : Row → Id} {rows : List Row} {id k : Id} (h : k ≠ id) :
    rows.any (fun r => key r == id && key r == k) = false := by
  refine List.any_eq_false.mpr (fun r _ => ?_)
  simp only [Bool.and_eq_true, beq_iff_eq, not_and]
  intro hid hk
  exact h (hk.symm.trans hid)

theorem any_key_eq_true {Row : Type} (key : Row → Id) {rows : List Row} {r : Row} (hr : r ∈ rows) :
    rows.any (fun s => key s == key r && key s == key r) = true := by
  refine List.any_eq_true.mpr ⟨r, hr, ?_⟩
  rw [beq_self_eq_true, Bool.and_self]

/-- A connection that no transfer uses takes none with it. -/
theorem deleteConnections_of_unused {c : Connection} (h : Unused db c) :
    (db.deleteConnections (fun d => d.id == c.id)).transfers = db.transfers ∧
      (db.deleteConnections (fun d => d.id == c.id)).runs = db.runs := by
  refine deleteTransfers_of_none (fun t ht => ?_)
  rcases h t ht with ⟨hs, ht'⟩
  exact Bool.or_eq_false_iff.mpr ⟨any_key_eq_false hs, any_key_eq_false ht'⟩

/-- One that a transfer uses takes it with it. -/
theorem not_mem_deleteConnections {c : Connection} {t : Transfer} (hc : c ∈ db.connections)
    (h : t.sourceConnectionId = c.id ∨ t.targetConnectionId = c.id) :
    t ∉ (db.deleteConnections (fun d => d.id == c.id)).transfers := by
  intro ht
  have hspared := Bool.or_eq_false_iff.mp (Table.mem_delete.mp ht).2
  have hgone := any_key_eq_true (fun d : Connection => d.id) hc
  rcases h with h | h
  · rw [h] at hspared
    exact absurd (hgone.symm.trans hspared.1) (Ne.symm Bool.false_ne_true)
  · rw [h] at hspared
    exact absurd (hgone.symm.trans hspared.2) (Ne.symm Bool.false_ne_true)

/-- A queue that no transfer uses takes none with it. -/
theorem deleteQueues_of_unused {q : Queue} (h : ∀ t ∈ db.transfers, t.queueId ≠ q.id) :
    (db.deleteQueues (fun r => r.id == q.id)).transfers = db.transfers ∧
      (db.deleteQueues (fun r => r.id == q.id)).runs = db.runs :=
  deleteTransfers_of_none (fun t ht => any_key_eq_false (h t ht))

theorem not_mem_deleteQueues {q : Queue} {t : Transfer} (hq : q ∈ db.queues)
    (h : t.queueId = q.id) : t ∉ (db.deleteQueues (fun r => r.id == q.id)).transfers := by
  intro ht
  have hspared := (Table.mem_delete.mp ht).2
  have hgone := any_key_eq_true (fun r : Queue => r.id) hq
  rw [h] at hspared
  exact absurd (hgone.symm.trans hspared) (Ne.symm Bool.false_ne_true)

end Cascades

/-! ## The two deletions that lose transfers -/

/-- What `copy_connection` with `remove_source` checks. It does not look at the
    transfers. -/
def MovesAway (db : Database) (user : User) (connectionId : Id) (body : ConnectionCopySchema) :
    Prop :=
  body.removeSource = true ∧
    ¬ resourcePermission memberRights Connection.model (·.toResourceMixin) db user connectionId
      < .delete ∧
    (∃ p, groupPermission memberRights db user body.newGroupId = .ok p ∧ ¬ p < .write) ∧
    ∃ origin ∈ db.connections, origin.id = connectionId ∧
      Connection.model.Satisfied db db.connections
        (ConnectionRepository.copied (db.sequences .connection) body.newGroupId
          (body.newName.map (·.val)) origin)

/-- What `delete_queue` checks. It looks at the transfers of one group only. -/
def DropsQueue (db : Database) (user : User) (queueId : Id) : Prop :=
  ¬ resourcePermission queueRights Queue.model (·.toResourceMixin) db user queueId < .delete ∧
    ∃ queue ∈ db.queues, queue.id = queueId ∧
      TransferRepository.ofQueue db queue.groupId queueId = []

/-- The request is accepted and takes a transfer of the given kind with it. -/
def Request.Severs (db : Database) (user : User) (kind : Transfer → Prop) : Request → Prop
  | .copyConnection connectionId body =>
      MovesAway db user connectionId body ∧
        ∃ t ∈ db.transfers, kind t ∧
          (t.sourceConnectionId = connectionId ∨ t.targetConnectionId = connectionId)
  | .deleteQueue queueId =>
      DropsQueue db user queueId ∧ ∃ t ∈ db.transfers, kind t ∧ t.queueId = queueId
  | _ => False

section Acceptance

variable {db db' : Database} {user : User}

/-- A move that is accepted has passed its checks, and deletes the original in a
    database that has the same transfers and runs. -/
theorem movesAway_of_returns {connectionId : Id} {body : ConnectionCopySchema}
    {response : ReadConnectionSchema} (hremove : body.removeSource = true)
    (h : Returns (copyConnection user connectionId body) db response db') :
    MovesAway db user connectionId body ∧
      ∃ (db₁ : Database) (d : Connection), d ∈ db₁.connections ∧ d.id = connectionId ∧
        db₁.transfers = db.transfers ∧ db₁.runs = db.runs ∧
        db' = db₁.deleteConnections (fun c => c.id == d.id) := by
  rcases returns_copyConnection.mp h with ⟨_, hpermission, hgroup, origin, ho, c, hc, _, db₁,
    hinsert, hrest⟩
  rw [if_pos hremove] at hrest
  rcases hrest with ⟨d, hd, hdelete⟩
  constructor
  · refine ⟨hremove, fun hlt => hpermission ⟨hremove, hlt⟩, hgroup, origin,
      (Table.mem_of_filter_eq ho).1, beq_iff_eq.mp (Table.mem_of_filter_eq ho).2, ?_⟩
    rw [← hc]
    exact hinsert.1.2
  · refine ⟨db₁, d, (Table.mem_of_filter_eq hd).1, beq_iff_eq.mp (Table.mem_of_filter_eq hd).2,
      ?_, ?_, hdelete.2⟩
    · rw [hinsert.2]
      rfl
    · rw [hinsert.2]
      rfl

/-- A move that passes its checks is accepted. -/
theorem returns_of_movesAway {connectionId : Id} {body : ConnectionCopySchema} (hk : Keys db)
    (h : MovesAway db user connectionId body) :
    ∃ response db', Returns (copyConnection user connectionId body) db response db' := by
  rcases h with ⟨hremove, hpermission, hgroup, origin, ho, hid, hsatisfied⟩
  rcases hc : ConnectionRepository.copied (db.sequences .connection) body.newGroupId
    (body.newName.map (·.val)) origin with c
  have hcid : c.id = db.sequences .connection := by
    rw [← hc]
    rfl
  rw [hc] at hsatisfied
  have hfilter := Table.filter_key_eq _ hk.connections ho hid
  -- The copy has a new identifier, so the original is still the only row with its own.
  have hnew : (c.id == connectionId) = false := by
    rw [beq_eq_false_iff_ne, hcid, ← hid]
    exact (ne_of_lt (hk.connectionsBelow origin ho)).symm
  have hafter : (db.connections ++ [c]).filter (fun d => d.id == connectionId) = [origin] := by
    rw [List.filter_append, hfilter, List.filter_singleton, hnew, Bool.cond_false,
      List.append_nil]
  refine ⟨_, Write.apply (Write.apply db (.insertConnection c)) (.deleteConnection origin),
    returns_copyConnection.mpr ⟨?_, fun hlt => hpermission hlt.2, hgroup, origin, hfilter, c,
      hc.symm, rfl, _, ⟨⟨hcid, hsatisfied⟩, rfl⟩, ?_⟩⟩
  · intro hnone
    rw [hnone] at hpermission
    exact hpermission none_lt_delete
  · rw [if_pos hremove]
    refine ⟨origin, hafter, ?_, rfl⟩
    rw [Write.Checked, hid]
    exact hafter

/-- `delete_queue` is accepted exactly when its checks pass. -/
theorem dropsQueue_iff {queueId : Id} (hk : Keys db) :
    DropsQueue db user queueId ↔
      ∃ response db', Returns (deleteQueue user queueId) db response db' := by
  constructor
  · rintro ⟨hpermission, queue, hq, hid, hempty⟩
    have hfilter := Table.filter_key_eq _ hk.queues hq hid
    refine ⟨(), _, returns_deleteQueue.mpr ⟨queue, hfilter, hpermission, ?_, ?_, rfl⟩⟩
    · rw [hid]
      exact hempty
    · rw [Write.Checked, hid]
      exact hfilter
  · rintro ⟨_, _, h⟩
    rcases returns_deleteQueue.mp h with ⟨queue, hq, hpermission, hempty, _⟩
    have hid : queue.id = queueId := beq_iff_eq.mp (Table.mem_of_filter_eq hq).2
    refine ⟨hpermission, queue, (Table.mem_of_filter_eq hq).1, hid, ?_⟩
    rw [← hid]
    exact hempty

/-- A request that severs a transfer is accepted, and the transfer is gone. -/
theorem lost_of_severs {now : Time} {sent : SendTask} {request : Request} {kind : Transfer → Prop}
    (hk : Keys db) (h : request.Severs db user kind) :
    ∃ t ∈ db.transfers, kind t ∧ t ∉ (after (handle now sent user request) db).transfers := by
  cases request with
  | copyConnection connectionId body =>
      rcases h with ⟨hmoves, t, ht, hkind, huses⟩
      rcases returns_of_movesAway hk hmoves with ⟨_, _, hret⟩
      rcases movesAway_of_returns hmoves.1 hret with ⟨_, db₁, d, hd, hid, _, _, hafter⟩
      refine ⟨t, ht, hkind, ?_⟩
      rw [handle, after_map, after_of_returns hret, hafter]
      rw [← hid] at huses
      exact not_mem_deleteConnections hd huses
  | deleteQueue queueId =>
      rcases h with ⟨hdrops, t, ht, hkind, huses⟩
      rcases (dropsQueue_iff hk).mp hdrops with ⟨_, _, hret⟩
      rcases returns_deleteQueue.mp hret with ⟨queue, hq, _, _, hwrite⟩
      have hid : queue.id = queueId := beq_iff_eq.mp (Table.mem_of_filter_eq hq).2
      refine ⟨t, ht, hkind, ?_⟩
      rw [handle, after_map, after_of_returns hret, hwrite.2]
      rw [← hid] at huses
      exact not_mem_deleteQueues (Table.mem_of_filter_eq hq).1 huses
  | _ => exact h.elim

end Acceptance

/-! ## The requests on connections and queues -/

/-- The requests that are to leave the transfers alone. -/
def Request.OnConnectionOrQueue : Request → Prop
  | .updateConnection _ _ | .deleteConnection _ | .copyConnection _ _
  | .createQueue _ | .updateQueue _ _ | .deleteQueue _ => True
  | _ => False

/-- The transfers and the runs are the same. -/
structure KeepsTransfers (db db' : Database) : Prop where
  transfers : db'.transfers = db.transfers
  runs : db'.runs = db.runs

section Requests

variable {db db' : Database} {now : Time} {sent : SendTask} {user : User}

theorem keepsTransfers_of_cleanFailure {α : Type} {x : Db α} (hclean : CleanFailure Unchanged x)
    (hret : ∀ a db', Returns x db a db' → KeepsTransfers db db') :
    KeepsTransfers db (after x db) := by
  rcases returns_or_raises x db with ⟨a, db', h⟩ | ⟨e, db', h⟩
  · rw [after_of_returns h]
    exact hret a db' h
  · rw [after_of_raises h]
    have hsame := (hclean db e db' h).1
    exact ⟨congrArg Tables.transfers hsame, congrArg Tables.runs hsame⟩

theorem updateConnection_keepsTransfers (connectionId : Id) (body : UpdateConnectionSchema) :
    KeepsTransfers db (after (updateConnection now user connectionId body) db) := by
  refine keepsTransfers_of_cleanFailure (cleanFailure_updateConnection _ _) (fun _ _ h => ?_)
  rcases returns_updateConnection.mp h with ⟨_, _, _, _, hupdated, _⟩
  rw [hupdated.authData.2, hupdated.row.2]
  exact ⟨rfl, rfl⟩

theorem deleteConnection_keepsTransfers (connectionId : Id) :
    KeepsTransfers db (after (deleteConnection user connectionId) db) := by
  refine keepsTransfers_of_cleanFailure (cleanFailure_deleteConnection _) (fun _ _ h => ?_)
  rcases returns_deleteConnection h with ⟨c, _, _, hunused, hdelete⟩
  rcases deleteConnections_of_unused hunused with ⟨ht, hr⟩
  rw [hdelete.2]
  exact ⟨ht, hr⟩

theorem createQueue_keepsTransfers (body : CreateQueueSchema) :
    KeepsTransfers db (after (createQueue now user body) db) := by
  refine keepsTransfers_of_cleanFailure (cleanFailure_createQueue _) (fun _ _ h => ?_)
  rcases returns_createQueue h with ⟨_, _, hinsert⟩
  rw [hinsert.2]
  exact ⟨rfl, rfl⟩

theorem updateQueue_keepsTransfers (queueId : Id) (body : UpdateQueueSchema) :
    KeepsTransfers db (after (updateQueue now user queueId body) db) := by
  refine keepsTransfers_of_cleanFailure (cleanFailure_updateQueue _ _) (fun _ _ h => ?_)
  rcases returns_updateQueue h with ⟨_, _, _, _, hupdate⟩
  rw [hupdate.2]
  exact ⟨rfl, rfl⟩

theorem copyConnection_keepsTransfers {connectionId : Id} {body : ConnectionCopySchema}
    (hsevers : ¬ (Request.copyConnection connectionId body).Severs db user (fun _ => True)) :
    KeepsTransfers db (after (copyConnection user connectionId body) db) := by
  refine keepsTransfers_of_cleanFailure (cleanFailure_copyConnection _ _) (fun _ _ h => ?_)
  by_cases hremove : body.removeSource = true
  · rcases movesAway_of_returns hremove h with ⟨hmoves, db₁, d, _, hid, ht, hr, hafter⟩
    have hunused : Unused db₁ d := by
      intro t hmem
      rw [ht] at hmem
      rw [hid]
      exact not_or.mp (fun huses => hsevers ⟨hmoves, t, hmem, trivial, huses⟩)
    rcases deleteConnections_of_unused hunused with ⟨ht', hr'⟩
    rw [hafter]
    exact ⟨ht'.trans ht, hr'.trans hr⟩
  · rcases returns_copyConnection.mp h with ⟨_, _, _, _, _, _, _, _, _, hinsert, hrest⟩
    rw [if_neg hremove] at hrest
    rw [hrest, hinsert.2]
    exact ⟨rfl, rfl⟩

theorem deleteQueue_keepsTransfers {queueId : Id} (hk : Keys db)
    (hsevers : ¬ (Request.deleteQueue queueId).Severs db user (fun _ => True)) :
    KeepsTransfers db (after (deleteQueue user queueId) db) := by
  refine keepsTransfers_of_cleanFailure (cleanFailure_deleteQueue _) (fun _ _ h => ?_)
  have hdrops : DropsQueue db user queueId := (dropsQueue_iff hk).mpr ⟨_, _, h⟩
  rcases returns_deleteQueue.mp h with ⟨queue, hq, _, _, hdelete⟩
  have hid : queue.id = queueId := beq_iff_eq.mp (Table.mem_of_filter_eq hq).2
  have hunused : ∀ t ∈ db.transfers, t.queueId ≠ queue.id := by
    intro t ht huses
    exact hsevers ⟨hdrops, t, ht, trivial, huses.trans hid⟩
  rcases deleteQueues_of_unused hunused with ⟨ht, hr⟩
  rw [hdelete.2]
  exact ⟨ht, hr⟩

theorem handle_keepsTransfers {request : Request} (hk : Keys db)
    (hkind : request.OnConnectionOrQueue)
    (hsevers : ¬ request.Severs db user (fun _ => True)) :
    KeepsTransfers db (after (handle now sent user request) db) := by
  cases request with
  | updateConnection connectionId body =>
      rw [handle, after_map]
      exact updateConnection_keepsTransfers connectionId body
  | deleteConnection connectionId =>
      rw [handle, after_map]
      exact deleteConnection_keepsTransfers connectionId
  | copyConnection connectionId body =>
      rw [handle, after_map]
      exact copyConnection_keepsTransfers hsevers
  | createQueue body =>
      rw [handle, after_map]
      exact createQueue_keepsTransfers body
  | updateQueue queueId body =>
      rw [handle, after_map]
      exact updateQueue_keepsTransfers queueId body
  | deleteQueue queueId =>
      rw [handle, after_map]
      exact deleteQueue_keepsTransfers hk hsevers
  | _ => exact hkind.elim

/-- The request is sent by a known and active user, and takes a transfer of the
    given kind with it. -/
def Request.SeversAs (db : Database) (userId : Id) (kind : Transfer → Prop)
    (request : Request) : Prop :=
  ∃ user, db.users.find? (fun u => u.id == userId) = some user ∧ user.isActive = true ∧
    request.Severs db user kind

/-- In every reachable state, a request on connections or queues keeps every
    transfer and every run, unless it moves a connection away or drops a queue
    that some transfer uses. -/
theorem dependencies_kept_iff (hdb : Reachable db) (now : Time) (sent : SendTask) (userId : Id)
    {request : Request} (hkind : request.OnConnectionOrQueue) :
    KeepsTransfers db (db.step (.request now sent userId request)) ↔
      ¬ request.SeversAs db userId (fun _ => True) := by
  have hk : Keys db := (reachable_consistent hdb).keys
  rw [step_request]
  constructor
  · rintro hkeeps ⟨user, hfind, hactive, hsevers⟩
    rw [after_api hfind hactive] at hkeeps
    rcases lost_of_severs hk hsevers with ⟨t, ht, _, hlost⟩
    rw [hkeeps.transfers] at hlost
    exact hlost ht
  · intro hnot
    by_cases huser : ∃ user, db.users.find? (fun u => u.id == userId) = some user ∧
        user.isActive = true
    · rcases huser with ⟨user, hfind, hactive⟩
      rw [after_api hfind hactive]
      exact handle_keepsTransfers hk hkind (fun hsevers => hnot ⟨user, hfind, hactive, hsevers⟩)
    · rw [after_api_of_no_user (fun user hfind =>
        Bool.eq_false_iff.mpr (fun hactive => huser ⟨user, hfind, hactive⟩))]
      exact ⟨rfl, rfl⟩

/-- The connection of the sample's transfer, moved to the second group. -/
def moveSample : Request :=
  .copyConnection 1
    { newGroupId := 2, newName := some ⟨"moved", by decide⟩, removeSource := true }

theorem dependencies_kept_sample :
    KeepsTransfers (sampleEvents.foldl Database.step Database.empty)
        ((sampleEvents.foldl Database.step Database.empty).step (.request 8 .returned 1 moveSample)) ↔
      ¬ moveSample.SeversAs (sampleEvents.foldl Database.step Database.empty) 1
        (fun _ => True) :=
  dependencies_kept_iff (reachable_foldl sampleEvents) 8 .returned 1 trivial

/-- Moving a connection away deletes the transfer that uses it. -/
theorem not_dependencies_kept :
    ¬ ∀ db, Reachable db → ∀ now sent userId (request : Request), request.OnConnectionOrQueue →
      KeepsTransfers db (db.step (.request now sent userId request)) := by
  intro h
  have hkeeps := (h _ (reachable_foldl sampleEvents) 8 .returned 1 moveSample trivial).transfers
  have hcount := congrArg List.length hkeeps
  revert hcount
  decide +kernel

end Requests

end SyncMaster
