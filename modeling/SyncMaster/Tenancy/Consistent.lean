import SyncMaster.Server.Runs
import Mathlib.Order.ConditionallyCompleteLattice.Basic
import Mathlib.Data.Int.ConditionallyCompleteOrder

/-!
# Referential Integrity

The constraints of the schema, as an invariant of the reachable states.

The database checks a constraint when a row is written. `Consistent` is the
same constraints said of all rows at once: primary keys are distinct, the
sequences are ahead of them, and every foreign key has its target. The
insertions and updates keep it because they are checked. The deletions keep it
because of what they cascade to, and here each cascade is compared with the
foreign keys that it has to serve.

The foreign keys are kept apart by what they lead to. Those that lead to
connections, queues and transfers are restored by a cascade from any of these
tables; those that lead to groups and users only matter when a group is
deleted.

## Main definitions

* `Keys`: Primary keys are distinct and below their sequence.
* `ResourceLinks`, `GroupLinks`: The foreign keys.
* `Consistent`: All of them.

## Theorems

* `checkedStep_keys`, `checkedStep_resourceLinks`, `checkedStep_groupLinks`:
  Every checked write keeps them.
* `reachable_consistent`: Every reachable state is consistent.
* `reachable_of_outcomes`: What the outcomes of the requests keep holds in
  every reachable state.
-/

namespace SyncMaster

open Table

/-- Primary keys are distinct, and no sequence will hand one out again. -/
structure Keys (db : Database) : Prop where
  users : Distinct (fun u : User => u.id) db.users
  groups : Distinct (fun g : Group => g.id) db.groups
  userGroups : Distinct (fun ug : UserGroup => (ug.groupId, ug.userId)) db.userGroups
  connections : Distinct (fun c : Connection => c.id) db.connections
  authData : Distinct (fun a : AuthData => a.connectionId) db.authData
  queues : Distinct (fun q : Queue => q.id) db.queues
  transfers : Distinct (fun t : Transfer => t.id) db.transfers
  runs : Distinct (fun r : Run => r.id) db.runs
  usersBelow : Below (fun u : User => u.id) (db.sequences .user) db.users
  groupsBelow : Below (fun g : Group => g.id) (db.sequences .group) db.groups
  connectionsBelow : Below (fun c : Connection => c.id) (db.sequences .connection) db.connections
  queuesBelow : Below (fun q : Queue => q.id) (db.sequences .queue) db.queues
  transfersBelow : Below (fun t : Transfer => t.id) (db.sequences .transfer) db.transfers
  runsBelow : Below (fun r : Run => r.id) (db.sequences .run) db.runs

/-- The foreign keys that lead to connections, queues and transfers. -/
structure ResourceLinks (db : Database) : Prop where
  credentials : References (fun a : AuthData => a.connectionId) (fun c : Connection => c.id)
    db.authData db.connections
  transferSource : References (fun t : Transfer => t.sourceConnectionId)
    (fun c : Connection => c.id) db.transfers db.connections
  transferTarget : References (fun t : Transfer => t.targetConnectionId)
    (fun c : Connection => c.id) db.transfers db.connections
  transferQueue : References (fun t : Transfer => t.queueId) (fun q : Queue => q.id)
    db.transfers db.queues
  runTransfer : References (fun r : Run => r.transferId) (fun t : Transfer => t.id)
    db.runs db.transfers

/-- The foreign keys that lead to users and groups. -/
structure GroupLinks (db : Database) : Prop where
  groupOwner : References (fun g : Group => g.ownerId) (fun u : User => u.id) db.groups db.users
  memberUser : References (fun ug : UserGroup => ug.userId) (fun u : User => u.id)
    db.userGroups db.users
  memberGroup : References (fun ug : UserGroup => ug.groupId) (fun g : Group => g.id)
    db.userGroups db.groups
  connectionGroup : References (fun c : Connection => c.groupId) (fun g : Group => g.id)
    db.connections db.groups
  queueGroup : References (fun q : Queue => q.groupId) (fun g : Group => g.id)
    db.queues db.groups
  transferGroup : References (fun t : Transfer => t.groupId) (fun g : Group => g.id)
    db.transfers db.groups

structure Consistent (db : Database) : Prop where
  keys : Keys db
  resourceLinks : ResourceLinks db
  groupLinks : GroupLinks db

/-! ## Deletions -/

/-- A cascade only takes rows away. -/
structure Shrinks (db db' : Database) : Prop where
  users : db'.users = db.users
  groups : List.Sublist db'.groups db.groups
  userGroups : List.Sublist db'.userGroups db.userGroups
  connections : List.Sublist db'.connections db.connections
  authData : List.Sublist db'.authData db.authData
  queues : List.Sublist db'.queues db.queues
  transfers : List.Sublist db'.transfers db.transfers
  runs : List.Sublist db'.runs db.runs
  sequences : db'.sequences = db.sequences

section Cascades

variable {db : Database}

theorem shrinks_refl (db : Database) : Shrinks db db :=
  ⟨rfl, .refl _, .refl _, .refl _, .refl _, .refl _, .refl _, .refl _, rfl⟩

theorem shrinks_trans {a b c : Database} (hab : Shrinks a b) (hbc : Shrinks b c) :
    Shrinks a c where
  users := hbc.users.trans hab.users
  groups := hbc.groups.trans hab.groups
  userGroups := hbc.userGroups.trans hab.userGroups
  connections := hbc.connections.trans hab.connections
  authData := hbc.authData.trans hab.authData
  queues := hbc.queues.trans hab.queues
  transfers := hbc.transfers.trans hab.transfers
  runs := hbc.runs.trans hab.runs
  sequences := hbc.sequences.trans hab.sequences

theorem shrinks_deleteTransfers (p : Transfer → Bool) : Shrinks db (db.deleteTransfers p) :=
  { shrinks_refl db with
    transfers := delete_sublist _ _
    runs := delete_sublist _ _ }

theorem shrinks_deleteConnections (p : Connection → Bool) :
    Shrinks db (db.deleteConnections p) :=
  { shrinks_refl db with
    connections := delete_sublist _ _
    authData := delete_sublist _ _
    transfers := delete_sublist _ _
    runs := delete_sublist _ _ }

theorem shrinks_deleteQueues (p : Queue → Bool) : Shrinks db (db.deleteQueues p) :=
  { shrinks_refl db with
    queues := delete_sublist _ _
    transfers := delete_sublist _ _
    runs := delete_sublist _ _ }

/-- The groups and the memberships go first, then each kind of resource. -/
theorem shrinks_deleteGroups (p : Group → Bool) : Shrinks db (db.deleteGroups p) := by
  have hgroups : Shrinks db { db with
      groups := delete p db.groups
      userGroups := delete (fun ug => db.groups.any (fun g => p g && g.id == ug.groupId))
        db.userGroups } :=
    { shrinks_refl db with
      groups := delete_sublist _ _
      userGroups := delete_sublist _ _ }
  exact shrinks_trans (shrinks_trans (shrinks_trans hgroups (shrinks_deleteConnections _))
    (shrinks_deleteQueues _)) (shrinks_deleteTransfers _)

theorem shrinks_keys {db' : Database} (h : Keys db) (hs : Shrinks db db') : Keys db' where
  users := hs.users ▸ h.users
  groups := distinct_sublist _ h.groups hs.groups
  userGroups := distinct_sublist _ h.userGroups hs.userGroups
  connections := distinct_sublist _ h.connections hs.connections
  authData := distinct_sublist _ h.authData hs.authData
  queues := distinct_sublist _ h.queues hs.queues
  transfers := distinct_sublist _ h.transfers hs.transfers
  runs := distinct_sublist _ h.runs hs.runs
  usersBelow := by rw [hs.users, hs.sequences]; exact h.usersBelow
  groupsBelow := by rw [hs.sequences]; exact below_sublist _ h.groupsBelow hs.groups
  connectionsBelow := by
    rw [hs.sequences]; exact below_sublist _ h.connectionsBelow hs.connections
  queuesBelow := by rw [hs.sequences]; exact below_sublist _ h.queuesBelow hs.queues
  transfersBelow := by rw [hs.sequences]; exact below_sublist _ h.transfersBelow hs.transfers
  runsBelow := by rw [hs.sequences]; exact below_sublist _ h.runsBelow hs.runs

/-- A row that a cascade spares had no deleted parent. -/
theorem eq_false_of_spared {Row : Type} (key : Row → Id) {rows : List Row} {p : Row → Bool}
    {k : Id} (h : rows.any (fun s => p s && key s == k) = false) {s : Row} (hs : s ∈ rows)
    (hk : key s = k) : p s = false := by
  have hnot := List.any_eq_false.mp h s hs
  rw [hk, beq_self_eq_true, Bool.and_true, Bool.not_eq_true] at hnot
  exact hnot

theorem runTransfer_deleteTransfers (p : Transfer → Bool)
    (h : References (fun r : Run => r.transferId) (fun t : Transfer => t.id) db.runs db.transfers) :
    References (fun r : Run => r.transferId) (fun t : Transfer => t.id)
      (db.deleteTransfers p).runs (db.deleteTransfers p).transfers := by
  refine references_cascade h (delete_sublist _ _) (fun r hr t ht hkey => ?_)
  exact eq_false_of_spared (fun t : Transfer => t.id) (mem_delete.mp hr).2 ht hkey

theorem resourceLinks_deleteTransfers (h : ResourceLinks db) (p : Transfer → Bool) :
    ResourceLinks (db.deleteTransfers p) where
  credentials := h.credentials
  transferSource := references_sublist_child h.transferSource (delete_sublist _ _)
  transferTarget := references_sublist_child h.transferTarget (delete_sublist _ _)
  transferQueue := references_sublist_child h.transferQueue (delete_sublist _ _)
  runTransfer := runTransfer_deleteTransfers p h.runTransfer

theorem resourceLinks_deleteConnections (h : ResourceLinks db) (p : Connection → Bool) :
    ResourceLinks (db.deleteConnections p) where
  credentials := by
    refine references_cascade h.credentials (delete_sublist _ _) (fun a ha c hc hkey => ?_)
    exact eq_false_of_spared (fun c : Connection => c.id) (mem_delete.mp ha).2 hc hkey
  transferSource := by
    refine references_cascade h.transferSource (delete_sublist _ _) (fun t ht c hc hkey => ?_)
    have hspared := (Bool.or_eq_false_iff.mp (mem_delete.mp ht).2).1
    exact eq_false_of_spared (fun c : Connection => c.id) hspared hc hkey
  transferTarget := by
    refine references_cascade h.transferTarget (delete_sublist _ _) (fun t ht c hc hkey => ?_)
    have hspared := (Bool.or_eq_false_iff.mp (mem_delete.mp ht).2).2
    exact eq_false_of_spared (fun c : Connection => c.id) hspared hc hkey
  transferQueue := references_sublist_child h.transferQueue (delete_sublist _ _)
  runTransfer := runTransfer_deleteTransfers _ h.runTransfer

theorem resourceLinks_deleteQueues (h : ResourceLinks db) (p : Queue → Bool) :
    ResourceLinks (db.deleteQueues p) where
  credentials := h.credentials
  transferSource := references_sublist_child h.transferSource (delete_sublist _ _)
  transferTarget := references_sublist_child h.transferTarget (delete_sublist _ _)
  transferQueue := by
    refine references_cascade h.transferQueue (delete_sublist _ _) (fun t ht q hq hkey => ?_)
    exact eq_false_of_spared (fun q : Queue => q.id) (mem_delete.mp ht).2 hq hkey
  runTransfer := runTransfer_deleteTransfers _ h.runTransfer

theorem resourceLinks_deleteGroups (h : ResourceLinks db) (p : Group → Bool) :
    ResourceLinks (db.deleteGroups p) := by
  have hgroups : ResourceLinks { db with
      groups := delete p db.groups
      userGroups := delete (fun ug => db.groups.any (fun g => p g && g.id == ug.groupId))
        db.userGroups } :=
    { h with }
  exact resourceLinks_deleteTransfers (resourceLinks_deleteQueues
    (resourceLinks_deleteConnections hgroups _) _) _

/-- Where no group goes, the foreign keys to groups and users are safe. -/
theorem groupLinks_shrinks {db' : Database} (h : GroupLinks db) (hs : Shrinks db db')
    (hg : db'.groups = db.groups) : GroupLinks db' where
  groupOwner := by rw [hs.users, hg]; exact h.groupOwner
  memberUser := by rw [hs.users]; exact references_sublist_child h.memberUser hs.userGroups
  memberGroup := by rw [hg]; exact references_sublist_child h.memberGroup hs.userGroups
  connectionGroup := by
    rw [hg]; exact references_sublist_child h.connectionGroup hs.connections
  queueGroup := by rw [hg]; exact references_sublist_child h.queueGroup hs.queues
  transferGroup := by rw [hg]; exact references_sublist_child h.transferGroup hs.transfers

/-- A deleted group takes all its rows with it. -/
theorem groupLinks_deleteGroups (h : GroupLinks db) (p : Group → Bool) :
    GroupLinks (db.deleteGroups p) := by
  have hs : Shrinks db _ := shrinks_deleteGroups p
  refine ⟨?_, ?_, ?_, ?_, ?_, ?_⟩
  · exact references_sublist_child h.groupOwner (delete_sublist _ _)
  · exact references_sublist_child h.memberUser (delete_sublist _ _)
  · refine references_cascade h.memberGroup (delete_sublist _ _) (fun ug hug g hg hkey => ?_)
    exact eq_false_of_spared (fun g : Group => g.id) (mem_delete.mp hug).2 hg hkey
  · refine references_cascade h.connectionGroup hs.connections (fun c hc g hg hkey => ?_)
    exact eq_false_of_spared (fun g : Group => g.id) (mem_delete.mp hc).2 hg hkey
  · refine references_cascade h.queueGroup hs.queues (fun q hq g hg hkey => ?_)
    exact eq_false_of_spared (fun g : Group => g.id) (mem_delete.mp hq).2 hg hkey
  · refine references_cascade h.transferGroup hs.transfers (fun t ht g hg hkey => ?_)
    exact eq_false_of_spared (fun g : Group => g.id) (mem_delete.mp ht).2 hg hkey

end Cascades

/-! ## Constraints of the rows -/

section Satisfied

variable {db : Database}

theorem userGroup_satisfied {others : List UserGroup} {ug : UserGroup}
    (h : UserGroup.model.Satisfied db others ug) :
    (∀ m ∈ others, ¬ (m.userId = ug.userId ∧ m.groupId = ug.groupId)) ∧
      (∃ g ∈ db.groups, g.id = ug.groupId) ∧ ∃ u ∈ db.users, u.id = ug.userId := by
  simp only [Model.Satisfied, UserGroup.model, List.forall_mem_cons, List.any_eq_true,
    Bool.not_eq_true', List.any_eq_false, Bool.and_eq_true, beq_iff_eq] at h
  exact ⟨h.1, h.2.1, h.2.2.1⟩

theorem authData_satisfied {others : List AuthData} {a : AuthData}
    (h : AuthData.model.Satisfied db others a) :
    (∀ b ∈ others, b.connectionId ≠ a.connectionId) ∧
      ∃ c ∈ db.connections, c.id = a.connectionId := by
  simp only [Model.Satisfied, AuthData.model, List.forall_mem_cons, List.any_eq_true,
    Bool.not_eq_true', List.any_eq_false, beq_iff_eq] at h
  exact ⟨h.1, h.2.1⟩

theorem run_satisfied {others : List Run} {r : Run} (h : Run.model.Satisfied db others r) :
    ∃ t ∈ db.transfers, t.id = r.transferId := by
  simp only [Model.Satisfied, Run.model, List.forall_mem_cons, List.any_eq_true,
    beq_iff_eq] at h
  exact h.1

end Satisfied

/-! ## The checked writes -/

section Writes

variable {db db' : Database}

/-- Advancing the sequences leaves the keys below them. -/
theorem keys_advance (h : Keys db) {sequences : Sequence → Id}
    (hle : ∀ s, db.sequences s ≤ sequences s) :
    Keys { db with sequences := sequences } :=
  { h with
    usersBelow := below_mono _ (hle .user) h.usersBelow
    groupsBelow := below_mono _ (hle .group) h.groupsBelow
    connectionsBelow := below_mono _ (hle .connection) h.connectionsBelow
    queuesBelow := below_mono _ (hle .queue) h.queuesBelow
    transfersBelow := below_mono _ (hle .transfer) h.transfersBelow
    runsBelow := below_mono _ (hle .run) h.runsBelow }

/-- The identifier that a sequence hands out is used up. -/
theorem le_bump {s : Sequence} {id : Id} (hid : id = db.sequences s) (q : Sequence) :
    db.sequences q ≤ Write.bump db s id q := by
  rw [Write.bump, hid]
  by_cases hq : q = s
  · subst hq
    rw [Function.update_self]
    exact le_of_lt (Int.lt_succ _)
  · rw [Function.update_of_ne hq]

/-- No checked write takes a sequence back. -/
theorem checkedStep_grows {w : Write} (hstep : checkedStep db w db') : Grows db db' := by
  rcases hstep with ⟨hc, rfl⟩
  cases w with
  | advance sequences => exact hc
  | insertUser | insertGroup | insertConnection | insertQueue | insertTransfer | insertRun =>
      exact le_bump hc.1
  | setSuperuser | updateGroup | insertUserGroup | updateUserGroup | deleteUserGroup
  | updateConnection | insertAuthData | updateAuthData | updateQueue | updateTransfer
  | updateRun => exact grows_refl db
  | deleteGroup => exact grows_of_eq (shrinks_deleteGroups _).sequences
  | deleteConnection => exact grows_of_eq (shrinks_deleteConnections _).sequences
  | deleteQueue => exact grows_of_eq (shrinks_deleteQueues _).sequences
  | deleteTransfer => exact grows_of_eq (shrinks_deleteTransfers _).sequences

/-- A row with the next identifier is below the advanced sequence, as the others
    are. -/
theorem below_insertNext {Row : Type} {key : Row → Id} {rows : List Row} {s : Sequence} {r : Row}
    (h : Below key (db.sequences s) rows) (hr : key r = db.sequences s) :
    Below key (Write.bump db s (key r) s) (rows ++ [r]) := by
  refine below_insert _ (below_mono _ (le_bump hr s) h) ?_
  rw [Write.bump, Function.update_self]
  exact Int.lt_succ _

/-- The next identifier is new. -/
theorem fresh_of_below {Row : Type} {key : Row → Id} {rows : List Row} {bound : Id} {r : Row}
    (h : Below key bound rows) (hr : key r = bound) : ∀ s ∈ rows, key s ≠ key r := by
  intro s hs heq
  exact absurd (heq.trans hr) (ne_of_lt (h s hs))

theorem checkedStep_keys {w : Write} (h : Keys db) (hstep : checkedStep db w db') :
    Keys db' := by
  rcases hstep with ⟨hc, rfl⟩
  cases w with
  | advance sequences => exact keys_advance h hc
  | insertUser u =>
      exact { keys_advance h (le_bump hc.1) with
        users := distinct_insert _ h.users (fresh_of_below h.usersBelow hc.1)
        usersBelow := below_insertNext h.usersBelow hc.1 }
  -- `UPDATE user SET is_superuser` touches neither the ids nor the sequence.
  | setSuperuser usernames b =>
      exact { h with
        users := distinct_update _ h.users (fun _ _ _ => rfl)
        usersBelow := below_update _ h.usersBelow (fun _ _ _ => rfl) }
  | insertGroup g =>
      exact { keys_advance h (le_bump hc.1) with
        groups := distinct_insert _ h.groups (fresh_of_below h.groupsBelow hc.1)
        groupsBelow := below_insertNext h.groupsBelow hc.1 }
  | updateGroup g =>
      exact { h with
        groups := distinct_update_key _ h.groups
        groupsBelow := below_update_key _ h.groupsBelow }
  | deleteGroup g => exact shrinks_keys h (shrinks_deleteGroups _)
  | insertUserGroup ug =>
      refine { h with userGroups := distinct_insert _ h.userGroups (fun m hm heq => ?_) }
      simp only [Prod.mk.injEq] at heq
      -- The primary key of a membership is the pair, and its constraint gives freshness.
      exact (userGroup_satisfied hc).1 m hm ⟨heq.2, heq.1⟩
  | updateUserGroup ug =>
      refine { h with userGroups := distinct_update _ h.userGroups (fun m _ hk => ?_) }
      rcases GroupRepository.isMembership_iff.mp hk with ⟨hg, hu⟩
      rw [hg, hu]
  | deleteUserGroup ug =>
      exact { h with userGroups := distinct_sublist _ h.userGroups (delete_sublist _ _) }
  | insertConnection c =>
      exact { keys_advance h (le_bump hc.1) with
        connections := distinct_insert _ h.connections (fresh_of_below h.connectionsBelow hc.1)
        connectionsBelow := below_insertNext h.connectionsBelow hc.1 }
  | updateConnection c =>
      exact { h with
        connections := distinct_update_key _ h.connections
        connectionsBelow := below_update_key _ h.connectionsBelow }
  | deleteConnection c => exact shrinks_keys h (shrinks_deleteConnections _)
  | insertAuthData a =>
      -- Credentials take their connection's id: here too the constraint, not a sequence.
      exact { h with authData := distinct_insert _ h.authData (authData_satisfied hc).1 }
  | updateAuthData a =>
      exact { h with
        authData := distinct_update_key _ h.authData }
  | insertQueue q =>
      exact { keys_advance h (le_bump hc.1) with
        queues := distinct_insert _ h.queues (fresh_of_below h.queuesBelow hc.1)
        queuesBelow := below_insertNext h.queuesBelow hc.1 }
  | updateQueue q =>
      exact { h with
        queues := distinct_update_key _ h.queues
        queuesBelow := below_update_key _ h.queuesBelow }
  | deleteQueue q => exact shrinks_keys h (shrinks_deleteQueues _)
  | insertTransfer t =>
      exact { keys_advance h (le_bump hc.1) with
        transfers := distinct_insert _ h.transfers (fresh_of_below h.transfersBelow hc.1)
        transfersBelow := below_insertNext h.transfersBelow hc.1 }
  | updateTransfer t =>
      exact { h with
        transfers := distinct_update_key _ h.transfers
        transfersBelow := below_update_key _ h.transfersBelow }
  | deleteTransfer t => exact shrinks_keys h (shrinks_deleteTransfers _)
  | insertRun r =>
      exact { keys_advance h (le_bump hc.1) with
        runs := distinct_insert _ h.runs (fresh_of_below h.runsBelow hc.1)
        runsBelow := below_insertNext h.runsBelow hc.1 }
  | updateRun r =>
      exact { h with
        runs := distinct_update_key _ h.runs
        runsBelow := below_update_key _ h.runsBelow }

theorem checkedStep_resourceLinks {w : Write} (h : ResourceLinks db)
    (hstep : checkedStep db w db') : ResourceLinks db' := by
  rcases hstep with ⟨hc, rfl⟩
  cases w with
  -- These tables are at no end of the links between resources.
  | advance | insertUser | setSuperuser | insertGroup | updateGroup | insertUserGroup
  | updateUserGroup | deleteUserGroup => exact { h with }
  | deleteGroup g => exact resourceLinks_deleteGroups h _
  | insertConnection c =>
      exact { h with
        credentials := references_insert_parent h.credentials
        transferSource := references_insert_parent h.transferSource
        transferTarget := references_insert_parent h.transferTarget }
  | updateConnection c =>
      have hkey : ∀ d ∈ db.connections, (d.id == c.id) = true → c.id = d.id :=
        fun _ _ hk => (beq_iff_eq.mp hk).symm
      exact { h with
        credentials := references_update_parent h.credentials hkey
        transferSource := references_update_parent h.transferSource hkey
        transferTarget := references_update_parent h.transferTarget hkey }
  | deleteConnection c => exact resourceLinks_deleteConnections h _
  | insertAuthData a =>
      exact { h with
        credentials := references_insert_child h.credentials (authData_satisfied hc).2 }
  | updateAuthData a =>
      exact { h with
        credentials := references_update_child h.credentials
          (fun _ _ _ => (authData_satisfied hc).2) }
  | insertQueue q =>
      exact { h with transferQueue := references_insert_parent h.transferQueue }
  | updateQueue q =>
      exact { h with
        transferQueue := references_update_parent h.transferQueue
          (fun _ _ hk => (beq_iff_eq.mp hk).symm) }
  | deleteQueue q => exact resourceLinks_deleteQueues h _
  | insertTransfer t =>
      rcases (transfer_satisfied.mp hc.2).2.2 with ⟨_, hqueue, hsource, htarget⟩
      exact { h with
        transferSource := references_insert_child h.transferSource hsource
        transferTarget := references_insert_child h.transferTarget htarget
        transferQueue := references_insert_child h.transferQueue hqueue
        runTransfer := references_insert_parent h.runTransfer }
  | updateTransfer t =>
      rcases (transfer_satisfied.mp hc).2.2 with ⟨_, hqueue, hsource, htarget⟩
      exact { h with
        transferSource := references_update_child h.transferSource (fun _ _ _ => hsource)
        transferTarget := references_update_child h.transferTarget (fun _ _ _ => htarget)
        transferQueue := references_update_child h.transferQueue (fun _ _ _ => hqueue)
        runTransfer := references_update_parent h.runTransfer
          (fun _ _ hk => (beq_iff_eq.mp hk).symm) }
  | deleteTransfer t => exact resourceLinks_deleteTransfers h _
  | insertRun r =>
      have hparent : ∃ t ∈ db.transfers, t.id = r.transferId := run_satisfied hc.2
      exact { h with runTransfer := references_insert_child h.runTransfer hparent }
  | updateRun r =>
      have hparent : ∃ t ∈ db.transfers, t.id = r.transferId := run_satisfied hc
      exact { h with
        runTransfer := references_update_child h.runTransfer (fun _ _ _ => hparent) }

theorem checkedStep_groupLinks {w : Write} (h : GroupLinks db) (hstep : checkedStep db w db') :
    GroupLinks db' := by
  rcases hstep with ⟨hc, rfl⟩
  cases w with
  -- These tables are at no end of the links of a group.
  | advance | insertAuthData | updateAuthData | insertRun | updateRun => exact { h with }
  | insertUser u =>
      exact { h with
        groupOwner := references_insert_parent h.groupOwner
        memberUser := references_insert_parent h.memberUser }
  | setSuperuser usernames b =>
      exact { h with
        groupOwner := references_update_parent h.groupOwner (fun _ _ _ => rfl)
        memberUser := references_update_parent h.memberUser (fun _ _ _ => rfl) }
  | insertGroup g =>
      -- A group is at both ends: its owner is a user, and everything else points to it.
      exact {
        groupOwner := references_insert_child h.groupOwner (group_satisfied.mp hc.2).2.2
        memberUser := h.memberUser
        memberGroup := references_insert_parent h.memberGroup
        connectionGroup := references_insert_parent h.connectionGroup
        queueGroup := references_insert_parent h.queueGroup
        transferGroup := references_insert_parent h.transferGroup }
  | updateGroup g =>
      have hkey : ∀ k ∈ db.groups, (k.id == g.id) = true → g.id = k.id :=
        fun _ _ hk => (beq_iff_eq.mp hk).symm
      exact {
        groupOwner := references_update_child h.groupOwner (fun _ _ _ => (group_satisfied.mp hc).2.2)
        memberUser := h.memberUser
        memberGroup := references_update_parent h.memberGroup hkey
        connectionGroup := references_update_parent h.connectionGroup hkey
        queueGroup := references_update_parent h.queueGroup hkey
        transferGroup := references_update_parent h.transferGroup hkey }
  | deleteGroup g => exact groupLinks_deleteGroups h _
  | insertUserGroup ug =>
      rcases userGroup_satisfied hc with ⟨_, hgroup, huser⟩
      exact { h with
        memberUser := references_insert_child h.memberUser huser
        memberGroup := references_insert_child h.memberGroup hgroup }
  | updateUserGroup ug =>
      rcases userGroup_satisfied hc with ⟨_, hgroup, huser⟩
      exact { h with
        memberUser := references_update_child h.memberUser (fun _ _ _ => huser)
        memberGroup := references_update_child h.memberGroup (fun _ _ _ => hgroup) }
  | deleteUserGroup ug =>
      exact { h with
        memberUser := references_sublist_child h.memberUser (delete_sublist _ _)
        memberGroup := references_sublist_child h.memberGroup (delete_sublist _ _) }
  | insertConnection c =>
      exact { h with
        connectionGroup :=
          references_insert_child h.connectionGroup (connection_satisfied.mp hc.2).2.2 }
  | updateConnection c =>
      exact { h with
        connectionGroup := references_update_child h.connectionGroup
          (fun _ _ _ => (connection_satisfied.mp hc).2.2) }
  | deleteConnection c => exact groupLinks_shrinks h (shrinks_deleteConnections _) rfl
  | insertQueue q =>
      exact { h with
        queueGroup := references_insert_child h.queueGroup (queue_satisfied.mp hc.2).2.2 }
  | updateQueue q =>
      exact { h with
        queueGroup := references_update_child h.queueGroup (fun _ _ _ => (queue_satisfied.mp hc).2.2) }
  | deleteQueue q => exact groupLinks_shrinks h (shrinks_deleteQueues _) rfl
  | insertTransfer t =>
      exact { h with
        transferGroup :=
          references_insert_child h.transferGroup (transfer_satisfied.mp hc.2).2.2.1 }
  | updateTransfer t =>
      exact { h with
        transferGroup := references_update_child h.transferGroup
          (fun _ _ _ => (transfer_satisfied.mp hc).2.2.1) }
  | deleteTransfer t => exact groupLinks_shrinks h (shrinks_deleteTransfers _) rfl

/-- Every checked write keeps the constraints of the schema. -/
theorem checkedStep_consistent {w : Write} (h : Consistent db) (hstep : checkedStep db w db') :
    Consistent db' where
  keys := checkedStep_keys h.keys hstep
  resourceLinks := checkedStep_resourceLinks h.resourceLinks hstep
  groupLinks := checkedStep_groupLinks h.groupLinks hstep

end Writes

theorem consistent_empty : Consistent Database.empty where
  keys := by
    constructor <;> first | exact distinct_nil _ | exact below_nil _ _
  resourceLinks := by
    constructor <;> exact references_nil
  groupLinks := by
    constructor <;> exact references_nil

/-- Every reachable state satisfies the constraints of the schema. -/
theorem reachable_consistent {db : Database} (h : Reachable db) : Consistent db :=
  reachable_of_checked consistent_empty (fun _ _ _ hdb hstep => checkedStep_consistent hdb hstep) h

theorem step_consistent {db : Database} (hdb : Consistent db) (e : Event) :
    Consistent (db.step e) := by
  rcases step_checked db e with ⟨ws, hrun⟩
  exact Machine.run_invariant (I := Consistent)
    (fun _ _ _ h hstep => checkedStep_consistent h hstep) hrun hdb

/-- What the outcomes of the requests keep, an event keeps: the other events
    leave the resources alone. -/
theorem step_of_outcomes {I : Database → Prop}
    (hframe : ∀ db db', SameResources db db' → I db → I db')
    (houtcome : ∀ db now userId request user db', Consistent db → I db →
      Accepted db now userId request user db' → I db')
    {db : Database} {e : Event} (hdb : Consistent db) (h : I db) : I (db.step e) := by
  rcases step_outcome db e with hbackground | ⟨now, _, userId, request, user, _, haccepted⟩
  · exact hframe _ _ (backgroundRun_frame hbackground) h
  · exact houtcome _ now userId request user _ hdb h haccepted

/-- What the outcomes of the requests keep holds in every reachable state. -/
theorem reachable_of_outcomes {I : Database → Prop} (hempty : I Database.empty)
    (hframe : ∀ db db', SameResources db db' → I db → I db')
    (houtcome : ∀ db now userId request user db', Consistent db → I db →
      Accepted db now userId request user db' → I db')
    {db : Database} (hdb : Reachable db) : I db := by
  have hboth : Consistent db ∧ I db := by
    refine Machine.reachable_invariant (I := fun db => Consistent db ∧ I db)
      ⟨consistent_empty, hempty⟩ ?_ hdb
    intro a e b ha hstep
    have hstep : a.step e = b := hstep
    rw [← hstep]
    exact ⟨step_consistent ha.1 e, step_of_outcomes hframe houtcome ha.1 ha.2⟩
  exact hboth.2

end SyncMaster
