import SyncMaster.Server.Runs
import SyncMaster.Tenancy.Consistent

/-!
# Unique Names

Users and groups have names of their own, connections and transfers have names
of their own within a group. These are constraints of the tables, so every
checked write keeps them, and a list that is ordered by such a name has one
order. Queues have no such constraint, and runs have no name.

## Main definitions

* `Names`: The unique constraints on names.
* `UniqueConstraints`: These and the primary keys that lists rest on.

## Theorems

* `checkedStep_names`: Every checked write keeps them.
* `reachable_names`, `reachable_uniqueConstraints`: They hold in every reachable
  state.
-/

namespace SyncMaster

open Table

/-- The unique constraints on names. -/
structure Names (db : Database) : Prop where
  users : Distinct (fun u : User => u.username) db.users
  groups : Distinct (fun g : Group => g.name) db.groups
  connections : Distinct (fun c : Connection => (c.groupId, c.name)) db.connections
  transfers : Distinct (fun t : Transfer => (t.groupId, t.name)) db.transfers

section Names

variable {db db' : Database}

theorem user_fresh {others : List User} {u : User} (h : User.model.Satisfied db others u) :
    ∀ v ∈ others, v.username ≠ u.username := by
  simp only [Model.Satisfied, User.model, List.forall_mem_cons, Bool.not_eq_true',
    List.any_eq_false, beq_iff_eq] at h
  exact h.2.1

theorem connection_fresh {others : List Connection} {c : Connection}
    (h : Connection.model.Satisfied db others c) :
    ∀ d ∈ others, (d.groupId, d.name) ≠ (c.groupId, c.name) := by
  intro d hd heq
  exact (connection_satisfied.mp h).2.1 d hd (congrArg Prod.snd heq) (congrArg Prod.fst heq)

theorem transfer_fresh {others : List Transfer} {t : Transfer}
    (h : Transfer.model.Satisfied db others t) :
    ∀ r ∈ others, (r.groupId, r.name) ≠ (t.groupId, t.name) := by
  intro r hr heq
  exact (transfer_satisfied.mp h).2.1 r hr (congrArg Prod.snd heq) (congrArg Prod.fst heq)

theorem names_shrinks (h : Names db) (hs : Shrinks db db') : Names db' where
  users := hs.users ▸ h.users
  groups := distinct_sublist _ h.groups hs.groups
  connections := distinct_sublist _ h.connections hs.connections
  transfers := distinct_sublist _ h.transfers hs.transfers

/-- An update by identifier replaces one row at most. -/
theorem distinct_updateById {Row Key : Type} {id : Row → Id} {key : Row → Key} {rows : List Row}
    {row : Row} (hids : Distinct id rows) (hkeys : Distinct key rows)
    (hfresh : ∀ r ∈ Table.delete (fun r => id r == id row) rows, key r ≠ key row) :
    Distinct key (Table.update (fun r => id r == id row) (fun _ => row) rows) :=
  distinct_replace key hkeys
    (length_filter_le_one id hids (fun _ _ hid => beq_iff_eq.mp hid)) hfresh

theorem checkedStep_names {w : Write} (hk : Keys db) (h : Names db) (hstep : checkedStep db w db') :
    Names db' := by
  rcases hstep with ⟨hc, rfl⟩
  cases w with
  | insertUser u => exact { h with users := distinct_insert _ h.users (user_fresh hc.2) }
  | setSuperuser => exact { h with users := distinct_update _ h.users (fun _ _ _ => rfl) }
  | insertGroup g => exact { h with groups := distinct_insert _ h.groups (group_satisfied.mp hc.2).2.1 }
  | updateGroup g =>
      exact { h with groups := distinct_updateById hk.groups h.groups (group_satisfied.mp hc).2.1 }
  | insertConnection c =>
      exact { h with connections := distinct_insert _ h.connections (connection_fresh hc.2) }
  | updateConnection c =>
      have hnames := distinct_updateById hk.connections h.connections (connection_fresh hc)
      exact { h with connections := hnames }
  | insertTransfer t =>
      exact { h with transfers := distinct_insert _ h.transfers (transfer_fresh hc.2) }
  | updateTransfer t =>
      have hnames := distinct_updateById hk.transfers h.transfers (transfer_fresh hc)
      exact { h with transfers := hnames }
  | deleteGroup => exact names_shrinks h (shrinks_deleteGroups _)
  | deleteConnection => exact names_shrinks h (shrinks_deleteConnections _)
  | deleteQueue => exact names_shrinks h (shrinks_deleteQueues _)
  | deleteTransfer => exact names_shrinks h (shrinks_deleteTransfers _)
  | _ => exact ⟨h.users, h.groups, h.connections, h.transfers⟩

end Names

theorem reachable_names {db : Database} (hdb : Reachable db) : Names db := by
  have hboth := reachable_of_checked (I := fun db => Consistent db ∧ Names db)
    ⟨consistent_empty, List.nodup_nil, List.nodup_nil, List.nodup_nil, List.nodup_nil⟩
    (fun db w db' h hstep =>
      ⟨checkedStep_consistent h.1 hstep, checkedStep_names h.1.keys h.2 hstep⟩) hdb
  exact hboth.2

/-- The primary keys and the unique constraints that the lists rest on. -/
structure UniqueConstraints (db : Database) : Prop extends Names db where
  groupIds : Distinct (fun g : Group => g.id) db.groups
  userGroups : Distinct (fun ug : UserGroup => (ug.groupId, ug.userId)) db.userGroups
  queues : Distinct (fun q : Queue => q.id) db.queues
  runs : Distinct (fun r : Run => r.id) db.runs

theorem reachable_uniqueConstraints {db : Database} (hdb : Reachable db) : UniqueConstraints db :=
  have hkeys := (reachable_consistent hdb).keys
  { reachable_names hdb with
    groupIds := hkeys.groups
    userGroups := hkeys.userGroups
    queues := hkeys.queues
    runs := hkeys.runs }

end SyncMaster
