import SyncMaster.Tenancy.Ownership

/-!
# Roles and Permissions

The repositories compute a permission in two ways, from the group and from a
row of it, and the repository of the queues has its own copy of both. What they
should come to is a table of the documentation: a mark for every role that may
do something.

Both ways are the same three questions, asked of different joins: is the user a
superuser, does the user own the group, and is there a membership row. The
joins through the row find the same group because identifiers are distinct. The
code never looks up what an owner or a superuser may do, so a membership row
with one of these roles would be read otherwise than the table says. No
reachable state has one.

## Main definitions

* `roleIn`: The role of a user in a group.
* `RoleTable`, `transfersAndConnectionsTable`, `queuesTable`: The documentation.
* `PathsAgree`: Both ways give what the table grants.

## Theorems

* `groupPermission_eq`, `resourcePermission_eq`: What both ways compute.
* `permissions_agree`: They agree with the table in every reachable state.
-/

namespace SyncMaster

open Program

/-! ## The documented table -/

/-- The role of a user in a group. An outsider has none. -/
def roleIn (db : Database) (user : User) (groupId : Id) : Option GroupMemberRole :=
  if user.isSuperuser then some .superuser
  else if db.groups.any (fun g => g.ownerId == user.id && g.id == groupId) then some .owner
  else (db.userGroups.find? (GroupRepository.isMembership groupId user.id)).map UserGroup.role

/-- The marks of a table, rule by rule. -/
structure RoleTable where
  read : List GroupMemberRole
  write : List GroupMemberRole
  delete : List GroupMemberRole

/-- "Right to work with Transfers and Connections within a group". -/
def transfersAndConnectionsTable : RoleTable where
  read := [.guest, .developer, .maintainer, .owner, .superuser]
  write := [.developer, .maintainer, .owner, .superuser]
  delete := [.maintainer, .owner, .superuser]

/-- "Rights to work with Queues within a namespace". -/
def queuesTable : RoleTable where
  read := [.guest, .developer, .maintainer, .owner, .superuser]
  write := [.maintainer, .owner, .superuser]
  delete := [.maintainer, .owner, .superuser]

/-- The permission that the marks of a role amount to. -/
def RoleTable.grants (table : RoleTable) : Option GroupMemberRole → Permission
  | none => .none
  | some role =>
      if table.delete.contains role then .delete
      else if table.write.contains role then .write
      else if table.read.contains role then .read
      else .none

/-- A role higher in the hierarchy is granted no less, and an outsider nothing. -/
def RoleTable.Monotone (table : RoleTable) : Prop :=
  (∀ role, .none < table.grants (some role)) ∧
    ∀ role role' : GroupMemberRole, role'.isAtLeastPrivilegeLevel role = true →
      ¬ table.grants (some role') < table.grants (some role)

/-! ## What the repositories compute -/

section Paths

variable {rights : GroupMemberRole → Permission} {db : Database} {user : User} {groupId : Id}

/-- The permission that the role of the user is worth to a repository, which
    asks for superusers and owners itself. -/
def permissionOf (rights : GroupMemberRole → Permission) (db : Database) (user : User)
    (groupId : Id) : Permission :=
  if user.isSuperuser then .delete
  else if db.groups.any (fun g => g.ownerId == user.id && g.id == groupId) then .delete
  else match db.userGroups.find? (GroupRepository.isMembership groupId user.id) with
    | none => .none
    | some ug => rights ug.role

theorem groupPermission_eq (hgroup : ∃ g ∈ db.groups, g.id = groupId) :
    groupPermission rights db user groupId = .ok (permissionOf rights db user groupId) := by
  have hexists : db.groups.any (fun g => g.id == groupId) = true := by
    simpa only [List.any_eq_true, beq_iff_eq] using hgroup
  unfold groupPermission permissionOf
  rw [hexists, Bool.not_true, if_neg Bool.false_ne_true]
  by_cases hsuper : user.isSuperuser = true
  · rw [if_pos hsuper, if_pos hsuper]
  rw [if_neg hsuper, if_neg hsuper]
  by_cases howner : db.groups.any (fun g => g.ownerId == user.id && g.id == groupId) = true
  · rw [if_pos howner, if_pos howner]
  rw [if_neg howner, if_neg howner]
  have hfind : db.userGroups.find? (fun ug => ug.groupId == groupId && ug.userId == user.id) =
      db.userGroups.find? (GroupRepository.isMembership groupId user.id) := rfl
  rw [hfind]
  cases db.userGroups.find? (GroupRepository.isMembership groupId user.id) with
  | none => rfl
  | some ug => rfl

variable {Row : Type} {model : Model Row} {resource : Row → ResourceMixin} {row : Row}

/-- The join of a row with something that looks at its group only is a question
    about that group: the row is the only one with its identifier. -/
theorem any_row_eq (hrows : Table.Distinct (fun r => (resource r).id) (model.rows db))
    (hrow : row ∈ model.rows db) (q : Id → Bool) :
    (model.rows db).any (fun r => q (resource r).groupId && (resource r).id == (resource row).id) =
      q (resource row).groupId := by
  rw [Bool.eq_iff_iff]
  simp only [List.any_eq_true, Bool.and_eq_true, beq_iff_eq]
  constructor
  · intro h
    rcases h with ⟨r, hr, hq, hid⟩
    have heq : r = row := Table.eq_of_key_eq _ hrows hr hrow hid
    rw [heq] at hq
    exact hq
  · intro hq
    exact ⟨row, hrow, hq, rfl⟩

theorem resourcePermission_eq (hrows : Table.Distinct (fun r => (resource r).id) (model.rows db))
    (hrow : row ∈ model.rows db) :
    resourcePermission rights model resource db user (resource row).id =
      permissionOf rights db user (resource row).groupId := by
  have hexists : (model.rows db).any (fun r => (resource r).id == (resource row).id) = true :=
    List.any_eq_true.mpr ⟨row, hrow, beq_self_eq_true _⟩
  -- Identifiers are unique, so the join with the rows of the model finds this row alone.
  have howner : (model.rows db).any (fun r => db.groups.any (fun g =>
      g.id == (resource r).groupId && g.ownerId == user.id && (resource r).id == (resource row).id)) =
      db.groups.any (fun g => g.ownerId == user.id && g.id == (resource row).groupId) := by
    have hjoin := any_row_eq hrows hrow
      (fun id => db.groups.any (fun g => g.ownerId == user.id && g.id == id))
    rw [← hjoin]
    refine List.any_congr rfl (fun r => ?_)
    rw [Bool.eq_iff_iff]
    simp only [List.any_eq_true, Bool.and_eq_true, beq_iff_eq]
    constructor
    · intro h
      rcases h with ⟨g, hg, ⟨hgid, ho⟩, hid⟩
      exact ⟨⟨g, hg, ho, hgid⟩, hid⟩
    · intro h
      rcases h with ⟨⟨g, hg, ho, hgid⟩, hid⟩
      exact ⟨g, hg, ⟨hgid, ho⟩, hid⟩
  have hmember : (fun ug : UserGroup => (model.rows db).any (fun r =>
      ug.groupId == (resource r).groupId && (resource r).id == (resource row).id) &&
        ug.userId == user.id) =
      GroupRepository.isMembership (resource row).groupId user.id := by
    funext ug
    rw [any_row_eq hrows hrow (fun id => ug.groupId == id)]
    rfl
  unfold resourcePermission permissionOf
  dsimp only
  rw [hexists, howner, hmember]
  refine (if_neg Bool.false_ne_true).trans ?_
  -- The three sources of a permission, in the order of the source.
  by_cases hsuper : user.isSuperuser = true
  · exact (if_pos hsuper).trans (if_pos hsuper).symm
  refine (if_neg hsuper).trans (Eq.trans ?_ (if_neg hsuper).symm)
  by_cases howns : db.groups.any
      (fun g => g.ownerId == user.id && g.id == (resource row).groupId) = true
  · exact (if_pos howns).trans (if_pos howns).symm
  refine (if_neg howns).trans (Eq.trans ?_ (if_neg howns).symm)
  cases db.userGroups.find? (GroupRepository.isMembership (resource row).groupId user.id) with
  | none => rfl
  | some ug => rfl

/-! ## Agreement -/

/-- The rights of a repository are those of the table, for the roles that a
    member can have. The rights of the other roles are never asked for. -/
structure Documents (table : RoleTable) (rights : GroupMemberRole → Permission) : Prop where
  superuser : table.grants (some .superuser) = .delete
  owner : table.grants (some .owner) = .delete
  members : ∀ role : GroupMemberRole, role.isPublicRole = true → table.grants (some role) = rights role

theorem permissionOf_eq_grants {table : RoleTable} (hdoc : Documents table rights)
    (hroles : ∀ ug ∈ db.userGroups, ug.role.isPublicRole = true) :
    permissionOf rights db user groupId = table.grants (roleIn db user groupId) := by
  unfold permissionOf roleIn
  by_cases hsuper : user.isSuperuser = true
  · rw [if_pos hsuper, if_pos hsuper]
    exact hdoc.superuser.symm
  rw [if_neg hsuper, if_neg hsuper]
  by_cases howner : db.groups.any (fun g => g.ownerId == user.id && g.id == groupId) = true
  · rw [if_pos howner, if_pos howner]
    exact hdoc.owner.symm
  rw [if_neg howner, if_neg howner]
  cases hfind : db.userGroups.find? (GroupRepository.isMembership groupId user.id) with
  | none => rfl
  | some ug => exact (hdoc.members ug.role (hroles ug (List.mem_of_find?_eq_some hfind))).symm

end Paths

theorem documents_member : Documents transfersAndConnectionsTable memberRights where
  superuser := rfl
  owner := rfl
  members := by
    intro role hrole
    cases role with
    | maintainer | developer | guest => rfl
    | owner | superuser => exact absurd hrole Bool.false_ne_true

theorem documents_queue : Documents queuesTable queueRights where
  superuser := rfl
  owner := rfl
  members := by
    intro role hrole
    cases role with
    | maintainer | developer | guest => rfl
    | owner | superuser => exact absurd hrole Bool.false_ne_true

theorem monotone_transfersAndConnections : transfersAndConnectionsTable.Monotone := by
  refine ⟨fun role => by cases role <;> decide, fun role role' h => ?_⟩
  revert h
  cases role <;> cases role' <;> decide

theorem monotone_queues : queuesTable.Monotone := by
  refine ⟨fun role => by cases role <;> decide, fun role role' h => ?_⟩
  revert h
  cases role <;> cases role' <;> decide

/-- The permission on a row and the permission in its group are both what the
    table grants to the role of the user in the group. -/
structure PathsAgree (table : RoleTable) (db : Database) (user : User)
    (getResourcePermission getGroupPermission : User → Id → Db Permission)
    (rows : List ResourceMixin) : Prop where
  resource : ∀ row ∈ rows, Returns (getResourcePermission user row.id) db
    (table.grants (roleIn db user row.groupId)) db
  group : ∀ row ∈ rows, Returns (getGroupPermission user row.groupId) db
    (table.grants (roleIn db user row.groupId)) db

theorem pathsAgree_of_documents {Row : Type} {table : RoleTable}
    {rights : GroupMemberRole → Permission} (model : Model Row) {resource : Row → ResourceMixin}
    {db : Database} (user : User) (hdoc : Documents table rights)
    (hroles : ∀ ug ∈ db.userGroups, ug.role.isPublicRole = true)
    (hrows : Table.Distinct (fun r => (resource r).id) (model.rows db))
    (hgroups : ∀ r ∈ model.rows db, ∃ g ∈ db.groups, g.id = (resource r).groupId) :
    PathsAgree table db user
      (fun user id => query (fun db => .ok (resourcePermission rights model resource db user id)))
      (fun user id => query (fun db => groupPermission rights db user id))
      ((model.rows db).map resource) where
  resource := by
    intro r hr
    rcases List.mem_map.mp hr with ⟨row, hrow, rfl⟩
    refine returns_query.mpr ⟨congrArg Except.ok ?_, rfl⟩
    rw [resourcePermission_eq hrows hrow, permissionOf_eq_grants hdoc hroles]
  group := by
    intro r hr
    rcases List.mem_map.mp hr with ⟨row, hrow, rfl⟩
    refine returns_query.mpr ⟨?_, rfl⟩
    rw [groupPermission_eq (hgroups row hrow), permissionOf_eq_grants hdoc hroles]

/-- In every reachable state, whatever the user and the row. -/
theorem permissions_agree {db : Database} (hdb : Reachable db) (user : User) :
    PathsAgree transfersAndConnectionsTable db user ConnectionRepository.getResourcePermission
        ConnectionRepository.getGroupPermission (db.connections.map (·.toResourceMixin)) ∧
      PathsAgree transfersAndConnectionsTable db user TransferRepository.getResourcePermission
        TransferRepository.getGroupPermission (db.transfers.map (·.toResourceMixin)) ∧
      PathsAgree queuesTable db user QueueRepository.getResourcePermission
        QueueRepository.getGroupPermission (db.queues.map (·.toResourceMixin)) ∧
      transfersAndConnectionsTable.Monotone ∧ queuesTable.Monotone := by
  have hc : Consistent db := reachable_consistent hdb
  have hroles := (reachable_ownersApart hdb).publicRole
  refine ⟨?_, ?_, ?_, monotone_transfersAndConnections, monotone_queues⟩
  · exact pathsAgree_of_documents Connection.model user documents_member hroles
      hc.keys.connections hc.groupLinks.connectionGroup
  · exact pathsAgree_of_documents Transfer.model user documents_member hroles
      hc.keys.transfers hc.groupLinks.transferGroup
  · exact pathsAgree_of_documents Queue.model user documents_queue hroles
      hc.keys.queues hc.groupLinks.queueGroup

/-- An outsider and the owner, in a state with two groups. -/
theorem permissions_agree_sampleEvents :
    Returns (QueueRepository.getResourcePermission ⟨2, "outsider", false, true⟩ 1)
        (sampleEvents.foldl Database.step Database.empty) .none
        (sampleEvents.foldl Database.step Database.empty) ∧
      Returns (ConnectionRepository.getGroupPermission ⟨1, "owner", false, true⟩ 2)
        (sampleEvents.foldl Database.step Database.empty) .delete
        (sampleEvents.foldl Database.step Database.empty) := by
  have hreachable := reachable_foldl sampleEvents
  have hqueue := (permissions_agree hreachable ⟨2, "outsider", false, true⟩).2.2.1.resource
    ⟨1, "queue", 1, ""⟩ (by decide +kernel)
  have hconnection := (permissions_agree hreachable ⟨1, "owner", false, true⟩).1.group
    ⟨2, "warehouse", 2, ""⟩ (by decide +kernel)
  have houtsider : roleIn (sampleEvents.foldl Database.step Database.empty)
      ⟨2, "outsider", false, true⟩ 1 = none := by decide +kernel
  have howner : roleIn (sampleEvents.foldl Database.step Database.empty)
      ⟨1, "owner", false, true⟩ 2 = some .owner := by decide +kernel
  rw [houtsider] at hqueue
  rw [howner] at hconnection
  exact ⟨hqueue, hconnection⟩

end SyncMaster
