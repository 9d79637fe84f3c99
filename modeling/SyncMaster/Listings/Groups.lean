import SyncMaster.Listings.Pages
import SyncMaster.Tenancy.Roles

/-!
# The Groups of a User

The list of groups and the detail view of a group tell a user's role apart.
The list asks for the groups that he owns and for his memberships, and labels
each by the question that found it. The detail view asks for a membership and
takes its absence for ownership, once the permission says that he may look.

They agree because an owner is never a member, so that no group is found by
both questions, and because a role passes the filter of either question just
when it is high enough.

## Main definitions

* `ListsGroups`: The pages are the groups that the detail view shows.

## Theorems

* `returns_readGroup`: The detail view in terms of the role.
* `mem_listedGroups`: The list in terms of the role.
* `paginateForUser_lists`: They agree, in every reachable state.
-/

namespace SyncMaster

open Program Paging

/-- The pages list the groups that `read_group` shows the user with a role of
    at least the filter, each once and with that role. -/
structure ListsGroups (db : Database) (user : User) (role : Option GroupMemberRole)
    (pages : List (Pagination GroupWithUserRoleSchema)) : Prop where
  once : ((pages.flatMap (fun p => p.items)).map (fun item => item.data.id)).Nodup
  agrees : ∀ groupId item,
    (item ∈ pages.flatMap (fun p => p.items) ∧ item.data.id = groupId) ↔
      (Returns (readGroup user groupId) db item db ∧
        ∀ r ∈ role, item.role.isAtLeastPrivilegeLevel r = true)
  total : ∀ p ∈ pages, p.total = (pages.flatMap (fun p => p.items)).length

theorem mem_rolesAtLeast (role r : GroupMemberRole) :
    role ∈ r.rolesAtLeast ↔ role.isAtLeastPrivilegeLevel r = true := by
  cases role <;> cases r <;> decide

section Groups

variable {db : Database} {user : User}

theorem roleIn_owner (hsuper : user.isSuperuser = false) {g : Group} (hg : g ∈ db.groups)
    (howner : g.ownerId = user.id) : roleIn db user g.id = some .owner := by
  have hany : db.groups.any (fun h => h.ownerId == user.id && h.id == g.id) = true := by
    simp only [List.any_eq_true, Bool.and_eq_true, beq_iff_eq]
    exact ⟨g, hg, howner, rfl⟩
  rw [roleIn, hsuper, if_neg Bool.false_ne_true, if_pos hany]

/-- Who does not own a group has the role of his membership. -/
theorem roleIn_member (hkeys : Keys db) (hsuper : user.isSuperuser = false) {g : Group}
    (hg : g ∈ db.groups) (howner : g.ownerId ≠ user.id) :
    roleIn db user g.id =
      (db.userGroups.find? (GroupRepository.isMembership g.id user.id)).map UserGroup.role := by
  have hany : ¬ db.groups.any (fun h => h.ownerId == user.id && h.id == g.id) = true := by
    simp only [List.any_eq_true, Bool.and_eq_true, beq_iff_eq, not_exists, not_and]
    intro h hh hown hid
    rw [Table.eq_of_key_eq _ hkeys.groups hh hg hid] at hown
    exact howner hown
  rw [roleIn, hsuper, if_neg Bool.false_ne_true, if_neg hany]

/-- The two ways to have a role in a group, which exclude each other. -/
theorem roleIn_eq_some_iff (hkeys : Keys db) (hapart : OwnersApart db)
    (hsuper : user.isSuperuser = false) {g : Group} (hg : g ∈ db.groups) (role : GroupMemberRole) :
    roleIn db user g.id = some role ↔
      (g.ownerId = user.id ∧ role = .owner) ∨
        ∃ ug ∈ db.userGroups, ug.groupId = g.id ∧ ug.userId = user.id ∧ ug.role = role := by
  by_cases howner : g.ownerId = user.id
  · rw [roleIn_owner hsuper hg howner, Option.some.injEq]
    constructor
    · intro h
      exact Or.inl ⟨howner, h.symm⟩
    · intro h
      rcases h with h | ⟨ug, hug, hgroup, huser, _⟩
      · exact h.2.symm
      · exact absurd (huser.trans howner.symm) (hapart.apart g hg ug hug hgroup)
  · rw [roleIn_member hkeys hsuper hg howner, Option.map_eq_some_iff]
    constructor
    · intro h
      rcases h with ⟨ug, hfind, hrole⟩
      have hkey := GroupRepository.isMembership_iff.mp (List.find?_some hfind)
      exact Or.inr ⟨ug, List.mem_of_find?_eq_some hfind, hkey.1, hkey.2, hrole⟩
    · intro h
      rcases h with h | ⟨ug, hug, hgroup, huser, hrole⟩
      · exact absurd h.1 howner
      · refine ⟨ug, find_membership hkeys.userGroups hug ?_ (fun m _ hm => ?_), hrole⟩
        · exact GroupRepository.isMembership_iff.mpr ⟨hgroup, huser⟩
        · rcases GroupRepository.isMembership_iff.mp hm with ⟨hmgroup, hmuser⟩
          exact ⟨hmgroup.trans hgroup.symm, hmuser.trans huser.symm⟩

/-! ## The detail view -/

/-- The permission hides the group from those who have no role in it. -/
theorem groupPermission_ne_none (db : Database) (hsuper : user.isSuperuser = false) (groupId : Id) :
    permissionOf groupRights db user groupId ≠ .none ↔ (roleIn db user groupId).isSome := by
  unfold permissionOf roleIn
  rw [hsuper, if_neg Bool.false_ne_true, if_neg Bool.false_ne_true]
  by_cases howner : db.groups.any (fun g => g.ownerId == user.id && g.id == groupId) = true
  · rw [if_pos howner, if_pos howner]
    simp only [ne_eq, reduceCtorEq, not_false_eq_true, Option.isSome_some]
  · rw [if_neg howner, if_neg howner]
    cases db.userGroups.find? (GroupRepository.isMembership groupId user.id) with
    | none => simp only [ne_eq, not_true, Option.map_none, Option.isSome_none, Bool.false_eq_true]
    | some ug =>
        simp only [groupRights, ne_eq, reduceCtorEq, not_false_eq_true, Option.map_some,
          Option.isSome_some]

/-- Who has a role in a group is told that role. -/
theorem returns_getMemberRole (hkeys : Keys db) (hapart : OwnersApart db)
    (hsuper : user.isSuperuser = false) {g : Group} (hg : g ∈ db.groups)
    {role : GroupMemberRole} (hrole : roleIn db user g.id = some role) :
    Returns (GroupRepository.getMemberRole user g.id) db role db := by
  have hroles := roleIn_eq_some_iff hkeys hapart hsuper hg
  unfold GroupRepository.getMemberRole
  rw [returns_query, hsuper, if_neg Bool.false_ne_true]
  refine ⟨?_, rfl⟩
  cases hfind : db.userGroups.find? (GroupRepository.isMembership g.id user.id) with
  | some ug =>
      have hkey := GroupRepository.isMembership_iff.mp (List.find?_some hfind)
      have hmember := (hroles ug.role).mpr
        (Or.inr ⟨ug, List.mem_of_find?_eq_some hfind, hkey.1, hkey.2, rfl⟩)
      rw [hrole, Option.some.injEq] at hmember
      rw [hmember]
  | none =>
      rcases (hroles role).mp hrole with h | ⟨ug, hug, hgroup, huser, _⟩
      · rw [h.2]
      · exact absurd (GroupRepository.isMembership_iff.mpr ⟨hgroup, huser⟩)
          (List.find?_eq_none.mp hfind ug hug)

theorem returns_readById (hkeys : Keys db) {groupId : Id} {g : Group} {db' : Database} :
    Returns (GroupRepository.readById groupId) db g db' ↔
      (g ∈ db.groups ∧ g.id = groupId) ∧ db = db' := by
  unfold GroupRepository.readById
  rw [returns_catching, returns_query, one_eq_ok_iff]
  constructor
  · intro h
    exact ⟨⟨(Table.mem_of_filter_eq h.1).1, Table.key_of_filter_eq h.1⟩, h.2⟩
  · intro h
    exact ⟨Table.filter_key_eq _ hkeys.groups h.1.1 h.1.2, h.2⟩

/-- The detail view shows a group with the role of the user in it. -/
theorem returns_readGroup (hkeys : Keys db) (hapart : OwnersApart db)
    (hsuper : user.isSuperuser = false) (groupId : Id) (item : GroupWithUserRoleSchema) :
    Returns (readGroup user groupId) db item db ↔
      item.data ∈ db.groups ∧ item.data.id = groupId ∧
        roleIn db user item.data.id = some item.role := by
  constructor
  · intro h
    rcases returns_bind.mp h with ⟨permission, db₁, hpermission, h⟩
    rcases returns_query.mp hpermission with ⟨hvalue, rfl⟩
    rcases returns_bind.mp h with ⟨_, db₂, hraise, h⟩
    rcases returns_raiseIf.mp hraise with ⟨hne, rfl⟩
    rcases returns_bind.mp h with ⟨g, db₃, hread, h⟩
    rcases (returns_readById hkeys).mp hread with ⟨⟨hg, rfl⟩, rfl⟩
    rcases returns_bind.mp h with ⟨shown, db₄, hshown, h⟩
    rcases returns_pure.mp h with ⟨rfl, _⟩
    -- Who is let in has a role, and it is the role that is shown.
    rw [groupPermission_eq ⟨g, hg, rfl⟩, Except.ok.injEq] at hvalue
    rw [← hvalue, ← ne_eq, groupPermission_ne_none db hsuper, Option.isSome_iff_exists] at hne
    rcases hne with ⟨role, hrole⟩
    have hreturns := returns_getMemberRole hkeys hapart hsuper hg hrole
    rw [(returns_unique hshown hreturns).1]
    exact ⟨hg, rfl, hrole⟩
  · intro h
    rcases h with ⟨hg, rfl, hrole⟩
    have hgroup : ∃ g ∈ db.groups, g.id = item.data.id := ⟨item.data, hg, rfl⟩
    have hne := (groupPermission_ne_none db hsuper item.data.id).mpr
      (Option.isSome_of_eq_some hrole)
    refine returns_bind.mpr ⟨_, db, returns_query.mpr ⟨groupPermission_eq hgroup, rfl⟩, ?_⟩
    refine returns_bind.mpr ⟨(), db, returns_raiseIf.mpr ⟨hne, rfl⟩, ?_⟩
    refine returns_bind.mpr ⟨item.data, db, (returns_readById hkeys).mpr ⟨⟨hg, rfl⟩, rfl⟩, ?_⟩
    refine returns_bind.mpr ⟨item.role, db,
      returns_getMemberRole hkeys hapart hsuper hg hrole, ?_⟩
    exact returns_pure.mpr ⟨rfl, rfl⟩

/-! ## The list -/

/-- The rows of both questions, before they are ordered. -/
def listedGroups (db : Database) (user : User) (role : Option GroupMemberRole) :
    List GroupWithUserRoleSchema :=
  (GroupRepository.ownedGroupsStmt db user.id role).map GroupRepository.ownedItem ++
    (GroupRepository.userGroupsStmt db user.id role).map GroupRepository.memberItem

theorem mem_listedGroups (hkeys : Keys db) (hapart : OwnersApart db)
    (hsuper : user.isSuperuser = false) {role : Option GroupMemberRole}
    {item : GroupWithUserRoleSchema} :
    item ∈ listedGroups db user role ↔
      (item.data ∈ db.groups ∧ roleIn db user item.data.id = some item.role) ∧
        ∀ r ∈ role, item.role.isAtLeastPrivilegeLevel r = true := by
  rw [listedGroups, List.mem_append, List.mem_map, List.mem_map]
  constructor
  · intro h
    rcases h with ⟨g, hmem, rfl⟩ | ⟨m, hmem, rfl⟩
    · rcases mem_ownedGroupsStmt.mp hmem with ⟨hg, howner, hrole⟩
      exact ⟨⟨hg, roleIn_owner hsuper hg howner⟩, hrole⟩
    · rcases mem_userGroupsStmt.mp hmem with ⟨hug, hg, hgroup, huser, hrole⟩
      refine ⟨⟨hg, ?_⟩, fun r hr => (mem_rolesAtLeast _ r).mp (hrole r hr)⟩
      exact (roleIn_eq_some_iff hkeys hapart hsuper hg _).mpr (Or.inr ⟨m.1, hug, hgroup, huser, rfl⟩)
  · intro h
    rcases h with ⟨⟨hg, hin⟩, hrole⟩
    -- An owner finds the group by the first question, a member by the second.
    rcases (roleIn_eq_some_iff hkeys hapart hsuper hg _).mp hin with h | ⟨ug, hug, hgroup, huser, hr⟩
    · refine Or.inl ⟨item.data, mem_ownedGroupsStmt.mpr ⟨hg, h.1, ?_⟩, ?_⟩
      · rw [← h.2]
        exact hrole
      · rw [GroupRepository.ownedItem, ← h.2]
    · refine Or.inr ⟨(ug, item.data), mem_userGroupsStmt.mpr ⟨hug, hg, hgroup, huser, ?_⟩, ?_⟩
      · intro r hr'
        rw [mem_rolesAtLeast, hr]
        exact hrole r hr'
      · rw [GroupRepository.memberItem, hr]

theorem nodup_userGroupsStmt (hkeys : Keys db) (role : Option GroupMemberRole) :
    (GroupRepository.userGroupsStmt db user.id role).Nodup := by
  unfold GroupRepository.userGroupsStmt
  have hmembers : db.userGroups.Nodup := List.Nodup.of_map _ hkeys.userGroups
  have hgroups : db.groups.Nodup := List.Nodup.of_map _ hkeys.groups
  refine List.nodup_flatMap.mpr ⟨fun ug _ => ?_, hmembers.imp (fun hne => ?_)⟩
  · exact (hgroups.filter _).map (fun g h heq => congrArg Prod.snd heq)
  · intro m hm hm'
    rcases List.mem_map.mp hm with ⟨g, _, rfl⟩
    rcases List.mem_map.mp hm' with ⟨h, _, heq⟩
    exact hne (congrArg Prod.fst heq).symm

/-- No group is found twice: a user owns it or has one membership in it. -/
theorem nodup_listedGroups (hkeys : Keys db) (hapart : OwnersApart db)
    (role : Option GroupMemberRole) :
    ((listedGroups db user role).map (fun item => item.data.id)).Nodup := by
  rw [listedGroups, List.map_append, List.map_map, List.map_map, List.nodup_append]
  refine ⟨?_, ?_, ?_⟩
  · have hsub : List.Sublist (GroupRepository.ownedGroupsStmt db user.id role) db.groups := by
      unfold GroupRepository.ownedGroupsStmt
      split
      · exact List.nil_sublist _
      · exact List.filter_sublist
    exact hkeys.groups.sublist (hsub.map _)
  · refine List.Nodup.map_on (fun m hm n hn heq => ?_) (nodup_userGroupsStmt hkeys role)
    rcases mem_userGroupsStmt.mp hm with ⟨hum, hgm, hgroupm, huserm, _⟩
    rcases mem_userGroupsStmt.mp hn with ⟨hun, hgn, hgroupn, husern, _⟩
    have hgroup : m.2 = n.2 := Table.eq_of_key_eq _ hkeys.groups hgm hgn heq
    have hmember : m.1 = n.1 := by
      refine Table.eq_of_key_eq _ hkeys.userGroups hum hun ?_
      rw [hgroupm, hgroupn, huserm, husern, hgroup]
    exact Prod.ext hmember hgroup
  · -- A group owned by a member would be found by both questions.
    intro a ha b hb heq
    rcases List.mem_map.mp ha with ⟨g, hg, rfl⟩
    rcases List.mem_map.mp hb with ⟨m, hm, rfl⟩
    rcases mem_ownedGroupsStmt.mp hg with ⟨hmem, howner, _⟩
    rcases mem_userGroupsStmt.mp hm with ⟨hug, hgm, hgroup, huser, _⟩
    have hsame : g = m.2 := Table.eq_of_key_eq _ hkeys.groups hmem hgm heq
    rw [← hsame] at hgroup
    exact hapart.apart g hmem m.1 hug hgroup (huser.trans howner.symm)

end Groups

section Lists

variable {Position : Type} [LinearOrder Position] {collate : String → Position} {db : Database}
  {pageSize : Nat}

/-- In every reachable state, however the database orders what it may. -/
theorem paginateForUser_lists (hdb : Reachable db) (hcollate : Function.Injective collate)
    (hsize : 0 < pageSize) {user : User} (hsuper : user.isSuperuser = false)
    (role : Option GroupMemberRole) (choice : Nat → GroupRepository.UserSortings collate) :
    ∃ pages, Visits db
        (fun n => GroupRepository.paginateForUser (choice n) n pageSize user.id role) 1 pages ∧
      ListsGroups db user role pages := by
  have hkeys := (reachable_consistent hdb).keys
  have hapart := reachable_ownersApart hdb
  rcases partitioned_groupsForUser (reachable_uniqueConstraints hdb) hcollate hsize user.id role
    choice with ⟨pages, hvisits, hpartition⟩
  have honce : (pages.flatMap (fun p => p.items)).Perm (listedGroups db user role) :=
    hpartition.once
  refine ⟨pages, hvisits, ?_, fun groupId item => ?_, fun p hp => ?_⟩
  · exact (honce.map _).nodup_iff.mpr (nodup_listedGroups hkeys hapart role)
  · rw [honce.mem_iff, mem_listedGroups hkeys hapart hsuper,
      returns_readGroup hkeys hapart hsuper]
    constructor
    · intro h
      exact ⟨⟨h.1.1.1, h.2, h.1.1.2⟩, h.1.2⟩
    · intro h
      exact ⟨⟨⟨h.1.1, h.1.2.2⟩, h.2⟩, h.1.2.1⟩
  · rw [hpartition.total p hp]
    exact honce.length_eq.symm

end Lists

/-- A database that leaves rows of the same name in place. -/
def stableSortings : GroupRepository.UserSortings (fun name : String => name) where
  owned := Sorting.stable _
  members := Sorting.stable _

/-- The owner of two groups, a page for each. -/
theorem paginateForUser_lists_sampleEvents :
    ∃ pages, Visits (sampleEvents.foldl Database.step Database.empty)
        (fun n => GroupRepository.paginateForUser stableSortings n 1 1 (some .maintainer)) 1 pages ∧
      ListsGroups (sampleEvents.foldl Database.step Database.empty) ⟨1, "owner", false, true⟩
        (some .maintainer) pages :=
  paginateForUser_lists (reachable_foldl sampleEvents) Function.injective_id (by decide)
    (show User.isSuperuser ⟨1, "owner", false, true⟩ = false from rfl) (some .maintainer)
    (fun _ => stableSortings)

end SyncMaster
