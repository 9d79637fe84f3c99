import SyncMaster.Tenancy.SameGroup

/-!
# Owners and Members

The owner of a group is a column of the group row, its members are rows of
another table, and no constraint relates the two. The role of a user without
a membership row is taken to be `Owner`, so an owner with a membership row, or
a group without an owner, would be read wrongly everywhere.

That it never comes to this is a property of the endpoints. `add_user_to_group`
refuses the owner. `update_group` moves the ownership in three writes: the
column, the membership of the new owner, which goes, and that of the previous
one, which comes. The invariant is broken between them, so this file argues
about outcomes and not about single writes.

That there is one owner at most, and one membership row for each user, is what
the keys say. That there is an owner is the foreign key.

## Main definitions

* `SameGroups`, `Request.OnGroups`: The requests that change neither groups nor
  memberships, and the others.
* `Owns`, `Governed`: Who owns a group; the invariant of a group.
* `OwnershipMoved`: What a transfer of the ownership leaves.

## Theorems

* `outcome_sameGroups`: Only the requests on groups change them.
* `outcome_ownersApart`: No request makes an owner a member.
* `updateGroup_moves`: What `update_group` does when it names another owner.
* `groups_governed`: The invariant in every reachable state, and the effect of
  every accepted transfer of the ownership.
-/

namespace SyncMaster

open Program

/-! ## Frames -/

structure SameGroups (db db' : Database) : Prop where
  groups : db'.groups = db.groups
  userGroups : db'.userGroups = db.userGroups

theorem sameGroups_refl (db : Database) : SameGroups db db :=
  ⟨rfl, rfl⟩

theorem sameGroups_trans {a b c : Database} (hab : SameGroups a b) (hbc : SameGroups b c) :
    SameGroups a c :=
  ⟨hbc.groups.trans hab.groups, hbc.userGroups.trans hab.userGroups⟩

/-- The writes on groups and memberships. -/
def Write.OnGroups : Write → Prop
  | insertGroup _ | updateGroup _ | deleteGroup _ | insertUserGroup _ | updateUserGroup _
  | deleteUserGroup _ => True
  | _ => False

/-- The requests on groups and memberships. -/
def Request.OnGroups : Request → Prop
  | .createGroup _ | .updateGroup _ _ | .deleteGroup _ | .updateUserRoleGroup _ _ _
  | .addUserToGroup _ _ _ | .deleteUserFromGroup _ _ => True
  | _ => False

section Frames

variable {db db' : Database}

theorem checkedStep_sameGroups {w : Write} (h : checkedStep db w db') (hw : ¬ w.OnGroups) :
    SameGroups db db' := by
  rcases h with ⟨_, rfl⟩
  cases w with
  | insertGroup | updateGroup | deleteGroup | insertUserGroup | updateUserGroup
  | deleteUserGroup => exact absurd trivial hw
  | _ => exact ⟨rfl, rfl⟩

/-- Only the requests on groups change groups and memberships. -/
theorem outcome_sameGroups {now : Time} {user : User} {request : Request}
    (h : Outcome db user now db' request) (hr : ¬ request.OnRuns) (hg : ¬ request.OnGroups) :
    SameGroups db db' := by
  have hmakes : ∀ w, request.Makes w → ¬ w.OnGroups := by
    intro w hw hon
    cases w with
    | insertGroup | updateGroup | deleteGroup | insertUserGroup | updateUserGroup
    | deleteUserGroup =>
        cases request with
        | createGroup | updateGroup | deleteGroup | updateUserRoleGroup | addUserToGroup
        | deleteUserFromGroup => exact hg trivial
        | _ => exact hw.elim
    | _ => exact hon.elim
  rcases outcome_written h hr with ⟨ws, hrun⟩
  exact Machine.run_relation (I := fun _ => True) (R := SameGroups) sameGroups_refl
    (fun _ _ _ => sameGroups_trans) (fun _ _ _ _ _ => trivial)
    (fun _ w _ _ hstep => checkedStep_sameGroups hstep.2 (hmakes w hstep.1)) hrun trivial

end Frames

/-! ## The invariant -/

/-- The user owns a group with this identifier. -/
def Owns (db : Database) (groupId : Id) (user : User) : Prop :=
  user ∈ db.users ∧ ∃ g ∈ db.groups, g.id = groupId ∧ g.ownerId = user.id

/-- The group has one owner, who is no member; its members have one row each,
    with a role that a member can be given. -/
structure Governed (db : Database) (g : Group) : Prop where
  oneOwner : ∃! user, Owns db g.id user
  ownerApart : ∀ ug ∈ db.userGroups, ug.groupId = g.id → ug.userId ≠ g.ownerId
  oneRow : ∀ userId, (db.userGroups.filter (GroupRepository.isMembership g.id userId)).length ≤ 1
  publicRole : ∀ ug ∈ db.userGroups, ug.groupId = g.id →
    ug.role = .guest ∨ ug.role = .developer ∨ ug.role = .maintainer

/-- The previous owner is a guest, the new owner owns the group and is no
    member, and no other membership and no other group has changed. -/
structure OwnershipMoved (db db' : Database) (groupId previousOwner newOwner : Id) : Prop where
  owner : ∀ g ∈ db'.groups, g.id = groupId → g.ownerId = newOwner
  stays : ∃ g ∈ db'.groups, g.id = groupId
  members : ∀ ug, ug ∈ db'.userGroups ↔
    ug = { groupId := groupId, userId := previousOwner, role := .guest } ∨
      (ug ∈ db.userGroups ∧ ¬ (ug.groupId = groupId ∧ ug.userId = newOwner))
  otherGroups : ∀ g, g.id ≠ groupId → (g ∈ db'.groups ↔ g ∈ db.groups)

/-- What the endpoints have to see to: the owners are no members, and the roles
    are public. -/
structure OwnersApart (db : Database) : Prop where
  apart : ∀ g ∈ db.groups, ∀ ug ∈ db.userGroups, ug.groupId = g.id → ug.userId ≠ g.ownerId
  publicRole : ∀ ug ∈ db.userGroups, ug.role.isPublicRole = true

section Invariant

variable {db db' : Database}

theorem ownersApart_of_subset (h : OwnersApart db) (hg : ∀ g ∈ db'.groups, g ∈ db.groups)
    (hu : ∀ ug ∈ db'.userGroups, ug ∈ db.userGroups) : OwnersApart db' where
  apart := fun g hmem ug hug => h.apart g (hg g hmem) ug (hu ug hug)
  publicRole := fun ug hug => h.publicRole ug (hu ug hug)

theorem ownersApart_of_sameGroups (h : OwnersApart db) (hsame : SameGroups db db') :
    OwnersApart db' := by
  refine ownersApart_of_subset h (fun g hg => ?_) (fun ug hug => ?_)
  · rw [← hsame.groups]
    exact hg
  · rw [← hsame.userGroups]
    exact hug

/-- A new group has no members yet. -/
theorem ownersApart_insertGroup {g : Group} (hdb : Consistent db) (h : OwnersApart db)
    (hstep : checkedStep db (.insertGroup g) db') : OwnersApart db' := by
  rcases hstep with ⟨hc, rfl⟩
  refine ⟨fun k hk ug hug hgid => ?_, h.publicRole⟩
  rcases List.mem_append.mp hk with hk | hk
  · exact h.apart k hk ug hug hgid
  · rw [List.mem_singleton.mp hk] at hgid
    rcases hdb.groupLinks.memberGroup ug hug with ⟨k', hk', hid⟩
    exact absurd (hid.trans hgid) (fresh_of_below hdb.keys.groupsBelow hc.1 k' hk')

/-- A member that is added is not the owner. -/
theorem ownersApart_insertUserGroup {ug : UserGroup} (h : OwnersApart db)
    (howner : ∀ g ∈ db.groups, ug.groupId = g.id → ug.userId ≠ g.ownerId)
    (hrole : ug.role.isPublicRole = true) (hstep : checkedStep db (.insertUserGroup ug) db') :
    OwnersApart db' := by
  rcases hstep with ⟨_, rfl⟩
  refine ⟨fun g hg m hm => ?_, fun m hm => ?_⟩
  · rcases List.mem_append.mp hm with hm | hm
    · exact h.apart g hg m hm
    · rw [List.mem_singleton.mp hm]
      exact howner g hg
  · rcases List.mem_append.mp hm with hm | hm
    · exact h.publicRole m hm
    · rw [List.mem_singleton.mp hm]
      exact hrole

theorem ownersApart_deleteUserGroup {ug : UserGroup} (h : OwnersApart db)
    (hstep : checkedStep db (.deleteUserGroup ug) db') : OwnersApart db' := by
  rcases hstep with ⟨_, rfl⟩
  exact ownersApart_of_subset h (fun _ hg => hg)
    (fun m hm => (Table.mem_delete.mp hm).1)

/-- A member keeps its user and its group when its role changes. -/
theorem ownersApart_updateUserGroup {ug : UserGroup} (h : OwnersApart db)
    (hrole : ug.role.isPublicRole = true) (hstep : checkedStep db (.updateUserGroup ug) db') :
    OwnersApart db' := by
  rcases hstep with ⟨_, rfl⟩
  refine ⟨fun g hg m hm hgid => ?_, fun m hm => ?_⟩
  · rcases Table.mem_update.mp hm with ⟨s, hs, rfl⟩
    by_cases hkey : GroupRepository.isMembership ug.groupId ug.userId s = true
    · rw [if_pos hkey] at hgid ⊢
      rcases GroupRepository.isMembership_iff.mp hkey with ⟨hsg, hsu⟩
      rw [← hsu]
      exact h.apart g hg s hs (hsg.trans hgid)
    · rw [if_neg hkey] at hgid ⊢
      exact h.apart g hg s hs hgid
  · rcases Table.mem_update.mp hm with ⟨s, hs, rfl⟩
    by_cases hkey : GroupRepository.isMembership ug.groupId ug.userId s = true
    · rw [if_pos hkey]
      exact hrole
    · rw [if_neg hkey]
      exact h.publicRole s hs

/-! ## Transfer of the ownership -/

variable {user : User} {now : Time} {groupId : Id} {body : UpdateGroupSchema} {old : Group}
  {db₁ db₂ : Database}

/-- The groups and the memberships that `update_group` leaves. -/
theorem groupUpdated_tables (h : GroupUpdated db user now groupId body old db₁ db₂ db') :
    db'.groups = Table.update (fun g => g.id == groupId)
        (fun _ => GroupRepository.updated now body old) db.groups ∧
      db'.userGroups = if old.ownerId = body.ownerId then db.userGroups
        else Table.delete (GroupRepository.isMembership groupId body.ownerId) db.userGroups
          ++ [⟨old.ownerId, groupId, .guest⟩] := by
  have hid : old.id = groupId := beq_iff_eq.mp (Table.mem_of_filter_eq h.found).2
  have hgroups₁ : db₁.groups = Table.update (fun g => g.id == groupId)
      (fun _ => GroupRepository.updated now body old) db.groups := by
    rw [h.row.2, ← hid]
    rfl
  have hmembers₁ : db₁.userGroups = db.userGroups := by
    rw [h.row.2]
    rfl
  have hleft := h.left
  have hjoined := h.joined
  -- An update that names the same owner leaves the memberships alone.
  by_cases howner : old.ownerId = body.ownerId
  · rw [if_pos howner] at hleft hjoined
    rw [hjoined, hleft, if_pos howner]
    exact ⟨hgroups₁, hmembers₁⟩
  · rw [if_neg howner] at hleft hjoined
    -- The new owner leaves the members; one who was no member leaves the table as it is.
    have htables : db₂.groups = db₁.groups ∧ db₂.userGroups =
        Table.delete (GroupRepository.isMembership groupId body.ownerId) db₁.userGroups := by
      split at hleft
      · rcases hleft with ⟨ug, ⟨hgid, huid⟩, hdelete⟩
        rw [hdelete.2, ← hgid, ← huid]
        exact ⟨rfl, rfl⟩
      · rename_i hnone
        rw [hleft]
        refine ⟨rfl, (Table.delete_eq_self (fun ug hug => ?_)).symm⟩
        rw [← Bool.not_eq_true]
        intro hkey
        exact hnone ⟨ug, hug, GroupRepository.isMembership_iff.mp hkey⟩
    rw [if_neg howner, hjoined.2]
    refine ⟨htables.1.trans hgroups₁, ?_⟩
    rw [← hmembers₁, ← htables.2]
    rfl

/-- What `update_group` does when it names another owner. -/
theorem updateGroup_moves (h : GroupUpdated db user now groupId body old db₁ db₂ db')
    (howner : old.ownerId ≠ body.ownerId) :
    OwnershipMoved db db' groupId old.ownerId body.ownerId := by
  rcases groupUpdated_tables h with ⟨hgroups, hmembers⟩
  rw [if_neg howner] at hmembers
  have hid : old.id = groupId := beq_iff_eq.mp (Table.mem_of_filter_eq h.found).2
  refine ⟨?_, ?_, ?_, ?_⟩
  -- Of the rows with this identifier the update has left only the new one.
  · intro g hg hgid
    rw [hgroups] at hg
    rcases Table.mem_update.mp hg with ⟨k, _, rfl⟩
    by_cases hkey : (k.id == groupId) = true
    · rw [if_pos hkey]
      rfl
    · rw [if_neg hkey] at hgid
      exact absurd (beq_iff_eq.mpr hgid) hkey
  · refine ⟨GroupRepository.updated now body old, ?_, hid⟩
    rw [hgroups]
    exact Table.mem_update_self (f := fun _ => GroupRepository.updated now body old)
      (Table.mem_of_filter_eq h.found).1 (Table.mem_of_filter_eq h.found).2
  · intro ug
    rw [hmembers, List.mem_append, List.mem_singleton, Table.mem_delete, or_comm]
    refine or_congr Iff.rfl (and_congr_right (fun _ => ?_))
    rw [← Bool.not_eq_true, GroupRepository.isMembership_iff]
  -- The other groups are not touched.
  · intro g hne
    rw [hgroups]
    constructor
    · intro hg
      rcases Table.mem_update.mp hg with ⟨k, hk, rfl⟩
      by_cases hkey : (k.id == groupId) = true
      · rw [if_pos hkey] at hne
        exact absurd hid hne
      · rw [if_neg hkey]
        exact hk
    · intro hg
      refine Table.mem_update.mpr ⟨g, hg, ?_⟩
      rw [if_neg (fun hkey => hne (beq_iff_eq.mp hkey))]

/-- The new owner is no member any more, the previous one is no owner. -/
theorem ownersApart_updateGroup (h : OwnersApart db)
    (hupdated : GroupUpdated db user now groupId body old db₁ db₂ db') : OwnersApart db' := by
  have hold : old ∈ db.groups := (Table.mem_of_filter_eq hupdated.found).1
  have hid : old.id = groupId := beq_iff_eq.mp (Table.mem_of_filter_eq hupdated.found).2
  -- Only an update that names another owner touches the members.
  by_cases howner : old.ownerId = body.ownerId
  · rcases groupUpdated_tables hupdated with ⟨hgroups, hmembers⟩
    rw [if_pos howner] at hmembers
    refine ⟨fun g hg ug hug hgid => ?_, fun ug hug => h.publicRole ug (hmembers ▸ hug)⟩
    rw [hgroups] at hg
    rw [hmembers] at hug
    rcases Table.mem_update.mp hg with ⟨k, hk', rfl⟩
    by_cases hkey : (k.id == groupId) = true
    · rw [if_pos hkey] at hgid ⊢
      have happart := h.apart old hold ug hug hgid
      rw [howner] at happart
      exact happart
    · rw [if_neg hkey] at hgid ⊢
      exact h.apart k hk' ug hug hgid
  · have hmoved := updateGroup_moves hupdated howner
    refine ⟨fun g hg ug hug hgid => ?_, fun ug hug => ?_⟩
    · by_cases hg' : g.id = groupId
      · rw [hmoved.owner g hg hg']
        rcases (hmoved.members ug).mp hug with hnew | ⟨_, hnot⟩
        · rw [hnew]
          exact howner
        · exact fun hu => hnot ⟨hgid.trans hg', hu⟩
      · have hgroup : g ∈ db.groups := (hmoved.otherGroups g hg').mp hg
        rcases (hmoved.members ug).mp hug with hnew | ⟨hmem, _⟩
        · rw [hnew] at hgid
          exact absurd hgid.symm hg'
        · exact h.apart g hgroup ug hmem hgid
    · rcases (hmoved.members ug).mp hug with hnew | ⟨hmem, _⟩
      · rw [hnew]
        rfl
      · exact h.publicRole ug hmem

/-! ## Requests -/

/-- No request makes an owner a member. -/
theorem outcome_ownersApart {request : Request} (h : Outcome db user now db' request)
    (hr : ¬ request.OnRuns) (hdb : Consistent db) (hapart : OwnersApart db) :
    OwnersApart db' := by
  by_cases hg : request.OnGroups
  · cases h with
    | onRuns h => exact absurd h hr
    | createGroup _ hinsert => exact ownersApart_insertGroup hdb hapart hinsert
    | updateGroup h => exact ownersApart_updateGroup hapart h
    | deleteGroup _ _ hdelete =>
        have hs : Shrinks db db' := by
          rw [hdelete.2]
          exact shrinks_deleteGroups _
        exact ownersApart_of_subset hapart (fun _ hmem => hs.groups.subset hmem)
          (fun _ hmem => hs.userGroups.subset hmem)
    | @updateUserRoleGroup _ _ body _ ug _ _ hug hupdate =>
        have hrole : ug.role.isPublicRole = true := by
          rw [hug]
          exact body.isPublic
        exact ownersApart_updateUserGroup hapart hrole hupdate
    | @addUserToGroup groupId userId body g ug hfound hne _ hug hinsert =>
        have hrole : ug.role.isPublicRole = true := by
          rw [hug]
          exact body.isPublic
        refine ownersApart_insertUserGroup hapart (fun k hk hgid => ?_) hrole hinsert
        -- The group that was read is the only one with its identifier.
        have hmem : k ∈ db.groups.filter (fun h => h.id == groupId) := by
          refine List.mem_filter.mpr ⟨hk, beq_iff_eq.mpr ?_⟩
          rw [← hgid, hug]
        rw [hfound, List.mem_singleton] at hmem
        rw [hmem, hug]
        exact hne.symm
    | deleteUserFromGroup _ _ hdelete => exact ownersApart_deleteUserGroup hapart hdelete
    | _ => exact hg.elim
  · exact ownersApart_of_sameGroups hapart (outcome_sameGroups h hr hg)

end Invariant

theorem reachable_ownersApart {db : Database} (h : Reachable db) : OwnersApart db := by
  refine reachable_of_outcomes (I := OwnersApart) ?_ ?_ ?_ h
  · exact ⟨fun _ hg => absurd hg List.not_mem_nil, fun _ hug => absurd hug List.not_mem_nil⟩
  · intro db db' hsame hapart
    exact ownersApart_of_sameGroups hapart ⟨hsame.groups, hsame.userGroups⟩
  · intro db now userId request user db' hdb hapart haccepted
    exact outcome_ownersApart haccepted.outcome haccepted.notOnRuns hdb hapart

/-- Groups, users and memberships have distinct keys, so a group has one owner
    and a user one row. -/
theorem governed_of_ownersApart {db : Database} (hdb : Consistent db) (h : OwnersApart db)
    {g : Group} (hg : g ∈ db.groups) : Governed db g where
  oneOwner := by
    rcases hdb.groupLinks.groupOwner g hg with ⟨owner, howner, hid⟩
    refine ⟨owner, ⟨howner, g, hg, rfl, hid.symm⟩, ?_⟩
    intro user huser
    rcases huser with ⟨hmem, k, hk, hkid, hkowner⟩
    have heq : k = g := Table.eq_of_key_eq _ hdb.keys.groups hk hg hkid
    rw [heq] at hkowner
    exact Table.eq_of_key_eq _ hdb.keys.users hmem howner (hkowner.symm.trans hid.symm)
  ownerApart := h.apart g hg
  oneRow := by
    intro userId
    refine Table.length_filter_le_one (k := (g.id, userId)) _ hdb.keys.userGroups (fun ug _ hkey => ?_)
    rcases GroupRepository.isMembership_iff.mp hkey with ⟨hgid, huid⟩
    rw [hgid, huid]
  publicRole := by
    intro ug hug _
    -- The other two roles are not public, so no membership has them.
    have hrole := h.publicRole ug hug
    cases hr : ug.role with
    | guest => exact Or.inl rfl
    | developer => exact Or.inr (Or.inl rfl)
    | maintainer => exact Or.inr (Or.inr rfl)
    | owner | superuser =>
        rw [hr] at hrole
        exact absurd hrole Bool.false_ne_true

/-- In every reachable state each group has one owner, who is no member, and
    members with one public role each; and every accepted transfer of the
    ownership makes the previous owner a guest and changes nothing else. -/
theorem groups_governed {db : Database} (hdb : Reachable db) :
    (∀ g ∈ db.groups, Governed db g) ∧
      ∀ now sent userId body (g : Group) response db', g ∈ db.groups → g.ownerId ≠ body.ownerId →
        Returns (api now sent userId (.updateGroup g.id body)) db response db' →
        OwnershipMoved db db' g.id g.ownerId body.ownerId := by
  have hc : Consistent db := reachable_consistent hdb
  refine ⟨fun g hg => governed_of_ownersApart hc (reachable_ownersApart hdb) hg, ?_⟩
  intro now sent userId body g response db' hg hne h
  rcases returns_bind.mp h with ⟨user, db₀, huser, hhandle⟩
  rw [← (returns_getUser.mp huser).2.2] at hhandle
  rcases returns_bind.mp hhandle with ⟨_, _, hupdate, hpure⟩
  rw [(returns_pure.mp hpure).2] at hupdate
  rcases returns_updateGroup hupdate with ⟨old, db₁, db₂, hupdated⟩
  have hold : old = g := by
    have hmem : g ∈ db.groups.filter (fun k => k.id == g.id) :=
      List.mem_filter.mpr ⟨hg, beq_self_eq_true _⟩
    rw [hupdated.found, List.mem_singleton] at hmem
    exact hmem.symm
  rw [hold] at hupdated
  exact updateGroup_moves hupdated hne

/-- A group with an owner and a developer. -/
def memberEvents : List Event := [
  .login "owner",
  .login "developer",
  .request 1 .returned 1 (.createGroup sampleGroup),
  .request 2 .returned 1 (.addUserToGroup 1 2 { role := .developer, isPublic := rfl })]

/-- The developer becomes the owner. -/
def moveOwnership : UpdateGroupSchema where
  toCreateGroupSchema := sampleGroup
  ownerId := 2

theorem groups_governed_memberEvents :
    (∀ g ∈ (memberEvents.foldl Database.step Database.empty).groups,
      Governed (memberEvents.foldl Database.step Database.empty) g) ∧
    OwnershipMoved (memberEvents.foldl Database.step Database.empty)
      (after (api 3 .returned 1 (.updateGroup 1 moveOwnership))
        (memberEvents.foldl Database.step Database.empty)) 1 1 2 := by
  have hgoverned := groups_governed (reachable_foldl memberEvents)
  refine ⟨hgoverned.1, ?_⟩
  have hgroup : (⟨⟨1, 1⟩, 1, "first", "", 1⟩ : Group) ∈
      (memberEvents.foldl Database.step Database.empty).groups := by
    decide +kernel
  have hsucceeds : succeeds (api 3 .returned 1 (.updateGroup 1 moveOwnership))
      (memberEvents.foldl Database.step Database.empty) = true := by
    decide +kernel
  rcases succeeds_iff.mp hsucceeds with ⟨response, hreturns⟩
  exact hgoverned.2 3 .returned 1 moveOwnership _ response _ hgroup (by decide) hreturns

end SyncMaster
