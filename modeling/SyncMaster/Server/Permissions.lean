import SyncMaster.Db.Repositories

/-!
# Permissions

What a passed permission check says about the user.

The repositories compute a permission by a chain of queries: the superuser
flag, the owner of the group, the membership row. `Permitted` says what the
chain amounts to: one of three reasons why the user may do something in a
group. The checks of the endpoints are on the computed permission, the
theorems about who may do what are on the reasons, and the lemmas below are
the bridge.

## Main definitions

* `Permitted`: The user has a reason to be let in.
* `Outsider`: The user has none.

## Theorems

* `permitted_of_groupPermission`: A passed check on a group is a reason there.
* `exists_permitted_of_resourcePermission`, `permitted_of_resourcePermission`: A
  passed check on a row is a reason in the group of the row.
* `not_permitted_of_outsider`: An outsider has no reason.
* `groupPermission_of_permitted`, `resourcePermission_of_permitted`: A reason
  passes the checks, memberships having distinct keys.
-/

namespace SyncMaster

/-- The user is a superuser, owns the group, or has a role in it that is worth
    what is needed. -/
def Permitted (rights : GroupMemberRole → Permission) (db : Database) (user : User)
    (groupId : Id) (needed : Permission) : Prop :=
  user.isSuperuser = true ∨
    (∃ g ∈ db.groups, g.id = groupId ∧ g.ownerId = user.id) ∨
    ∃ ug ∈ db.userGroups, ug.groupId = groupId ∧ ug.userId = user.id ∧ ¬ rights ug.role < needed

/-- The user is neither a superuser, nor the owner of the group, nor a member
    of it. -/
structure Outsider (db : Database) (user : User) (groupId : Id) : Prop where
  notSuperuser : user.isSuperuser = false
  notOwner : ∀ g ∈ db.groups, g.id = groupId → g.ownerId ≠ user.id
  notMember : ∀ ug ∈ db.userGroups, ug.groupId = groupId → ug.userId ≠ user.id

variable {rights : GroupMemberRole → Permission} {db : Database} {user : User} {groupId : Id}
  {needed : Permission}

theorem not_permitted_of_outsider (h : Outsider db user groupId) :
    ¬ Permitted rights db user groupId needed := by
  rintro (hs | ⟨g, hg, hid, ho⟩ | ⟨ug, hug, hid, hu, _⟩)
  · rw [h.notSuperuser] at hs
    exact Bool.false_ne_true hs
  · exact h.notOwner g hg hid ho
  · exact h.notMember ug hug hid hu

theorem group_exists_of_groupPermission {p : Permission}
    (h : groupPermission rights db user groupId = .ok p) : ∃ g ∈ db.groups, g.id = groupId := by
  unfold groupPermission at h
  split at h
  · cases h
  · rename_i hexists
    simpa only [Bool.not_eq_true', Bool.not_eq_false, List.any_eq_true, beq_iff_eq] using hexists

/-- The one error is that there is no such group. -/
theorem groupPermission_eq_error {e : Error}
    (h : groupPermission rights db user groupId = .error e) : e = .groupNotFoundError := by
  unfold groupPermission at h
  split at h
  · exact (Except.error.inj h).symm
  · split at h
    · cases h
    · split at h
      · cases h
      · split at h
        · cases h
        · cases h

/-- A passed check on a group. -/
theorem permitted_of_groupPermission {p : Permission}
    (h : groupPermission rights db user groupId = .ok p) (hneeded : .none < needed)
    (hp : ¬ p < needed) : Permitted rights db user groupId needed := by
  unfold groupPermission at h
  split at h
  · cases h
  split at h
  · rename_i hsuper
    exact Or.inl hsuper
  split at h
  · rename_i howner
    simp only [List.any_eq_true, Bool.and_eq_true, beq_iff_eq] at howner
    rcases howner with ⟨g, hg, ho, hid⟩
    exact Or.inr (Or.inl ⟨g, hg, hid, ho⟩)
  split at h
  · cases h
    exact absurd hneeded hp
  · rename_i ug hfind
    cases h
    have hug := List.find?_some hfind
    simp only [Bool.and_eq_true, beq_iff_eq] at hug
    exact Or.inr (Or.inr ⟨ug, List.mem_of_find?_eq_some hfind, hug.1, hug.2, hp⟩)

/-- A passed check on a row identifier: there is such a row, and a reason in
    its group. -/
theorem exists_permitted_of_resourcePermission {Row : Type} {model : Model Row}
    {resource : Row → ResourceMixin} {resourceId : Id} (hneeded : .none < needed)
    (hp : ¬ resourcePermission rights model resource db user resourceId < needed) :
    ∃ row ∈ model.rows db, (resource row).id = resourceId ∧
      Permitted rights db user (resource row).groupId needed := by
  simp only [resourcePermission] at hp
  -- The branches of the source in turn: no row, a superuser, an owner, a member.
  split at hp
  · exact absurd hneeded hp
  rename_i hexists
  simp only [Bool.not_eq_true', Bool.not_eq_false, List.any_eq_true, beq_iff_eq] at hexists
  rcases hexists with ⟨row, hrow, hid⟩
  split at hp
  · rename_i hsuper
    exact ⟨row, hrow, hid, Or.inl hsuper⟩
  split at hp
  · rename_i howner
    simp only [List.any_eq_true, Bool.and_eq_true, beq_iff_eq] at howner
    rcases howner with ⟨r, hr, g, hg, ⟨hgid, ho⟩, hrid⟩
    exact ⟨r, hr, hrid, Or.inr (Or.inl ⟨g, hg, hgid, ho⟩)⟩
  split at hp
  · exact absurd hneeded hp
  · rename_i ug hfind
    have hug := List.find?_some hfind
    simp only [List.any_eq_true, Bool.and_eq_true, beq_iff_eq] at hug
    rcases hug with ⟨⟨r, hr, hgid, hrid⟩, hu⟩
    exact ⟨r, hr, hrid, Or.inr (Or.inr ⟨ug, List.mem_of_find?_eq_some hfind, hgid, hu, hp⟩)⟩

/-- A passed check on a row that was read. -/
theorem permitted_of_resourcePermission {Row : Type} {model : Model Row}
    {resource : Row → ResourceMixin} {resourceId : Id} {row : Row}
    (hrow : (model.rows db).filter (fun r => (resource r).id == resourceId) = [row])
    (hneeded : .none < needed)
    (hp : ¬ resourcePermission rights model resource db user resourceId < needed) :
    Permitted rights db user (resource row).groupId needed := by
  rcases exists_permitted_of_resourcePermission hneeded hp with ⟨r, hr, hid, hmay⟩
  have hmem : r ∈ (model.rows db).filter (fun r => (resource r).id == resourceId) :=
    List.mem_filter.mpr ⟨hr, beq_iff_eq.mpr hid⟩
  rw [hrow] at hmem
  rw [List.mem_singleton.mp hmem] at hmay
  exact hmay

/-! ## From a reason to a passed check -/

theorem not_delete_lt (p : Permission) : ¬ Permission.delete < p := by
  cases p with
  | none | read | write | delete => decide

/-- A membership that is looked up is the one with that key. -/
theorem find_membership (hd : Table.Distinct (fun ug : UserGroup => (ug.groupId, ug.userId))
      db.userGroups) {ug : UserGroup} (hug : ug ∈ db.userGroups) {p : UserGroup → Bool}
    (hp : p ug = true)
    (honly : ∀ m ∈ db.userGroups, p m = true → m.groupId = ug.groupId ∧ m.userId = ug.userId) :
    db.userGroups.find? p = some ug := by
  cases hfind : db.userGroups.find? p with
  | none => exact absurd hp (List.find?_eq_none.mp hfind ug hug)
  | some m =>
      have hm := List.mem_of_find?_eq_some hfind
      rcases honly m hm (List.find?_some hfind) with ⟨hgid, huid⟩
      rw [Table.eq_of_key_eq _ hd hm hug (by rw [hgid, huid])]

/-- A reason in a group passes the check on it. -/
theorem groupPermission_of_permitted
    (hd : Table.Distinct (fun ug : UserGroup => (ug.groupId, ug.userId)) db.userGroups)
    (hgroup : ∃ g ∈ db.groups, g.id = groupId) (h : Permitted rights db user groupId needed) :
    ∃ p, groupPermission rights db user groupId = .ok p ∧ ¬ p < needed := by
  have hexists : db.groups.any (fun g => g.id == groupId) = true := by
    simpa only [List.any_eq_true, beq_iff_eq] using hgroup
  unfold groupPermission
  rw [hexists, Bool.not_true, if_neg Bool.false_ne_true]
  by_cases hsuper : user.isSuperuser = true
  · rw [if_pos hsuper]
    exact ⟨_, rfl, not_delete_lt needed⟩
  rw [if_neg hsuper]
  by_cases howner : db.groups.any (fun g => g.ownerId == user.id && g.id == groupId) = true
  · rw [if_pos howner]
    exact ⟨_, rfl, not_delete_lt needed⟩
  rw [if_neg howner]
  rcases h with hs | ⟨g, hg, hid, ho⟩ | ⟨ug, hug, hgid, huid, hrights⟩
  · exact absurd hs hsuper
  · refine absurd (List.any_eq_true.mpr ⟨g, hg, ?_⟩) howner
    rw [ho, hid, beq_self_eq_true, beq_self_eq_true, Bool.and_true]
  -- There is one membership of the user in the group, so it is the one that is found.
  · rw [find_membership hd hug (p := fun ug => ug.groupId == groupId && ug.userId == user.id)]
    · exact ⟨_, rfl, hrights⟩
    · simp only [hgid, huid, beq_self_eq_true, Bool.and_true]
    · intro m _ hm
      rw [Bool.and_eq_true, beq_iff_eq, beq_iff_eq] at hm
      exact ⟨hm.1.trans hgid.symm, hm.2.trans huid.symm⟩

/-- A reason in the group of a row passes the check on the row. -/
theorem resourcePermission_of_permitted {Row : Type} {model : Model Row}
    {resource : Row → ResourceMixin} {row : Row}
    (hd : Table.Distinct (fun ug : UserGroup => (ug.groupId, ug.userId)) db.userGroups)
    (hrows : Table.Distinct (fun r => (resource r).id) (model.rows db))
    (hrow : row ∈ model.rows db) (h : Permitted rights db user (resource row).groupId needed) :
    ¬ resourcePermission rights model resource db user (resource row).id < needed := by
  have hexists : (model.rows db).any (fun r => (resource r).id == (resource row).id) = true :=
    List.any_eq_true.mpr ⟨row, hrow, beq_self_eq_true _⟩
  unfold resourcePermission
  simp only [hexists, Bool.not_true, Bool.false_eq_true, if_false]
  by_cases hsuper : user.isSuperuser = true
  · rw [if_pos hsuper]
    exact not_delete_lt needed
  rw [if_neg hsuper]
  split
  · exact not_delete_lt needed
  rename_i howner
  rcases h with hs | ⟨g, hg, hid, ho⟩ | ⟨ug, hug, hgid, huid, hrights⟩
  · exact absurd hs hsuper
  · refine absurd (List.any_eq_true.mpr ⟨row, hrow, List.any_eq_true.mpr ⟨g, hg, ?_⟩⟩) howner
    simp only [hid, ho, beq_self_eq_true, Bool.and_true]
  · rw [find_membership hd hug (p := fun ug => (model.rows db).any (fun r =>
      ug.groupId == (resource r).groupId && (resource r).id == (resource row).id) &&
        ug.userId == user.id)]
    · exact hrights
    · rw [huid, beq_self_eq_true, Bool.and_true]
      refine List.any_eq_true.mpr ⟨row, hrow, ?_⟩
      rw [hgid, beq_self_eq_true, beq_self_eq_true, Bool.and_true]
    · intro m _ hm
      simp only [Bool.and_eq_true, List.any_eq_true, beq_iff_eq] at hm
      rcases hm with ⟨⟨r, hr, hmgid, hrid⟩, hmuid⟩
      -- The row that the check found is the row itself.
      have heq : r = row := Table.eq_of_key_eq _ hrows hr hrow hrid
      rw [heq] at hmgid
      exact ⟨hmgid.trans hgid.symm, hmuid.trans huid.symm⟩

end SyncMaster
