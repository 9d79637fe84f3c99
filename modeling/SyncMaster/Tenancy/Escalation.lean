import SyncMaster.Tenancy.Ownership
import Mathlib.Data.Set.Insert

/-!
# No Privilege Escalation

Users who are neither superusers nor the owner of a group cannot change who
controls it, whatever they send, however many of them there are, and in
whatever order.

A membership is worth reading the group and nothing more, so every endpoint
that changes the group or its memberships refuses them, with one exception: a
member may leave. What a run of their requests does to the group is therefore
a filter of its memberships, and the invariant that carries the induction is
that none of them has become a superuser. No request makes anybody one.

A caller that is new to the service is given a user row first. That is an
event of its own here, and it may happen at any time.

## Main definitions

* `Event.SentBy`: A request of one of the users, or a login.
* `membersOf`: The memberships of a group.
* `Leaves`: The user has asked to leave the group.

## Theorems

* `not_manages`: They do not manage the group.
* `outcome_groupEffect`: What one request does to the group.
* `no_escalation`: What any sequence of requests does to the group.
-/

namespace SyncMaster

open Program

/-- A request of one of the users, or a login. -/
def Event.SentBy (users : Set Id) : Event → Prop
  | .request _ _ userId _ => userId ∈ users
  | .login _ => True
  | _ => False

/-- The memberships of a group. -/
def membersOf (db : Database) (groupId : Id) : List UserGroup :=
  db.userGroups.filter (fun ug => ug.groupId == groupId)

/-- The user has asked to leave the group. -/
def Leaves (events : List Event) (groupId userId : Id) : Prop :=
  ∃ now sent, Event.request now sent userId (.deleteUserFromGroup groupId userId) ∈ events

/-- None of the users is a superuser. -/
def NoSuperuser (users : Set Id) (db : Database) : Prop :=
  ∀ u ∈ db.users, u.id ∈ users → u.isSuperuser = false

section Users

variable {db db' : Database}

/-- No request creates a user or makes one a superuser. -/
theorem authorisedStep_users {call : Call} {w : Write} (h : authorisedStep call db w db') :
    db'.users = db.users := by
  rcases h with ⟨ha, _, rfl⟩
  cases w with
  | insertUser | setSuperuser => exact ha.elim
  | deleteGroup => exact (shrinks_deleteGroups _).users
  | deleteConnection => exact (shrinks_deleteConnections _).users
  | deleteQueue => exact (shrinks_deleteQueues _).users
  | deleteTransfer => exact (shrinks_deleteTransfers _).users
  | _ => rfl

theorem request_users (now : Time) (sent : SendTask) (userId : Id) (request : Request)
    (db : Database) : (db.step (.request now sent userId request)).users = db.users := by
  rw [step_request]
  rcases api_acts now sent userId db request with hsame | ⟨user, _, _, ws, hrun⟩
  · rw [hsame]
  · refine Machine.run_invariant (I := fun db' => db'.users = db.users) ?_ hrun rfl
    intro a w b ha hstep
    exact (authorisedStep_users hstep).trans ha

/-- A login creates no superuser. -/
theorem login_users (username : String) :
    ∀ u ∈ (db.step (.login username)).users, u ∈ db.users ∨ u.isSuperuser = false := by
  have hlogin : db.step (.login username) = after (login username) db := by
    rw [Database.step, perform, after_map]
  rw [hlogin]
  rcases returns_or_raises (login username) db with ⟨user, db', h⟩ | ⟨e, db', h⟩
  · rw [after_of_returns h]
    rcases returns_bind.mp (returns_atomically.mp h) with ⟨found, _, hquery, h⟩
    rw [← (returns_query.mp hquery).2] at h
    split at h
    · rw [← (returns_pure.mp h).2]
      exact fun u hu => Or.inl hu
    · rcases UserRepository.returns_create.mp h with ⟨huser, hinsert⟩
      rw [hinsert.2]
      intro u hu
      rcases List.mem_append.mp hu with hu | hu
      · exact Or.inl hu
      · rw [List.mem_singleton.mp hu, huser]
        exact Or.inr rfl
  · rw [after_of_raises h]
    rcases raises_atomically.mp h with ⟨_, _, hrollback⟩
    rw [← hrollback]
    exact fun u hu => Or.inl hu

theorem noSuperuser_step {users : Set Id} {e : Event} (h : NoSuperuser users db)
    (he : e.SentBy users) : NoSuperuser users (db.step e) := by
  cases e with
  | request now sent userId request =>
      intro u hu
      rw [request_users] at hu
      exact h u hu
  | login username =>
      intro u hu huid
      rcases login_users username u hu with hold | hnew
      · exact h u hold huid
      · exact hnew
  | _ => exact he.elim

end Users

/-! ## One request -/

section Requests

variable {now : Time} {user : User} {request : Request} {db db' : Database} {g : Group}

/-- Who is neither a superuser nor the owner does not manage the group. -/
theorem not_manages (hk : Keys db) (hg : g ∈ db.groups) (hsuper : user.isSuperuser = false)
    (howner : g.ownerId ≠ user.id) : ¬ Permitted groupRights db user g.id .delete := by
  intro h
  rcases h with hs | ⟨k, hk', hid, ho⟩ | ⟨_, _, _, _, hrights⟩
  · rw [hsuper] at hs
    exact Bool.false_ne_true hs
  · have heq : k = g := Table.eq_of_key_eq _ hk.groups hk' hg hid
    rw [heq] at ho
    exact howner ho
  · -- A membership is worth `read` in the repository of groups.
    exact hrights (show Permission.read < Permission.delete by decide)

/-- The group and its memberships, after one request. -/
inductive GroupEffect (db : Database) (g : Group) (user : User) (request : Request)
    (db' : Database) : Prop
  | same : g ∈ db'.groups → membersOf db' g.id = membersOf db g.id →
      GroupEffect db g user request db'
  | left : g ∈ db'.groups → request = .deleteUserFromGroup g.id user.id →
      membersOf db' g.id = (membersOf db g.id).filter (fun ug => !(ug.userId == user.id)) →
      GroupEffect db g user request db'

theorem groupEffect_of_sameGroups (hg : g ∈ db.groups) (h : SameGroups db db') :
    GroupEffect db g user request db' := by
  refine .same ?_ ?_
  · rw [h.groups]
    exact hg
  · rw [membersOf, h.userGroups, membersOf]

/-- A write to the memberships of another group. -/
theorem membersOf_insert {ug : UserGroup} (h : ug.groupId ≠ g.id)
    (hstep : checkedStep db (.insertUserGroup ug) db') : membersOf db' g.id = membersOf db g.id := by
  rw [hstep.2]
  exact Table.view_insert (beq_eq_false_iff_ne.mpr h)

theorem membersOf_update {ug : UserGroup} (h : ug.groupId ≠ g.id)
    (hstep : checkedStep db (.updateUserGroup ug) db') : membersOf db' g.id = membersOf db g.id := by
  rw [hstep.2]
  refine Table.view_update (fun m _ hm => ?_)
  have hgid : m.groupId = ug.groupId := (GroupRepository.isMembership_iff.mp hm).1
  exact ⟨beq_eq_false_iff_ne.mpr (hgid ▸ h), beq_eq_false_iff_ne.mpr h⟩

theorem membersOf_delete {ug : UserGroup} (h : ug.groupId ≠ g.id)
    (hstep : checkedStep db (.deleteUserGroup ug) db') : membersOf db' g.id = membersOf db g.id := by
  rw [hstep.2]
  refine Table.view_delete (fun m _ hm => ?_)
  have hgid : m.groupId = ug.groupId := (GroupRepository.isMembership_iff.mp hm).1
  exact beq_eq_false_iff_ne.mpr (hgid ▸ h)

/-- A member that leaves takes its own row, and no other. -/
theorem membersOf_leave {ug : UserGroup} (hgid : ug.groupId = g.id)
    (hstep : checkedStep db (.deleteUserGroup ug) db') :
    membersOf db' g.id = (membersOf db g.id).filter (fun m => !(m.userId == ug.userId)) := by
  rw [hstep.2, membersOf, membersOf]
  change (Table.delete (GroupRepository.isMembership ug.groupId ug.userId) db.userGroups).filter _
    = _
  rw [Table.delete, List.filter_filter, List.filter_filter]
  refine List.filter_congr (fun m _ => ?_)
  rw [GroupRepository.isMembership, hgid]
  cases m.groupId == g.id with
  | true => rw [Bool.true_and, Bool.true_and, Bool.and_true]
  | false => rw [Bool.false_and, Bool.and_false]

/-- The update of another group. -/
theorem groupEffect_of_updateGroup {groupId : Id} {body : UpdateGroupSchema} {old : Group}
    {db₁ db₂ : Database} (hg : g ∈ db.groups) (hne : groupId ≠ g.id)
    (h : GroupUpdated db user now groupId body old db₁ db₂ db') :
    GroupEffect db g user request db' := by
  rcases groupUpdated_tables h with ⟨hgroups, hmembers⟩
  refine .same ?_ ?_
  · rw [hgroups]
    refine Table.mem_update.mpr ⟨g, hg, ?_⟩
    rw [if_neg (fun hkey => hne (beq_iff_eq.mp hkey).symm)]
  · rw [membersOf, hmembers, membersOf]
    by_cases howner : old.ownerId = body.ownerId
    · rw [if_pos howner]
    · have hgroup : (groupId == g.id) = false := beq_eq_false_iff_ne.mpr hne
      rw [if_neg howner]
      refine (Table.view_insert (q := fun ug : UserGroup => ug.groupId == g.id) hgroup).trans ?_
      refine Table.view_delete (fun m _ hm => ?_)
      have hgid : m.groupId = groupId := (GroupRepository.isMembership_iff.mp hm).1
      exact beq_eq_false_iff_ne.mpr (hgid ▸ hne)

/-- What a request does to a group that the user does not manage: nothing, or
    the user leaves it. -/
theorem outcome_groupEffect (h : Outcome db user now db' request) (hr : ¬ request.OnRuns)
    (hg : g ∈ db.groups) (hsuper : user.isSuperuser = false)
    (hmanages : ¬ Permitted groupRights db user g.id .delete) :
    GroupEffect db g user request db' := by
  -- The requests that need to manage a group are about another one.
  have hother : ∀ {groupId : Id}, Permitted groupRights db user groupId .delete →
      groupId ≠ g.id := by
    intro groupId hmay heq
    rw [heq] at hmay
    exact hmanages hmay
  by_cases hgroups : request.OnGroups
  · cases h with
    | onRuns h => exact absurd h hr
    | createGroup _ hinsert =>
        rw [hinsert.2]
        exact .same (List.mem_append_left _ hg) rfl
    | updateGroup h => exact groupEffect_of_updateGroup hg (hother h.permission) h
    | deleteGroup _ h _ =>
        rw [hsuper] at h
        exact absurd h Bool.false_ne_true
    | updateUserRoleGroup hmay _ hug hupdate =>
        refine .same ?_ (membersOf_update (by rw [hug]; exact hother hmay) hupdate)
        rw [hupdate.2]
        exact hg
    | addUserToGroup _ _ hmay hug hinsert =>
        refine .same ?_ (membersOf_insert (by rw [hug]; exact hother hmay) hinsert)
        rw [hinsert.2]
        exact hg
    | @deleteUserFromGroup groupId userId ug hkey hmay hdelete =>
        have hstays : g ∈ db'.groups := by
          rw [hdelete.2]
          exact hg
        -- The user leaves the group, or some member of another group goes.
        by_cases hgid : groupId = g.id
        · rcases hmay with hmay | ⟨hself, _⟩
          · exact absurd hgid (hother hmay)
          · have hleft := membersOf_leave (hkey.1.trans hgid) hdelete
            rw [hkey.2, hself] at hleft
            exact .left hstays (by rw [hgid, hself]) hleft
        · exact .same hstays (membersOf_delete (by rw [hkey.1]; exact hgid) hdelete)
    | _ => exact hgroups.elim
  · exact groupEffect_of_sameGroups hg (outcome_sameGroups h hr hgroups)

end Requests

/-! ## Any number of requests -/

/-- One event of the users. -/
theorem step_groupEffect {users : Set Id} {db : Database} {e : Event} {g : Group}
    (hdb : Consistent db) (hg : g ∈ db.groups) (hsuper : NoSuperuser users db)
    (howner : g.ownerId ∉ users) (he : e.SentBy users) :
    g ∈ (db.step e).groups ∧
      (membersOf (db.step e) g.id = membersOf db g.id ∨
        ∃ userId, userId ∈ users ∧ Leaves [e] g.id userId ∧
          membersOf (db.step e) g.id =
            (membersOf db g.id).filter (fun ug => !(ug.userId == userId))) := by
  rcases step_outcome db e with hbackground | ⟨now, sent, userId, request, user, hrequest, h⟩
  · have hframe := backgroundRun_frame hbackground
    refine ⟨?_, Or.inl ?_⟩
    · rw [hframe.groups]
      exact hg
    · rw [membersOf, hframe.userGroups, membersOf]
  · rw [hrequest] at he
    have huser : user ∈ db.users := List.mem_of_find?_eq_some h.found
    have hkey := List.find?_some h.found
    have hid : user.id = userId := beq_iff_eq.mp hkey
    have hin : user.id ∈ users := by
      rw [hid]
      exact he
    -- The sender is neither the owner nor a superuser, so it does not manage the group.
    have hmanages : ¬ Permitted groupRights db user g.id .delete :=
      not_manages hdb.keys hg (hsuper user huser hin) (fun heq => howner (heq ▸ hin))
    cases outcome_groupEffect h.outcome h.notOnRuns hg (hsuper user huser hin) hmanages with
    | same hstays hmembers => exact ⟨hstays, Or.inl hmembers⟩
    | left hstays hleaves hmembers =>
        refine ⟨hstays, Or.inr ⟨user.id, hin, ⟨now, sent, ?_⟩, hmembers⟩⟩
        rw [hrequest, hleaves, hid]
        exact List.mem_singleton_self _

theorem leaves_mono {events events' : List Event} {groupId userId : Id}
    (h : Leaves events groupId userId) (hsub : ∀ e ∈ events, e ∈ events') :
    Leaves events' groupId userId := by
  rcases h with ⟨now, sent, hmem⟩
  exact ⟨now, sent, hsub _ hmem⟩

/-- Users who are neither superusers nor the owner leave the group as it is,
    whatever they send, apart from the memberships of those among them who ask
    to leave. -/
theorem no_escalation {db : Database} (hdb : Reachable db) {g : Group} (hg : g ∈ db.groups)
    {users : Set Id} (hsuper : NoSuperuser users db) (howner : g.ownerId ∉ users)
    {events : List Event} (hsent : ∀ e ∈ events, e.SentBy users) :
    g ∈ (events.foldl Database.step db).groups ∧
      ∃ gone : List Id, (∀ userId ∈ gone, userId ∈ users ∧ Leaves events g.id userId) ∧
        membersOf (events.foldl Database.step db) g.id =
          (membersOf db g.id).filter (fun ug => !gone.contains ug.userId) := by
  have hc : Consistent db := reachable_consistent hdb
  clear hdb
  -- The induction is on the events; what it keeps is that none of the users is
  -- a superuser.
  induction events generalizing db with
  | nil =>
      refine ⟨hg, [], fun _ h => absurd h List.not_mem_nil, ?_⟩
      simp only [List.foldl_nil, List.contains_nil, Bool.not_false, List.filter_true]
  | cons e events ih =>
      have he : e.SentBy users := hsent e List.mem_cons_self
      rcases step_groupEffect hc hg hsuper howner he with ⟨hstays, hmembers⟩
      rcases ih hstays (noSuperuser_step hsuper he)
        (fun e' h => hsent e' (List.mem_cons_of_mem e h)) (step_consistent hc e) with
        ⟨hgroup, gone, hgone, hrest⟩
      rw [List.foldl_cons]
      have hlater : ∀ userId ∈ gone, userId ∈ users ∧ Leaves (e :: events) g.id userId := by
        intro userId hmem
        exact ⟨(hgone userId hmem).1,
          leaves_mono (hgone userId hmem).2 (fun _ h => List.mem_cons_of_mem e h)⟩
      rcases hmembers with hsame | ⟨userId, hin, hleaves, hleft⟩
      · exact ⟨hgroup, gone, hlater, by rw [hrest, hsame]⟩
      · refine ⟨hgroup, userId :: gone, ?_, ?_⟩
        · intro u hu
          rcases List.mem_cons.mp hu with hu | hu
          · rw [hu]
            refine ⟨hin, leaves_mono hleaves (fun e' h => ?_)⟩
            rw [List.mem_singleton.mp h]
            exact List.mem_cons_self
          · exact hlater u hu
        · rw [hrest, hleft, List.filter_filter]
          refine List.filter_congr (fun ug _ => ?_)
          rw [List.contains_cons, Bool.not_or, Bool.and_comm]

/-- The developer tries to become the owner, then a maintainer, and leaves. -/
def attempts : List Event := [
  .request 3 .returned 2 (.updateGroup 1 moveOwnership),
  .request 4 .returned 2 (.updateUserRoleGroup 1 2 sampleRole),
  .request 5 .returned 2 (.deleteUserFromGroup 1 2)]

theorem no_escalation_attempts :
    (⟨⟨1, 1⟩, 1, "first", "", 1⟩ : Group) ∈
        (attempts.foldl Database.step (memberEvents.foldl Database.step Database.empty)).groups ∧
      ∃ gone : List Id, (∀ userId ∈ gone, userId ∈ ({2} : Set Id) ∧ Leaves attempts 1 userId) ∧
        membersOf
            (attempts.foldl Database.step (memberEvents.foldl Database.step Database.empty)) 1 =
          (membersOf (memberEvents.foldl Database.step Database.empty) 1).filter
            (fun ug => !gone.contains ug.userId) := by
  have hgroup : (⟨⟨1, 1⟩, 1, "first", "", 1⟩ : Group) ∈
      (memberEvents.foldl Database.step Database.empty).groups := by
    decide +kernel
  have hsuper : ∀ u ∈ (memberEvents.foldl Database.step Database.empty).users,
      u.isSuperuser = false := by
    decide +kernel
  have howner : (1 : Id) ∉ ({2} : Set Id) := by
    rw [Set.mem_singleton_iff]
    decide
  refine no_escalation (reachable_foldl memberEvents) hgroup (fun u hu _ => hsuper u hu) howner ?_
  intro e he
  rcases List.mem_cons.mp he with rfl | he
  · rfl
  rcases List.mem_cons.mp he with rfl | he
  · rfl
  rw [List.mem_singleton.mp he]
  rfl

end SyncMaster
