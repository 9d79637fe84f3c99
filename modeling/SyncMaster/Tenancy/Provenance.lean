import SyncMaster.Server.Starts

/-!
# Provenance

Who is behind a row.

The permissions are checked when a request comes in, and the rows stay. By the time
somebody looks at a row its author may have left the group, so the check is no longer
to be read off the state. It is in the history: for every row there is the request
that made it what it is, from then on nothing has touched it, and at that time the
user of the request had the role that the row asks for.

This holds for the rows as they are, and not only for when they were created: an
update counts as much as an insertion. The runs are the exception, because the worker
writes them too. What is said of them is who started them, which is a user with the
role to do so, or the scheduler.

## Main definitions

* `MadeBy`: The request since when something has held.
* `Accounted`: The rows that a request has written so far are the ones it may write.
* `Attributed`: What is said of the rows of each table.

## Theorems

* `authorisedStep_accounted`: One write of the request.
* `performs_of_new`: What a step brings about, a request has brought about.
* `outcome_authData`: The credentials, which only two requests write.
* `runs_startedBy`: The runs.
* `rows_attributed`: All rows after a history.
-/

namespace SyncMaster

open Program

/-- Since this request something has held, and its user had the right to it. -/
def MadeBy (events : List Event) (holds : Database → Prop) (may : Database → User → Prop) : Prop :=
  ∃ before now sent userId request rest user,
    Machine.Onset Database.step holds Database.empty events before
      (.request now sent userId request) rest ∧
    (stateAfter before).users.find? (fun u => u.id == userId) = some user ∧
    user.isActive = true ∧ may (stateAfter before) user

/-! ## The writes of a request -/

section Requests

variable {call : Call} {db db' : Database}

/-- Each row was there when the request came in, or is one that the user may write.
    A group that the user owns instead of managing has a fresh identifier. -/
structure Accounted (call : Call) (db : Database) : Prop where
  sequences : Grows call.start db
  groups : ∀ g ∈ db.groups, g ∈ call.start.groups ∨
    (g.ownerId = call.user.id ∧ call.start.sequences .group ≤ g.id) ∨ call.Manages g.id
  userGroups : ∀ ug ∈ db.userGroups, ug ∈ call.start.userGroups ∨ call.Manages ug.groupId
  connections : ∀ c ∈ db.connections, c ∈ call.start.connections ∨ call.MayWrite c.groupId .write
  queues : ∀ q ∈ db.queues,
    q ∈ call.start.queues ∨ Permitted queueRights call.start call.user q.groupId .delete
  transfers : ∀ t ∈ db.transfers, t ∈ call.start.transfers ∨ call.MayWrite t.groupId .write

theorem accounted_start (call : Call) : Accounted call call.start :=
  ⟨grows_refl _, fun _ h => Or.inl h, fun _ h => Or.inl h, fun _ h => Or.inl h,
    fun _ h => Or.inl h, fun _ h => Or.inl h⟩

theorem accounted_shrinks (h : Accounted call db) (hs : Shrinks db db') : Accounted call db' where
  sequences := grows_trans _ _ _ h.sequences (grows_of_eq hs.sequences)
  groups := fun g hg => h.groups g (hs.groups.subset hg)
  userGroups := fun ug hug => h.userGroups ug (hs.userGroups.subset hug)
  connections := fun c hc => h.connections c (hs.connections.subset hc)
  queues := fun q hq => h.queues q (hs.queues.subset hq)
  transfers := fun t ht => h.transfers t (hs.transfers.subset ht)

theorem authorisedStep_accounted {w : Write} (h : Accounted call db)
    (hstep : authorisedStep call db w db') : Accounted call db' := by
  have hgrows := grows_trans _ _ _ h.sequences (checkedStep_grows hstep.2)
  rcases hstep with ⟨ha, hc, rfl⟩
  cases w with
  | insertUser | setSuperuser => exact ha.elim
  | advance | insertAuthData | updateAuthData | insertRun | updateRun =>
      exact ⟨hgrows, h.groups, h.userGroups, h.connections, h.queues, h.transfers⟩
  | insertGroup g =>
      -- The sequence may have moved since the request came in, but only forward.
      have hfresh : call.start.sequences .group ≤ g.id := (h.sequences .group).trans_eq hc.1.symm
      exact { h with
        sequences := hgrows
        groups := Table.forall_insert h.groups (Or.inr (Or.inl ⟨ha, hfresh⟩)) }
  | updateGroup g =>
      exact { h with groups := Table.forall_update h.groups (Or.inr (Or.inr ha)) }
  | insertUserGroup ug =>
      exact { h with userGroups := Table.forall_insert h.userGroups (Or.inr ha) }
  | updateUserGroup ug =>
      exact { h with userGroups := Table.forall_update h.userGroups (Or.inr ha) }
  | deleteUserGroup ug =>
      exact { h with
        userGroups := fun m hm => h.userGroups m ((Table.delete_sublist _ _).subset hm) }
  | insertConnection c =>
      exact { h with
        sequences := hgrows
        connections := Table.forall_insert h.connections (Or.inr ha) }
  | updateConnection c =>
      exact { h with connections := Table.forall_update h.connections (Or.inr ha.1) }
  | insertQueue q =>
      exact { h with
        sequences := hgrows
        queues := Table.forall_insert h.queues (Or.inr ha) }
  | updateQueue q => exact { h with queues := Table.forall_update h.queues (Or.inr ha.1) }
  | insertTransfer t =>
      exact { h with
        sequences := hgrows
        transfers := Table.forall_insert h.transfers (Or.inr ha.1) }
  | updateTransfer t =>
      -- The update leaves the transfer in its group.
      rcases ha with ⟨old, _, body, _, _, rfl, hmay, _⟩
      exact { h with transfers := Table.forall_update h.transfers (Or.inr hmay) }
  | deleteGroup => exact accounted_shrinks h (shrinks_deleteGroups _)
  | deleteConnection => exact accounted_shrinks h (shrinks_deleteConnections _)
  | deleteQueue => exact accounted_shrinks h (shrinks_deleteQueues _)
  | deleteTransfer => exact accounted_shrinks h (shrinks_deleteTransfers _)

theorem performs_accounted (h : Performs call db') : Accounted call db' := by
  rcases h with ⟨ws, hrun⟩
  exact Machine.run_invariant (I := Accounted call)
    (fun _ _ _ ha hstep => authorisedStep_accounted ha hstep) hrun (accounted_start call)

end Requests

/-! ## Events -/

section Events

variable {db : Database} {e : Event} {holds : Database → Prop}

/-- What the background writes leave alone, a request has brought about. -/
theorem performs_of_new (hframe : ∀ db db', SameResources db db' → holds db' → holds db)
    (hnot : ¬ holds db) (hnew : holds (db.step e)) :
    ∃ now sent userId request user, e = .request now sent userId request ∧
      db.users.find? (fun u => u.id == userId) = some user ∧ user.isActive = true ∧
      Performs ⟨db, user, now, request⟩ (db.step e) := by
  by_cases hrequest : ∃ now sent userId request, e = .request now sent userId request
  · rcases hrequest with ⟨now, sent, userId, request, rfl⟩
    rw [step_request] at hnew ⊢
    rcases api_acts now sent userId db request with hsame | ⟨user, hfind, hactive, hperforms⟩
    · rw [hsame] at hnew
      exact absurd hnew hnot
    · exact ⟨now, sent, userId, request, user, rfl, hfind, hactive, hperforms⟩
  · have hother : ∀ now sent userId request, e ≠ .request now sent userId request :=
      fun now sent userId request he => hrequest ⟨now, sent, userId, request, he⟩
    exact absurd (hframe _ _ (backgroundRun_frame (step_background hother)) hnew) hnot

/-- Something about the groups and their resources that holds after the events and that only
    those with the right can bring about. -/
theorem madeBy_of_holds {events : List Event} {may : Database → User → Prop}
    (hempty : ¬ holds Database.empty) (hholds : holds (stateAfter events))
    (hframe : ∀ db db', SameResources db db' → holds db' → holds db)
    (hmay : ∀ db user now request db', ¬ holds db → holds db' →
      Performs ⟨db, user, now, request⟩ db' → may db user) : MadeBy events holds may := by
  rcases Machine.exists_onset hempty hholds with ⟨before, e, rest, honset⟩
  rcases performs_of_new hframe honset.notYet honset.holds with
    ⟨now, sent, userId, request, user, rfl, hfind, hactive, hperforms⟩
  exact ⟨before, now, sent, userId, request, rest, user, honset, hfind, hactive,
    hmay _ user now request _ honset.notYet honset.holds hperforms⟩

end Events

/-! ## Credentials -/

section Credentials

variable {db db' : Database} {request : Request}

theorem makes_insertAuthData {a : AuthData} (h : request.Makes (.insertAuthData a)) :
    ∃ body, request = .createConnection body := by
  cases request with
  | createConnection body => exact ⟨body, rfl⟩
  | _ => exact h.elim

theorem makes_updateAuthData {a : AuthData} (h : request.Makes (.updateAuthData a)) :
    ∃ connectionId body, request = .updateConnection connectionId body := by
  cases request with
  | updateConnection connectionId body => exact ⟨connectionId, body, rfl⟩
  | _ => exact h.elim

/-- The requests that write no credentials. -/
theorem authData_of_written (hcreate : ∀ body, request ≠ .createConnection body)
    (hupdate : ∀ connectionId body, request ≠ .updateConnection connectionId body)
    (h : Written request db db') : List.Sublist db'.authData db.authData := by
  rcases h with ⟨ws, hrun⟩
  refine Machine.run_relation (I := fun _ => True)
    (R := fun s t : Database => List.Sublist t.authData s.authData) (fun _ => List.Sublist.refl _)
    (fun _ _ _ hst htu => htu.trans hst) (fun _ _ _ _ _ => trivial) ?_ hrun trivial
  rintro s w t _ ⟨hmakes, _, rfl⟩
  cases w with
  | insertAuthData a =>
      rcases makes_insertAuthData hmakes with ⟨body, hbody⟩
      exact absurd hbody (hcreate body)
  | updateAuthData a =>
      rcases makes_updateAuthData hmakes with ⟨connectionId, body, hbody⟩
      exact absurd hbody (hupdate connectionId body)
  | deleteGroup => exact (shrinks_deleteGroups _).authData
  | deleteConnection => exact (shrinks_deleteConnections _).authData
  | deleteQueue => exact (shrinks_deleteQueues _).authData
  | deleteTransfer => exact (shrinks_deleteTransfers _).authData
  | _ => exact List.Sublist.refl _

/-- Credentials are written by those who may write the connection. -/
theorem outcome_authData {now : Time} {user : User} (h : Outcome db user now db' request)
    (hr : ¬ request.OnRuns) {a : AuthData} (hnew : a ∈ db'.authData) (hnot : a ∉ db.authData) :
    ∃ c ∈ db'.connections,
      c.id = a.connectionId ∧ Permitted memberRights db user c.groupId .write := by
  by_cases hcreate : ∃ body, request = .createConnection body
  · rcases hcreate with ⟨body, rfl⟩
    cases h with
    | onRuns h => exact h.elim
    | @createConnection _ c b db₁ hmay hc hb hinsert hcredentials =>
        have hsame : db₁.authData = db.authData := by
          rw [hinsert.2]
          rfl
        rw [hcredentials.2] at hnew ⊢
        rcases List.mem_append.mp hnew with hold | hlast
        · rw [hsame] at hold
          exact absurd hold hnot
        · refine ⟨c, ?_, ?_, ?_⟩
          · rw [hinsert.2]
            exact List.mem_append_right _ (List.mem_singleton_self c)
          · rw [List.mem_singleton.mp hlast, hb]
            rfl
          · rw [hc]
            exact hmay
  · by_cases hupdate : ∃ connectionId body, request = .updateConnection connectionId body
    · rcases hupdate with ⟨connectionId, body, rfl⟩
      cases h with
      | onRuns h => exact h.elim
      | @updateConnection _ _ old stored authData db₁ hupdated =>
          have hmay : Permitted memberRights db user old.groupId .write :=
            permitted_of_resourcePermission hupdated.found none_lt_write hupdated.permission
          have hsame : db₁.authData = db.authData := by
            rw [hupdated.row.2]
            rfl
          have hid : old.id = connectionId :=
            beq_iff_eq.mp (Table.mem_of_filter_eq hupdated.found).2
          have hkey : stored.connectionId = connectionId :=
            Table.key_of_filter_eq hupdated.credentials
          rw [hupdated.authData.2] at hnew ⊢
          rcases Table.mem_update.mp hnew with ⟨b, hb, rfl⟩
          split at hnot
          · refine ⟨ConnectionRepository.updated now body old, ?_, ?_, hmay⟩
            · rw [hupdated.row.2]
              exact Table.mem_update_self (f := fun _ => ConnectionRepository.updated now body old)
                (Table.mem_of_filter_eq hupdated.found).1 (beq_self_eq_true old.id)
            -- The connection keeps its group, so the right is one in the group of the new row.
            · rename_i hmatch
              rw [if_pos hmatch]
              exact hid.trans hkey.symm
          · rw [hsame] at hb
            exact absurd hb hnot
    -- No other request writes credentials.
    · have hsublist := authData_of_written (fun body hbody => hcreate ⟨body, hbody⟩)
        (fun connectionId body hbody => hupdate ⟨connectionId, body, hbody⟩) (outcome_written h hr)
      exact absurd (hsublist.subset hnew) hnot

end Credentials

/-! ## Histories -/

section Histories

variable {events : List Event}

/-- The identifiers in use are behind the sequence, so that a fresh one was none of theirs. -/
theorem group_madeBy {g : Group} (hg : g ∈ (stateAfter events).groups) :
    MadeBy events (fun db => g ∈ db.groups)
      (fun db user => (g.ownerId = user.id ∧ ∀ h ∈ db.groups, h.id ≠ g.id) ∨
        Permitted groupRights db user g.id .delete) := by
  have hmade : MadeBy events (fun db => g ∈ db.groups)
      (fun db user => (g.ownerId = user.id ∧ db.sequences .group ≤ g.id) ∨
        Permitted groupRights db user g.id .delete) := by
    refine madeBy_of_holds List.not_mem_nil hg (fun db db' hsame h => ?_) ?_
    · rwa [hsame.groups] at h
    · intro db user now request db' hnot hnew hperforms
      exact ((performs_accounted hperforms).groups g hnew).resolve_left hnot
  rcases hmade with ⟨before, now, sent, userId, request, rest, user, honset, hfind, hactive, hmay⟩
  refine ⟨before, now, sent, userId, request, rest, user, honset, hfind, hactive, ?_⟩
  rcases hmay with ⟨howner, hfresh⟩ | hmanages
  · have hbelow := (reachable_consistent (reachable_stateAfter before)).keys.groupsBelow
    exact Or.inl ⟨howner, fun h hh => ne_of_lt ((hbelow h hh).trans_le hfresh)⟩
  · exact Or.inr hmanages

theorem userGroup_madeBy {ug : UserGroup} (hug : ug ∈ (stateAfter events).userGroups) :
    MadeBy events (fun db => ug ∈ db.userGroups)
      (fun db user => Permitted groupRights db user ug.groupId .delete) := by
  refine madeBy_of_holds List.not_mem_nil hug (fun db db' hsame h => ?_) ?_
  · rwa [hsame.userGroups] at h
  · intro db user now request db' hnot hnew hperforms
    exact ((performs_accounted hperforms).userGroups ug hnew).resolve_left hnot

theorem connection_madeBy {c : Connection} (hc : c ∈ (stateAfter events).connections) :
    MadeBy events (fun db => c ∈ db.connections)
      (fun db user => Permitted memberRights db user c.groupId .write) := by
  refine madeBy_of_holds List.not_mem_nil hc (fun db db' hsame h => ?_) ?_
  · rwa [hsame.connections] at h
  · intro db user now request db' hnot hnew hperforms
    exact ((performs_accounted hperforms).connections c hnew).resolve_left hnot

theorem queue_madeBy {q : Queue} (hq : q ∈ (stateAfter events).queues) :
    MadeBy events (fun db => q ∈ db.queues)
      (fun db user => Permitted queueRights db user q.groupId .delete) := by
  refine madeBy_of_holds List.not_mem_nil hq (fun db db' hsame h => ?_) ?_
  · rwa [hsame.queues] at h
  · intro db user now request db' hnot hnew hperforms
    exact ((performs_accounted hperforms).queues q hnew).resolve_left hnot

theorem transfer_madeBy {t : Transfer} (ht : t ∈ (stateAfter events).transfers) :
    MadeBy events (fun db => t ∈ db.transfers)
      (fun db user => Permitted memberRights db user t.groupId .write) := by
  refine madeBy_of_holds List.not_mem_nil ht (fun db db' hsame h => ?_) ?_
  · rwa [hsame.transfers] at h
  · intro db user now request db' hnot hnew hperforms
    exact ((performs_accounted hperforms).transfers t hnew).resolve_left hnot

/-- The state after the event of an onset, and what becomes of it. -/
theorem continues_of_onset {holds : Database → Prop} {before rest : List Event} {e : Event}
    (h : Machine.Onset Database.step holds Database.empty events before e rest) :
    Continues ((stateAfter before).step e) (stateAfter events) := by
  have hevents : stateAfter events = rest.foldl Database.step ((stateAfter before).step e) := by
    rw [h.cut]
    exact List.foldl_append
  rw [hevents]
  exact foldl_continues _ rest

theorem reachable_step {db : Database} (hdb : Reachable db) (e : Event) : Reachable (db.step e) := by
  rcases hdb with ⟨es, hrun⟩
  exact ⟨es ++ [e], Machine.run_snoc.mpr ⟨db, hrun, rfl⟩⟩

/-- The connection of the credentials is in the group that it was in then. -/
theorem authData_madeBy {a : AuthData} {c : Connection} (ha : a ∈ (stateAfter events).authData)
    (hc : c ∈ (stateAfter events).connections) (hid : c.id = a.connectionId) :
    MadeBy events (fun db => a ∈ db.authData)
      (fun db user => Permitted memberRights db user c.groupId .write) := by
  rcases Machine.exists_onset (f := Database.step) (P := fun db : Database => a ∈ db.authData)
    (s := Database.empty) List.not_mem_nil ha with ⟨before, e, rest, honset⟩
  rcases step_outcome (stateAfter before) e with
    hbackground | ⟨now, sent, userId, request, user, rfl, haccepted⟩
  · have hnew : a ∈ ((stateAfter before).step e).authData := honset.holds
    rw [(backgroundRun_frame hbackground).authData] at hnew
    exact absurd hnew honset.notYet
  · refine ⟨before, now, sent, userId, request, rest, user, honset, haccepted.found,
      haccepted.active, ?_⟩
    rcases outcome_authData haccepted.outcome haccepted.notOnRuns honset.holds honset.notYet with
      ⟨d, hd, hdid, hmay⟩
    have hkeys := (reachable_consistent (reachable_step (reachable_stateAfter before)
      (.request now sent userId request))).keys
    have hsame := Table.view_eq_of_continues hkeys.connections hkeys.connectionsBelow
      (continues_of_onset honset).connections hd hc (hdid.trans hid.symm)
    have hgroup : d.groupId = c.groupId := congrArg Prod.fst hsame
    rw [hgroup] at hmay
    exact hmay

/-- A run was started by a user who had the right to, or by the scheduler. -/
theorem runs_startedBy {r : Run} (hr : r ∈ (stateAfter events).runs) :
    (∃ before now sent userId body rest user,
      Machine.Onset Database.step (fun db => ∃ r' ∈ db.runs, r'.id = r.id) Database.empty events
        before (.request now sent userId (.startRun body)) rest ∧
      (stateAfter before).users.find? (fun u => u.id == userId) = some user ∧
      user.isActive = true ∧ ∃ t ∈ (stateAfter before).transfers, t.id = r.transferId ∧
        Permitted memberRights (stateAfter before) user t.groupId .write) ∨
    ∃ before now sent rest,
      Machine.Onset Database.step (fun db => ∃ r' ∈ db.runs, r'.id = r.id) Database.empty events
        before (.sendJobToCelery now sent r.transferId) rest := by
  have hempty : ¬ ∃ r' ∈ Database.empty.runs, r'.id = r.id := by
    rintro ⟨_, hmem, _⟩
    exact List.not_mem_nil hmem
  rcases Machine.exists_onset (f := Database.step)
    (P := fun db : Database => ∃ r' ∈ db.runs, r'.id = r.id) hempty ⟨r, hr, rfl⟩ with
    ⟨before, e, rest, honset⟩
  rcases honset.holds with ⟨first, hfirst, hid⟩
  have hkeys := (reachable_consistent (reachable_step (reachable_stateAfter before) e)).keys
  -- The run has been updated since, but not in what tells whose it is.
  have hidentity : first.identity = r.identity := Table.view_eq_of_continues hkeys.runs
    hkeys.runsBelow (continues_of_onset honset).runs hfirst hr hid
  rcases step_runsFrom (stateAfter before) e first hfirst with ⟨r', hr', hid', _⟩ | hstarts
  · exact absurd ⟨r', hr', hid'.trans hid⟩ honset.notYet
  · rw [hidentity] at hstarts
    cases e with
    | request now sent userId request =>
        cases request with
        | startRun body =>
            rcases hstarts with ⟨user, hfind, hactive, t, ht, hrunnable, hmay⟩
            exact Or.inl ⟨before, now, sent, userId, body, rest, user, honset, hfind, hactive, t, ht,
              hrunnable.transfer.symm, hmay⟩
        | _ => exact hstarts.elim
    | sendJobToCelery now sent transferId =>
        rcases hstarts with ⟨t, _, htid, hrunnable⟩
        have hsame : r.transferId = transferId := hrunnable.transfer.trans htid
        rw [← hsame] at honset
        exact Or.inr ⟨before, now, sent, rest, honset⟩
    | _ => exact hstarts.elim

/-- The rows after a history, each with the request that made it what it is. -/
structure Attributed (events : List Event) : Prop where
  /-- A group goes back to the request of its owner that created it, or to an update by
      somebody who manages it. -/
  groups : ∀ g ∈ (stateAfter events).groups, MadeBy events (fun db => g ∈ db.groups)
    (fun db user => (g.ownerId = user.id ∧ ∀ h ∈ db.groups, h.id ≠ g.id) ∨
      Permitted groupRights db user g.id .delete)
  userGroups : ∀ ug ∈ (stateAfter events).userGroups, MadeBy events (fun db => ug ∈ db.userGroups)
    (fun db user => Permitted groupRights db user ug.groupId .delete)
  connections : ∀ c ∈ (stateAfter events).connections,
    MadeBy events (fun db => c ∈ db.connections)
      (fun db user => Permitted memberRights db user c.groupId .write)
  authData : ∀ a ∈ (stateAfter events).authData, ∃ c ∈ (stateAfter events).connections,
    c.id = a.connectionId ∧ MadeBy events (fun db => a ∈ db.authData)
      (fun db user => Permitted memberRights db user c.groupId .write)
  queues : ∀ q ∈ (stateAfter events).queues, MadeBy events (fun db => q ∈ db.queues)
    (fun db user => Permitted queueRights db user q.groupId .delete)
  transfers : ∀ t ∈ (stateAfter events).transfers, MadeBy events (fun db => t ∈ db.transfers)
    (fun db user => Permitted memberRights db user t.groupId .write)
  /-- A run goes back to a request to start it, or to the job of its transfer. -/
  runs : ∀ r ∈ (stateAfter events).runs,
    (∃ before now sent userId body rest user,
      Machine.Onset Database.step (fun db => ∃ r' ∈ db.runs, r'.id = r.id) Database.empty events
        before (.request now sent userId (.startRun body)) rest ∧
      (stateAfter before).users.find? (fun u => u.id == userId) = some user ∧
      user.isActive = true ∧ ∃ t ∈ (stateAfter before).transfers, t.id = r.transferId ∧
        Permitted memberRights (stateAfter before) user t.groupId .write) ∨
    ∃ before now sent rest,
      Machine.Onset Database.step (fun db => ∃ r' ∈ db.runs, r'.id = r.id) Database.empty events
        before (.sendJobToCelery now sent r.transferId) rest

/-- Every row goes back to somebody who had the right to it. -/
theorem rows_attributed (events : List Event) : Attributed events where
  groups := fun _ hg => group_madeBy hg
  userGroups := fun _ hug => userGroup_madeBy hug
  connections := fun _ hc => connection_madeBy hc
  authData := by
    intro a ha
    rcases (reachable_consistent (reachable_stateAfter events)).resourceLinks.credentials a ha with
      ⟨c, hc, hid⟩
    exact ⟨c, hc, hid, authData_madeBy ha hc hid⟩
  queues := fun _ hq => queue_madeBy hq
  transfers := fun _ ht => transfer_madeBy ht
  runs := fun _ hr => runs_startedBy hr

end Histories

end SyncMaster
