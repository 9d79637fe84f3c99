import SyncMaster.Tenancy.SameGroup

/-!
# Queue Names

The names of the queues of a group are meant to be unique. No constraint says
so. What is unique is the slug, computed from the group and the name when a
queue is created, and `update_queue` sets a new name and leaves the slug as it
is. From the first renaming on, the slugs of a group are the names its queues
once had.

A name can be taken twice in two ways, then: a queue is renamed to the name of
another, or a queue is created with a name that another one was renamed to, so
that the slug is still free. `Event.Clashes` is the two of them, together with
what else the request needs to be accepted. An event that does not clash keeps
the names unique, one that does makes them clash, so the condition is exact
step by step, and a run is judged event by event.

## Main definitions

* `UniqueNames`: The invariant.
* `Event.Clashes`: The two ways to break it.
* `Slugs`: What the constraints say about slugs.

## Theorems

* `checkedStep_slugs`: Every checked write keeps the slugs distinct.
* `step_uniqueNames_iff`: An event keeps the invariant just when it does not
  clash.
* `noClash_iff_uniqueNames`: The same for runs.
-/

namespace SyncMaster

open Program

/-- No two queues of a group have the same name. -/
def UniqueNames (db : Database) : Prop :=
  ∀ q ∈ db.queues, ∀ r ∈ db.queues, q.id ≠ r.id → q.groupId = r.groupId → q.name ≠ r.name

instance (db : Database) : Decidable (UniqueNames db) :=
  inferInstanceAs (Decidable (∀ q ∈ db.queues, ∀ r ∈ db.queues, _ → _ → _))

/-- The user is known, active, and manages the queues of the group. -/
def ManagesQueues (db : Database) (userId groupId : Id) : Prop :=
  ∃ user, db.users.find? (fun u => u.id == userId) = some user ∧ user.isActive = true ∧
    Permitted queueRights db user groupId .delete

/-- A request that passes the checks of its endpoint, and gives a queue a name
    that another queue of the group has. -/
def Event.Clashes (db : Database) : Event → Prop
  | .request _ _ userId (.createQueue body) =>
      (ManagesQueues db userId body.groupId ∧ (∃ g ∈ db.groups, g.id = body.groupId) ∧
        Fits body.slug 256 ∧ Storable body.description 512 ∧
        ∀ q ∈ db.queues, q.slug ≠ body.slug) ∧
      ∃ q ∈ db.queues, q.groupId = body.groupId ∧ q.name = body.name.val
  | .request _ _ userId (.updateQueue queueId body) =>
      Storable body.description 512 ∧
      ∃ old ∈ db.queues, old.id = queueId ∧ ManagesQueues db userId old.groupId ∧
        ∃ q ∈ db.queues, q.id ≠ queueId ∧ q.groupId = old.groupId ∧ q.name = body.name.val
  | _ => False

/-! ## Slugs -/

/-- The slugs are distinct, and fit their column. -/
structure Slugs (db : Database) : Prop where
  distinct : Table.Distinct (fun q : Queue => q.slug) db.queues
  fits : ∀ q ∈ db.queues, Fits q.slug 256

section Slugs

variable {db db' : Database}

theorem slugs_sublist (h : Slugs db) (hs : List.Sublist db'.queues db.queues) : Slugs db' where
  distinct := Table.distinct_sublist _ h.distinct hs
  fits := fun q hq => h.fits q (hs.subset hq)

theorem checkedStep_slugs {w : Write} (hk : Keys db) (h : Slugs db) (hstep : checkedStep db w db') :
    Slugs db' := by
  rcases hstep with ⟨hc, rfl⟩
  cases w with
  | insertQueue q =>
      rcases queue_satisfied.mp hc.2 with ⟨hfit, hfresh, _⟩
      refine ⟨Table.distinct_insert _ h.distinct hfresh, fun r hr => ?_⟩
      rcases List.mem_append.mp hr with hr | hr
      · exact h.fits r hr
      · rw [List.mem_singleton.mp hr]
        exact hfit.slug
  | updateQueue q =>
      rcases queue_satisfied.mp hc with ⟨hfit, hfresh, _⟩
      refine ⟨?_, fun r hr => ?_⟩
      -- The slug of the new row is checked against the other rows only.
      · refine Table.distinct_replace _ h.distinct ?_ hfresh
        exact Table.length_filter_le_one _ hk.queues (fun _ _ hid => beq_iff_eq.mp hid)
      · rcases Table.mem_update.mp hr with ⟨s, hs, rfl⟩
        split
        · exact hfit.slug
        · exact h.fits s hs
  | deleteQueue => exact slugs_sublist h (shrinks_deleteQueues _).queues
  | deleteGroup => exact slugs_sublist h (shrinks_deleteGroups _).queues
  | deleteConnection => exact slugs_sublist h (shrinks_deleteConnections _).queues
  | deleteTransfer => exact slugs_sublist h (shrinks_deleteTransfers _).queues
  | _ => exact ⟨h.distinct, h.fits⟩

end Slugs

/-! ## Accepted requests -/

section Accepted

variable {now : Time} {sent : SendTask} {user : User} {userId : Id} {db : Database}

/-- `create_queue` accepts what passes its checks. -/
theorem createQueue_accepts {body : CreateQueueSchema} (hdb : Consistent db)
    (hfind : db.users.find? (fun u => u.id == userId) = some user) (hactive : user.isActive = true)
    (hmay : Permitted queueRights db user body.groupId .delete)
    (hgroup : ∃ g ∈ db.groups, g.id = body.groupId) (hslug : Fits body.slug 256)
    (hdescription : Storable body.description 512) (hfresh : ∀ q ∈ db.queues, q.slug ≠ body.slug) :
    (db.step (.request now sent userId (.createQueue body))).queues =
      db.queues ++ [QueueRepository.created now (db.sequences .queue) body] := by
  rcases groupPermission_of_permitted hdb.keys.userGroups hgroup hmay with ⟨p, hp, hdelete⟩
  have hnone : p ≠ .none := fun h => hdelete (h ▸ none_lt_delete)
  have hstep : checkedStep db
      (.insertQueue (QueueRepository.created now (db.sequences .queue) body))
      (Write.apply db (.insertQueue (QueueRepository.created now (db.sequences .queue) body))) := by
    have hfit : (QueueRepository.created now (db.sequences .queue) body).ColumnsFit :=
      ⟨fits_queueName body.name, hslug, storable_iff_fits.mp hdescription⟩
    exact ⟨⟨rfl, queue_satisfied.mpr ⟨hfit, hfresh, hgroup⟩⟩, rfl⟩
  have hreturns : Returns (createQueue now user body) db
      (QueueRepository.created now (db.sequences .queue) body)
      (Write.apply db (.insertQueue (QueueRepository.created now (db.sequences .queue) body))) := by
    simp only [createQueue, QueueRepository.getGroupPermission, unitOfWork, returns_bind,
      returns_query, returns_raiseIf, returns_atomically, QueueRepository.returns_create,
      and_assoc, exists_and_left, exists_eq_left', exists_const]
    exact ⟨p, hp, hnone, hdelete, rfl, hstep⟩
  have hhandle : Returns (handle now sent user (.createQueue body)) db (.queue _) _ :=
    returns_bind.mpr ⟨_, _, hreturns, returns_pure.mpr ⟨rfl, rfl⟩⟩
  rw [step_of_returns hfind hactive hhandle]
  rfl

/-- `update_queue` accepts what passes its checks. The slug stays, so it is
    distinct from the others as it was. -/
theorem updateQueue_accepts {queueId : Id} {body : UpdateQueueSchema} {old : Queue}
    (hdb : Consistent db) (hslugs : Slugs db)
    (hfind : db.users.find? (fun u => u.id == userId) = some user) (hactive : user.isActive = true)
    (hold : old ∈ db.queues) (hid : old.id = queueId)
    (hmay : Permitted queueRights db user old.groupId .delete)
    (hdescription : Storable body.description 512) :
    (db.step (.request now sent userId (.updateQueue queueId body))).queues =
      Table.update (fun q => q.id == queueId) (fun _ => QueueRepository.updated now body old)
        db.queues := by
  have hdelete : ¬ resourcePermission queueRights Queue.model (·.toResourceMixin) db user queueId
      < .delete := by
    -- The endpoint's checks: the permission, and the queue itself.
    rw [← hid]
    exact resourcePermission_of_permitted hdb.keys.userGroups hdb.keys.queues hold hmay
  have hnone : resourcePermission queueRights Queue.model (·.toResourceMixin) db user queueId
      ≠ .none := fun h => hdelete (h ▸ none_lt_delete)
  have hfound : db.queues.filter (fun q => q.id == queueId) = [old] :=
    Table.filter_key_eq _ hdb.keys.queues hold hid
  -- The checks of the database; the row is compared with the other rows only.
  have hstep : checkedStep db (.updateQueue (QueueRepository.updated now body old))
      (Write.apply db (.updateQueue (QueueRepository.updated now body old))) := by
    have hfit : (QueueRepository.updated now body old).ColumnsFit :=
      ⟨fits_queueName body.name, hslugs.fits old hold, storable_iff_fits.mp hdescription⟩
    refine ⟨queue_satisfied.mpr ⟨hfit, ?_, ?_⟩, rfl⟩
    · intro r hr heq
      rcases Table.mem_delete.mp hr with ⟨hmem, hother⟩
      have hsame : r = old := Table.eq_of_key_eq _ hslugs.distinct hmem hold heq
      rw [hsame] at hother
      have hkey : (old.id == old.id) = false := hother
      rw [beq_self_eq_true] at hkey
      exact Bool.false_ne_true hkey.symm
    · exact hdb.groupLinks.queueGroup old hold
  have hreturns : Returns (updateQueue now user queueId body) db
      (QueueRepository.updated now body old)
      (Write.apply db (.updateQueue (QueueRepository.updated now body old))) := by
    simp only [updateQueue, QueueRepository.getResourcePermission, unitOfWork, returns_bind,
      returns_query, returns_raiseIf, returns_atomically, QueueRepository.returns_update,
      Except.ok.injEq, and_assoc, exists_and_left, exists_eq_left', exists_const]
    exact ⟨hnone, hdelete, old, hfound, rfl, hstep⟩
  have hhandle : Returns (handle now sent user (.updateQueue queueId body)) db (.queue _) _ :=
    returns_bind.mpr ⟨_, _, hreturns, returns_pure.mpr ⟨rfl, rfl⟩⟩
  rw [step_of_returns hfind hactive hhandle, ← hid]
  rfl

end Accepted

/-! ## One event -/

section Steps

variable {db db' : Database} {e : Event}

theorem uniqueNames_of_subset (h : UniqueNames db) (hs : ∀ q ∈ db'.queues, q ∈ db.queues) :
    UniqueNames db' :=
  fun q hq r hr => h q (hs q hq) r (hs r hr)

/-- The writes that no queue is created or renamed by. -/
theorem queues_of_makes {request : Request} {w : Write} (hw : request.Makes w)
    (hcreate : ∀ body, request ≠ .createQueue body)
    (hupdate : ∀ queueId body, request ≠ .updateQueue queueId body)
    (hstep : checkedStep db w db') : ∀ q ∈ db'.queues, q ∈ db.queues := by
  rcases hstep with ⟨_, rfl⟩
  cases w with
  | insertQueue =>
      cases request with
      | createQueue body => exact absurd rfl (hcreate body)
      | _ => exact hw.elim
  | updateQueue =>
      cases request with
      | updateQueue queueId body => exact absurd rfl (hupdate queueId body)
      | _ => exact hw.elim
  | deleteQueue => exact fun _ hq => (shrinks_deleteQueues _).queues.subset hq
  | deleteGroup => exact fun _ hq => (shrinks_deleteGroups _).queues.subset hq
  | deleteConnection => exact fun _ hq => (shrinks_deleteConnections _).queues.subset hq
  | deleteTransfer => exact fun _ hq => (shrinks_deleteTransfers _).queues.subset hq
  | _ => exact fun _ hq => hq

/-- Only `create_queue` and `update_queue` can give a queue a name. -/
theorem outcome_queues {now : Time} {user : User} {request : Request}
    (h : Outcome db user now db' request) (hr : ¬ request.OnRuns)
    (hcreate : ∀ body, request ≠ .createQueue body)
    (hupdate : ∀ queueId body, request ≠ .updateQueue queueId body) :
    ∀ q ∈ db'.queues, q ∈ db.queues := by
  rcases outcome_written h hr with ⟨ws, hrun⟩
  refine Machine.run_relation (I := fun _ => True)
    (R := fun db db' => ∀ q ∈ db'.queues, q ∈ db.queues) (fun _ _ hq => hq) ?_
    (fun _ _ _ _ _ => trivial) ?_ hrun trivial
  · intro a b c hab hbc q hq
    exact hab q (hbc q hq)
  · intro a w b _ hstep
    exact queues_of_makes hstep.1 hcreate hupdate hstep.2

/-- A new queue whose name no other queue of the group has. -/
theorem uniqueNames_insert {q : Queue} (h : UniqueNames db)
    (hfree : ∀ r ∈ db.queues, r.groupId = q.groupId → r.name ≠ q.name)
    (hqueues : db'.queues = db.queues ++ [q]) : UniqueNames db' := by
  intro a ha b hb hne hgroup
  rw [hqueues] at ha hb
  rcases List.mem_append.mp ha with ha | ha
  · rcases List.mem_append.mp hb with hb | hb
    · exact h a ha b hb hne hgroup
    · rw [List.mem_singleton.mp hb] at hgroup ⊢
      exact hfree a ha hgroup
  · rcases List.mem_append.mp hb with hb | hb
    · rw [List.mem_singleton.mp ha] at hgroup ⊢
      exact (hfree b hb hgroup.symm).symm
    · rw [List.mem_singleton.mp ha, List.mem_singleton.mp hb] at hne
      exact absurd rfl hne

/-- A queue renamed to a name that no other queue of its group has. -/
theorem uniqueNames_update {q : Queue} (h : UniqueNames db)
    (hfree : ∀ r ∈ db.queues, r.id ≠ q.id → r.groupId = q.groupId → r.name ≠ q.name)
    (hqueues : db'.queues = Table.update (fun r => r.id == q.id) (fun _ => q) db.queues) :
    UniqueNames db' := by
  intro a ha b hb hne hgroup
  rw [hqueues] at ha hb
  rcases Table.mem_update.mp ha with ⟨c, hc, rfl⟩
  rcases Table.mem_update.mp hb with ⟨d, hd, rfl⟩
  by_cases hqc : (c.id == q.id) = true
  · by_cases hqd : (d.id == q.id) = true
    · rw [if_pos hqc, if_pos hqd] at hne
      exact absurd rfl hne
    · rw [if_pos hqc, if_neg hqd] at hgroup ⊢
      have hid : d.id ≠ q.id := fun heq => hqd (beq_iff_eq.mpr heq)
      exact (hfree d hd hid hgroup.symm).symm
  · have hid : c.id ≠ q.id := fun heq => hqc (beq_iff_eq.mpr heq)
    by_cases hqd : (d.id == q.id) = true
    · rw [if_neg hqc, if_pos hqd] at hgroup ⊢
      exact hfree c hc hid hgroup
    · rw [if_neg hqc, if_neg hqd] at hne hgroup ⊢
      exact h c hc d hd hne hgroup

/-- An event that does not clash keeps the names unique. -/
theorem uniqueNames_of_noClash (h : UniqueNames db)
    (hclash : ¬ e.Clashes db) : UniqueNames (db.step e) := by
  rcases step_outcome db e with hbackground | ⟨now, sent, userId, request, user, he, haccepted⟩
  · refine uniqueNames_of_subset h (fun q hq => ?_)
    rw [← (backgroundRun_frame hbackground).queues]
    exact hq
  subst he
  have huser : db.users.find? (fun u => u.id == userId) = some user := haccepted.found
  cases haccepted.outcome with
  | @createQueue body q hmay hq hinsert =>
      refine uniqueNames_insert h (fun r hr hgroup hname => hclash ?_) (by rw [hinsert.2]; rfl)
      -- The request has passed all checks, so a name that is taken would be a clash.
      rcases queue_satisfied.mp hinsert.1.2 with ⟨hfit, hfresh, hexists⟩
      rw [hq] at hmay hfit hfresh hexists hgroup hname
      exact ⟨⟨⟨user, huser, haccepted.active, hmay⟩, hexists, hfit.slug,
        storable_iff_fits.mpr hfit.description, hfresh⟩, r, hr, hgroup, hname⟩
  | @updateQueue queueId body old q hold hmay hq hupdate =>
      have hmem : old ∈ db.queues := (Table.mem_of_filter_eq hold).1
      have hid : old.id = queueId := beq_iff_eq.mp (Table.mem_of_filter_eq hold).2
      refine uniqueNames_update (q := q) h (fun r hr hne hgroup hname => hclash ?_)
        (by rw [hupdate.2]; rfl)
      rcases queue_satisfied.mp hupdate.1 with ⟨hfit, _⟩
      rw [hq] at hfit hne hgroup hname
      exact ⟨storable_iff_fits.mpr hfit.description, old, hmem, hid, ⟨user, huser, haccepted.active, hmay⟩,
        r, hr, fun heq => hne (heq.trans hid.symm), hgroup, hname⟩
  | onRuns hr => exact absurd hr haccepted.notOnRuns
  | _ =>
      refine uniqueNames_of_subset h (outcome_queues haccepted.outcome haccepted.notOnRuns ?_ ?_)
      all_goals
        intros
        exact (fun heq => nomatch heq)

/-- An event that clashes is accepted, and leaves two queues with one name. -/
theorem not_uniqueNames_of_clash (hdb : Consistent db) (hslugs : Slugs db)
    (hclash : e.Clashes db) : ¬ UniqueNames (db.step e) := by
  intro h
  cases e with
  -- Both requests that clash are accepted, and write the queue of the other's name.
  | request now sent userId request =>
      cases request with
      | createQueue body =>
          rcases hclash with ⟨⟨⟨user, hfind, hactive, hmay⟩, hgroup, hslug, hdescription, hfresh⟩,
            q, hq, hqgroup, hqname⟩
          have hqueues : (db.step (.request now sent userId (.createQueue body))).queues = _ :=
            createQueue_accepts hdb hfind hactive hmay hgroup hslug hdescription hfresh
          have hnew : QueueRepository.created now (db.sequences .queue) body ∈
              (db.step (.request now sent userId (.createQueue body))).queues := by
            rw [hqueues]
            exact List.mem_append_right _ (List.mem_singleton_self _)
          have hother : q ∈ (db.step (.request now sent userId (.createQueue body))).queues := by
            rw [hqueues]
            exact List.mem_append_left _ hq
          have hne : q.id ≠ db.sequences .queue := ne_of_lt (hdb.keys.queuesBelow q hq)
          exact h q hother _ hnew hne hqgroup hqname
      | updateQueue queueId body =>
          rcases hclash with ⟨hdescription, old, hold, hid, ⟨user, hfind, hactive, hmay⟩, q, hq,
            hne, hqgroup, hqname⟩
          have hqueues :
              (db.step (.request now sent userId (.updateQueue queueId body))).queues = _ :=
            updateQueue_accepts hdb hslugs hfind hactive hold hid hmay hdescription
          have hnew : QueueRepository.updated now body old ∈
              (db.step (.request now sent userId (.updateQueue queueId body))).queues := by
            rw [hqueues]
            exact Table.mem_update_self (f := fun _ => QueueRepository.updated now body old) hold
              (beq_iff_eq.mpr hid)
          have hother : q ∈
              (db.step (.request now sent userId (.updateQueue queueId body))).queues := by
            rw [hqueues]
            refine Table.mem_update.mpr ⟨q, hq, ?_⟩
            rw [if_neg (fun hkey => hne (beq_iff_eq.mp hkey))]
          exact h q hother _ hnew (fun heq => hne (heq.trans hid)) hqgroup hqname
      | _ => exact hclash.elim
  | _ => exact hclash.elim

/-- An event keeps the names unique just when it does not clash. -/
theorem step_uniqueNames_iff (hdb : Consistent db) (hslugs : Slugs db) (h : UniqueNames db) :
    UniqueNames (db.step e) ↔ ¬ e.Clashes db :=
  ⟨fun hunique hclash => not_uniqueNames_of_clash hdb hslugs hclash hunique,
    uniqueNames_of_noClash h⟩

theorem step_slugs (hdb : Consistent db) (hslugs : Slugs db) : Slugs (db.step e) := by
  rcases step_checked db e with ⟨ws, hrun⟩
  have hboth : Consistent (db.step e) ∧ Slugs (db.step e) := by
    refine Machine.run_invariant (I := fun db => Consistent db ∧ Slugs db) ?_ hrun ⟨hdb, hslugs⟩
    intro a w b ha hstep
    exact ⟨checkedStep_consistent ha.1 hstep, checkedStep_slugs ha.1.keys ha.2 hstep⟩
  exact hboth.2

end Steps

/-! ## Runs -/

/-- The names are unique in every state of a run just when no event of it
    clashes. -/
theorem noClash_iff_uniqueNames (events : List Event) :
    Machine.Along (fun db e => ¬ e.Clashes db) Database.step Database.empty events ↔
      ∀ before after, events = before ++ after →
        UniqueNames (before.foldl Database.step Database.empty) := by
  refine Machine.along_iff_invariant (J := fun db => Consistent db ∧ Slugs db) ?_ ?_ ?_ ?_
  · intro db e h
    exact ⟨step_consistent h.1 e, step_slugs h.1 h.2⟩
  · intro db e h hunique
    exact step_uniqueNames_iff h.1 h.2 hunique
  · exact ⟨consistent_empty, Table.distinct_nil _, fun _ hq => absurd hq List.not_mem_nil⟩
  · exact fun _ hq => absurd hq List.not_mem_nil

/-- Two queues of a group, the second renamed to the name of the first. -/
def renameEvents : List Event := [
  .login "owner",
  .request 1 .returned 1 (.createGroup sampleGroup),
  .request 2 .returned 1 (.createQueue (sampleQueue 1)),
  .request 3 .returned 1 (.createQueue { name := ⟨"other", by decide⟩, groupId := 1 }),
  .request 4 .returned 1 (.updateQueue 2 { name := (sampleQueue 1).name })]

/-- The names are not unique in every reachable state. -/
theorem not_uniqueNames_renameEvents : ¬ ∀ db, Reachable db → UniqueNames db := by
  intro h
  have hunique := h _ (reachable_foldl renameEvents)
  revert hunique
  decide +kernel

end SyncMaster
