import SyncMaster.Tenancy.Consistent

/-!
# Continuity

What the identifier of a row stands for.

Runs, transfers and all the other rows are referred to from outside: by bookmarks
and scripts, by the messages in the queues and by the jobs of the scheduler, which
live longer than a request. These references are identifiers, so an identifier must
never come to mean something else.

It does not. A sequence is not set back, not even by a rollback, and no statement
of the service touches the columns below. So whatever happens after a state, each
row whose identifier had been handed out by then was there in that state, and these
columns are as they were. In particular a row that is deleted does not come back,
and the dump of a run is the one that it was created with.

The columns of a table that never change are its *identity*.

## Main definitions

* `User.identity`, `Run.identity` and the others: The columns that do not change.
* `Continues`: A state of the service and a later one.
* `Write.Keeps`: The write leaves the identity of the row that it updates.
* `stateAfter`: The state that a history leads to.
* `Stands`: The identifiers of a table in an earlier and a later state.

## Theorems

* `checkedStep_continues`: Such a write continues the state.
* `outcome_continues`: What the requests have written does.
* `onRuns_continues`: And the requests on runs.
* `step_continues`: One event.
* `foldl_continues`: Any sequence of them.
* `identifiers_stand`: What an identifier stands for, over a whole history.
-/

namespace SyncMaster

open Program

/-! ## Identities -/

def User.identity (u : User) : String :=
  u.username

def Group.identity (g : Group) : Time :=
  g.createdAt

def Connection.identity (c : Connection) : Id × Time :=
  (c.groupId, c.createdAt)

/-- The slug is made of the name at the time, and stays when the name changes. -/
def Queue.identity (q : Queue) : Id × String × Time :=
  (q.groupId, q.slug, q.createdAt)

def Transfer.identity (t : Transfer) : Id × Time :=
  (t.groupId, t.createdAt)

def Run.identity (r : Run) : Id × RunType × TransferDump × Time :=
  (r.transferId, r.type, r.transferDump, r.createdAt)

/-- What a later state may be. -/
structure Continues (db db' : Database) : Prop where
  sequences : Grows db db'
  users : Table.Continues (fun u : User => u.id) User.identity (db.sequences .user)
    db.users db'.users
  groups : Table.Continues (fun g : Group => g.id) Group.identity (db.sequences .group)
    db.groups db'.groups
  connections : Table.Continues (fun c : Connection => c.id) Connection.identity
    (db.sequences .connection) db.connections db'.connections
  queues : Table.Continues (fun q : Queue => q.id) Queue.identity (db.sequences .queue)
    db.queues db'.queues
  transfers : Table.Continues (fun t : Transfer => t.id) Transfer.identity
    (db.sequences .transfer) db.transfers db'.transfers
  runs : Table.Continues (fun r : Run => r.id) Run.identity (db.sequences .run) db.runs db'.runs

section Continues

variable {db db' : Database}

/-- Rows go, and sequences move on. -/
theorem continues_shrinks (h : Shrinks db db') : Continues db db' where
  sequences := grows_of_eq h.sequences
  users := by
    rw [h.users]
    exact Table.continues_refl _
  groups := Table.continues_sublist h.groups
  connections := Table.continues_sublist h.connections
  queues := Table.continues_sublist h.queues
  transfers := Table.continues_sublist h.transfers
  runs := Table.continues_sublist h.runs

theorem continues_refl (db : Database) : Continues db db :=
  continues_shrinks (shrinks_refl db)

theorem continues_trans (a b c : Database) (hab : Continues a b) (hbc : Continues b c) :
    Continues a c where
  sequences := grows_trans a b c hab.sequences hbc.sequences
  users := Table.continues_trans (hab.sequences .user) hab.users hbc.users
  groups := Table.continues_trans (hab.sequences .group) hab.groups hbc.groups
  connections :=
    Table.continues_trans (hab.sequences .connection) hab.connections hbc.connections
  queues := Table.continues_trans (hab.sequences .queue) hab.queues hbc.queues
  transfers := Table.continues_trans (hab.sequences .transfer) hab.transfers hbc.transfers
  runs := Table.continues_trans (hab.sequences .run) hab.runs hbc.runs

theorem continues_unchanged (h : Unchanged db db') : Continues db db' := by
  have htables : db' = { db with sequences := db'.sequences } := by
    rw [← h.1]
  rw [htables]
  exact { continues_refl db with sequences := h.2 }

/-! ## Writes -/

/-- An update leaves the identity of its row. -/
def Write.Keeps (db : Database) : Write → Prop
  | updateGroup g => ∃ old ∈ db.groups, old.id = g.id ∧ old.identity = g.identity
  | updateConnection c => ∃ old ∈ db.connections, old.id = c.id ∧ old.identity = c.identity
  | updateQueue q => ∃ old ∈ db.queues, old.id = q.id ∧ old.identity = q.identity
  | updateTransfer t => ∃ old ∈ db.transfers, old.id = t.id ∧ old.identity = t.identity
  | updateRun r => ∃ old ∈ db.runs, old.id = r.id ∧ old.identity = r.identity
  | _ => True

theorem checkedStep_continues {w : Write} (hstep : checkedStep db w db') (hw : w.Keeps db) :
    Continues db db' := by
  have hgrows := checkedStep_grows hstep
  rcases hstep with ⟨hc, rfl⟩
  cases w with
  | advance | insertUserGroup | updateUserGroup | deleteUserGroup | insertAuthData
  | updateAuthData => exact { continues_refl db with sequences := hgrows }
  | setSuperuser usernames b =>
      exact { continues_refl db with
        users := Table.continues_update (fun _ => rfl) (fun _ => rfl) }
  -- The sequence hands out the identifier of a new row.
  | insertUser u =>
      exact { continues_refl db with
        sequences := hgrows
        users := Table.continues_insert hc.1 }
  | insertGroup g =>
      exact { continues_refl db with
        sequences := hgrows
        groups := Table.continues_insert hc.1 }
  | insertConnection c =>
      exact { continues_refl db with
        sequences := hgrows
        connections := Table.continues_insert hc.1 }
  | insertQueue q =>
      exact { continues_refl db with
        sequences := hgrows
        queues := Table.continues_insert hc.1 }
  | insertTransfer t =>
      exact { continues_refl db with
        sequences := hgrows
        transfers := Table.continues_insert hc.1 }
  | insertRun r =>
      exact { continues_refl db with
        sequences := hgrows
        runs := Table.continues_insert hc.1 }
  -- An update stands for the row that it replaces.
  | updateGroup g =>
      rcases hw with ⟨old, hold, hid, hidentity⟩
      exact { continues_refl db with groups := Table.continues_replace hold hid hidentity }
  | updateConnection c =>
      rcases hw with ⟨old, hold, hid, hidentity⟩
      exact { continues_refl db with connections := Table.continues_replace hold hid hidentity }
  | updateQueue q =>
      rcases hw with ⟨old, hold, hid, hidentity⟩
      exact { continues_refl db with queues := Table.continues_replace hold hid hidentity }
  | updateTransfer t =>
      rcases hw with ⟨old, hold, hid, hidentity⟩
      exact { continues_refl db with transfers := Table.continues_replace hold hid hidentity }
  | updateRun r =>
      rcases hw with ⟨old, hold, hid, hidentity⟩
      exact { continues_refl db with runs := Table.continues_replace hold hid hidentity }
  | deleteGroup => exact continues_shrinks (shrinks_deleteGroups _)
  | deleteConnection => exact continues_shrinks (shrinks_deleteConnections _)
  | deleteQueue => exact continues_shrinks (shrinks_deleteQueues _)
  | deleteTransfer => exact continues_shrinks (shrinks_deleteTransfers _)

/-- Two writes in a row. -/
theorem continues_snoc {db₁ : Database} {w : Write} (h : Continues db db₁)
    (hstep : checkedStep db₁ w db') (hw : w.Keeps db₁) : Continues db db' :=
  continues_trans db db₁ db' h (checkedStep_continues hstep hw)

end Continues

/-! ## Requests -/

section Events

variable {db db' : Database} {now : Time} {sent : SendTask} {user : User}

theorem transferCopied_continues {transferId : Id} {body : CopyTransferSchema} {origin : Transfer}
    {sourceOrigin source target : Connection} {db₁ db₂ db₃ : Database}
    (h : TransferCopied db user transferId body origin sourceOrigin source target db₁ db₂ db₃ db') :
    Continues db db' := by
  have hsource : Continues db db₁ := checkedStep_continues h.sourceInserted trivial
  have htarget : Continues db db₂ := by
    have hcopy := h.targetCopy
    split at hcopy
    · rw [hcopy.2]
      exact hsource
    · rcases hcopy with ⟨_, _, _, hinsert⟩
      exact continues_snoc hsource hinsert trivial
  have htransfer : Continues db db₃ := continues_snoc htarget h.copy trivial
  have hrest := h.rest
  split at hrest
  · exact continues_snoc htransfer hrest trivial
  · rw [hrest]
    exact htransfer

theorem groupUpdated_continues {groupId : Id} {body : UpdateGroupSchema} {old : Group}
    {db₁ db₂ : Database} (h : GroupUpdated db user now groupId body old db₁ db₂ db') :
    Continues db db' := by
  have hrow : Continues db db₁ :=
    checkedStep_continues h.row ⟨old, (Table.mem_of_filter_eq h.found).1, rfl, rfl⟩
  have hleft : Continues db db₂ := by
    have hleft := h.left
    split at hleft
    · rw [hleft]
      exact hrow
    · split at hleft
      · rcases hleft with ⟨_, _, hdelete⟩
        exact continues_snoc hrow hdelete trivial
      · rw [hleft]
        exact hrow
  have hjoined := h.joined
  split at hjoined
  · rw [hjoined]
    exact hleft
  · exact continues_snoc hleft hjoined trivial

/-- What the requests have written continues the state they started from. -/
theorem outcome_continues {request : Request} (h : Outcome db user now db' request)
    (hr : ¬ request.OnRuns) : Continues db db' := by
  cases h with
  | onRuns h => exact absurd h hr
  | createConnection _ _ _ hinsert hcredentials =>
      exact continues_snoc (checkedStep_continues hinsert trivial) hcredentials trivial
  | @updateConnection _ _ old _ _ _ hupdated =>
      have hrow := checkedStep_continues hupdated.row
        ⟨old, (Table.mem_of_filter_eq hupdated.found).1, rfl, rfl⟩
      exact continues_snoc hrow hupdated.authData trivial
  | deleteConnection _ _ _ hdelete => exact checkedStep_continues hdelete trivial
  -- If the connection is moved, its original is deleted as well.
  | copyConnection hcopied =>
      have hcopy := checkedStep_continues hcopied.copy trivial
      have hrest := hcopied.rest
      split at hrest
      · exact continues_snoc hcopy hrest trivial
      · rw [hrest]
        exact hcopy
  | createQueue _ _ hinsert => exact checkedStep_continues hinsert trivial
  | @updateQueue _ _ old _ hold _ hq hupdate =>
      subst hq
      exact checkedStep_continues hupdate ⟨old, (Table.mem_of_filter_eq hold).1, rfl, rfl⟩
  | deleteQueue _ _ _ hdelete => exact checkedStep_continues hdelete trivial
  | createTransfer _ _ _ hinsert => exact checkedStep_continues hinsert trivial
  | copyTransfer hcopied => exact transferCopied_continues hcopied
  | @updateTransfer _ _ old _ _ _ _ hold _ _ ht hupdate =>
      subst ht
      exact checkedStep_continues hupdate ⟨old, (Table.mem_of_filter_eq hold).1, rfl, rfl⟩
  | deleteTransfer _ _ hdelete => exact checkedStep_continues hdelete trivial
  | createGroup _ hinsert => exact checkedStep_continues hinsert trivial
  | updateGroup hupdated => exact groupUpdated_continues hupdated
  | deleteGroup _ _ hdelete => exact checkedStep_continues hdelete trivial
  | updateUserRoleGroup _ _ _ hupdate => exact checkedStep_continues hupdate trivial
  | addUserToGroup _ _ _ _ hinsert => exact checkedStep_continues hinsert trivial
  | deleteUserFromGroup _ _ hdelete => exact checkedStep_continues hdelete trivial

/-- A program that continues the state when it returns, and leaves the tables when not. -/
theorem always_clean {α : Type} {x : Db α} (hclean : CleanFailure Unchanged x)
    (hx : ∀ db a db', Returns x db a db' → Continues db db') : Always Continues x := by
  intro db
  rcases returns_or_raises x db with ⟨a, db', h⟩ | ⟨e, db', h⟩
  · rw [after_of_returns h]
    exact hx db a db' h
  · rw [after_of_raises h]
    exact continues_unchanged (hclean db e db' h)

theorem always_unitOfWork {α : Type} {body : Db α} (hgrows : Always Grows body)
    (hbody : ∀ db a db', Returns body db a db' → Continues db db') :
    Always Continues (unitOfWork body) :=
  always_clean (cleanFailure_unitOfWork hgrows)
    (fun db a db' h => hbody db a db' (returns_atomically.mp h))

theorem always_readOnly {α : Type} {x : Db α} (hx : ReadOnly x) : Always Continues x := by
  intro db
  have hsame : db = after x db := hx db
  rw [← hsame]
  exact continues_refl db

theorem always_afterRead {α β : Type} {x : Db α} {f : α → Db β} (hx : ReadOnly x)
    (hf : ∀ a, Always Continues (f a)) : Always Continues (x >>= f) :=
  always_bind continues_trans (always_readOnly hx) hf

/-- An update of a run that leaves its identity. -/
theorem updateRun_continues {runId : Id} {values : Run → Run} {run : Run}
    (hvalues : ∀ r, (values r).id = r.id ∧ (values r).identity = r.identity)
    (h : Returns (updateRow Run.model (fun r => r.id == runId) values) db run db') :
    Continues db db' := by
  rcases returns_updateOne.mp h with ⟨old, hold, rfl, hsatisfied, rfl⟩
  have hkey : (values old).id = runId := (hvalues old).1.trans (Table.key_of_filter_eq hold)
  subst hkey
  refine checkedStep_continues (w := .updateRun (values old)) ⟨hsatisfied, rfl⟩ ?_
  exact ⟨old, (Table.mem_of_filter_eq hold).1, (hvalues old).1.symm, (hvalues old).2.symm⟩

theorem createAndSendRun_continues (transfer : Transfer) (type : RunType) :
    Always Continues (createAndSendRun now transfer type sent) := by
  refine always_afterRead (readOnly_readCredentials _) (fun _ => ?_)
  refine always_afterRead (readOnly_readCredentials _) (fun _ => ?_)
  refine always_bind continues_trans (always_clean (cleanFailure_createRun _ _ _ _) ?_) ?_
  · intro db run db' h
    rcases RunRepository.returns_create (returns_atomically.mp h) with ⟨_, _, _, _, hinsert⟩
    exact checkedStep_continues hinsert trivial
  · intro run
    cases sent with
    | returned => exact always_pure continues_refl _
    | kombuError =>
        refine always_bind continues_trans (always_unitOfWork (grows_update _ _ _ _) ?_)
          (fun _ => always_throw continues_refl _)
        intro db failed db' h
        rcases RunRepository.returns_update.mp h with ⟨old, hold, rfl, hupdate⟩
        exact checkedStep_continues hupdate ⟨old, (Table.mem_of_filter_eq hold).1, rfl, rfl⟩
    | otherError => exact always_throw continues_refl _

/-- The requests on runs, and those that only read. -/
theorem onRuns_continues {request : Request} (hr : request.OnRuns) :
    Always Continues (handle now sent user request) := by
  cases request with
  | read answer =>
      exact always_afterRead (readOnly_query _) (fun _ => always_pure continues_refl _)
  | startRun body =>
      refine always_bind continues_trans ?_ (fun _ => always_pure continues_refl _)
      refine always_afterRead (readOnly_query _) (fun _ => ?_)
      refine always_afterRead (readOnly_raiseIf _ _) (fun _ => ?_)
      refine always_afterRead (readOnly_raiseIf _ _) (fun _ => ?_)
      refine always_afterRead (always_catching (readOnly_query _)) (fun _ => ?_)
      refine always_afterRead (always_catching (readOnly_query _)) (fun _ => ?_)
      exact createAndSendRun_continues _ _
  | stopRun runId =>
      refine always_bind continues_trans ?_ (fun _ => always_pure continues_refl _)
      refine always_afterRead (readOnly_query _) (fun _ => ?_)
      refine always_afterRead (readOnly_query _) (fun _ => ?_)
      refine always_afterRead (readOnly_raiseIf _ _) (fun _ => ?_)
      refine always_afterRead (readOnly_raiseIf _ _) (fun _ => ?_)
      refine always_unitOfWork (grows_bind (always_query grows_refl _) (fun _ =>
        grows_bind (always_raiseIf grows_refl _ _) (fun _ => grows_updateRow _ _ _))) ?_
      intro db run db' h
      rcases RunRepository.returns_stop.mp h with ⟨_, _, _, old, hold, rfl, hupdate⟩
      exact checkedStep_continues hupdate ⟨old, (Table.mem_of_filter_eq hold).1, rfl, rfl⟩
  | _ => exact hr.elim

theorem handle_continues (request : Request) :
    Always Continues (handle now sent user request) := by
  by_cases hr : request.OnRuns
  · exact onRuns_continues hr
  · have hstart : ∀ body, request ≠ .startRun body := by
      intro body hbody
      rw [hbody] at hr
      exact hr trivial
    exact always_clean (cleanFailure_handle hstart)
      (fun _ _ _ h => outcome_continues (handle_outcome h) hr)

/-! ## Other events -/

theorem insertSuperusers_continues (usernames : List String) {u : Unit}
    (h : Returns (insertSuperusers usernames) db u db') : Continues db db' := by
  induction usernames generalizing db with
  | nil =>
      rw [← (returns_pure.mp h).2]
      exact continues_refl db
  | cons username rest ih =>
      rcases returns_bind.mp h with ⟨found, _, hquery, h⟩
      rw [← (returns_query.mp hquery).2] at h
      split at h
      · exact ih h
      · simp only [returns_bind, returns_nextval, returns_insertRow] at h
        rcases h with ⟨_, _, ⟨rfl, rfl⟩, user, _, ⟨hsatisfied, rfl, rfl⟩, h⟩
        exact continues_trans _ _ _ (checkedStep_continues (w := .insertUser _)
          ⟨⟨rfl, hsatisfied⟩, rfl⟩ trivial) (ih h)

/-- The task of the worker selects the run and updates it by its identifier. -/
theorem updateSelectedRun_continues {runId : Id} {cond : Run → Bool} {values : Run → Run}
    (hvalues : ∀ r, (values r).id = r.id ∧ (values r).identity = r.identity) :
    Always Continues (updateSelectedRun runId cond values) := by
  refine always_unitOfWork (grows_bind (always_query grows_refl _) (fun runs => ?_)) ?_
  · split
    · exact grows_pure _
    · exact grows_bind (grows_updateRow _ _ _) (fun _ => grows_pure _)
  · intro db u db' h
    rcases returns_bind.mp h with ⟨runs, _, hquery, h⟩
    rw [← (returns_query.mp hquery).2] at h
    split at h
    · rw [← (returns_pure.mp h).2]
      exact continues_refl db
    · rcases returns_bind.mp h with ⟨run, _, hupdate, h⟩
      rw [(returns_pure.mp h).2] at hupdate
      exact updateRun_continues hvalues hupdate

theorem step_continues (db : Database) (e : Event) : Continues db (db.step e) := by
  cases e with
  | request now sent userId request =>
      rw [step_request]
      exact always_afterRead (readOnly_getUser userId) (fun _ => handle_continues request) db
  | login username =>
      rw [Database.step, perform, after_map]
      refine always_unitOfWork (grows_bind (always_query grows_refl _) (fun found => ?_)) ?_ db
      · split
        · exact grows_pure _
        · exact grows_bind (grows_nextval _) (fun _ => grows_insertRow _ _)
      · intro db user db' h
        rcases returns_bind.mp h with ⟨found, _, hquery, h⟩
        rw [← (returns_query.mp hquery).2] at h
        split at h
        · rw [← (returns_pure.mp h).2]
          exact continues_refl db
        · exact checkedStep_continues (UserRepository.returns_create.mp h).2 trivial
  | addSuperusers usernames =>
      refine always_unitOfWork (grows_bind (grows_setSuperuser _ _) (fun _ =>
        grows_insertSuperusers usernames)) ?_ db
      intro db _ db' h
      -- The users who are there come first, and then those who are not.
      rcases returns_bind.mp h with ⟨_, db₁, hset, hinsert⟩
      rw [← returns_execute.mp hset] at hinsert
      exact continues_trans _ _ _ (checkedStep_continues (w := .setSuperuser usernames true)
        ⟨trivial, rfl⟩ trivial) (insertSuperusers_continues usernames hinsert)
  | removeSuperusers usernames =>
      refine always_unitOfWork (grows_setSuperuser usernames false) (fun db _ db' h => ?_) db
      rw [← returns_execute.mp h]
      exact checkedStep_continues (w := .setSuperuser usernames false) ⟨trivial, rfl⟩ trivial
  | sendJobToCelery now sent transferId =>
      rw [Database.step, perform, after_map]
      refine always_afterRead (readOnly_query _) (fun transfers => ?_) db
      split
      · exact always_pure continues_refl _
      · exact always_bind continues_trans (createAndSendRun_continues _ _)
          (fun _ => always_pure continues_refl _)
  | startTask now runId logUrl =>
      have htask : Always Continues (startTask now runId logUrl) :=
        updateSelectedRun_continues (fun _ => ⟨rfl, rfl⟩)
      exact htask db
  | finishTask now runId failed =>
      have htask : Always Continues (finishTask now runId failed) :=
        updateSelectedRun_continues (fun _ => ⟨rfl, rfl⟩)
      exact htask db

/-- Whatever happens after a state, an identifier that it had handed out stands for the same
    row, or for none. -/
theorem foldl_continues (db : Database) (events : List Event) :
    Continues db (events.foldl Database.step db) := by
  refine Machine.run_relation (I := fun _ => True) continues_refl continues_trans
    (fun _ _ _ _ _ => trivial) (fun a e b _ hstep => ?_) (Machine.run_graph.mpr rfl) trivial
  rw [← hstep]
  exact step_continues a e

end Events

/-! ## Histories -/

/-- The database after the events, from the first one on. -/
def stateAfter (events : List Event) : Database :=
  events.foldl Database.step Database.empty

theorem reachable_stateAfter (events : List Event) : Reachable (stateAfter events) :=
  ⟨events, Machine.run_graph.mpr rfl⟩

theorem stateAfter_append (before rest : List Event) :
    stateAfter (before ++ rest) = rest.foldl Database.step (stateAfter before) :=
  List.foldl_append

/-- The identifiers of a table, then and now: one that is still in use stands for the same
    row, and one that had been handed out by then is in use only if it was then. -/
def Stands {Row Identity : Type} (id : Row → Id) (identity : Row → Identity) (nextval : Id)
    (rows rows' : List Row) : Prop :=
  (∀ r ∈ rows, ∀ r' ∈ rows', id r = id r' → identity r = identity r') ∧
    ∀ r' ∈ rows', id r' < nextval → ∃ r ∈ rows, id r = id r'

theorem stands_of_continues {Row Identity : Type} {id : Row → Id} {identity : Row → Identity}
    {nextval : Id} {rows rows' : List Row} (hd : Table.Distinct id rows)
    (hb : Table.Below id nextval rows) (h : Table.Continues id identity nextval rows rows') :
    Stands id identity nextval rows rows' := by
  refine ⟨fun r hr r' hr' => Table.view_eq_of_continues hd hb h hr hr', fun r' hr' hlt => ?_⟩
  rcases h r' hr' hlt with ⟨r, hr, hid, _⟩
  exact ⟨r, hr, hid⟩

/-- However a history goes on, the identifiers of all tables stand for what they stood for. -/
theorem identifiers_stand (before rest : List Event) :
    let db := stateAfter before
    let db' := stateAfter (before ++ rest)
    Stands (fun u : User => u.id) User.identity (db.sequences .user) db.users db'.users ∧
    Stands (fun g : Group => g.id) Group.identity (db.sequences .group) db.groups db'.groups ∧
    Stands (fun c : Connection => c.id) Connection.identity (db.sequences .connection)
      db.connections db'.connections ∧
    Stands (fun q : Queue => q.id) Queue.identity (db.sequences .queue) db.queues db'.queues ∧
    Stands (fun t : Transfer => t.id) Transfer.identity (db.sequences .transfer)
      db.transfers db'.transfers ∧
    Stands (fun r : Run => r.id) Run.identity (db.sequences .run) db.runs db'.runs := by
  intro db db'
  have hkeys : Keys db := (reachable_consistent (reachable_stateAfter before)).keys
  have hcontinues : Continues db db' := by
    change Continues db (stateAfter (before ++ rest))
    rw [stateAfter_append]
    exact foldl_continues db rest
  refine ⟨?_, ?_, ?_, ?_, ?_, ?_⟩
  · exact stands_of_continues hkeys.users hkeys.usersBelow hcontinues.users
  · exact stands_of_continues hkeys.groups hkeys.groupsBelow hcontinues.groups
  · exact stands_of_continues hkeys.connections hkeys.connectionsBelow hcontinues.connections
  · exact stands_of_continues hkeys.queues hkeys.queuesBelow hcontinues.queues
  · exact stands_of_continues hkeys.transfers hkeys.transfersBelow hcontinues.transfers
  · exact stands_of_continues hkeys.runs hkeys.runsBelow hcontinues.runs

end SyncMaster
