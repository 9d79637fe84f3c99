import SyncMaster.Server.Failures

/-!
# Events as Runs of Writes

Every event of the service is a run of checked writes, whoever caused it and
however it ended. An invariant of the tables that the checked writes keep is
therefore an invariant of every reachable state, and `reachable_of_checked` is
that argument, once.

The events that are no requests never touch the groups and what belongs to
them, runs apart. `Write.Background` is the writes they make.

## Main definitions

* `Write.Background`, `BackgroundRun`: What the other processes write.
* `Accepted`: A request that came to an outcome.
* `SameResources`: The tables that the background writes leave alone.

## Theorems

* `api_acts`: A request does nothing, or is a run of authorised writes.
* `step_background`: Any other event is a run of background writes.
* `step_outcome`: An event writes in the background, or is a request that comes
  to an outcome.
* `step_checked`: Every event is a run of checked writes.
* `reachable_of_checked`: What the checked writes keep holds in every reachable
  state.
-/

namespace SyncMaster

open Program

/-- The writes that no user asks for. -/
def Write.Background : Write → Prop
  | advance _ | insertUser _ | setSuperuser _ _ | insertRun _ | updateRun _ => True
  | _ => False

/-- The transition system of the writes that no user asks for. -/
def backgroundStep (db : Database) (w : Write) (db' : Database) : Prop :=
  w.Background ∧ checkedStep db w db'

/-- The database changes by writes that no user asks for. -/
def BackgroundRun (db db' : Database) : Prop :=
  ∃ ws, Machine.Run backgroundStep db ws db'

theorem backgroundRun_refl (db : Database) : BackgroundRun db db :=
  ⟨[], Machine.Run.nil db⟩

theorem backgroundRun_one {db db' : Database} {w : Write} (h : checkedStep db w db')
    (hw : w.Background) : BackgroundRun db db' :=
  ⟨[w], Machine.run_single ⟨hw, h⟩⟩

theorem backgroundRun_trans {a b c : Database} (hab : BackgroundRun a b)
    (hbc : BackgroundRun b c) : BackgroundRun a c := by
  rcases hab with ⟨ws, hab⟩
  rcases hbc with ⟨vs, hbc⟩
  exact ⟨ws ++ vs, Machine.run_append.mpr ⟨b, hab, hbc⟩⟩

theorem backgroundRun_of_unchanged {db db' : Database} (h : Unchanged db db') :
    BackgroundRun db db' :=
  backgroundRun_one (unchanged_checkedStep h) trivial

/-! ## Requests -/

/-- A request of a known and active user, as a run of authorised writes. -/
theorem api_acts (now : Time) (sent : SendTask) (userId : Id) (db : Database) (request : Request) :
    after (api now sent userId request) db = db ∨
      ∃ user, db.users.find? (fun u => u.id == userId) = some user ∧ user.isActive = true ∧
        Performs ⟨db, user, now, request⟩ (after (api now sent userId request) db) := by
  by_cases huser : ∃ user, db.users.find? (fun u => u.id == userId) = some user ∧
      user.isActive = true
  · rcases huser with ⟨user, hfind, hactive⟩
    refine Or.inr ⟨user, hfind, hactive, ?_⟩
    rw [after_api hfind hactive]
    exact handle_after_performs now sent user db request
  · refine Or.inl (after_api_of_no_user (fun user hfind => ?_))
    exact Bool.eq_false_iff.mpr (fun hactive => huser ⟨user, hfind, hactive⟩)

/-! ## Other events -/

section Events

variable {db db' : Database}

/-- A unit of work that only makes checked writes is a run of them, returned or
    rolled back. -/
theorem unitOfWork_background {α : Type} {body : Db α} (hgrows : Always Grows body)
    (hbody : ∀ a db', Returns body db a db' → BackgroundRun db db') :
    BackgroundRun db (after (unitOfWork body) db) := by
  rcases returns_or_raises (unitOfWork body) db with ⟨a, db', h⟩ | ⟨e, db', h⟩
  · rw [after_of_returns h]
    exact hbody a db' (returns_atomically.mp h)
  · rw [after_of_raises h]
    exact backgroundRun_of_unchanged (cleanFailure_unitOfWork hgrows db e db' h)

theorem login_background (username : String) : BackgroundRun db (after (login username) db) := by
  refine unitOfWork_background (grows_bind (always_query grows_refl _) (fun found => ?_)) ?_
  · split
    · exact grows_pure _
    · exact grows_bind (grows_nextval _) (fun _ => grows_insertRow _ _)
  · intro user db' h
    rcases returns_bind.mp h with ⟨found, _, hquery, h⟩
    rw [← (returns_query.mp hquery).2] at h
    split at h
    · rw [← (returns_pure.mp h).2]
      exact backgroundRun_refl db
    · exact backgroundRun_one (UserRepository.returns_create.mp h).2 trivial

theorem grows_insertSuperusers (usernames : List String) :
    Always Grows (insertSuperusers usernames) := by
  induction usernames with
  | nil => exact grows_pure _
  | cons username rest ih =>
      refine grows_bind (always_query grows_refl _) (fun found => ?_)
      split
      · exact ih
      · refine grows_bind (grows_nextval _) (fun _ => ?_)
        exact grows_bind (grows_insertRow _ _) (fun _ => ih)

theorem insertSuperusers_background {usernames : List String} {u : Unit} {db db' : Database}
    (h : Returns (insertSuperusers usernames) db u db') : BackgroundRun db db' := by
  induction usernames generalizing db with
  | nil =>
      rw [← (returns_pure.mp h).2]
      exact backgroundRun_refl db
  | cons username rest ih =>
      rcases returns_bind.mp h with ⟨found, _, hquery, h⟩
      rw [← (returns_query.mp hquery).2] at h
      split at h
      · exact ih h
      · simp only [returns_bind, returns_nextval, returns_insertRow] at h
        rcases h with ⟨_, _, ⟨rfl, rfl⟩, user, _, ⟨hsatisfied, huser, rfl⟩, h⟩
        rw [← huser] at hsatisfied h
        refine backgroundRun_trans (backgroundRun_one (w := .insertUser user)
          ⟨⟨?_, hsatisfied⟩, ?_⟩ trivial) (ih h)
        · rw [huser]
        · rw [Write.apply, huser]
          rfl

theorem grows_setSuperuser (usernames : List String) (b : Bool) :
    Always Grows (setSuperuser usernames b) :=
  always_execute grows_refl

theorem setSuperuser_background {usernames : List String} {b : Bool} {u : Unit}
    (h : Returns (setSuperuser usernames b) db u db') : BackgroundRun db db' := by
  rw [← returns_execute.mp h]
  exact backgroundRun_one (w := .setSuperuser usernames b) ⟨trivial, rfl⟩ trivial

theorem addSuperusers_background (usernames : List String) :
    BackgroundRun db (after (addSuperusers usernames) db) := by
  refine unitOfWork_background (grows_bind (grows_setSuperuser _ _) (fun _ =>
    grows_insertSuperusers usernames)) ?_
  intro u db' h
  rcases returns_bind.mp h with ⟨_, db₁, hset, hinsert⟩
  exact backgroundRun_trans (setSuperuser_background hset) (insertSuperusers_background hinsert)

theorem removeSuperusers_background (usernames : List String) :
    BackgroundRun db (after (removeSuperusers usernames) db) :=
  unitOfWork_background (grows_setSuperuser _ _) (fun _ _ => setSuperuser_background)

/-- An update of a run by its identifier that keeps the identifier. -/
theorem updateRunRow_background {runId : Id} {values : Run → Run} {run : Run}
    (hid : ∀ r, (values r).id = r.id)
    (h : Returns (updateRow Run.model (fun r => r.id == runId) values) db run db') :
    BackgroundRun db db' := by
  rcases returns_updateOne.mp h with ⟨old, hold, rfl, hsatisfied, rfl⟩
  have hkey : (values old).id = runId := by
    rw [hid]
    exact Table.key_of_filter_eq hold
  subst hkey
  exact backgroundRun_one (w := .updateRun (values old)) ⟨hsatisfied, rfl⟩ trivial

theorem updateSelectedRun_background {runId : Id} {cond : Run → Bool} {values : Run → Run}
    (hid : ∀ r, (values r).id = r.id) :
    BackgroundRun db (after (updateSelectedRun runId cond values) db) := by
  refine unitOfWork_background (grows_bind (always_query grows_refl _) (fun runs => ?_)) ?_
  · split
    · exact grows_pure _
    · exact grows_bind (grows_updateRow _ _ _) (fun _ => grows_pure _)
  · intro u db' h
    rcases returns_bind.mp h with ⟨runs, _, hquery, h⟩
    rw [← (returns_query.mp hquery).2] at h
    split at h
    · rw [← (returns_pure.mp h).2]
      exact backgroundRun_refl db
    · rcases returns_bind.mp h with ⟨run, _, hupdate, h⟩
      rw [(returns_pure.mp h).2] at hupdate
      exact updateRunRow_background hid hupdate

theorem createAndSendRun_background (now : Time) (transfer : Transfer) (type : RunType)
    (sent : SendTask) : BackgroundRun db (after (createAndSendRun now transfer type sent) db) := by
  rcases returns_or_raises (createAndSendRun now transfer type sent) db with
    ⟨_, _, h⟩ | ⟨_, _, h⟩
  · rw [after_of_returns h]
    exact backgroundRun_one (returns_createAndSendRun h).2.2 trivial
  · rw [after_of_raises h]
    rcases createAndSendRun_raises h with hclean | ⟨run, db₁, _, hinsert, hclean | ⟨_, _, _, hupdate⟩⟩
    · exact backgroundRun_of_unchanged hclean
    · exact backgroundRun_trans (backgroundRun_one hinsert trivial) (backgroundRun_of_unchanged hclean)
    · exact backgroundRun_trans (backgroundRun_one hinsert trivial) (backgroundRun_one hupdate trivial)

theorem sendJobToCelery_background (now : Time) (sent : SendTask) (transferId : Id) :
    BackgroundRun db (after (sendJobToCelery now sent transferId) db) := by
  have hquery : Returns (query (fun db : Database =>
      (.ok (db.transfers.filter (fun t => t.id == transferId)) : Except Error (List Transfer))))
      db (db.transfers.filter (fun t => t.id == transferId)) db :=
    returns_query.mpr ⟨rfl, rfl⟩
  rw [sendJobToCelery, after_bind_of_returns hquery]
  split
  · exact backgroundRun_refl db
  · rename_i transfer _ _
    have hsend : BackgroundRun db _ := createAndSendRun_background now transfer .scheduled sent
    rw [after_map]
    exact hsend

/-- An event that is no request is a run of background writes. -/
theorem step_background {e : Event} (h : ∀ now sent userId request,
    e ≠ .request now sent userId request) : BackgroundRun db (db.step e) := by
  cases e with
  | request now sent userId request => exact absurd rfl (h now sent userId request)
  | login username =>
      rw [Database.step, perform, after_map]
      exact login_background username
  | addSuperusers usernames => exact addSuperusers_background usernames
  | removeSuperusers usernames => exact removeSuperusers_background usernames
  | sendJobToCelery now sent transferId =>
      rw [Database.step, perform, after_map]
      exact sendJobToCelery_background now sent transferId
  | startTask now runId logUrl => exact updateSelectedRun_background (fun _ => rfl)
  | finishTask now runId failed => exact updateSelectedRun_background (fun _ => rfl)

/-- A request, as an event. -/
theorem step_request (now : Time) (sent : SendTask) (userId : Id) (request : Request) :
    db.step (.request now sent userId request) = after (api now sent userId request) db :=
  after_map _ _ _

/-- A request of a user who is known and active, when its handler returns. -/
theorem step_of_returns {now : Time} {sent : SendTask} {user : User} {userId : Id}
    {request : Request} {response : Response}
    (hfind : db.users.find? (fun u => u.id == userId) = some user) (hactive : user.isActive = true)
    (h : Returns (handle now sent user request) db response db') :
    db.step (.request now sent userId request) = db' := by
  rw [step_request, after_api hfind hactive, after_of_returns h]

/-! ### Requests on runs -/

theorem backgroundRun_stop (now : Time) (runId : Id) :
    BackgroundRun db (after (unitOfWork (RunRepository.stop now runId)) db) := by
  refine unitOfWork_background (grows_bind (always_query grows_refl _) (fun _ => ?_)) ?_
  · exact grows_bind (always_raiseIf grows_refl _ _) (fun _ => grows_updateRow _ _ _)
  · intro run db' h
    rcases RunRepository.returns_stop.mp h with ⟨_, _, _, _, _, _, hupdate⟩
    exact backgroundRun_one hupdate trivial

/-- A request that only reads, or is on runs, is a run of background writes. -/
theorem onRuns_background {request : Request} (hr : request.OnRuns) (now : Time) (sent : SendTask)
    (user : User) : Always BackgroundRun (handle now sent user request) := by
  have htrans : ∀ a b c, BackgroundRun a b → BackgroundRun b c → BackgroundRun a c :=
    fun _ _ _ => backgroundRun_trans
  have hquery : ∀ {α : Type} (f : Database → Except Error α), Always BackgroundRun (query f) :=
    fun f => always_query backgroundRun_refl f
  have hcheck : ∀ (c : Prop) [Decidable c] (e : Error),
      Always BackgroundRun (raiseIf c e : Db Unit) :=
    fun c _ e => always_raiseIf backgroundRun_refl c e
  cases request with
  | read answer => exact always_bind htrans (hquery _) (fun _ => always_pure backgroundRun_refl _)
  -- Reads and checks, and behind them the transactions on the run.
  | startRun body =>
      refine always_bind htrans ?_ (fun _ => always_pure backgroundRun_refl _)
      refine always_bind htrans (hquery _) (fun _ => ?_)
      refine always_bind htrans (hcheck _ _) (fun _ => ?_)
      refine always_bind htrans (hcheck _ _) (fun _ => ?_)
      refine always_bind htrans (always_catching (hquery _)) (fun _ => ?_)
      refine always_bind htrans (always_catching (hquery _)) (fun _ => ?_)
      exact fun db => createAndSendRun_background now _ _ sent
  | stopRun runId =>
      refine always_bind htrans ?_ (fun _ => always_pure backgroundRun_refl _)
      refine always_bind htrans (hquery _) (fun _ => ?_)
      refine always_bind htrans (hquery _) (fun _ => ?_)
      refine always_bind htrans (hcheck _ _) (fun _ => ?_)
      refine always_bind htrans (hcheck _ _) (fun _ => ?_)
      exact fun db => backgroundRun_stop now runId
  | _ => exact hr.elim

/-- The request, sent by this user, came to an outcome that ends in the database. -/
structure Accepted (db : Database) (now : Time) (userId : Id) (request : Request) (user : User)
    (db' : Database) : Prop where
  found : db.users.find? (fun u => u.id == userId) = some user
  active : user.isActive = true
  notOnRuns : ¬ request.OnRuns
  outcome : Outcome db user now db' request

/-- A request writes in the background, or comes to an outcome. -/
theorem api_outcome (now : Time) (sent : SendTask) (userId : Id) (db : Database) (request : Request) :
    BackgroundRun db (after (api now sent userId request) db) ∨
      ∃ user, Accepted db now userId request user (after (api now sent userId request) db) := by
  by_cases huser : ∃ user, db.users.find? (fun u => u.id == userId) = some user ∧
      user.isActive = true
  · rcases huser with ⟨user, hfind, hactive⟩
    rw [after_api hfind hactive]
    by_cases hr : request.OnRuns
    · exact Or.inl (onRuns_background hr now sent user db)
    · rcases returns_or_raises (handle now sent user request) db with ⟨_, _, h⟩ | ⟨e, db', h⟩
      · rw [after_of_returns h]
        exact Or.inr ⟨user, hfind, hactive, hr, handle_outcome h⟩
      · have hstart : ∀ body, request ≠ .startRun body := by
          intro body hbody
          rw [hbody] at hr
          exact hr trivial
        rw [after_of_raises h]
        exact Or.inl (backgroundRun_of_unchanged (cleanFailure_handle hstart db e db' h))
  · have hsame : after (api now sent userId request) db = db :=
      after_api_of_no_user (fun user hfind =>
        Bool.eq_false_iff.mpr (fun hactive => huser ⟨user, hfind, hactive⟩))
    rw [hsame]
    exact Or.inl (backgroundRun_refl db)

/-- An event writes in the background, or is a request that comes to an outcome. -/
theorem step_outcome (db : Database) (e : Event) :
    BackgroundRun db (db.step e) ∨
      ∃ now sent userId request user, e = .request now sent userId request ∧
        Accepted db now userId request user (db.step e) := by
  by_cases hrequest : ∃ now sent userId request, e = .request now sent userId request
  · rcases hrequest with ⟨now, sent, userId, request, rfl⟩
    rw [step_request]
    rcases api_outcome now sent userId db request with hbackground | ⟨user, haccepted⟩
    · exact Or.inl hbackground
    · exact Or.inr ⟨now, sent, userId, request, user, rfl, haccepted⟩
  · exact Or.inl (step_background (fun now sent userId request he =>
      hrequest ⟨now, sent, userId, request, he⟩))

/-- The tables that the background writes leave alone. -/
structure SameResources (db db' : Database) : Prop where
  groups : db'.groups = db.groups
  userGroups : db'.userGroups = db.userGroups
  connections : db'.connections = db.connections
  authData : db'.authData = db.authData
  queues : db'.queues = db.queues
  transfers : db'.transfers = db.transfers

theorem backgroundStep_frame {w : Write} (h : backgroundStep db w db') : SameResources db db' := by
  rcases h with ⟨hw, _, rfl⟩
  cases w with
  | advance | insertUser | setSuperuser | insertRun | updateRun =>
      exact ⟨rfl, rfl, rfl, rfl, rfl, rfl⟩
  | _ => exact hw.elim

theorem backgroundRun_frame (h : BackgroundRun db db') : SameResources db db' := by
  rcases h with ⟨ws, hrun⟩
  refine Machine.run_relation (I := fun _ => True) (R := SameResources) ?_ ?_
    (fun _ _ _ _ _ => trivial) (fun _ _ _ _ hstep => backgroundStep_frame hstep) hrun trivial
  · intro s
    exact ⟨rfl, rfl, rfl, rfl, rfl, rfl⟩
  · intro s t u hst htu
    exact ⟨htu.groups.trans hst.groups, htu.userGroups.trans hst.userGroups,
      htu.connections.trans hst.connections, htu.authData.trans hst.authData,
      htu.queues.trans hst.queues, htu.transfers.trans hst.transfers⟩

/-- Every event is a run of checked writes. -/
theorem step_checked (db : Database) (e : Event) :
    ∃ ws, Machine.Run checkedStep db ws (db.step e) := by
  by_cases hrequest : ∃ now sent userId request, e = .request now sent userId request
  · rcases hrequest with ⟨now, sent, userId, request, rfl⟩
    rw [step_request]
    rcases api_acts now sent userId db request with hsame | ⟨user, _, _, ws, hrun⟩
    · rw [hsame]
      exact ⟨[], Machine.Run.nil db⟩
    · exact ⟨ws, Machine.run_mono (fun _ _ _ hstep => hstep.2) hrun⟩
  · have hother : ∀ now sent userId request, e ≠ .request now sent userId request :=
      fun now sent userId request he => hrequest ⟨now, sent, userId, request, he⟩
    rcases step_background hother with ⟨ws, hrun⟩
    exact ⟨ws, Machine.run_mono (fun _ _ _ hstep => hstep.2) hrun⟩

/-- What the checked writes keep holds in every reachable state. -/
theorem reachable_of_checked {I : Database → Prop} (hempty : I Database.empty)
    (hwrite : ∀ db w db', I db → checkedStep db w db' → I db') {db : Database}
    (hdb : Reachable db) : I db := by
  refine Machine.reachable_invariant hempty ?_ hdb
  intro a e b ha hstep
  rcases step_checked a e with ⟨ws, hrun⟩
  rw [← hstep]
  exact Machine.run_invariant hwrite hrun ha

end Events

end SyncMaster
