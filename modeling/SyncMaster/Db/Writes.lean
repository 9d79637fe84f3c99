import SyncMaster.Db.Repositories
import Mathlib.Data.Int.Order.Basic

/-!
# Writes

What the database sees of a request: a list of writes of single rows.

A `Write` is one elementary change. `apply` carries it out, a deletion with
its cascade, and `Checked` is what the database demands before it does: the
constraints of the table, and for an insertion the next identifier of the
sequence. An invariant that the checked writes keep is an invariant of
everything the service does, whoever asked for it.

The rest of the file says what the operations of the repositories are as
writes. A hypothesis that an operation returned turns into a checked write,
and neither the statement nor the error translation has to be opened again.

## Main definitions

* `Write`, `Write.apply`, `Write.Checked`: The elementary changes.
* `Model.Satisfied`: A row passes the constraints of its table.
* `Connection.ColumnsFit` and its siblings: The columns hold the row.
* `checkedStep`: The transition system of the checked writes.
* `Grows`: No sequence goes back.

## Theorems

* `connection_satisfied` and its siblings: What the constraints of a table say.
* `ConnectionRepository.returns_create` and its siblings: Each operation as a
  checked write.
* `grows_insertNext`, `grows_update` and the others: No operation puts a
  sequence back, whether it returns or raises.
-/

namespace SyncMaster

open Program

/-- The row passes the constraints of its table, beside the others. -/
def Model.Satisfied {Row : Type} (model : Model Row) (db : Database) (others : List Row)
    (row : Row) : Prop :=
  ∀ c ∈ model.constraints db others row, c.1 = true

/-! ## Rows that pass -/

structure Group.ColumnsFit (g : Group) : Prop where
  name : Fits g.name 128
  description : Fits g.description 512

structure Connection.ColumnsFit (c : Connection) : Prop where
  name : Fits c.name 128
  description : Fits c.description 512
  data : (Json.obj c.data).Searchable

structure Queue.ColumnsFit (q : Queue) : Prop where
  name : Fits q.name 128
  slug : Fits q.slug 256
  description : Fits q.description 512

structure Transfer.ColumnsFit (t : Transfer) : Prop where
  name : Fits t.name 128
  description : Fits t.description 512
  schedule : Fits t.schedule 32
  sourceParams : (Json.obj t.sourceParams.fields).Searchable
  targetParams : (Json.obj t.targetParams.fields).Searchable
  transformations : (Json.arr t.transformations).Finite

section Satisfied

variable {db : Database}

theorem group_satisfied {others : List Group} {g : Group} :
    Group.model.Satisfied db others g ↔
      g.ColumnsFit ∧ (∀ h ∈ others, h.name ≠ g.name) ∧ ∃ u ∈ db.users, u.id = g.ownerId := by
  simp only [Model.Satisfied, Group.model, fits, List.forall_mem_cons, List.any_eq_true,
    List.any_eq_false, Bool.not_eq_true', decide_eq_true_eq, beq_iff_eq, List.not_mem_nil,
    false_implies, implies_true, and_true]
  constructor
  · rintro ⟨hname, hdescription, hrest⟩
    exact ⟨⟨hname, hdescription⟩, hrest⟩
  · rintro ⟨hfit, hrest⟩
    exact ⟨hfit.name, hfit.description, hrest⟩

theorem connection_satisfied {others : List Connection} {c : Connection} :
    Connection.model.Satisfied db others c ↔
      c.ColumnsFit ∧ (∀ d ∈ others, d.name = c.name → d.groupId ≠ c.groupId) ∧
        ∃ g ∈ db.groups, g.id = c.groupId := by
  simp only [Model.Satisfied, Connection.model, fits, searchable, List.forall_mem_cons,
    List.any_eq_true, List.any_eq_false, Bool.not_eq_true', Bool.and_eq_true, decide_eq_true_eq,
    beq_iff_eq, List.not_mem_nil, false_implies, implies_true, and_true, not_and, ne_eq]
  constructor
  · rintro ⟨hname, hdescription, hdata, hrest⟩
    exact ⟨⟨hname, hdescription, hdata⟩, hrest⟩
  · rintro ⟨hfit, hrest⟩
    exact ⟨hfit.name, hfit.description, hfit.data, hrest⟩

theorem queue_satisfied {others : List Queue} {q : Queue} :
    Queue.model.Satisfied db others q ↔
      q.ColumnsFit ∧ (∀ r ∈ others, r.slug ≠ q.slug) ∧ ∃ g ∈ db.groups, g.id = q.groupId := by
  simp only [Model.Satisfied, Queue.model, fits, List.forall_mem_cons, List.any_eq_true,
    List.any_eq_false, Bool.not_eq_true', decide_eq_true_eq, beq_iff_eq, List.not_mem_nil,
    false_implies, implies_true, and_true]
  constructor
  · rintro ⟨hname, hslug, hdescription, hrest⟩
    exact ⟨⟨hname, hslug, hdescription⟩, hrest⟩
  · rintro ⟨hfit, hrest⟩
    exact ⟨hfit.name, hfit.slug, hfit.description, hrest⟩

theorem transfer_satisfied {others : List Transfer} {t : Transfer} :
    Transfer.model.Satisfied db others t ↔
      t.ColumnsFit ∧ (∀ r ∈ others, r.name = t.name → r.groupId ≠ t.groupId) ∧
        (∃ g ∈ db.groups, g.id = t.groupId) ∧ (∃ q ∈ db.queues, q.id = t.queueId) ∧
        (∃ c ∈ db.connections, c.id = t.sourceConnectionId) ∧
        ∃ c ∈ db.connections, c.id = t.targetConnectionId := by
  simp only [Model.Satisfied, Transfer.model, fits, searchable, storable, List.forall_mem_cons,
    List.any_eq_true, List.any_eq_false, Bool.not_eq_true', Bool.and_eq_true, decide_eq_true_eq,
    beq_iff_eq, List.not_mem_nil, false_implies, implies_true, and_true, not_and, ne_eq]
  constructor
  · rintro ⟨hname, hdescription, hschedule, hsource, htarget, htransformations, hrest⟩
    exact ⟨⟨hname, hdescription, hschedule, hsource, htarget, htransformations⟩, hrest⟩
  · rintro ⟨hfit, hrest⟩
    exact ⟨hfit.name, hfit.description, hfit.schedule, hfit.sourceParams, hfit.targetParams,
      hfit.transformations, hrest⟩

end Satisfied

/-! ## Checked writes -/

/-- An elementary change of the database. An update carries the row as it is
    afterwards, a deletion the row that was asked for. -/
inductive Write where
  | advance (sequences : Sequence → Id)
  | insertUser (user : User)
  | setSuperuser (usernames : List String) (isSuperuser : Bool)
  | insertGroup (group : Group)
  | updateGroup (group : Group)
  | deleteGroup (group : Group)
  | insertUserGroup (userGroup : UserGroup)
  | updateUserGroup (userGroup : UserGroup)
  | deleteUserGroup (userGroup : UserGroup)
  | insertConnection (connection : Connection)
  | updateConnection (connection : Connection)
  | deleteConnection (connection : Connection)
  | insertAuthData (authData : AuthData)
  | updateAuthData (authData : AuthData)
  | insertQueue (queue : Queue)
  | updateQueue (queue : Queue)
  | deleteQueue (queue : Queue)
  | insertTransfer (transfer : Transfer)
  | updateTransfer (transfer : Transfer)
  | deleteTransfer (transfer : Transfer)
  | insertRun (run : Run)
  | updateRun (run : Run)

namespace Write

/-- The sequences after one of them handed out the identifier. -/
def bump (db : Database) (s : Sequence) (id : Id) : Sequence → Id :=
  Function.update db.sequences s (id + 1)

/-- Carry the change out. -/
def apply (db : Database) : Write → Database
  | advance sequences => { db with sequences := sequences }
  | insertUser u =>
      { db with users := db.users ++ [u], sequences := bump db .user u.id }
  | setSuperuser usernames b =>
      { db with
        users := Table.update (fun u => usernames.contains u.username)
          (fun u => { u with isSuperuser := b }) db.users }
  | insertGroup g =>
      { db with groups := db.groups ++ [g], sequences := bump db .group g.id }
  | updateGroup g =>
      { db with groups := Table.update (fun h => h.id == g.id) (fun _ => g) db.groups }
  | deleteGroup g => db.deleteGroups (fun h => h.id == g.id)
  | insertUserGroup ug => { db with userGroups := db.userGroups ++ [ug] }
  | updateUserGroup ug =>
      { db with
        userGroups := Table.update (GroupRepository.isMembership ug.groupId ug.userId)
          (fun _ => ug) db.userGroups }
  | deleteUserGroup ug =>
      { db with
        userGroups := Table.delete (GroupRepository.isMembership ug.groupId ug.userId)
          db.userGroups }
  | insertConnection c =>
      { db with connections := db.connections ++ [c], sequences := bump db .connection c.id }
  | updateConnection c =>
      { db with connections := Table.update (fun d => d.id == c.id) (fun _ => c) db.connections }
  | deleteConnection c => db.deleteConnections (fun d => d.id == c.id)
  | insertAuthData a => { db with authData := db.authData ++ [a] }
  | updateAuthData a =>
      { db with
        authData := Table.update (fun b => b.connectionId == a.connectionId) (fun _ => a)
          db.authData }
  | insertQueue q =>
      { db with queues := db.queues ++ [q], sequences := bump db .queue q.id }
  | updateQueue q =>
      { db with queues := Table.update (fun r => r.id == q.id) (fun _ => q) db.queues }
  | deleteQueue q => db.deleteQueues (fun r => r.id == q.id)
  | insertTransfer t =>
      { db with transfers := db.transfers ++ [t], sequences := bump db .transfer t.id }
  | updateTransfer t =>
      { db with transfers := Table.update (fun r => r.id == t.id) (fun _ => t) db.transfers }
  | deleteTransfer t => db.deleteTransfers (fun r => r.id == t.id)
  | insertRun r =>
      { db with runs := db.runs ++ [r], sequences := bump db .run r.id }
  | updateRun r =>
      { db with runs := Table.update (fun s => s.id == r.id) (fun _ => r) db.runs }

/-- What the database demands before it carries the change out. -/
def Checked (db : Database) : Write → Prop
  | advance sequences => ∀ s, db.sequences s ≤ sequences s
  | insertUser u => u.id = db.sequences .user ∧ User.model.Satisfied db db.users u
  | setSuperuser _ _ => True
  | insertGroup g => g.id = db.sequences .group ∧ Group.model.Satisfied db db.groups g
  | updateGroup g =>
      Group.model.Satisfied db (Table.delete (fun h => h.id == g.id) db.groups) g
  | deleteGroup g => db.groups.filter (fun h => h.id == g.id) = [g]
  | insertUserGroup ug => UserGroup.model.Satisfied db db.userGroups ug
  | updateUserGroup ug =>
      UserGroup.model.Satisfied db
        (Table.delete (GroupRepository.isMembership ug.groupId ug.userId) db.userGroups) ug
  | deleteUserGroup ug =>
      db.userGroups.filter (GroupRepository.isMembership ug.groupId ug.userId) = [ug]
  | insertConnection c =>
      c.id = db.sequences .connection ∧ Connection.model.Satisfied db db.connections c
  | updateConnection c =>
      Connection.model.Satisfied db (Table.delete (fun d => d.id == c.id) db.connections) c
  | deleteConnection c => db.connections.filter (fun d => d.id == c.id) = [c]
  | insertAuthData a => AuthData.model.Satisfied db db.authData a
  | updateAuthData a =>
      AuthData.model.Satisfied db
        (Table.delete (fun b => b.connectionId == a.connectionId) db.authData) a
  | insertQueue q => q.id = db.sequences .queue ∧ Queue.model.Satisfied db db.queues q
  | updateQueue q =>
      Queue.model.Satisfied db (Table.delete (fun r => r.id == q.id) db.queues) q
  | deleteQueue q => db.queues.filter (fun r => r.id == q.id) = [q]
  | insertTransfer t =>
      t.id = db.sequences .transfer ∧ Transfer.model.Satisfied db db.transfers t
  | updateTransfer t =>
      Transfer.model.Satisfied db (Table.delete (fun r => r.id == t.id) db.transfers) t
  | deleteTransfer t => db.transfers.filter (fun r => r.id == t.id) = [t]
  | insertRun r => r.id = db.sequences .run ∧ Run.model.Satisfied db db.runs r
  | updateRun r => Run.model.Satisfied db (Table.delete (fun s => s.id == r.id) db.runs) r

end Write

/-- The transition system of the checked writes. -/
def checkedStep (db : Database) (w : Write) (db' : Database) : Prop :=
  w.Checked db ∧ db' = w.apply db

/-! ## Sequences -/

/-- No sequence goes back. It is all that a rolled back request may change. -/
def Grows (db db' : Database) : Prop :=
  ∀ s, db.sequences s ≤ db'.sequences s

theorem grows_refl (db : Database) : Grows db db :=
  fun _ => le_refl _

theorem grows_trans (a b c : Database) (hab : Grows a b) (hbc : Grows b c) : Grows a c :=
  fun s => le_trans (hab s) (hbc s)

theorem grows_of_eq {db db' : Database} (h : db'.sequences = db.sequences) : Grows db db' :=
  fun s => le_of_eq (congrFun h s).symm

section Grows

variable {Row : Type} (model : Model Row)

theorem grows_nextval (s : Sequence) : Always Grows (nextval s) := by
  intro db
  have h : Returns (nextval s) db _ _ := returns_nextval.mpr ⟨rfl, rfl⟩
  rw [after_of_returns h]
  intro q
  change db.sequences q ≤ Function.update db.sequences s (db.sequences s + 1) q
  by_cases hq : q = s
  · subst hq
    rw [Function.update_self]
    exact le_of_lt (Int.lt_succ _)
  · rw [Function.update_of_ne hq]

theorem grows_insertRow (row : Row) : Always Grows (insertRow model row) := by
  refine always_bind grows_trans (always_query grows_refl _) (fun _ => ?_)
  refine always_bind grows_trans (always_execute (fun db => ?_)) (fun _ =>
    always_pure grows_refl _)
  exact grows_of_eq (model.withRows_sequences _ _)

theorem grows_updateRow (cond : Row → Bool) (values : Row → Row) :
    Always Grows (updateRow model cond values) := by
  refine always_bind grows_trans (always_query grows_refl _) (fun _ => ?_)
  refine always_bind grows_trans (always_query grows_refl _) (fun _ => ?_)
  refine always_bind grows_trans (always_execute (fun db => ?_)) (fun _ =>
    always_pure grows_refl _)
  exact grows_of_eq (model.withRows_sequences _ _)

theorem grows_deleteRow (cond : Row → Bool) : Always Grows (deleteRow model cond) := by
  refine always_bind grows_trans (always_query grows_refl _) (fun _ => ?_)
  refine always_bind grows_trans (always_execute (fun db => ?_)) (fun _ =>
    always_pure grows_refl _)
  exact grows_of_eq (model.deleteWhere_sequences _ _)

theorem grows_insertNext (s : Sequence) (make : Id → Row) (handle : Error → Error) :
    Always Grows (do
      let id ← nextval s
      catching handle (insertRow model (make id))) :=
  always_bind grows_trans (grows_nextval s) (fun _ => always_catching (grows_insertRow model _))

theorem grows_update (cond : Row → Bool) (values : Row → Row) (handle : Error → Error) :
    Always Grows (catching handle (Repository.update model cond values)) :=
  always_catching (always_catching (grows_updateRow model cond values))

theorem grows_delete (cond : Row → Bool) (handle : Error → Error) :
    Always Grows (catching handle (Repository.delete model cond)) :=
  always_catching (grows_deleteRow model cond)

theorem grows_copy (s : Sequence) (cond : Row → Bool) (values : Id → Row → Row)
    (handle : Error → Error) :
    Always Grows (catching handle (Repository.copy model s cond values)) := by
  refine always_catching (always_bind grows_trans (always_query grows_refl _) (fun _ => ?_))
  exact always_bind grows_trans (grows_nextval s) (fun _ => grows_insertRow model _)

end Grows

/-! ## Operations as writes -/

section Operations

variable {db db' : Database}

/-- An insertion that takes its identifier from a sequence. -/
theorem returns_insertNext {Row : Type} {model : Model Row} {s : Sequence} {make : Id → Row}
    {handle : Error → Error} {row : Row} :
    Returns (do
      let id ← nextval s
      catching handle (insertRow model (make id))) db row db' ↔
      let numbered := { db with sequences := Function.update db.sequences s (db.sequences s + 1) }
      row = make (db.sequences s) ∧
        model.Satisfied numbered (model.rows numbered) row ∧
        db' = model.withRows numbered (model.rows numbered ++ [row]) := by
  simp only [returns_bind, returns_nextval, returns_catching, returns_insertRow]
  constructor
  · rintro ⟨_, _, ⟨rfl, rfl⟩, hc, rfl, rfl⟩
    exact ⟨rfl, hc, rfl⟩
  · rintro ⟨rfl, hc, rfl⟩
    exact ⟨_, _, ⟨rfl, rfl⟩, hc, rfl, rfl⟩

/-- An update of the one row that meets the condition, whose key it keeps. -/
theorem returns_updateOne {Row : Type} {model : Model Row} {cond : Row → Bool}
    {values : Row → Row} {row : Row} :
    Returns (updateRow model cond values) db row db' ↔
      ∃ old, (model.rows db).filter cond = [old] ∧ row = values old ∧
        model.Satisfied db (Table.delete cond (model.rows db)) row ∧
        db' = model.withRows db (Table.update cond (fun _ => row) (model.rows db)) := by
  rw [returns_updateRow]
  constructor
  · rintro ⟨old, ho, hc, rfl, rfl⟩
    exact ⟨old, ho, rfl, hc, congrArg _ (Table.update_eq_of_filter ho)⟩
  · rintro ⟨old, ho, rfl, hc, rfl⟩
    exact ⟨old, ho, hc, rfl, (congrArg _ (Table.update_eq_of_filter ho)).symm⟩

/-- A copy: the row found, then an insertion. -/
theorem returns_copyOne {Row : Type} {model : Model Row} {s : Sequence} {cond : Row → Bool}
    {values : Id → Row → Row} {row : Row} :
    Returns (Repository.copy model s cond values) db row db' ↔
      let numbered := { db with sequences := Function.update db.sequences s (db.sequences s + 1) }
      ∃ origin, (model.rows db).filter cond = [origin] ∧
        row = values (db.sequences s) origin ∧
        model.Satisfied numbered (model.rows numbered) row ∧
        db' = model.withRows numbered (model.rows numbered ++ [row]) := by
  simp only [Repository.copy, returns_bind, returns_query, one_eq_ok_iff, returns_nextval,
    returns_insertRow]
  constructor
  · rintro ⟨origin, _, ⟨ho, rfl⟩, _, _, ⟨rfl, rfl⟩, hc, rfl, rfl⟩
    exact ⟨origin, ho, rfl, hc, rfl⟩
  · rintro ⟨origin, ho, rfl, hc, rfl⟩
    exact ⟨origin, db, ⟨ho, rfl⟩, _, _, ⟨rfl, rfl⟩, hc, rfl, rfl⟩

theorem UserRepository.returns_readById {userId : Id} {user : User} :
    Returns (UserRepository.readById userId) db user db' ↔
      db.users.find? (fun u => u.id == userId) = some user ∧ db = db' := by
  simp only [UserRepository.readById, returns_query]
  cases db.users.find? (fun u => u.id == userId) with
  | none => simp only [reduceCtorEq, false_and]
  | some u => simp only [Except.ok.injEq, Option.some.injEq]

theorem UserRepository.returns_create {username : String} {user : User} :
    Returns (UserRepository.create username) db user db' ↔
      user = ⟨db.sequences .user, username, false, true⟩ ∧ checkedStep db (.insertUser user) db' := by
  simp only [UserRepository.create, returns_bind, returns_nextval, returns_insertRow]
  constructor
  · rintro ⟨_, _, ⟨rfl, rfl⟩, hc, rfl, rfl⟩
    exact ⟨rfl, ⟨rfl, hc⟩, rfl⟩
  · rintro ⟨rfl, ⟨_, hc⟩, rfl⟩
    exact ⟨_, _, ⟨rfl, rfl⟩, hc, rfl, rfl⟩

/-! ### Groups -/

namespace GroupRepository

variable {groupId userId : Id}

theorem returns_readById {group : Group} :
    Returns (readById groupId) db group db' ↔
      db.groups.filter (fun g => g.id == groupId) = [group] ∧ db = db' := by
  rw [readById, returns_catching, returns_query, one_eq_ok_iff]

theorem returns_create {now : Time} {name description : String} {ownerId : Id} {group : Group} :
    Returns (create now name description ownerId) db group db' ↔
      group = ⟨⟨now, now⟩, db.sequences .group, name, varchar 512 description, ownerId⟩ ∧
      checkedStep db (.insertGroup group) db' := by
  rw [create, returns_insertNext]
  constructor
  · rintro ⟨rfl, hc, rfl⟩
    exact ⟨rfl, ⟨rfl, hc⟩, rfl⟩
  · rintro ⟨rfl, ⟨_, hc⟩, rfl⟩
    exact ⟨rfl, hc, rfl⟩

theorem returns_update {now : Time} {name description : String} {ownerId : Id} {group : Group} :
    Returns (update now groupId name description ownerId) db group db' ↔
      ∃ old, db.groups.filter (fun g => g.id == groupId) = [old] ∧
        group = ⟨⟨old.createdAt, now⟩, old.id, name, varchar 512 description, ownerId⟩ ∧
        checkedStep db (.updateGroup group) db' := by
  rw [update, returns_catching, Repository.update, returns_catching, returns_updateOne]
  refine exists_congr (fun old => and_congr_right (fun ho => and_congr_right ?_))
  rintro rfl
  rw [← Table.key_of_filter_eq ho]
  rfl

theorem returns_delete {group : Group} :
    Returns (delete groupId) db group db' ↔
      db.groups.filter (fun g => g.id == groupId) = [group] ∧
        checkedStep db (.deleteGroup group) db' := by
  rw [delete, returns_catching, Repository.delete, returns_deleteRow]
  refine and_congr_right (fun ho => ?_)
  have hkey : group.id = groupId := Table.key_of_filter_eq ho
  subst hkey
  exact (and_iff_right ho).symm

theorem returns_getUserGroup {found : Option UserGroup} :
    Returns (getUserGroup groupId userId) db found db' ↔
      db.userGroups.find? (isMembership groupId userId) = found ∧ db = db' := by
  rw [getUserGroup, returns_query, Except.ok.injEq]

theorem returns_updateMemberRole {role : GroupMemberRole} {ug : UserGroup} :
    Returns (updateMemberRole groupId userId role) db ug db' ↔
      ug = { groupId := groupId, userId := userId, role := role } ∧
        (∃ old, db.userGroups.filter (isMembership groupId userId) = [old]) ∧
        checkedStep db (.updateUserGroup ug) db' := by
  rw [updateMemberRole, returns_catching, returns_updateRow]
  constructor
  · rintro ⟨old, ho, hc, rfl, rfl⟩
    exact ⟨rfl, ⟨old, ho⟩, hc, rfl⟩
  · rintro ⟨rfl, ⟨old, ho⟩, hc, rfl⟩
    exact ⟨old, ho, hc, rfl, rfl⟩

theorem returns_addUser {role : GroupMemberRole} {ug : UserGroup} :
    Returns (addUser groupId userId role) db ug db' ↔
      ug = { groupId := groupId, userId := userId, role := role } ∧
        checkedStep db (.insertUserGroup ug) db' := by
  rw [addUser, returns_catching, returns_insertRow]
  constructor
  · rintro ⟨hc, rfl, rfl⟩
    exact ⟨rfl, hc, rfl⟩
  · rintro ⟨rfl, hc, rfl⟩
    exact ⟨hc, rfl, rfl⟩

theorem isMembership_iff {ug : UserGroup} :
    isMembership groupId userId ug = true ↔ ug.groupId = groupId ∧ ug.userId = userId := by
  simp only [isMembership, Bool.and_eq_true, beq_iff_eq]

theorem returns_deleteUser {ug : UserGroup} :
    Returns (deleteUser groupId userId) db ug db' ↔
      (ug.groupId = groupId ∧ ug.userId = userId) ∧ checkedStep db (.deleteUserGroup ug) db' := by
  rw [deleteUser, returns_catching, returns_deleteRow]
  constructor
  · rintro ⟨ho, rfl⟩
    rcases isMembership_iff.mp (Table.mem_of_filter_eq ho).2 with ⟨rfl, rfl⟩
    exact ⟨⟨rfl, rfl⟩, ho, rfl⟩
  · rintro ⟨⟨rfl, rfl⟩, ho, rfl⟩
    exact ⟨ho, rfl⟩

end GroupRepository

/-! ### Connections and credentials -/

namespace ConnectionRepository

variable {connectionId : Id} {c : Connection}

theorem returns_readById :
    Returns (readById connectionId) db c db' ↔
      db.connections.filter (fun d => d.id == connectionId) = [c] ∧ db = db' := by
  rw [readById, returns_catching, returns_query, one_eq_ok_iff]

theorem returns_create {now : Time} {groupId : Id} {type : ConnectionType}
    {name description : String} {data : Dict} :
    Returns (create now groupId type name description data) db c db' ↔
      c = {
        id := db.sequences .connection
        groupId := groupId
        type := type
        name := name
        description := varchar 512 description
        data := data
        createdAt := now
        updatedAt := now } ∧
      checkedStep db (.insertConnection c) db' := by
  rw [create, returns_insertNext]
  constructor
  · rintro ⟨rfl, hc, rfl⟩
    exact ⟨rfl, ⟨rfl, hc⟩, rfl⟩
  · rintro ⟨rfl, ⟨_, hc⟩, rfl⟩
    exact ⟨rfl, hc, rfl⟩

theorem returns_update {now : Time} {type : ConnectionType} {name description : String}
    {data : Dict} :
    Returns (update now connectionId name type description data) db c db' ↔
      ∃ old, db.connections.filter (fun d => d.id == connectionId) = [old] ∧
        c = { old with
          type := type
          name := name
          description := varchar 512 description
          data := data
          updatedAt := now } ∧
        checkedStep db (.updateConnection c) db' := by
  rw [update, returns_catching, Repository.update, returns_catching, returns_updateOne]
  refine exists_congr (fun old => and_congr_right (fun ho => and_congr_right ?_))
  rintro rfl
  rw [← Table.key_of_filter_eq ho]
  rfl

theorem returns_delete :
    Returns (delete connectionId) db c db' ↔
      db.connections.filter (fun d => d.id == connectionId) = [c] ∧
        checkedStep db (.deleteConnection c) db' := by
  rw [delete, returns_catching, Repository.delete, returns_deleteRow]
  refine and_congr_right (fun ho => ?_)
  have hkey : c.id = connectionId := beq_iff_eq.mp (Table.mem_of_filter_eq ho).2
  subst hkey
  exact (and_iff_right ho).symm

/-- The row that `copy` inserts. -/
def copied (id newGroupId : Id) (newName : Option String) (origin : Connection) : Connection :=
  { origin with id := id, groupId := newGroupId, name := newName.getD origin.name }

theorem returns_copy {newGroupId : Id} {newName : Option String} :
    Returns (copy connectionId newGroupId newName) db c db' ↔
      ∃ origin, db.connections.filter (fun d => d.id == connectionId) = [origin] ∧
        c = copied (db.sequences .connection) newGroupId newName origin ∧
        checkedStep db (.insertConnection c) db' := by
  rw [copy, returns_catching, returns_copyOne]
  refine exists_congr (fun origin => and_congr_right (fun _ => ?_))
  constructor
  · rintro ⟨rfl, hc, rfl⟩
    exact ⟨rfl, ⟨rfl, hc⟩, rfl⟩
  · rintro ⟨rfl, ⟨_, hc⟩, rfl⟩
    exact ⟨rfl, hc, rfl⟩

end ConnectionRepository

namespace CredentialsRepository

variable {now : Time} {connectionId : Id} {a : AuthData} {value : AuthValue}

theorem returns_read :
    Returns (read connectionId) db value db' ↔
      (∃ row, db.authData.filter (fun a => a.connectionId == connectionId) = [row] ∧
        row.value = value) ∧ db = db' := by
  simp only [read, returns_bind, returns_catching, returns_query, one_eq_ok_iff, returns_pure]
  constructor
  · rintro ⟨row, _, ⟨hrow, rfl⟩, hvalue, rfl⟩
    exact ⟨⟨row, hrow, hvalue⟩, rfl⟩
  · rintro ⟨⟨row, hrow, hvalue⟩, rfl⟩
    exact ⟨row, db, ⟨hrow, rfl⟩, hvalue, rfl⟩

theorem returns_create :
    Returns (create now connectionId value) db a db' ↔
      a = {
        connectionId := connectionId
        value := value
        createdAt := now
        updatedAt := now } ∧
      checkedStep db (.insertAuthData a) db' := by
  rw [create, returns_catching, returns_insertRow]
  constructor
  · rintro ⟨hc, rfl, rfl⟩
    exact ⟨rfl, hc, rfl⟩
  · rintro ⟨rfl, hc, rfl⟩
    exact ⟨hc, rfl, rfl⟩

theorem returns_update :
    Returns (update now connectionId value) db a db' ↔
      ∃ old, db.authData.filter (fun b => b.connectionId == connectionId) = [old] ∧
        a = { old with value := value, updatedAt := now } ∧
        checkedStep db (.updateAuthData a) db' := by
  rw [update, returns_catching, Repository.update, returns_catching, returns_updateOne]
  refine exists_congr (fun old => and_congr_right (fun ho => and_congr_right ?_))
  rintro rfl
  rw [← Table.key_of_filter_eq ho]
  rfl

end CredentialsRepository

/-! ### Queues -/

namespace QueueRepository

variable {now : Time} {queueId : Id} {q : Queue}

theorem returns_readById :
    Returns (readById queueId) db q db' ↔
      db.queues.filter (fun r => r.id == queueId) = [q] ∧ db = db' := by
  rw [readById, returns_catching, returns_query, one_eq_ok_iff]

theorem returns_create {queueData : CreateQueueSchema} :
    Returns (create now queueData) db q db' ↔
      q = {
        id := db.sequences .queue
        name := queueData.name.val
        groupId := queueData.groupId
        description := varchar 512 queueData.description
        slug := queueData.slug
        createdAt := now
        updatedAt := now } ∧
      checkedStep db (.insertQueue q) db' := by
  rw [create, returns_insertNext]
  constructor
  · rintro ⟨rfl, hc, rfl⟩
    exact ⟨rfl, ⟨rfl, hc⟩, rfl⟩
  · rintro ⟨rfl, ⟨_, hc⟩, rfl⟩
    exact ⟨rfl, hc, rfl⟩

theorem returns_update {name description : String} :
    Returns (update now queueId name description) db q db' ↔
      ∃ old, db.queues.filter (fun r => r.id == queueId) = [old] ∧
        q = { old with name := name, description := varchar 512 description, updatedAt := now } ∧
        checkedStep db (.updateQueue q) db' := by
  rw [update, returns_catching, Repository.update, returns_catching, returns_updateOne]
  refine exists_congr (fun old => and_congr_right (fun ho => and_congr_right ?_))
  rintro rfl
  rw [← Table.key_of_filter_eq ho]
  rfl

theorem returns_delete :
    Returns (delete queueId) db q db' ↔
      db.queues.filter (fun r => r.id == queueId) = [q] ∧
        checkedStep db (.deleteQueue q) db' := by
  rw [delete, returns_catching, Repository.delete, returns_deleteRow]
  refine and_congr_right (fun ho => ?_)
  have hkey : q.id = queueId := beq_iff_eq.mp (Table.mem_of_filter_eq ho).2
  subst hkey
  exact (and_iff_right ho).symm

end QueueRepository

/-! ### Transfers -/

namespace TransferRepository

variable {now : Time} {transferId : Id} {t : Transfer}

theorem returns_readById :
    Returns (readById transferId) db t db' ↔
      db.transfers.filter (fun r => r.id == transferId) = [t] ∧ db = db' := by
  rw [readById, returns_catching, returns_query, one_eq_ok_iff]

/-- The row that `create` inserts. -/
def created (now : Time) (id : Id) (transferData : CreateTransferSchema) : Transfer where
  id := id
  groupId := transferData.groupId
  name := transferData.name.val
  description := varchar 512 transferData.description
  targetConnectionId := transferData.targetConnectionId
  sourceConnectionId := transferData.sourceConnectionId
  sourceParams := transferData.sourceParams
  targetParams := transferData.targetParams
  strategyParams := transferData.strategyParams
  transformations := transferData.transformations
  resources := transferData.resources
  queueId := transferData.queueId
  isScheduled := transferData.isScheduled
  schedule := varchar 32 (transferData.schedule.getD "")
  createdAt := now
  updatedAt := now

/-- The row that `create` inserts fits just when the columns take the body. -/
theorem created_columnsFit {id : Id} {transferData : CreateTransferSchema} :
    (created now id transferData).ColumnsFit ↔ transferData.FitsColumns := by
  constructor
  · intro h
    exact ⟨fits_name_iff.mp h.name, storable_iff_fits.mpr h.description,
      storable_iff_fits.mpr h.schedule, h.sourceParams, h.targetParams, h.transformations⟩
  · intro h
    exact ⟨fits_name_iff.mpr h.name, storable_iff_fits.mp h.description,
      storable_iff_fits.mp h.schedule, h.sourceParams, h.targetParams, h.transformations⟩

/-- And so does the row that `update` leaves. -/
theorem setColumns_columnsFit {old : Transfer} {transferData : CreateTransferSchema} :
    (setColumns now transferData old).ColumnsFit ↔ transferData.FitsColumns := by
  have hcreated : (created now old.id transferData).ColumnsFit ↔ transferData.FitsColumns :=
    created_columnsFit
  rw [← hcreated]
  constructor
  · intro h
    exact ⟨h.name, h.description, h.schedule, h.sourceParams, h.targetParams, h.transformations⟩
  · intro h
    exact ⟨h.name, h.description, h.schedule, h.sourceParams, h.targetParams, h.transformations⟩

theorem returns_create {transferData : CreateTransferSchema} :
    Returns (create now transferData) db t db' ↔
      t = created now (db.sequences .transfer) transferData ∧
        checkedStep db (.insertTransfer t) db' := by
  rw [create, returns_insertNext]
  constructor
  · rintro ⟨rfl, hc, rfl⟩
    exact ⟨rfl, ⟨rfl, hc⟩, rfl⟩
  · rintro ⟨rfl, ⟨_, hc⟩, rfl⟩
    exact ⟨rfl, hc, rfl⟩

theorem returns_update {transferData : CreateTransferSchema} :
    Returns (update now transferId transferData) db t db' ↔
      ∃ old, db.transfers.filter (fun r => r.id == transferId) = [old] ∧
        t = setColumns now transferData old ∧
        checkedStep db (.updateTransfer t) db' := by
  rw [update, returns_catching, Repository.update, returns_catching, returns_updateOne]
  refine exists_congr (fun old => and_congr_right (fun ho => and_congr_right ?_))
  rintro rfl
  rw [← Table.key_of_filter_eq ho]
  rfl

theorem returns_delete :
    Returns (delete transferId) db t db' ↔
      db.transfers.filter (fun r => r.id == transferId) = [t] ∧
        checkedStep db (.deleteTransfer t) db' := by
  rw [delete, returns_catching, Repository.delete, returns_deleteRow]
  refine and_congr_right (fun ho => ?_)
  have hkey : t.id = transferId := beq_iff_eq.mp (Table.mem_of_filter_eq ho).2
  subst hkey
  exact (and_iff_right ho).symm

/-- The row that `copy` inserts. -/
def copied (id newQueueId newGroupId newSourceConnection newTargetConnection : Id)
    (newName : Option String) (origin : Transfer) : Transfer :=
  { origin with
    id := id
    groupId := newGroupId
    sourceConnectionId := newSourceConnection
    targetConnectionId := newTargetConnection
    queueId := newQueueId
    name := newName.getD origin.name }

theorem returns_copy {newQueueId newGroupId newSourceConnection newTargetConnection : Id}
    {newName : Option String} :
    Returns (copy transferId newQueueId newGroupId newSourceConnection newTargetConnection
        newName) db t db' ↔
      ∃ origin, db.transfers.filter (fun r => r.id == transferId) = [origin] ∧
        t = copied (db.sequences .transfer) newQueueId newGroupId newSourceConnection
          newTargetConnection newName origin ∧
        checkedStep db (.insertTransfer t) db' := by
  rw [copy, returns_catching, returns_copyOne]
  refine exists_congr (fun origin => and_congr_right (fun _ => ?_))
  constructor
  · rintro ⟨rfl, hc, rfl⟩
    exact ⟨rfl, ⟨rfl, hc⟩, rfl⟩
  · rintro ⟨rfl, ⟨_, hc⟩, rfl⟩
    exact ⟨rfl, hc, rfl⟩

end TransferRepository

/-! ### Runs -/

namespace RunRepository

variable {now : Time} {runId : Id} {run : Run}

theorem returns_readById :
    Returns (readById runId) db run db' ↔
      db.runs.find? (fun r => r.id == runId) = some run ∧ db = db' := by
  simp only [readById, returns_query]
  cases db.runs.find? (fun r => r.id == runId) with
  | none => simp only [reduceCtorEq, false_and]
  | some r => simp only [Except.ok.injEq, Option.some.injEq]

theorem returns_create {transferId : Id} {sourceCreds targetCreds : AuthValue} {type : RunType}
    (h : Returns (create now transferId sourceCreds targetCreds type) db run db') :
    run.id = db.sequences .run ∧ run.transferId = transferId ∧ run.status = .created ∧
      run.type = type ∧ checkedStep db (.insertRun run) db' := by
  simp only [create, readFullSerializedTransfer, returns_bind, returns_query, one_eq_ok_iff,
    returns_pure, returns_nextval, returns_catching, returns_insertRow] at h
  rcases h with ⟨dump, _, ⟨t, _, ⟨_, rfl⟩, c, _, ⟨_, rfl⟩, d, _, ⟨_, rfl⟩, rfl, rfl⟩, _, _,
    ⟨rfl, rfl⟩, hc, rfl, rfl⟩
  exact ⟨rfl, rfl, rfl, rfl, ⟨rfl, hc⟩, rfl⟩

theorem returns_update {status : Status} :
    Returns (update now runId status) db run db' ↔
      ∃ old, db.runs.filter (fun r => r.id == runId) = [old] ∧
        run = { old with status := status, updatedAt := now } ∧
        checkedStep db (.updateRun run) db' := by
  rw [update, returns_catching, Repository.update, returns_catching, returns_updateOne]
  refine exists_congr (fun old => and_congr_right (fun ho => and_congr_right ?_))
  rintro rfl
  rw [← Table.key_of_filter_eq ho]
  rfl

theorem returns_stop :
    Returns (stop now runId) db run db' ↔
      ∃ loaded, db.runs.find? (fun r => r.id == runId) = some loaded ∧
        loaded.status.canStop = true ∧
        ∃ old, db.runs.filter (fun r => r.id == runId) = [old] ∧
          run = { old with status := .sendStopSignal, updatedAt := now } ∧
          checkedStep db (.updateRun run) db' := by
  simp only [stop, returns_bind, returns_readById, returns_raiseIf, returns_updateOne,
    Bool.not_eq_false]
  constructor
  · rintro ⟨loaded, _, ⟨hl, rfl⟩, _, _, ⟨hs, rfl⟩, old, ho, rfl, hc, rfl⟩
    refine ⟨loaded, hl, hs, old, ho, rfl, ?_⟩
    rw [← Table.key_of_filter_eq ho] at hc ⊢
    exact ⟨hc, rfl⟩
  · rintro ⟨loaded, hl, hs, old, ho, rfl, hc, rfl⟩
    refine ⟨loaded, db, ⟨hl, rfl⟩, (), db, ⟨hs, rfl⟩, old, ho, rfl, ?_⟩
    rw [← Table.key_of_filter_eq ho]
    exact ⟨hc, rfl⟩

end RunRepository

end Operations

end SyncMaster
