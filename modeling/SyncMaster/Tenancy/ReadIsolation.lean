import SyncMaster.Library.TwoRuns
import SyncMaster.Server.ReadRoutes
import SyncMaster.Tenancy.Ownership
import SyncMaster.Tenancy.Roles
import SyncMaster.Transfers.Types

/-!
# What a User Can Read

Reading through the permission checks is reading tables from which everything
hidden has been removed.

`visibleTo` is these tables: the rows of the groups that the user owns or is a
member of. Two databases with the same visible tables cannot be told apart by
any route that reads, whatever they hold otherwise. Each handler asks for a
permission before it reads, and the permission is nothing but the question
whether the group is among the visible ones; what it reads afterwards are rows
of that group. The list of transfers joins the connections, which may be
hidden, but only for their types, and these are the types of the parameters.

`read_run` reads before it asks. It refuses a run that is hidden with another
error than a run that is not there, so that a user can find out which runs
there are. Nothing else of a hidden group can be found out.

## Main definitions

* `Tables.sees`: The user owns the group or is a member of it.
* `Tables.visibleTo`: The rows of the groups that the user sees.
* `SameView`: Two databases with the same visible rows.

## Theorems

* `readsAlike_groupGuard`, `readsAlike_resourceGuard`: The permission checks.
* `answersAlike`: Every route but one answers alike.
* `reads_isolated_iff`: When the routes tell two databases apart.
-/

namespace SyncMaster

open Program Paging

/-- The user owns the group or is a member of it. -/
def Tables.sees (db : Tables) (user : User) (groupId : Id) : Bool :=
  db.groups.any (fun g => g.ownerId == user.id && g.id == groupId) ||
    db.userGroups.any (fun ug => ug.groupId == groupId && ug.userId == user.id)

/-- The rows of the groups that the user sees. The users are everybody's. -/
def Tables.visibleTo (db : Tables) (user : User) : Tables where
  users := db.users
  groups := db.groups.filter (fun g => db.sees user g.id)
  userGroups := db.userGroups.filter (fun ug => db.sees user ug.groupId)
  connections := db.connections.filter (fun c => db.sees user c.groupId)
  authData := db.authData.filter (fun a =>
    db.connections.any (fun c => db.sees user c.groupId && c.id == a.connectionId))
  queues := db.queues.filter (fun q => db.sees user q.groupId)
  transfers := db.transfers.filter (fun t => db.sees user t.groupId)
  runs := db.runs.filter (fun r =>
    db.transfers.any (fun t => db.sees user t.groupId && t.id == r.transferId))

/-- What reading rests on, of one database: references and distinct keys, and
    the types of linked connections. -/
structure WellLinked (db : Database) : Prop where
  consistent : Consistent db
  typed : AllTyped db

/-- The two databases show the user the same rows. -/
structure SameView (user : User) (s t : Database) : Prop where
  left : WellLinked s
  right : WellLinked t
  view : s.visibleTo user = t.visibleTo user

theorem wellLinked_of_reachable {db : Database} (h : Reachable db) : WellLinked db :=
  ⟨reachable_consistent h, reachable_allTyped h⟩

section View

variable {db s t : Database} {user : User} {groupId : Id}

theorem sees_iff : db.sees user groupId = true ↔
    (∃ g ∈ db.groups, g.ownerId = user.id ∧ g.id = groupId) ∨
      ∃ ug ∈ db.userGroups, ug.groupId = groupId ∧ ug.userId = user.id := by
  simp only [Tables.sees, Bool.or_eq_true, List.any_eq_true, Bool.and_eq_true, beq_iff_eq]

theorem sees_owned {g : Group} (hg : g ∈ db.groups) (h : g.ownerId = user.id) :
    db.sees user g.id = true :=
  sees_iff.mpr (Or.inl ⟨g, hg, h, rfl⟩)

theorem sees_member {ug : UserGroup} (hug : ug ∈ db.userGroups) (h : ug.userId = user.id) :
    db.sees user ug.groupId = true :=
  sees_iff.mpr (Or.inr ⟨ug, hug, rfl, h⟩)

/-- Rows that are selected among visible rows are the same in both databases. -/
theorem SameView.filter_eq {Row : Type} (h : SameView user s t) (rows : Tables → List Row)
    {p : Row → Bool} {q : Tables → Row → Bool}
    (hview : ∀ db : Tables, rows (db.visibleTo user) = (rows db).filter (q db))
    (hs : ∀ r ∈ rows s.toTables, p r = true → q s.toTables r = true)
    (ht : ∀ r ∈ rows t.toTables, p r = true → q t.toTables r = true) :
    (rows s.toTables).filter p = (rows t.toTables).filter p := by
  rw [← Table.filter_view hs, ← Table.filter_view ht, ← hview, ← hview, h.view]

theorem SameView.users_eq (h : SameView user s t) : s.users = t.users := by
  have husers : (s.visibleTo user).users = (t.visibleTo user).users := by rw [h.view]
  exact husers

/-- The groups that the user owns. -/
theorem SameView.owned_eq (h : SameView user s t) (p : Group → Bool)
    (hp : ∀ g, p g = true → g.ownerId = user.id) : s.groups.filter p = t.groups.filter p :=
  h.filter_eq (fun db => db.groups) (fun _ => rfl)
    (fun g hg hpg => sees_owned hg (hp g hpg))
    (fun g hg hpg => sees_owned hg (hp g hpg))

/-- The memberships of the user. -/
theorem SameView.member_eq (h : SameView user s t) (p : UserGroup → Bool)
    (hp : ∀ ug, p ug = true → ug.userId = user.id) :
    s.userGroups.filter p = t.userGroups.filter p :=
  h.filter_eq (fun db => db.userGroups) (fun _ => rfl)
    (fun ug hug hpug => sees_member hug (hp ug hpug))
    (fun ug hug hpug => sees_member hug (hp ug hpug))

/-- Both databases give the user the same role in every group. -/
theorem SameView.permissionOf_eq (h : SameView user s t) (rights : GroupMemberRole → Permission)
    (groupId : Id) : permissionOf rights s user groupId = permissionOf rights t user groupId := by
  have howns := Table.any_of_filter_eq (h.owned_eq
    (fun g => g.ownerId == user.id && g.id == groupId) (fun g hg => by
      rw [Bool.and_eq_true, beq_iff_eq] at hg
      exact hg.1))
  have hmember := Table.find_of_filter_eq (h.member_eq
    (GroupRepository.isMembership groupId user.id)
    (fun ug hug => (GroupRepository.isMembership_iff.mp hug).2))
  unfold permissionOf
  rw [howns, hmember]

theorem SameView.sees_eq (h : SameView user s t) (groupId : Id) :
    s.sees user groupId = t.sees user groupId := by
  have howns := Table.any_of_filter_eq (h.owned_eq
    (fun g => g.ownerId == user.id && g.id == groupId) (fun g hg => by
      rw [Bool.and_eq_true, beq_iff_eq] at hg
      exact hg.1))
  have hmember := Table.any_of_filter_eq (h.member_eq
    (fun ug => ug.groupId == groupId && ug.userId == user.id) (fun ug hug => by
      rw [Bool.and_eq_true, beq_iff_eq, beq_iff_eq] at hug
      exact hug.2))
  unfold Tables.sees
  rw [howns, hmember]

end View

/-! ## The permission checks -/

section Guards

variable {α : Type} {db s t : Database} {user : User} {groupId : Id}
  {rights : GroupMemberRole → Permission}

/-- A group that the user sees is there. -/
theorem exists_group_of_sees (hdb : Consistent db) (h : db.sees user groupId = true) :
    ∃ g ∈ db.groups, g.id = groupId := by
  rcases sees_iff.mp h with ⟨g, hg, _, hid⟩ | ⟨ug, hug, hgid, _⟩
  · exact ⟨g, hg, hid⟩
  · rcases hdb.groupLinks.memberGroup ug hug with ⟨g, hg, hid⟩
    exact ⟨g, hg, hid.trans hgid⟩

theorem permissionOf_hidden (hsuper : user.isSuperuser = false)
    (h : db.sees user groupId = false) : permissionOf rights db user groupId = .none := by
  rw [Tables.sees, Bool.or_eq_false_iff] at h
  have hmember : db.userGroups.find? (GroupRepository.isMembership groupId user.id) = none := by
    rw [List.find?_eq_none]
    exact List.any_eq_false.mp h.2
  unfold permissionOf
  rw [hsuper, if_neg Bool.false_ne_true, if_neg (Bool.eq_false_iff.mp h.1), hmember]

/-- A group that the user does not see is refused as one that is not there. -/
theorem raises_groupGuard (hsuper : user.isSuperuser = false) (h : db.sees user groupId = false)
    (k : Permission → Db α) :
    Raises (do
      let p ← query (fun db : Database => groupPermission rights db user groupId)
      raiseIf (p = .none) .groupNotFoundError
      k p) db .groupNotFoundError db := by
  by_cases hgroup : ∃ g ∈ db.groups, g.id = groupId
  · refine raises_bind.mpr (Or.inr ⟨.none, db, returns_query.mpr ⟨?_, rfl⟩, ?_⟩)
    · rw [groupPermission_eq hgroup, permissionOf_hidden hsuper h]
    · exact raises_bind.mpr (Or.inl (raises_query.mpr ⟨if_pos rfl, rfl⟩))
  · refine raises_bind.mpr (Or.inl (raises_query.mpr ⟨?_, rfl⟩))
    have hnone : db.groups.any (fun g => g.id == groupId) = false := by
      rw [List.any_eq_false]
      intro g hg hid
      exact hgroup ⟨g, hg, beq_iff_eq.mp hid⟩
    unfold groupPermission
    rw [hnone, Bool.not_false, if_pos rfl]

/-- The check on a group lets the same pass. -/
theorem readsAlike_groupGuard (h : SameView user s t) (hsuper : user.isSuperuser = false)
    {k : Permission → Db α} (hk : s.sees user groupId = true → ∀ p, ReadsAlike (k p) s t) :
    ReadsAlike (do
      let p ← query (fun db : Database => groupPermission rights db user groupId)
      raiseIf (p = .none) .groupNotFoundError
      k p) s t := by
  cases hsees : s.sees user groupId with
  | true =>
      have hseen : t.sees user groupId = true := by rw [← h.sees_eq, hsees]
      refine readsAlike_bind (readsAlike_query ?_) (fun p _ =>
        readsAlike_bind (readsAlike_raiseIf _ _) (fun _ _ => hk hsees p))
      rw [groupPermission_eq (exists_group_of_sees h.left.consistent hsees),
        groupPermission_eq (exists_group_of_sees h.right.consistent hseen), h.permissionOf_eq]
  | false =>
      have hhidden : t.sees user groupId = false := by rw [← h.sees_eq, hsees]
      exact Or.inr ⟨_, raises_groupGuard hsuper hsees k, raises_groupGuard hsuper hhidden k⟩

variable {Row : Type} {model : Model Row} {resource : Row → ResourceMixin} {resourceId : Id}

/-- The check on a row is a check on its group, if there is the row. -/
theorem resourcePermission_cases (rights : GroupMemberRole → Permission) (user : User)
    (hrows : Table.Distinct (fun r => (resource r).id) (model.rows db)) (resourceId : Id) :
    (∃ row ∈ model.rows db, (resource row).id = resourceId ∧
        resourcePermission rights model resource db user resourceId =
          permissionOf rights db user (resource row).groupId) ∨
      (∀ row ∈ model.rows db, (resource row).id ≠ resourceId) ∧
        resourcePermission rights model resource db user resourceId = .none := by
  by_cases hrow : ∃ row ∈ model.rows db, (resource row).id = resourceId
  · rcases hrow with ⟨row, hmem, rfl⟩
    exact Or.inl ⟨row, hmem, rfl, resourcePermission_eq hrows hmem⟩
  · refine Or.inr ⟨fun row hmem hid => hrow ⟨row, hmem, hid⟩, ?_⟩
    have hnone : (model.rows db).any (fun r => (resource r).id == resourceId) = false := by
      rw [List.any_eq_false]
      intro row hmem hid
      exact hrow ⟨row, hmem, beq_iff_eq.mp hid⟩
    unfold resourcePermission
    simp only [hnone, Bool.not_false, if_true]

/-- The rows of a table that the user sees. -/
structure SameRows (user : User) (s t : Database) (model : Model Row)
    (resource : Row → ResourceMixin) : Prop where
  left : Table.Distinct (fun r => (resource r).id) (model.rows s)
  right : Table.Distinct (fun r => (resource r).id) (model.rows t)
  view : (model.rows s).filter (fun r => s.sees user (resource r).groupId) =
    (model.rows t).filter (fun r => t.sees user (resource r).groupId)

theorem SameRows.symm (hrows : SameRows user s t model resource) :
    SameRows user t s model resource :=
  ⟨hrows.right, hrows.left, hrows.view.symm⟩

/-- A row of one database that the user sees is one of the other. -/
theorem SameRows.mem (hrows : SameRows user s t model resource) {row : Row}
    (hrow : row ∈ model.rows s) (hsees : s.sees user (resource row).groupId = true) :
    row ∈ model.rows t := by
  have hmem : row ∈ (model.rows s).filter (fun r => s.sees user (resource r).groupId) :=
    List.mem_filter.mpr ⟨hrow, hsees⟩
  rw [hrows.view] at hmem
  exact (List.mem_filter.mp hmem).1

theorem SameView.symm (h : SameView user s t) : SameView user t s :=
  ⟨h.right, h.left, h.view.symm⟩

/-- A row that the check lets pass is a row of both databases. -/
theorem SameRows.of_permission (h : SameView user s t) (hsuper : user.isSuperuser = false)
    (hrows : SameRows user s t model resource)
    (hp : resourcePermission rights model resource s user resourceId ≠ .none) :
    ∃ row ∈ model.rows s, row ∈ model.rows t ∧ (resource row).id = resourceId ∧
      s.sees user (resource row).groupId = true ∧
      resourcePermission rights model resource t user resourceId =
        resourcePermission rights model resource s user resourceId := by
  rcases resourcePermission_cases rights user hrows.left resourceId with
    ⟨row, hrow, rfl, hrole⟩ | ⟨_, hnone⟩
  · have hsees : s.sees user (resource row).groupId = true := by
      by_contra hhidden
      rw [hrole] at hp
      exact hp (permissionOf_hidden hsuper (Bool.eq_false_iff.mpr hhidden))
    have hmem := hrows.mem hrow hsees
    refine ⟨row, hrow, hmem, rfl, hsees, ?_⟩
    rw [hrole, resourcePermission_eq hrows.right hmem, h.permissionOf_eq]
  · exact absurd hnone hp

/-- The check on a row says the same in both databases. -/
theorem SameRows.permission_eq (h : SameView user s t) (hsuper : user.isSuperuser = false)
    (hrows : SameRows user s t model resource) (resourceId : Id) :
    resourcePermission rights model resource s user resourceId =
      resourcePermission rights model resource t user resourceId := by
  by_cases hs : resourcePermission rights model resource s user resourceId = .none
  · by_contra hne
    -- The other database shows the row, so this one does.
    have ht : resourcePermission rights model resource t user resourceId ≠ .none := by
      intro hnone
      exact hne (hs.trans hnone.symm)
    rcases hrows.symm.of_permission h.symm hsuper ht with ⟨_, _, _, _, _, heq⟩
    exact hne heq
  · rcases hrows.of_permission h hsuper hs with ⟨_, _, _, _, _, heq⟩
    exact heq.symm

/-- The check on a row lets the same row pass. -/
theorem readsAlike_resourceGuard (h : SameView user s t) (hsuper : user.isSuperuser = false)
    (hrows : SameRows user s t model resource) {e : Error} {k : Permission → Db α}
    (hk : ∀ row ∈ model.rows s, row ∈ model.rows t → (resource row).id = resourceId →
      s.sees user (resource row).groupId = true → ∀ p, ReadsAlike (k p) s t) :
    ReadsAlike (do
      let p ← query (fun db : Database =>
        .ok (resourcePermission rights model resource db user resourceId))
      raiseIf (p = .none) e
      k p) s t := by
  refine readsAlike_bind (readsAlike_query ?_) (fun p hp =>
    readsAlike_bind (readsAlike_raiseIf _ _) (fun _ hpassed => ?_))
  · rw [hrows.permission_eq h hsuper]
  · have hvalue := (returns_query.mp hp).1
    rw [Except.ok.injEq] at hvalue
    have hne := (returns_raiseIf.mp hpassed).1
    rw [← hvalue] at hne
    rcases hrows.of_permission h hsuper hne with ⟨row, hs, ht, hid, hsees, _⟩
    exact hk row hs ht hid hsees p

/-- Reading a row that both databases have. -/
theorem readsAlike_one (rows : Database → List Row) {key : Row → Id} {id : Id} {row : Row}
    (hs : Table.Distinct key (rows s)) (ht : Table.Distinct key (rows t))
    (hrow : row ∈ rows s) (hrow' : row ∈ rows t) (hid : key row = id) :
    ReadsAlike (query (fun db : Database => one ((rows db).filter (fun r => key r == id))))
      s t := by
  refine readsAlike_query ?_
  rw [Table.filter_key_eq key hs hrow hid, Table.filter_key_eq key ht hrow' hid]

end Guards

/-! ## The rows that are read -/

section Rows

variable {db s t : Database} {user : User} {groupId : Id}

theorem SameView.connections (h : SameView user s t) :
    SameRows user s t Connection.model (·.toResourceMixin) where
  left := h.left.consistent.keys.connections
  right := h.right.consistent.keys.connections
  view := congrArg Tables.connections h.view

theorem SameView.queues (h : SameView user s t) :
    SameRows user s t Queue.model (·.toResourceMixin) where
  left := h.left.consistent.keys.queues
  right := h.right.consistent.keys.queues
  view := congrArg Tables.queues h.view

theorem SameView.transfers (h : SameView user s t) :
    SameRows user s t Transfer.model (·.toResourceMixin) where
  left := h.left.consistent.keys.transfers
  right := h.right.consistent.keys.transfers
  view := congrArg Tables.transfers h.view

/-- What is selected among the rows of a group that the user sees. -/
theorem SameRows.filter_eq {Row : Type} {model : Model Row} {resource : Row → ResourceMixin}
    (h : SameView user s t) (hrows : SameRows user s t model resource)
    (hsees : s.sees user groupId = true) {p : Row → Bool}
    (hp : ∀ r, p r = true → (resource r).groupId = groupId) :
    (model.rows s).filter p = (model.rows t).filter p := by
  have hs : ∀ r ∈ model.rows s, p r = true → s.sees user (resource r).groupId = true := by
    intro r _ hr
    rw [hp r hr]
    exact hsees
  have ht : ∀ r ∈ model.rows t, p r = true → t.sees user (resource r).groupId = true := by
    intro r _ hr
    rw [hp r hr, ← h.sees_eq]
    exact hsees
  rw [← Table.filter_view hs, ← Table.filter_view ht, hrows.view]

theorem SameView.group_mem (h : SameView user s t) {g : Group} (hg : g ∈ s.groups)
    (hsees : s.sees user g.id = true) : g ∈ t.groups := by
  have hmem : g ∈ (s.visibleTo user).groups := List.mem_filter.mpr ⟨hg, hsees⟩
  rw [h.view] at hmem
  exact (List.mem_filter.mp hmem).1

/-- The credentials of connections that the user sees. -/
theorem SameView.authData_eq (h : SameView user s t) {p : AuthData → Bool}
    (hp : ∀ a, p a = true →
      ∃ c ∈ s.connections, s.sees user c.groupId = true ∧ c.id = a.connectionId) :
    s.authData.filter p = t.authData.filter p := by
  refine h.filter_eq (fun db => db.authData) (fun _ => rfl) (fun a _ ha => ?_)
    (fun a _ ha => ?_)
  · rcases hp a ha with ⟨c, hc, hsees, hid⟩
    exact List.any_eq_true.mpr ⟨c, hc, by rw [hsees, hid, beq_self_eq_true, Bool.and_self]⟩
  · rcases hp a ha with ⟨c, hc, hsees, hid⟩
    refine List.any_eq_true.mpr ⟨c, h.connections.mem hc hsees, ?_⟩
    rw [← h.sees_eq, hsees, hid, beq_self_eq_true, Bool.and_self]

/-- The runs of transfers that the user sees. -/
theorem SameView.runs_eq (h : SameView user s t) {p : Run → Bool}
    (hp : ∀ r, p r = true →
      ∃ u ∈ s.transfers, s.sees user u.groupId = true ∧ u.id = r.transferId) :
    s.runs.filter p = t.runs.filter p := by
  refine h.filter_eq (fun db => db.runs) (fun _ => rfl) (fun r _ hr => ?_)
    (fun r _ hr => ?_)
  · rcases hp r hr with ⟨u, hu, hsees, hid⟩
    exact List.any_eq_true.mpr ⟨u, hu, by rw [hsees, hid, beq_self_eq_true, Bool.and_self]⟩
  · rcases hp r hr with ⟨u, hu, hsees, hid⟩
    refine List.any_eq_true.mpr ⟨u, h.transfers.mem hu hsees, ?_⟩
    rw [← h.sees_eq, hsees, hid, beq_self_eq_true, Bool.and_self]

/-! ### The groups of the user and their members -/

theorem SameView.ownedGroupsStmt_eq (h : SameView user s t) (role : Option GroupMemberRole) :
    GroupRepository.ownedGroupsStmt s user.id role =
      GroupRepository.ownedGroupsStmt t user.id role := by
  unfold GroupRepository.ownedGroupsStmt
  rw [h.owned_eq (fun g => g.ownerId == user.id) (fun g hg => beq_iff_eq.mp hg)]

theorem SameView.userGroupsStmt_eq (h : SameView user s t) (role : Option GroupMemberRole) :
    GroupRepository.userGroupsStmt s user.id role =
      GroupRepository.userGroupsStmt t user.id role := by
  have hothers : ∀ (db : Database) (ug : UserGroup), (ug.userId == user.id) = false →
      (db.groups.filter (fun g => ug.groupId == g.id && ug.userId == user.id &&
        (role.map GroupMemberRole.rolesAtLeast).all (fun roles => roles.contains ug.role))).map
          (fun g => (ug, g)) = [] := by
    intro db ug hug
    simp only [hug, Bool.and_false, Bool.false_and, List.filter_false, List.map_nil]
  unfold GroupRepository.userGroupsStmt
  dsimp only
  rw [← Table.flatMap_view (p := fun ug => ug.userId == user.id) (fun ug _ hug => hothers s ug hug),
    ← Table.flatMap_view (p := fun ug => ug.userId == user.id) (fun ug _ hug => hothers t ug hug),
    h.member_eq _ (fun ug hug => beq_iff_eq.mp hug)]
  refine List.flatMap_congr (fun ug hug => ?_)
  have hmine : ug.userId = user.id := beq_iff_eq.mp (List.mem_filter.mp hug).2
  have hseen : t.sees user ug.groupId = true := sees_member (List.mem_filter.mp hug).1 hmine
  rw [h.filter_eq (fun db => db.groups) (fun _ => rfl) (fun g _ hg => ?_) (fun g _ hg => ?_)]
  · rw [Bool.and_eq_true, Bool.and_eq_true, beq_iff_eq] at hg
    rw [h.sees_eq, ← hg.1.1]
    exact hseen
  · rw [Bool.and_eq_true, Bool.and_eq_true, beq_iff_eq] at hg
    rw [← hg.1.1]
    exact hseen

theorem SameView.memberStmt_eq (h : SameView user s t) (hsees : s.sees user groupId = true) :
    GroupRepository.memberStmt s groupId = GroupRepository.memberStmt t groupId := by
  unfold GroupRepository.memberStmt
  rw [h.users_eq]
  refine List.flatMap_congr (fun u _ => ?_)
  rw [h.filter_eq (fun db => db.userGroups) (fun _ => rfl) (fun ug _ hug => ?_)
    (fun ug _ hug => ?_)]
  · rw [Bool.and_eq_true, beq_iff_eq] at hug
    rw [hug.2]
    exact hsees
  · rw [Bool.and_eq_true, beq_iff_eq] at hug
    rw [hug.2, ← h.sees_eq]
    exact hsees

/-! ### Transfers by the types of their connections -/

/-- The join of a transfer with a connection is on the type of its parameters. -/
theorem joinConnection_eq (hkeys : Keys db) {id : Id} {type : ConnectionType}
    (hlinked : ∃ c ∈ db.connections, c.id = id ∧ c.type = type) (types : List ConnectionType) :
    TransferRepository.joinConnection db id types = types.contains type := by
  rcases hlinked with ⟨c, hc, rfl, rfl⟩
  rw [Bool.eq_iff_iff]
  simp only [TransferRepository.joinConnection, List.any_eq_true, Bool.and_eq_true, beq_iff_eq]
  constructor
  · intro h
    rcases h with ⟨d, hd, hid, htypes⟩
    rw [Table.eq_of_key_eq (fun c : Connection => c.id) hkeys.connections hc hd hid]
    exact htypes
  · intro htypes
    exact ⟨c, hc, rfl, htypes⟩

/-- The list of transfers, by the types of their parameters. -/
def typedStmt (db : Database) (groupId : Id) (params : TransferFilter) : List Transfer :=
  db.transfers.filter (fun t =>
    t.groupId == groupId &&
      params.sourceConnectionId.all (fun id => t.sourceConnectionId == id) &&
      params.targetConnectionId.all (fun id => t.targetConnectionId == id) &&
      params.queueId.all (fun id => t.queueId == id) &&
      params.isScheduled.all (fun b => t.isScheduled == b) &&
      params.sourceConnectionType.all (fun types => types.contains t.sourceParams.type) &&
      params.targetConnectionType.all (fun types => types.contains t.targetParams.type))

theorem stmt_eq_typedStmt (hdb : WellLinked db) (groupId : Id) (params : TransferFilter) :
    TransferRepository.stmt db groupId params = typedStmt db groupId params := by
  have hkeys := hdb.consistent.keys
  refine List.filter_congr (fun t ht => ?_)
  have hsource : TransferRepository.joinConnection db t.sourceConnectionId =
      fun types => types.contains t.sourceParams.type := by
    funext types
    exact joinConnection_eq hkeys (hdb.typed t ht).source types
  have htarget : TransferRepository.joinConnection db t.targetConnectionId =
      fun types => types.contains t.targetParams.type := by
    funext types
    exact joinConnection_eq hkeys (hdb.typed t ht).target types
  rw [hsource, htarget]

theorem SameView.transferStmt_eq (h : SameView user s t) (hsees : s.sees user groupId = true)
    (params : TransferFilter) :
    TransferRepository.stmt s groupId params = TransferRepository.stmt t groupId params := by
  rw [stmt_eq_typedStmt h.left, stmt_eq_typedStmt h.right]
  refine h.transfers.filter_eq h hsees (fun t ht => ?_)
  simp only [Bool.and_eq_true, beq_iff_eq] at ht
  exact ht.1.1.1.1.1.1

end Rows

/-! ## The routes -/

section Routes

variable {Tsquery Tsvector Rank Position : Type} [LinearOrder Position]
  {text : FullText Tsquery Tsvector Rank} {collate : String → Position} {s t : Database}
  {user : User}

/-- What the driver encodes does not depend on the database. -/
theorem readsAlike_withValues {α : Type} {encodable : Bool} {statement : Db α}
    (h : ReadsAlike statement s t) : ReadsAlike (withValues encodable statement) s t :=
  readsAlike_bind (readsAlike_raiseIf _ _) (fun _ _ => h)

/-- An identifier that is not encoded is refused by both databases. -/
theorem readsAlike_withId_iff {α : Type} {id : Id} {statement : Db α} :
    ReadsAlike (withId id statement) s t ↔ (InBigint id → ReadsAlike statement s t) := by
  unfold withId
  by_cases hid : InBigint id
  · rw [decide_eq_true hid, withValues_true, imp_iff_right hid]
  · rw [decide_eq_false hid]
    refine iff_of_true (Or.inr ⟨.dataError, ?_, ?_⟩) (fun h => absurd h hid)
    · exact raises_bind.mpr (Or.inl (raises_query.mpr ⟨if_pos rfl, rfl⟩))
    · exact raises_bind.mpr (Or.inl (raises_query.mpr ⟨if_pos rfl, rfl⟩))

theorem readsAlike_users (h : SameView user s t) (isSuperuser : Bool)
    (sorting : Sorting (fun u : User => collate u.username)) (page pageSize : Nat)
    (searchQuery : Option String) :
    ReadsAlike (UserRepository.paginateSearch text sorting page pageSize isSuperuser searchQuery)
      s t := by
  refine readsAlike_query ?_
  unfold UserRepository.searchStmt UserRepository.stmt
  rw [h.users_eq]

variable [LinearOrder Rank]

theorem readsAlike_readUser (h : SameView user s t) (userId : Id) :
    ReadsAlike (readUser userId) s t := by
  refine readsAlike_bind (readsAlike_query ?_) (fun _ _ => readsAlike_pure _)
  rw [h.users_eq]

theorem readsAlike_readGroups (h : SameView user s t) (hsuper : user.isSuperuser = false)
    (answering : Answering text collate) (params : PageParams) (role searchQuery : Option String) :
    ReadsAlike (readGroups answering user params role searchQuery) s t := by
  unfold readGroups
  rw [if_neg (by rw [hsuper]; exact Bool.false_ne_true)]
  refine readsAlike_bind (readsAlike_query rfl) (fun role _ => ?_)
  refine readsAlike_bind (readsAlike_mapError (readsAlike_withValues (readsAlike_query ?_)))
    (fun _ _ => readsAlike_pure _)
  unfold GroupRepository.combinedSearch GroupRepository.ownedSearchStmt
    GroupRepository.membersSearchStmt
  rw [h.ownedGroupsStmt_eq, h.userGroupsStmt_eq]

/-- The row of a group that the user sees. -/
theorem readsAlike_groupById (h : SameView user s t) {groupId : Id}
    (hsees : s.sees user groupId = true) :
    ReadsAlike (GroupRepository.readById groupId) s t := by
  rcases exists_group_of_sees h.left.consistent hsees with ⟨g, hg, rfl⟩
  exact readsAlike_catching (readsAlike_one (fun db => db.groups)
    h.left.consistent.keys.groups h.right.consistent.keys.groups hg (h.group_mem hg hsees) rfl)

theorem readsAlike_readGroup (h : SameView user s t) (hsuper : user.isSuperuser = false)
    (groupId : Id) : ReadsAlike (readGroup user groupId) s t := by
  unfold readGroup GroupRepository.getGroupPermission
  refine readsAlike_groupGuard h hsuper (fun hsees _ => ?_)
  refine readsAlike_bind (readsAlike_groupById h hsees) (fun _ _ => ?_)
  refine readsAlike_bind (readsAlike_query ?_) (fun _ _ => readsAlike_pure _)
  rw [Table.find_of_filter_eq (h.member_eq (GroupRepository.isMembership groupId user.id)
    (fun ug hug => (GroupRepository.isMembership_iff.mp hug).2))]

theorem readsAlike_readGroupUsers (h : SameView user s t) (hsuper : user.isSuperuser = false)
    (sorting : Sorting (fun m : User × GroupMemberRole => collate m.1.username)) (groupId : Id)
    (params : PageParams) : ReadsAlike (readGroupUsers sorting user groupId params) s t := by
  unfold readGroupUsers GroupRepository.getGroupPermission
  refine readsAlike_groupGuard h hsuper (fun hsees _ => ?_)
  refine readsAlike_bind (readsAlike_withValues ?_) (fun _ _ => readsAlike_pure _)
  refine readsAlike_bind (readsAlike_groupById h hsees) (fun g hg => readsAlike_query ?_)
  have hrow := GroupRepository.returns_readById.mp hg
  have hid : g.id = groupId := Table.key_of_filter_eq hrow.1
  rw [hid, h.memberStmt_eq hsees]

/-- The connections of a page are rows of the group. -/
theorem mem_items {sorting : SearchSorting text text.connectionVector
      (fun c : Connection => collate c.name)} {db : Database} {searchQuery : Option String}
    {groupId : Id} {types : Option (List ConnectionType)} {page pageSize : Nat} {c : Connection}
    (hc : c ∈ (paginateSearch sorting searchQuery (ConnectionRepository.stmt db groupId types)
      page pageSize).items) : c ∈ db.connections ∧ c.groupId = groupId := by
  have hmem := List.mem_of_mem_drop (List.mem_of_mem_take hc)
  have hstmt := (mem_constructVectorSearch.mp ((order_perm sorting searchQuery).subset hmem)).1
  simp only [ConnectionRepository.stmt, List.mem_filter, Bool.and_eq_true, beq_iff_eq] at hstmt
  exact ⟨hstmt.1, hstmt.2.1⟩

theorem readsAlike_readConnections (h : SameView user s t) (hsuper : user.isSuperuser = false)
    (sorting : SearchSorting text text.connectionVector (fun c : Connection => collate c.name))
    (params : ReadConnectionsParams) :
    ReadsAlike (readConnections sorting.listing user params) s t := by
  unfold readConnections ConnectionRepository.getGroupPermission
  rw [paginateSearch_eq]
  refine readsAlike_groupGuard h hsuper (fun hsees _ => ?_)
  have hstmt : ConnectionRepository.stmt s params.groupId params.type =
      ConnectionRepository.stmt t params.groupId params.type := by
    refine h.connections.filter_eq h hsees (fun c hc => ?_)
    rw [Bool.and_eq_true, beq_iff_eq] at hc
    exact hc.1
  refine readsAlike_bind (readsAlike_withValues (readsAlike_query ?_)) (fun pagination hpage => ?_)
  · rw [hstmt]
  refine readsAlike_bind (readsAlike_query ?_) (fun _ _ => readsAlike_pure _)
  -- The credentials that are read are those of the connections of the page.
  have hitems := Except.ok.inj (returns_query.mp (returns_withValues.mp hpage).2).1
  rw [h.authData_eq (fun a ha => ?_)]
  rw [List.contains_eq_mem, decide_eq_true_eq, List.mem_map] at ha
  rcases ha with ⟨c, hc, hid⟩
  rw [← hitems] at hc
  rcases mem_items hc with ⟨hmem, hgroup⟩
  exact ⟨c, hmem, by rw [hgroup]; exact hsees, hid⟩

theorem readsAlike_readConnection (h : SameView user s t) (hsuper : user.isSuperuser = false)
    (connectionId : Id) : ReadsAlike (readConnection user connectionId) s t := by
  unfold readConnection ConnectionRepository.getResourcePermission
  refine readsAlike_resourceGuard h hsuper h.connections (fun row hs ht hid hsees _ => ?_)
  refine readsAlike_bind (readsAlike_catching (readsAlike_one (fun db => db.connections)
    h.connections.left h.connections.right hs ht hid)) (fun c hc => ?_)
  refine readsAlike_bind (readsAlike_recovering ?_) (fun _ _ => readsAlike_pure _)
  refine readsAlike_bind ?_ (fun _ _ => readsAlike_pure _)
  refine readsAlike_bind (readsAlike_catching (readsAlike_query ?_)) (fun _ _ => readsAlike_pure _)
  have hrow := (ConnectionRepository.returns_readById.mp hc).1
  have hone : c = row := by
    have hrows : s.connections.filter (fun c => c.id == connectionId) = [row] :=
      Table.filter_key_eq (fun c : Connection => c.id) h.connections.left hs hid
    exact (List.singleton_inj.mp (hrows.symm.trans hrow)).symm
  rw [h.authData_eq (fun a ha => ⟨row, hs, hsees, ?_⟩)]
  rw [hone] at ha
  exact (beq_iff_eq.mp ha).symm

theorem readsAlike_readQueues (h : SameView user s t) (hsuper : user.isSuperuser = false)
    (sorting : SearchSorting text text.queueVector (fun q : Queue => q.id)) (groupId : Id)
    (params : PageParams) (searchQuery : Option String) :
    ReadsAlike (readQueues sorting user groupId params searchQuery) s t := by
  unfold readQueues QueueRepository.getGroupPermission
  refine readsAlike_groupGuard h hsuper (fun hsees _ => ?_)
  refine readsAlike_bind (readsAlike_withValues (readsAlike_query ?_))
    (fun _ _ => readsAlike_pure _)
  have hstmt : QueueRepository.stmt s groupId = QueueRepository.stmt t groupId :=
    h.queues.filter_eq h hsees (fun q hq => beq_iff_eq.mp hq)
  rw [hstmt]

theorem readsAlike_readQueue (h : SameView user s t) (hsuper : user.isSuperuser = false)
    (queueId : Id) : ReadsAlike (readQueue user queueId) s t := by
  unfold readQueue QueueRepository.getResourcePermission
  refine readsAlike_resourceGuard h hsuper h.queues (fun row hs ht hid _ _ => ?_)
  exact readsAlike_catching (readsAlike_one (fun db => db.queues)
    h.queues.left h.queues.right hs ht hid)

theorem readsAlike_readTransfers (h : SameView user s t) (hsuper : user.isSuperuser = false)
    (sorting : SearchSorting text text.transferVector (fun t : Transfer => collate t.name))
    (groupId : Id) (params : PageParams) (searchQuery : Option String) (filter : TransferFilter) :
    ReadsAlike (readTransfers sorting user groupId params searchQuery filter) s t := by
  unfold readTransfers TransferRepository.getGroupPermission
  refine readsAlike_groupGuard h hsuper (fun hsees _ => ?_)
  refine readsAlike_bind (readsAlike_withValues (readsAlike_query ?_))
    (fun _ _ => readsAlike_pure _)
  rw [h.transferStmt_eq hsees]

theorem readsAlike_readTransfer (h : SameView user s t) (hsuper : user.isSuperuser = false)
    (transferId : Id) : ReadsAlike (readTransfer user transferId) s t := by
  unfold readTransfer TransferRepository.getResourcePermission
  refine readsAlike_resourceGuard h hsuper h.transfers (fun row hs ht hid _ _ => ?_)
  exact readsAlike_catching (readsAlike_one (fun db => db.transfers)
    h.transfers.left h.transfers.right hs ht hid)

theorem readsAlike_readRuns (h : SameView user s t) (hsuper : user.isSuperuser = false)
    (sorting : Sorting RunRepository.newestFirst) (transferId : Id) (params : PageParams)
    (filter : RunFilter) : ReadsAlike (readRuns sorting user transferId params filter) s t := by
  unfold readRuns TransferRepository.getResourcePermission
  refine readsAlike_resourceGuard h hsuper h.transfers (fun row hs _ hid hsees _ => ?_)
  refine readsAlike_bind (readsAlike_withValues (readsAlike_query ?_))
    (fun _ _ => readsAlike_pure _)
  have hstmt : RunRepository.stmt s transferId filter = RunRepository.stmt t transferId filter := by
    refine h.runs_eq (fun r hr => ⟨row, hs, hsees, hid.trans ?_⟩)
    simp only [Bool.and_eq_true, beq_iff_eq] at hr
    exact hr.1.1.1.symm
  rw [hstmt]

/-! ### The run that is read first -/

/-- There is a run of this identifier, hidden or not. -/
def HasRun (db : Database) (runId : Id) : Prop :=
  ∃ r ∈ db.runs, r.id = runId

theorem find_run {db : Database} (hkeys : Keys db) {r : Run} (hr : r ∈ db.runs) :
    db.runs.find? (fun r' => r'.id == r.id) = some r :=
  (Table.find_eq_some_iff (fun r : Run => r.id) hkeys.runs).mpr ⟨hr, rfl⟩

/-- A run of a transfer that the user does not see. -/
theorem raises_readRun_hidden {db : Database} (hdb : Consistent db) {r : Run} (hr : r ∈ db.runs)
    (hhidden : resourcePermission memberRights Transfer.model (·.toResourceMixin) db user
      r.transferId = .none) : Raises (readRun user r.id) db .transferNotFoundError db := by
  refine raises_bind.mpr (Or.inr ⟨r, db, ?_, ?_⟩)
  · exact RunRepository.returns_readById.mpr ⟨find_run hdb.keys hr, rfl⟩
  · refine raises_bind.mpr (Or.inr ⟨.none, db, returns_query.mpr ⟨?_, rfl⟩, ?_⟩)
    · rw [hhidden]
    · exact raises_bind.mpr (Or.inl (raises_query.mpr ⟨if_pos rfl, rfl⟩))

theorem raises_readRun_missing {db : Database} {runId : Id} (h : ¬ HasRun db runId) :
    Raises (readRun user runId) db .runNotFoundError db := by
  refine raises_bind.mpr (Or.inl (raises_query.mpr ⟨?_, rfl⟩))
  have hnone : db.runs.find? (fun r => r.id == runId) = none := by
    rw [List.find?_eq_none]
    intro r hr hid
    exact h ⟨r, hr, beq_iff_eq.mp hid⟩
  rw [hnone]

/-- A run of a transfer that the user sees is in both databases. -/
theorem SameView.run_mem (h : SameView user s t) {r : Run} (hr : r ∈ s.runs) {u : Transfer}
    (hu : u ∈ s.transfers) (hid : u.id = r.transferId) (hsees : s.sees user u.groupId = true) :
    r ∈ t.runs := by
  have hmem : r ∈ (s.visibleTo user).runs := by
    refine List.mem_filter.mpr ⟨hr, List.any_eq_true.mpr ⟨u, hu, ?_⟩⟩
    rw [hsees, hid, beq_self_eq_true, Bool.and_self]
  rw [h.view] at hmem
  exact (List.mem_filter.mp hmem).1

/-- A run that is in both databases, seen or not. -/
theorem readsAlike_readRun_of_mem (h : SameView user s t) (hsuper : user.isSuperuser = false)
    {r : Run} (hr : r ∈ s.runs) (hr' : r ∈ t.runs) : ReadsAlike (readRun user r.id) s t := by
  have hread : ReadsAlike (RunRepository.readById r.id) s t := by
    refine readsAlike_query ?_
    rw [find_run h.left.consistent.keys hr, find_run h.right.consistent.keys hr']
  refine readsAlike_bind hread (fun _ _ => ?_)
  exact readsAlike_resourceGuard h hsuper h.transfers (fun _ _ _ _ _ _ => readsAlike_pure _)

/-- Reading a run of both databases. If one of them shows it, it is the same run; if
    neither does, both refuse it as they refuse a hidden transfer. -/
theorem readsAlike_readRun_of_hasRun (h : SameView user s t) (hsuper : user.isSuperuser = false)
    {runId : Id} (hs : HasRun s runId) (ht : HasRun t runId) :
    ReadsAlike (readRun user runId) s t := by
  rcases hs with ⟨r, hr, rfl⟩
  rcases ht with ⟨r', hr', hid⟩
  by_cases hseen : resourcePermission memberRights Transfer.model (·.toResourceMixin) s user
      r.transferId = .none
  · by_cases hseen' : resourcePermission memberRights Transfer.model (·.toResourceMixin) t user
        r'.transferId = .none
    · refine Or.inr ⟨_, raises_readRun_hidden h.left.consistent hr hseen, ?_⟩
      rw [← hid]
      exact raises_readRun_hidden h.right.consistent hr' hseen'
    · rcases h.symm.transfers.of_permission h.symm hsuper hseen' with ⟨u, hu, _, huid, hsees, _⟩
      have hboth := h.symm.run_mem hr' hu huid hsees
      rw [← hid]
      exact readsAlike_readRun_of_mem h hsuper hboth hr'
  · rcases h.transfers.of_permission h hsuper hseen with ⟨u, hu, _, huid, hsees, _⟩
    exact readsAlike_readRun_of_mem h hsuper hr (h.run_mem hr hu huid hsees)

/-- A run of one database only that the user does not see. -/
theorem not_readsAlike_readRun (h : SameView user s t) (hsuper : user.isSuperuser = false)
    {runId : Id} (hs : HasRun s runId) (ht : ¬ HasRun t runId) :
    ¬ ReadsAlike (readRun user runId) s t := by
  rcases hs with ⟨r, hr, rfl⟩
  have hhidden : resourcePermission memberRights Transfer.model (·.toResourceMixin) s user
      r.transferId = .none := by
    by_contra hseen
    rcases h.transfers.of_permission h hsuper hseen with ⟨u, hu, _, huid, hsees, _⟩
    exact ht ⟨r, h.run_mem hr hu huid hsees, rfl⟩
  refine not_readsAlike_of_raises (raises_readRun_hidden h.left.consistent hr hhidden)
    (raises_readRun_missing ht) ?_
  exact fun hne => by cases hne

/-- `read_run` tells two databases apart by the runs that are there. -/
theorem readsAlike_readRun_iff (h : SameView user s t) (hsuper : user.isSuperuser = false)
    (runId : Id) : ReadsAlike (readRun user runId) s t ↔ (HasRun s runId ↔ HasRun t runId) := by
  by_cases hs : HasRun s runId
  · by_cases ht : HasRun t runId
    · exact ⟨fun _ => ⟨fun _ => ht, fun _ => hs⟩,
        fun _ => readsAlike_readRun_of_hasRun h hsuper hs ht⟩
    · exact ⟨fun halike => absurd halike (not_readsAlike_readRun h hsuper hs ht),
        fun hiff => absurd (hiff.mp hs) ht⟩
  · by_cases ht : HasRun t runId
    · exact ⟨fun halike => absurd (readsAlike_symm halike)
          (not_readsAlike_readRun h.symm hsuper ht hs),
        fun hiff => absurd (hiff.mpr ht) hs⟩
    · exact ⟨fun _ => ⟨fun hrun => absurd hrun hs, fun hrun => absurd hrun ht⟩,
        fun _ => Or.inr ⟨_, raises_readRun_missing hs, raises_readRun_missing ht⟩⟩

/-! ### Every route -/

/-- All routes but `read_run`. -/
theorem answersAlike (h : SameView user s t) (hsuper : user.isSuperuser = false)
    (answering : Answering text collate) (route : ReadRoute) (hrun : ∀ runId, route ≠ .run runId) :
    ReadsAlike (route.answer answering user) s t := by
  cases route with
  | users params searchQuery =>
      refine readsAlike_bind (readsAlike_mapError ?_) (fun _ _ => readsAlike_pure _)
      exact readsAlike_bind (readsAlike_withValues (readsAlike_users h _ _ _ _ _))
        (fun _ _ => readsAlike_pure _)
  | currentUser => exact readsAlike_pure _
  | user userId =>
      exact readsAlike_bind (readsAlike_mapError
        (readsAlike_withValues (readsAlike_readUser h userId)))
        (fun _ _ => readsAlike_pure _)
  | groups params role searchQuery =>
      exact readsAlike_bind (readsAlike_readGroups h hsuper answering params role searchQuery)
        (fun _ _ => readsAlike_pure _)
  | group groupId =>
      exact readsAlike_bind (readsAlike_mapError
        (readsAlike_withValues (readsAlike_readGroup h hsuper groupId)))
        (fun _ _ => readsAlike_pure _)
  | groupUsers groupId params =>
      exact readsAlike_bind (readsAlike_mapError (readsAlike_withValues
        (readsAlike_readGroupUsers h hsuper answering.members groupId params)))
        (fun _ _ => readsAlike_pure _)
  | connections params =>
      exact readsAlike_bind (readsAlike_mapError (readsAlike_withValues
        (readsAlike_readConnections h hsuper answering.connections params)))
        (fun _ _ => readsAlike_pure _)
  | connectionTypes => exact readsAlike_pure _
  | connection connectionId =>
      exact readsAlike_bind (readsAlike_mapError
        (readsAlike_withValues (readsAlike_readConnection h hsuper connectionId)))
        (fun _ _ => readsAlike_pure _)
  | queues groupId params searchQuery =>
      exact readsAlike_bind (readsAlike_mapError (readsAlike_withValues
        (readsAlike_readQueues h hsuper answering.queues groupId params searchQuery)))
        (fun _ _ => readsAlike_pure _)
  | queue queueId =>
      exact readsAlike_bind (readsAlike_mapError
        (readsAlike_withValues (readsAlike_readQueue h hsuper queueId)))
        (fun _ _ => readsAlike_pure _)
  | transfers groupId params searchQuery filter =>
      exact readsAlike_bind (readsAlike_mapError (readsAlike_withValues
        (readsAlike_readTransfers h hsuper answering.transfers groupId params searchQuery filter)))
        (fun _ _ => readsAlike_pure _)
  | transfer transferId =>
      exact readsAlike_bind (readsAlike_mapError
        (readsAlike_withValues (readsAlike_readTransfer h hsuper transferId)))
        (fun _ _ => readsAlike_pure _)
  | runs transferId params filter =>
      exact readsAlike_bind (readsAlike_mapError (readsAlike_withValues
        (readsAlike_readRuns h hsuper answering.runs transferId params filter)))
        (fun _ _ => readsAlike_pure _)
  | run runId => exact absurd rfl (hrun runId)

/-- Two databases with the same users, in which the user sees the same, are told apart by
    no route of the API, the login aside, unless he names a run that only one of them has. -/
theorem reads_isolated_iff (hs : Reachable s) (ht : Reachable t)
    (hsuper : user.isSuperuser = false) (hview : s.visibleTo user = t.visibleTo user)
    (answering : Answering text collate) (route : ReadRoute) :
    ReadsAlike (route.answer answering user) s t ↔
      ∀ runId, route = .run runId → InBigint runId → (HasRun s runId ↔ HasRun t runId) := by
  have h : SameView user s t :=
    ⟨wellLinked_of_reachable hs, wellLinked_of_reachable ht, hview⟩
  by_cases hrun : ∃ runId, route = .run runId
  · rcases hrun with ⟨runId, rfl⟩
    constructor
    · intro halike runId' heq hid
      cases heq
      refine (readsAlike_readRun_iff h hsuper runId).mp (readsAlike_withId_iff.mp ?_ hid)
      exact readsAlike_of_mapError (fun _ _ heq => Failure.error.inj heq)
        (readsAlike_of_bind_pure (fun _ _ heq => ReadAnswer.run.inj heq) halike)
    · intro hboth
      have halike : ReadsAlike (withId runId (readRun user runId)) s t :=
        readsAlike_withId_iff.mpr
          (fun hid => (readsAlike_readRun_iff h hsuper runId).mpr (hboth runId rfl hid))
      exact readsAlike_bind (readsAlike_mapError halike) (fun _ _ => readsAlike_pure _)
  · have hother : ∀ runId, route ≠ .run runId := fun runId heq => hrun ⟨runId, heq⟩
    exact ⟨fun _ runId heq => absurd heq (hother runId),
      fun _ => answersAlike h hsuper answering route hother⟩

/-- A database that sorts stably. -/
def Answering.stable (text : FullText Tsquery Tsvector Rank) (collate : String → Position) :
    Answering text collate where
  users := .stable _
  groups := { plain := .stable _, ranked := fun _ => .stable _ }
  userGroups := {
    plain := { owned := .stable _, members := .stable _ }
    owned := fun _ => .stable _
    members := fun _ => .stable _ }
  members := .stable _
  connections := { plain := .stable _, ranked := fun _ => .stable _ }
  queues := { plain := .stable _, ranked := fun _ => .stable _ }
  transfers := { plain := .stable _, ranked := fun _ => .stable _ }
  runs := .stable _

/-! ## Two databases that a member cannot tell apart -/

/-- A user who is a member of the first group only. -/
def sampleMember : User where
  id := 2
  username := "developer"
  isSuperuser := false
  isActive := true

/-- A second group, and a connection in the first. -/
def developerEvents : List Event :=
  memberEvents ++ [
    .request 3 .returned 1 (.createGroup { name := (sampleConnection 1).name, description := "" }),
    .request 4 .returned 1 (.createConnection (sampleConnection 1))]

/-- The same, and then a connection in the second group. -/
def hiddenEvents : List Event :=
  developerEvents ++ [.request 5 .returned 1 (.createConnection (sampleConnection 2))]

/-- The connection of the second group, asked for by a member of the first. -/
theorem reads_isolated_hiddenEvents :
    ReadsAlike ((ReadRoute.connection 2).answer
        (Answering.stable substringSearch (fun name : String => name)) sampleMember)
      (developerEvents.foldl Database.step Database.empty)
      (hiddenEvents.foldl Database.step Database.empty) :=
  (reads_isolated_iff (reachable_foldl developerEvents) (reachable_foldl hiddenEvents) rfl
    (by with_unfolding_all rfl) _ _).mpr (fun _ hroute => by cases hroute)

end Routes

end SyncMaster
