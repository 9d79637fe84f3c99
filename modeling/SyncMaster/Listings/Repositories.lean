import SyncMaster.Library.Paging
import SyncMaster.Server.Reads

/-!
# Listings

The `paginate` methods of the repositories, without a search query.

Each of them builds a statement, a selection of rows with an `ORDER BY`, and
runs two queries: the page, with a limit and an offset, and the count. The
groups of a user are the exception. They come from two statements, whose
answers are put together and sliced in memory.

Names are ordered by the collation of the database, which is a parameter here:
where it puts a name. How the database orders rows with the same key is not
said, so each query is answered by a `Sorting` of its own.

## Main definitions

* `paginateResult`: `_paginate_raw_result` and `_paginate_scalar_result`.
* `UserRepository.paginate` and the others: The listings.
* `GroupRepository.paginateForUser`: The groups that a user owns, and those he
  is a member of.
* `readGroup`: The detail view of a group.
* `Visits`: Following `next_page`.
* `Partition`: The pages visited are the listing.

## Theorems

* `paginateByName_eq`: The page that the route for connections reads.
-/

namespace SyncMaster

open Program Paging

variable {Position : Type} [LinearOrder Position]

/-- The page of a statement and its count. -/
def paginateResult {Row Key : Type} [LinearOrder Key] {key : Row → Key} (sorting : Sorting key)
    (stmt : List Row) (page pageSize : Nat) : Pagination Row where
  items := ((sorting.order stmt).drop ((page - 1) * pageSize)).take pageSize
  page := page
  pageSize := pageSize
  total := stmt.length

/-! ## Users -/

namespace UserRepository

def stmt (db : Database) (isSuperuser : Bool) : List User :=
  if isSuperuser then db.users else db.users.filter (fun u => u.isActive)

def paginate {collate : String → Position} (sorting : Sorting (fun u : User => collate u.username))
    (page pageSize : Nat) (isSuperuser : Bool) : Db (Pagination User) :=
  query (fun db => .ok (paginateResult sorting (stmt db isSuperuser) page pageSize))

end UserRepository

/-! ## Groups -/

/-- An item of the list of groups, and the answer of the detail view. -/
structure GroupWithUserRoleSchema where
  data : Group
  role : GroupMemberRole
  deriving DecidableEq, Repr

namespace GroupRepository

def paginateForSuperuser {collate : String → Position}
    (sorting : Sorting (fun g : Group => collate g.name)) (page pageSize : Nat) :
    Db (Pagination GroupWithUserRoleSchema) :=
  query (fun db =>
    let paginatedResult := paginateResult sorting db.groups page pageSize
    .ok {
      items := paginatedResult.items.map (fun group => { data := group, role := .superuser })
      page := page
      pageSize := pageSize
      total := paginatedResult.total })

/-- The groups where the user is the owner. A role that an owner does not
    reach leaves them out. -/
def ownedGroupsStmt (db : Database) (currentUserId : Id) (role : Option GroupMemberRole) :
    List Group :=
  if role.any (fun role => !GroupMemberRole.isAtLeastPrivilegeLevel .owner role) then []
  else db.groups.filter (fun g => g.ownerId == currentUserId)

/-- The memberships of the user, each with its group. -/
def userGroupsStmt (db : Database) (currentUserId : Id) (role : Option GroupMemberRole) :
    List (UserGroup × Group) :=
  let rolesAtLeast := role.map GroupMemberRole.rolesAtLeast
  db.userGroups.flatMap (fun ug =>
    (db.groups.filter (fun g => ug.groupId == g.id && ug.userId == currentUserId &&
      rolesAtLeast.all (fun roles => roles.contains ug.role))).map (fun g => (ug, g)))

def ownedItem (group : Group) : GroupWithUserRoleSchema where
  data := group
  role := .owner

def memberItem (userGroup : UserGroup × Group) : GroupWithUserRoleSchema where
  data := userGroup.2
  role := userGroup.1.role

/-- How the database answers the two statements. -/
structure UserSortings (collate : String → Position) where
  owned : Sorting (fun g : Group => collate g.name)
  members : Sorting (fun m : UserGroup × Group => collate m.2.name)

/-- `owned_groups + user_groups` -/
def combinedGroups {collate : String → Position} (sortings : UserSortings collate) (db : Database)
    (currentUserId : Id) (role : Option GroupMemberRole) : List GroupWithUserRoleSchema :=
  (sortings.owned.order (ownedGroupsStmt db currentUserId role)).map ownedItem ++
    (sortings.members.order (userGroupsStmt db currentUserId role)).map memberItem

def paginateForUser {collate : String → Position} (sortings : UserSortings collate)
    (page pageSize : Nat) (currentUserId : Id) (role : Option GroupMemberRole) :
    Db (Pagination GroupWithUserRoleSchema) :=
  query (fun db =>
    let totalOwnedGroups := (ownedGroupsStmt db currentUserId role).length
    let totalUserGroups := (userGroupsStmt db currentUserId role).length
    let start := (page - 1) * pageSize
    .ok {
      items := ((combinedGroups sortings db currentUserId role).drop start).take pageSize
      page := page
      pageSize := pageSize
      total := totalOwnedGroups + totalUserGroups })

/-- The active members of a group, each with his role. -/
def memberStmt (db : Database) (groupId : Id) : List (User × GroupMemberRole) :=
  db.users.flatMap (fun u =>
    (db.userGroups.filter (fun ug => ug.userId == u.id && u.isActive &&
      ug.groupId == groupId)).map (fun ug => (u, ug.role)))

def getMemberPaginate {collate : String → Position}
    (sorting : Sorting (fun m : User × GroupMemberRole => collate m.1.username))
    (page pageSize : Nat) (groupId : Id) : Db (Pagination (User × GroupMemberRole)) := do
  let group ← readById groupId
  query (fun db => .ok (paginateResult sorting (memberStmt db group.id) page pageSize))

end GroupRepository

/-- `read_group` -/
def readGroup (currentUser : User) (groupId : Id) : Db GroupWithUserRoleSchema := do
  let resourceRole ← GroupRepository.getGroupPermission currentUser groupId
  raiseIf (resourceRole = .none) .groupNotFoundError
  let group ← GroupRepository.readById groupId
  let userRole ← GroupRepository.getMemberRole currentUser groupId
  return { data := group, role := userRole }

/-! ## Connections -/

namespace ConnectionRepository

def stmt (db : Database) (groupId : Id) (connectionType : Option (List ConnectionType)) :
    List Connection :=
  db.connections.filter (fun c =>
    c.groupId == groupId && connectionType.all (fun types => types.contains c.type))

/-- `paginate`, for any page and page size. -/
def paginateByName {collate : String → Position}
    (sorting : Sorting (fun c : Connection => collate c.name)) (page pageSize : Nat) (groupId : Id)
    (connectionType : Option (List ConnectionType)) : Db (Pagination Connection) :=
  query (fun db => .ok (paginateResult sorting (stmt db groupId connectionType) page pageSize))

/-- The page that the route reads when it is not asked to search. -/
theorem paginateByName_eq {collate : String → Position}
    (sorting : Sorting (fun c : Connection => collate c.name)) (found : String → Connection → Bool)
    (params : ReadConnectionsParams) (hsearch : params.searchQuery = none) :
    paginate { found := found, order := fun _ => sorting.order } params =
      paginateByName sorting params.page params.pageSize params.groupId params.type := by
  unfold paginate paginateByName
  have hselect : ∀ db : Database,
      select { found := found, order := fun _ => sorting.order } params db.connections =
        sorting.order (stmt db params.groupId params.type) := by
    intro db
    rw [select, hsearch]
    simp only [Option.filter_none, Option.all_none, Bool.and_true, stmt]
  simp only [hselect, ((sorting.answers _).perm).length_eq, paginateResult]

end ConnectionRepository

/-! ## Transfers -/

/-- The optional parameters of the list of transfers. -/
structure TransferFilter where
  sourceConnectionId : Option Id := none
  targetConnectionId : Option Id := none
  queueId : Option Id := none
  sourceConnectionType : Option (List ConnectionType) := none
  targetConnectionType : Option (List ConnectionType) := none
  isScheduled : Option Bool := none

/-- The driver encodes the identifiers that are given. -/
def TransferFilter.encodable (params : TransferFilter) : Bool :=
  [params.sourceConnectionId, params.targetConnectionId, params.queueId].all
    (fun given => given.all (fun id => decide (InBigint id)))

namespace TransferRepository

/-- A join with the connections: on their primary key, so it selects rows and
    does not multiply them. -/
def joinConnection (db : Database) (connectionId : Id) (types : List ConnectionType) : Bool :=
  db.connections.any (fun c => connectionId == c.id && types.contains c.type)

def stmt (db : Database) (groupId : Id) (params : TransferFilter) : List Transfer :=
  db.transfers.filter (fun t =>
    t.groupId == groupId &&
      params.sourceConnectionId.all (fun id => t.sourceConnectionId == id) &&
      params.targetConnectionId.all (fun id => t.targetConnectionId == id) &&
      params.queueId.all (fun id => t.queueId == id) &&
      params.isScheduled.all (fun b => t.isScheduled == b) &&
      params.sourceConnectionType.all (joinConnection db t.sourceConnectionId) &&
      params.targetConnectionType.all (joinConnection db t.targetConnectionId))

def paginate {collate : String → Position} (sorting : Sorting (fun t : Transfer => collate t.name))
    (page pageSize : Nat) (groupId : Id) (params : TransferFilter) : Db (Pagination Transfer) :=
  query (fun db => .ok (paginateResult sorting (stmt db groupId params) page pageSize))

end TransferRepository

/-! ## Queues -/

namespace QueueRepository

def stmt (db : Database) (groupId : Id) : List Queue :=
  db.queues.filter (fun q => q.groupId == groupId)

def paginate (sorting : Sorting (fun q : Queue => q.id)) (page pageSize : Nat) (groupId : Id) :
    Db (Pagination Queue) :=
  query (fun db => .ok (paginateResult sorting (stmt db groupId) page pageSize))

end QueueRepository

/-! ## Runs -/

/-- The optional parameters of the list of runs. -/
structure RunFilter where
  status : Option (List Status) := none
  startedAtSince : Option Time := none
  startedAtUntil : Option Time := none

/-- The driver encodes the instants that are given. -/
def RunFilter.encodable (params : RunFilter) : Bool :=
  [params.startedAtSince, params.startedAtUntil].all
    (fun given => given.all (fun t => decide (InYears t)))

namespace RunRepository

/-- A run that has not started is in no range of starts. -/
def stmt (db : Database) (transferId : Id) (params : RunFilter) : List Run :=
  db.runs.filter (fun r =>
    r.transferId == transferId &&
      params.status.all (fun statuses => statuses.isEmpty || statuses.contains r.status) &&
      params.startedAtSince.all (fun since => r.startedAt.any (fun t => decide (since ≤ t))) &&
      params.startedAtUntil.all (fun until_ => r.startedAt.any (fun t => decide (t ≤ until_))))

/-- `desc(Run.created_at)` -/
def newestFirst (r : Run) : Time := -r.createdAt

def paginate (sorting : Sorting newestFirst) (page pageSize : Nat) (transferId : Id)
    (params : RunFilter) : Db (Pagination Run) :=
  query (fun db => .ok (paginateResult sorting (stmt db transferId params) page pageSize))

end RunRepository

/-! ## Following `next_page` -/

section Visits

variable {Row : Type}

/-- The pages read from this one on. Nothing changes the database meanwhile. -/
inductive Visits (db : Database) (fetch : Nat → Db (Pagination Row)) :
    Nat → List (Pagination Row) → Prop
  | last {n : Nat} {p : Pagination Row} : Returns (fetch n) db p db → p.nextPage = none →
      Visits db fetch n [p]
  | next {n m : Nat} {p : Pagination Row} {rest : List (Pagination Row)} :
      Returns (fetch n) db p db → p.nextPage = some m → Visits db fetch m rest →
      Visits db fetch n (p :: rest)

/-- The pages show every row once, as many of them as each says there are, and
    each with the number of rows. -/
structure Partition (rows : List Row) (pages : List (Pagination Row)) : Prop where
  once : (pages.flatMap (fun p => p.items)).Perm rows
  numbers : pages.map (fun p => p.page) = List.range' 1 pages.length
  stops : ∀ p ∈ pages, p.pages = pages.length
  total : ∀ p ∈ pages, p.total = rows.length

/-- However each query is answered. -/
def Partitions {Sortings : Type} (db : Database) (rows : List Row)
    (fetch : Sortings → Nat → Db (Pagination Row)) : Prop :=
  ∀ choice : Nat → Sortings,
    ∃ pages, Visits db (fun n => fetch (choice n) n) 1 pages ∧ Partition rows pages

end Visits

end SyncMaster
