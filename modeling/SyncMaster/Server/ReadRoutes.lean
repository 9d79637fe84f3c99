import SyncMaster.Listings.SearchPages
import SyncMaster.Server.TransferBodies

/-!
# Routes that Read

The `GET` routes of the API, in the order of the source.

All of them are of one of three kinds. A list asks for the permission on a
group, or on a transfer, and pages through its rows. A detail view asks for the
permission on a row and reads it. The lists of users and of the groups of the
caller ask for no permission, because what they show depends on the caller.

`read_run` is out of line: it reads the run first and asks for the permission on
its transfer afterwards, so a run that is not there and a run that may not be
seen are refused in different ways.

The first statement of a route with an identifier is given that identifier, so
the driver has to encode it before anything else happens. The statement of a list
is given the start of the page, the search query and the filters, behind the check
of the permission.

The filter of the list of groups is a string. One that names no role ends in a
`ValueError` of the enumeration, unless the caller is a superuser, for whom the
filter is not looked at.

Transfers and queues are answered as their rows, as in `Response`.

## Main definitions

* `PageParams`, `PageSchema`: The query parameters and the answer of a list.
* `Answering`: How the database answers the queries that have an order.
* `ReadRoute`, `ReadAnswer`: The routes with their parameters; the answers.
* `readUsers`, `readGroups`, `readGroupUsers`, `readTransfers` and the others: The
  handlers.
* `ReadRoute.answer`: The routes.

## Theorems

* `paginateSearch_eq`: The page of connections is the one that is searched.
-/

namespace SyncMaster

open Program Paging

/-! ## Parameters and answers -/

/-- `page` and `page_size`. -/
structure PageParams where
  page : { n : Nat // 0 < n } := ⟨1, Nat.one_pos⟩
  pageSize : { n : Nat // 0 < n ∧ n ≤ 50 } := ⟨20, by decide⟩

def PageParams.encodable (params : PageParams) (searchQuery : Option String) : Bool :=
  encodablePage params.page.val params.pageSize.val searchQuery

structure PageSchema (Item : Type) where
  metaPage : MetaPageSchema
  items : List Item

/-- `PageSchema.from_pagination`, with the schema of an item. -/
def PageSchema.fromPagination {Row Item : Type} (schema : Row → Item)
    (pagination : Pagination Row) : PageSchema Item where
  metaPage := {
    page := pagination.page
    pages := pagination.pages
    total := pagination.total
    pageSize := pagination.pageSize
    hasNext := pagination.hasNext
    hasPrevious := pagination.hasPrevious
    nextPage := pagination.nextPage
    previousPage := pagination.previousPage }
  items := pagination.items.map schema

structure ReadUserSchema where
  id : Id
  username : String
  isSuperuser : Bool
  deriving DecidableEq, Repr

def readUserSchema (user : User) : ReadUserSchema where
  id := user.id
  username := user.username
  isSuperuser := user.isSuperuser

structure ReadGroupMember where
  id : Id
  username : String
  role : GroupMemberRole
  deriving DecidableEq, Repr

/-- An item of `UserPageSchemaAsGroupMember`. -/
def readGroupMember (member : User × GroupMemberRole) : ReadGroupMember where
  id := member.1.id
  username := member.1.username
  role := member.2

structure ShortRunSchema where
  transferId : Id
  id : Id
  startedAt : Option Time
  endedAt : Option Time
  status : Status
  logUrl : Option String
  type : RunType
  deriving DecidableEq, Repr

def shortRunSchema (run : Run) : ShortRunSchema where
  transferId := run.transferId
  id := run.id
  startedAt := run.startedAt
  endedAt := run.endedAt
  status := run.status
  logUrl := run.logUrl
  type := run.type

structure ReadRunSchema extends ShortRunSchema where
  transferDump : TransferDump

def readRunSchema (run : Run) : ReadRunSchema :=
  { shortRunSchema run with transferDump := run.transferDump }

/-- `CONNECTION_TYPES` -/
def ConnectionType.all : List ConnectionType := [
  .clickhouse, .hive, .iceberg, .mssql, .mysql, .oracle, .postgres,
  .ftp, .ftps, .hdfs, .s3, .samba, .sftp, .webdav]

/-- `GroupMemberRole(value)`. Nothing handles the `ValueError` of another value. -/
def GroupMemberRole.ofValue : String → Except Failure GroupMemberRole
  | "Maintainer" => .ok .maintainer
  | "Developer" => .ok .developer
  | "Owner" => .ok .owner
  | "Guest" => .ok .guest
  | "Superuser" => .ok .superuser
  | _ => .error (.exception .other)

/-- The routes that read, with their parameters. -/
inductive ReadRoute where
  | users (params : PageParams) (searchQuery : Option String)
  | currentUser
  | user (userId : Id)
  | groups (params : PageParams) (role searchQuery : Option String)
  | group (groupId : Id)
  | groupUsers (groupId : Id) (params : PageParams)
  | connections (params : ReadConnectionsParams)
  | connectionTypes
  | connection (connectionId : Id)
  | queues (groupId : Id) (params : PageParams) (searchQuery : Option String)
  | queue (queueId : Id)
  | transfers (groupId : Id) (params : PageParams) (searchQuery : Option String)
      (filter : TransferFilter)
  | transfer (transferId : Id)
  | runs (transferId : Id) (params : PageParams) (filter : RunFilter)
  | run (runId : Id)

inductive ReadAnswer where
  | users (page : PageSchema ReadUserSchema)
  | user (body : ReadUserSchema)
  | groups (page : PageSchema GroupWithUserRoleSchema)
  | group (body : GroupWithUserRoleSchema)
  | groupUsers (page : PageSchema ReadGroupMember)
  | connections (page : ConnectionPageSchema)
  | connectionTypes (types : List ConnectionType)
  | connection (body : ReadConnectionSchema)
  | queues (page : PageSchema Queue)
  | queue (body : Queue)
  | transfers (page : PageSchema Transfer)
  | transfer (body : Transfer)
  | runs (page : PageSchema ShortRunSchema)
  | run (body : ReadRunSchema)

/-! ## The handlers -/

section Routes

variable {Tsquery Tsvector Rank Position : Type} [LinearOrder Rank] [LinearOrder Position]

/-- The answers to the statements with an `ORDER BY`. -/
structure Answering (text : FullText Tsquery Tsvector Rank) (collate : String → Position) where
  users : Sorting (fun u : User => collate u.username)
  groups : SearchSorting text text.groupVector (fun g : Group => collate g.name)
  userGroups : GroupRepository.UserSearchSortings text collate
  members : Sorting (fun m : User × GroupMemberRole => collate m.1.username)
  connections : SearchSorting text text.connectionVector (fun c : Connection => collate c.name)
  queues : SearchSorting text text.queueVector (fun q : Queue => q.id)
  transfers : SearchSorting text text.transferVector (fun t : Transfer => collate t.name)
  runs : Sorting RunRepository.newestFirst

variable {text : FullText Tsquery Tsvector Rank} {collate : String → Position}

/-- What the page of connections asks the database for. -/
def SearchSorting.listing (sorting : SearchSorting text text.connectionVector
    (fun c : Connection => collate c.name)) : Listing where
  found := fun s c => text.found (text.connectionVector c) (text.makeTsquery s)
  order := fun searchQuery rows => match searchQuery with
    | none => sorting.plain.order rows
    | some s => (sorting.ranked (text.makeTsquery s)).order rows

/-- The page that the route for connections reads. -/
theorem paginateSearch_eq (sorting : SearchSorting text text.connectionVector
    (fun c : Connection => collate c.name)) (params : ReadConnectionsParams) :
    ConnectionRepository.paginate sorting.listing params =
      ConnectionRepository.paginateSearch sorting params.page params.pageSize params.groupId
        params.searchQuery params.type := by
  have hselect : ∀ db : Database,
      ConnectionRepository.select sorting.listing params db.connections =
        sorting.order params.searchQuery (constructVectorSearch text text.connectionVector
          params.searchQuery (ConnectionRepository.stmt db params.groupId params.type)) := by
    intro db
    unfold ConnectionRepository.select SearchSorting.order constructVectorSearch searchTerm
    cases params.searchQuery.filter (fun s => s != "") with
    | none => simp only [SearchSorting.listing, Option.all_none, Bool.and_true,
        ConnectionRepository.stmt]
    | some s =>
        -- The search is one more condition on the rows.
        simp only [SearchSorting.listing, Option.all_some, ConnectionRepository.stmt,
          List.filter_filter]
        congr 1
        refine List.filter_congr (fun c _ => ?_)
        rw [Bool.and_comm (c.groupId == params.groupId), Bool.and_assoc]
  unfold ConnectionRepository.paginate ConnectionRepository.paginateSearch
  simp only [hselect, (order_perm sorting params.searchQuery).length_eq, paginateSearch]

/-- `get_users` -/
def readUsers (text : FullText Tsquery Tsvector Rank)
    (sorting : Sorting (fun u : User => collate u.username)) (currentUser : User)
    (params : PageParams) (searchQuery : Option String) : Db (PageSchema ReadUserSchema) := do
  let pagination ← withValues (params.encodable searchQuery)
    (UserRepository.paginateSearch text sorting params.page params.pageSize
      currentUser.isSuperuser searchQuery)
  return PageSchema.fromPagination readUserSchema pagination

def readUser (userId : Id) : Db ReadUserSchema := do
  let user ← UserRepository.readById userId
  return readUserSchema user

/-- `if role`, and the role it names. -/
def roleFilter (role : Option String) : Except Failure (Option GroupMemberRole) :=
  match role.filter (fun s => s != "") with
  | none => .ok none
  | some value => do
      let role ← GroupMemberRole.ofValue value
      return some role

def readGroups (answering : Answering text collate) (currentUser : User) (params : PageParams)
    (role searchQuery : Option String) :
    Program Database Failure (PageSchema GroupWithUserRoleSchema) :=
  if currentUser.isSuperuser then do
    let pagination ← mapError .error (withValues (params.encodable searchQuery)
      (GroupRepository.paginateSearchForSuperuser answering.groups params.page params.pageSize
        searchQuery))
    return PageSchema.fromPagination id pagination
  else do
    let role ← query (fun _ => roleFilter role)
    let pagination ← mapError .error (withValues (params.encodable searchQuery)
      (GroupRepository.paginateSearchForUser answering.userGroups params.page params.pageSize
        currentUser.id role searchQuery))
    return PageSchema.fromPagination id pagination

def readGroupUsers (sorting : Sorting (fun m : User × GroupMemberRole => collate m.1.username))
    (currentUser : User) (groupId : Id) (params : PageParams) :
    Db (PageSchema ReadGroupMember) := do
  let resourceRole ← GroupRepository.getGroupPermission currentUser groupId
  raiseIf (resourceRole = .none) .groupNotFoundError
  let pagination ← withValues (params.encodable none)
    (GroupRepository.getMemberPaginate sorting params.page params.pageSize groupId)
  return PageSchema.fromPagination readGroupMember pagination

def readQueues (sorting : SearchSorting text text.queueVector (fun q : Queue => q.id))
    (currentUser : User) (groupId : Id) (params : PageParams) (searchQuery : Option String) :
    Db (PageSchema Queue) := do
  let resourceRole ← QueueRepository.getGroupPermission currentUser groupId
  raiseIf (resourceRole = .none) .groupNotFoundError
  let pagination ← withValues (params.encodable searchQuery)
    (QueueRepository.paginateSearch sorting params.page params.pageSize groupId searchQuery)
  return PageSchema.fromPagination id pagination

def readQueue (currentUser : User) (queueId : Id) : Db Queue := do
  let resourceRole ← QueueRepository.getResourcePermission currentUser queueId
  raiseIf (resourceRole = .none) .queueNotFoundError
  QueueRepository.readById queueId

def readTransfers (sorting : SearchSorting text text.transferVector
      (fun t : Transfer => collate t.name)) (currentUser : User) (groupId : Id)
    (params : PageParams) (searchQuery : Option String) (filter : TransferFilter) :
    Db (PageSchema Transfer) := do
  let resourceRole ← TransferRepository.getGroupPermission currentUser groupId
  raiseIf (resourceRole = .none) .groupNotFoundError
  let pagination ← withValues (params.encodable searchQuery && filter.encodable)
    (TransferRepository.paginateSearch sorting params.page params.pageSize groupId searchQuery
      filter)
  return PageSchema.fromPagination id pagination

def readTransfer (currentUser : User) (transferId : Id) : Db Transfer := do
  let resourceRole ← TransferRepository.getResourcePermission currentUser transferId
  raiseIf (resourceRole = .none) .transferNotFoundError
  TransferRepository.readById transferId

def readRuns (sorting : Sorting RunRepository.newestFirst) (currentUser : User) (transferId : Id)
    (params : PageParams) (filter : RunFilter) : Db (PageSchema ShortRunSchema) := do
  let resourceRule ← TransferRepository.getResourcePermission currentUser transferId
  raiseIf (resourceRule = .none) .transferNotFoundError
  let pagination ← withValues (params.encodable none && filter.encodable)
    (RunRepository.paginate sorting params.page params.pageSize transferId filter)
  return PageSchema.fromPagination shortRunSchema pagination

/-- The run is read before the permission is asked for. -/
def readRun (currentUser : User) (runId : Id) : Db ReadRunSchema := do
  let run ← RunRepository.readById runId
  let resourceRole ← TransferRepository.getResourcePermission currentUser run.transferId
  raiseIf (resourceRole = .none) .transferNotFoundError
  return readRunSchema run

/-! ## The routes -/

/-- A route of the current user, as `get_user` found him. -/
def ReadRoute.answer (answering : Answering text collate) (currentUser : User) :
    ReadRoute → Program Database Failure ReadAnswer
  | .users params searchQuery => do
      let page ← mapError .error (readUsers text answering.users currentUser params searchQuery)
      return .users page
  | .currentUser => return .user (readUserSchema currentUser)
  | .user userId => do
      let body ← mapError .error (withId userId (readUser userId))
      return .user body
  | .groups params role searchQuery => do
      let page ← readGroups answering currentUser params role searchQuery
      return .groups page
  | .group groupId => do
      let body ← mapError .error (withId groupId (readGroup currentUser groupId))
      return .group body
  | .groupUsers groupId params => do
      let page ← mapError .error
        (withId groupId (readGroupUsers answering.members currentUser groupId params))
      return .groupUsers page
  | .connections params => do
      let page ← mapError .error
        (withId params.groupId
          (readConnections answering.connections.listing currentUser params))
      return .connections page
  | .connectionTypes => return .connectionTypes ConnectionType.all
  | .connection connectionId => do
      let body ← mapError .error
        (withId connectionId (readConnection currentUser connectionId))
      return .connection body
  | .queues groupId params searchQuery => do
      let page ← mapError .error
        (withId groupId (readQueues answering.queues currentUser groupId params searchQuery))
      return .queues page
  | .queue queueId => do
      let body ← mapError .error (withId queueId (readQueue currentUser queueId))
      return .queue body
  | .transfers groupId params searchQuery filter => do
      let page ← mapError .error
        (withId groupId
          (readTransfers answering.transfers currentUser groupId params searchQuery filter))
      return .transfers page
  | .transfer transferId => do
      let body ← mapError .error (withId transferId (readTransfer currentUser transferId))
      return .transfer body
  | .runs transferId params filter => do
      let page ← mapError .error
        (withId transferId (readRuns answering.runs currentUser transferId params filter))
      return .runs page
  | .run runId => do
      let body ← mapError .error (withId runId (readRun currentUser runId))
      return .run body

/-- A `GET` request of the user that the access token names. -/
def ReadRoute.get (answering : Answering text collate) (userId : Id) (route : ReadRoute) :
    Program Database Failure ReadAnswer := do
  let currentUser ← mapError .error (getUser userId)
  route.answer answering currentUser

end Routes

end SyncMaster
