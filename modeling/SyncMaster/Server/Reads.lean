import SyncMaster.Server.Endpoints

/-!
# Reading Connections

The routes that answer with connections: one of them, or a page of those of a
group.

A connection that was copied has no credentials. `read_connection` catches the
error that reading them raises, and the page leaves them out, so in both places
the answer has `auth_data` null.

Which rows a full text search finds, and the order in which the database
returns rows, are its own: `Listing` is what the service asks it for.

## Main definitions

* `Listing`: The search and the order of the database.
* `Pagination`: A page of rows, with its meta data.
* `encodablePage`: What the driver is given besides identifiers.
* `ConnectionRepository.paginate`, `CredentialsRepository.readBulk`: What the
  page is read from.
* `readConnection`, `readConnections`: The routes.
-/

namespace SyncMaster

open Program

/-- What the database does with a list of connections: `search_vector @@ query`
    and `ORDER BY`, by rank and name or by name alone. -/
structure Listing where
  found : String → Connection → Bool
  order : Option String → List Connection → List Connection

/-- `Pagination`. -/
structure Pagination (Row : Type) where
  items : List Row
  page : Nat
  pageSize : Nat
  total : Nat

namespace Pagination

variable {Row : Type}

def hasPrevious (p : Pagination Row) : Bool := decide (1 < p.page)

def previousPage (p : Pagination Row) : Option Nat :=
  if p.hasPrevious then some (p.page - 1) else none

def hasNext (p : Pagination Row) : Bool :=
  decide ((p.page - 1) * p.pageSize + p.items.length < p.total)

def nextPage (p : Pagination Row) : Option Nat :=
  if p.hasNext then some (p.page + 1) else none

/-- `math.ceil(total / page_size) or 1`. -/
def pages (p : Pagination Row) : Nat :=
  max 1 ((p.total + p.pageSize - 1) / p.pageSize)

end Pagination

structure MetaPageSchema where
  page : Nat
  pages : Nat
  total : Nat
  pageSize : Nat
  hasNext : Bool
  hasPrevious : Bool
  nextPage : Option Nat
  previousPage : Option Nat
  deriving DecidableEq, Repr

structure ConnectionPageSchema where
  metaPage : MetaPageSchema
  items : List ReadConnectionSchema

/-- The query parameters of the list, after validation. -/
structure ReadConnectionsParams where
  groupId : Id
  page : { n : Nat // 0 < n } := ⟨1, by decide⟩
  pageSize : { n : Nat // 0 < n ∧ n ≤ 50 } := ⟨20, by decide⟩
  type : Option (List ConnectionType) := none
  searchQuery : Option String := none

/-- The driver encodes where the page starts, and the text that is searched. -/
def encodablePage (page pageSize : Nat) (searchQuery : Option String) : Bool :=
  decide (InBigint ((page - 1) * pageSize : Nat)) && searchQuery.all (fun s => decide (NulFree s))

/-- The rows of the list that the query selects, in their order. -/
def ConnectionRepository.select (listing : Listing) (params : ReadConnectionsParams)
    (connections : List Connection) : List Connection :=
  let searchQuery := params.searchQuery.filter (fun s => s != "")
  listing.order searchQuery (connections.filter (fun c =>
    c.groupId == params.groupId &&
      searchQuery.all (fun s => listing.found s c) &&
      params.type.all (fun types => types.contains c.type)))

def ConnectionRepository.paginate (listing : Listing) (params : ReadConnectionsParams) :
    Db (Pagination Connection) :=
  query (fun db =>
    let rows := ConnectionRepository.select listing params db.connections
    .ok {
      items := (rows.drop ((params.page.val - 1) * params.pageSize.val)).take params.pageSize.val
      page := params.page.val
      pageSize := params.pageSize.val
      total := rows.length })

/-- `read_bulk`: the credentials by connection. -/
def CredentialsRepository.readBulk (connectionIds : List Id) : Db (List (Id × AuthValue)) :=
  query (fun db => .ok ((db.authData.filter (fun a => connectionIds.contains a.connectionId)).map
    (fun a => (a.connectionId, a.value))))

/-- `except AuthDataNotFoundError: credentials = None`. -/
def noCredentials : Error → Option (Option AuthValue)
  | .authDataNotFoundError _ => some none
  | _ => none

def readConnection (currentUser : User) (connectionId : Id) : Db ReadConnectionSchema := do
  let resourceRole ← ConnectionRepository.getResourcePermission currentUser connectionId
  raiseIf (resourceRole = .none) .connectionNotFoundError
  let connection ← ConnectionRepository.readById connectionId
  let credentials ← recovering noCredentials (do
    let credentials ← CredentialsRepository.read connection.id
    return some credentials)
  return readConnectionSchema connection credentials

def readConnections (listing : Listing) (currentUser : User) (params : ReadConnectionsParams) :
    Db ConnectionPageSchema := do
  let resourceRole ← ConnectionRepository.getGroupPermission currentUser params.groupId
  raiseIf (resourceRole = .none) .groupNotFoundError
  let pagination ← withValues
    (encodablePage params.page.val params.pageSize.val params.searchQuery)
    (ConnectionRepository.paginate listing params)
  let credentials ← CredentialsRepository.readBulk (pagination.items.map (fun c => c.id))
  return {
    metaPage := {
      page := pagination.page
      pages := pagination.pages
      total := pagination.total
      pageSize := pagination.pageSize
      hasNext := pagination.hasNext
      hasPrevious := pagination.hasPrevious
      nextPage := pagination.nextPage
      previousPage := pagination.previousPage }
    items := pagination.items.map (fun c => readConnectionSchema c (credentials.lookup c.id)) }

end SyncMaster
