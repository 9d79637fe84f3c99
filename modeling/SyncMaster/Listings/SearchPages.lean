import SyncMaster.Listings.Pages
import SyncMaster.Listings.Search
import Mathlib.Order.OrderDual
import Mathlib.Data.Prod.Lex

/-!
# Pages of Search Results

The listings that take a search query. The statement of the listing is narrowed
to the rows whose `search_vector` matches, and the rows are ordered by their
rank before the order that the listing has anyway. The groups of a user are
ordered by name first, since there the rank is added behind an order that the
statement has already. Users are not ranked: the query is compared with their
names.

What the database makes of a query and of a row is its own: `FullText` is what
the service asks it for. Two rows may well have the same rank. What makes the
pages add up is the second half of the order, the names and the identifiers
that no two rows of a listing share.

## Main definitions

* `FullText`, `makeTsquery`: The text search of the database.
* `constructVectorSearch`, `SearchSorting`: The narrowed statement, and how it is
  answered.
* `UserRepository.paginateSearch` and the others: The listings.
* `ListSearch`: The listings with their parameters.
* `BestFirst`: The pages show the rows in the order of their ranks.

## Theorems

* `searchPages_of_injOn`: The order of a listing with a key of its own.
* `searched_bestFirst`: The pages of every listing are the rows that are found,
  in order.
-/

namespace SyncMaster

open Program Paging

/-! ## The text search of the database -/

/-- `to_tsquery` and `plainto_tsquery` with their configurations, `||`, `@@`,
    `ts_rank`, the `search_vector` columns and `%`. -/
structure FullText (Tsquery Tsvector Rank : Type) where
  toTsquery : String → String → Tsquery
  plaintoTsquery : String → String → Tsquery
  concat : Tsquery → Tsquery → Tsquery
  found : Tsvector → Tsquery → Bool
  tsRank : Tsvector → Tsquery → Rank
  groupVector : Group → Tsvector
  connectionVector : Connection → Tsvector
  transferVector : Transfer → Tsvector
  queueVector : Queue → Tsvector
  similar : String → String → Bool

/-- A search query that is worth a search: `if search_query`. -/
def searchTerm (searchQuery : Option String) : Option String :=
  searchQuery.filter (fun s => s != "")

section Search

variable {Tsquery Tsvector Rank Position Row Key : Type} [LinearOrder Rank] [LinearOrder Position]
  [LinearOrder Key] {text : FullText Tsquery Tsvector Rank} {vector : Row → Tsvector}
  {key : Row → Key}

/-- `make_tsquery` -/
def FullText.makeTsquery (text : FullText Tsquery Tsvector Rank) (userInput : String) : Tsquery :=
  text.concat (text.toTsquery "simple" (buildTsquery userInput))
    (text.plaintoTsquery "russian" userInput)

/-- The `WHERE` of `_construct_vector_search`. -/
def constructVectorSearch (text : FullText Tsquery Tsvector Rank) (vector : Row → Tsvector)
    (searchQuery : Option String) (stmt : List Row) : List Row :=
  match searchTerm searchQuery with
  | none => stmt
  | some userInput => stmt.filter (fun r => text.found (vector r) (text.makeTsquery userInput))

/-- `ORDER BY ts_rank(...) DESC`, then the order of the listing. -/
def rankedKey (text : FullText Tsquery Tsvector Rank) (vector : Row → Tsvector) (key : Row → Key)
    (tsQuery : Tsquery) (r : Row) : Rankᵒᵈ ×ₗ Key :=
  toLex (OrderDual.toDual (text.tsRank (vector r) tsQuery), key r)

/-- How the database answers a listing, without a search and with one. -/
structure SearchSorting (text : FullText Tsquery Tsvector Rank) (vector : Row → Tsvector)
    (key : Row → Key) where
  plain : Sorting key
  ranked : ∀ tsQuery, Sorting (rankedKey text vector key tsQuery)

/-- The answer to the statement of a listing. -/
def SearchSorting.order (sorting : SearchSorting text vector key) (searchQuery : Option String) :
    List Row → List Row :=
  match searchTerm searchQuery with
  | none => sorting.plain.order
  | some userInput => (sorting.ranked (text.makeTsquery userInput)).order

/-- The page of a statement that is searched, and its count. -/
def paginateSearch (sorting : SearchSorting text vector key) (searchQuery : Option String)
    (stmt : List Row) (page pageSize : Nat) : Pagination Row :=
  let rows := constructVectorSearch text vector searchQuery stmt
  { items := ((sorting.order searchQuery rows).drop ((page - 1) * pageSize)).take pageSize
    page := page
    pageSize := pageSize
    total := rows.length }

/-! ## The listings -/

/-- `User.username % search_query`, if there is something to search for. -/
def UserRepository.searchStmt (text : FullText Tsquery Tsvector Rank) (db : Database)
    (isSuperuser : Bool) (searchQuery : Option String) : List User :=
  (UserRepository.stmt db isSuperuser).filter (fun u =>
    (searchTerm searchQuery).all (fun s => text.similar u.username s))

def UserRepository.paginateSearch (text : FullText Tsquery Tsvector Rank)
    {collate : String → Position} (sorting : Sorting (fun u : User => collate u.username))
    (page pageSize : Nat) (isSuperuser : Bool) (searchQuery : Option String) :
    Db (Pagination User) :=
  query (fun db => .ok (paginateResult sorting
    (UserRepository.searchStmt text db isSuperuser searchQuery) page pageSize))

namespace GroupRepository

def paginateSearchForSuperuser {collate : String → Position}
    (sorting : SearchSorting text text.groupVector (fun g : Group => collate g.name))
    (page pageSize : Nat) (searchQuery : Option String) :
    Db (Pagination GroupWithUserRoleSchema) :=
  query (fun db =>
    let paginatedResult := SyncMaster.paginateSearch sorting searchQuery db.groups page pageSize
    .ok {
      items := paginatedResult.items.map (fun group => { data := group, role := .superuser })
      page := page
      pageSize := pageSize
      total := paginatedResult.total })

/-- `ORDER BY name, ts_rank(...) DESC` -/
def nameKey (text : FullText Tsquery Tsvector Rank) (collate : String → Position)
    (tsQuery : Tsquery) (g : Group) : Position ×ₗ Rankᵒᵈ :=
  toLex (collate g.name, OrderDual.toDual (text.tsRank (text.groupVector g) tsQuery))

/-- How the database answers the two statements, without a search and with one. -/
structure UserSearchSortings (text : FullText Tsquery Tsvector Rank)
    (collate : String → Position) where
  plain : UserSortings collate
  owned : ∀ tsQuery, Sorting (nameKey text collate tsQuery)
  members : ∀ tsQuery, Sorting (fun m : UserGroup × Group => nameKey text collate tsQuery m.2)

def UserSearchSortings.ownedOrder {collate : String → Position}
    (sortings : UserSearchSortings text collate) (searchQuery : Option String) :
    List Group → List Group :=
  match searchTerm searchQuery with
  | none => sortings.plain.owned.order
  | some userInput => (sortings.owned (text.makeTsquery userInput)).order

def UserSearchSortings.membersOrder {collate : String → Position}
    (sortings : UserSearchSortings text collate) (searchQuery : Option String) :
    List (UserGroup × Group) → List (UserGroup × Group) :=
  match searchTerm searchQuery with
  | none => sortings.plain.members.order
  | some userInput => (sortings.members (text.makeTsquery userInput)).order

/-- The two statements of `paginate_for_user`. -/
def ownedSearchStmt (text : FullText Tsquery Tsvector Rank) (db : Database) (currentUserId : Id)
    (role : Option GroupMemberRole) (searchQuery : Option String) : List Group :=
  constructVectorSearch text text.groupVector searchQuery (ownedGroupsStmt db currentUserId role)

def membersSearchStmt (text : FullText Tsquery Tsvector Rank) (db : Database) (currentUserId : Id)
    (role : Option GroupMemberRole) (searchQuery : Option String) : List (UserGroup × Group) :=
  constructVectorSearch text (fun m => text.groupVector m.2) searchQuery
    (userGroupsStmt db currentUserId role)

/-- `owned_groups + user_groups` -/
def combinedSearch {collate : String → Position} (sortings : UserSearchSortings text collate)
    (db : Database) (currentUserId : Id) (role : Option GroupMemberRole)
    (searchQuery : Option String) : List GroupWithUserRoleSchema :=
  (sortings.ownedOrder searchQuery
      (ownedSearchStmt text db currentUserId role searchQuery)).map ownedItem ++
    (sortings.membersOrder searchQuery
      (membersSearchStmt text db currentUserId role searchQuery)).map memberItem

def paginateSearchForUser {collate : String → Position} (sortings : UserSearchSortings text collate)
    (page pageSize : Nat) (currentUserId : Id) (role : Option GroupMemberRole)
    (searchQuery : Option String) : Db (Pagination GroupWithUserRoleSchema) :=
  query (fun db =>
    let totalOwnedGroups := (ownedSearchStmt text db currentUserId role searchQuery).length
    let totalUserGroups := (membersSearchStmt text db currentUserId role searchQuery).length
    let start := (page - 1) * pageSize
    .ok {
      items :=
        ((combinedSearch sortings db currentUserId role searchQuery).drop start).take pageSize
      page := page
      pageSize := pageSize
      total := totalOwnedGroups + totalUserGroups })

end GroupRepository

def ConnectionRepository.paginateSearch {collate : String → Position}
    (sorting : SearchSorting text text.connectionVector (fun c : Connection => collate c.name))
    (page pageSize : Nat) (groupId : Id) (searchQuery : Option String)
    (connectionType : Option (List ConnectionType)) : Db (Pagination Connection) :=
  query (fun db => .ok (SyncMaster.paginateSearch sorting searchQuery
    (ConnectionRepository.stmt db groupId connectionType) page pageSize))

def TransferRepository.paginateSearch {collate : String → Position}
    (sorting : SearchSorting text text.transferVector (fun t : Transfer => collate t.name))
    (page pageSize : Nat) (groupId : Id) (searchQuery : Option String) (params : TransferFilter) :
    Db (Pagination Transfer) :=
  query (fun db => .ok (SyncMaster.paginateSearch sorting searchQuery
    (TransferRepository.stmt db groupId params) page pageSize))

def QueueRepository.paginateSearch
    (sorting : SearchSorting text text.queueVector (fun q : Queue => q.id)) (page pageSize : Nat)
    (groupId : Id) (searchQuery : Option String) : Db (Pagination Queue) :=
  query (fun db => .ok (SyncMaster.paginateSearch sorting searchQuery
    (QueueRepository.stmt db groupId) page pageSize))

end Search

/-! ## Pages in order -/

section Pages

variable {Row Sortings : Type} {db : Database} {pageSize : Nat} {rows : List Row}
  {fetch : Sortings → Nat → Db (Pagination Row)} {answers : Sortings → List Row}
  {Ordered : List Row → Prop}

/-- However each query is answered, the pages are the rows, and they show them in
    the order of the listing. -/
def SearchPages (db : Database) (rows : List Row) (Ordered : List Row → Prop)
    (fetch : Sortings → Nat → Db (Pagination Row)) : Prop :=
  ∀ choice : Nat → Sortings,
    ∃ pages, Visits db (fun n => fetch (choice n) n) 1 pages ∧ Partition rows pages ∧
      Ordered (pages.flatMap (fun p => p.items))

/-- Where there is one answer, the pages put together are it. -/
theorem searchPages_of_eq (answers : Sortings → List Row) (hsize : 0 < pageSize)
    (hfetch : ∀ s i, Returns (fetch s (i + 1)) db (pageOf pageSize rows.length i (answers s)) db)
    (hperm : ∀ s, (answers s).Perm rows) (hone : ∀ s s', answers s = answers s')
    (hordered : ∀ s, Ordered (answers s)) : SearchPages db rows Ordered fetch := by
  intro choice
  have hall := total_le_pageCount_mul hsize rows.length
  -- All pages are cut from one answer, whichever sortings the database chose.
  have hslices : slices pageSize (pageCount pageSize rows.length)
      (fun i => answers (choice (i + 1))) = answers (choice 0) := by
    have hconst : (fun i => answers (choice (i + 1))) = fun _ => answers (choice 0) := by
      funext i
      exact hone _ _
    rw [hconst, slices_const, List.take_of_length_le]
    rw [(hperm _).length_eq]
    exact hall
  refine ⟨_, visits_pageOf hsize (fun i => hfetch (choice (i + 1)) i)
    (fun i => (hperm (choice (i + 1))).length_eq), ?_, ?_⟩
  · have hpages : (slices pageSize (pageCount pageSize rows.length)
        (fun i => answers (choice (i + 1)))).Perm rows := by
      rw [hslices]
      exact hperm (choice 0)
    exact (partition_pageOf_iff choice).mpr hpages
  · rw [List.flatMap_map]
    have hitems : (List.range (pageCount pageSize rows.length)).flatMap (fun i =>
        (pageOf pageSize rows.length i (answers (choice (i + 1)))).items) = answers (choice 0) :=
      hslices
    rw [hitems]
    exact hordered (choice 0)

end Pages

section Statements

variable {Tsquery Tsvector Rank Row Key : Type} {text : FullText Tsquery Tsvector Rank}
  {vector : Row → Tsvector} {key : Row → Key} {stmt : List Row}

theorem mem_constructVectorSearch {searchQuery : Option String} {r : Row} :
    r ∈ constructVectorSearch text vector searchQuery stmt ↔
      r ∈ stmt ∧
        ∀ s ∈ searchTerm searchQuery, text.found (vector r) (text.makeTsquery s) = true := by
  unfold constructVectorSearch
  cases searchTerm searchQuery with
  | none => simp only [Option.not_mem_none, false_implies, implies_true, and_true]
  | some s => simp only [List.mem_filter, Option.mem_some, forall_eq']

/-- A key of its own makes the rank no tie. -/
theorem rankedKey_inj {tsQuery : Tsquery} {a b : Row}
    (h : rankedKey text vector key tsQuery a = rankedKey text vector key tsQuery b) :
    key a = key b :=
  congrArg (fun k => (ofLex k).2) h

end Statements

section Orders

variable {Tsquery Tsvector Rank Position Row Key : Type} [LinearOrder Rank] [LinearOrder Position]
  [LinearOrder Key] {text : FullText Tsquery Tsvector Rank} {vector : Row → Tsvector}
  {key : Row → Key} {rows stmt : List Row} {db : Database} {pageSize : Nat}

/-- The order of a listing, without a search and with one. -/
def SearchOrdered (text : FullText Tsquery Tsvector Rank) (vector : Row → Tsvector)
    (key : Row → Key) (searchQuery : Option String) (rows : List Row) : Prop :=
  match searchTerm searchQuery with
  | none => rows.Pairwise (fun a b => key a ≤ key b)
  | some userInput => rows.Pairwise (fun a b =>
      rankedKey text vector key (text.makeTsquery userInput) a ≤
        rankedKey text vector key (text.makeTsquery userInput) b)

theorem order_perm (sorting : SearchSorting text vector key) (searchQuery : Option String) :
    (sorting.order searchQuery rows).Perm rows := by
  unfold SearchSorting.order
  cases searchTerm searchQuery with
  | none => exact (sorting.plain.answers rows).perm
  | some s => exact ((sorting.ranked (text.makeTsquery s)).answers rows).perm

theorem order_ordered (sorting : SearchSorting text vector key) (searchQuery : Option String) :
    SearchOrdered text vector key searchQuery (sorting.order searchQuery rows) := by
  unfold SearchOrdered SearchSorting.order
  cases searchTerm searchQuery with
  | none => exact (sorting.plain.answers rows).sorted
  | some s => exact ((sorting.ranked (text.makeTsquery s)).answers rows).sorted

theorem order_eq (sorting sorting' : SearchSorting text vector key) (searchQuery : Option String)
    (hkey : ∀ a ∈ rows, ∀ b ∈ rows, key a = key b → a = b) :
    sorting.order searchQuery rows = sorting'.order searchQuery rows := by
  unfold SearchSorting.order
  cases searchTerm searchQuery with
  | none => exact (sorting.plain.answers rows).eq_of_injOn (sorting'.plain.answers rows) hkey
  | some s =>
      refine ((sorting.ranked _).answers rows).eq_of_injOn ((sorting'.ranked _).answers rows) ?_
      intro a ha b hb heq
      exact hkey a ha b hb (rankedKey_inj heq)

/-- A listing that is ordered by a key of its own, behind the rank. -/
theorem searchPages_of_injOn {searchQuery : Option String}
    {fetch : SearchSorting text vector key → Nat → Db (Pagination Row)} (hsize : 0 < pageSize)
    (hfetch : ∀ s i, Returns (fetch s (i + 1)) db
      (paginateSearch s searchQuery stmt (i + 1) pageSize) db)
    (hkey : ∀ a ∈ stmt, ∀ b ∈ stmt, key a = key b → a = b) :
    SearchPages db (constructVectorSearch text vector searchQuery stmt)
      (SearchOrdered text vector key searchQuery) fetch := by
  refine searchPages_of_eq (fun s => s.order searchQuery _) hsize hfetch
    (fun s => order_perm s searchQuery) (fun s s' => order_eq s s' searchQuery ?_)
    (fun s => order_ordered s searchQuery)
  intro a ha b hb heq
  exact hkey a (mem_constructVectorSearch.mp ha).1 b (mem_constructVectorSearch.mp hb).1 heq

end Orders

/-! ## The listings with their parameters -/

/-- The listings that can be searched, each with what it is asked for besides
    the page. -/
inductive ListSearch where
  | users (isSuperuser : Bool)
  | groupsForSuperuser
  | groupsForUser (currentUserId : Id) (role : Option GroupMemberRole)
  | connections (groupId : Id) (connectionType : Option (List ConnectionType))
  | transfers (groupId : Id) (params : TransferFilter)
  | queues (groupId : Id)

section Listings

variable {Tsquery Tsvector Rank Position : Type} [LinearOrder Rank] [LinearOrder Position]
  {collate : String → Position} {db : Database} {pageSize : Nat}

/-- The groups that the user owns, then those he is a member of, each by name. -/
def UserGroupsOrdered (collate : String → Position) (items : List GroupWithUserRoleSchema) : Prop :=
  ∃ (owned : List Group) (members : List (UserGroup × Group)),
    items = owned.map GroupRepository.ownedItem ++
      members.map GroupRepository.memberItem ∧
    owned.Pairwise (fun a b : Group => collate a.name ≤ collate b.name) ∧
    members.Pairwise (fun a b : UserGroup × Group => collate a.2.name ≤ collate b.2.name)

/-- The pages of the listing are the rows that are found, the best first. -/
def ListSearch.BestFirst (text : FullText Tsquery Tsvector Rank) (collate : String → Position)
    (db : Database) (pageSize : Nat) (searchQuery : Option String) : ListSearch → Prop
  | users isSuperuser =>
      SearchPages db (UserRepository.searchStmt text db isSuperuser searchQuery)
        (fun users => users.Pairwise (fun a b => collate a.username ≤ collate b.username))
        (fun (sorting : Sorting (fun u : User => collate u.username)) page =>
          UserRepository.paginateSearch text sorting page pageSize isSuperuser searchQuery)
  | groupsForSuperuser =>
      SearchPages db
        ((constructVectorSearch text text.groupVector searchQuery db.groups).map
          (fun g => { data := g, role := .superuser }))
        (fun items => SearchOrdered text text.groupVector (fun g : Group => collate g.name)
          searchQuery (items.map (fun item => item.data)))
        (fun (sorting : SearchSorting text text.groupVector (fun g : Group => collate g.name))
            page =>
          GroupRepository.paginateSearchForSuperuser sorting page pageSize searchQuery)
  | groupsForUser currentUserId role =>
      SearchPages db
        ((GroupRepository.ownedSearchStmt text db currentUserId role searchQuery).map
            GroupRepository.ownedItem ++
          (GroupRepository.membersSearchStmt text db currentUserId role searchQuery).map
            GroupRepository.memberItem)
        (UserGroupsOrdered collate)
        (fun (sortings : GroupRepository.UserSearchSortings text collate) page =>
          GroupRepository.paginateSearchForUser sortings page pageSize currentUserId role
            searchQuery)
  | connections groupId connectionType =>
      SearchPages db
        (constructVectorSearch text text.connectionVector searchQuery
          (ConnectionRepository.stmt db groupId connectionType))
        (SearchOrdered text text.connectionVector (fun c : Connection => collate c.name)
          searchQuery)
        (fun (sorting : SearchSorting text text.connectionVector
            (fun c : Connection => collate c.name)) page =>
          ConnectionRepository.paginateSearch sorting page pageSize groupId searchQuery
            connectionType)
  | transfers groupId params =>
      SearchPages db
        (constructVectorSearch text text.transferVector searchQuery
          (TransferRepository.stmt db groupId params))
        (SearchOrdered text text.transferVector (fun t : Transfer => collate t.name) searchQuery)
        (fun (sorting : SearchSorting text text.transferVector
            (fun t : Transfer => collate t.name)) page =>
          TransferRepository.paginateSearch sorting page pageSize groupId searchQuery params)
  | queues groupId =>
      SearchPages db
        (constructVectorSearch text text.queueVector searchQuery (QueueRepository.stmt db groupId))
        (SearchOrdered text text.queueVector (fun q : Queue => q.id) searchQuery)
        (fun (sorting : SearchSorting text text.queueVector (fun q : Queue => q.id)) page =>
          QueueRepository.paginateSearch sorting page pageSize groupId searchQuery)

variable {text : FullText Tsquery Tsvector Rank}

theorem searched_users (hdb : UniqueConstraints db) (hcollate : Function.Injective collate)
    (hsize : 0 < pageSize) (searchQuery : Option String) (isSuperuser : Bool) :
    (ListSearch.users isSuperuser).BestFirst text collate db pageSize searchQuery := by
  unfold ListSearch.BestFirst
  have hsub : ∀ u ∈ UserRepository.searchStmt text db isSuperuser searchQuery, u ∈ db.users := by
    intro u hu
    have hstmt := (List.mem_filter.mp hu).1
    unfold UserRepository.stmt at hstmt
    split at hstmt
    · exact hstmt
    · exact (List.mem_filter.mp hstmt).1
  refine searchPages_of_eq (fun s => s.order _) hsize (fun s i => returns_query.mpr ⟨rfl, rfl⟩)
    (fun s => (s.answers _).perm) (fun s s' => (s.answers _).eq_of_injOn (s'.answers _) ?_)
    (fun s => (s.answers _).sorted)
  intro a ha b hb heq
  exact Table.eq_of_key_eq _ hdb.users (hsub a ha) (hsub b hb) (hcollate heq)

theorem searched_groupsForSuperuser (hdb : UniqueConstraints db)
    (hcollate : Function.Injective collate) (hsize : 0 < pageSize) (searchQuery : Option String) :
    ListSearch.groupsForSuperuser.BestFirst text collate db pageSize searchQuery := by
  unfold ListSearch.BestFirst
  refine searchPages_of_eq (fun s => (s.order searchQuery _).map _) hsize
    (fun s i => returns_query.mpr ⟨?_, rfl⟩) (fun s => (order_perm s searchQuery).map _)
    (fun s s' => ?_) (fun s => ?_)
  · simp only [paginateSearch, pageOf, slice, List.length_map, List.map_take, List.map_drop,
      Nat.add_sub_cancel]
  · have hkey : ∀ a ∈ constructVectorSearch text text.groupVector searchQuery db.groups,
        ∀ b ∈ constructVectorSearch text text.groupVector searchQuery db.groups,
          collate a.name = collate b.name → a = b := fun a ha b hb heq =>
      group_eq_of_name hdb hcollate (mem_constructVectorSearch.mp ha).1
        (mem_constructVectorSearch.mp hb).1 heq
    rw [order_eq s s' searchQuery hkey]
  · rw [List.map_map]
    have hid : ((fun item : GroupWithUserRoleSchema => item.data) ∘ fun g : Group =>
        ({ data := g, role := .superuser } : GroupWithUserRoleSchema)) = id := rfl
    rw [hid, List.map_id]
    exact order_ordered s searchQuery

/-! ### The groups of a user -/

section UserGroups

open GroupRepository

variable {rows : List Group} {pairs : List (UserGroup × Group)}

theorem nameKey_le {tsQuery : Tsquery} {g h : Group}
    (hle : nameKey text collate tsQuery g ≤ nameKey text collate tsQuery h) :
    collate g.name ≤ collate h.name := by
  rcases Prod.Lex.le_iff.mp hle with hlt | heq
  · exact le_of_lt hlt
  · exact le_of_eq heq.1

/-- Either statement is answered in the order of the names. -/
theorem ownedOrder_answer (sortings : UserSearchSortings text collate)
    (searchQuery : Option String) :
    Answer (fun g : Group => collate g.name) rows (sortings.ownedOrder searchQuery rows) := by
  unfold UserSearchSortings.ownedOrder
  cases searchTerm searchQuery with
  | none => exact sortings.plain.owned.answers rows
  | some s =>
      have hanswer := (sortings.owned (text.makeTsquery s)).answers rows
      exact ⟨hanswer.perm, hanswer.sorted.imp nameKey_le⟩

theorem membersOrder_answer (sortings : UserSearchSortings text collate)
    (searchQuery : Option String) :
    Answer (fun m : UserGroup × Group => collate m.2.name) pairs
      (sortings.membersOrder searchQuery pairs) := by
  unfold UserSearchSortings.membersOrder
  cases searchTerm searchQuery with
  | none => exact sortings.plain.members.answers pairs
  | some s =>
      have hanswer := (sortings.members (text.makeTsquery s)).answers pairs
      exact ⟨hanswer.perm, hanswer.sorted.imp nameKey_le⟩

/-- The two answers put together leave no choice. -/
theorem combinedSearch_eq (hdb : UniqueConstraints db) (hcollate : Function.Injective collate)
    (sortings sortings' : UserSearchSortings text collate) (currentUserId : Id)
    (role : Option GroupMemberRole) (searchQuery : Option String) :
    combinedSearch sortings db currentUserId role searchQuery =
      combinedSearch sortings' db currentUserId role searchQuery := by
  unfold combinedSearch
  have howned : sortings.ownedOrder searchQuery
      (ownedSearchStmt text db currentUserId role searchQuery) =
        sortings'.ownedOrder searchQuery
          (ownedSearchStmt text db currentUserId role searchQuery) := by
    refine (ownedOrder_answer sortings searchQuery).eq_of_injOn
      (ownedOrder_answer sortings' searchQuery) (fun a ha b hb heq => ?_)
    exact group_eq_of_name hdb hcollate
      (mem_ownedGroupsStmt.mp (mem_constructVectorSearch.mp ha).1).1
      (mem_ownedGroupsStmt.mp (mem_constructVectorSearch.mp hb).1).1 heq
  have hmembers : sortings.membersOrder searchQuery
      (membersSearchStmt text db currentUserId role searchQuery) =
        sortings'.membersOrder searchQuery
          (membersSearchStmt text db currentUserId role searchQuery) := by
    refine (membersOrder_answer sortings searchQuery).eq_of_injOn
      (membersOrder_answer sortings' searchQuery) (fun a ha b hb heq => ?_)
    exact userGroup_eq_of_name hdb hcollate (mem_constructVectorSearch.mp ha).1
      (mem_constructVectorSearch.mp hb).1 heq
  rw [howned, hmembers]

theorem searched_groupsForUser (hdb : UniqueConstraints db)
    (hcollate : Function.Injective collate) (hsize : 0 < pageSize) (searchQuery : Option String)
    (currentUserId : Id) (role : Option GroupMemberRole) :
    (ListSearch.groupsForUser currentUserId role).BestFirst text collate db pageSize
      searchQuery := by
  unfold ListSearch.BestFirst
  refine searchPages_of_eq
    (fun s => combinedSearch s db currentUserId role searchQuery) hsize
    (fun s i => returns_query.mpr ⟨?_, rfl⟩) (fun s => ?_)
    (fun s s' => combinedSearch_eq hdb hcollate s s' currentUserId role searchQuery) (fun s => ?_)
  · simp only [pageOf, slice, List.length_append, List.length_map, Nat.add_sub_cancel]
  · exact ((ownedOrder_answer s searchQuery).perm.map _).append
      ((membersOrder_answer s searchQuery).perm.map _)
  · exact ⟨_, _, rfl, (ownedOrder_answer s searchQuery).sorted,
      (membersOrder_answer s searchQuery).sorted⟩

end UserGroups

theorem searched_connections (hdb : UniqueConstraints db) (hcollate : Function.Injective collate)
    (hsize : 0 < pageSize) (searchQuery : Option String) (groupId : Id)
    (connectionType : Option (List ConnectionType)) :
    (ListSearch.connections groupId connectionType).BestFirst text collate db pageSize
      searchQuery := by
  unfold ListSearch.BestFirst
  refine searchPages_of_injOn hsize (fun s i => returns_query.mpr ⟨rfl, rfl⟩)
    (fun a ha b hb heq => ?_)
  simp only [ConnectionRepository.stmt, List.mem_filter, Bool.and_eq_true, beq_iff_eq] at ha hb
  refine Table.eq_of_key_eq _ hdb.connections ha.1 hb.1 ?_
  rw [ha.2.1, hb.2.1, hcollate heq]

theorem searched_transfers (hdb : UniqueConstraints db) (hcollate : Function.Injective collate)
    (hsize : 0 < pageSize) (searchQuery : Option String) (groupId : Id) (params : TransferFilter) :
    (ListSearch.transfers groupId params).BestFirst text collate db pageSize searchQuery := by
  unfold ListSearch.BestFirst
  have hrow : ∀ t ∈ TransferRepository.stmt db groupId params,
      t ∈ db.transfers ∧ t.groupId = groupId := by
    intro t ht
    simp only [TransferRepository.stmt, List.mem_filter, Bool.and_eq_true, beq_iff_eq] at ht
    exact ⟨ht.1, ht.2.1.1.1.1.1.1⟩
  refine searchPages_of_injOn hsize (fun s i => returns_query.mpr ⟨rfl, rfl⟩)
    (fun a ha b hb heq => ?_)
  refine Table.eq_of_key_eq _ hdb.transfers (hrow a ha).1 (hrow b hb).1 ?_
  rw [(hrow a ha).2, (hrow b hb).2, hcollate heq]

theorem searched_queues (hdb : UniqueConstraints db) (hsize : 0 < pageSize)
    (searchQuery : Option String) (groupId : Id) :
    (ListSearch.queues groupId).BestFirst text collate db pageSize searchQuery := by
  unfold ListSearch.BestFirst
  refine searchPages_of_injOn hsize (fun s i => returns_query.mpr ⟨rfl, rfl⟩)
    (fun a ha b hb heq => ?_)
  exact Table.eq_of_key_eq _ hdb.queues (List.mem_filter.mp ha).1 (List.mem_filter.mp hb).1 heq

/-- In every reachable state, whatever is searched for and however the rows are
    ranked. -/
theorem searched_bestFirst (text : FullText Tsquery Tsvector Rank) (hdb : Reachable db)
    (hcollate : Function.Injective collate) (hsize : 0 < pageSize) (searchQuery : Option String)
    (q : ListSearch) : q.BestFirst text collate db pageSize searchQuery := by
  have hunique := reachable_uniqueConstraints hdb
  cases q with
  | users isSuperuser => exact searched_users hunique hcollate hsize searchQuery isSuperuser
  | groupsForSuperuser => exact searched_groupsForSuperuser hunique hcollate hsize searchQuery
  | groupsForUser currentUserId role =>
      exact searched_groupsForUser hunique hcollate hsize searchQuery currentUserId role
  | connections groupId connectionType =>
      exact searched_connections hunique hcollate hsize searchQuery groupId connectionType
  | transfers groupId params =>
      exact searched_transfers hunique hcollate hsize searchQuery groupId params
  | queues groupId => exact searched_queues hunique hsize searchQuery groupId

end Listings

/-- A text search that finds a word anywhere in a name, and ranks short names
    higher. -/
def substringSearch : FullText String String Int where
  toTsquery := fun _ s => s
  plaintoTsquery := fun _ s => s
  concat := fun _ s => s
  found := fun name s => (split name.toList).contains s.toList
  tsRank := fun name _ => -name.length
  groupVector := fun g => g.name
  connectionVector := fun c => c.name
  transferVector := fun t => t.name
  queueVector := fun q => q.name
  similar := fun username s => username == s

/-- The connections of a group whose names have a word. -/
theorem searched_bestFirst_sampleEvents :
    (ListSearch.connections 1 none).BestFirst substringSearch (fun name : String => name)
      (sampleEvents.foldl Database.step Database.empty) 1 (some "warehouse") :=
  searched_bestFirst substringSearch (reachable_foldl sampleEvents) Function.injective_id
    (by decide) (some "warehouse") (.connections 1 none)

end SyncMaster
