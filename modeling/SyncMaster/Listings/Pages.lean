import SyncMaster.Listings.Repositories
import SyncMaster.Listings.Names
import SyncMaster.Tenancy.SameGroup
import Mathlib.Data.String.Basic

/-!
# Pages

Following `next_page` from the first page shows a listing, page by page. The
offsets and the number of pages are plain arithmetic. What is left to ask is
whether the pages, each from a query of its own, are pages of one list.

They are where the rows are ordered by something that no two of them share:
the unique constraints and the primary keys say so for names and identifiers.
Runs are ordered by the time they were created at, which two runs of a transfer
may share. If a page ends between two such runs, the database is free to show
one of them twice and the other not at all.

## Main definitions

* `pageOf`, `pageCount`: The page of an answer, and how many there are.
* `ListQuery`: The listings with their parameters.
* `ListQuery.Partitioned`: The pages of the listing are the listing.
* `ListQuery.CutsTie`: A page ends between two runs created at the same time.

## Theorems

* `visits_pageOf`: Which pages are visited.
* `partitions_iff`: They are the listing just when they add up to it.
* `partitioned_iff`: This is so for every listing of any database, but for
  runs created at the same time.
-/

namespace SyncMaster

open Program Paging

/-! ## Arithmetic -/

section Visits

variable {Row : Type} {db : Database} {pageSize total : Nat}

/-- The page of an answer, numbered from zero. -/
def pageOf (pageSize total i : Nat) (answer : List Row) : Pagination Row where
  items := slice pageSize i answer
  page := i + 1
  pageSize := pageSize
  total := total

def pageCount (pageSize total : Nat) : Nat :=
  max 1 ((total + pageSize - 1) / pageSize)

/-- There is a next page just when there are rows behind this one. -/
theorem lt_pageCount_iff (hsize : 0 < pageSize) (total i : Nat) :
    i + 1 < pageCount pageSize total ↔ (i + 1) * pageSize < total := by
  have hmul : (i + 2) * pageSize = (i + 1) * pageSize + pageSize := by
    rw [Nat.add_mul (i + 1) 1, Nat.one_mul]
  have hdiv : i + 2 ≤ (total + pageSize - 1) / pageSize ↔ (i + 1) * pageSize < total := by
    rw [Nat.le_div_iff_mul_le hsize, hmul]
    omega
  rw [pageCount, ← hdiv]
  generalize (total + pageSize - 1) / pageSize = count
  omega

theorem total_le_pageCount_mul (hsize : 0 < pageSize) (total : Nat) :
    total ≤ pageCount pageSize total * pageSize := by
  by_contra hlt
  have hpos : 0 < pageCount pageSize total := by
    unfold pageCount
    omega
  have hlast := lt_pageCount_iff hsize total (pageCount pageSize total - 1)
  rw [Nat.sub_add_cancel hpos] at hlast
  exact absurd (hlast.mpr (Nat.not_le.mp hlt)) (Nat.lt_irrefl _)

theorem nextPage_pageOf (hsize : 0 < pageSize) {answer : List Row} (hlength : answer.length = total)
    (i : Nat) :
    (pageOf pageSize total i answer).nextPage =
      if i + 1 < pageCount pageSize total then some (i + 2) else none := by
  have hmul : (i + 1) * pageSize = i * pageSize + pageSize := by rw [Nat.add_mul, Nat.one_mul]
  have hnext : (pageOf pageSize total i answer).hasNext = decide (i + 1 < pageCount pageSize total) := by
    rw [Pagination.hasNext, decide_eq_decide, lt_pageCount_iff hsize]
    simp only [pageOf, length_slice, hlength, Nat.add_sub_cancel]
    omega
  rw [Pagination.nextPage, hnext]
  simp only [decide_eq_true_eq, pageOf]

variable {fetch : Nat → Db (Pagination Row)} {answers : Nat → List Row}

/-- The pages visited from one of them on. -/
theorem visits_pageOf_from (hsize : 0 < pageSize)
    (hfetch : ∀ i, Returns (fetch (i + 1)) db (pageOf pageSize total i (answers i)) db)
    (hlength : ∀ i, (answers i).length = total) :
    ∀ k i, i + (k + 1) = pageCount pageSize total →
      Visits db fetch (i + 1)
        ((List.range' i (k + 1)).map (fun i => pageOf pageSize total i (answers i))) := by
  intro k
  induction k with
  | zero =>
      intro i hi
      refine Visits.last (hfetch i) ?_
      rw [nextPage_pageOf hsize (hlength i), if_neg (by omega)]
  | succ k ih =>
      intro i hi
      rw [List.range'_succ, List.map_cons]
      refine Visits.next (hfetch i) ?_ (ih (i + 1) (by omega))
      rw [nextPage_pageOf hsize (hlength i), if_pos (by omega)]

theorem visits_pageOf (hsize : 0 < pageSize)
    (hfetch : ∀ i, Returns (fetch (i + 1)) db (pageOf pageSize total i (answers i)) db)
    (hlength : ∀ i, (answers i).length = total) :
    Visits db fetch 1 ((List.range (pageCount pageSize total)).map
      (fun i => pageOf pageSize total i (answers i))) := by
  have hpos : 0 < pageCount pageSize total := by
    unfold pageCount
    omega
  have hvisits := visits_pageOf_from hsize hfetch hlength (pageCount pageSize total - 1) 0 (by omega)
  rw [Nat.sub_add_cancel hpos, ← List.range_eq_range'] at hvisits
  exact hvisits

/-- A page leaves no choice of the next one. -/
theorem visits_unique {n : Nat} {pages pages' : List (Pagination Row)}
    (h : Visits db fetch n pages) (h' : Visits db fetch n pages') : pages = pages' := by
  induction h generalizing pages' with
  | last hreturns hnext =>
      cases h' with
      | last hreturns' _ => rw [(returns_unique hreturns hreturns').1]
      | next hreturns' hnext' _ =>
          rw [← (returns_unique hreturns hreturns').1, hnext] at hnext'
          exact absurd hnext' (by simp only [reduceCtorEq, not_false_eq_true])
  | next hreturns hnext _ ih =>
      cases h' with
      | last hreturns' hnext' =>
          rw [← (returns_unique hreturns hreturns').1, hnext] at hnext'
          exact absurd hnext' (by simp only [reduceCtorEq, not_false_eq_true])
      | next hreturns' hnext' hrest =>
          rw [← (returns_unique hreturns hreturns').1, hnext, Option.some.injEq] at hnext'
          rw [(returns_unique hreturns hreturns').1, ih (hnext' ▸ hrest)]

end Visits

/-! ## Pages that add up -/

section Partitions

variable {Row Sortings : Type} {db : Database} {pageSize : Nat} {rows : List Row}
  {fetch : Sortings → Nat → Db (Pagination Row)} {answers : Sortings → List Row}

theorem partition_pageOf_iff (choice : Nat → Sortings) :
    Partition rows ((List.range (pageCount pageSize rows.length)).map
        (fun i => pageOf pageSize rows.length i (answers (choice (i + 1))))) ↔
      (slices pageSize (pageCount pageSize rows.length)
        (fun i => answers (choice (i + 1)))).Perm rows := by
  constructor
  · intro h
    have honce := h.once
    rw [List.flatMap_map] at honce
    exact honce
  · intro h
    refine ⟨?_, ?_, fun p hp => ?_, fun p hp => ?_⟩
    · rw [List.flatMap_map]
      exact h
    · rw [List.map_map, List.length_map, List.length_range, List.range'_eq_map_range]
      exact List.map_congr_left (fun i _ => Nat.add_comm i 1)
    · rcases List.mem_map.mp hp with ⟨i, _, rfl⟩
      rw [List.length_map, List.length_range]
      rfl
    · rcases List.mem_map.mp hp with ⟨i, _, rfl⟩
      rfl

/-- The pages of a listing are the listing just when they add up to it. -/
theorem partitions_iff (answers : Sortings → List Row) (hsize : 0 < pageSize)
    (hfetch : ∀ s i, Returns (fetch s (i + 1)) db (pageOf pageSize rows.length i (answers s)) db)
    (hperm : ∀ s, (answers s).Perm rows) :
    Partitions db rows fetch ↔ ∀ choice : Nat → Sortings,
      (slices pageSize (pageCount pageSize rows.length) (fun i => answers (choice i))).Perm rows := by
  have hvisits : ∀ choice : Nat → Sortings, Visits db (fun n => fetch (choice n) n) 1
      ((List.range (pageCount pageSize rows.length)).map
        (fun i => pageOf pageSize rows.length i (answers (choice (i + 1))))) :=
    fun choice => visits_pageOf hsize (fun i => hfetch (choice (i + 1)) i)
      (fun i => (hperm (choice (i + 1))).length_eq)
  constructor
  · intro h choice
    -- The pages are numbered from one.
    rcases h (fun n => choice (n - 1)) with ⟨pages, hpages, hpartition⟩
    rw [visits_unique hpages (hvisits _)] at hpartition
    exact (partition_pageOf_iff (fun n => choice (n - 1))).mp hpartition
  · intro h choice
    exact ⟨_, hvisits choice, (partition_pageOf_iff choice).mpr (h (fun i => choice (i + 1)))⟩

/-- Where there is one answer, the pages are its pages. -/
theorem partitions_of_eq (answers : Sortings → List Row) (hsize : 0 < pageSize)
    (hfetch : ∀ s i, Returns (fetch s (i + 1)) db (pageOf pageSize rows.length i (answers s)) db)
    (hperm : ∀ s, (answers s).Perm rows) (hone : ∀ s s', answers s = answers s') :
    Partitions db rows fetch := by
  refine (partitions_iff answers hsize hfetch hperm).mpr (fun choice => ?_)
  have hagree : ∀ i j n, ((answers (choice i)).take (n * pageSize)).Perm
      ((answers (choice j)).take (n * pageSize)) := by
    intro i j n
    rw [hone (choice i) (choice j)]
  have hslices : (slices pageSize (pageCount pageSize rows.length)
      (fun i => answers (choice i))).Perm _ := slices_perm _ hagree
  have hall := total_le_pageCount_mul hsize rows.length
  rw [List.take_of_length_le (by rw [(hperm _).length_eq]; exact hall)] at hslices
  exact hslices.trans (hperm (choice 0))

theorem pageOf_eq_paginateResult {Key : Type} [LinearOrder Key] {key : Row → Key}
    (sorting : Sorting key) (i : Nat) :
    paginateResult sorting rows (i + 1) pageSize =
      pageOf pageSize rows.length i (sorting.order rows) :=
  rfl

/-- A key that no two rows of the listing share. -/
theorem partitions_of_injOn {Key : Type} [LinearOrder Key] {key : Row → Key}
    {fetch : Sorting key → Nat → Db (Pagination Row)} (hsize : 0 < pageSize)
    (hfetch : ∀ s i, Returns (fetch s (i + 1)) db (paginateResult s rows (i + 1) pageSize) db)
    (hkey : ∀ a ∈ rows, ∀ b ∈ rows, key a = key b → a = b) : Partitions db rows fetch :=
  partitions_of_eq (fun s => s.order rows) hsize hfetch (fun s => (s.answers rows).perm)
    (fun s s' => (s.answers rows).eq_of_injOn (s'.answers rows) hkey)

end Partitions

/-! ## The listings -/

/-- The listings, each with what it is asked for besides the page. -/
inductive ListQuery where
  | users (isSuperuser : Bool)
  | groupsForSuperuser
  | groupsForUser (currentUserId : Id) (role : Option GroupMemberRole)
  | members (groupId : Id)
  | connections (groupId : Id) (connectionType : Option (List ConnectionType))
  | transfers (groupId : Id) (params : TransferFilter)
  | queues (groupId : Id)
  | runs (transferId : Id) (params : RunFilter)

section Statements

variable {db : Database}

theorem mem_userGroupsStmt {currentUserId : Id} {role : Option GroupMemberRole}
    {m : UserGroup × Group} :
    m ∈ GroupRepository.userGroupsStmt db currentUserId role ↔
      m.1 ∈ db.userGroups ∧ m.2 ∈ db.groups ∧ m.1.groupId = m.2.id ∧ m.1.userId = currentUserId ∧
        ∀ r ∈ role, m.1.role ∈ r.rolesAtLeast := by
  have hrole : ∀ ug : UserGroup,
      (role.map GroupMemberRole.rolesAtLeast).all (fun roles => roles.contains ug.role) = true ↔
        ∀ r ∈ role, ug.role ∈ r.rolesAtLeast := by
    intro ug
    cases role with
    | none => simp only [Option.map_none, Option.all_none, Option.not_mem_none, false_implies,
        implies_true]
    | some r => simp only [Option.map_some, Option.all_some, List.contains_eq_mem,
        decide_eq_true_eq, Option.mem_some, forall_eq']
  unfold GroupRepository.userGroupsStmt
  simp only [List.mem_flatMap, List.mem_map, List.mem_filter, Bool.and_eq_true, beq_iff_eq, hrole]
  constructor
  · intro h
    rcases h with ⟨ug, hug, g, ⟨hg, ⟨hgroup, huser⟩, hr⟩, rfl⟩
    exact ⟨hug, hg, hgroup, huser, hr⟩
  · intro h
    exact ⟨m.1, h.1, m.2, ⟨h.2.1, ⟨h.2.2.1, h.2.2.2.1⟩, h.2.2.2.2⟩, rfl⟩

theorem mem_ownedGroupsStmt {currentUserId : Id} {role : Option GroupMemberRole} {g : Group} :
    g ∈ GroupRepository.ownedGroupsStmt db currentUserId role ↔
      g ∈ db.groups ∧ g.ownerId = currentUserId ∧
        ∀ r ∈ role, GroupMemberRole.isAtLeastPrivilegeLevel .owner r = true := by
  have hrole : role.any (fun r => !GroupMemberRole.isAtLeastPrivilegeLevel .owner r) = true ↔
      ¬ ∀ r ∈ role, GroupMemberRole.isAtLeastPrivilegeLevel .owner r = true := by
    cases role with
    | none => simp only [Option.any_none, Option.not_mem_none, false_implies, implies_true,
        Bool.false_eq_true, not_true]
    | some r => simp only [Option.any_some, Bool.not_eq_true', Option.mem_some, forall_eq',
        Bool.not_eq_true]
  unfold GroupRepository.ownedGroupsStmt
  split
  next h => exact iff_of_false List.not_mem_nil (fun hg => hrole.mp h hg.2.2)
  next h =>
    rw [hrole, not_not] at h
    simp only [List.mem_filter, beq_iff_eq]
    exact ⟨fun hg => ⟨hg.1, hg.2, h⟩, fun hg => ⟨hg.1, hg.2.1⟩⟩

variable {Position : Type} {collate : String → Position}

theorem group_eq_of_name (hdb : UniqueConstraints db) (hcollate : Function.Injective collate)
    {a b : Group} (ha : a ∈ db.groups) (hb : b ∈ db.groups) (heq : collate a.name = collate b.name) :
    a = b :=
  Table.eq_of_key_eq _ hdb.groups ha hb (hcollate heq)

/-- A user has one membership in a group of some name. -/
theorem userGroup_eq_of_name (hdb : UniqueConstraints db) (hcollate : Function.Injective collate)
    {currentUserId : Id} {role : Option GroupMemberRole} {a b : UserGroup × Group}
    (ha : a ∈ GroupRepository.userGroupsStmt db currentUserId role)
    (hb : b ∈ GroupRepository.userGroupsStmt db currentUserId role)
    (heq : collate a.2.name = collate b.2.name) : a = b := by
  rcases mem_userGroupsStmt.mp ha with ⟨hua, hga, hgroupa, husera, _⟩
  rcases mem_userGroupsStmt.mp hb with ⟨hub, hgb, hgroupb, huserb, _⟩
  have hgroup : a.2 = b.2 := group_eq_of_name hdb hcollate hga hgb heq
  have hmember : a.1 = b.1 := by
    refine Table.eq_of_key_eq _ hdb.userGroups hua hub ?_
    rw [hgroupa, hgroupb, husera, huserb, hgroup]
  exact Prod.ext hmember hgroup

end Statements

section Listings

variable {Position : Type} [LinearOrder Position] {collate : String → Position} {db : Database}
  {pageSize : Nat}

/-- The pages of the listing are the listing. An unknown group has no list of
    members. -/
def ListQuery.Partitioned (collate : String → Position) (db : Database) (pageSize : Nat) :
    ListQuery → Prop
  | users isSuperuser =>
      Partitions db (UserRepository.stmt db isSuperuser)
        (fun (sorting : Sorting (fun u : User => collate u.username)) page =>
          UserRepository.paginate sorting page pageSize isSuperuser)
  | groupsForSuperuser =>
      Partitions db (db.groups.map (fun g => { data := g, role := .superuser }))
        (fun (sorting : Sorting (fun g : Group => collate g.name)) page =>
          GroupRepository.paginateForSuperuser sorting page pageSize)
  | groupsForUser currentUserId role =>
      Partitions db
        ((GroupRepository.ownedGroupsStmt db currentUserId role).map GroupRepository.ownedItem ++
          (GroupRepository.userGroupsStmt db currentUserId role).map GroupRepository.memberItem)
        (fun (sortings : GroupRepository.UserSortings collate) page =>
          GroupRepository.paginateForUser sortings page pageSize currentUserId role)
  | members groupId =>
      (∃ g ∈ db.groups, g.id = groupId) →
        Partitions db (GroupRepository.memberStmt db groupId)
          (fun (sorting : Sorting (fun m : User × GroupMemberRole => collate m.1.username)) page =>
            GroupRepository.getMemberPaginate sorting page pageSize groupId)
  | connections groupId connectionType =>
      Partitions db (ConnectionRepository.stmt db groupId connectionType)
        (fun (sorting : Sorting (fun c : Connection => collate c.name)) page =>
          ConnectionRepository.paginateByName sorting page pageSize groupId connectionType)
  | transfers groupId params =>
      Partitions db (TransferRepository.stmt db groupId params)
        (fun (sorting : Sorting (fun t : Transfer => collate t.name)) page =>
          TransferRepository.paginate sorting page pageSize groupId params)
  | queues groupId =>
      Partitions db (QueueRepository.stmt db groupId)
        (fun sorting page => QueueRepository.paginate sorting page pageSize groupId)
  | runs transferId params =>
      Partitions db (RunRepository.stmt db transferId params)
        (fun sorting page => RunRepository.paginate sorting page pageSize transferId params)

/-- A page ends between two runs of the listing created at the same time. -/
def ListQuery.CutsTie (db : Database) (pageSize : Nat) : ListQuery → Prop
  | runs transferId params =>
      Paging.CutsTie RunRepository.newestFirst pageSize (RunRepository.stmt db transferId params)
  | _ => False

theorem partitioned_users (hdb : UniqueConstraints db) (hcollate : Function.Injective collate)
    (hsize : 0 < pageSize) (isSuperuser : Bool) :
    (ListQuery.users isSuperuser).Partitioned collate db pageSize := by
  unfold ListQuery.Partitioned
  refine partitions_of_injOn hsize (fun s i => returns_query.mpr ⟨rfl, rfl⟩) ?_
  have hsub : ∀ u ∈ UserRepository.stmt db isSuperuser, u ∈ db.users := by
    intro u hu
    unfold UserRepository.stmt at hu
    split at hu
    · exact hu
    · exact (List.mem_filter.mp hu).1
  intro a ha b hb heq
  exact Table.eq_of_key_eq _ hdb.users (hsub a ha) (hsub b hb) (hcollate heq)

theorem partitioned_groupsForSuperuser (hdb : UniqueConstraints db)
    (hcollate : Function.Injective collate) (hsize : 0 < pageSize) :
    ListQuery.groupsForSuperuser.Partitioned collate db pageSize := by
  unfold ListQuery.Partitioned
  refine partitions_of_eq (fun s => (s.order db.groups).map _) hsize
    (fun s i => returns_query.mpr ⟨?_, rfl⟩) (fun s => ((s.answers db.groups).perm).map _)
    (fun s s' => ?_)
  · simp only [paginateResult, pageOf, slice, List.length_map, List.map_take, List.map_drop,
      Nat.add_sub_cancel]
  · rw [(s.answers db.groups).eq_of_injOn (s'.answers db.groups)
      (fun a ha b hb => group_eq_of_name hdb hcollate ha hb)]

/-- The two answers put together leave no choice. -/
theorem combinedGroups_eq (hdb : UniqueConstraints db) (hcollate : Function.Injective collate)
    (sortings sortings' : GroupRepository.UserSortings collate) (currentUserId : Id)
    (role : Option GroupMemberRole) :
    GroupRepository.combinedGroups sortings db currentUserId role =
      GroupRepository.combinedGroups sortings' db currentUserId role := by
  unfold GroupRepository.combinedGroups
  have howned := (sortings.owned.answers
      (GroupRepository.ownedGroupsStmt db currentUserId role)).eq_of_injOn
    (sortings'.owned.answers _) (fun a ha b hb =>
      group_eq_of_name hdb hcollate (mem_ownedGroupsStmt.mp ha).1 (mem_ownedGroupsStmt.mp hb).1)
  have hmembers := (sortings.members.answers
      (GroupRepository.userGroupsStmt db currentUserId role)).eq_of_injOn
    (sortings'.members.answers _) (fun a ha b hb => userGroup_eq_of_name hdb hcollate ha hb)
  rw [howned, hmembers]

theorem partitioned_groupsForUser (hdb : UniqueConstraints db)
    (hcollate : Function.Injective collate) (hsize : 0 < pageSize) (currentUserId : Id)
    (role : Option GroupMemberRole) :
    (ListQuery.groupsForUser currentUserId role).Partitioned collate db pageSize := by
  unfold ListQuery.Partitioned
  refine partitions_of_eq
    (fun s => GroupRepository.combinedGroups s db currentUserId role) hsize
    (fun s i => returns_query.mpr ⟨?_, rfl⟩) (fun s => ?_)
    (fun s s' => combinedGroups_eq hdb hcollate s s' currentUserId role)
  · simp only [pageOf, slice, List.length_append, List.length_map, Nat.add_sub_cancel]
  · exact ((s.owned.answers _).perm.map _).append ((s.members.answers _).perm.map _)

theorem partitioned_members (hdb : UniqueConstraints db) (hcollate : Function.Injective collate)
    (hsize : 0 < pageSize) (groupId : Id) :
    (ListQuery.members groupId).Partitioned collate db pageSize := by
  intro hgroup
  rcases hgroup with ⟨g, hg, hid⟩
  have hread : Returns (GroupRepository.readById groupId) db g db := by
    unfold GroupRepository.readById
    rw [returns_catching, returns_query, one_eq_ok_iff]
    exact ⟨Table.filter_key_eq _ hdb.groupIds hg hid, rfl⟩
  refine partitions_of_injOn hsize (fun s i => ?_) (fun a ha b hb heq => ?_)
  · rw [GroupRepository.getMemberPaginate, returns_bind]
    refine ⟨g, db, hread, returns_query.mpr ⟨?_, rfl⟩⟩
    rw [hid]
  · -- One user of the name, with one membership in the group.
    simp only [GroupRepository.memberStmt, List.mem_flatMap, List.mem_map, List.mem_filter,
      Bool.and_eq_true, beq_iff_eq] at ha hb
    rcases ha with ⟨u, hu, m, ⟨hm, ⟨hmu, _⟩, hmg⟩, rfl⟩
    rcases hb with ⟨v, hv, n, ⟨hn, ⟨hnv, _⟩, hng⟩, rfl⟩
    have huser : u = v := Table.eq_of_key_eq _ hdb.users hu hv (hcollate heq)
    have hmember : m = n := by
      refine Table.eq_of_key_eq _ hdb.userGroups hm hn ?_
      rw [hmg, hng, hmu, hnv, huser]
    rw [huser, hmember]

theorem partitioned_connections (hdb : UniqueConstraints db) (hcollate : Function.Injective collate)
    (hsize : 0 < pageSize) (groupId : Id) (connectionType : Option (List ConnectionType)) :
    (ListQuery.connections groupId connectionType).Partitioned collate db pageSize := by
  unfold ListQuery.Partitioned
  refine partitions_of_injOn hsize (fun s i => returns_query.mpr ⟨rfl, rfl⟩)
    (fun a ha b hb heq => ?_)
  simp only [ConnectionRepository.stmt, List.mem_filter, Bool.and_eq_true, beq_iff_eq] at ha hb
  refine Table.eq_of_key_eq _ hdb.connections ha.1 hb.1 ?_
  rw [ha.2.1, hb.2.1, hcollate heq]

theorem partitioned_transfers (hdb : UniqueConstraints db) (hcollate : Function.Injective collate)
    (hsize : 0 < pageSize) (groupId : Id) (params : TransferFilter) :
    (ListQuery.transfers groupId params).Partitioned collate db pageSize := by
  unfold ListQuery.Partitioned
  refine partitions_of_injOn hsize (fun s i => returns_query.mpr ⟨rfl, rfl⟩)
    (fun a ha b hb heq => ?_)
  have hrow : ∀ t ∈ TransferRepository.stmt db groupId params,
      t ∈ db.transfers ∧ t.groupId = groupId := by
    intro t ht
    simp only [TransferRepository.stmt, List.mem_filter, Bool.and_eq_true, beq_iff_eq] at ht
    exact ⟨ht.1, ht.2.1.1.1.1.1.1⟩
  refine Table.eq_of_key_eq _ hdb.transfers (hrow a ha).1 (hrow b hb).1 ?_
  rw [(hrow a ha).2, (hrow b hb).2, hcollate heq]

theorem partitioned_queues (hdb : UniqueConstraints db) (hsize : 0 < pageSize) (groupId : Id) :
    (ListQuery.queues groupId).Partitioned collate db pageSize := by
  unfold ListQuery.Partitioned
  refine partitions_of_injOn hsize (fun s i => returns_query.mpr ⟨rfl, rfl⟩)
    (fun a ha b hb heq => ?_)
  exact Table.eq_of_key_eq _ hdb.queues (List.mem_filter.mp ha).1 (List.mem_filter.mp hb).1 heq

/-- The runs of a transfer have no order of their own where they were created
    at the same time. -/
theorem partitioned_runs_iff (hdb : UniqueConstraints db) (hsize : 0 < pageSize) (transferId : Id)
    (params : RunFilter) :
    (ListQuery.runs transferId params).Partitioned collate db pageSize ↔
      ¬ (ListQuery.runs transferId params).CutsTie db pageSize := by
  unfold ListQuery.Partitioned ListQuery.CutsTie
  have hnodup : (RunRepository.stmt db transferId params).Nodup :=
    (List.Nodup.of_map _ hdb.runs).filter _
  rw [← slices_perm_iff hnodup (total_le_pageCount_mul hsize _)]
  exact partitions_iff (fun s : Sorting RunRepository.newestFirst => s.order _) hsize
    (fun s i => returns_query.mpr ⟨rfl, rfl⟩) (fun s => (s.answers _).perm)

/-- Whatever the database, the listing and the page size. -/
theorem partitioned_iff (hdb : UniqueConstraints db) (hcollate : Function.Injective collate)
    (hsize : 0 < pageSize) (q : ListQuery) :
    q.Partitioned collate db pageSize ↔ ¬ q.CutsTie db pageSize := by
  cases q with
  | users isSuperuser =>
      exact iff_of_true (partitioned_users hdb hcollate hsize isSuperuser) id
  | groupsForSuperuser =>
      exact iff_of_true (partitioned_groupsForSuperuser hdb hcollate hsize) id
  | groupsForUser currentUserId role =>
      exact iff_of_true (partitioned_groupsForUser hdb hcollate hsize currentUserId role) id
  | members groupId => exact iff_of_true (partitioned_members hdb hcollate hsize groupId) id
  | connections groupId connectionType =>
      exact iff_of_true (partitioned_connections hdb hcollate hsize groupId connectionType) id
  | transfers groupId params =>
      exact iff_of_true (partitioned_transfers hdb hcollate hsize groupId params) id
  | queues groupId => exact iff_of_true (partitioned_queues hdb hsize groupId) id
  | runs transferId params => exact partitioned_runs_iff hdb hsize transferId params

end Listings

/-- Two runs of one transfer, created in the same microsecond. -/
def simultaneousRuns : List Event :=
  sampleEvents ++ [
    .request 8 .returned 1 (.startRun { transferId := 1 }),
    .request 8 .returned 1 (.startRun { transferId := 1 })]

theorem createdAt_simultaneousRuns :
    (RunRepository.stmt (simultaneousRuns.foldl Database.step Database.empty) 1 {}).map
      (fun r => r.createdAt) = [8, 8] := by
  decide +kernel

/-- In pages of two they are listed. -/
theorem partitioned_iff_simultaneousRuns :
    (ListQuery.runs 1 {}).Partitioned (fun name : String => name)
      (simultaneousRuns.foldl Database.step Database.empty) 2 := by
  refine (partitioned_iff (reachable_uniqueConstraints (reachable_foldl simultaneousRuns))
    Function.injective_id (by decide) (ListQuery.runs 1 {})).mpr (fun hcut => ?_)
  rcases hcut with ⟨r, _, i, _, hlt⟩
  have hlength := congrArg List.length createdAt_simultaneousRuns
  rw [List.length_map, List.length_cons, List.length_singleton] at hlength
  have hle := hlt.trans_le List.countP_le_length
  omega

/-- In pages of one, one of them may be shown twice. -/
theorem not_partitioned_simultaneousRuns :
    ¬ (ListQuery.runs 1 {}).Partitioned (fun name : String => name)
      (simultaneousRuns.foldl Database.step Database.empty) 1 := by
  have hdb := reachable_uniqueConstraints (reachable_foldl simultaneousRuns)
  rw [partitioned_runs_iff hdb (by decide), not_not]
  rcases List.map_eq_cons_iff.mp createdAt_simultaneousRuns with ⟨r, rest, hrows, hr, hrest⟩
  rcases List.map_eq_singleton_iff.mp hrest with ⟨s, hs, hscreated⟩
  rw [hs] at hrows
  change CutsTie _ _ (RunRepository.stmt _ 1 {})
  rw [hrows]
  refine ⟨r, List.mem_cons_self, 1, ?_, ?_⟩
  · simp [RunRepository.newestFirst, hr, hscreated]
  · simp [RunRepository.newestFirst, hr, hscreated]

end SyncMaster
