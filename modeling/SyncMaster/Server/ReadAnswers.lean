import SyncMaster.Server.Answers

/-!
# Answers to Requests that Read

Which of the requests that read end in a server error.

There are two ways. The list of groups takes a string for the role, and one that
names no role ends in a `ValueError`. And the driver does not encode every value
that the parameters may have: an identifier outside the range of its column, the
start of a page that is too far behind, a search with a NUL in it, an instant
outside the years of a `datetime`. An identifier is part of the first statement, so
it is noticed at once. What a list is given beside it is noticed only when the
permission is there and the list is read.

## Main definitions

* `MayRead`: The permission that the lists ask for.
* `ReadRoute.Fails`: The routes and parameters that end in a server error.

## Theorems

* `safe_groupList_iff`, `safe_runList_iff`: A list behind its check.
* `safe_answer_iff`: The errors of a route are answered unless it fails.
* `get_serverError_iff`: When a request that reads ends in a server error.
-/

namespace SyncMaster

open Program

/-! ## Statements -/

section Statements

variable {db : Database} {user : User} {α : Type}

/-- What is recovered from is not raised. -/
theorem safe_recovering {α : Type} {recover : Error → Option α} {x : Db α}
    (hx : SafeAt Error.Handled x db) : SafeAt Error.Handled (recovering recover x) db :=
  fun e t h => hx e t (raises_recovering.mp h).1

theorem safe_readOneConnection (hkeys : Keys db) (connectionId : Id) :
    SafeAt Error.Handled (readConnection user connectionId) db := by
  refine safe_resourceGuard (by decide) (fun _ _ _ _ => ?_)
  refine (safeAt_bind_read (always_catching (readOnly_query _))).mpr
    ⟨safe_readConnection hkeys connectionId, fun c _ => ?_⟩
  exact safe_return (safe_recovering (safe_return (safe_readCredentials hkeys c.id)))

theorem not_handled_dataError : ¬ Error.Handled .dataError :=
  fun h => absurd rfl h

/-- There is such a group, and the user may read in it. -/
def MayRead (rights : GroupMemberRole → Permission) (db : Database) (user : User) (groupId : Id) :
    Prop :=
  (∃ g ∈ db.groups, g.id = groupId) ∧ Permitted rights db user groupId .read

/-- There is such a transfer, and the user may read it. -/
def MayReadTransfer (db : Database) (user : User) (transferId : Id) : Prop :=
  ∃ t ∈ db.transfers, t.id = transferId ∧ Permitted memberRights db user t.groupId .read

/-- A list that the driver is given fails only when it does not encode it. -/
theorem safe_encoded_iff {β : Type} {encodable : Bool} {statement : Db α} {rest : α → Db β}
    (h : SafeAt Error.Handled statement db)
    (hrest : ∀ a db', Returns statement db a db' → SafeAt Error.Handled (rest a) db') :
    SafeAt Error.Handled (do let a ← withValues encodable statement; rest a) db ↔
      encodable = true := by
  rw [safeAt_bind, safeAt_withValues not_handled_dataError, and_iff_left h]
  exact and_iff_left (fun a db' hret => hrest a db' (returns_withValues.mp hret).2)

theorem safe_page_iff {β : Type} {encodable : Bool} {statement : Db α} {f : α → β}
    (h : SafeAt Error.Handled statement db) :
    SafeAt Error.Handled (do let a ← withValues encodable statement; return f a) db ↔
      encodable = true :=
  safe_encoded_iff h (fun _ _ _ => safeAt_pure)

/-- A list comes behind the check of the permission on its group. -/
theorem safe_groupList_iff {rights : GroupMemberRole → Permission} (hkeys : Keys db) {groupId : Id}
    {list : Db α} :
    SafeAt Error.Handled (do
      let resourceRole ← query (fun db => groupPermission rights db user groupId)
      raiseIf (resourceRole = .none) .groupNotFoundError
      list) db ↔ (MayRead rights db user groupId → SafeAt Error.Handled list db) := by
  constructor
  · intro h hmay
    rcases groupPermission_of_permitted hkeys.userGroups hmay.1 hmay.2 with ⟨p, hp, hread⟩
    have hne : p ≠ .none := fun hnone => hread (hnone ▸ none_lt_read)
    have hrest := ((safeAt_bind_read (readOnly_query _)).mp h).2 p (returns_query.mpr ⟨hp, rfl⟩)
    exact (safeAt_raiseIf_bind.mp hrest).2 hne
  · intro h
    refine (safeAt_bind_read (readOnly_query _)).mpr ⟨safeAt_query.mpr (fun e he => ?_), ?_⟩
    · rw [groupPermission_eq_error he]
      decide
    · intro p hret
      have hp := (returns_query.mp hret).1
      refine safe_check (by decide) (fun hne => h ⟨group_exists_of_groupPermission hp, ?_⟩)
      exact permitted_of_groupPermission hp none_lt_read (not_lt_read_of_ne_none hne)

/-- The list of runs comes behind the check of the permission on their transfer. -/
theorem safe_runList_iff (hkeys : Keys db) {transferId : Id} {list : Db α} :
    SafeAt Error.Handled (do
      let resourceRule ← TransferRepository.getResourcePermission user transferId
      raiseIf (resourceRule = .none) .transferNotFoundError
      list) db ↔ (MayReadTransfer db user transferId → SafeAt Error.Handled list db) := by
  unfold TransferRepository.getResourcePermission
  rw [safeAt_query_bind, safeAt_raiseIf_bind, and_iff_right (fun _ => by decide)]
  constructor
  · intro h hmay
    rcases hmay with ⟨t, ht, hid, hread⟩
    refine h (fun hnone => ?_)
    have hmay : ¬ resourcePermission memberRights Transfer.model Transfer.toResourceMixin db user
        t.toResourceMixin.id < .read :=
      resourcePermission_of_permitted hkeys.userGroups hkeys.transfers ht hread
    have hid : t.toResourceMixin.id = transferId := hid
    rw [hid, hnone] at hmay
    exact hmay none_lt_read
  · intro h hne
    rcases exists_permitted_of_resourcePermission none_lt_read (not_lt_read_of_ne_none hne) with
      ⟨t, ht, hid, hread⟩
    exact h ⟨t, ht, hid, hread⟩

theorem safe_statement {f : Database → α} :
    SafeAt Error.Handled (query (fun db => .ok (f db))) db :=
  safeAt_query.mpr (fun _ he => by cases he)

theorem safe_readOneGroup (hkeys : Keys db) (groupId : Id) :
    SafeAt Error.Handled (readGroup user groupId) db := by
  refine safe_groupGuard (fun _ _ => safe_check (by decide) (fun _ => ?_))
  refine (safeAt_bind_read (always_catching (readOnly_query _))).mpr
    ⟨safe_readGroup hkeys groupId, fun g _ => safe_return (safeAt_query.mpr (fun e he => ?_))⟩
  split at he
  · cases he
  · split at he <;> cases he

theorem safe_readOneRun (runId : Id) : SafeAt Error.Handled (readRun user runId) db := by
  refine (safeAt_bind_read (readOnly_query _)).mpr ⟨safe_readRun runId, fun run _ => ?_⟩
  exact safe_resourceGuard (by decide) (fun _ _ _ _ => safeAt_pure)

theorem safe_readOneQueue (hkeys : Keys db) (queueId : Id) :
    SafeAt Error.Handled (readQueue user queueId) db :=
  safe_resourceGuard (by decide) (fun _ _ _ _ => safe_readQueue hkeys queueId)

theorem safe_readOneTransfer (hkeys : Keys db) (transferId : Id) :
    SafeAt Error.Handled (readTransfer user transferId) db :=
  safe_resourceGuard (by decide) (fun _ _ _ _ => safe_readTransfer hkeys transferId)

theorem safe_readOneUser (userId : Id) : SafeAt Error.Handled (readUser userId) db := by
  refine safe_return (safeAt_query.mpr (fun e he => ?_))
  split at he
  · cases he
    decide
  · cases he

end Statements

/-! ## Roles -/

/-- The strings that the filter of the list of groups takes for a role, or for none. -/
def roleNames : List String :=
  ["", "Maintainer", "Developer", "Owner", "Guest", "Superuser"]

theorem roleFilter_of_mem {role : String} (h : role ∈ roleNames) :
    ∃ r, roleFilter (some role) = .ok r := by
  simp only [roleNames, List.mem_cons, List.not_mem_nil, or_false] at h
  rcases h with rfl | rfl | rfl | rfl | rfl | rfl
  all_goals exact ⟨_, rfl⟩

theorem roleFilter_of_not_mem {role : String} (h : role ∉ roleNames) :
    roleFilter (some role) = .error (.exception .other) := by
  simp only [roleNames, List.mem_cons, List.not_mem_nil, or_false, not_or] at h
  rcases h with ⟨hempty, hmaintainer, hdeveloper, howner, hguest, hsuperuser⟩
  have hgiven : (some role).filter (fun s => s != "") = some role :=
    if_pos (bne_iff_ne.mpr hempty)
  have hvalue : GroupMemberRole.ofValue role = .error (.exception .other) := by
    unfold GroupMemberRole.ofValue
    split
    · exact absurd rfl hmaintainer
    · exact absurd rfl hdeveloper
    · exact absurd rfl howner
    · exact absurd rfl hguest
    · exact absurd rfl hsuperuser
    · rfl
  unfold roleFilter
  rw [hgiven]
  change (GroupMemberRole.ofValue role >>= _) = _
  rw [hvalue]
  rfl

theorem roleFilter_eq_ok_iff {role : Option String} :
    (∃ r, roleFilter role = .ok r) ↔ ∀ given ∈ role, given ∈ roleNames := by
  constructor
  · rintro ⟨r, hr⟩ given rfl
    by_contra hnot
    rw [roleFilter_of_not_mem hnot] at hr
    cases hr
  · intro h
    cases role with
    | none => exact ⟨_, rfl⟩
    | some given => exact roleFilter_of_mem (h given rfl)

/-! ## Routes -/

section Routes

variable {Tsquery Tsvector Rank Position : Type} [LinearOrder Rank] [LinearOrder Position]
  {text : FullText Tsquery Tsvector Rank} {collate : String → Position}
  {db : Database} {user : User}

/-- The answer is no server error. -/
def Failure.Handled (failure : Failure) : Prop :=
  failure.response.status ≠ 500

/-- The routes that end in a server error, with the parameters for which they do. -/
def ReadRoute.Fails (db : Database) (user : User) : ReadRoute → Prop
  | .currentUser | .connectionTypes => False
  | .user id | .group id | .connection id | .queue id | .transfer id | .run id => ¬ InBigint id
  | .users params searchQuery => params.encodable searchQuery = false
  | .groups params role searchQuery =>
      params.encodable searchQuery = false ∨
        user.isSuperuser = false ∧ ∃ given ∈ role, given ∉ roleNames
  | .groupUsers groupId params =>
      ¬ InBigint groupId ∨ MayRead groupRights db user groupId ∧ params.encodable none = false
  | .connections params =>
      ¬ InBigint params.groupId ∨ MayRead memberRights db user params.groupId ∧
        encodablePage params.page.val params.pageSize.val params.searchQuery = false
  | .queues groupId params searchQuery =>
      ¬ InBigint groupId ∨ MayRead queueRights db user groupId ∧
        params.encodable searchQuery = false
  | .transfers groupId params searchQuery filter =>
      ¬ InBigint groupId ∨ MayRead memberRights db user groupId ∧
        (params.encodable searchQuery && filter.encodable) = false
  | .runs transferId params filter =>
      ¬ InBigint transferId ∨ MayReadTransfer db user transferId ∧
        (params.encodable none && filter.encodable) = false

/-- A handler whose errors are those of the service, and whose result is handed on. -/
theorem safe_route_iff {α β : Type} {x : Db α} {f : α → β} :
    SafeAt Failure.Handled (do let a ← mapError .error x; return f a) db ↔
      SafeAt Error.Handled x db := by
  rw [safeAt_bind, safeAt_mapError, and_iff_left (fun _ _ _ => safeAt_pure)]
  rfl

/-- A handler that is safe once its identifier is encoded. -/
theorem safe_detail_iff {α : Type} {id : Id} {x : Db α} {f : α → ReadAnswer}
    (h : SafeAt Error.Handled x db) :
    SafeAt Failure.Handled (do let a ← mapError .error (withId id x); return f a) db ↔
      ¬ ¬ InBigint id := by
  rw [safe_route_iff, safeAt_withId not_handled_dataError, and_iff_left h, not_not]

/-- A list that is read when the permission is there. -/
theorem safe_list_iff {α : Type} {id : Id} {x : Db α} {f : α → ReadAnswer} {may : Prop}
    {encodable : Bool} (h : SafeAt Error.Handled x db ↔ (may → encodable = true)) :
    SafeAt Failure.Handled (do let a ← mapError .error (withId id x); return f a) db ↔
      ¬ (¬ InBigint id ∨ may ∧ encodable = false) := by
  rw [safe_route_iff, safeAt_withId not_handled_dataError, h, not_or, not_not, not_and,
    Bool.not_eq_false]

/-- A page of groups, behind the filter by role. -/
theorem safe_groupPage_iff {α β : Type} {statement : Db α} {f : α → β} {encodable : Bool}
    (h : SafeAt Error.Handled statement db) :
    SafeAt Failure.Handled (do
      let a ← mapError .error (withValues encodable statement)
      return f a) db ↔ encodable = true := by
  rw [safe_route_iff, safeAt_withValues not_handled_dataError, and_iff_left h]

/-- The filter by role is looked at first, unless a superuser asks. -/
theorem safe_readGroups_iff (answering : Answering text collate) {params : PageParams}
    {role searchQuery : Option String} :
    SafeAt Failure.Handled (readGroups answering user params role searchQuery) db ↔
      params.encodable searchQuery = true ∧
        (user.isSuperuser = false → ∀ given ∈ role, given ∈ roleNames) := by
  unfold readGroups
  by_cases hsuper : user.isSuperuser = true
  · have hrole : user.isSuperuser = false → ∀ given ∈ role, given ∈ roleNames :=
      fun h => absurd (hsuper.symm.trans h) Bool.false_ne_true.symm
    rw [if_pos hsuper, and_iff_left hrole]
    exact safe_groupPage_iff safe_statement
  have hnot : user.isSuperuser = false := Bool.eq_false_iff.mpr hsuper
  rw [if_neg hsuper, safeAt_bind_read (readOnly_query _), safeAt_query]
  by_cases hnames : ∀ given ∈ role, given ∈ roleNames
  · rcases roleFilter_eq_ok_iff.mpr hnames with ⟨r, hr⟩
    rw [and_iff_left (fun _ => hnames)]
    constructor
    · intro h
      exact (safe_groupPage_iff safe_statement).mp (h.2 r (returns_query.mpr ⟨hr, rfl⟩))
    · intro hpage
      refine ⟨fun e he => ?_, fun _ _ => (safe_groupPage_iff safe_statement).mpr hpage⟩
      rw [hr] at he
      cases he
  · -- What names no role is a `ValueError`, which nothing handles.
    refine iff_of_false (fun h => ?_) (fun h => hnames (h.2 hnot))
    simp only [not_forall] at hnames
    rcases hnames with ⟨given, rfl, hgiven⟩
    exact h.1 _ (roleFilter_of_not_mem hgiven) rfl

/-- The errors of a route are answered unless it fails. -/
theorem safe_answer_iff (hdb : Consistent db) (answering : Answering text collate)
    {route : ReadRoute} :
    SafeAt Failure.Handled (route.answer answering user) db ↔ ¬ route.Fails db user := by
  have hkeys := hdb.keys
  cases route with
  | users params searchQuery =>
      exact (safe_route_iff.trans (safe_page_iff safe_statement)).trans
        (iff_of_eq (Bool.not_eq_false _).symm)
  | currentUser => exact iff_of_true safeAt_pure not_false
  | user userId => exact safe_detail_iff (safe_readOneUser userId)
  | groups params role searchQuery =>
      refine safeAt_bind.trans ((and_iff_left (fun _ _ _ => safeAt_pure)).trans ?_)
      refine (safe_readGroups_iff answering).trans ?_
      simp only [ReadRoute.Fails, not_or, Bool.not_eq_false, not_and, not_exists, not_not]
  | group groupId => exact safe_detail_iff (safe_readOneGroup hkeys groupId)
  | groupUsers groupId params =>
      refine safe_list_iff ((safe_groupList_iff hkeys).trans
        (imp_congr_right (fun _ => safe_page_iff ?_)))
      exact (safeAt_bind_read (always_catching (readOnly_query _))).mpr
        ⟨safe_readGroup hkeys groupId, fun _ _ => safe_statement⟩
  | connections params =>
      refine safe_list_iff ((safe_groupList_iff hkeys).trans
        (imp_congr_right (fun _ => safe_encoded_iff safe_statement (fun _ _ _ => ?_))))
      exact safe_return safe_statement
  | connectionTypes => exact iff_of_true safeAt_pure not_false
  | connection connectionId => exact safe_detail_iff (safe_readOneConnection hkeys connectionId)
  | queues groupId params searchQuery =>
      exact safe_list_iff ((safe_groupList_iff hkeys).trans
        (imp_congr_right (fun _ => safe_page_iff safe_statement)))
  | queue queueId => exact safe_detail_iff (safe_readOneQueue hkeys queueId)
  | transfers groupId params searchQuery filter =>
      exact safe_list_iff ((safe_groupList_iff hkeys).trans
        (imp_congr_right (fun _ => safe_page_iff safe_statement)))
  | transfer transferId => exact safe_detail_iff (safe_readOneTransfer hkeys transferId)
  | runs transferId params filter =>
      exact safe_list_iff ((safe_runList_iff hkeys).trans
        (imp_congr_right (fun _ => safe_page_iff safe_statement)))
  | run runId => exact safe_detail_iff (safe_readOneRun runId)

end Routes

end SyncMaster
