import SyncMaster.Library.TwoRuns
import SyncMaster.Tenancy.Ownership

/-!
# Promotions

A higher role never gets in the way.

Two databases are compared that differ in the rights of users only: a member of
the second may have a higher role than in the first, and a user of the second
may be a superuser who is none in the first. Every write that the first accepts
the second accepts as well, with the same answer, and what is left differs in
the rights of users only. So a whole history of accepted events can be replayed
after a promotion, and ends in the same connections, queues, transfers and runs.

It is not true that a higher role of the hierarchy is worth more everywhere.
`OWNER` and `SUPERUSER` are roles that a membership row could hold by their type
and that no body may ask for; their rights in the table of members are those of
a guest. The promotions are therefore those between the public roles.

Nothing is said of the routes that read: these show the roles.

## Main definitions

* `GroupMemberRole.UpTo`: The promotions of a member.
* `Promoted`: The same database, but for promotions.
* `Shared`: A table that promotions do not touch.

## Theorems

* `follows_insertRow`, `follows_updateRow`, `follows_deleteRow`: The statements.
* `follows_groupPermission`, `follows_resourcePermission`: The permissions grow.
* `follows_createConnection` and its siblings: One for each endpoint.
* `accepted_after_promotion`: A history of accepted events can be replayed.
-/

namespace SyncMaster

open Program

/-! ## Promotions -/

/-- The same role, or a higher one that a member can be given. -/
def GroupMemberRole.UpTo (role role' : GroupMemberRole) : Prop :=
  role = role' ∨ (role'.isPublicRole = true ∧ role.level ≤ role'.level)

instance (role role' : GroupMemberRole) : Decidable (role.UpTo role') :=
  inferInstanceAs (Decidable (_ ∨ _))

structure UserGroup.PromotedTo (ug ug' : UserGroup) : Prop where
  groupId : ug'.groupId = ug.groupId
  userId : ug'.userId = ug.userId
  role : ug.role.UpTo ug'.role

structure User.PromotedTo (user user' : User) : Prop where
  id : user'.id = user.id
  username : user'.username = user.username
  isActive : user'.isActive = user.isActive
  isSuperuser : user.isSuperuser = true → user'.isSuperuser = true

/-- The database with other users and members. -/
def Database.withMembers (db : Database) (users : List User) (userGroups : List UserGroup) :
    Database :=
  { db with users := users, userGroups := userGroups }

/-- The second database is the first after promotions. -/
def Promoted (s t : Database) : Prop :=
  ∃ users userGroups, List.Forall₂ User.PromotedTo s.users users ∧
    List.Forall₂ UserGroup.PromotedTo s.userGroups userGroups ∧ t = s.withMembers users userGroups

theorem promotedTo_refl (user : User) : user.PromotedTo user :=
  ⟨rfl, rfl, rfl, id⟩

/-! ### The tables -/

/-- A table that promotions do not touch: what is done to it is done to both. -/
structure Shared {Row : Type} (model : Model Row) : Prop where
  rows : ∀ s t, Promoted s t → model.rows t = model.rows s := by
    rintro s _ ⟨us, ugs, _, _, rfl⟩
    rfl
  constraints : ∀ s t others row, Promoted s t →
      model.constraints t others row = model.constraints s others row := by
    rintro s _ others row ⟨us, ugs, _, _, rfl⟩
    rfl
  withRows : ∀ s t rows, Promoted s t →
      Promoted (model.withRows s rows) (model.withRows t rows) := by
    rintro s _ rows ⟨us, ugs, hus, hugs, rfl⟩
    exact ⟨us, ugs, hus, hugs, rfl⟩
  deleteWhere : ∀ s t p, Promoted s t →
      Promoted (model.deleteWhere s p) (model.deleteWhere t p) := by
    rintro s _ p ⟨us, ugs, hus, hugs, rfl⟩
    exact ⟨us, ugs, hus, hugs, rfl⟩

theorem sharedConnection : Shared Connection.model where

theorem sharedAuthData : Shared AuthData.model where

theorem sharedQueue : Shared Queue.model where

theorem sharedTransfer : Shared Transfer.model where

theorem sharedRun : Shared Run.model where

/-- The groups refer to the users, and the memberships go with them. -/
theorem sharedGroup : Shared Group.model where
  constraints := by
    rintro s _ others g ⟨us, ugs, hus, _, rfl⟩
    have hany : us.any (fun u => u.id == g.ownerId) = s.users.any (fun u => u.id == g.ownerId) :=
      Table.any_of_forall₂ hus (fun u v huv => by rw [huv.id])
    change [_, _, _, (us.any _, _)] = _
    rw [hany]
    rfl
  deleteWhere := by
    rintro s _ p ⟨us, ugs, hus, hugs, rfl⟩
    refine ⟨us, _, hus, Table.delete_of_forall₂ hugs (fun a b hab => ?_), rfl⟩
    change s.groups.any (fun g => p g && g.id == b.groupId) = _
    rw [hab.groupId]

/-! ### Statements -/

section Statements

variable {Row : Type} {model : Model Row}

theorem follows_nextval (s : Sequence) : Follows Promoted Eq (nextval s) (nextval s) := by
  unfold nextval
  refine follows_bind_eq (follows_query_eq ?_) (fun _ => ?_)
  · rintro s _ ⟨us, ugs, _, _, rfl⟩
    rfl
  · refine follows_bind_eq (follows_execute ?_) (fun _ => follows_pure rfl)
    rintro s _ ⟨us, ugs, hus, hugs, rfl⟩
    exact ⟨us, ugs, hus, hugs, rfl⟩

theorem follows_readOne (hm : Shared model) (cond : Row → Bool) :
    Follows Promoted Eq (query (fun db => one ((model.rows db).filter cond)))
      (query (fun db => one ((model.rows db).filter cond))) := by
  refine follows_query_eq (fun s t hst => ?_)
  rw [hm.rows s t hst]

theorem follows_insertRow (hm : Shared model) (row : Row) :
    Follows Promoted Eq (insertRow model row) (insertRow model row) := by
  refine follows_bind_eq (follows_query_eq (fun s t hst => ?_)) (fun _ => ?_)
  · rw [hm.rows s t hst, hm.constraints s t _ row hst]
  · refine follows_bind_eq (follows_execute (fun s t hst => ?_)) (fun _ => follows_pure rfl)
    rw [hm.rows s t hst]
    exact hm.withRows s t _ hst

theorem follows_updateRow (hm : Shared model) (cond : Row → Bool) (values : Row → Row) :
    Follows Promoted Eq (updateRow model cond values) (updateRow model cond values) := by
  refine follows_bind_eq (follows_readOne hm _) (fun row => ?_)
  refine follows_bind_eq (follows_query_eq (fun s t hst => ?_)) (fun _ => ?_)
  · rw [hm.rows s t hst, hm.constraints s t _ _ hst]
  · refine follows_bind_eq (follows_execute (fun s t hst => ?_)) (fun _ => follows_pure rfl)
    rw [hm.rows s t hst]
    exact hm.withRows s t _ hst

theorem follows_deleteRow (hm : Shared model) (cond : Row → Bool) :
    Follows Promoted Eq (deleteRow model cond) (deleteRow model cond) := by
  refine follows_bind_eq (follows_readOne hm _) (fun row => ?_)
  refine follows_bind_eq (follows_execute (fun s t hst => ?_)) (fun _ => follows_pure rfl)
  exact hm.deleteWhere s t cond hst

theorem follows_copy (hm : Shared model) (s : Sequence) (cond : Row → Bool)
    (values : Id → Row → Row) :
    Follows Promoted Eq (Repository.copy model s cond values)
      (Repository.copy model s cond values) := by
  refine follows_bind_eq (follows_readOne hm _) (fun origin => ?_)
  refine follows_bind_eq (follows_nextval s) (fun id => ?_)
  exact follows_insertRow hm _

theorem follows_unitOfWork {α β : Type} {Q : α → β → Prop} {x : Db α} {y : Db β}
    (h : Follows Promoted Q x y) : Follows Promoted Q (unitOfWork x) (unitOfWork y) :=
  follows_atomically h

end Statements

/-! ### Permissions -/

section Permissions

/-- No permission is lost. -/
def Permission.UpTo (p p' : Permission) : Prop :=
  p.value ≤ p'.value

instance (p p' : Permission) : Decidable (p.UpTo p') :=
  inferInstanceAs (Decidable (_ ≤ _))

theorem none_of_upTo {p p' : Permission} (h : p.UpTo p') (hp : p' = .none) : p = .none := by
  rw [hp] at h
  cases p with
  | none => rfl
  | read | write | delete => exact absurd h (by decide)

theorem lt_of_upTo {p p' needed : Permission} (h : p.UpTo p') (hp : p' < needed) : p < needed :=
  Nat.lt_of_le_of_lt h hp

theorem upTo_delete (p : Permission) : p.UpTo .delete := by
  cases p <;> decide

/-- The rights do not shrink with a promotion. -/
def Grow (rights : GroupMemberRole → Permission) : Prop :=
  ∀ role role', role.UpTo role' → (rights role).UpTo (rights role')

theorem grow_memberRights : Grow memberRights := by
  intro role role' h
  cases role <;> cases role' <;> revert h <;> decide

theorem grow_queueRights : Grow queueRights := by
  intro role role' h
  cases role <;> cases role' <;> revert h <;> decide

theorem grow_groupRights : Grow groupRights :=
  fun _ _ _ => Nat.le_refl _

variable {rights : GroupMemberRole → Permission} {user user' : User}

/-- The membership that is found in both databases, if there is one. -/
theorem find_promoted {s t : Database} (hst : Promoted s t) {p : UserGroup → Bool}
    (hp : ∀ ug ug' : UserGroup, ug.PromotedTo ug' → p ug' = p ug) :
    (s.userGroups.find? p = none ∧ t.userGroups.find? p = none) ∨
      ∃ ug ug', s.userGroups.find? p = some ug ∧ t.userGroups.find? p = some ug' ∧
        ug.PromotedTo ug' := by
  rcases hst with ⟨us, ugs, _, hugs, rfl⟩
  exact Table.find_of_forall₂ hugs hp

theorem follows_groupPermission (hrights : Grow rights) (hu : user.PromotedTo user')
    (groupId : Id) :
    Follows Promoted Permission.UpTo (query (fun db => groupPermission rights db user groupId))
      (query (fun db => groupPermission rights db user' groupId)) := by
  refine follows_query (fun s t hst p hp => ?_)
  have hgroups : t.groups = s.groups := sharedGroup.rows s t hst
  unfold groupPermission at hp ⊢
  rw [hgroups, hu.id]
  split at hp
  · cases hp
  · rename_i hgroup
    rw [if_neg hgroup]
    -- The checks come in one order, and each lets the promoted user through no later.
    by_cases hsuper : user'.isSuperuser = true
    · rw [if_pos hsuper]
      exact ⟨.delete, rfl, upTo_delete p⟩
    · have hplain : ¬ user.isSuperuser = true := fun h => hsuper (hu.isSuperuser h)
      rw [if_neg hsuper]
      rw [if_neg hplain] at hp
      split at hp
      · rename_i howner
        rw [if_pos howner]
        cases hp
        exact ⟨.delete, rfl, Nat.le_refl _⟩
      · rename_i howner
        rw [if_neg howner]
        -- The membership is found in both tables or in neither.
        rcases find_promoted hst (p := fun ug => ug.groupId == groupId && ug.userId == user.id)
          (fun ug ug' h => by rw [h.groupId, h.userId]) with ⟨hs, ht⟩ | ⟨ug, ug', hs, ht, hug⟩
        · rw [hs] at hp
          rw [ht]
          cases hp
          exact ⟨.none, rfl, Nat.le_refl _⟩
        · rw [hs] at hp
          rw [ht]
          cases hp
          exact ⟨_, rfl, hrights _ _ hug.role⟩

theorem follows_resourcePermission {Row : Type} {model : Model Row} {resource : Row → ResourceMixin}
    (hm : Shared model) (hrights : Grow rights) (hu : user.PromotedTo user') (resourceId : Id) :
    Follows Promoted Permission.UpTo
      (query (fun db => .ok (resourcePermission rights model resource db user resourceId)) :
        Db Permission)
      (query (fun db => .ok (resourcePermission rights model resource db user' resourceId))) := by
  refine follows_query (fun s t hst p hp => ⟨_, rfl, ?_⟩)
  rw [← Except.ok.inj hp]
  unfold resourcePermission
  have hgroups : t.groups = s.groups := sharedGroup.rows s t hst
  dsimp only
  rw [hm.rows s t hst, hgroups, hu.id]
  split
  · exact Nat.le_refl _
  · by_cases hsuper : user'.isSuperuser = true
    · rw [if_pos hsuper]
      exact upTo_delete _
    · have hplain : ¬ user.isSuperuser = true := fun h => hsuper (hu.isSuperuser h)
      rw [if_neg hsuper, if_neg hplain]
      split
      · exact Nat.le_refl _
      -- The membership is found in both tables or in neither.
      · rcases find_promoted hst
          (p := fun ug => (model.rows s).any (fun r => ug.groupId == (resource r).groupId &&
            (resource r).id == resourceId) && ug.userId == user.id)
          (fun ug ug' h => by rw [h.groupId, h.userId]) with ⟨hs, ht⟩ | ⟨ug, ug', hs, ht, hug⟩
        · rw [hs, ht]
          exact Nat.le_refl _
        · rw [hs, ht]
          exact hrights _ _ hug.role

/-- The check of a permission in front of a program. -/
theorem follows_guard {α β : Type} {x y : Db Permission} {Q : α → β → Prop} {f : Db α} {g : Db β}
    {notFound : Error} {needed : Permission} (hx : Follows Promoted Permission.UpTo x y)
    (hf : Follows Promoted Q f g) :
    Follows Promoted Q
      (do
        let p ← x
        raiseIf (p = .none) notFound
        raiseIf (p < needed) .actionNotAllowedError
        f)
      (do
        let p ← y
        raiseIf (p = .none) notFound
        raiseIf (p < needed) .actionNotAllowedError
        g) :=
  follows_bind hx (fun _ _ hp =>
    follows_check (none_of_upTo hp) (follows_check (lt_of_upTo hp) hf))

end Permissions

/-! ## The endpoints -/

section Endpoints

variable {now : Time} {sent : SendTask} {user user' : User}

theorem follows_readCredentials (connectionId : Id) :
    Follows Promoted Eq (CredentialsRepository.read connectionId)
      (CredentialsRepository.read connectionId) :=
  follows_bind_eq (follows_catching (follows_readOne sharedAuthData _)) (fun _ => follows_pure rfl)

theorem follows_createConnection (hu : user.PromotedTo user') (body : CreateConnectionSchema) :
    Follows Promoted Eq (createConnection now user body) (createConnection now user' body) := by
  refine follows_guard (follows_groupPermission grow_memberRights hu _) ?_
  refine follows_bind_eq (follows_unitOfWork ?_) (fun c => ?_)
  · refine follows_bind_eq ?_ (fun c => ?_)
    · refine follows_bind_eq (follows_nextval _) (fun _ => ?_)
      exact follows_catching (follows_insertRow sharedConnection _)
    · refine follows_bind_eq (follows_catching (follows_insertRow sharedAuthData _)) (fun _ => ?_)
      exact follows_pure rfl
  · exact follows_bind_eq (follows_readCredentials _) (fun _ => follows_pure rfl)

theorem follows_updateConnection (hu : user.PromotedTo user') (connectionId : Id)
    (body : UpdateConnectionSchema) :
    Follows Promoted Eq (updateConnection now user connectionId body)
      (updateConnection now user' connectionId body) := by
  refine follows_guard (follows_resourcePermission sharedConnection grow_memberRights hu _) ?_
  refine follows_bind_eq (follows_unitOfWork ?_) (fun c => ?_)
  · refine follows_bind_eq (follows_catching (follows_readOne sharedConnection _)) (fun old => ?_)
    refine follows_bind_eq (follows_query_eq (fun s t hst => ?_)) (fun linked => ?_)
    · have htransfers : t.transfers = s.transfers := sharedTransfer.rows s t hst
      unfold TransferRepository.listByConnectionId
      rw [htransfers]
    refine follows_check id ?_
    refine follows_bind_eq (follows_readCredentials _) (fun stored => ?_)
    refine follows_bind_eq (follows_query_eq (fun _ _ _ => rfl)) (fun authData => ?_)
    refine follows_bind_eq (follows_catching (follows_catching
      (follows_updateRow sharedConnection _ _))) (fun c => ?_)
    refine follows_bind_eq (follows_catching (follows_catching
      (follows_updateRow sharedAuthData _ _))) (fun _ => ?_)
    exact follows_pure rfl
  · exact follows_bind_eq (follows_readCredentials _) (fun _ => follows_pure rfl)

theorem follows_deleteConnection (hu : user.PromotedTo user') (connectionId : Id) :
    Follows Promoted Eq (deleteConnection user connectionId)
      (deleteConnection user' connectionId) := by
  refine follows_guard (follows_resourcePermission sharedConnection grow_memberRights hu _) ?_
  refine follows_bind_eq (follows_catching (follows_readOne sharedConnection _)) (fun c => ?_)
  refine follows_bind_eq (follows_query_eq (fun s t hst => ?_)) (fun linked => ?_)
  · have htransfers : t.transfers = s.transfers := sharedTransfer.rows s t hst
    unfold TransferRepository.listByConnectionId
    rw [htransfers]
  refine follows_check id ?_
  refine follows_bind_eq (follows_unitOfWork (follows_catching
    (follows_deleteRow sharedConnection _))) (fun _ => ?_)
  exact follows_pure rfl

theorem follows_copyConnection (hu : user.PromotedTo user') (connectionId : Id)
    (body : ConnectionCopySchema) :
    Follows Promoted Eq (copyConnection user connectionId body)
      (copyConnection user' connectionId body) := by
  refine follows_bind (follows_resourcePermission sharedConnection grow_memberRights hu _)
    (fun _ _ hp => ?_)
  refine follows_check (none_of_upTo hp) ?_
  refine follows_check (fun h => ⟨h.1, lt_of_upTo hp h.2⟩) ?_
  refine follows_guard (follows_groupPermission grow_memberRights hu _) ?_
  refine follows_bind_eq (follows_unitOfWork ?_) (fun _ => follows_pure rfl)
  refine follows_bind_eq (follows_catching (follows_copy sharedConnection _ _ _)) (fun c => ?_)
  refine follows_ite ?_ (follows_pure rfl)
  refine follows_bind_eq (follows_catching (follows_deleteRow sharedConnection _)) (fun _ => ?_)
  exact follows_pure rfl

theorem follows_createQueue (hu : user.PromotedTo user') (body : CreateQueueSchema) :
    Follows Promoted Eq (createQueue now user body) (createQueue now user' body) := by
  refine follows_guard (follows_groupPermission grow_queueRights hu _) (follows_unitOfWork ?_)
  refine follows_bind_eq (follows_nextval _) (fun _ => ?_)
  exact follows_catching (follows_insertRow sharedQueue _)

theorem follows_updateQueue (hu : user.PromotedTo user') (queueId : Id)
    (body : UpdateQueueSchema) :
    Follows Promoted Eq (updateQueue now user queueId body)
      (updateQueue now user' queueId body) := by
  refine follows_guard (follows_resourcePermission sharedQueue grow_queueRights hu _) ?_
  exact follows_unitOfWork (follows_catching (follows_catching (follows_updateRow sharedQueue _ _)))

theorem follows_deleteQueue (hu : user.PromotedTo user') (queueId : Id) :
    Follows Promoted Eq (deleteQueue user queueId) (deleteQueue user' queueId) := by
  refine follows_guard (follows_resourcePermission sharedQueue grow_queueRights hu _) ?_
  refine follows_bind_eq (follows_catching (follows_readOne sharedQueue _)) (fun q => ?_)
  refine follows_bind_eq (follows_query_eq (fun s t hst => ?_)) (fun linked => ?_)
  · have htransfers : t.transfers = s.transfers := sharedTransfer.rows s t hst
    unfold TransferRepository.ofQueue
    rw [htransfers]
  refine follows_check id ?_
  refine follows_bind_eq (follows_unitOfWork (follows_catching
    (follows_deleteRow sharedQueue _))) (fun _ => ?_)
  exact follows_pure rfl

theorem follows_checkTransferLinks (body : CreateTransferSchema) (target source : Connection)
    (queue : Queue) :
    Follows Promoted Eq (checkTransferLinks body target source queue)
      (checkTransferLinks body target source queue) := by
  refine follows_check id (follows_check id (follows_check id ?_))
  exact follows_raiseIf id

theorem follows_createTransfer (hu : user.PromotedTo user') (body : CreateTransferSchema) :
    Follows Promoted Eq (createTransfer now user body) (createTransfer now user' body) := by
  refine follows_bind (follows_groupPermission grow_memberRights hu _) (fun _ _ hp => ?_)
  refine follows_check (lt_of_upTo hp) ?_
  refine follows_bind_eq (follows_catching (follows_readOne sharedConnection _)) (fun target => ?_)
  refine follows_bind_eq (follows_catching (follows_readOne sharedConnection _)) (fun source => ?_)
  refine follows_bind_eq (follows_catching (follows_readOne sharedQueue _)) (fun queue => ?_)
  refine follows_bind_eq (follows_checkTransferLinks _ _ _ _) (fun _ => follows_unitOfWork ?_)
  refine follows_bind_eq (follows_nextval _) (fun _ => ?_)
  exact follows_catching (follows_insertRow sharedTransfer _)

theorem follows_copyTransfer (hu : user.PromotedTo user') (transferId : Id)
    (body : CopyTransferSchema) :
    Follows Promoted Eq (copyTransfer user transferId body)
      (copyTransfer user' transferId body) := by
  refine follows_bind (follows_resourcePermission sharedTransfer grow_memberRights hu _)
    (fun _ _ hp => ?_)
  refine follows_check (none_of_upTo hp) ?_
  refine follows_check (fun h => ⟨h.1, lt_of_upTo hp h.2⟩) ?_
  refine follows_bind (follows_groupPermission grow_memberRights hu _) (fun _ _ hp => ?_)
  refine follows_check (lt_of_upTo hp) ?_
  refine follows_bind_eq (follows_catching (follows_readOne sharedTransfer _)) (fun origin => ?_)
  refine follows_bind (follows_resourcePermission sharedConnection grow_memberRights hu _)
    (fun _ _ hp => ?_)
  refine follows_check (none_of_upTo hp) ?_
  refine follows_bind (follows_resourcePermission sharedConnection grow_memberRights hu _)
    (fun _ _ hp => ?_)
  refine follows_check (none_of_upTo hp) ?_
  refine follows_bind_eq (follows_catching (follows_readOne sharedQueue _)) (fun queue => ?_)
  refine follows_check id (follows_unitOfWork ?_)
  refine follows_bind_eq (follows_catching (follows_copy sharedConnection _ _ _)) (fun source => ?_)
  refine follows_bind_eq (follows_ite (follows_pure rfl) (follows_catching
    (follows_copy sharedConnection _ _ _))) (fun target => ?_)
  refine follows_bind_eq (follows_catching (follows_copy sharedTransfer _ _ _)) (fun copied => ?_)
  refine follows_ite ?_ (follows_pure rfl)
  refine follows_bind_eq (follows_catching (follows_deleteRow sharedTransfer _)) (fun _ => ?_)
  exact follows_pure rfl

theorem follows_updateTransfer (hu : user.PromotedTo user') (transferId : Id)
    (body : CreateTransferSchema) :
    Follows Promoted Eq (updateTransfer now user transferId body)
      (updateTransfer now user' transferId body) := by
  refine follows_guard (follows_resourcePermission sharedTransfer grow_memberRights hu _) ?_
  refine follows_bind_eq (follows_catching (follows_readOne sharedConnection _)) (fun target => ?_)
  refine follows_bind_eq (follows_catching (follows_readOne sharedConnection _)) (fun source => ?_)
  refine follows_bind_eq (follows_catching (follows_readOne sharedQueue _)) (fun queue => ?_)
  refine follows_bind (follows_resourcePermission sharedConnection grow_memberRights hu _)
    (fun _ _ htarget => ?_)
  refine follows_bind (follows_resourcePermission sharedConnection grow_memberRights hu _)
    (fun _ _ hsource => ?_)
  refine follows_check (Or.imp (none_of_upTo hsource) (none_of_upTo htarget)) ?_
  refine follows_bind_eq (follows_checkTransferLinks _ _ _ _) (fun _ => follows_unitOfWork ?_)
  exact follows_catching (follows_catching (follows_updateRow sharedTransfer _ _))

theorem follows_deleteTransfer (hu : user.PromotedTo user') (transferId : Id) :
    Follows Promoted Eq (deleteTransfer user transferId) (deleteTransfer user' transferId) := by
  refine follows_guard (follows_resourcePermission sharedTransfer grow_memberRights hu _) ?_
  refine follows_bind_eq (follows_unitOfWork (follows_catching
    (follows_deleteRow sharedTransfer _))) (fun _ => ?_)
  exact follows_pure rfl

/-! ### Groups and their members -/

/-- A membership that is added is the same in both databases. -/
theorem follows_addUser (groupId userId : Id) (role : GroupMemberRole) :
    Follows Promoted Eq (GroupRepository.addUser groupId userId role)
      (GroupRepository.addUser groupId userId role) := by
  refine follows_catching ?_
  refine follows_bind_eq (follows_query_eq ?_) (fun _ => ?_)
  · rintro s _ ⟨us, ugs, hus, hugs, rfl⟩
    have huser : us.any (fun u => u.id == userId) = s.users.any (fun u => u.id == userId) :=
      Table.any_of_forall₂ hus (fun a b hab => by rw [hab.id])
    have hkey : ugs.any (fun m => m.userId == userId && m.groupId == groupId) =
        s.userGroups.any (fun m => m.userId == userId && m.groupId == groupId) :=
      Table.any_of_forall₂ hugs (fun a b hab => by rw [hab.userId, hab.groupId])
    change firstViolation [(!ugs.any _, _), _, (us.any _, _)] = _
    rw [huser, hkey]
    rfl
  · refine follows_bind_eq (follows_execute ?_) (fun _ => follows_pure rfl)
    rintro s _ ⟨us, ugs, hus, hugs, rfl⟩
    exact ⟨us, _, hus, List.rel_append hugs (.cons ⟨rfl, rfl, Or.inl rfl⟩ .nil), rfl⟩

theorem isMembership_congr (groupId userId : Id) (ug ug' : UserGroup) (h : ug.PromotedTo ug') :
    GroupRepository.isMembership groupId userId ug' =
      GroupRepository.isMembership groupId userId ug := by
  unfold GroupRepository.isMembership
  rw [h.groupId, h.userId]

/-- The membership that a statement is about, found in both databases. -/
theorem follows_readMembership (groupId userId : Id) :
    Follows Promoted UserGroup.PromotedTo
      (query (fun db => one ((UserGroup.model.rows db).filter
        (GroupRepository.isMembership groupId userId))))
      (query (fun db => one ((UserGroup.model.rows db).filter
        (GroupRepository.isMembership groupId userId)))) := by
  refine follows_query ?_
  rintro s _ ⟨us, ugs, hus, hugs, rfl⟩ ug hug
  have hrows := Table.filter_of_forall₂ hugs (isMembership_congr groupId userId)
  have hone : s.userGroups.filter (GroupRepository.isMembership groupId userId) = [ug] :=
    one_eq_ok_iff.mp hug
  rw [hone] at hrows
  rcases List.forall₂_cons_left_iff.mp hrows with ⟨ug', rest, hug', hnil, heq⟩
  rw [List.forall₂_nil_left_iff.mp hnil] at heq
  exact ⟨ug', one_eq_ok_iff.mpr heq, hug'⟩

theorem follows_deleteUser (groupId userId : Id) :
    Follows Promoted UserGroup.PromotedTo (GroupRepository.deleteUser groupId userId)
      (GroupRepository.deleteUser groupId userId) := by
  refine follows_catching (follows_bind (follows_readMembership _ _) (fun ug ug' hug => ?_))
  refine follows_bind_eq (follows_execute ?_) (fun _ => follows_pure hug)
  rintro s _ ⟨us, ugs, hus, hugs, rfl⟩
  exact ⟨us, _, hus, Table.delete_of_forall₂ hugs (isMembership_congr _ _), rfl⟩

theorem follows_updateMemberRole (groupId userId : Id) (role : GroupMemberRole) :
    Follows Promoted Eq (GroupRepository.updateMemberRole groupId userId role)
      (GroupRepository.updateMemberRole groupId userId role) := by
  refine follows_catching (follows_bind (follows_readMembership _ _) (fun _ _ _ => ?_))
  refine follows_bind_eq (follows_query_eq ?_) (fun _ => ?_)
  · rintro s _ ⟨us, ugs, hus, hugs, rfl⟩
    have hothers := Table.delete_of_forall₂ hugs (isMembership_congr groupId userId)
    have huser : us.any (fun u => u.id == userId) = s.users.any (fun u => u.id == userId) :=
      Table.any_of_forall₂ hus (fun a b hab => by rw [hab.id])
    have hkey := Table.any_of_forall₂ hothers
      (p := fun m => m.userId == userId && m.groupId == groupId)
      (q := fun m => m.userId == userId && m.groupId == groupId)
      (fun a b hab => by rw [hab.userId, hab.groupId])
    change firstViolation [(!(Table.delete _ ugs).any _, _), _, (us.any _, _)] = _
    rw [huser, hkey]
    rfl
  · refine follows_bind_eq (follows_execute ?_) (fun _ => follows_pure rfl)
    rintro s _ ⟨us, ugs, hus, hugs, rfl⟩
    refine ⟨us, _, hus, Table.update_of_forall₂ hugs (isMembership_congr _ _) (fun _ _ _ => ?_),
      rfl⟩
    exact ⟨rfl, rfl, Or.inl rfl⟩

theorem follows_readGroup (groupId : Id) :
    Follows Promoted Eq (GroupRepository.readById groupId) (GroupRepository.readById groupId) :=
  follows_catching (follows_readOne sharedGroup _)

theorem follows_createGroup (hu : user.PromotedTo user') (body : CreateGroupSchema) :
    Follows Promoted Eq (createGroup now user body) (createGroup now user' body) := by
  unfold createGroup
  rw [hu.id]
  refine follows_unitOfWork (follows_bind_eq (follows_nextval _) (fun _ => ?_))
  exact follows_catching (follows_insertRow sharedGroup _)

theorem follows_updateGroup (hu : user.PromotedTo user') (groupId : Id)
    (body : UpdateGroupSchema) :
    Follows Promoted Eq (updateGroup now user groupId body)
      (updateGroup now user' groupId body) := by
  refine follows_guard (follows_groupPermission grow_groupRights hu _) (follows_unitOfWork ?_)
  refine follows_bind_eq (follows_readGroup groupId) (fun old => ?_)
  refine follows_bind_eq (follows_catching (follows_catching
    (follows_updateRow sharedGroup _ _))) (fun g => ?_)
  refine follows_ite ?_ (follows_pure rfl)
  -- The two memberships may differ in their role, but only whether there is one is asked.
  have hfound : Follows Promoted (fun o o' : Option UserGroup => o'.isSome = o.isSome)
      (GroupRepository.getUserGroup groupId body.ownerId)
      (GroupRepository.getUserGroup groupId body.ownerId) := by
    refine follows_query (fun s t hst o ho => ⟨_, rfl, ?_⟩)
    rw [← Except.ok.inj ho]
    rcases find_promoted hst (p := GroupRepository.isMembership groupId body.ownerId)
      (isMembership_congr _ _) with ⟨hs, ht⟩ | ⟨_, _, hs, ht, _⟩
    · rw [hs, ht]
    · rw [hs, ht]
      rfl
  refine follows_bind hfound (fun o o' ho => ?_)
  rw [ho]
  refine follows_ite ?_ ?_
  · refine follows_bind (follows_deleteUser _ _) (fun _ _ _ => ?_)
    exact follows_bind_eq (follows_addUser _ _ _) (fun _ => follows_pure rfl)
  · exact follows_bind_eq (follows_addUser _ _ _) (fun _ => follows_pure rfl)

theorem follows_deleteGroup (hu : user.PromotedTo user') (groupId : Id) :
    Follows Promoted Eq (deleteGroup user groupId) (deleteGroup user' groupId) := by
  refine follows_check (fun hplain => ?_) ?_
  · cases hsuper : user.isSuperuser with
    | false => rfl
    | true => exact absurd (hu.isSuperuser hsuper) (Bool.eq_false_iff.mp hplain)
  · refine follows_bind_eq (follows_unitOfWork (follows_catching
      (follows_deleteRow sharedGroup _))) (fun _ => ?_)
    exact follows_pure rfl

theorem follows_updateUserRoleGroup (hu : user.PromotedTo user') (groupId userId : Id)
    (body : AddUserSchema) :
    Follows Promoted Eq (updateUserRoleGroup user groupId userId body)
      (updateUserRoleGroup user' groupId userId body) :=
  follows_guard (follows_groupPermission grow_groupRights hu _)
    (follows_unitOfWork (follows_updateMemberRole _ _ _))

theorem follows_addUserToGroup (hu : user.PromotedTo user') (groupId userId : Id)
    (body : AddUserSchema) :
    Follows Promoted Eq (addUserToGroup user groupId userId body)
      (addUserToGroup user' groupId userId body) := by
  refine follows_guard (follows_groupPermission grow_groupRights hu _) ?_
  refine follows_bind_eq (follows_readGroup groupId) (fun g => follows_check id ?_)
  exact follows_bind_eq (follows_unitOfWork (follows_addUser _ _ _)) (fun _ => follows_pure rfl)

theorem follows_deleteUserFromGroup (hu : user.PromotedTo user') (groupId userId : Id) :
    Follows Promoted Eq (deleteUserFromGroup user groupId userId)
      (deleteUserFromGroup user' groupId userId) := by
  refine follows_bind (follows_groupPermission grow_groupRights hu _) (fun _ _ hp => ?_)
  refine follows_check (none_of_upTo hp) ?_
  refine follows_check (fun h => ⟨by rw [← hu.id]; exact h.1, lt_of_upTo hp h.2⟩) ?_
  exact follows_bind (follows_unitOfWork (follows_deleteUser _ _)) (fun _ _ _ => follows_pure rfl)

/-! ### Runs -/

theorem follows_createRun (transferId : Id) (source target : AuthValue) (type : RunType) :
    Follows Promoted Eq (RunRepository.create now transferId source target type)
      (RunRepository.create now transferId source target type) := by
  refine follows_bind_eq ?_ (fun dump => ?_)
  · refine follows_bind_eq (follows_readOne sharedTransfer _) (fun _ => ?_)
    refine follows_bind_eq (follows_readOne sharedConnection _) (fun _ => ?_)
    exact follows_bind_eq (follows_readOne sharedConnection _) (fun _ => follows_pure rfl)
  · refine follows_bind_eq (follows_nextval _) (fun _ => ?_)
    exact follows_catching (follows_insertRow sharedRun _)

theorem follows_createAndSendRun (transfer : Transfer) (type : RunType) :
    Follows Promoted Eq (createAndSendRun now transfer type sent)
      (createAndSendRun now transfer type sent) := by
  refine follows_bind_eq (follows_readCredentials _) (fun source => ?_)
  refine follows_bind_eq (follows_readCredentials _) (fun target => ?_)
  refine follows_bind_eq (follows_unitOfWork (follows_createRun _ _ _ _)) (fun run => ?_)
  cases sent with
  | returned => exact follows_pure rfl
  | kombuError =>
      refine follows_bind_eq (follows_unitOfWork (follows_catching (follows_catching
        (follows_updateRow sharedRun _ _)))) (fun _ => ?_)
      exact follows_throw _ _
  | otherError => exact follows_throw _ _

theorem follows_startRun (hu : user.PromotedTo user') (body : CreateRunSchema) :
    Follows Promoted Eq (startRun now sent user body) (startRun now sent user' body) := by
  refine follows_guard (follows_resourcePermission sharedTransfer grow_memberRights hu _) ?_
  refine follows_bind_eq (follows_catching (follows_readOne sharedTransfer _)) (fun t => ?_)
  refine follows_bind_eq (follows_catching (follows_readOne sharedQueue _)) (fun _ => ?_)
  exact follows_createAndSendRun _ _

theorem follows_readRun (runId : Id) :
    Follows Promoted Eq (RunRepository.readById runId) (RunRepository.readById runId) := by
  refine follows_query_eq (fun s t hst => ?_)
  have hruns : t.runs = s.runs := sharedRun.rows s t hst
  rw [hruns]

theorem follows_stopRun (hu : user.PromotedTo user') (runId : Id) :
    Follows Promoted Eq (stopRun now user runId) (stopRun now user' runId) := by
  refine follows_bind_eq (follows_readRun runId) (fun run => ?_)
  refine follows_guard (follows_resourcePermission sharedTransfer grow_memberRights hu _) ?_
  refine follows_unitOfWork (follows_bind_eq (follows_readRun runId) (fun _ => ?_))
  exact follows_check id (follows_updateRow sharedRun _ _)

/-! ### All requests -/

theorem follows_response {α : Type} {x y : Db α} {f : α → Response} (h : Follows Promoted Eq x y) :
    Follows Promoted Eq (do let a ← x; return f a) (do let a ← y; return f a) :=
  follows_bind_eq h (fun _ => follows_pure rfl)

theorem follows_handle (hu : user.PromotedTo user') {request : Request} (hw : request.Writes) :
    Follows Promoted Eq (handle now sent user request) (handle now sent user' request) := by
  cases request with
  -- What is read does depend on the role.
  | read answer => exact hw.elim
  | createConnection body => exact follows_response (follows_createConnection hu body)
  | updateConnection connectionId body =>
      exact follows_response (follows_updateConnection hu connectionId body)
  | deleteConnection connectionId =>
      exact follows_bind_eq (follows_deleteConnection hu connectionId) (fun _ => follows_pure rfl)
  | copyConnection connectionId body =>
      exact follows_response (follows_copyConnection hu connectionId body)
  | createQueue body => exact follows_response (follows_createQueue hu body)
  | updateQueue queueId body => exact follows_response (follows_updateQueue hu queueId body)
  | deleteQueue queueId =>
      exact follows_bind_eq (follows_deleteQueue hu queueId) (fun _ => follows_pure rfl)
  | createTransfer body => exact follows_response (follows_createTransfer hu body)
  | copyTransfer transferId body => exact follows_response (follows_copyTransfer hu transferId body)
  | updateTransfer transferId body =>
      exact follows_response (follows_updateTransfer hu transferId body)
  | deleteTransfer transferId =>
      exact follows_bind_eq (follows_deleteTransfer hu transferId) (fun _ => follows_pure rfl)
  | createGroup body => exact follows_response (follows_createGroup hu body)
  | updateGroup groupId body => exact follows_response (follows_updateGroup hu groupId body)
  | deleteGroup groupId =>
      exact follows_bind_eq (follows_deleteGroup hu groupId) (fun _ => follows_pure rfl)
  | updateUserRoleGroup groupId userId body =>
      exact follows_response (follows_updateUserRoleGroup hu groupId userId body)
  | addUserToGroup groupId userId body =>
      exact follows_bind_eq (follows_addUserToGroup hu groupId userId body)
        (fun _ => follows_pure rfl)
  | deleteUserFromGroup groupId userId =>
      exact follows_bind_eq (follows_deleteUserFromGroup hu groupId userId)
        (fun _ => follows_pure rfl)
  | startRun body => exact follows_response (follows_startRun hu body)
  | stopRun runId => exact follows_response (follows_stopRun hu runId)

/-- The user that the access token names may have been promoted as well. -/
theorem follows_getUser (userId : Id) :
    Follows Promoted User.PromotedTo (getUser userId) (getUser userId) := by
  refine follows_bind (P := User.PromotedTo) ?_ (fun u u' hu => ?_)
  · refine follows_query ?_
    rintro s _ ⟨us, ugs, hus, hugs, rfl⟩ u hread
    rcases Table.find_of_forall₂ hus (p := fun u => u.id == userId) (q := fun u => u.id == userId)
      (fun a b hab => by rw [hab.id]) with ⟨hs, _⟩ | ⟨a, b, hs, ht, hab⟩
    · rw [hs] at hread
      cases hread
    · rw [hs] at hread
      cases hread
      have hfound : (s.withMembers us ugs).users.find? (fun u => u.id == userId) = some b := ht
      refine ⟨b, ?_, hab⟩
      rw [hfound]
  · exact follows_check (fun h => by rw [← hu.isActive]; exact h) (follows_pure hu)

theorem follows_api (userId : Id) {request : Request} (hw : request.Writes) :
    Follows Promoted Eq (api now sent userId request) (api now sent userId request) :=
  follows_bind (follows_getUser userId) (fun _ _ hu => follows_handle hu hw)

end Endpoints

/-! ## Histories -/

section Histories

variable {now : Time} {sent : SendTask}

theorem follows_insertUser (user : User) :
    Follows Promoted Eq (insertRow User.model user) (insertRow User.model user) := by
  refine follows_bind_eq (follows_query_eq ?_) (fun _ => ?_)
  · rintro s _ ⟨us, ugs, hus, hugs, rfl⟩
    have hname : us.any (fun v => v.username == user.username) =
        s.users.any (fun v => v.username == user.username) :=
      Table.any_of_forall₂ hus (fun a b hab => by rw [hab.username])
    change firstViolation [_, (!us.any _, _)] = _
    rw [hname]
    rfl
  · refine follows_bind_eq (follows_execute ?_) (fun _ => follows_pure rfl)
    rintro s _ ⟨us, ugs, hus, hugs, rfl⟩
    exact ⟨_, ugs, List.rel_append hus (.cons (promotedTo_refl user) .nil), hugs, rfl⟩

theorem follows_login (username : String) :
    Follows Promoted User.PromotedTo (login username) (login username) := by
  refine follows_unitOfWork ?_
  refine follows_bind (P := Option.Rel User.PromotedTo) ?_ (fun found found' hfound => ?_)
  · refine follows_query ?_
    rintro s _ ⟨us, ugs, hus, hugs, rfl⟩ found hread
    refine ⟨_, rfl, ?_⟩
    rw [← Except.ok.inj hread]
    change Option.Rel _ _ (us.find? _)
    rcases Table.find_of_forall₂ hus (p := fun u => u.username == username)
      (q := fun u => u.username == username) (fun a b hab => by rw [hab.username]) with
      ⟨hs, ht⟩ | ⟨a, b, hs, ht, hab⟩
    · rw [hs, ht]
      exact .none
    · rw [hs, ht]
      exact .some hab
  · cases hfound with
    | some hab => exact follows_pure hab
    | none =>
        refine follows_bind_eq (follows_nextval _) (fun id => ?_)
        intro s t hst u s' hu
        rcases follows_insertUser _ s t hst u s' hu with ⟨v, t', hv, rfl, hst'⟩
        exact ⟨u, t', hv, promotedTo_refl u, hst'⟩

theorem follows_insertSuperusers (usernames : List String) :
    Follows Promoted Eq (insertSuperusers usernames) (insertSuperusers usernames) := by
  induction usernames with
  | nil => exact follows_pure rfl
  | cons username rest ih =>
      refine follows_bind_eq (follows_query_eq ?_) (fun found => ?_)
      · rintro s _ ⟨us, ugs, hus, hugs, rfl⟩
        have hname : us.any (fun u => u.username == username) =
            s.users.any (fun u => u.username == username) :=
          Table.any_of_forall₂ hus (fun a b hab => by rw [hab.username])
        change Except.ok (us.any _) = _
        rw [hname]
      · refine follows_ite ih ?_
        refine follows_bind_eq (follows_nextval _) (fun id => ?_)
        exact follows_bind_eq (follows_insertUser _) (fun _ => ih)

theorem follows_setSuperuser (usernames : List String) (isSuperuser : Bool) :
    Follows Promoted Eq (setSuperuser usernames isSuperuser)
      (setSuperuser usernames isSuperuser) := by
  refine follows_execute ?_
  rintro s _ ⟨us, ugs, hus, hugs, rfl⟩
  refine ⟨_, ugs, Table.update_of_forall₂ hus (fun a b hab => ?_) (fun a b hab => ?_), hugs, rfl⟩
  · rw [hab.username]
  · exact ⟨hab.id, hab.username, hab.isActive, id⟩

theorem follows_updateSelectedRun (runId : Id) (cond : Run → Bool) (values : Run → Run) :
    Follows Promoted Eq (updateSelectedRun runId cond values)
      (updateSelectedRun runId cond values) := by
  refine follows_unitOfWork
    (follows_bind_eq (follows_query_eq (fun s t hst => ?_)) (fun runs => ?_))
  · have hruns : t.runs = s.runs := sharedRun.rows s t hst
    rw [hruns]
  · cases runs with
    | nil => exact follows_pure rfl
    | cons _ _ =>
        exact follows_bind_eq (follows_updateRow sharedRun _ _) (fun _ => follows_pure rfl)

theorem follows_sendJobToCelery (transferId : Id) :
    Follows Promoted Eq (sendJobToCelery now sent transferId)
      (sendJobToCelery now sent transferId) := by
  refine follows_bind_eq (follows_query_eq (fun s t hst => ?_)) (fun transfers => ?_)
  · have htransfers : t.transfers = s.transfers := sharedTransfer.rows s t hst
    rw [htransfers]
  · cases transfers with
    | nil => exact follows_pure rfl
    | cons transfer _ =>
        exact follows_bind_eq (follows_createAndSendRun _ _) (fun _ => follows_pure rfl)

/-- The event is no request that reads. -/
def Event.Writes : Event → Prop
  | .request _ _ _ body => body.Writes
  | _ => True

theorem follows_perform {e : Event} (hw : e.Writes) :
    Follows Promoted Eq (perform e) (perform e) := by
  cases e with
  | request now sent userId request =>
      exact follows_bind_eq (follows_api userId hw) (fun _ => follows_pure rfl)
  | login username => exact follows_bind (follows_login username) (fun _ _ _ => follows_pure rfl)
  | addSuperusers usernames =>
      exact follows_unitOfWork (follows_bind_eq (follows_setSuperuser usernames true)
        (fun _ => follows_insertSuperusers usernames))
  | removeSuperusers usernames =>
      exact follows_unitOfWork (follows_setSuperuser usernames false)
  | sendJobToCelery now sent transferId =>
      exact follows_bind_eq (follows_sendJobToCelery transferId) (fun _ => follows_pure rfl)
  | startTask now runId logUrl => exact follows_updateSelectedRun _ _ _
  | finishTask now runId failed => exact follows_updateSelectedRun _ _ _

/-- A step of the service by an event that writes and is accepted. -/
def acceptedStep (db : Database) (e : Event) (db' : Database) : Prop :=
  e.Writes ∧ Returns (perform e) db () db'

/-- The events write, and each is accepted where the ones before it have led. -/
def AllAccepted (db : Database) (events : List Event) : Prop :=
  Machine.Run acceptedStep db events (events.foldl Database.step db)

/-- Accepted steps are steps. -/
theorem foldl_of_accepted {db db' : Database} {events : List Event}
    (h : Machine.Run acceptedStep db events db') : events.foldl Database.step db = db' := by
  have hstep : ∀ db e db', acceptedStep db e db' → Machine.graph Database.step db e db' :=
    fun _ _ _ haccepted => after_of_returns haccepted.2
  exact Machine.run_graph.mp (Machine.run_mono hstep h)

/-- What was accepted before a promotion is accepted after it, event by event, and leaves
    the same, but for the promotion. -/
theorem accepted_after_promotion {events : List Event} {s t : Database}
    (haccepted : AllAccepted s events) (hst : Promoted s t) :
    AllAccepted t events ∧
      Promoted (events.foldl Database.step s) (events.foldl Database.step t) := by
  have hfollows : ∀ s e u t, Promoted s t → acceptedStep s e u →
      ∃ v, acceptedStep t e v ∧ Promoted u v := by
    intro s e u t hst hstep
    rcases follows_perform hstep.1 s t hst () u hstep.2 with ⟨_, v, hv, _, huv⟩
    exact ⟨v, ⟨hstep.1, hv⟩, huv⟩
  rcases Machine.run_follows hfollows haccepted hst with ⟨t', ht', hst'⟩
  unfold AllAccepted
  rw [foldl_of_accepted ht']
  exact ⟨ht', hst'⟩

end Histories

/-! ## A developer who becomes a maintainer -/

def developerPromoted : List Event :=
  memberEvents ++ [.request 3 .returned 1 (.updateUserRoleGroup 1 2 sampleRole)]

/-- A connection that the member creates. -/
def memberCreates : Event :=
  .request 4 .returned 2 (.createConnection (sampleConnection 1))

/-- The developer creates it, and the maintainer could. -/
theorem accepted_after_promotion_memberCreates :
    AllAccepted (developerPromoted.foldl Database.step Database.empty) [memberCreates] ∧
      Promoted ((memberEvents.foldl Database.step Database.empty).step memberCreates)
        ((developerPromoted.foldl Database.step Database.empty).step memberCreates) :=
  accepted_after_promotion (s := memberEvents.foldl Database.step Database.empty)
    (.cons ⟨trivial, rfl⟩ (.nil _))
    ⟨(developerPromoted.foldl Database.step Database.empty).users,
      (developerPromoted.foldl Database.step Database.empty).userGroups,
      .cons (promotedTo_refl _) (.cons (promotedTo_refl _) .nil),
      .cons ⟨rfl, rfl, Or.inr (by decide)⟩ .nil, rfl⟩

end SyncMaster
