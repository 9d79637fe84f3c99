import SyncMaster.Tenancy.SameGroup

/-!
# Transfers and the Types of their Connections

The worker picks the handler of a transfer by the type its parameters are for,
and hands it the data of the connection. The two have to be of one type.

Nothing in the schema of the database says so. A transfer is checked when it
is created or pointed at other connections, a connection keeps its type while
a transfer uses it, and a copy has the type of its original. `KeepsTypes` is
what these checks come to, write by write, and the invariant follows.

A deletion is the case that needs the foreign keys: a cascade spares a
transfer only together with its connections, and identifiers are distinct, so
the connections that remain are the ones that were checked.

## Main definitions

* `TypesAgree`: The invariant.
* `TypedLinks`, `AllTyped`: The same as a statement about rows.
* `Write.KeepsTypes`: What the endpoints establish about types before a write.

## Theorems

* `typesAgree_iff_allTyped`: The invariant as a statement about rows.
* `typedStep_allTyped`: The writes that keep types keep it.
* `outcome_keepsTypes`: The endpoints make no other writes.
* `typesAgree_of_reachable`: It holds in every reachable state.
-/

namespace SyncMaster

/-- The parameters of every transfer are for the types of its connections. -/
def TypesAgree (db : Database) : Prop :=
  ∀ t ∈ db.transfers,
    (t.sourceConnection db).map (fun c => c.type) = some t.sourceParams.type ∧
    (t.targetConnection db).map (fun c => c.type) = some t.targetParams.type

/-- The connections of the transfer are there, with the types of its
    parameters. -/
structure TypedLinks (db : Database) (t : Transfer) : Prop where
  source : ∃ c ∈ db.connections, c.id = t.sourceConnectionId ∧ c.type = t.sourceParams.type
  target : ∃ c ∈ db.connections, c.id = t.targetConnectionId ∧ c.type = t.targetParams.type

/-- Every transfer is linked to connections of its types. -/
def AllTyped (db : Database) : Prop :=
  ∀ t ∈ db.transfers, TypedLinks db t

/-- The type of a connection that is looked up, when identifiers are distinct. -/
theorem find_type_iff {connections : List Connection} {id : Id} {type : ConnectionType}
    (hd : Table.Distinct (fun c : Connection => c.id) connections) :
    (Table.find (fun c : Connection => c.id) connections id).map (fun c => c.type) = some type ↔
      ∃ c ∈ connections, c.id = id ∧ c.type = type := by
  rw [Option.map_eq_some_iff]
  constructor
  · intro h
    rcases h with ⟨c, hfind, htype⟩
    rcases (Table.find_eq_some_iff _ hd).mp hfind with ⟨hc, hid⟩
    exact ⟨c, hc, hid, htype⟩
  · intro h
    rcases h with ⟨c, hc, hid, htype⟩
    exact ⟨c, (Table.find_eq_some_iff _ hd).mpr ⟨hc, hid⟩, htype⟩

theorem typesAgree_iff_allTyped {db : Database} (hk : Keys db) :
    TypesAgree db ↔ AllTyped db := by
  refine forall_congr' (fun t => forall_congr' (fun _ => ?_))
  constructor
  · intro h
    exact ⟨(find_type_iff hk.connections).mp h.1, (find_type_iff hk.connections).mp h.2⟩
  · intro h
    exact ⟨(find_type_iff hk.connections).mpr h.source, (find_type_iff hk.connections).mpr h.target⟩

/-! ## Writes -/

/-- What the endpoints establish about types before a write. -/
def Write.KeepsTypes (db : Database) : Write → Prop
  | updateConnection c =>
      ∃ old ∈ db.connections, old.id = c.id ∧ (old.type = c.type ∨ Unused db old)
  | insertTransfer t | updateTransfer t => TypedLinks db t
  | _ => True

/-- The transition system of the writes that keep types. -/
def typedStep (db : Database) (w : Write) (db' : Database) : Prop :=
  w.KeepsTypes db ∧ checkedStep db w db'

section Writes

variable {db db' : Database}

/-- The connections that a transfer uses stay, with their types. -/
theorem typedLinks_of_keeps {t : Transfer} (h : TypedLinks db t)
    (hkeeps : ∀ c ∈ db.connections, c.id = t.sourceConnectionId ∨ c.id = t.targetConnectionId →
      ∃ d ∈ db'.connections, d.id = c.id ∧ d.type = c.type) : TypedLinks db' t := by
  rcases h.source with ⟨c, hc, hcid, hctype⟩
  rcases h.target with ⟨d, hd, hdid, hdtype⟩
  rcases hkeeps c hc (Or.inl hcid) with ⟨c', hc', hcid', hctype'⟩
  rcases hkeeps d hd (Or.inr hdid) with ⟨d', hd', hdid', hdtype'⟩
  exact ⟨⟨c', hc', hcid'.trans hcid, hctype'.trans hctype⟩,
    ⟨d', hd', hdid'.trans hdid, hdtype'.trans hdtype⟩⟩

theorem typedLinks_of_subset {t : Transfer} (h : TypedLinks db t)
    (hsub : ∀ c ∈ db.connections, c ∈ db'.connections) : TypedLinks db' t :=
  typedLinks_of_keeps h (fun c hc _ => ⟨c, hsub c hc, rfl, rfl⟩)

/-- The transfers are the same, or fewer, and the connections are the same, or
    more. -/
theorem allTyped_of_subset (h : AllTyped db) (hc : ∀ c ∈ db.connections, c ∈ db'.connections)
    (ht : ∀ t ∈ db'.transfers, t ∈ db.transfers) : AllTyped db' :=
  fun t hmem => typedLinks_of_subset (h t (ht t hmem)) hc

/-- A cascade spares a transfer only with its connections. -/
theorem allTyped_shrinks (h : AllTyped db) (hk : Keys db) (hs : Shrinks db db')
    (hr : ResourceLinks db') : AllTyped db' := by
  intro t ht
  have hsource := hr.transferSource t ht
  have htarget := hr.transferTarget t ht
  refine typedLinks_of_keeps (h t (hs.transfers.subset ht)) (fun c hc hused => ?_)
  -- The connection that remains is the one that was there.
  have hremains : ∃ d ∈ db'.connections, d.id = c.id := by
    rcases hused with hid | hid
    · rw [hid]
      exact hsource
    · rw [hid]
      exact htarget
  rcases hremains with ⟨d, hd, hid⟩
  have heq : d = c := Table.eq_of_key_eq _ hk.connections (hs.connections.subset hd) hc hid
  exact ⟨d, hd, hid, by rw [heq]⟩

/-- A connection that a transfer uses keeps its type when a row is replaced by
    one that keeps its type or is not used. -/
theorem allTyped_updateConnection {c old : Connection} (h : AllTyped db) (hk : Keys db)
    (hold : old ∈ db.connections) (hid : old.id = c.id)
    (htype : old.type = c.type ∨ Unused db old) :
    AllTyped (Write.apply db (.updateConnection c)) := by
  intro t ht
  have ht : t ∈ db.transfers := ht
  refine typedLinks_of_keeps (h t ht) (fun d hd hused => ?_)
  refine ⟨_, Table.mem_update.mpr ⟨d, hd, rfl⟩, ?_⟩
  by_cases hkey : d.id = c.id
  · have heq : d = old := Table.eq_of_key_eq _ hk.connections hd hold (hkey.trans hid.symm)
    rw [if_pos (beq_iff_eq.mpr hkey)]
    refine ⟨hkey.symm, ?_⟩
    rcases htype with hsame | hunused
    · rw [heq, hsame]
    · rw [heq] at hused
      rcases hused with hs | hs
      · exact absurd hs.symm (hunused t ht).1
      · exact absurd hs.symm (hunused t ht).2
  · rw [if_neg (fun hb => hkey (beq_iff_eq.mp hb))]
    exact ⟨rfl, rfl⟩

/-- The writes that keep types keep the invariant. -/
theorem typedStep_allTyped {w : Write} (hdb : Consistent db) (h : AllTyped db)
    (hstep : typedStep db w db') : AllTyped db' := by
  have hdb' : Consistent db' := checkedStep_consistent hdb hstep.2
  rcases hstep with ⟨hkeeps, _, rfl⟩
  have hsame : ∀ c ∈ db.connections, c ∈ db.connections := fun _ hc => hc
  cases w with
  | advance | insertUser | setSuperuser | insertGroup | updateGroup | insertUserGroup
  | updateUserGroup | deleteUserGroup | insertAuthData | updateAuthData | insertQueue
  | updateQueue | insertRun | updateRun => exact allTyped_of_subset h hsame (fun _ ht => ht)
  | deleteGroup g => exact allTyped_shrinks h hdb.keys (shrinks_deleteGroups _) hdb'.resourceLinks
  | insertConnection c =>
      exact allTyped_of_subset h (fun d hd => List.mem_append_left _ hd) (fun _ ht => ht)
  | updateConnection c =>
      rcases hkeeps with ⟨old, hold, hid, htype⟩
      exact allTyped_updateConnection h hdb.keys hold hid htype
  | deleteConnection c =>
      exact allTyped_shrinks h hdb.keys (shrinks_deleteConnections _) hdb'.resourceLinks
  | deleteQueue q => exact allTyped_shrinks h hdb.keys (shrinks_deleteQueues _) hdb'.resourceLinks
  | insertTransfer t =>
      intro r hr
      rcases List.mem_append.mp hr with hr | hr
      · exact typedLinks_of_subset (h r hr) hsame
      · rw [List.mem_singleton.mp hr]
        exact typedLinks_of_subset hkeeps hsame
  | updateTransfer t =>
      intro r hr
      rcases Table.mem_update.mp hr with ⟨s, hs, rfl⟩
      by_cases hkey : (s.id == t.id) = true
      · rw [if_pos hkey]
        exact typedLinks_of_subset hkeeps hsame
      · rw [if_neg hkey]
        exact typedLinks_of_subset (h s hs) hsame
  | deleteTransfer t =>
      exact allTyped_shrinks h hdb.keys (shrinks_deleteTransfers _) hdb'.resourceLinks

end Writes

/-! ## Requests -/

section Outcomes

variable {now : Time} {user : User} {request : Request} {db db' : Database}

/-- The database changes by writes that keep types. -/
def TypedRun (db db' : Database) : Prop :=
  ∃ ws, Machine.Run typedStep db ws db'

theorem typedRun_one {w : Write} (h : checkedStep db w db') (hw : w.KeepsTypes db) :
    TypedRun db db' :=
  ⟨[w], Machine.run_single ⟨hw, h⟩⟩

theorem typedRun_snoc {db₁ : Database} {w : Write} (h : TypedRun db db₁)
    (hstep : checkedStep db₁ w db') (hw : w.KeepsTypes db₁) : TypedRun db db' := by
  rcases h with ⟨ws, hrun⟩
  exact ⟨ws ++ [w], Machine.run_snoc.mpr ⟨db₁, hrun, hw, hstep⟩⟩

theorem typedRun_allTyped (hdb : Consistent db) (h : AllTyped db) (hrun : TypedRun db db') :
    AllTyped db' := by
  rcases hrun with ⟨ws, hrun⟩
  have hboth : Consistent db' ∧ AllTyped db' := by
    refine Machine.run_invariant (I := fun db => Consistent db ∧ AllTyped db) ?_ hrun ⟨hdb, h⟩
    intro a w b ha hstep
    exact ⟨checkedStep_consistent ha.1 hstep.2, typedStep_allTyped ha.1 ha.2 hstep⟩
  exact hboth.2

/-- A body that was checked against its rows gives a transfer of their types. -/
theorem typedLinks_of_bodyLinks {body : CreateTransferSchema} {source target : Connection}
    {queue : Queue} {t : Transfer} (h : BodyLinks db body source target queue)
    (hs : t.sourceConnectionId = body.sourceConnectionId)
    (ht : t.targetConnectionId = body.targetConnectionId)
    (hsp : t.sourceParams = body.sourceParams) (htp : t.targetParams = body.targetParams) :
    TypedLinks db t where
  source := by
    rw [hs, hsp]
    exact ⟨source, (Table.mem_of_filter_eq h.sourceRow).1,
      beq_iff_eq.mp (Table.mem_of_filter_eq h.sourceRow).2, h.types.1⟩
  target := by
    rw [ht, htp]
    exact ⟨target, (Table.mem_of_filter_eq h.targetRow).1,
      beq_iff_eq.mp (Table.mem_of_filter_eq h.targetRow).2, h.types.2⟩

/-- A connection that was found by its identifier has the type that the
    transfer expects. -/
theorem type_of_found {c : Connection} {rows : List Connection} {id : Id} {type : ConnectionType}
    (hfound : rows.filter (fun d => d.id == id) = [c])
    (h : ∃ d ∈ rows, d.id = id ∧ d.type = type) : c.type = type := by
  rcases h with ⟨d, hd, hid, htype⟩
  have hmem : d ∈ rows.filter (fun d => d.id == id) :=
    List.mem_filter.mpr ⟨hd, beq_iff_eq.mpr hid⟩
  rw [hfound, List.mem_singleton] at hmem
  rw [← hmem]
  exact htype

/-- The copies have the types of the connections they were copied from, and so
    of the parameters that the copied transfer keeps. -/
theorem transferCopied_typedLinks {transferId : Id} {body : CopyTransferSchema} {origin : Transfer}
    {sourceOrigin source target : Connection} {db₁ db₂ db₃ : Database}
    (h : TransferCopied db user transferId body origin sourceOrigin source target db₁ db₂ db₃ db')
    (hall : AllTyped db) (id newQueueId newGroupId : Id) (newName : Option String) :
    TypedLinks db₂
      (TransferRepository.copied id newQueueId newGroupId source.id target.id newName origin) := by
  have horigin : TypedLinks db origin := hall origin (Table.mem_of_filter_eq h.found).1
  rcases copies_frame h with ⟨_, _, hsourceMem, htargetMem, _⟩
  have hsource : source.type = origin.sourceParams.type := by
    have htype : sourceOrigin.type = origin.sourceParams.type :=
      type_of_found h.sourceFound horigin.source
    rw [h.sourceCopy]
    exact htype
  have htarget : target.type = origin.targetParams.type := by
    have hcopy := h.targetCopy
    by_cases hsame : origin.sourceConnectionId = origin.targetConnectionId
    · -- One copy serves both sides, and the original served both sides as well.
      rw [if_pos hsame] at hcopy
      have htype : sourceOrigin.type = origin.targetParams.type := by
        refine type_of_found h.sourceFound ?_
        rw [hsame]
        exact horigin.target
      rw [hcopy.1, h.sourceCopy]
      exact htype
    · rw [if_neg hsame] at hcopy
      rcases hcopy with ⟨targetOrigin, hfound, hcopied, _⟩
      have htype : targetOrigin.type = origin.targetParams.type := by
        refine type_of_found hfound ?_
        -- The original is read after the first copy was inserted.
        rw [(insertConnection_frame h.sourceInserted).2.2]
        rcases horigin.target with ⟨c, hc, hid, htype⟩
        exact ⟨c, List.mem_append_left _ hc, hid, htype⟩
      rw [hcopied]
      exact htype
  exact ⟨⟨source, hsourceMem, rfl, hsource⟩, ⟨target, htargetMem, rfl, htarget⟩⟩

/-- The requests that have types to look at. -/
def Request.OnTypes : Request → Prop
  | .updateConnection _ _ | .createTransfer _ | .copyTransfer _ _ | .updateTransfer _ _ => True
  | _ => False

/-- The other requests make none of the writes that could change a type. -/
theorem keepsTypes_of_makes {w : Write} (ho : ¬ request.OnTypes) (hw : request.Makes w) :
    w.KeepsTypes db := by
  cases w with
  | updateConnection | insertTransfer | updateTransfer =>
      cases request with
      | updateConnection | createTransfer | copyTransfer | updateTransfer =>
          exact absurd trivial ho
      | _ => exact hw.elim
  | _ => exact trivial

/-- The endpoints make only writes that keep types. -/
theorem outcome_keepsTypes (h : Outcome db user now db' request) (hr : ¬ request.OnRuns)
    (hall : AllTyped db) : TypedRun db db' := by
  by_cases ho : request.OnTypes
  · cases h with
    | @updateConnection connectionId body old stored authData db₁ h =>
        refine typedRun_snoc (typedRun_one h.row ?_) h.authData trivial
        have hid : old.id = connectionId := beq_iff_eq.mp (Table.mem_of_filter_eq h.found).2
        refine ⟨old, (Table.mem_of_filter_eq h.found).1, rfl, ?_⟩
        -- A connection changes its type only where no transfer uses it.
        by_cases htype : body.type = old.type
        · exact Or.inl htype.symm
        · have hempty := h.typeKept htype
          rw [← hid] at hempty
          exact Or.inr (unused_of_listByConnectionId hempty)
    | createTransfer _ hlinks ht hinsert =>
        refine typedRun_one hinsert ?_
        rw [ht]
        exact typedLinks_of_bodyLinks hlinks rfl rfl rfl rfl
    | @copyTransfer transferId body origin sourceOrigin source target db₁ db₂ db₃ h =>
        have hsource : TypedRun db db₁ := typedRun_one h.sourceInserted trivial
        -- One connection on both sides is copied once.
        have hboth : TypedRun db db₂ := by
          have hcopy := h.targetCopy
          split at hcopy
          · rw [hcopy.2]
            exact hsource
          · rcases hcopy with ⟨_, _, _, hinsert⟩
            exact typedRun_snoc hsource hinsert trivial
        have hcopied := typedRun_snoc hboth h.copy (transferCopied_typedLinks h hall _ _ _ _)
        have hrest := h.rest
        split at hrest
        · exact typedRun_snoc hcopied hrest trivial
        · rw [hrest]
          exact hcopied
    | updateTransfer _ _ hlinks ht hupdate =>
        refine typedRun_one hupdate ?_
        rw [ht]
        exact typedLinks_of_bodyLinks hlinks rfl rfl rfl rfl
    | onRuns h => exact absurd h hr
    | _ => exact ho.elim
  -- The other requests write neither a type nor a link.
  · rcases outcome_written h hr with ⟨ws, hrun⟩
    refine ⟨ws, Machine.run_mono (fun _ w _ hstep => ⟨?_, hstep.2⟩) hrun⟩
    exact keepsTypes_of_makes ho hstep.1

end Outcomes

/-! ## Reachable states -/

theorem reachable_allTyped {db : Database} (h : Reachable db) : AllTyped db := by
  refine reachable_of_outcomes (I := AllTyped) (fun t ht => absurd ht List.not_mem_nil) ?_ ?_ h
  · intro db db' hsame hall
    refine allTyped_of_subset hall (fun c hc => ?_) (fun t ht => ?_)
    · rw [hsame.connections]
      exact hc
    · rw [← hsame.transfers]
      exact ht
  · intro db now userId request user db' hdb hall haccepted
    exact typedRun_allTyped hdb hall
      (outcome_keepsTypes haccepted.outcome haccepted.notOnRuns hall)

/-- In every reachable state, the parameters of every transfer are for the
    types of its connections. -/
theorem typesAgree_of_reachable {db : Database} (h : Reachable db) : TypesAgree db :=
  (typesAgree_iff_allTyped (reachable_consistent h).keys).mpr (reachable_allTyped h)

/-- The transfer of the first group copied into the second, and the type of a
    connection that is not in use changed. -/
def retypedEvents : List Event :=
  sampleEvents ++ [
    .request 8 .returned 1 (.copyTransfer 1
      { newGroupId := 2
        newQueueId := 2
        newSourceConnectionName := some ⟨"copied warehouse", by decide⟩ }),
    .request 9 .returned 1 (.updateConnection 2 { sampleConnection 2 with type := .mysql })]

theorem typesAgree_retypedEvents :
    (retypedEvents.foldl Database.step Database.empty).transfers.length = 2 ∧
      TypesAgree (retypedEvents.foldl Database.step Database.empty) :=
  ⟨by decide +kernel, typesAgree_of_reachable (reachable_foldl retypedEvents)⟩

end SyncMaster
