import SyncMaster.Credentials.Stored
import SyncMaster.Tenancy.Provenance

/-!
# Copied Connections

What becomes of a connection without credentials.

`copy_connection` and `copy_transfer` copy the rows of connections and leave the
credentials behind, since the members of the new group are not to have them. The copy
is meant to be given credentials of its own. But the one request that could do so,
`update_connection`, reads the stored credentials first and fails when there are none,
and new credentials are inserted for new connections only. So the copy stays as it is:
no request on it succeeds that writes it, and no run of a transfer that uses it is ever
created, by a user or by the scheduler, because a run needs the credentials of both
connections.

## Main definitions

* `BareConnection`: The identifier of a connection that has no credentials.
* `Request.Copies`: The requests that copy connections.
* `Unusable`: What cannot be done with a connection.

## Theorems

* `step_bare`: No event gives a connection credentials that had none.
* `reachable_dumpsBelow`: The dumps name connections that there have been.
* `copies_unusable`: A copy, in every state that comes after it.
-/

namespace SyncMaster

open Program

section BareConnection

variable {db db' : Database} {connectionId : Id}

/-- The identifier has been handed out, and there are no credentials for it. -/
structure BareConnection (db : Database) (connectionId : Id) : Prop where
  taken : connectionId < db.sequences .connection
  noCredentials : ¬ HasCredentials db connectionId

theorem not_hasCredentials_of_sublist (h : ¬ HasCredentials db connectionId)
    (hsub : List.Sublist db'.authData db.authData) : ¬ HasCredentials db' connectionId := by
  rintro ⟨a, ha, hid⟩
  exact h ⟨a, hsub.subset ha, hid⟩

/-- New credentials are those of a new connection, and updated ones replace others. -/
theorem outcome_bare {now : Time} {user : User} {request : Request}
    (h : Outcome db user now db' request) (hr : ¬ request.OnRuns)
    (hbare : BareConnection db connectionId) :
    ¬ HasCredentials db' connectionId := by
  by_cases hcreate : ∃ body, request = .createConnection body
  · rcases hcreate with ⟨body, rfl⟩
    cases h with
    | onRuns h => exact h.elim
    | @createConnection _ c a db₁ _ hc ha hinsert hcredentials =>
        rintro ⟨b, hb, hid⟩
        rw [hcredentials.2] at hb
        rcases List.mem_append.mp hb with hold | hlast
        · rw [hinsert.2] at hold
          exact hbare.noCredentials ⟨b, hold, hid⟩
        · have hkey : connectionId = db.sequences .connection := by
            rw [← hid, List.mem_singleton.mp hlast, ha]
            exact hinsert.1.1
          -- The new identifier comes from the sequence, which is past this one.
          have htaken := hbare.taken
          rw [hkey] at htaken
          exact lt_irrefl _ htaken
  · by_cases hupdate : ∃ other body, request = .updateConnection other body
    · rcases hupdate with ⟨other, body, rfl⟩
      cases h with
      | onRuns h => exact h.elim
      | @updateConnection _ _ _ stored _ db₁ hupdated =>
          rintro ⟨b, hb, hid⟩
          rw [hupdated.authData.2] at hb
          rcases Table.mem_update.mp hb with ⟨a, ha, rfl⟩
          rw [hupdated.row.2] at ha
          split at hid
          · exact hbare.noCredentials
              ⟨stored, (Table.mem_of_filter_eq hupdated.credentials).1, hid⟩
          · exact hbare.noCredentials ⟨a, ha, hid⟩
    -- All other requests write no credentials, they only delete some.
    · refine not_hasCredentials_of_sublist hbare.noCredentials
        (authData_of_written (fun body hbody => hcreate ⟨body, hbody⟩)
          (fun other body hbody => hupdate ⟨other, body, hbody⟩) (outcome_written h hr))

theorem step_bare (hbare : BareConnection db connectionId) (e : Event) :
    BareConnection (db.step e) connectionId where
  taken := lt_of_lt_of_le hbare.taken ((step_continues db e).sequences .connection)
  noCredentials := by
    rcases step_outcome db e with hbackground | ⟨now, _, userId, request, user, _, haccepted⟩
    · refine not_hasCredentials_of_sublist hbare.noCredentials ?_
      rw [(backgroundRun_frame hbackground).authData]
    · exact outcome_bare haccepted.outcome haccepted.notOnRuns hbare

theorem foldl_bare (hbare : BareConnection db connectionId) (events : List Event) :
    BareConnection (events.foldl Database.step db) connectionId :=
  Machine.run_invariant (I := fun db => BareConnection db connectionId)
    (fun a e b ha (hstep : a.step e = b) => hstep ▸ step_bare ha e) (Machine.run_graph.mpr rfl)
    hbare

end BareConnection

/-! ## Runs -/

section Runs

variable {db : Database}

/-- The dump does not name the connection. -/
def Spares (connectionId : Id) (run : RunIdentity) : Prop :=
  run.2.2.1.sourceConnectionId ≠ connectionId ∧ run.2.2.1.targetConnectionId ≠ connectionId

/-- A run needs the credentials of both connections. -/
theorem spares_of_runnable {connectionId : Id} {t : Transfer} {run : RunIdentity}
    (hbare : ¬ HasCredentials db connectionId) (h : Runnable db t run) :
    Spares connectionId run := by
  refine ⟨fun heq => ?_, fun heq => ?_⟩
  · rw [h.source] at heq
    exact hbare (heq ▸ h.sourceCredentials)
  · rw [h.target] at heq
    exact hbare (heq ▸ h.targetCredentials)

/-- The run that an event may create. -/
theorem runnable_of_starts {e : Event} {run : RunIdentity} (h : e.Starts db run) :
    ∃ t, Runnable db t run := by
  cases e with
  | request now sent userId request =>
      cases request with
      | startRun body =>
          rcases h with ⟨_, _, _, t, _, hrunnable, _⟩
          exact ⟨t, hrunnable⟩
      | _ => exact h.elim
  | sendJobToCelery now sent transferId =>
      rcases h with ⟨t, _, _, hrunnable⟩
      exact ⟨t, hrunnable⟩
  | _ => exact h.elim

/-- The connections that the runs name have been there. -/
def DumpsBelow (db : Database) : Prop :=
  ∀ r ∈ db.runs, r.transferDump.sourceConnectionId < db.sequences .connection ∧
    r.transferDump.targetConnectionId < db.sequences .connection

theorem lt_of_hasCredentials (hdb : Consistent db) {connectionId : Id}
    (h : HasCredentials db connectionId) : connectionId < db.sequences .connection := by
  rcases h with ⟨a, ha, rfl⟩
  rcases hdb.resourceLinks.credentials a ha with ⟨c, hc, hid⟩
  have hlt := hdb.keys.connectionsBelow c hc
  rw [hid] at hlt
  exact hlt

theorem step_dumpsBelow (hdb : Consistent db) (h : DumpsBelow db) (e : Event) :
    DumpsBelow (db.step e) := by
  have hgrows := (step_continues db e).sequences .connection
  intro r hr
  rcases step_runsFrom db e r hr with ⟨r', hr', _, hidentity⟩ | hstarts
  · have hdump : r'.transferDump = r.transferDump := congrArg (fun i => i.2.2.1) hidentity
    have hbelow := h r' hr'
    rw [hdump] at hbelow
    exact ⟨lt_of_lt_of_le hbelow.1 hgrows, lt_of_lt_of_le hbelow.2 hgrows⟩
  · rcases runnable_of_starts hstarts with ⟨t, hrunnable⟩
    have hsource := lt_of_hasCredentials hdb hrunnable.sourceCredentials
    have htarget := lt_of_hasCredentials hdb hrunnable.targetCredentials
    rw [← hrunnable.source] at hsource
    rw [← hrunnable.target] at htarget
    exact ⟨lt_of_lt_of_le hsource hgrows, lt_of_lt_of_le htarget hgrows⟩

theorem reachable_dumpsBelow (hdb : Reachable db) : DumpsBelow db := by
  have hboth : Consistent db ∧ DumpsBelow db := by
    refine Machine.reachable_invariant (I := fun db => Consistent db ∧ DumpsBelow db)
      ⟨consistent_empty, fun _ h => absurd h List.not_mem_nil⟩ ?_ hdb
    rintro a e b ⟨ha, hdumps⟩ hstep
    have hstep : a.step e = b := hstep
    rw [← hstep]
    exact ⟨step_consistent ha e, step_dumpsBelow ha hdumps e⟩
  exact hboth.2

/-- No run of the connection comes about. -/
theorem foldl_spares {connectionId : Id} (hbare : BareConnection db connectionId)
    (h : ∀ r ∈ db.runs, Spares connectionId r.identity) (events : List Event) :
    ∀ r ∈ (events.foldl Database.step db).runs, Spares connectionId r.identity := by
  have hboth : BareConnection (events.foldl Database.step db) connectionId ∧
      ∀ r ∈ (events.foldl Database.step db).runs, Spares connectionId r.identity := by
    refine Machine.run_invariant (I := fun db : Database => BareConnection db connectionId ∧
      ∀ r ∈ db.runs, Spares connectionId r.identity) ?_ (Machine.run_graph.mpr rfl) ⟨hbare, h⟩
    rintro a e b ⟨ha, hruns⟩ hstep
    have hstep : a.step e = b := hstep
    rw [← hstep]
    refine ⟨step_bare ha e, fun r hr => ?_⟩
    rcases step_runsFrom a e r hr with ⟨r', hr', _, hidentity⟩ | hstarts
    · rw [← hidentity]
      exact hruns r' hr'
    · rcases runnable_of_starts hstarts with ⟨t, hrunnable⟩
      exact spares_of_runnable ha.noCredentials hrunnable
  exact hboth.2

end Runs

/-! ## Copies -/

section Copies

variable {db : Database} {connectionId : Id}

/-- The requests that copy connections. -/
def Request.Copies : Request → Prop
  | .copyConnection _ _ | .copyTransfer _ _ => True
  | _ => False

/-- The connection has no credentials, no request updates it, and no run names it. -/
structure Unusable (db : Database) (connectionId : Id) : Prop where
  noCredentials : ¬ HasCredentials db connectionId
  noUpdate : ∀ now sent userId body response db',
    ¬ Returns (api now sent userId (.updateConnection connectionId body)) db response db'
  noRun : ∀ r ∈ db.runs, r.transferDump.sourceConnectionId ≠ connectionId ∧
    r.transferDump.targetConnectionId ≠ connectionId

/-- `update_connection` reads the credentials that it replaces. -/
theorem not_returns_update (h : ¬ HasCredentials db connectionId) (now : Time) (sent : SendTask)
    (userId : Id) (body : UpdateConnectionSchema) (response : Response) (db' : Database) :
    ¬ Returns (api now sent userId (.updateConnection connectionId body)) db response db' := by
  intro hreturns
  rcases returns_bind.mp hreturns with ⟨user, _, huser, hhandle⟩
  rw [← (returns_getUser.mp huser).2.2] at hhandle
  rcases returns_bind.mp hhandle with ⟨_, _, hupdate, _⟩
  rcases returns_updateConnection.mp hupdate with ⟨_, stored, _, _, hupdated, _⟩
  exact h ⟨stored, (Table.mem_of_filter_eq hupdated.credentials).1,
    beq_iff_eq.mp (Table.mem_of_filter_eq hupdated.credentials).2⟩

/-- A connection that a copying request has added has no credentials. -/
theorem bare_of_copies (hdb : Reachable db) {now : Time} {sent : SendTask} {userId : Id}
    {request : Request} (hcopies : request.Copies) {c : Connection}
    (hnew : c ∈ (db.step (.request now sent userId request)).connections)
    (hnot : ∀ d ∈ db.connections, d.id ≠ c.id) :
    BareConnection (db.step (.request now sent userId request)) c.id := by
  have hstep := reachable_step hdb (.request now sent userId request)
  refine ⟨(reachable_consistent hstep).keys.connectionsBelow c hnew, ?_⟩
  have hsub : List.Sublist (db.step (.request now sent userId request)).authData db.authData := by
    rcases step_outcome db (.request now sent userId request) with
      hbackground | ⟨_, _, _, _, _, heq, haccepted⟩
    · rw [(backgroundRun_frame hbackground).authData]
    · cases heq
      refine authData_of_written (fun body hbody => ?_) (fun other body hbody => ?_)
        (outcome_written haccepted.outcome haccepted.notOnRuns)
      · rw [hbody] at hcopies
        exact hcopies
      · rw [hbody] at hcopies
        exact hcopies
  rintro ⟨a, ha, hid⟩
  rcases (reachable_consistent hdb).resourceLinks.credentials a (hsub.subset ha) with ⟨d, hd, hdid⟩
  exact hnot d hd (hdid.trans hid)

/-- The copy of a connection cannot be used, whatever happens after it was made. -/
theorem copies_unusable {before rest : List Event} {now : Time} {sent : SendTask} {userId : Id}
    {request : Request} (hcopies : request.Copies) {c : Connection}
    (hnew : c ∈ (stateAfter (before ++ [.request now sent userId request])).connections)
    (hnot : ∀ d ∈ (stateAfter before).connections, d.id ≠ c.id) :
    Unusable (stateAfter (before ++ .request now sent userId request :: rest)) c.id := by
  have hstep : stateAfter (before ++ [.request now sent userId request]) =
      (stateAfter before).step (.request now sent userId request) := stateAfter_append _ _
  rw [hstep] at hnew
  have hbare := bare_of_copies (reachable_stateAfter before) hcopies hnew hnot
  have hfirst : ∀ r ∈ ((stateAfter before).step (.request now sent userId request)).runs,
      Spares c.id r.identity := by
    -- A copying request creates no run, and the older ones name older connections.
    intro r hr
    rcases step_runsFrom _ _ r hr with ⟨r', hr', _, hidentity⟩ | hstarts
    · rw [← hidentity]
      have hbelow := reachable_dumpsBelow (reachable_stateAfter before) r' hr'
      have hfresh : (stateAfter before).sequences .connection ≤ c.id := by
        by_contra hlt
        rcases (step_continues (stateAfter before) (.request now sent userId request)).connections
          c hnew (not_le.mp hlt) with ⟨d, hd, hid, _⟩
        exact hnot d hd hid
      exact ⟨fun heq => absurd (heq ▸ hbelow.1) (not_lt.mpr hfresh),
        fun heq => absurd (heq ▸ hbelow.2) (not_lt.mpr hfresh)⟩
    · cases request with
      | copyConnection | copyTransfer => exact hstarts.elim
      | _ => exact hcopies.elim
  rw [stateAfter_append, List.foldl_cons]
  have hlast := foldl_bare hbare rest
  exact ⟨hlast.noCredentials, not_returns_update hlast.noCredentials,
    foldl_spares hbare hfirst rest⟩

/-- The copy of the warehouse connection, and a new group after it. -/
theorem copies_unusable_warehouse :
    Unusable (stateAfter (copiedEvents ++ [.request 4 .returned 1 (.createGroup sampleGroup)])) 2 := by
  have hcopied : ((stateAfter copiedEvents).connections.any fun c => c.id == 2) = true := by
    decide
  rcases List.any_eq_true.mp hcopied with ⟨c, hc, hid⟩
  have hid : c.id = 2 := beq_iff_eq.mp hid
  have hearlier :
      ((stateAfter (copiedEvents.take 3)).connections.all fun c => c.id != 2) = true := by
    decide
  have hnot : ∀ d ∈ (stateAfter (copiedEvents.take 3)).connections, d.id ≠ c.id := by
    intro d hd
    rw [hid]
    exact bne_iff_ne.mp (List.all_eq_true.mp hearlier d hd)
  rw [← hid]
  exact @copies_unusable (copiedEvents.take 3) [.request 4 .returned 1 (.createGroup sampleGroup)]
    3 .returned 1 (.copyConnection 1
      { newGroupId := 1, newName := some ⟨"warehouse copy", by decide⟩ }) trivial c hc hnot

end Copies

end SyncMaster
