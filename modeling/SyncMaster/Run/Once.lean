import SyncMaster.Run.Lifecycle

/-!
# At Most One Execution

A message may be delivered more than once, so `run_transfer` looks at the
status first: a run that is not `CREATED` was taken by someone else. The look is
a read, and what makes it true is a write of its own, some statements later.

A worker *claims* the run from the read that finds it `CREATED` until it enters
`perform_transfer`. The invariant is that at most one worker claims the run,
and none does once it was executed. Every move keeps it but one: a second
worker that reads `CREATED` before the first has committed its `STARTED`.
`SelectsAlone` is the absence of that move.

## Main definitions

* `Worker.claims`: Between the read and `perform_transfer`.
* `SelectsAlone`: No worker finds the run `CREATED` while another one is between
  its own such read and its commit.
* `Once`: The invariant.

## Theorems

* `Once.of_worker`: The moves that claim nothing keep the invariant.
* `step_once`: So does every step whose selects are alone.
* `entered_le_one`: In a run of such steps, `perform_transfer` is entered at most
  once.
* `entered_twice`: Two workers that hold the run can both enter.
-/

namespace SyncMaster

/-- The worker has found the run `CREATED` and has not entered `perform_transfer`. -/
def Worker.claims : Worker → Bool
  | .holding | .startWritten | .started => true
  | _ => false

namespace Lifecycle

/-- The worker whose `SELECT` it is. -/
def Act.selects : Act → Option Nat
  | .worker n .select => some n
  | _ => none

/-- A worker finds the run `CREATED` only when no other worker is between its own
    such read and the commit of its update. -/
def SelectsAlone (s : Lifecycle) (act : Act) : Prop :=
  ∀ n ∈ act.selects, s.row.status = some .created →
    ∀ k < s.workers.length, k ≠ n →
      s.workers[k]? ≠ some .holding ∧ s.workers[k]? ≠ some .startWritten

instance (s : Lifecycle) (act : Act) : Decidable (SelectsAlone s act) :=
  inferInstanceAs (Decidable (∀ n ∈ act.selects, _ → ∀ k < s.workers.length, _))

/-- At most one worker claims the run, and none after it was executed. A run that
    is `CREATED` was not executed and is not started. -/
structure Once (s : Lifecycle) : Prop where
  atMost : s.entered ≤ 1
  unique : ∀ (i j : Nat) (v w : Worker), s.workers[i]? = some v → s.workers[j]? = some w →
    v.claims = true → w.claims = true → i = j
  after : s.entered = 1 → ∀ w ∈ s.workers, w.claims = false
  fresh : s.row.status = some .created → s.entered = 0 ∧ .started ∉ s.workers

variable {s t : Lifecycle}

theorem once_init : Once init where
  atMost := Nat.zero_le 1
  unique := fun _ _ _ _ h => nomatch h
  after := fun h => nomatch h
  fresh := fun h => nomatch h

/-- A move that claims nothing new keeps the invariant. -/
theorem Once.of_worker {n : Nat} {w w' : Worker} {row : RunRow} (h : Once s)
    (hw : s.workers[n]? = some w) (hclaims : w'.claims = true → w.claims = true)
    (hstarted : w' = .started → row.status ≠ some .created)
    (hstatus : row.status = some .created → s.row.status = some .created) :
    Once { s with row := row, workers := s.workers.set n w' } := by
  have hmem : w ∈ s.workers := List.mem_of_getElem? hw
  refine ⟨h.atMost, ?_, ?_, ?_⟩
  · intro i j u v hi hj hu hv
    rcases getElem?_set_cases hw hi with ⟨hin, rfl⟩ | ⟨_, hi'⟩
    -- The worker that moves stands for itself as it was: it has not come to claim the run.
    · rcases getElem?_set_cases hw hj with ⟨hjn, rfl⟩ | ⟨_, hj'⟩
      · exact hin.trans hjn.symm
      · rw [hin]
        exact h.unique n j w v hw hj' (hclaims hu) hv
    · rcases getElem?_set_cases hw hj with ⟨hjn, rfl⟩ | ⟨_, hj'⟩
      · rw [hjn]
        exact h.unique i n u w hi' hw hu (hclaims hv)
      · exact h.unique i j u v hi' hj' hu hv
  · intro hone u hu
    rcases List.mem_or_eq_of_mem_set hu with hu | rfl
    · exact h.after hone u hu
    · exact Bool.eq_false_iff.mpr
        (fun hc => Bool.false_ne_true ((h.after hone w hmem).symm.trans (hclaims hc)))
  · intro hcreated
    rcases h.fresh (hstatus hcreated) with ⟨hzero, hnone⟩
    refine ⟨hzero, fun hmem' => ?_⟩
    rcases List.mem_or_eq_of_mem_set hmem' with hold | hnew
    · exact hnone hold
    · exact hstarted hnew.symm hcreated

/-- A change of the row that does not make the run `CREATED` keeps the invariant. -/
theorem Once.of_row {row : RunRow} {stops : List Stop} (h : Once s)
    (hstatus : row.status = some .created → s.row.status = some .created) :
    Once { s with row := row, stops := stops } :=
  ⟨h.atMost, h.unique, h.after, fun hcreated => h.fresh (hstatus hcreated)⟩

/-- The worker that finds the run `CREATED` is the only one that claims it. -/
theorem pick_once {n : Nat} (h : Once s) (hw : s.workers[n]? = some .began)
    (hcreated : s.row.status = some .created)
    (halone : ∀ k < s.workers.length, k ≠ n →
      s.workers[k]? ≠ some .holding ∧ s.workers[k]? ≠ some .startWritten) :
    Once { s with workers := s.workers.set n .holding } := by
  rcases h.fresh hcreated with ⟨hzero, hstarted⟩
  -- No other worker claims the run: none is between its select and its commit, and none has
  -- started it.
  have hnone : ∀ (i : Nat) (v : Worker), i ≠ n → s.workers[i]? = some v → v.claims = false := by
    intro i v hin hi
    have hlt : i < s.workers.length := (List.getElem?_eq_some_iff.mp hi).1
    rcases halone i hlt hin with ⟨hholding, hwritten⟩
    rw [hi] at hholding hwritten
    cases v with
    | holding => exact absurd rfl hholding
    | startWritten => exact absurd rfl hwritten
    | started => exact absurd (List.mem_of_getElem? hi) hstarted
    | began | skipped | performing | ending | loaded | endWritten | done => rfl
  refine ⟨h.atMost, ?_, ?_, ?_⟩
  · intro i j u v hi hj hu hv
    have hat : ∀ (k : Nat) (x : Worker), (s.workers.set n .holding)[k]? = some x →
        x.claims = true → k = n := by
      intro k x hk hx
      rcases getElem?_set_cases hw hk with ⟨hkn, _⟩ | ⟨hkn, hk⟩
      · exact hkn
      · exact absurd ((hnone k x hkn hk).symm.trans hx) Bool.false_ne_true
    exact (hat i u hi hu).trans (hat j v hj hv).symm
  · intro hone
    rw [hzero] at hone
    cases hone
  · intro _
    refine ⟨hzero, fun hmem => ?_⟩
    rcases List.mem_or_eq_of_mem_set hmem with hold | hnew
    · exact hstarted hold
    · cases hnew

/-- The worker that enters was the only one that claimed the run. -/
theorem enter_once {n : Nat} (h : Once s) (hw : s.workers[n]? = some .started) :
    Once { s with workers := s.workers.set n .performing, entered := s.entered + 1 } := by
  have hmem : Worker.started ∈ s.workers := List.mem_of_getElem? hw
  have hzero : s.entered = 0 := by
    rcases Nat.le_one_iff_eq_zero_or_eq_one.mp h.atMost with hzero | hone
    · exact hzero
    · exact absurd (h.after hone _ hmem) (by decide)
  have hnone : ∀ (i : Nat) (v : Worker), (s.workers.set n .performing)[i]? = some v →
      v.claims = false := by
    intro i v hi
    rcases getElem?_set_cases hw hi with ⟨_, rfl⟩ | ⟨hin, hi⟩
    · rfl
    · exact Bool.eq_false_iff.mpr (fun hv => hin (h.unique i n v _ hi hw hv rfl))
  refine ⟨?_, ?_, ?_, ?_⟩
  · change s.entered + 1 ≤ 1
    omega
  · intro i j u v hi _ hu _
    exact absurd ((hnone i u hi).symm.trans hu) Bool.false_ne_true
  · intro _ v hv
    rcases List.mem_iff_getElem?.mp hv with ⟨i, hi⟩
    exact hnone i v hi
  · intro hcreated
    exact absurd hmem (h.fresh hcreated).2

/-- The commit of an update does not make the run `CREATED`. -/
theorem created_of_commit {row : RunRow} {value : Option Status}
    (hvalue : value ≠ some .created) (h : (row.commit value).status = some .created) :
    row.status = some .created := by
  cases value with
  | none => exact h
  | some status => exact absurd h hvalue

theorem endValue_ne_created (status : Status) (failed : Bool) :
    endValue status failed ≠ some .created := by
  unfold endValue
  split
  · intro h
    cases h
  · cases failed <;> decide

theorem worker_once {n : Nat} {act : WorkerAct} {w w' : Worker} {row : RunRow} (h : Once s)
    (hw : s.workers[n]? = some w) (hmoves : Worker.Moves n s.row act w w' row)
    (halone : SelectsAlone s (.worker n act)) :
    Once
      { s with
        row := row
        workers := s.workers.set n w'
        entered := if act = .enter then s.entered + 1 else s.entered } := by
  cases hmoves with
  | pick hcreated => exact pick_once h hw hcreated (halone n rfl hcreated)
  | enter => exact enter_once h hw
  | commitStart =>
      exact h.of_worker hw (fun _ => rfl) (fun _ hc => nomatch hc) (fun hc => nomatch hc)
  | commitEnd status failed =>
      exact h.of_worker hw (fun hc => nomatch hc) (fun hc => nomatch hc)
        (created_of_commit (endValue_ne_created status failed))
  | writeStart => exact h.of_worker hw (fun _ => rfl) (fun hc => nomatch hc) id
  | skip | failBefore | failAfter | missingStart | leave | load | gone | writeEnd | missingEnd =>
      exact h.of_worker hw (fun hc => nomatch hc) (fun hc => nomatch hc) id

theorem creator_once {act : CreatorAct} {creator : Creator} {row : RunRow} {messages : Nat}
    (h : Once s) (hsound : Sound s)
    (hmoves : Creator.Moves s.row s.messages act s.creator creator row messages) :
    Once { s with creator := creator, row := row, messages := messages } := by
  generalize hc : s.creator = c at hmoves
  cases hmoves with
  | insert =>
      -- Nothing has been delivered before the run is there.
      rcases hsound.idle hc with ⟨_, _, hnone, hzero, _⟩
      refine ⟨h.atMost, h.unique, h.after, fun _ => ⟨hzero, ?_⟩⟩
      rw [hnone]
      exact List.not_mem_nil
  | commit => exact ⟨h.atMost, h.unique, h.after, fun hcreated => nomatch hcreated⟩
  | accept | sent | raise | escape | mark | missing =>
      exact ⟨h.atMost, h.unique, h.after, h.fresh⟩

theorem stop_once {m : Nat} {act : StopAct} {p p' : Stop} {row : RunRow} (h : Once s)
    (hmoves : Stop.Moves m s.row act p p' row) :
    Once { s with row := row, stops := s.stops.set m p' } := by
  cases hmoves with
  | commit => exact h.of_row (fun hc => nomatch hc)
  | load | gone | deny | write | refuse => exact h.of_row id

theorem step_once {act : Act} (h : Once s) (hsound : Sound s) (halone : SelectsAlone s act)
    (hstep : step s act t) : Once t := by
  cases step_cases hstep with
  | creator hmoves => exact creator_once h hsound hmoves
  | deliver =>
      refine ⟨h.atMost, ?_, ?_, ?_⟩
      · intro i j u v hi hj hu hv
        -- The worker that begins claims nothing.
        have hold : ∀ (k : Nat) (x : Worker), (s.workers ++ [Worker.began])[k]? = some x →
            x.claims = true → s.workers[k]? = some x := by
          intro k x hk hx
          by_cases hlt : k < s.workers.length
          · rw [List.getElem?_append_left hlt] at hk
            exact hk
          · rw [List.getElem?_append_right (Nat.le_of_not_lt hlt)] at hk
            rw [List.mem_singleton.mp (List.mem_of_getElem? hk)] at hx
            cases hx
        exact h.unique i j u v (hold i u hi hu) (hold j v hj hv) hu hv
      · intro hone w hw
        rcases List.mem_append.mp hw with hw | hw
        · exact h.after hone w hw
        · rw [List.mem_singleton.mp hw]
          rfl
      · intro hcreated
        rcases h.fresh hcreated with ⟨hzero, hstarted⟩
        refine ⟨hzero, fun hmem => ?_⟩
        rcases List.mem_append.mp hmem with hmem | hmem
        · exact hstarted hmem
        · cases List.mem_singleton.mp hmem
  | redeliver => exact ⟨h.atMost, h.unique, h.after, h.fresh⟩
  | worker hw hmoves => exact worker_once h hw hmoves halone
  | request => exact h.of_row id
  | stop _ hmoves => exact stop_once h hmoves
  | delete => exact h.of_row (fun hc => nomatch hc)

/-- In a run whose selects are alone, `perform_transfer` is entered at most once. -/
theorem entered_le_one (acts : List Act)
    (hrun : Machine.Run (Machine.restrict SelectsAlone step) init acts s) : s.entered ≤ 1 := by
  have honce : Once s ∧ Sound s := by
    refine Machine.run_invariant (I := fun s => Once s ∧ Sound s) ?_ hrun ⟨once_init, sound_init⟩
    rintro a act b ⟨hold, hsound⟩ ⟨halone, hstep⟩
    exact ⟨step_once hold hsound halone hstep, step_sound hsound hstep⟩
  exact honce.1.atMost

/-! ## Two executions -/

/-- A worker that holds the run can enter `perform_transfer`. -/
theorem run_enter {n : Nat} {status : Status} (hw : s.workers[n]? = some .holding)
    (hstatus : s.row.status = some status) (hfree : s.row.lockedBy = none) :
    Machine.Run step s [.worker n .writeStart, .worker n .commitStart, .worker n .enter]
      { s.moveWorker n .performing ⟨some .started, none⟩ with entered := s.entered + 1 } := by
  have henter := step_enter (s := s.moveWorker n .started ⟨some .started, none⟩) (getElem?_set_of hw)
  rw [moveWorker, moveWorker, List.set_set] at henter
  exact Machine.run_append.mpr ⟨_, run_start hw hstatus hfree, Machine.run_single henter⟩

/-- Two workers that hold the run at the same time can both enter. -/
theorem entered_twice {i j : Nat} {status : Status} (hij : i ≠ j)
    (hi : s.workers[i]? = some .holding) (hj : s.workers[j]? = some .holding)
    (hstatus : s.row.status = some status) (hfree : s.row.lockedBy = none) :
    ∃ acts t, Machine.Run step s acts t ∧ t.entered = s.entered + 2 := by
  have hfirst := run_enter hi hstatus hfree
  have hj' : (s.workers.set i .performing)[j]? = some .holding := by
    rw [List.getElem?_set_ne hij]
    exact hj
  have hsecond := run_enter
    (s := { s.moveWorker i .performing ⟨some .started, none⟩ with entered := s.entered + 1 })
    hj' rfl rfl
  exact ⟨_, _, Machine.run_append.mpr ⟨_, hfirst, hsecond⟩, rfl⟩

/-- The run is created and sent, and the message delivered twice. -/
def deliveredTwice : List Act := [
  .creator .insert, .creator .accept, .creator .sent, .deliver, .redeliver, .deliver]

/-- The second worker looks at the run before the first one has committed. -/
def overlapping : List Act :=
  deliveredTwice ++ [
    .worker 0 .select, .worker 1 .select,
    .worker 0 .writeStart, .worker 0 .commitStart, .worker 0 .enter,
    .worker 1 .writeStart, .worker 1 .commitStart, .worker 1 .enter]

/-- The second worker looks at the run afterwards. -/
def oneByOne : List Act :=
  deliveredTwice ++ [
    .worker 0 .select, .worker 0 .writeStart, .worker 0 .commitStart, .worker 1 .select,
    .worker 0 .enter]

def afterOneByOne : Lifecycle where
  row := ⟨some .started, none⟩
  messages := 0
  creator := .returned
  workers := [.performing, .skipped]
  stops := []
  entered := 1

theorem entered_le_one_oneByOne : afterOneByOne.entered ≤ 1 :=
  entered_le_one oneByOne (Machine.run_of_follow (by decide +kernel))

/-- Two deliveries of one message execute the run twice. -/
theorem not_entered_le_one : ¬ ∀ s, Reachable s → s.entered ≤ 1 := by
  intro h
  have htwice : ((after overlapping).map (fun s => s.entered)) = some 2 := by decide +kernel
  rcases Option.map_eq_some_iff.mp htwice with ⟨s, hs, hentered⟩
  have hle := h s (reachable_of_after _ hs)
  rw [hentered] at hle
  exact absurd hle (by decide)

end Lifecycle

end SyncMaster
