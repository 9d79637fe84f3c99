import SyncMaster.Run.Terminal

/-!
# No Run Left Behind

When all processes around a run have returned and no message is under way, the
run is to be over.

`Attended` is the reason why it would be: as long as it is not, somebody is
still to write its status. That may be a worker between its finding the run
`CREATED` and its last commit, or the creator whose `send_task` has raised a
`KombuError`; for a run that is still `CREATED` a message or a process that has
not looked at the run yet does as well.

Every move hands the duty on, except for two. The commit of a stop request
writes `SEND_STOP_SIGNAL` and leaves the rest to somebody else, and there may be
nobody: a worker that gets the message later finds a run that is not `CREATED`
and leaves it alone. And the creator whose `send_task` raises an exception that
is no `KombuError` returns without a message on its way, unless the broker has
accepted it before.

## Main definitions

* `Worker.willWrite`: The worker is still to write a status.
* `Attended`: A run that is not over has somebody who will write its status.
* `StopsAttended`: A stop commits only when there is such a process.
* `EscapesAccepted`: An exception escapes the creator only behind its message.
* `Settled`: Everything has returned.

## Theorems

* `step_attended`: Every such step keeps the run attended.
* `terminal_of_settled`: In a run of such steps, what is settled is over.
-/

namespace SyncMaster

/-- The worker is still to write a status, unless it finds that the run has it. -/
def Worker.willWrite : Worker → Bool
  | .holding | .startWritten | .started | .performing | .ending _ => true
  | .loaded seen failed | .endWritten seen failed => seen != outcome failed
  | .began | .skipped | .done => false

namespace Lifecycle

/-- A worker or the creator is still to write a status. -/
def HasWriter (s : Lifecycle) : Prop :=
  (∃ w ∈ s.workers, w.willWrite = true) ∨ s.creator = .failing ∨ s.creator = .marked

instance (s : Lifecycle) : Decidable s.HasWriter :=
  inferInstanceAs (Decidable (_ ∨ _ ∨ _))

/-- Somebody is still to look at the run. -/
def HasReader (s : Lifecycle) : Prop :=
  s.creator = .sending false ∨ s.messages ≠ 0 ∨ .began ∈ s.workers

/-- Somebody is still to write the status of a run that is not over. -/
def Attended (s : Lifecycle) : Prop :=
  ∀ v, s.row.status = some v → v.terminal = false → s.HasWriter ∨ (v = .created ∧ s.HasReader)

/-- The stop request whose commit it is. -/
def Act.commitsStop : Act → Option Nat
  | .stop m .commit => some m
  | _ => none

/-- A stop commits only while somebody else is still to write a status. -/
def StopsAttended (s : Lifecycle) (act : Act) : Prop :=
  ∀ m ∈ act.commitsStop, s.HasWriter

instance (s : Lifecycle) (act : Act) : Decidable (StopsAttended s act) :=
  inferInstanceAs (Decidable (∀ m ∈ act.commitsStop, s.HasWriter))

/-- An exception that is no `KombuError` leaves `send_task` only when the broker has
    accepted the message. -/
def EscapesAccepted (s : Lifecycle) (act : Act) : Prop :=
  act = .creator .escape → s.creator = .sending true

instance (s : Lifecycle) (act : Act) : Decidable (EscapesAccepted s act) :=
  inferInstanceAs (Decidable (_ → _))

/-- The step leaves the run to somebody. -/
structure HandsOn (s : Lifecycle) (act : Act) : Prop where
  stops : StopsAttended s act
  escapes : EscapesAccepted s act

instance (s : Lifecycle) (act : Act) : Decidable (HandsOn s act) :=
  decidable_of_iff (StopsAttended s act ∧ EscapesAccepted s act)
    ⟨fun h => ⟨h.1, h.2⟩, fun h => ⟨h.stops, h.escapes⟩⟩

/-- All requests and the creator have returned, no message is under way, and no
    worker is inside `run_transfer`. -/
structure Settled (s : Lifecycle) : Prop where
  creator : s.creator = .returned
  messages : s.messages = 0
  workers : ∀ w ∈ s.workers, w = .skipped ∨ w = .done
  stops : ∀ p ∈ s.stops, p = .refused ∨ ∃ v, p = .stopped v

variable {s t : Lifecycle}

theorem attended_init : Attended init :=
  fun _ hstatus => nomatch hstatus

/-! ## A worker moves -/

section Worker

variable {n : Nat} {act : WorkerAct} {w w' : Worker}

/-- A worker that still writes makes the run attended. -/
theorem attended_of_writer (row : RunRow) (hw : s.workers[n]? = some w)
    (hwrites : w'.willWrite = true) : Attended (s.moveWorker n w' row) :=
  fun _ _ _ => Or.inl (Or.inl ⟨w', List.mem_of_getElem? (getElem?_set_of hw), hwrites⟩)

/-- Everybody but the worker that moves stays where it is. -/
theorem mem_set_of_ne {u : Worker} (hw : s.workers[n]? = some w) (hu : u ∈ s.workers)
    (hne : u ≠ w) : u ∈ s.workers.set n w' := by
  rcases List.mem_iff_getElem?.mp hu with ⟨k, hk⟩
  have hkn : n ≠ k := by
    rintro rfl
    exact hne (Option.some.inj (hk.symm.trans hw))
  have hkeep : (s.workers.set n w')[k]? = some u := (List.getElem?_set_ne hkn).trans hk
  exact List.mem_of_getElem? hkeep

/-- A worker that did not write is not missed. -/
theorem hasWriter_of_idle (row : RunRow) (hw : s.workers[n]? = some w)
    (hidle : w.willWrite = false) (h : s.HasWriter) : (s.moveWorker n w' row).HasWriter := by
  rcases h with ⟨u, hu, hwrites⟩ | hcreator
  · have hne : u ≠ w := by
      rintro rfl
      exact Bool.false_ne_true (hidle.symm.trans hwrites)
    exact Or.inl ⟨u, mem_set_of_ne hw hu hne, hwrites⟩
  · exact Or.inr hcreator

/-- Nor is one that has looked at the run already. -/
theorem hasReader_of_begun (row : RunRow) (hw : s.workers[n]? = some w) (hbegun : w ≠ .began)
    (h : s.HasReader) : (s.moveWorker n w' row).HasReader := by
  rcases h with hsending | hmessages | hbegan
  · exact Or.inl hsending
  · exact Or.inr (Or.inl hmessages)
  · exact Or.inr (Or.inr (mem_set_of_ne hw hbegan hbegun.symm))

/-- A worker that was not needed may move, if it leaves the status alone. -/
theorem attended_of_idle {row : RunRow} (h : Attended s) (hw : s.workers[n]? = some w)
    (hidle : w.willWrite = false) (hbegun : w ≠ .began) (hsame : row.status = s.row.status) :
    Attended (s.moveWorker n w' row) := by
  intro v hv hterminal
  rcases h v (hsame ▸ hv) hterminal with hwriter | ⟨hcreated, hreader⟩
  · exact Or.inl (hasWriter_of_idle row hw hidle hwriter)
  · exact Or.inr ⟨hcreated, hasReader_of_begun row hw hbegun hreader⟩

theorem terminal_outcome (failed : Bool) : (outcome failed).terminal = true := by
  cases failed <;> rfl

theorem worker_attended {row : RunRow} (h : Attended s) (hw : s.workers[n]? = some w)
    (hmoves : Worker.Moves n s.row act w w' row) : Attended (s.moveWorker n w' row) := by
  cases hmoves with
  | pick | failBefore | failAfter | writeStart | missingStart | commitStart | enter | leave =>
      exact attended_of_writer _ hw rfl
  | skip hcreated =>
      -- The run is not `CREATED`, so it does not depend on those who look at it.
      intro v hv hterminal
      rcases h v hv hterminal with hwriter | ⟨rfl, _⟩
      · exact Or.inl (hasWriter_of_idle _ hw rfl hwriter)
      · exact absurd hv hcreated
  | load seen failed hseen =>
      -- What is not over is not the outcome either, so the last update sets it.
      intro v hv hterminal
      have hne : seen ≠ outcome failed := by
        rintro rfl
        cases hseen.symm.trans hv
        exact Bool.false_ne_true (hterminal.symm.trans (terminal_outcome failed))
      have hwrites : (Worker.loaded seen failed).willWrite = true := bne_iff_ne.mpr hne
      exact attended_of_writer s.row hw hwrites v hv hterminal
  | writeEnd seen failed =>
      by_cases hwrites : (Worker.endWritten seen failed).willWrite = true
      · exact attended_of_writer _ hw hwrites
      · exact attended_of_idle h hw (Bool.eq_false_iff.mpr hwrites) Worker.noConfusion rfl
  | gone _ hnone | missingEnd _ _ hnone =>
      intro v hv
      cases hnone.symm.trans hv
  | commitEnd seen failed =>
      by_cases hsame : seen = outcome failed
      · -- The last update leaves the status alone, and the worker was not needed.
        refine attended_of_idle h hw (bne_eq_false_iff_eq.mpr hsame) Worker.noConfusion ?_
        rw [endValue, if_pos hsame, RunRow.commit_none]
      · intro v hv hterminal
        change (s.row.commit (endValue seen failed)).status = some v at hv
        rw [endValue, if_neg hsame] at hv
        cases hv
        exact absurd (terminal_outcome failed) (Bool.eq_false_iff.mp hterminal)

end Worker

/-! ## The others move -/

/-- The message is with the broker, or it was delivered, so the creator is not needed. -/
theorem attended_of_returned (h : Attended s) (hc : s.creator = .sending true) :
    Attended { s with creator := .returned } := by
  intro v hv hterminal
  rcases h v hv hterminal with (hworker | hcreator) | ⟨hcreated, hsending | hreader⟩
  · exact Or.inl (Or.inl hworker)
  · rw [hc] at hcreator
    rcases hcreator with hcreator | hcreator <;> cases hcreator
  · cases hc.symm.trans hsending
  · exact Or.inr ⟨hcreated, Or.inr hreader⟩

theorem creator_attended {act : CreatorAct} {c c' : Creator} {row : RunRow} {messages : Nat}
    (h : Attended s) (hc : s.creator = c) (hescapes : act = .escape → s.creator = .sending true)
    (hmoves : Creator.Moves s.row s.messages act c c' row messages) :
    Attended { s with creator := c', row := row, messages := messages } := by
  cases hmoves with
  | insert =>
      intro v hv _
      cases hv
      exact Or.inr ⟨rfl, Or.inl rfl⟩
  | raise => exact fun _ _ _ => Or.inl (Or.inr (Or.inl rfl))
  | mark => exact fun _ _ _ => Or.inl (Or.inr (Or.inr rfl))
  | accept =>
      intro v hv hterminal
      rcases h v hv hterminal with (hworker | hcreator) | ⟨hcreated, _⟩
      · exact Or.inl (Or.inl hworker)
      · rw [hc] at hcreator
        rcases hcreator with hcreator | hcreator <;> cases hcreator
      · exact Or.inr ⟨hcreated, Or.inr (Or.inl (Nat.succ_ne_zero _))⟩
  | sent => exact attended_of_returned h hc
  | escape => exact attended_of_returned h (hescapes rfl)
  | missing hnone =>
      intro v hv
      cases hnone.symm.trans hv
  | commit =>
      intro v hv hterminal
      cases hv
      cases hterminal

theorem stop_attended {m : Nat} {act : StopAct} {p p' : Stop} {row : RunRow}
    (h : Attended s) (hwriter : act = .commit → s.HasWriter)
    (hmoves : Stop.Moves m s.row act p p' row) : Attended (s.moveStop m p' row) := by
  cases hmoves with
  | load | gone | deny | refuse | write => exact h
  | commit =>
      -- `SEND_STOP_SIGNAL` is not the end, so somebody else has to go on.
      exact fun _ _ _ => Or.inl (hwriter rfl)

/-- Every step that hands the run on keeps it attended. -/
theorem step_attended {act : Act} (h : Attended s) (hhands : HandsOn s act)
    (hstep : step s act t) : Attended t := by
  cases step_cases hstep with
  | creator hmoves =>
      refine creator_attended h rfl ?_ hmoves
      rintro rfl
      exact hhands.escapes rfl
  | deliver =>
      intro v hv hterminal
      rcases h v hv hterminal with (⟨w, hw, hwrites⟩ | hcreator) | ⟨hcreated, _⟩
      · exact Or.inl (Or.inl ⟨w, List.mem_append_left _ hw, hwrites⟩)
      · exact Or.inl (Or.inr hcreator)
      · have hbegan : Worker.began ∈ s.workers ++ [.began] :=
          List.mem_append_right _ (List.mem_singleton.mpr rfl)
        exact Or.inr ⟨hcreated, Or.inr (Or.inr hbegan)⟩
  | redeliver =>
      intro v hv hterminal
      rcases h v hv hterminal with hwriter | ⟨hcreated, _⟩
      · exact Or.inl hwriter
      · exact Or.inr ⟨hcreated, Or.inr (Or.inl (Nat.succ_ne_zero _))⟩
  | worker hw hmoves => exact worker_attended h hw hmoves
  | request => exact h
  | @stop m act p p' row hp hmoves =>
      refine stop_attended h ?_ hmoves
      rintro rfl
      exact hhands.stops m rfl
  | delete => exact fun _ hv => nomatch hv

/-- Nobody writes once everything has returned. -/
theorem not_attended_of_settled {v : Status} (hsettled : Settled s)
    (hstatus : s.row.status = some v) (hterminal : v.terminal = false) : ¬ Attended s := by
  intro h
  rcases h v hstatus hterminal with (⟨w, hw, hwrites⟩ | hcreator) | ⟨_, hsending | hmessages | hbegan⟩
  · rcases hsettled.workers w hw with rfl | rfl <;> cases hwrites
  · rw [hsettled.creator] at hcreator
    rcases hcreator with hcreator | hcreator <;> cases hcreator
  · cases hsettled.creator.symm.trans hsending
  · exact hmessages hsettled.messages
  · rcases hsettled.workers _ hbegan with hw | hw <;> cases hw

/-- In every run in which a stop commits only while somebody else is still to write
    a status, and an exception escapes `send_task` only behind the message, the run of
    a transfer is over when everything has returned. -/
theorem terminal_of_settled (acts : List Act) {v : Status}
    (hrun : Machine.Run (Machine.restrict HandsOn step) init acts s) (hsettled : Settled s)
    (hstatus : s.row.status = some v) : v.terminal = true := by
  by_contra hnot
  have hkeeps : ∀ s act t, Attended s → Machine.restrict HandsOn step s act t → Attended t :=
    fun _ _ _ h hstep => step_attended h hstep.1 hstep.2
  have hattended : Attended s := Machine.run_invariant hkeeps hrun attended_init
  exact not_attended_of_settled hsettled hstatus (Bool.eq_false_iff.mpr hnot) hattended

/-! ## A stop before the worker -/

/-- The run is stopped while the worker performs the transfer. -/
def stoppedWhilePerforming : List Act := [
  .creator .insert, .creator .accept, .creator .sent, .deliver,
  .worker 0 .select, .worker 0 .writeStart, .worker 0 .commitStart, .worker 0 .enter,
  .request, .stop 0 .load, .stop 0 .write, .stop 0 .commit,
  .worker 0 (.leave false), .worker 0 .load, .worker 0 .writeEnd, .worker 0 .commitEnd]

def afterStoppedWhilePerforming : Lifecycle where
  row := ⟨some .finished, none⟩
  messages := 0
  creator := .returned
  workers := [.done]
  stops := [.stopped .started]
  entered := 1

theorem terminal_of_settled_stoppedWhilePerforming :
    ∃ v, afterStoppedWhilePerforming.row.status = some v ∧ v.terminal = true := by
  refine ⟨.finished, rfl, ?_⟩
  exact terminal_of_settled stoppedWhilePerforming (s := afterStoppedWhilePerforming)
    (Machine.run_of_follow (by decide +kernel))
    ⟨rfl, rfl, by decide, by simp [afterStoppedWhilePerforming]⟩ rfl

/-- The run is stopped before a worker gets the message. -/
def stoppedBeforeSelect : List Act := [
  .creator .insert, .creator .accept, .creator .sent,
  .request, .stop 0 .load, .stop 0 .write, .stop 0 .commit,
  .deliver, .worker 0 .select]

def afterStoppedBeforeSelect : Lifecycle where
  row := ⟨some .sendStopSignal, none⟩
  messages := 0
  creator := .returned
  workers := [.skipped]
  stops := [.stopped .created]
  entered := 0

/-- Nobody makes `STOPPED` of `SEND_STOP_SIGNAL`. -/
theorem not_terminal_of_settled :
    ¬ ∀ s v, Reachable s → Settled s → s.row.status = some v → v.terminal = true := by
  intro h
  have hreachable : Reachable afterStoppedBeforeSelect :=
    reachable_of_after stoppedBeforeSelect (by decide +kernel)
  have hsettled : Settled afterStoppedBeforeSelect :=
    ⟨rfl, rfl, by decide, by simp [afterStoppedBeforeSelect]⟩
  exact Bool.false_ne_true (h afterStoppedBeforeSelect .sendStopSignal hreachable hsettled rfl)

end Lifecycle

end SyncMaster
