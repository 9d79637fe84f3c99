import SyncMaster.Library.Machine
import SyncMaster.Db.Models

/-!
# The Life of a Run

A run is created by a request or by a job of the scheduler, executed by a
worker and stopped by requests. Each of them reads the status of the run, does
something else and writes the status in a later statement, and none of the
writes looks at what it overwrites. Here their statements interleave.

The rules of the interleaving are those of the database. A statement that reads
sees the last committed status. An update by primary key waits while another
transaction has an uncommitted update of the row, and finds no row if it was
deleted. Two details of the sessions matter as well. `stop_run` decides on the
status it has loaded when the request began, since its session keeps the loaded
row. And an update sets the columns that differ from the loaded ones, so the
last update of a worker leaves the status alone if it has loaded the very
status that it wants to write.

Each process is a phase with the moves it can make. What a move does to the row
is stated once, as the inversion lemma of the process, and the results about
runs are proved move by move.

## Main definitions

* `RunRow`: The committed status and the lock.
* `Creator`, `Worker`, `Stop`: The phases of the processes, and `next` for each.
* `Lifecycle`, `Lifecycle.next`: The run with all that happens to it.
* `Creator.Moves`, `Worker.Moves`, `Stop.Moves`: What a move does.
* `Lifecycle.Sound`: The lock is held by somebody who can release it.

## Theorems

* `Creator.moves_of_next`, `Worker.moves_of_next`, `Stop.moves_of_next`: The
  inversion of each process.
* `Lifecycle.step_cases`: The inversion of the system.
* `Lifecycle.step_worker`, `Lifecycle.run_start` and the others: What can happen
  next.
* `Lifecycle.sound_of_reachable`: Every reachable state is sound.
-/

namespace SyncMaster

/-! ## The row -/

/-- Who can have an uncommitted update of the row. -/
inductive Party where
  | creator
  | worker (n : Nat)
  | stop (m : Nat)
  deriving DecidableEq, Repr

/-- The committed status of the run, if there is such a run, and the holder of the
    row lock. -/
structure RunRow where
  status : Option Status
  lockedBy : Option Party
  deriving DecidableEq, Repr

namespace RunRow

/-- How an update by primary key ends: it waits for the lock, finds no row, or
    leaves the row updated and locked until it is committed. -/
inductive Update where
  | waits
  | missing
  | updated (row : RunRow)

def update (row : RunRow) (party : Party) : Update :=
  if row.lockedBy.isSome then .waits
  else if row.status.isNone then .missing
  else .updated { row with lockedBy := some party }

/-- The commit of an update that sets the status to the value, or leaves it alone. -/
def commit (row : RunRow) (value : Option Status) : RunRow where
  status := value.or row.status
  lockedBy := none

end RunRow

/-! ## The creator -/

/-- `start_run` or `send_job_to_celery`, from the insertion of the run on. -/
inductive Creator where
  | idle
  /-- In `send_task`; the broker may have accepted the message. -/
  | sending (accepted : Bool)
  /-- `send_task` has raised a `KombuError`. -/
  | failing
  /-- The update to `FAILED` is executed. -/
  | marked
  | returned
  deriving DecidableEq, Repr

inductive CreatorAct where
  | insert
  /-- The broker accepts the message. -/
  | accept
  /-- `send_task` returns. -/
  | sent
  /-- `send_task` raises a `KombuError`, whether or not the message was accepted. -/
  | raise
  /-- `send_task` raises an exception that is no `KombuError`, and nobody catches it. -/
  | escape
  | mark
  | commit
  deriving DecidableEq, Repr

/-- The next phase, the row, and the messages that the broker holds. -/
def Creator.next (row : RunRow) (messages : Nat) :
    CreatorAct → Creator → Option (Creator × RunRow × Nat)
  | .insert, .idle => some (.sending false, ⟨some .created, none⟩, messages)
  | .accept, .sending false => some (.sending true, row, messages + 1)
  | .sent, .sending true => some (.returned, row, messages)
  | .raise, .sending _ => some (.failing, row, messages)
  -- The run stays as it is.
  | .escape, .sending _ => some (.returned, row, messages)
  | .mark, .failing =>
      match row.update .creator with
      | .waits => none
      | .missing => some (.returned, row, messages)
      | .updated row' => some (.marked, row', messages)
  | .commit, .marked => some (.returned, row.commit (some .failed), messages)
  | _, _ => none

/-! ## Workers -/

/-- The status that a worker writes in the end. -/
def outcome (failed : Bool) : Status :=
  if failed then .failed else .finished

/-- A delivery of the message, in `run_transfer`. -/
inductive Worker where
  | began
  /-- The run was not `CREATED`. -/
  | skipped
  /-- The run was found `CREATED`. -/
  | holding
  /-- The update to `STARTED` is executed. -/
  | startWritten
  | started
  /-- In `perform_transfer`. -/
  | performing
  | ending (failed : Bool)
  /-- The run is loaded again, with this status. -/
  | loaded (status : Status) (failed : Bool)
  /-- The last update is executed. -/
  | endWritten (status : Status) (failed : Bool)
  | done
  deriving DecidableEq, Repr

inductive WorkerAct where
  | select
  /-- An exception outside of `perform_transfer`. -/
  | fail
  | writeStart
  | commitStart
  | enter
  | leave (failed : Bool)
  | load
  | writeEnd
  | commitEnd
  deriving DecidableEq, Repr

/-- What the last update sets the status to. A status that is equal to the loaded
    one is not part of the update. -/
def endValue (status : Status) (failed : Bool) : Option Status :=
  if status = outcome failed then none else some (outcome failed)

def Worker.next (n : Nat) (row : RunRow) : WorkerAct → Worker → Option (Worker × RunRow)
  | .select, .began => some (if row.status = some .created then .holding else .skipped, row)
  | .fail, .holding | .fail, .started => some (.ending true, row)
  | .writeStart, .holding =>
      match row.update (.worker n) with
      | .waits => none
      -- The update of a row that is gone raises, inside the `try`.
      | .missing => some (.ending true, row)
      | .updated row' => some (.startWritten, row')
  | .commitStart, .startWritten => some (.started, row.commit (some .started))
  | .enter, .started => some (.performing, row)
  | .leave failed, .performing => some (.ending failed, row)
  | .load, .ending failed =>
      match row.status with
      | none => some (.done, row)
      | some status => some (.loaded status failed, row)
  | .writeEnd, .loaded status failed =>
      match row.update (.worker n) with
      | .waits => none
      | .missing => some (.done, row)
      | .updated row' => some (.endWritten status failed, row')
  | .commitEnd, .endWritten status failed => some (.done, row.commit (endValue status failed))
  | _, _ => none

/-! ## Stop requests -/

/-- A `stop_run` request. -/
inductive Stop where
  | requested
  /-- The run is loaded, with this status. -/
  | loaded (status : Status)
  /-- The update to `SEND_STOP_SIGNAL` is executed. -/
  | written (status : Status)
  /-- Returned success, having loaded this status. -/
  | stopped (status : Status)
  | refused
  deriving DecidableEq, Repr

inductive StopAct where
  | load
  /-- The user may not stop the run. -/
  | deny
  | write
  | commit
  deriving DecidableEq, Repr

def Stop.next (m : Nat) (row : RunRow) : StopAct → Stop → Option (Stop × RunRow)
  | .load, .requested =>
      match row.status with
      | none => some (.refused, row)
      | some status => some (.loaded status, row)
  | .deny, .loaded _ => some (.refused, row)
  | .write, .loaded status =>
      if status = .created ∨ status = .started then
        match row.update (.stop m) with
        | .waits => none
        | .missing => some (.refused, row)
        | .updated row' => some (.written status, row')
      else some (.refused, row)
  | .commit, .written status => some (.stopped status, row.commit (some .sendStopSignal))
  | _, _ => none

/-! ## The system -/

/-- A run and the processes around it, with the number of times that
    `perform_transfer` was entered for it. -/
structure Lifecycle where
  row : RunRow
  messages : Nat
  creator : Creator
  workers : List Worker
  stops : List Stop
  entered : Nat
  deriving DecidableEq, Repr

namespace Lifecycle

/-- Before the run is created. -/
def init : Lifecycle where
  row := ⟨none, none⟩
  messages := 0
  creator := .idle
  workers := []
  stops := []
  entered := 0

inductive Act where
  | creator (act : CreatorAct)
  | deliver
  /-- The broker delivers a message again. -/
  | redeliver
  | worker (n : Nat) (act : WorkerAct)
  | request
  | stop (m : Nat) (act : StopAct)
  /-- The run is deleted with its transfer. -/
  | delete
  deriving DecidableEq, Repr

def next (s : Lifecycle) : Act → Option Lifecycle
  | .creator act =>
      match s.creator.next s.row s.messages act with
      | some (creator, row, messages) =>
          some { s with creator := creator, row := row, messages := messages }
      | none => none
  | .deliver =>
      match s.messages with
      | 0 => none
      | messages + 1 => some { s with messages := messages, workers := s.workers ++ [.began] }
  | .redeliver =>
      match s.workers with
      | [] => none
      | _ :: _ => some { s with messages := s.messages + 1 }
  | .worker n act =>
      match s.workers[n]? with
      | some worker =>
          match worker.next n s.row act with
          | some (worker', row) =>
              some
                { s with
                  row := row
                  workers := s.workers.set n worker'
                  entered := if act = .enter then s.entered + 1 else s.entered }
          | none => none
      | none => none
  | .request => some { s with stops := s.stops ++ [.requested] }
  | .stop m act =>
      match s.stops[m]? with
      | some stop =>
          match stop.next m s.row act with
          | some (stop', row) => some { s with row := row, stops := s.stops.set m stop' }
          | none => none
      | none => none
  | .delete =>
      match s.row with
      | ⟨some _, none⟩ => some { s with row := ⟨none, none⟩ }
      | _ => none

abbrev step : Lifecycle → Act → Lifecycle → Prop :=
  Machine.partialGraph next

abbrev Reachable : Lifecycle → Prop :=
  Machine.Reachable step init

/-- The state after the steps, none of which may be refused. -/
def after (acts : List Act) : Option Lifecycle :=
  Machine.follow (fun _ _ => True) next init acts

theorem reachable_of_after (acts : List Act) {s : Lifecycle} (h : after acts = some s) :
    Reachable s :=
  ⟨acts, Machine.run_of_restrict (Machine.run_of_follow h)⟩

end Lifecycle

/-! ## What a move does -/

namespace RunRow

/-- The row, locked. -/
def lock (row : RunRow) (party : Party) : RunRow :=
  { row with lockedBy := some party }

variable {row row' : RunRow} {party : Party}

theorem update_missing (h : row.update party = .missing) :
    row.lockedBy = none ∧ row.status = none := by
  unfold update at h
  split at h
  · cases h
  rename_i hfree
  split at h
  · rename_i hnone
    exact ⟨Option.not_isSome_iff_eq_none.mp hfree, Option.isNone_iff_eq_none.mp hnone⟩
  · cases h

theorem update_updated (h : row.update party = .updated row') :
    row.lockedBy = none ∧ row.status ≠ none ∧ row' = row.lock party := by
  unfold update at h
  split at h
  · cases h
  rename_i hfree
  split at h
  · cases h
  rename_i hsome
  cases h
  exact ⟨Option.not_isSome_iff_eq_none.mp hfree, fun hnone => hsome (Option.isNone_iff_eq_none.mpr hnone),
    rfl⟩

/-- An update of a row that is there and free does not wait. -/
theorem update_of_free {status : Status} (hstatus : row.status = some status)
    (hfree : row.lockedBy = none) : row.update party = .updated (row.lock party) := by
  rw [update, lock, hfree, hstatus]
  rfl

@[simp] theorem lock_status (row : RunRow) (party : Party) :
    (row.lock party).status = row.status := rfl

@[simp] theorem lock_lockedBy (row : RunRow) (party : Party) :
    (row.lock party).lockedBy = some party := rfl

@[simp] theorem commit_some (row : RunRow) (status : Status) :
    (row.commit (some status)).status = some status := rfl

@[simp] theorem commit_none (row : RunRow) : (row.commit none).status = row.status := rfl

@[simp] theorem commit_lockedBy (row : RunRow) (value : Option Status) :
    (row.commit value).lockedBy = none := rfl

end RunRow

/-- The moves of the creator. -/
inductive Creator.Moves (row : RunRow) (messages : Nat) :
    CreatorAct → Creator → Creator → RunRow → Nat → Prop
  | insert : Moves row messages .insert .idle (.sending false) ⟨some .created, none⟩ messages
  | accept : Moves row messages .accept (.sending false) (.sending true) row (messages + 1)
  | sent : Moves row messages .sent (.sending true) .returned row messages
  | raise (accepted : Bool) : Moves row messages .raise (.sending accepted) .failing row messages
  | escape (accepted : Bool) : Moves row messages .escape (.sending accepted) .returned row messages
  | mark : row.lockedBy = none → row.status ≠ none →
      Moves row messages .mark .failing .marked (row.lock .creator) messages
  | missing : row.status = none → Moves row messages .mark .failing .returned row messages
  | commit : Moves row messages .commit .marked .returned (row.commit (some .failed)) messages

/-- The moves of a worker. -/
inductive Worker.Moves (n : Nat) (row : RunRow) : WorkerAct → Worker → Worker → RunRow → Prop
  | pick : row.status = some .created → Moves n row .select .began .holding row
  | skip : row.status ≠ some .created → Moves n row .select .began .skipped row
  | failBefore : Moves n row .fail .holding (.ending true) row
  | failAfter : Moves n row .fail .started (.ending true) row
  | writeStart : row.lockedBy = none → row.status ≠ none →
      Moves n row .writeStart .holding .startWritten (row.lock (.worker n))
  | missingStart : row.status = none → Moves n row .writeStart .holding (.ending true) row
  | commitStart : Moves n row .commitStart .startWritten .started (row.commit (some .started))
  | enter : Moves n row .enter .started .performing row
  | leave (failed : Bool) : Moves n row (.leave failed) .performing (.ending failed) row
  | load (status : Status) (failed : Bool) : row.status = some status →
      Moves n row .load (.ending failed) (.loaded status failed) row
  | gone (failed : Bool) : row.status = none → Moves n row .load (.ending failed) .done row
  | writeEnd (status : Status) (failed : Bool) : row.lockedBy = none → row.status ≠ none →
      Moves n row .writeEnd (.loaded status failed) (.endWritten status failed)
        (row.lock (.worker n))
  | missingEnd (status : Status) (failed : Bool) : row.status = none →
      Moves n row .writeEnd (.loaded status failed) .done row
  | commitEnd (status : Status) (failed : Bool) :
      Moves n row .commitEnd (.endWritten status failed) .done (row.commit (endValue status failed))

/-- The moves of a stop request. -/
inductive Stop.Moves (m : Nat) (row : RunRow) : StopAct → Stop → Stop → RunRow → Prop
  | load (status : Status) : row.status = some status →
      Moves m row .load .requested (.loaded status) row
  | gone : row.status = none → Moves m row .load .requested .refused row
  | deny (status : Status) : Moves m row .deny (.loaded status) .refused row
  | write (status : Status) : status = .created ∨ status = .started → row.lockedBy = none →
      row.status ≠ none → Moves m row .write (.loaded status) (.written status) (row.lock (.stop m))
  | refuse (status : Status) : Moves m row .write (.loaded status) .refused row
  | commit (status : Status) :
      Moves m row .commit (.written status) (.stopped status) (row.commit (some .sendStopSignal))

theorem Creator.moves_of_next {row row' : RunRow} {messages messages' : Nat} {act : CreatorAct}
    {c c' : Creator} (h : c.next row messages act = some (c', row', messages')) :
    Moves row messages act c c' row' messages' := by
  unfold Creator.next at h
  split at h
  · cases h
    exact .insert
  · cases h
    exact .accept
  · cases h
    exact .sent
  · cases h
    exact .raise _
  · cases h
    exact .escape _
  · split at h
    · cases h
    · rename_i hupdate
      cases h
      exact .missing (RunRow.update_missing hupdate).2
    · rename_i hupdate
      rcases RunRow.update_updated hupdate with ⟨hfree, hsome, rfl⟩
      cases h
      exact .mark hfree hsome
  · cases h
    exact .commit
  · cases h

theorem Worker.moves_of_next {n : Nat} {row row' : RunRow} {act : WorkerAct} {w w' : Worker}
    (h : w.next n row act = some (w', row')) : Moves n row act w w' row' := by
  unfold Worker.next at h
  split at h
  -- The worker has read the row: it goes on only from CREATED.
  · split at h
    · rename_i hcreated
      cases h
      exact .pick hcreated
    · rename_i hother
      cases h
      exact .skip hother
  · cases h
    exact .failBefore
  · cases h
    exact .failAfter
  -- The row is locked, missing or written, in the order of `RunRow.update`.
  · split at h
    · cases h
    · rename_i hupdate
      cases h
      exact .missingStart (RunRow.update_missing hupdate).2
    · rename_i hupdate
      rcases RunRow.update_updated hupdate with ⟨hfree, hsome, rfl⟩
      cases h
      exact .writeStart hfree hsome
  · cases h
    exact .commitStart
  · cases h
    exact .enter
  · cases h
    exact .leave _
  -- The engine has ended: the row is read again before the result is written.
  · split at h
    · rename_i hnone
      cases h
      exact .gone _ hnone
    · rename_i hsome
      cases h
      exact .load _ _ hsome
  -- The second write of the row meets the same three cases.
  · split at h
    · cases h
    · rename_i hupdate
      cases h
      exact .missingEnd _ _ (RunRow.update_missing hupdate).2
    · rename_i hupdate
      rcases RunRow.update_updated hupdate with ⟨hfree, hsome, rfl⟩
      cases h
      exact .writeEnd _ _ hfree hsome
  · cases h
    exact .commitEnd _ _
  · cases h

theorem Stop.moves_of_next {m : Nat} {row row' : RunRow} {act : StopAct} {p p' : Stop}
    (h : p.next m row act = some (p', row')) : Moves m row act p p' row' := by
  unfold Stop.next at h
  split at h
  · split at h
    · rename_i hnone
      cases h
      exact .gone hnone
    · rename_i hsome
      cases h
      exact .load _ hsome
  · cases h
    exact .deny _
  · split at h
    · rename_i hstatus
      split at h
      · cases h
      · cases h
        exact .refuse _
      · rename_i hupdate
        rcases RunRow.update_updated hupdate with ⟨hfree, hsome, rfl⟩
        cases h
        exact .write _ hstatus hfree hsome
    · cases h
      exact .refuse _
  · cases h
    exact .commit _
  · cases h

namespace Lifecycle

/-- One step of the system, with all that it changes. -/
inductive Steps (s : Lifecycle) : Act → Lifecycle → Prop
  | creator {act : CreatorAct} {creator : Creator} {row : RunRow} {messages : Nat} :
      Creator.Moves s.row s.messages act s.creator creator row messages →
      Steps s (.creator act) { s with creator := creator, row := row, messages := messages }
  | deliver {messages : Nat} : s.messages = messages + 1 →
      Steps s .deliver { s with messages := messages, workers := s.workers ++ [.began] }
  | redeliver : s.workers ≠ [] → Steps s .redeliver { s with messages := s.messages + 1 }
  | worker {n : Nat} {act : WorkerAct} {w w' : Worker} {row : RunRow} :
      s.workers[n]? = some w → Worker.Moves n s.row act w w' row →
      Steps s (.worker n act)
        { s with
          row := row
          workers := s.workers.set n w'
          entered := if act = .enter then s.entered + 1 else s.entered }
  | request : Steps s .request { s with stops := s.stops ++ [.requested] }
  | stop {m : Nat} {act : StopAct} {p p' : Stop} {row : RunRow} :
      s.stops[m]? = some p → Stop.Moves m s.row act p p' row →
      Steps s (.stop m act) { s with row := row, stops := s.stops.set m p' }
  | delete : s.row.lockedBy = none → Steps s .delete { s with row := ⟨none, none⟩ }

/-- The inversion of a step. -/
theorem step_cases {s t : Lifecycle} {act : Act} (h : step s act t) : Steps s act t := by
  change s.next act = some t at h
  cases act with
  | creator act =>
      simp only [next] at h
      split at h
      · rename_i hnext
        cases h
        exact .creator (Creator.moves_of_next hnext)
      · cases h
  | deliver =>
      -- A message is needed to deliver one.
      simp only [next] at h
      split at h
      · cases h
      · rename_i hmessages
        cases h
        exact .deliver hmessages
  | redeliver =>
      -- Only a message that some worker has taken is delivered again.
      simp only [next] at h
      split at h
      · cases h
      · rename_i hworkers
        cases h
        refine .redeliver (fun hnil => ?_)
        rw [hworkers] at hnil
        cases hnil
  | worker n act =>
      simp only [next] at h
      split at h
      · rename_i hworker
        split at h
        · rename_i hnext
          cases h
          exact .worker hworker (Worker.moves_of_next hnext)
        · cases h
      · cases h
  | request =>
      cases h
      exact .request
  | stop m act =>
      simp only [next] at h
      split at h
      · rename_i hstop
        split at h
        · rename_i hnext
          cases h
          exact .stop hstop (Stop.moves_of_next hnext)
        · cases h
      · cases h
  | delete =>
      simp only [next] at h
      split at h
      · rename_i hrow
        cases h
        refine .delete ?_
        rw [hrow]
      · cases h

/-! ## Progress -/

variable {s : Lifecycle} {n m : Nat}

/-- A worker at the given index, moved. -/
def moveWorker (s : Lifecycle) (n : Nat) (w : Worker) (row : RunRow) : Lifecycle :=
  { s with row := row, workers := s.workers.set n w }

def moveStop (s : Lifecycle) (m : Nat) (p : Stop) (row : RunRow) : Lifecycle :=
  { s with row := row, stops := s.stops.set m p }

theorem getElem?_set_of {Phase : Type} {phases : List Phase} {n : Nat} {p q : Phase}
    (h : phases[n]? = some p) : (phases.set n q)[n]? = some q :=
  List.getElem?_set_self (List.getElem?_eq_some_iff.mp h).1

/-- A worker that is at an index after a move was there before, or has moved. -/
theorem getElem?_set_cases {Phase : Type} {phases : List Phase} {n i : Nat} {p q r : Phase}
    (h : phases[n]? = some p) (hi : (phases.set n q)[i]? = some r) :
    (i = n ∧ r = q) ∨ (i ≠ n ∧ phases[i]? = some r) := by
  by_cases hin : i = n
  · subst hin
    rw [getElem?_set_of h] at hi
    exact Or.inl ⟨rfl, (Option.some.inj hi).symm⟩
  · rw [List.getElem?_set_ne (Ne.symm hin)] at hi
    exact Or.inr ⟨hin, hi⟩

theorem step_worker (act : WorkerAct) {w w' : Worker} {row : RunRow}
    (hw : s.workers[n]? = some w) (hact : act ≠ .enter)
    (hnext : w.next n s.row act = some (w', row)) :
    step s (.worker n act) (s.moveWorker n w' row) := by
  change s.next (.worker n act) = _
  simp only [next, hw, hnext, if_neg hact, moveWorker]

theorem step_enter (hw : s.workers[n]? = some .started) :
    step s (.worker n .enter)
      { s.moveWorker n .performing s.row with entered := s.entered + 1 } := by
  change s.next (.worker n .enter) = _
  simp only [next, hw, Worker.next, if_true, moveWorker]

theorem step_stop (act : StopAct) {p p' : Stop} {row : RunRow} (hp : s.stops[m]? = some p)
    (hnext : p.next m s.row act = some (p', row)) :
    step s (.stop m act) (s.moveStop m p' row) := by
  change s.next (.stop m act) = _
  simp only [next, hp, hnext, moveStop]

/-- A worker that holds the run can start it, if nobody locks the row. -/
theorem run_start {status : Status} (hw : s.workers[n]? = some .holding)
    (hstatus : s.row.status = some status) (hfree : s.row.lockedBy = none) :
    Machine.Run step s [.worker n .writeStart, .worker n .commitStart]
      (s.moveWorker n .started ⟨some .started, none⟩) := by
  have hwrite : step s (.worker n .writeStart)
      (s.moveWorker n .startWritten (s.row.lock (.worker n))) := by
    refine step_worker .writeStart hw (by decide) ?_
    rw [Worker.next, RunRow.update_of_free hstatus hfree]
  have hcommit : step (s.moveWorker n .startWritten (s.row.lock (.worker n)))
      (.worker n .commitStart) _ :=
    step_worker .commitStart (getElem?_set_of hw) (by decide) rfl
  rw [moveWorker, moveWorker, List.set_set] at hcommit
  exact .cons hwrite (.cons hcommit (.nil _))

/-! ## The lock and its holder -/

/-- The party has an update executed and not committed. -/
def Holds (s : Lifecycle) : Party → Prop
  | .creator => s.creator = .marked
  | .worker n =>
      s.workers[n]? = some .startWritten ∨
        ∃ status failed, s.workers[n]? = some (.endWritten status failed)
  | .stop m => ∃ status, s.stops[m]? = some (.written status)

/-- Before the run is created nothing has happened to it, and a lock is held by
    somebody who can release it. -/
structure Sound (s : Lifecycle) : Prop where
  idle : s.creator = .idle → s.row.status = none ∧ s.messages = 0 ∧ s.workers = [] ∧
    s.entered = 0 ∧ ∀ p ∈ s.stops, p = .requested ∨ p = .refused
  holder : ∀ party, s.row.lockedBy = some party → s.Holds party

theorem sound_init : Sound init where
  idle := fun _ => ⟨rfl, rfl, rfl, rfl, fun _ h => absurd h List.not_mem_nil⟩
  holder := fun _ h => nomatch h

/-- What a worker that moves does to the lock. -/
theorem lockedBy_of_workerMoves {act : WorkerAct} {w w' : Worker} {row row' : RunRow}
    (h : Worker.Moves n row act w w' row') :
    row'.lockedBy = none ∨
      (row'.lockedBy = some (.worker n) ∧ (w' = .startWritten ∨ ∃ v b, w' = .endWritten v b)) ∨
      (row'.lockedBy = row.lockedBy ∧ w ≠ .startWritten ∧ ∀ v b, w ≠ .endWritten v b) := by
  cases h with
  | commitStart | commitEnd => exact Or.inl rfl
  | writeStart => exact Or.inr (Or.inl ⟨rfl, Or.inl rfl⟩)
  | writeEnd v b => exact Or.inr (Or.inl ⟨rfl, Or.inr ⟨v, b, rfl⟩⟩)
  | pick | skip | failBefore | failAfter | missingStart | enter | leave | load | gone
  | missingEnd => exact Or.inr (Or.inr ⟨rfl, Worker.noConfusion, fun _ _ => Worker.noConfusion⟩)

theorem lockedBy_of_stopMoves {act : StopAct} {p p' : Stop} {row row' : RunRow}
    (h : Stop.Moves m row act p p' row') :
    row'.lockedBy = none ∨ (row'.lockedBy = some (.stop m) ∧ ∃ v, p' = .written v) ∨
      (row'.lockedBy = row.lockedBy ∧ ∀ v, p ≠ .written v) := by
  cases h with
  | commit => exact Or.inl rfl
  | write v => exact Or.inr (Or.inl ⟨rfl, v, rfl⟩)
  | load | gone | deny | refuse => exact Or.inr (Or.inr ⟨rfl, fun _ => Stop.noConfusion⟩)

section Holders

variable {t : Lifecycle} {party : Party}

theorem getElem?_append_of {Phase : Type} {phases rest : List Phase} {p : Phase}
    (h : phases[n]? = some p) : (phases ++ rest)[n]? = some p := by
  rw [List.getElem?_append_left (List.getElem?_eq_some_iff.mp h).1]
  exact h

/-- A worker that is where it was holds what it held. -/
theorem holds_worker_of_kept (hkept : ∀ w, s.workers[n]? = some w → t.workers[n]? = some w)
    (h : s.Holds (.worker n)) : t.Holds (.worker n) := by
  rcases h with hw | ⟨v, b, hw⟩
  · exact Or.inl (hkept _ hw)
  · exact Or.inr ⟨v, b, hkept _ hw⟩

theorem holds_stop_of_kept (hkept : ∀ p, s.stops[m]? = some p → t.stops[m]? = some p)
    (h : s.Holds (.stop m)) : t.Holds (.stop m) := by
  rcases h with ⟨v, hv⟩
  exact ⟨v, hkept _ hv⟩

theorem ne_idle_of_creatorMoves {act : CreatorAct} {c c' : Creator} {row row' : RunRow}
    {messages messages' : Nat} (h : Creator.Moves row messages act c c' row' messages') :
    c' ≠ .idle := by
  cases h with
  | insert | accept | sent | raise | escape | mark | missing | commit => exact Creator.noConfusion

/-- Who has the lock after the creator has moved holds it. -/
theorem holds_moveCreator {act : CreatorAct} {c : Creator} {row : RunRow} {messages : Nat}
    (h : Sound s) (hmoves : Creator.Moves s.row s.messages act s.creator c row messages)
    (hlocked : row.lockedBy = some party) :
    { s with creator := c, row := row, messages := messages }.Holds party := by
  generalize hc : s.creator = before at hmoves
  -- The creator holds the lock only between the mark and the commit.
  have hother : before ≠ .marked → s.row.lockedBy = some party → party ≠ .creator := by
    rintro hne hheld rfl
    exact hne (hc ▸ h.holder _ hheld)
  cases hmoves with
  | insert => cases hlocked
  | commit => cases hlocked
  | mark =>
      cases hlocked
      rfl
  | accept | sent | raise | escape | missing =>
      cases party with
      | creator => exact absurd rfl (hother Creator.noConfusion hlocked)
      | worker n => exact h.holder (.worker n) hlocked
      | stop m => exact h.holder (.stop m) hlocked

theorem holds_moveWorker {act : WorkerAct} {w w' : Worker} {row : RunRow} (h : Sound s)
    (hw : s.workers[n]? = some w) (hmoves : Worker.Moves n s.row act w w' row)
    (hlocked : row.lockedBy = some party) : (s.moveWorker n w' row).Holds party := by
  rcases lockedBy_of_workerMoves hmoves with hfree | ⟨hmine, hwritten⟩ | ⟨hsame, hnot⟩
  · cases hfree.symm.trans hlocked
  · cases hmine.symm.trans hlocked
    rcases hwritten with rfl | ⟨v, b, rfl⟩
    · exact Or.inl (getElem?_set_of hw)
    · exact Or.inr ⟨v, b, getElem?_set_of hw⟩
  · have hheld := h.holder party (hsame ▸ hlocked)
    cases party with
    | creator => exact hheld
    | worker k =>
        -- The holder of the lock is not the worker that moves.
        have hkn : k ≠ n := by
          rintro rfl
          rcases hheld with hk | ⟨v, b, hk⟩
          · exact hnot.1 (Option.some.inj (hw.symm.trans hk))
          · exact hnot.2 v b (Option.some.inj (hw.symm.trans hk))
        exact holds_worker_of_kept (fun _ hk => (List.getElem?_set_ne hkn.symm).trans hk) hheld
    | stop m => exact hheld

theorem holds_moveStop {act : StopAct} {p p' : Stop} {row : RunRow} (h : Sound s)
    (hp : s.stops[m]? = some p) (hmoves : Stop.Moves m s.row act p p' row)
    (hlocked : row.lockedBy = some party) : (s.moveStop m p' row).Holds party := by
  rcases lockedBy_of_stopMoves hmoves with hfree | ⟨hmine, v, rfl⟩ | ⟨hsame, hnot⟩
  · cases hfree.symm.trans hlocked
  · cases hmine.symm.trans hlocked
    exact ⟨v, getElem?_set_of hp⟩
  · have hheld := h.holder party (hsame ▸ hlocked)
    cases party with
    | creator => exact hheld
    | worker k => exact hheld
    | stop k =>
        have hkm : k ≠ m := by
          rintro rfl
          rcases hheld with ⟨v, hk⟩
          exact hnot v (Option.some.inj (hp.symm.trans hk))
        exact holds_stop_of_kept (fun _ hk => (List.getElem?_set_ne hkm.symm).trans hk) hheld

/-- Before there is a row, a request to stop can only be refused. -/
theorem refused_of_stopMoves {act : StopAct} {p p' : Stop} {row : RunRow}
    (hnone : s.row.status = none) (hp : p = .requested ∨ p = .refused)
    (hmoves : Stop.Moves m s.row act p p' row) : row = s.row ∧ p' = .refused := by
  cases hmoves with
  | load v hv => cases hnone.symm.trans hv
  | gone => exact ⟨rfl, rfl⟩
  | deny | write | refuse | commit => rcases hp with hp | hp <;> cases hp

end Holders

theorem step_sound {t : Lifecycle} {act : Act} (h : Sound s) (hstep : step s act t) : Sound t := by
  cases step_cases hstep with
  | creator hmoves =>
      exact ⟨fun hidle => absurd hidle (ne_idle_of_creatorMoves hmoves),
        fun _ hlocked => holds_moveCreator h hmoves hlocked⟩
  | deliver hmessages =>
      refine ⟨fun hidle => ?_, fun party hlocked => ?_⟩
      · rw [(h.idle hidle).2.1] at hmessages
        cases hmessages
      · cases party with
        | creator => exact h.holder .creator hlocked
        | worker n =>
            exact holds_worker_of_kept (fun _ => getElem?_append_of) (h.holder (.worker n) hlocked)
        | stop m => exact h.holder (.stop m) hlocked
  | redeliver hworkers =>
      exact ⟨fun hidle => absurd (h.idle hidle).2.2.1 hworkers, h.holder⟩
  | @worker n act w w' row hw hmoves =>
      refine ⟨fun hidle => ?_, fun party hlocked => holds_moveWorker h hw hmoves hlocked⟩
      -- Before the run is created there is no worker to move.
      rw [(h.idle hidle).2.2.1] at hw
      cases hw
  | request =>
      refine ⟨fun hidle => ?_, fun party hlocked => ?_⟩
      · rcases h.idle hidle with ⟨hnone, hmessages, hworkers, hentered, hstops⟩
        refine ⟨hnone, hmessages, hworkers, hentered, fun p hp => ?_⟩
        rcases List.mem_append.mp hp with hp | hp
        · exact hstops p hp
        · exact Or.inl (List.mem_singleton.mp hp)
      · cases party with
        | creator => exact h.holder .creator hlocked
        | worker n => exact h.holder (.worker n) hlocked
        | stop m =>
            exact holds_stop_of_kept (fun _ => getElem?_append_of) (h.holder (.stop m) hlocked)
  | @stop m act p p' row hp hmoves =>
      refine ⟨fun hidle => ?_, fun party hlocked => holds_moveStop h hp hmoves hlocked⟩
      rcases h.idle hidle with ⟨hnone, hmessages, hworkers, hentered, hstops⟩
      -- A request to stop a run that is not there yet is refused.
      rcases refused_of_stopMoves hnone (hstops p (List.mem_of_getElem? hp)) hmoves with ⟨rfl, rfl⟩
      refine ⟨hnone, hmessages, hworkers, hentered, fun q hq => ?_⟩
      rcases List.mem_or_eq_of_mem_set hq with hq | rfl
      · exact hstops q hq
      · exact Or.inr rfl
  | delete hfree =>
      refine ⟨fun hidle => ⟨rfl, (h.idle hidle).2⟩, fun _ hlocked => nomatch hlocked⟩

theorem sound_of_reachable (h : Reachable s) : Sound s :=
  Machine.reachable_invariant sound_init (fun _ _ _ ha hstep => step_sound ha hstep) h

end Lifecycle

end SyncMaster
