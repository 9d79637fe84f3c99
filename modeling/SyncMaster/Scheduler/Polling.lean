import SyncMaster.Library.Machine
import SyncMaster.Library.Watermark
import SyncMaster.Db.Models

/-!
# Polling while Others Write

The scheduler reads the transfers that were updated after its mark. The stamp
of a row is taken before the row becomes visible: an insertion takes the time
its transaction started, an update the time its statement was built, and both
are seen when the transaction commits. Here the writers interleave, with each
other and with the scheduler.

A statement is built and executed in two steps, since it may have to wait for
the row: a row that another transaction has written and not committed is
locked. A statement that is executed sees the last committed row, or what its
own transaction made of it.

Whether a version is returned is decided when it is committed. If its stamp is
above the mark and above the stamps read and not yet accounted for, it stays
so until the next read. If it is not, because another transaction has
committed a later stamp first and the scheduler has seen it, or because the
stamps are equal, the version is never fetched for its own sake.

## Main definitions

* `Transaction`, `Polling`: The writers, the table and the scheduler.
* `Polling.Enabled`, `Polling.next`, `Polling.step`: Their steps.
* `Polling.Commits`: The versions that a commit makes visible.

* `Polling.Keeps`, `Polling.Waits`: The steps that do not supersede a version,
  and those of them that are no reads.

## Theorems

* `mem_commit`: A version that is committed is in the table.
* `unseen_next`: Only a read changes what is unseen.
* `returned_iff`: The first read after the commit returns a version that is not
  superseded exactly when the version was unseen at its commit.
-/

namespace SyncMaster

/-! ## Writers -/

/-- A statement on the transfer table, with the columns it sets. -/
inductive Command where
  | insert (values : Transfer)
  | update (transferId : Id) (values : Transfer → Transfer)
  | delete (transferId : Id)

/-- A statement that was built, with the reading of the writer's clock. -/
structure Statement where
  command : Command
  builtAt : Time

/-- What a transaction has made of a row. -/
inductive Change where
  | put (row : Transfer)
  | drop (transferId : Id)

def Change.id : Change → Id
  | put row => row.id
  | drop transferId => transferId

/-- The table with the change made visible. -/
def Change.apply (rows : List Transfer) : Change → List Transfer
  | put row => Table.delete (fun t => t.id == row.id) rows ++ [row]
  | drop transferId => Table.delete (fun t => t.id == transferId) rows

/-- An open transaction, with the statement it is about to execute and its
    uncommitted changes, one for a row. -/
structure Transaction where
  number : Nat
  startedAt : Time
  statement : Option Statement
  changes : List Change

namespace Transaction

/-- The row that a statement of the transaction sees. -/
def sees (x : Transaction) (rows : List Transfer) (transferId : Id) : Option Transfer :=
  match x.changes.find? (fun c => c.id == transferId) with
  | some (.put row) => some row
  | some (.drop _) => none
  | none => rows.find? (fun t => t.id == transferId)

/-- The transaction after one more change of a row. -/
def record (x : Transaction) (change : Change) : Transaction :=
  { x with changes := Table.delete (fun c => c.id == change.id) x.changes ++ [change] }

/-- Execute the statement. The identifier is what the sequence hands out, if it
    is an insertion. An update or deletion of a row that is not there raises,
    and changes nothing. -/
def execute (rows : List Transfer) (nextId : Id) (x : Transaction) : Transaction :=
  match x.statement with
  | none => x
  | some ⟨.insert values, _⟩ =>
      { x.record (.put
          { values with
            id := nextId
            createdAt := x.startedAt
            updatedAt := x.startedAt })
        with statement := none }
  | some ⟨.update transferId values, builtAt⟩ =>
      match x.sees rows transferId with
      | some row =>
          { x.record (.put { values row with id := row.id, updatedAt := builtAt })
            with statement := none }
      | none => { x with statement := none }
  | some ⟨.delete transferId, _⟩ =>
      match x.sees rows transferId with
      | some _ => { x.record (.drop transferId) with statement := none }
      | none => { x with statement := none }

/-- The row that the statement will write, if it is there already. -/
def target (x : Transaction) : Option Id :=
  match x.statement with
  | some ⟨.update transferId _, _⟩ | some ⟨.delete transferId, _⟩ => some transferId
  | _ => none

end Transaction

/-! ## The system -/

/-- The clock, the committed transfers with the sequence of their identifiers, the
    open transactions and the scheduler. -/
structure Polling where
  clock : Time
  transfers : List Transfer
  nextId : Id
  transactions : List Transaction
  poller : Watermark.Poller (fun t : Transfer => t.updatedAt)

namespace Polling

def init (clock : Time) : Polling where
  clock := clock
  transfers := []
  nextId := 1
  transactions := []
  poller := Watermark.Poller.init _

inductive Act where
  | tick (now : Time)
  | start (number : Nat)
  | build (number : Nat) (command : Command)
  | execute (number : Nat)
  | commit (number : Nat)
  | rollback (number : Nat)
  /-- The query of `fetch_updated_jobs`. -/
  | read
  /-- The assignment to `last_updated_at`. -/
  | move

/-- The open transaction meets the condition. -/
def Has (s : Polling) (number : Nat) (p : Transaction → Prop) : Prop :=
  ∃ x ∈ s.transactions, x.number = number ∧ p x

instance (s : Polling) (number : Nat) (p : Transaction → Prop) [DecidablePred p] :
    Decidable (s.Has number p) :=
  inferInstanceAs (Decidable (∃ x ∈ s.transactions, x.number = number ∧ p x))

/-- No other transaction has an uncommitted change of the row. -/
def Free (s : Polling) (x : Transaction) : Prop :=
  ∀ transferId ∈ x.target, ∀ y ∈ s.transactions, y.number ≠ x.number →
    ∀ c ∈ y.changes, c.id ≠ transferId

instance (s : Polling) (x : Transaction) : Decidable (s.Free x) :=
  inferInstanceAs (Decidable (∀ transferId ∈ x.target, ∀ y ∈ s.transactions,
    y.number ≠ x.number → ∀ c ∈ y.changes, c.id ≠ transferId))

def Enabled (s : Polling) : Act → Prop
  | .tick now => s.clock ≤ now
  | .start number => ∀ x ∈ s.transactions, x.number ≠ number
  | .build number _ => s.Has number (fun x => x.statement.isNone = true)
  | .execute number => s.Has number (fun x => x.statement.isSome = true ∧ s.Free x)
  | .commit number => s.Has number (fun x => x.statement.isNone = true)
  | .rollback number => s.Has number (fun _ => True)
  | .read => s.poller.pending = none
  | .move => s.poller.pending.isSome = true

instance (s : Polling) : (act : Act) → Decidable (s.Enabled act)
  | .tick now => inferInstanceAs (Decidable (s.clock ≤ now))
  | .start number => inferInstanceAs (Decidable (∀ x ∈ s.transactions, x.number ≠ number))
  | .build number _ =>
      inferInstanceAs (Decidable (s.Has number (fun x => x.statement.isNone = true)))
  | .execute number =>
      inferInstanceAs (Decidable (s.Has number (fun x => x.statement.isSome = true ∧ s.Free x)))
  | .commit number =>
      inferInstanceAs (Decidable (s.Has number (fun x => x.statement.isNone = true)))
  | .rollback number => inferInstanceAs (Decidable (s.Has number (fun _ => True)))
  | .read => decidable_of_iff _ Option.isNone_iff_eq_none
  | .move => inferInstanceAs (Decidable (s.poller.pending.isSome = true))

/-- The changes of the transaction. -/
def changesOf (s : Polling) (number : Nat) : List Change :=
  (s.transactions.filter (fun x => x.number == number)).flatMap (fun x => x.changes)

def updateTransaction (s : Polling) (number : Nat) (f : Transaction → Transaction) :
    List Transaction :=
  Table.update (fun x => x.number == number) f s.transactions

def closeTransaction (s : Polling) (number : Nat) : List Transaction :=
  Table.delete (fun x => x.number == number) s.transactions

def next (s : Polling) : Act → Polling
  | .tick now => { s with clock := now }
  | .start number => { s with transactions := s.transactions ++ [⟨number, s.clock, none, []⟩] }
  | .build number command =>
      { s with
        transactions := s.updateTransaction number
          (fun x => { x with statement := some ⟨command, s.clock⟩ }) }
  | .execute number =>
      { s with
        transactions := s.updateTransaction number (Transaction.execute s.transfers s.nextId)
        nextId := s.nextId + 1 }
  | .commit number =>
      { s with
        transfers := (s.changesOf number).foldl Change.apply s.transfers
        transactions := s.closeTransaction number }
  | .rollback number => { s with transactions := s.closeTransaction number }
  | .read => { s with poller := s.poller.read s.transfers }
  | .move => { s with poller := s.poller.move }

abbrev step : Polling → Act → Polling → Prop :=
  Machine.restrict Enabled (Machine.graph next)

/-- The commit of the transaction makes the version visible. -/
def Commits (s : Polling) (number : Nat) (v : Transfer) : Prop :=
  .put v ∈ s.changesOf number

/-- What the last read returned. -/
def fetched (s : Polling) : List Transfer :=
  s.poller.pending.getD []

/-! ## What a commit makes visible -/

variable {s s₁ s₂ s₃ : Polling} {number : Nat} {acts : List Act} {v : Transfer}

/-- A change of another row keeps the version. -/
theorem mem_apply_of_other {rows : List Transfer} {c : Change} (hv : v ∈ rows)
    (hother : c.id ≠ v.id) : v ∈ c.apply rows := by
  have hkeep : v ∈ Table.delete (fun t => t.id == c.id) rows :=
    Table.mem_delete.mpr ⟨hv, beq_eq_false_iff_ne.mpr hother.symm⟩
  cases c with
  | put row => exact List.mem_append_left _ hkeep
  | drop transferId => exact hkeep

theorem mem_foldl_of_other {changes : List Change} {rows : List Transfer} (hv : v ∈ rows)
    (hother : ∀ c ∈ changes, c.id ≠ v.id) : v ∈ changes.foldl Change.apply rows := by
  induction changes generalizing rows with
  | nil => exact hv
  | cons c changes ih =>
      rcases List.forall_mem_cons.mp hother with ⟨hc, hother⟩
      exact ih (mem_apply_of_other hv hc) hother

/-- Of changes of distinct rows, each version put is in the table in the end. -/
theorem mem_foldl_of_put {changes : List Change} {rows : List Transfer}
    (hd : Table.Distinct Change.id changes) (hput : .put v ∈ changes) :
    v ∈ changes.foldl Change.apply rows := by
  induction changes generalizing rows with
  | nil => exact absurd hput List.not_mem_nil
  | cons c changes ih =>
      rcases List.nodup_cons.mp hd with ⟨hnew, hd⟩
      rcases List.mem_cons.mp hput with rfl | hput
      · have hrow : v ∈ (Change.put v).apply rows :=
          List.mem_append_right _ (List.mem_singleton_self v)
        rw [List.foldl_cons]
        refine mem_foldl_of_other hrow (fun c hc heq => ?_)
        exact hnew (List.mem_map.mpr ⟨c, hc, heq⟩)
      · exact ih hd hput

/-- Transactions are told apart, and each has one change for a row. -/
structure Orderly (s : Polling) : Prop where
  numbers : Table.Distinct (fun x : Transaction => x.number) s.transactions
  changes : ∀ x ∈ s.transactions, Table.Distinct Change.id x.changes

theorem distinct_record {x : Transaction} {c : Change} (hd : Table.Distinct Change.id x.changes) :
    Table.Distinct Change.id (x.record c).changes := by
  refine Table.distinct_insert _ (Table.distinct_sublist _ hd (Table.delete_sublist _ _)) ?_
  intro d hd' heq
  exact Bool.false_ne_true ((Table.mem_delete.mp hd').2.symm.trans (beq_iff_eq.mpr heq))

theorem distinct_execute {x : Transaction} {rows : List Transfer} {nextId : Id}
    (hd : Table.Distinct Change.id x.changes) :
    Table.Distinct Change.id (x.execute rows nextId).changes := by
  unfold Transaction.execute
  split
  · exact hd
  · exact distinct_record hd
  · split
    · exact distinct_record hd
    · exact hd
  · split
    · exact distinct_record hd
    · exact hd

theorem number_execute (x : Transaction) (rows : List Transfer) (nextId : Id) :
    (x.execute rows nextId).number = x.number := by
  unfold Transaction.execute
  split
  · rfl
  · rfl
  · split <;> rfl
  · split <;> rfl

theorem orderly_update {f : Transaction → Transaction} (number : Nat) (h : s.Orderly)
    (hnumber : ∀ x, (f x).number = x.number)
    (hchanges : ∀ x, Table.Distinct Change.id x.changes → Table.Distinct Change.id (f x).changes) :
    Table.Distinct (fun x : Transaction => x.number) (s.updateTransaction number f) ∧
      ∀ x ∈ s.updateTransaction number f, Table.Distinct Change.id x.changes := by
  refine ⟨Table.distinct_update _ h.numbers (fun x _ _ => hnumber x), fun x hx => ?_⟩
  rcases Table.mem_update.mp hx with ⟨y, hy, rfl⟩
  split
  · exact hchanges y (h.changes y hy)
  · exact h.changes y hy

theorem next_orderly {act : Act} (h : s.Orderly) (henabled : s.Enabled act) :
    (s.next act).Orderly := by
  -- A commit and a rollback take a transaction away, and that is all that matters here.
  have hclose : ∀ n, Table.Distinct (fun x : Transaction => x.number) (s.closeTransaction n) ∧
      ∀ x ∈ s.closeTransaction n, Table.Distinct Change.id x.changes := by
    intro n
    exact ⟨Table.distinct_sublist _ h.numbers (Table.delete_sublist _ _),
      fun x hx => h.changes x (Table.mem_delete.mp hx).1⟩
  cases act with
  | tick | read | move => exact ⟨h.numbers, h.changes⟩
  | start n =>
      refine ⟨Table.distinct_insert _ h.numbers henabled, fun x hx => ?_⟩
      rcases List.mem_append.mp hx with hx | hx
      · exact h.changes x hx
      · rw [List.mem_singleton.mp hx]
        exact Table.distinct_nil _
  | build n command =>
      rcases orderly_update n h
        (f := fun x => { x with statement := some ⟨command, s.clock⟩ })
        (fun _ => rfl) (fun _ hd => hd) with ⟨hn, hc⟩
      exact ⟨hn, hc⟩
  | execute n =>
      rcases orderly_update n h
        (fun x => number_execute x s.transfers s.nextId) (fun _ hd => distinct_execute hd)
        with ⟨hn, hc⟩
      exact ⟨hn, hc⟩
  | commit n => exact ⟨(hclose n).1, (hclose n).2⟩
  | rollback n => exact ⟨(hclose n).1, (hclose n).2⟩

theorem orderly_of_reachable {clock : Time} (h : Machine.Reachable step (init clock) s) :
    s.Orderly := by
  refine Machine.reachable_invariant (I := Orderly) ?_ ?_ h
  · exact ⟨Table.distinct_nil _, fun _ hx => absurd hx List.not_mem_nil⟩
  · rintro a act b ha ⟨henabled, rfl⟩
    exact next_orderly ha henabled

/-- A version that is committed is in the table. -/
theorem mem_commit (h : s.Orderly) (hv : s.Commits number v) :
    v ∈ (s.next (.commit number)).transfers := by
  refine mem_foldl_of_put ?_ hv
  rcases List.mem_flatMap.mp hv with ⟨x, hx, _⟩
  rcases List.mem_filter.mp hx with ⟨hx, hnumber⟩
  rw [changesOf, Table.filter_key_eq _ h.numbers hx (beq_iff_eq.mp hnumber), List.flatMap_singleton]
  exact h.changes x hx

/-! ## What a read returns -/

/-- The version is not superseded: no other change of its row is committed. -/
def Keeps (v : Transfer) (s : Polling) : Act → Prop
  | .commit number => ∀ c ∈ s.changesOf number, c.id ≠ v.id
  | _ => True

/-- Only a read changes what is unseen. -/
theorem unseen_next {act : Act} (h : act ≠ .read) :
    (s.next act).poller.Unseen v ↔ s.poller.Unseen v := by
  cases act with
  | read => exact absurd rfl h
  | move => exact Watermark.Poller.unseen_move
  | tick | start | build | execute | commit | rollback => exact Iff.rfl

theorem mem_next {act : Act} (hkeeps : Keeps v s act) (hv : v ∈ s.transfers) :
    v ∈ (s.next act).transfers := by
  cases act with
  | commit n => exact mem_foldl_of_other hv hkeeps
  | tick | start | build | execute | rollback | read | move => exact hv

/-- The steps that may come between the commit of a version and the next read. -/
def Waits (v : Transfer) (s : Polling) (act : Act) : Prop :=
  act ≠ .read ∧ Keeps v s act

theorem waits_run (hrun : Machine.Run (Machine.restrict (Waits v) step) s₁ acts s₂)
    (hv : v ∈ s₁.transfers) :
    v ∈ s₂.transfers ∧ (s₂.poller.Unseen v ↔ s₁.poller.Unseen v) := by
  induction hrun with
  | nil s => exact ⟨hv, Iff.rfl⟩
  | cons hstep _ ih =>
      rcases hstep with ⟨⟨hact, hkeeps⟩, _, rfl⟩
      rcases ih (mem_next hkeeps hv) with ⟨hmem, hunseen⟩
      exact ⟨hmem, hunseen.trans (unseen_next hact)⟩

/-- A read returns the versions of the table that are unseen. -/
theorem mem_fetched_read (hread : step s₂ .read s₃) :
    v ∈ s₃.fetched ↔ v ∈ s₂.transfers ∧ s₂.poller.Unseen v := by
  rcases hread with ⟨hidle, rfl⟩
  exact Watermark.Poller.mem_fetch_iff_unseen hidle

/-- A committed version that no later commit supersedes is returned by the first
    read after its commit exactly when, at its commit, its stamp was above the
    mark and above all stamps read and not yet accounted for. -/
theorem returned_iff {clock : Time} (hs : Machine.Reachable step (init clock) s)
    (hv : s.Commits number v) (hcommit : step s (.commit number) s₁)
    (hrun : Machine.Run (Machine.restrict (Waits v) step) s₁ acts s₂)
    (hread : step s₂ .read s₃) : v ∈ s₃.fetched ↔ s.poller.Unseen v := by
  rcases hcommit with ⟨_, rfl⟩
  rcases waits_run hrun (mem_commit (orderly_of_reachable hs) hv) with ⟨hmem, hunseen⟩
  have hcommitted : (s.next (.commit number)).poller.Unseen v ↔ s.poller.Unseen v :=
    unseen_next Act.noConfusion
  rw [mem_fetched_read hread, hunseen, hcommitted]
  exact and_iff_right hmem

/-! ## Commits out of the order of their stamps -/

section Sample

/-- The columns of a transfer. -/
def sampleColumns : Transfer where
  id := 0
  groupId := 1
  name := "transfer"
  description := ""
  createdAt := 0
  updatedAt := 0
  sourceConnectionId := 1
  targetConnectionId := 1
  strategyParams := .full
  sourceParams := { type := .postgres, fields := [] }
  targetParams := { type := .postgres, fields := [] }
  transformations := []
  resources := {}
  isScheduled := true
  schedule := "0 0 * * *"
  queueId := 1

/-- Two transactions insert a transfer. The one that starts later commits first,
    and the scheduler sees it before the other commits. -/
def overtaken : List Act := [
  .tick 1, .start 1, .tick 2, .start 2,
  .build 2 (.insert sampleColumns), .execute 2, .commit 2, .read, .move,
  .build 1 (.insert sampleColumns), .execute 1]

/-- The same, but the scheduler reads after both. -/
def inTime : List Act := [
  .tick 1, .start 1, .tick 2, .start 2,
  .build 2 (.insert sampleColumns), .execute 2, .commit 2,
  .build 1 (.insert sampleColumns), .execute 1]

def sampleState (acts : List Act) : Polling :=
  acts.foldl next (init 0)

/-- The version of the transaction that started first. -/
def lateVersion : Transfer :=
  { sampleColumns with id := 2, createdAt := 1, updatedAt := 1 }

theorem reachable_sampleState {acts : List Act} (h : Machine.Along Enabled next (init 0) acts) :
    Machine.Reachable step (init 0) (sampleState acts) :=
  ⟨acts, Machine.run_restrict_graph.mpr ⟨h, rfl⟩⟩

theorem returned_inTime :
    lateVersion ∈ (((sampleState inTime).next (.commit 1)).next .read).fetched ↔
      (sampleState inTime).poller.Unseen lateVersion :=
  returned_iff (reachable_sampleState (by decide +kernel)) (List.mem_singleton_self _)
    ⟨by decide +kernel, rfl⟩ (Machine.Run.nil _) ⟨rfl, rfl⟩

/-- The transfer that was inserted first is not returned, now or later. -/
theorem not_returned_overtaken :
    ¬ ∀ clock s number v s₁ acts s₂ s₃, Machine.Reachable step (init clock) s →
      s.Commits number v → step s (.commit number) s₁ →
      Machine.Run (Machine.restrict (Waits v) step) s₁ acts s₂ → step s₂ .read s₃ →
      v ∈ s₃.fetched := by
  intro h
  have hmem := h 0 (sampleState overtaken) 1 lateVersion _ [] _ _
    (reachable_sampleState (by decide +kernel)) (List.mem_singleton_self _)
    ⟨by decide +kernel, rfl⟩ (Machine.Run.nil _) ⟨rfl, rfl⟩
  exact absurd hmem List.not_mem_nil

end Sample

end Polling

end SyncMaster
