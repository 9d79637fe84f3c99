import SyncMaster.Worker.Hwm

/-!
# Transfers that are Interrupted

A run of a transfer does two things that others see: it writes to the target, and it
moves the watermark. Nothing makes the two one. When the run ends with an exception, the
library does not store the new value, and what has been written by then stays written:
the worker marks the run as failed, and that is all.

So the next run starts from the old watermark. If it replaces the target, the remains are
gone. If it appends, it reads the rows that have been written once more. The reset of the
watermark by a full run comes before the write, so a full run that is interrupted leaves
half a table behind, but one that the next run replaces.

`LosesTrack` says of a history, without looking at the store, when this goes wrong: an
incremental run that is completed comes after an interrupted one that had appended rows,
with no full run between them, be it completed or not; or it resumes at zero. In all other
histories every run that is completed leaves the target in sync, whatever was interrupted
before it.

## Main definitions

* `Controller.interruptTransfer`: A transfer that ends with an exception.
* `Interruptions.Event`, `Interruptions.step`: What happens to the tables.
* `Interruptions.LosesTrack`: The histories in which it goes wrong.
* `Interruptions.Duplicated`: Rows are in the target that the watermark does not cover.
* `Interruptions.Traced`: What one event means for a history.

## Theorems

* `interrupt_full`, `interrupt_incremental`: What an interrupted run leaves.
* `interrupted_duplicated`: When it leaves rows behind.
* `duplicated_interrupted`: Rows that are left behind stay.
* `incremental_not_synced`: And the next incremental run copies them once more.
* `exists_traced`: Every event is traced.
* `completed_synced_iff`: Which histories leave the target in sync.
-/

namespace SyncMaster

/-! ## The controller -/

section Controller

variable {Row Out : Type} {value : Row → Int} (etl : OnEtl Row Out value)

/-- `write`, when it ends with an exception: before the table is touched, or with some of
    the rows in it. -/
def DBHandler.interruptWrite (handler : DBHandler) (table : List Out) (df : DataFrame Out) :
    Option Nat → List Out
  | none => table
  | some written => handler.write etl table { df with rows := df.rows.take written }

/-- `perform_transfer`, when the write ends with an exception. An incremental strategy does
    not store the new value then. -/
def Controller.interruptTransfer (hwmStoreEnabled : Bool) (sourceHandler targetHandler : DBHandler)
    (written : Option Nat) (w : Warehouse Row Out) : Warehouse Row Out :=
  match sourceHandler.transferDto.strategy with
  | .incremental _ =>
      let hwm := w.hwmStore (getTransferHwmName sourceHandler)
      let source := { sourceHandler with hwm := hwm }
      let target := { targetHandler with hwm := hwm }
      let mark := (w.hwmStore source.hwmName).bind Hwm.value
      let df := source.read etl mark w.source
      { w with target := target.interruptWrite etl w.target df written }
  | .full =>
      let w' := if hwmStoreEnabled then resetTransferHwm sourceHandler w else w
      let df := sourceHandler.read etl none w'.source
      { w' with target := targetHandler.interruptWrite etl w'.target df written }

end Controller

/-! ## Histories -/

namespace Interruptions

open History (mark Synced)

variable {Row Out : Type} {value : Row → Int} (etl : OnEtl Row Out value) (setup : CopySetup)

/-- An interrupted run has written this many rows, or has not come to the table. -/
inductive Event (Row : Type) where
  | insert (row : Row)
  | run (strategy : Strategy)
  | interrupted (strategy : Strategy) (written : Option Nat)

def step (w : Warehouse Row Out) : Event Row → Warehouse Row Out
  | .insert row => History.step etl setup w (.insert row)
  | .run strategy => History.step etl setup w (.run strategy)
  | .interrupted strategy written =>
      Controller.interruptTransfer etl setup.hwmStoreEnabled (setup.sourceHandler strategy)
        (setup.targetHandler strategy) written w

/-- An inserted row is above all rows of the source. -/
def Increasing (value : Row → Int) (w : Warehouse Row Out) : Event Row → Prop
  | .insert row => ∀ old ∈ w.source, value old < value row
  | _ => True

instance (w : Warehouse Row Out) : (event : Event Row) → Decidable (Increasing value w event)
  | .insert row => inferInstanceAs (Decidable (∀ old ∈ w.source, value old < value row))
  | .run _ => isTrue trivial
  | .interrupted _ _ => isTrue trivial

/-- A watermark that counts. -/
def Counts (last : Option Int) : Prop :=
  last ≠ none ∧ last ≠ some 0

instance (last : Option Int) : Decidable (Counts last) :=
  inferInstanceAs (Decidable (_ ∧ _))

/-- What a full run leaves of the watermark. -/
def reset (last : Option Int) : Option Int :=
  if Counts last then none else last

/-- An interrupted run with this watermark has appended rows. -/
def Appends (value : Row → Int) (rows : List Row) (last : Option Int) (written : Option Nat) :
    Prop :=
  Counts last ∧ Watermark.fetch value last rows ≠ [] ∧ written ≠ none ∧ written ≠ some 0

instance (rows : List Row) (last : Option Int) (written : Option Nat) :
    Decidable (Appends value rows last written) :=
  inferInstanceAs (Decidable (_ ∧ _ ≠ [] ∧ _))

/-- A completed incremental run resumes at zero, or after rows were appended that the
    watermark `last` does not cover. The rows are those of the source. -/
def LosesTrack (value : Row → Int) (rows : List Row) (last : Option Int) (appended : Bool) :
    List (Event Row) → Prop
  | [] => False
  | .insert row :: events => LosesTrack value (rows ++ [row]) last appended events
  | .run .full :: events => LosesTrack value rows (reset last) false events
  | .run (.incremental _) :: events =>
      last = some 0 ∨ appended = true ∨ LosesTrack value rows (rows.map value).max? false events
  | .interrupted .full _ :: events => LosesTrack value rows (reset last) false events
  | .interrupted (.incremental _) written :: events =>
      LosesTrack value rows last (appended || decide (Appends value rows last written)) events

/-! ## What an interrupted run leaves -/

variable {etl setup} {w : Warehouse Row Out}

theorem counts_mark_iff : Counts (mark setup w) ↔ Hwm.truthy (w.hwmStore setup.hwmName) = true :=
  (History.truthy_iff setup w).symm

/-- A full run has reset the watermark by the time it is interrupted. -/
theorem interrupt_full (etl : OnEtl Row Out value) (w : Warehouse Row Out)
    (henabled : setup.hwmStoreEnabled = true) (written : Option Nat) :
    (step etl setup w (.interrupted .full written)).source = w.source ∧
      mark setup (step etl setup w (.interrupted .full written)) = reset (mark setup w) := by
  rcases History.resetTransferHwm_eq setup .full w with ⟨hsource, hmark⟩
  have hstep : ∃ target, step etl setup w (.interrupted .full written) =
      { Controller.resetTransferHwm (setup.sourceHandler .full) w with target := target } := by
    rw [step, Controller.interruptTransfer, henabled]
    exact ⟨_, rfl⟩
  rcases hstep with ⟨target, hstep⟩
  rw [hstep]
  refine ⟨hsource, ?_⟩
  rw [reset, if_congr counts_mark_iff rfl rfl]
  exact hmark

/-- An incremental run leaves some of the rows above the watermark, if it has come to the
    table, and the watermark where it was. -/
theorem interrupt_incremental (etl : OnEtl Row Out value) (w : Warehouse Row Out)
    (incrementBy : String) (written : Option Nat)
    (hplain : DBHandler.Unfiltered setup.transformations) :
    let w' := step etl setup w (.interrupted (.incremental incrementBy) written)
    w'.source = w.source ∧ w'.hwmStore = w.hwmStore ∧
      match written with
      | none => w'.target = w.target
      | some n => ∃ part : List Out,
          part.length = min n (Watermark.fetch value (mark setup w) w.source).length ∧
          (Hwm.truthy (w.hwmStore setup.hwmName) = true → w'.target.Perm (w.target ++ part)) := by
  intro w'
  let strategy := Strategy.incremental incrementBy
  let hwm := w.hwmStore setup.hwmName
  let source := { setup.sourceHandler strategy with hwm := hwm }
  let target := { setup.targetHandler strategy with hwm := hwm }
  let df := source.read etl (mark setup w) w.source
  have htarget : w'.target = target.interruptWrite etl w.target df written := rfl
  refine ⟨rfl, rfl, ?_⟩
  cases written with
  | none => exact htarget
  | some n =>
      -- The part that was written goes through the write of the handler as a whole would.
      let part := { df with rows := df.rows.take n }
      have hread := DBHandler.rows_read_incremental etl source (mark setup w) w.source hplain rfl
      refine ⟨part.rows.map (target.stored etl part.schema), ?_, fun htruthy => ?_⟩
      · rw [List.length_map, List.length_take, hread.length_eq, List.length_map]
      · have hmode : target.writeOptions.ifExists = some .append := by
          rw [DBHandler.ifExists_writeOptions target rfl, if_pos htruthy]
        rw [htarget]
        exact DBHandler.write_appended etl target w.target part hmode

/-! ## What a history does -/

/-- The watermark counts, and besides the rows up to it the target holds others. -/
structure Duplicated (etl : OnEtl Row Out value) (setup : CopySetup) (w : Warehouse Row Out) :
    Prop where
  attained : Watermark.Attained value (mark setup w) w.source
  counts : Hwm.truthy (w.hwmStore setup.hwmName) = true
  copied : ∃ extra, extra ≠ [] ∧ w.target.Perm
    ((Watermark.covered value (mark setup w) w.source).map (setup.shape etl) ++ extra)

/-- What holds between the runs. -/
def Kept (etl : OnEtl Row Out value) (setup : CopySetup) (w : Warehouse Row Out) :
    Bool → Prop
  | false => History.Consistent etl setup w
  | true => Duplicated etl setup w

theorem insert_duplicated {row : Row} (h : Duplicated etl setup w)
    (hrow : ∀ old ∈ w.source, value old < value row) :
    Duplicated etl setup (step etl setup w (.insert row)) := by
  refine ⟨Watermark.attained_append row h.attained, h.counts, ?_⟩
  have hcovered : Watermark.covered value (mark setup w) (w.source ++ [row]) =
      Watermark.covered value (mark setup w) w.source :=
    Watermark.covered_append (Watermark.above_of_attained h.attained hrow)
  rcases h.copied with ⟨extra, hextra, htarget⟩
  refine ⟨extra, hextra, ?_⟩
  change w.target.Perm
    ((Watermark.covered value (mark setup w) (w.source ++ [row])).map (setup.shape etl) ++ extra)
  rw [hcovered]
  exact htarget

/-- A watermark that was reset, or that does not count, promises nothing of the target. -/
theorem consistent_of_reset {w' : Warehouse Row Out} (h : Watermark.Attained value (mark setup w)
    w.source) (hsource : w'.source = w.source) (hmark : mark setup w' = reset (mark setup w)) :
    History.Consistent etl setup w' := by
  have hnot : ¬ Counts (mark setup w') := by
    rw [hmark, reset]
    split
    · exact fun hcounts => hcounts.1 rfl
    · assumption
  refine ⟨fun m hm => ?_, fun htruthy => absurd (counts_mark_iff.mpr htruthy) hnot⟩
  rw [hsource]
  rw [hmark, reset] at hm
  split at hm
  · cases hm
  · exact h m hm

theorem Kept.attained {appended : Bool} (h : Kept etl setup w appended) :
    Watermark.Attained value (mark setup w) w.source := by
  cases appended with
  | false => exact History.Consistent.attained h
  | true => exact Duplicated.attained h

section Interrupted

variable (incrementBy : String) (written : Option Nat)

/-- The watermark is where it was. -/
theorem mark_interrupted (etl : OnEtl Row Out value) (w : Warehouse Row Out)
    (hplain : DBHandler.Unfiltered setup.transformations) :
    mark setup (step etl setup w (.interrupted (.incremental incrementBy) written)) =
      mark setup w := by
  rcases interrupt_incremental etl w incrementBy written hplain with ⟨_, hstore, _⟩
  rw [mark, mark, hstore]

/-- What was in the target is in it still, and what has been written besides. -/
theorem target_interrupted (etl : OnEtl Row Out value)
    (hplain : DBHandler.Unfiltered setup.transformations)
    (htruthy : Hwm.truthy (w.hwmStore setup.hwmName) = true) :
    ∃ part : List Out,
      (step etl setup w (.interrupted (.incremental incrementBy) written)).target.Perm
        (w.target ++ part) ∧
      (part ≠ [] ↔ Appends value w.source (mark setup w) written) := by
  have hcounts : Counts (mark setup w) := counts_mark_iff.mpr htruthy
  rcases interrupt_incremental etl w incrementBy written hplain with ⟨_, _, htarget⟩
  cases written with
  | none =>
      refine ⟨[], ?_, iff_of_false (fun hne => hne rfl) (fun happends => happends.2.2.1 rfl)⟩
      rw [htarget, List.append_nil]
  | some n =>
      rcases htarget with ⟨part, hlength, hperm⟩
      refine ⟨part, hperm htruthy, ?_⟩
      rw [← List.length_pos_iff, hlength, Nat.lt_min, List.length_pos_iff]
      constructor
      · rintro ⟨hn, hfetch⟩
        exact ⟨hcounts, hfetch, Option.some_ne_none n,
          fun hzero => hn.ne' (Option.some.inj hzero)⟩
      · rintro ⟨_, hfetch, _, hzero⟩
        exact ⟨Nat.pos_of_ne_zero (fun hn => hzero (congrArg some hn)), hfetch⟩

/-- Rows that are appended are in the target, and the watermark does not cover them. -/
theorem interrupted_duplicated (hplain : DBHandler.Unfiltered setup.transformations)
    (h : History.Consistent etl setup w)
    (happends : Appends value w.source (mark setup w) written) :
    Duplicated etl setup (step etl setup w (.interrupted (.incremental incrementBy) written)) := by
  have htruthy := counts_mark_iff.mp happends.1
  have hmark := mark_interrupted incrementBy written etl w hplain
  rcases interrupt_incremental etl w incrementBy written hplain with ⟨hsource, hstore, _⟩
  rcases target_interrupted incrementBy written etl hplain htruthy with ⟨part, hpart, hiff⟩
  refine ⟨?_, ?_, part, hiff.mpr happends, ?_⟩
  · rw [hmark, hsource]
    exact h.attained
  · rw [hstore]
    exact htruthy
  · rw [hmark, hsource]
    exact hpart.trans ((h.copied htruthy).append_right part)

/-- Without them the target is as good as before. -/
theorem interrupted_consistent (hplain : DBHandler.Unfiltered setup.transformations)
    (h : History.Consistent etl setup w)
    (hnot : ¬ Appends value w.source (mark setup w) written) :
    History.Consistent etl setup
      (step etl setup w (.interrupted (.incremental incrementBy) written)) := by
  have hmark := mark_interrupted incrementBy written etl w hplain
  rcases interrupt_incremental etl w incrementBy written hplain with ⟨hsource, hstore, _⟩
  refine ⟨?_, fun htruthy => ?_⟩
  · rw [hmark, hsource]
    exact h.attained
  · rw [hstore] at htruthy
    rcases target_interrupted incrementBy written etl hplain htruthy with ⟨part, hpart, hiff⟩
    have hnil : part = [] := not_not.mp (fun hne => hnot (hiff.mp hne))
    rw [hnil, List.append_nil] at hpart
    rw [hmark, hsource]
    exact hpart.trans (h.copied htruthy)

/-- Rows that are left behind stay, and others may join them. -/
theorem duplicated_interrupted (hplain : DBHandler.Unfiltered setup.transformations)
    (h : Duplicated etl setup w) :
    Duplicated etl setup (step etl setup w (.interrupted (.incremental incrementBy) written)) := by
  have hmark := mark_interrupted incrementBy written etl w hplain
  rcases interrupt_incremental etl w incrementBy written hplain with ⟨hsource, hstore, _⟩
  rcases target_interrupted incrementBy written etl hplain h.counts with ⟨part, hpart, _⟩
  rcases h.copied with ⟨extra, hextra, hold⟩
  refine ⟨?_, ?_, extra ++ part, ?_, ?_⟩
  · rw [hmark, hsource]
    exact h.attained
  · rw [hstore]
    exact h.counts
  · exact fun hnil => hextra (List.append_eq_nil_iff.mp hnil).1
  · rw [hmark, hsource, ← List.append_assoc]
    exact hpart.trans (hold.append_right part)

theorem interrupted_kept (hplain : DBHandler.Unfiltered setup.transformations) {appended : Bool}
    (h : Kept etl setup w appended) :
    Kept etl setup (step etl setup w (.interrupted (.incremental incrementBy) written))
      (appended || decide (Appends value w.source (mark setup w) written)) := by
  cases appended with
  | true => exact duplicated_interrupted incrementBy written hplain h
  | false =>
      by_cases happends : Appends value w.source (mark setup w) written
      · rw [decide_eq_true happends]
        exact interrupted_duplicated incrementBy written hplain h happends
      · rw [decide_eq_false happends]
        exact interrupted_consistent incrementBy written hplain h happends

end Interrupted

/-- Rows that the watermark does not cover are read once more, and appended. -/
theorem incremental_not_synced (incrementBy : String)
    (hplain : DBHandler.Unfiltered setup.transformations) (h : Duplicated etl setup w) :
    ¬ Synced etl setup (step etl setup w (.run (.incremental incrementBy))) := by
  intro hsynced
  rcases History.run_incremental etl w incrementBy hplain with ⟨hsource, htarget, _⟩
  rcases h.copied with ⟨extra, hextra, hold⟩
  rw [if_pos h.counts] at htarget
  have hsynced' : (step etl setup w (.run (.incremental incrementBy))).target.Perm
      (w.source.map (setup.shape etl)) := by
    rw [Synced, step, hsource] at hsynced
    exact hsynced
  have hlength := (htarget.symm.trans hsynced').length_eq
  have hcover := (Watermark.covered_append_fetch value (mark setup w) w.source).length_eq
  rw [List.length_append, hold.length_eq, List.length_append, List.length_map, List.length_map,
    List.length_map] at hlength
  rw [List.length_append] at hcover
  have hpos := List.length_pos_iff.mpr hextra
  omega

/-- If the event is a run that is completed, it leaves the target in sync. -/
def LeavesSynced (etl : OnEtl Row Out value) (setup : CopySetup) (w : Warehouse Row Out) :
    Event Row → Prop
  | .run strategy => Synced etl setup (step etl setup w (.run strategy))
  | _ => True

/-- An event is traced: it loses track just when it does not leave the target in sync,
    and otherwise the invariant goes on. -/
structure Traced (etl : OnEtl Row Out value) (setup : CopySetup) (w : Warehouse Row Out)
    (appended : Bool) (event : Event Row) (appended' : Bool) : Prop where
  loses : ∀ events, LosesTrack value w.source (mark setup w) appended (event :: events) ↔
    ¬ LeavesSynced etl setup w event ∨ LosesTrack value (step etl setup w event).source
      (mark setup (step etl setup w event)) appended' events
  kept : LeavesSynced etl setup w event → Kept etl setup (step etl setup w event) appended'

/-- An event that `LosesTrack` passes over. -/
theorem traced_of_synced {appended appended' : Bool} {event : Event Row}
    (hsynced : LeavesSynced etl setup w event)
    (hkept : Kept etl setup (step etl setup w event) appended')
    (hnext : ∀ events, LosesTrack value w.source (mark setup w) appended (event :: events) ↔
      LosesTrack value (step etl setup w event).source (mark setup (step etl setup w event))
        appended' events) :
    Traced etl setup w appended event appended' := by
  refine ⟨fun events => ?_, fun _ => hkept⟩
  rw [hnext, or_iff_right (not_not.mpr hsynced)]

section Accounts

variable {appended : Bool}

theorem traced_insert {row : Row} (h : Kept etl setup w appended)
    (hrow : ∀ old ∈ w.source, value old < value row) :
    Traced etl setup w appended (.insert row) appended := by
  refine traced_of_synced trivial ?_ (fun _ => Iff.rfl)
  cases appended with
  | false => exact History.insert_consistent h hrow
  | true => exact insert_duplicated h hrow

/-- The watermark is reset, so the remains do not matter. -/
theorem traced_interrupted_full (henabled : setup.hwmStoreEnabled = true)
    (written : Option Nat) (h : Kept etl setup w appended) :
    Traced etl setup w appended (.interrupted .full written) false := by
  rcases interrupt_full etl w henabled written with ⟨hsource, hmark⟩
  refine traced_of_synced trivial (consistent_of_reset h.attained hsource hmark)
    (fun events => ?_)
  rw [hsource, hmark]
  rfl

theorem traced_interrupted (incrementBy : String) (written : Option Nat)
    (hplain : DBHandler.Unfiltered setup.transformations) (h : Kept etl setup w appended) :
    Traced etl setup w appended (.interrupted (.incremental incrementBy) written)
      (appended || decide (Appends value w.source (mark setup w) written)) := by
  rcases interrupt_incremental etl w incrementBy written hplain with ⟨hsource, _, _⟩
  refine traced_of_synced trivial (interrupted_kept incrementBy written hplain h)
    (fun events => ?_)
  rw [hsource, mark_interrupted incrementBy written etl w hplain]
  rfl

theorem traced_full (hplain : DBHandler.Unfiltered setup.transformations)
    (henabled : setup.hwmStoreEnabled = true) (h : Kept etl setup w appended) :
    Traced etl setup w appended (.run .full) false := by
  rcases History.run_full etl w hplain henabled with ⟨hsource, hsynced, hmark⟩
  rw [← if_congr counts_mark_iff rfl rfl] at hmark
  refine traced_of_synced hsynced (consistent_of_reset h.attained hsource hmark)
    (fun events => ?_)
  change _ ↔ LosesTrack value (History.step etl setup w (.run .full)).source
    (mark setup (History.step etl setup w (.run .full))) false events
  rw [hsource, hmark]
  rfl

/-- From a mark that is not zero, and with no rows left behind, the invariant goes on. -/
theorem traced_incremental (incrementBy : String)
    (hplain : DBHandler.Unfiltered setup.transformations) (h : Kept etl setup w appended) :
    Traced etl setup w appended (.run (.incremental incrementBy)) false := by
  cases appended with
  | true =>
      have hnot := incremental_not_synced incrementBy hplain h
      exact ⟨fun events => iff_of_true (Or.inr (Or.inl rfl)) (Or.inl hnot), (absurd · hnot)⟩
  | false =>
      have hsync := History.incremental_synced_iff incrementBy hplain h
      rcases History.run_incremental etl w incrementBy hplain with ⟨hsource, _, hmark⟩
      rw [Watermark.advance_fetch_eq h.attained] at hmark
      refine ⟨fun events => ?_, fun hsynced =>
        History.incremental_consistent incrementBy hplain h (hsync.mp hsynced)⟩
      change _ ↔ ¬ Synced etl setup (History.step etl setup w (.run (.incremental incrementBy))) ∨
        LosesTrack value (History.step etl setup w (.run (.incremental incrementBy))).source
          (mark setup (History.step etl setup w (.run (.incremental incrementBy)))) false events
      rw [hsync, not_not, hsource, hmark]
      exact or_congr_right (or_iff_right Bool.false_ne_true)

theorem exists_traced (hplain : DBHandler.Unfiltered setup.transformations)
    (henabled : setup.hwmStoreEnabled = true) (h : Kept etl setup w appended) {event : Event Row}
    (hevent : Increasing value w event) :
    ∃ appended', Traced etl setup w appended event appended' := by
  cases event with
  | insert row => exact ⟨_, traced_insert h hevent⟩
  | interrupted strategy written =>
      cases strategy with
      | full => exact ⟨_, traced_interrupted_full henabled written h⟩
      | incremental incrementBy => exact ⟨_, traced_interrupted incrementBy written hplain h⟩
  | run strategy =>
      cases strategy with
      | full => exact ⟨_, traced_full hplain henabled h⟩
      | incremental incrementBy => exact ⟨_, traced_incremental incrementBy hplain h⟩

end Accounts

/-- The target is in sync after every run that is completed exactly when no incremental one
    loses track. -/
theorem along_completed_iff (hplain : DBHandler.Unfiltered setup.transformations)
    (henabled : setup.hwmStoreEnabled = true) {appended : Bool} {events : List (Event Row)}
    (h : Kept etl setup w appended)
    (hincreasing : Machine.Along (Increasing value) (step etl setup) w events) :
    Machine.Along (LeavesSynced etl setup) (step etl setup) w events ↔
      ¬ LosesTrack value w.source (mark setup w) appended events := by
  induction events generalizing w appended with
  | nil => exact ⟨fun _ => id, fun _ => trivial⟩
  | cons event events ih =>
      rcases hincreasing with ⟨hevent, hincreasing⟩
      rcases exists_traced hplain henabled h hevent with ⟨appended', htraced⟩
      rw [htraced.loses, not_or, not_not]
      constructor
      · rintro ⟨hsynced, halong⟩
        exact ⟨hsynced, (ih (htraced.kept hsynced) hincreasing).mp halong⟩
      · rintro ⟨hsynced, hnot⟩
        exact ⟨hsynced, (ih (htraced.kept hsynced) hincreasing).mpr hnot⟩

/-- A transfer without rows filters and queries is created for two tables, and its runs may be
    interrupted. After every run that is completed the target holds the rows of the source
    exactly when no incremental one resumes at zero, or after an interrupted one that had
    appended rows and was followed by no full run. -/
theorem completed_synced_iff (etl : OnEtl Row Out value) (w : Warehouse Row Out)
    (events : List (Event Row)) (hplain : DBHandler.Unfiltered setup.transformations)
    (henabled : setup.hwmStoreEnabled = true) (hnew : w.hwmStore setup.hwmName = none)
    (hincreasing : Machine.Along (Increasing value) (step etl setup) w events) :
    (∀ before strategy after, events = before ++ .run strategy :: after →
      Synced etl setup ((before ++ [.run strategy]).foldl (step etl setup) w)) ↔
      ¬ LosesTrack value w.source none false events := by
  have hmark : mark setup w = none := by
    rw [mark, hnew]
    rfl
  have hkept : Kept etl setup w false := by
    refine ⟨fun m hm => ?_, fun htruthy => absurd hmark ((History.truthy_iff setup w).mp htruthy).1⟩
    rw [hmark] at hm
    cases hm
  have hiff := along_completed_iff hplain henabled hkept hincreasing
  rw [hmark] at hiff
  rw [← hiff, Machine.along_iff]
  constructor
  · intro h before event after hevents
    cases event with
    | insert row => trivial
    | interrupted strategy written => trivial
    | run strategy =>
        have hsynced := h before strategy after hevents
        rw [List.foldl_append] at hsynced
        exact hsynced
  · intro h before strategy after hevents
    rw [List.foldl_append]
    exact h before (.run strategy) after hevents

/-- Two rows, the second of them copied by a run that is interrupted after the write, and a
    full run before the next incremental one. -/
def interruptedRuns : List (Event Int) := [
  .insert 1, .run (.incremental "id"), .insert 2, .interrupted (.incremental "id") (some 1),
  .interrupted .full none, .run (.incremental "id")]

theorem completed_synced_iff_interruptedRuns :
    (∀ before strategy after, interruptedRuns = before ++ .run strategy :: after →
      Synced History.singleColumn History.postgresToPostgres
        ((before ++ [.run strategy]).foldl (step History.singleColumn History.postgresToPostgres)
          History.newWarehouse)) ↔
      ¬ LosesTrack id [] none false interruptedRuns :=
  completed_synced_iff History.singleColumn History.newWarehouse interruptedRuns (by decide) rfl
    rfl (by decide +kernel)

end Interruptions

end SyncMaster
