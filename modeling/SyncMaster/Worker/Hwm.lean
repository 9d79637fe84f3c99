import Mathlib.Logic.Function.Basic
import SyncMaster.Library.Machine
import SyncMaster.Worker.Handlers

/-!
# Transfers with a Watermark

An incremental transfer copies the rows above a watermark and appends them to
the target. The first run has no watermark: it copies everything and replaces
the target. A full run replaces the target as well, and resets the watermark so
that the next incremental run starts anew.

Three pieces of code look at the stored watermark to find out which case it is:
the library, when it reads, the handler of the target, when it decides whether
to append, and the controller, when it resets. The library asks whether there
is a value. The others ask whether the value is true, and zero is not. A run
that starts with the value zero reads the rows above it and replaces the
target with them.

Between the runs rows are inserted into the source, with increasing values of
the increment column. `ResumesAtZero` says of such a history, without looking
at the store, that there is an incremental run whose predecessor found zero to
be the largest value. `synced_iff` is the equivalence: after every run the
target holds the rows of the source exactly when the history has no such run.

## Main definitions

* `Controller.performTransfer`: The transfer.
* `CopySetup`, `History.Event`: A transfer between two tables, and what happens
  to them.
* `History.Synced`: The target holds the rows of the source.
* `History.ResumesAtZero`: An incremental run follows one that ended at zero.
* `History.Consistent`: The invariant: the watermark is the value of a row, and
  the target holds the rows up to it.

## Theorems

* `Controller.hwmName_eq`: Controller and reader agree on the watermark.
* `History.run_full`, `History.run_incremental`: What a run does.
* `History.incremental_synced_iff`: Which runs leave the target in sync.
* `History.synced_iff`: Which histories do.
-/

namespace SyncMaster

/-! ## The controller -/

/-- Both tables and the store of watermarks. -/
structure Warehouse (Row Out : Type) where
  source : List Row
  target : List Out
  hwmStore : String → Option Hwm

namespace Controller

variable {Row Out : Type} {value : Row → Int} (etl : OnEtl Row Out value)

/-- `_get_transfer_hwm_name`, for a database. -/
def getTransferHwmName (sourceHandler : DBHandler) : String :=
  "_".intercalate
    [toString sourceHandler.transferDto.id, sourceHandler.cls.typeName,
      sourceHandler.transferDto.tableName]

/-- The reader asks for the watermark that the controller has loaded. -/
theorem hwmName_eq (sourceHandler : DBHandler) :
    sourceHandler.hwmName = getTransferHwmName sourceHandler := by
  rw [DBHandler.hwmName, getTransferHwmName]
  rfl

/-- `_perform_incremental_transfer`. The strategy stores the new value when both
    handlers are done. -/
def performIncrementalTransfer (sourceHandler targetHandler : DBHandler)
    (w : Warehouse Row Out) : Warehouse Row Out :=
  let hwm := w.hwmStore (getTransferHwmName sourceHandler)
  let source := { sourceHandler with hwm := hwm }
  let target := { targetHandler with hwm := hwm }
  let mark := (w.hwmStore source.hwmName).bind Hwm.value
  let df := source.read etl mark w.source
  { source := w.source
    target := target.write etl w.target df
    hwmStore := Function.update w.hwmStore source.hwmName
      (some ⟨etl.savedValue (source.reader etl) mark w.source⟩) }

/-- `_reset_transfer_hwm`. -/
def resetTransferHwm (sourceHandler : DBHandler) (w : Warehouse Row Out) : Warehouse Row Out :=
  let name := getTransferHwmName sourceHandler
  if Hwm.truthy (w.hwmStore name) then
    { w with hwmStore := Function.update w.hwmStore name (some ⟨none⟩) }
  else w

/-- `perform_transfer`, where nothing fails. -/
def performTransfer (hwmStoreEnabled : Bool) (sourceHandler targetHandler : DBHandler)
    (w : Warehouse Row Out) : Warehouse Row Out :=
  match sourceHandler.transferDto.strategy with
  | .incremental _ => performIncrementalTransfer etl sourceHandler targetHandler w
  | .full =>
      let w' := if hwmStoreEnabled then resetTransferHwm sourceHandler w else w
      let df := sourceHandler.read etl none w'.source
      { w' with target := targetHandler.write etl w'.target df }

end Controller

/-! ## Histories -/

/-- A transfer between two tables, without its strategy. -/
structure CopySetup where
  id : Id
  sourceClass : DBHandlerClass
  sourceTable : String
  targetClass : DBHandlerClass
  targetTable : String
  resources : Resources
  transformations : List Transformation
  hwmStoreEnabled : Bool

namespace CopySetup

/-- `get_handler`, with the parameters that the API accepts for a database. -/
def getHandler (setup : CopySetup) (strategy : Strategy) (cls : DBHandlerClass) (table : String) :
    DBHandler where
  cls := cls
  transferDto :=
    { id := setup.id
      tableName := table
      strategy := strategy
      resources := setup.resources
      transformations := setup.transformations
      options := dbPostInit (some .empty) }
  hwm := none

def sourceHandler (setup : CopySetup) (strategy : Strategy) : DBHandler :=
  setup.getHandler strategy setup.sourceClass setup.sourceTable

def targetHandler (setup : CopySetup) (strategy : Strategy) : DBHandler :=
  setup.getHandler strategy setup.targetClass setup.targetTable

/-- The name of the watermark of the transfer. -/
def hwmName (setup : CopySetup) : String :=
  (setup.sourceHandler .full).hwmName

/-- What the transfer makes of a row: the columns filter of the source handler
    and what the target stores. -/
def shape {Row Out : Type} {value : Row → Int} (etl : OnEtl Row Out value) (setup : CopySetup)
    (row : Row) : Out :=
  let source := setup.sourceHandler .full
  let schema := etl.getDFSchema setup.sourceTable source.getColumnsFilterExpressions
  (setup.targetHandler .full).stored etl schema
    (etl.select source.getColumnsFilterExpressions row)

end CopySetup

namespace History

variable {Row Out : Type} {value : Row → Int} (etl : OnEtl Row Out value) (setup : CopySetup)

inductive Event (Row : Type) where
  | insert (row : Row)
  | run (strategy : Strategy)

def step (w : Warehouse Row Out) : Event Row → Warehouse Row Out
  | .insert row => { w with source := w.source ++ [row] }
  | .run strategy =>
      Controller.performTransfer etl setup.hwmStoreEnabled (setup.sourceHandler strategy)
        (setup.targetHandler strategy) w

/-- An inserted row is above all rows of the source. -/
def Increasing (value : Row → Int) (w : Warehouse Row Out) : Event Row → Prop
  | .insert row => ∀ old ∈ w.source, value old < value row
  | .run _ => True

/-- The target holds the rows of the source, as the transfer shapes them. -/
def Synced (w : Warehouse Row Out) : Prop :=
  w.target.Perm (w.source.map (setup.shape etl))

instance [DecidableEq Out] (w : Warehouse Row Out) : Decidable (Synced etl setup w) :=
  inferInstanceAs (Decidable (w.target.Perm _))

instance (w : Warehouse Row Out) : (event : Event Row) → Decidable (Increasing value w event)
  | .insert row => inferInstanceAs (Decidable (∀ old ∈ w.source, value old < value row))
  | .run _ => isTrue trivial

/-- If the event is a run, it leaves the target in sync. -/
def LeavesSynced (w : Warehouse Row Out) : Event Row → Prop
  | .insert _ => True
  | .run strategy => Synced etl setup (step etl setup w (.run strategy))

/-- An incremental run starts after one that found zero to be the largest value.
    The rows are those of the source, and `last` is what the incremental run
    before has found. -/
def ResumesAtZero (value : Row → Int) (rows : List Row) (last : Option Int) :
    List (Event Row) → Prop
  | [] => False
  | .insert row :: events => ResumesAtZero value (rows ++ [row]) last events
  | .run .full :: events => ResumesAtZero value rows last events
  | .run (.incremental _) :: events =>
      last = some 0 ∨ ResumesAtZero value rows (rows.map value).max? events

instance (value : Row → Int) : (rows : List Row) → (last : Option Int) →
    (events : List (Event Row)) → Decidable (ResumesAtZero value rows last events)
  | _, _, [] => isFalse id
  | rows, last, .insert row :: events =>
      instDecidableResumesAtZero value (rows ++ [row]) last events
  | rows, last, .run .full :: events => instDecidableResumesAtZero value rows last events
  | rows, last, .run (.incremental _) :: events =>
      have : Decidable (ResumesAtZero value rows (rows.map value).max? events) :=
        instDecidableResumesAtZero value rows (rows.map value).max? events
      inferInstanceAs (Decidable (last = some 0 ∨ _))

/-! ## What a run does -/

/-- The stored value of the watermark of the transfer. -/
def mark (setup : CopySetup) (w : Warehouse Row Out) : Option Int :=
  (w.hwmStore setup.hwmName).bind Hwm.value

variable {etl setup} {w : Warehouse Row Out}

/-- A data frame of the shaped rows, written by the target. -/
theorem map_stored_read (strategy : Strategy) (m : Option Int) (hwm : Option Hwm) {rows : List Row}
    (hplain : DBHandler.Unfiltered setup.transformations)
    (h : (({ setup.sourceHandler strategy with hwm := hwm }.read etl m w.source).rows).Perm
      (rows.map (etl.select (setup.sourceHandler strategy).getColumnsFilterExpressions))) :
    let df := { setup.sourceHandler strategy with hwm := hwm }.read etl m w.source
    (df.rows.map ((setup.targetHandler strategy).stored etl df.schema)).Perm
      (rows.map (setup.shape etl)) := by
  intro df
  have hschema := DBHandler.schema_read etl { setup.sourceHandler strategy with hwm := hwm } m
    w.source hplain
  rw [hschema]
  refine (h.map _).trans ?_
  rw [List.map_map]
  exact List.Perm.refl _

theorem value_update_self (store : String → Option Hwm) (name : String) (hwm : Hwm) :
    (Function.update store name (some hwm) name).bind Hwm.value = hwm.value := by
  rw [Function.update_self]
  rfl

/-- The reset clears a value that counts, and touches nothing else. -/
theorem resetTransferHwm_eq (setup : CopySetup) (strategy : Strategy) (w : Warehouse Row Out) :
    (Controller.resetTransferHwm (setup.sourceHandler strategy) w).source = w.source ∧
      mark setup (Controller.resetTransferHwm (setup.sourceHandler strategy) w) =
        if Hwm.truthy (w.hwmStore setup.hwmName) then none else mark setup w := by
  have hname : Controller.getTransferHwmName (setup.sourceHandler strategy) = setup.hwmName :=
    (Controller.hwmName_eq (setup.sourceHandler strategy)).symm
  rw [Controller.resetTransferHwm, hname]
  by_cases htruthy : Hwm.truthy (w.hwmStore setup.hwmName) = true
  · rw [if_pos htruthy, if_pos htruthy]
    exact ⟨rfl, value_update_self w.hwmStore setup.hwmName ⟨none⟩⟩
  · rw [if_neg htruthy, if_neg htruthy]
    exact ⟨rfl, rfl⟩

/-- A full run replaces the target and resets a watermark that counts. -/
theorem run_full (etl : OnEtl Row Out value) (w : Warehouse Row Out)
    (hplain : DBHandler.Unfiltered setup.transformations)
    (henabled : setup.hwmStoreEnabled = true) :
    (step etl setup w (.run .full)).source = w.source ∧
      Synced etl setup (step etl setup w (.run .full)) ∧
      mark setup (step etl setup w (.run .full)) =
        if Hwm.truthy (w.hwmStore setup.hwmName) then none else mark setup w := by
  let reset := Controller.resetTransferHwm (setup.sourceHandler .full) w
  let df := (setup.sourceHandler .full).read etl none reset.source
  rcases resetTransferHwm_eq setup .full w with ⟨hsource, hmark⟩
  have hstep : step etl setup w (.run .full) =
      { reset with target := (setup.targetHandler .full).write etl reset.target df } := by
    rw [step, Controller.performTransfer, henabled]
    rfl
  rw [hstep]
  refine ⟨hsource, ?_, hmark⟩
  have hread := DBHandler.rows_read_full etl (setup.sourceHandler .full) none reset.source hplain rfl
  have hwrite := DBHandler.write_replaced etl (setup.targetHandler .full) reset.target df rfl
  exact hwrite.trans (map_stored_read (w := reset) .full none none hplain hread)

/-- An incremental run adds what is above the watermark, if the watermark counts,
    and else replaces the target by it. The watermark moves to the largest value. -/
theorem run_incremental (etl : OnEtl Row Out value) (w : Warehouse Row Out) (incrementBy : String)
    (hplain : DBHandler.Unfiltered setup.transformations) :
    let w' := step etl setup w (.run (.incremental incrementBy))
    let delta := (Watermark.fetch value (mark setup w) w.source).map (setup.shape etl)
    w'.source = w.source ∧
      w'.target.Perm (if Hwm.truthy (w.hwmStore setup.hwmName) then w.target ++ delta else delta) ∧
      mark setup w' =
        Watermark.advance value (mark setup w) (Watermark.fetch value (mark setup w) w.source) := by
  intro w' delta
  let strategy := Strategy.incremental incrementBy
  let hwm := w.hwmStore setup.hwmName
  let source := { setup.sourceHandler strategy with hwm := hwm }
  let target := { setup.targetHandler strategy with hwm := hwm }
  let df := source.read etl (mark setup w) w.source
  have htarget : w'.target = target.write etl w.target df := rfl
  have hmark : mark setup w' = etl.savedValue (source.reader etl) (mark setup w) w.source :=
    value_update_self w.hwmStore setup.hwmName ⟨_⟩
  have hread : (df.rows.map (target.stored etl df.schema)).Perm delta :=
    map_stored_read strategy _ hwm hplain
      (DBHandler.rows_read_incremental etl source (mark setup w) w.source hplain rfl)
  -- The same watermark decides what is read and whether it is appended.
  have hmode : target.writeOptions.ifExists =
      if Hwm.truthy hwm then some .append else some .replaceEntireTable :=
    DBHandler.ifExists_writeOptions target rfl
  refine ⟨rfl, ?_, ?_⟩
  · rw [htarget]
    by_cases htruthy : Hwm.truthy hwm = true
    · rw [if_pos htruthy]
      rw [if_pos htruthy] at hmode
      exact (DBHandler.write_appended etl target w.target df hmode).trans (hread.append_left _)
    · rw [if_neg htruthy]
      rw [if_neg htruthy] at hmode
      exact (DBHandler.write_replaced etl target w.target df hmode).trans hread
  · rw [hmark]
    exact etl.savedValue_eq _ _ _ (DBHandler.getRowsFilterExpression_eq_none hplain)

/-! ## What a history does -/

/-- The watermark is the value of a row, and if it counts, the target holds the
    rows up to it. -/
structure Consistent (etl : OnEtl Row Out value) (setup : CopySetup) (w : Warehouse Row Out) :
    Prop where
  attained : Watermark.Attained value (mark setup w) w.source
  copied : Hwm.truthy (w.hwmStore setup.hwmName) = true →
    w.target.Perm ((Watermark.covered value (mark setup w) w.source).map (setup.shape etl))

/-- A row above all others is not among those that are to be in the target. -/
theorem insert_consistent {row : Row} (h : Consistent etl setup w)
    (hrow : ∀ old ∈ w.source, value old < value row) :
    Consistent etl setup (step etl setup w (.insert row)) := by
  refine ⟨Watermark.attained_append row h.attained, fun htruthy => ?_⟩
  have hcovered : Watermark.covered value (mark setup w) (w.source ++ [row]) =
      Watermark.covered value (mark setup w) w.source :=
    Watermark.covered_append (Watermark.above_of_attained h.attained hrow)
  change w.target.Perm
    ((Watermark.covered value (mark setup w) (w.source ++ [row])).map (setup.shape etl))
  rw [hcovered]
  exact h.copied htruthy

theorem truthy_iff (setup : CopySetup) (w : Warehouse Row Out) :
    Hwm.truthy (w.hwmStore setup.hwmName) = true ↔
      mark setup w ≠ none ∧ mark setup w ≠ some 0 :=
  Hwm.truthy_iff

theorem full_consistent (hplain : DBHandler.Unfiltered setup.transformations)
    (henabled : setup.hwmStoreEnabled = true) (h : Consistent etl setup w) :
    Consistent etl setup (step etl setup w (.run .full)) := by
  rcases run_full etl w hplain henabled with ⟨hsource, _, hmark⟩
  by_cases htruthy : Hwm.truthy (w.hwmStore setup.hwmName) = true
  · rw [if_pos htruthy] at hmark
    refine ⟨fun m hm => ?_, fun htruthy' => absurd hmark ((truthy_iff setup _).mp htruthy').1⟩
    rw [hmark] at hm
    cases hm
  · -- A value that does not count is left in the store.
    rw [if_neg htruthy] at hmark
    refine ⟨fun m hm => ?_, fun htruthy' => ?_⟩
    · rw [hsource]
      exact h.attained m (hmark ▸ hm)
    · refine absurd ((truthy_iff setup w).mpr ?_) htruthy
      rw [← hmark]
      exact (truthy_iff setup _).mp htruthy'

/-- An incremental run leaves the target in sync, unless it starts at zero. -/
theorem incremental_synced_iff (incrementBy : String)
    (hplain : DBHandler.Unfiltered setup.transformations) (h : Consistent etl setup w) :
    Synced etl setup (step etl setup w (.run (.incremental incrementBy))) ↔
      mark setup w ≠ some 0 := by
  rcases run_incremental etl w incrementBy hplain with ⟨hsource, htarget, _⟩
  rw [Synced, hsource]
  constructor
  · intro hsynced hzero
    -- The row with the value zero is in the source, and nothing is left of it.
    have hfalse : ¬ Hwm.truthy (w.hwmStore setup.hwmName) = true :=
      fun htruthy => ((truthy_iff setup w).mp htruthy).2 hzero
    rw [if_neg hfalse] at htarget
    have hlength := (htarget.symm.trans hsynced).length_eq
    rw [List.length_map, List.length_map, hzero] at hlength
    have hattained : Watermark.Attained value (some 0) w.source := hzero ▸ h.attained
    exact absurd hlength (Watermark.length_fetch_lt hattained).ne
  · intro hzero
    refine htarget.trans ?_
    rcases hmark : mark setup w with _ | m
    · have hfalse : ¬ Hwm.truthy (w.hwmStore setup.hwmName) = true :=
        fun htruthy => ((truthy_iff setup w).mp htruthy).1 hmark
      rw [if_neg hfalse, Watermark.fetch_none]
    · have htruthy : Hwm.truthy (w.hwmStore setup.hwmName) = true :=
        (truthy_iff setup w).mpr ⟨by rw [hmark]; exact Option.some_ne_none m, hzero⟩
      rw [if_pos htruthy, ← hmark]
      refine ((h.copied htruthy).append_right _).trans ?_
      rw [← List.map_append]
      exact (Watermark.covered_append_fetch _ _ _).map _

theorem incremental_consistent (incrementBy : String)
    (hplain : DBHandler.Unfiltered setup.transformations) (h : Consistent etl setup w)
    (hzero : mark setup w ≠ some 0) :
    Consistent etl setup (step etl setup w (.run (.incremental incrementBy))) := by
  have hsynced := (incremental_synced_iff incrementBy hplain h).mpr hzero
  rcases run_incremental etl w incrementBy hplain with ⟨hsource, _, hmark⟩
  refine ⟨?_, fun _ => ?_⟩
  · rw [hmark, hsource, Watermark.advance_fetch_eq h.attained]
    exact Watermark.attained_max? value w.source
  · rw [hmark, hsource, Watermark.covered_advance, ← hsource]
    exact hsynced

/-- The target is in sync after every run exactly when no incremental run starts
    after one that found zero to be the largest value. -/
theorem along_synced_iff (hplain : DBHandler.Unfiltered setup.transformations)
    (henabled : setup.hwmStoreEnabled = true) (last : Option Int) {events : List (Event Row)}
    (h : Consistent etl setup w) (hlast : last = some 0 ↔ mark setup w = some 0)
    (hincreasing : Machine.Along (Increasing value) (step etl setup) w events) :
    Machine.Along (LeavesSynced etl setup) (step etl setup) w events ↔
      ¬ ResumesAtZero value w.source last events := by
  induction events generalizing w last with
  | nil => exact ⟨fun _ => id, fun _ => trivial⟩
  | cons event events ih =>
      rcases hincreasing with ⟨hevent, hincreasing⟩
      cases event with
      | insert row =>
          -- An insert loads nothing, so neither side looks at it.
          have hrest := ih last (insert_consistent h hevent) hlast hincreasing
          exact ⟨fun halong => hrest.mp halong.2, fun hnot => ⟨trivial, hrest.mpr hnot⟩⟩
      | run strategy =>
          cases strategy with
          | full =>
              rcases run_full etl w hplain henabled with ⟨hsource, hsynced, hmark⟩
              -- A full run drops a mark that is truthy, so not zero, and leaves every other.
              have hlast' : last = some 0 ↔ mark setup (step etl setup w (.run .full)) = some 0 := by
                rw [hlast, hmark]
                by_cases htruthy : Hwm.truthy (w.hwmStore setup.hwmName) = true
                · rw [if_pos htruthy]
                  exact ⟨fun hzero => absurd hzero ((truthy_iff setup w).mp htruthy).2,
                    fun hnone => nomatch hnone⟩
                · rw [if_neg htruthy]
              have hrest := ih last (full_consistent hplain henabled h) hlast' hincreasing
              rw [hsource] at hrest
              exact ⟨fun halong => hrest.mp halong.2, fun hnot => ⟨hsynced, hrest.mpr hnot⟩⟩
          | incremental incrementBy =>
              -- An incremental run advances the mark to the maximum of what it has read.
              have hsync := incremental_synced_iff incrementBy hplain h
              rcases run_incremental etl w incrementBy hplain with
                ⟨hsource, _, hmark⟩
              rw [Watermark.advance_fetch_eq h.attained] at hmark
              constructor
              · rintro ⟨hsynced, halong⟩ hresumes
                have hzero : mark setup w ≠ some 0 := hsync.mp hsynced
                have hrest := ih (w.source.map value).max?
                  (incremental_consistent incrementBy hplain h hzero) (by rw [hmark]) hincreasing
                rw [hsource] at hrest
                rcases hresumes with hat | hlater
                · exact hzero (hlast.mp hat)
                · exact hrest.mp halong hlater
              · intro hnot
                -- The mark is not at zero, so the run is synced and the invariant goes on.
                have hzero : mark setup w ≠ some 0 := fun hat => hnot (Or.inl (hlast.mpr hat))
                have hrest := ih (w.source.map value).max?
                  (incremental_consistent incrementBy hplain h hzero) (by rw [hmark]) hincreasing
                rw [hsource] at hrest
                exact ⟨hsync.mpr hzero, hrest.mpr (fun hlater => hnot (Or.inr hlater))⟩

/-- A transfer without rows filters and queries is created for two tables. After
    every run of its history the target holds the rows of the source exactly when
    no incremental run starts after one that found zero to be the largest value. -/
theorem synced_iff (etl : OnEtl Row Out value) (w : Warehouse Row Out) (events : List (Event Row))
    (hplain : DBHandler.Unfiltered setup.transformations)
    (henabled : setup.hwmStoreEnabled = true) (hnew : w.hwmStore setup.hwmName = none)
    (hincreasing : Machine.Along (Increasing value) (step etl setup) w events) :
    (∀ before strategy after, events = before ++ .run strategy :: after →
      Synced etl setup ((before ++ [.run strategy]).foldl (step etl setup) w)) ↔
      ¬ ResumesAtZero value w.source none events := by
  have hmark : mark setup w = none := by
    rw [mark, hnew]
    rfl
  have hconsistent : Consistent etl setup w := by
    refine ⟨fun m hm => ?_, fun htruthy => absurd hmark ((truthy_iff setup w).mp htruthy).1⟩
    rw [hmark] at hm
    cases hm
  have hlast : (none : Option Int) = some 0 ↔ mark setup w = some 0 := by rw [hmark]
  rw [← along_synced_iff hplain henabled none hconsistent hlast hincreasing, Machine.along_iff]
  constructor
  · intro h before event after hevents
    cases event with
    | insert row => trivial
    | run strategy =>
        have hsynced := h before strategy after hevents
        rw [List.foldl_append] at hsynced
        exact hsynced
  · intro h before strategy after hevents
    rw [List.foldl_append]
    exact h before (.run strategy) after hevents

/-! ## A table that begins with zero -/

def idColumn : Schema :=
  ⟨[⟨"id", false⟩], List.cons_ne_nil _ _⟩

/-- The library over tables with one integer column. -/
def singleColumn : OnEtl Int Int id where
  containsGetDFSchemaMethod := fun _ => true
  getDFSchema := fun _ _ => idColumn
  run := fun reader mark rows =>
    { schema := idColumn
      rows := if reader.hwm.isSome then Watermark.fetch id mark rows else rows }
  savedValue := fun _ mark rows => Watermark.advance id mark (Watermark.fetch id mark rows)
  write := fun writer table df =>
    if writer.options.ifExists = some .append then table ++ df.rows else df.rows
  sql := fun _ df => df
  coalesce := fun _ row => row
  select := fun _ row => row
  run_schema := fun _ _ _ => rfl
  run_full := by
    intro reader mark rows _ hnone
    rw [hnone, List.map_id']
    exact List.Perm.refl _
  run_incremental := by
    intro reader mark rows _ hsome
    rw [if_pos (Option.isSome_iff_ne_none.mpr hsome), List.map_id']
  savedValue_eq := fun _ _ _ _ => rfl
  write_append := by
    intro writer table df happend
    rw [if_pos happend]
  write_replace := by
    intro writer table df hreplace
    rw [hreplace]
    exact List.Perm.refl _

/-- A transfer between two tables in Postgres. -/
def postgresToPostgres : CopySetup where
  id := 1
  sourceClass := postgresHandler
  sourceTable := "public.source_table"
  targetClass := postgresHandler
  targetTable := "public.target_table"
  resources := {}
  transformations := []
  hwmStoreEnabled := true

def newWarehouse : Warehouse Int Int where
  source := []
  target := []
  hwmStore := fun _ => none

/-- The first row has the given value, and the next one is added after a run. -/
def twoRuns (first : Int) : List (Event Int) := [
  .insert first, .run (.incremental "id"), .insert (first + 1), .run (.incremental "id")]

theorem synced_iff_fromOne :
    (∀ before strategy after, twoRuns 1 = before ++ .run strategy :: after →
      Synced singleColumn postgresToPostgres
        ((before ++ [.run strategy]).foldl (step singleColumn postgresToPostgres) newWarehouse)) ↔
      ¬ ResumesAtZero id [] none (twoRuns 1) :=
  synced_iff singleColumn newWarehouse (twoRuns 1) (by decide) rfl rfl (by decide +kernel)

/-- After the second run the target has lost the row with the value zero. -/
theorem not_synced :
    ¬ ∀ (etl : OnEtl Int Int id) (setup : CopySetup) (w : Warehouse Int Int)
      (events : List (Event Int)), DBHandler.Unfiltered setup.transformations →
      setup.hwmStoreEnabled = true → w.hwmStore setup.hwmName = none →
      Machine.Along (Increasing id) (step etl setup) w events →
      ∀ before strategy after, events = before ++ .run strategy :: after →
        Synced etl setup ((before ++ [.run strategy]).foldl (step etl setup) w) := by
  intro h
  have hsynced := h singleColumn postgresToPostgres newWarehouse (twoRuns 0) (by decide) rfl rfl
    (by decide +kernel) [.insert 0, .run (.incremental "id"), .insert 1] (.incremental "id") [] rfl
  exact absurd hsynced (by decide +kernel)

end History

end SyncMaster
