import SyncMaster.Schemas.TransferParams
import SyncMaster.Schemas.Transformations

/-!
# The Body of a Transfer

What becomes of the JSON body of `create_transfer` and `update_transfer`.

The fields are validated in the order of the schema. Two of the validators look
at an earlier field: `validate_scheduling` asks whether it is there,
`validate_strategy` takes it for granted. An earlier field that was refused is
not there.

`CreateTransferSchema` carries the outcome of these validators, and
`validators_passed` says that the fields that are accepted have passed them, so
putting the fields together refuses nothing.

## Main definitions

* `Strategy.validate`, `Resources.validate`: The schemas within the body.
* `TransferFields`, `transferFields`: The fields of the body, validated.
* `CreateTransferSchema.validate`: The body.
* `ValidatorsCope`: What the validators can cope with.

## Theorems

* `validators_passed`: What the validators of the body have established.
* `validate_eq_ok`: The bodies that are accepted.
* `raises_transferFields`: The bodies that an exception comes of.
-/

namespace SyncMaster

open Validated

/-! ## Strategies and resources -/

inductive StrategyType where
  | full | incremental
  deriving DecidableEq, Repr

def StrategyType.tag : StrategyType → String
  | .full => "full"
  | .incremental => "incremental"

/-- The discriminated union of the strategies. -/
def Strategy.validate : Json → Checked Strategy :=
  tagged StrategyType.tag [.full, .incremental] (fun type d =>
    match type with
    | .full => .ok .full
    | .incremental => Strategy.incremental <$> field d "increment_by" str)

def Strategy.modelDump : Strategy → Dict
  | .full => [("type", .str "full")]
  | .incremental incrementBy =>
      [("type", .str "incremental"), ("increment_by", .str incrementBy)]

/-- `Field(ge=low, le=high)`. -/
def bounded (low high : Nat) (n : Int) : Checked Nat :=
  if low ≤ n ∧ n ≤ high then .ok n.toNat else .invalid

def oneMb : Nat := 2 ^ 20

def oneGb : Nat := 2 ^ 30

def Resources.validate (pydantic : Pydantic) (j : Json) : Checked Resources :=
  (dict j).andThen (fun d =>
    Resources.mk <$>
      fieldOr d "max_parallel_tasks" 1 (fun j => (pydantic.integer j).andThen (bounded 1 100)) <*>
      fieldOr d "cpu_cores_per_task" 1 (fun j => (pydantic.integer j).andThen (bounded 1 32)) <*>
      fieldOr d "ram_bytes_per_task" oneGb (fun j =>
        (pydantic.byteSize j).andThen (bounded (512 * oneMb) (64 * oneGb))))

def Resources.modelDump (resources : Resources) : Dict :=
  [("max_parallel_tasks", .num resources.maxParallelTasks),
    ("cpu_cores_per_task", .num resources.cpuCoresPerTask),
    ("ram_bytes_per_task", .num resources.ramBytesPerTask)]

/-! ## The validators of the body -/

/-- `validate_scheduling`, where `info.data.get("is_scheduled")` is `None` for a
    field that was refused. -/
def checkScheduling (isScheduled : Checked Bool) (value : Option String) :
    Checked (Option String) :=
  match isScheduled with
  | .ok isScheduled =>
      match validateScheduling isScheduled value with
      | .ok value => .ok value
      | .error _ => .invalid
  | _ => .ok (value.filter (fun s => s != ""))

/-- `validate_strategy`, where `info.data["source_params"]` raises for a field
    that was refused. -/
def checkStrategy (sourceParams : Checked TransferSource) (value : Strategy) : Checked Strategy :=
  match value with
  | .full => .ok .full
  | .incremental incrementBy =>
      match sourceParams with
      | .ok source =>
          match validateStrategy source.modelDump (.incremental incrementBy) with
          | .ok value => .ok value
          | .error _ => .invalid
      | _ => .raised (.keyError "source_params")

/-! ## The body -/

/-- The fields of the body. -/
structure TransferFields where
  groupId : Int
  queueId : Int
  sourceConnectionId : Int
  targetConnectionId : Int
  name : NameConstr
  description : String
  sourceParams : TransferSource
  targetParams : TransferTarget
  strategyParams : Strategy
  transformations : List TransformationSchema
  resources : Resources
  isScheduled : Bool
  schedule : Option String

section Validate

variable (py : Python) (pydantic : Pydantic)

/-- The field `source_params`. -/
def sourceParamsField (d : Dict) : Checked TransferSource :=
  field d "source_params" (TransferSource.validate py pydantic)

/-- The field `is_scheduled`. -/
def isScheduledField (d : Dict) : Checked Bool :=
  fieldOr d "is_scheduled" false pydantic.boolean

/-- The fields of the body, in the order of the schema. The default of the
    schedule is validated too. -/
def transferFields (d : Dict) : Checked TransferFields :=
  TransferFields.mk <$> field d "group_id" pydantic.integer <*>
    field d "queue_id" pydantic.integer <*>
    field d "source_connection_id" pydantic.integer <*>
    field d "target_connection_id" pydantic.integer <*>
    field d "name" (fun j => (str j).andThen (constrained (fun s => validName s = true))) <*>
    fieldOr d "description" "" str <*>
    sourceParamsField py pydantic d <*>
    field d "target_params" (TransferTarget.validate py pydantic) <*>
    fieldOr d "strategy_params" .full (fun j =>
      (Strategy.validate j).andThen (checkStrategy (sourceParamsField py pydantic d))) <*>
    fieldOr d "transformations" [] (array (TransformationSchema.validate py pydantic)) <*>
    fieldOr d "resources" {} (Resources.validate pydantic) <*>
    isScheduledField pydantic d <*>
    (fieldOr d "schedule" none (nullable str)).andThen
      (checkScheduling (isScheduledField pydantic d))

/-- What the validators of the body establish. -/
structure TransferFields.Passed (f : TransferFields) : Prop where
  scheduling : validateScheduling f.isScheduled f.schedule = .ok f.schedule
  strategy : validateStrategy f.sourceParams.modelDump f.strategyParams = .ok f.strategyParams

/-- The body as the endpoints get it, with its parameters dumped. -/
def TransferFields.toSchema (f : TransferFields) (h : f.Passed) : CreateTransferSchema where
  groupId := f.groupId
  queueId := f.queueId
  sourceConnectionId := f.sourceConnectionId
  targetConnectionId := f.targetConnectionId
  name := f.name
  description := f.description
  sourceParams := f.sourceParams.modelDump
  targetParams := f.targetParams.modelDump
  strategyParams := f.strategyParams
  transformations := f.transformations.map TransformationSchema.modelDump
  resources := f.resources
  isScheduled := f.isScheduled
  schedule := f.schedule
  schedulingValid := h.scheduling
  strategyValid := h.strategy

end Validate

/-! ## What the validators establish -/

section Passed

variable {py : Python} {pydantic : Pydantic} {d : Dict} {f : TransferFields}

theorem validateScheduling_idem {isScheduled : Bool} {value given : Option String}
    (h : validateScheduling isScheduled value = .ok given) :
    validateScheduling isScheduled given = .ok given := by
  unfold validateScheduling at h ⊢
  simp only at h ⊢
  have hgiven : value.filter (fun s => s != "") = given := by
    by_cases hmissing : (value.filter (fun s => s != "")).isNone && isScheduled
    · rw [if_pos hmissing] at h
      cases h
    · rw [if_neg hmissing] at h
      exact Except.ok.inj h
  have hidem : given.filter (fun s => s != "") = given := by
    rw [← hgiven, Option.filter_filter]
    simp
  rw [hidem]
  rw [hgiven] at h
  exact h

theorem checkScheduling_eq_ok {isScheduled : Bool} {value given : Option String}
    (h : checkScheduling (.ok isScheduled) value = .ok given) :
    validateScheduling isScheduled given = .ok given := by
  unfold checkScheduling at h
  simp only at h
  cases hvalid : validateScheduling isScheduled value with
  | ok found =>
      rw [hvalid] at h
      cases h
      exact validateScheduling_idem hvalid
  | error message =>
      rw [hvalid] at h
      cases h

theorem validateStrategy_eq_ok {source : Params} {value given : Strategy}
    (h : validateStrategy source value = .ok given) : given = value := by
  unfold validateStrategy at h
  cases value with
  | full => exact (Except.ok.inj h).symm
  | incremental incrementBy =>
      simp only at h
      split at h
      · cases h
      · split at h
        · cases h
        · exact (Except.ok.inj h).symm

theorem checkStrategy_eq_ok {source : TransferSource} {value given : Strategy}
    (h : checkStrategy (.ok source) value = .ok given) :
    validateStrategy source.modelDump given = .ok given := by
  cases value with
  | full =>
      cases h
      rfl
  | incremental incrementBy =>
      unfold checkStrategy at h
      simp only at h
      cases hvalid : validateStrategy source.modelDump (.incremental incrementBy) with
      | ok found =>
          rw [hvalid] at h
          cases h
          have hsame := validateStrategy_eq_ok hvalid
          rw [hsame]
          rw [hsame] at hvalid
          exact hvalid
      | error message =>
          rw [hvalid] at h
          cases h

/-- The nested schemas and the schedule of fields that are accepted. -/
structure RelatedFields (py : Python) (pydantic : Pydantic) (d : Dict) (f : TransferFields) :
    Prop where
  sourceParams : sourceParamsField py pydantic d = .ok f.sourceParams
  targetParams : field d "target_params" (TransferTarget.validate py pydantic) = .ok f.targetParams
  strategyParams : fieldOr d "strategy_params" .full (fun j =>
    (Strategy.validate j).andThen (checkStrategy (sourceParamsField py pydantic d))) =
      .ok f.strategyParams
  transformations : fieldOr d "transformations" [] (array (TransformationSchema.validate py pydantic)) =
    .ok f.transformations
  resources : fieldOr d "resources" {} (Resources.validate pydantic) = .ok f.resources
  isScheduled : isScheduledField pydantic d = .ok f.isScheduled
  schedule : (fieldOr d "schedule" none (nullable str)).andThen
    (checkScheduling (isScheduledField pydantic d)) = .ok f.schedule

theorem relatedFields (h : transferFields py pydantic d = .ok f) :
    RelatedFields py pydantic d f := by
  unfold transferFields at h
  simp only [seq_eq_ok, map_eq_ok] at h
  rcases h with ⟨_, _, ⟨_, _, ⟨_, _, ⟨_, _, ⟨_, _, ⟨_, _, ⟨_, _, hrest, hsource, rfl⟩, htarget, rfl⟩,
    hstrategy, rfl⟩, htransformations, rfl⟩, hresources, rfl⟩, hscheduled, rfl⟩, hschedule, rfl⟩
  rcases hrest with ⟨_, _, ⟨_, _, ⟨_, _, ⟨_, _, ⟨_, _, ⟨_, _, rfl⟩, _, rfl⟩, _, rfl⟩, _, rfl⟩, _, rfl⟩,
    _, rfl⟩
  exact ⟨hsource, htarget, hstrategy, htransformations, hresources, hscheduled, hschedule⟩

/-- Fields that are accepted have passed the validators of the body. -/
theorem validators_passed (h : transferFields py pydantic d = .ok f) : f.Passed := by
  have hrelated := relatedFields h
  refine ⟨?_, ?_⟩
  · rcases andThen_eq_ok.mp hrelated.schedule with ⟨value, _, hcheck⟩
    rw [hrelated.isScheduled] at hcheck
    exact checkScheduling_eq_ok hcheck
  · have hstrategy := hrelated.strategyParams
    unfold fieldOr at hstrategy
    cases hlookup : d.lookup "strategy_params" with
    | none =>
        simp only [hlookup, Validated.ok.injEq] at hstrategy
        rw [← hstrategy]
        rfl
    | some j =>
        simp only [hlookup] at hstrategy
        rcases andThen_eq_ok.mp hstrategy with ⟨value, _, hcheck⟩
        rw [hrelated.sourceParams] at hcheck
        exact checkStrategy_eq_ok hcheck

end Passed

/-- `CreateTransferSchema`, of a JSON body. -/
def CreateTransferSchema.validate (py : Python) (pydantic : Pydantic) (body : Json) :
    Checked CreateTransferSchema :=
  (dict body).andThen (fun d =>
    match h : transferFields py pydantic d with
    | .ok f => .ok (f.toSchema (validators_passed h))
    | .invalid => .invalid
    | .raised e => .raised e)

/-- The bodies that are accepted. -/
theorem validate_eq_ok {py : Python} {pydantic : Pydantic} {body : Json}
    {schema : CreateTransferSchema} :
    CreateTransferSchema.validate py pydantic body = .ok schema ↔
      ∃ d f, body = .obj d ∧ ∃ h : transferFields py pydantic d = .ok f,
        schema = f.toSchema (validators_passed h) := by
  unfold CreateTransferSchema.validate
  rw [andThen_eq_ok]
  constructor
  · intro h
    rcases h with ⟨d, hd, h⟩
    split at h
    · rename_i f hf
      exact ⟨d, f, dict_eq_ok.mp hd, hf, (Validated.ok.inj h).symm⟩
    · cases h
    · cases h
  · intro h
    rcases h with ⟨d, f, hbody, hf, hschema⟩
    refine ⟨d, dict_eq_ok.mpr hbody, ?_⟩
    split
    · rename_i f' hf'
      have hsame : f' = f := Validated.ok.inj (hf'.symm.trans hf)
      subst hsame
      rw [hschema]
    · rename_i hf'
      cases hf'.symm.trans hf
    · rename_i e hf'
      cases hf'.symm.trans hf

/-- An exception leaves the body when it leaves the fields. -/
theorem raises_validate {py : Python} {pydantic : Pydantic} {body : Json} :
    (CreateTransferSchema.validate py pydantic body).Raises ↔
      ∃ d, body = .obj d ∧ (transferFields py pydantic d).Raises := by
  unfold CreateTransferSchema.validate
  rw [raises_andThen, or_iff_right (not_raises_dict body)]
  refine exists_congr (fun d => and_congr dict_eq_ok ?_)
  split
  · rename_i f hf
    refine iff_of_false (not_raises_ok _) ?_
    rw [hf]
    exact not_raises_ok f
  · rename_i hf
    rw [hf]
    exact iff_of_false not_raises_invalid not_raises_invalid
  · rename_i e hf
    rw [hf]
    exact iff_of_true (raises_raised e) (raises_raised e)

/-! ## Exceptions -/

section Raises

variable {py : Python} {pydantic : Pydantic} {d : Dict} {j : Json}

/-- A filter by name whose pattern is no string, or cannot be compiled, or one by
    size that the library cannot read. -/
def BreaksFilter (py : Python) (pydantic : Pydantic) (j : Json) : Prop :=
  ∃ type d v, Tagged MetadataFilterType.tag MetadataFilterType.all j type d ∧
    d.lookup "value" = some v ∧
    match type with
    | .nameGlob => NotText v
    | .nameRegexp => NotText v ∨ ∃ s e, v = .str s ∧ py.compile s = .raised e
    | .fileSizeMin | .fileSizeMax => (pydantic.byteSize v).Raises

/-- Transformations with such a filter among those of a metadata filter. -/
def BreaksTransformations (py : Python) (pydantic : Pydantic) (j : Json) : Prop :=
  ∃ items, j = .arr items ∧ ∃ item ∈ items, ∃ d filters,
    Tagged TransformationType.tag TransformationType.all item .fileMetadataFilter d ∧
      d.lookup "filters" = some (.arr filters) ∧ ∃ filter ∈ filters, BreaksFilter py pydantic filter

/-- An incremental strategy, beside a source that was refused or left out. -/
def BreaksStrategy (py : Python) (pydantic : Pydantic) (d : Dict) : Prop :=
  ∃ j incrementBy, d.lookup "strategy_params" = some j ∧
    Strategy.validate j = .ok (.incremental incrementBy) ∧
    ∀ source, sourceParamsField py pydantic d ≠ .ok source

/-- Resources with a size that the library cannot read. -/
def BreaksResources (pydantic : Pydantic) (j : Json) : Prop :=
  ∃ d v, j = .obj d ∧ d.lookup "ram_bytes_per_task" = some v ∧ (pydantic.byteSize v).Raises

/-- What the validators of a body can cope with. -/
structure ValidatorsCope (py : Python) (pydantic : Pydantic) (d : Dict) : Prop where
  source : ∀ j, d.lookup "source_params" = some j → ¬ BreaksLocation j
  target : ∀ j, d.lookup "target_params" = some j → ¬ BreaksLocation j ∧ ¬ BreaksTemplate py j
  strategy : ¬ BreaksStrategy py pydantic d
  transformations : ∀ j, d.lookup "transformations" = some j →
    ¬ BreaksTransformations py pydantic j
  resources : ∀ j, d.lookup "resources" = some j → ¬ BreaksResources pydantic j

theorem raises_metadataFilter :
    (MetadataFilter.validate py pydantic j).Raises ↔ BreaksFilter py pydantic j := by
  have hvalue : ∀ type v, (MetadataFilter.ofValue py pydantic v type).Raises ↔
      match type with
      | .nameGlob => NotText v
      | .nameRegexp => NotText v ∨ ∃ s e, v = .str s ∧ py.compile s = .raised e
      | .fileSizeMin | .fileSizeMax => (pydantic.byteSize v).Raises := by
    intro type v
    cases type with
    | fileSizeMin | fileSizeMax => exact raises_map _
    | nameGlob =>
        refine ((raises_map _).trans raises_validatePattern).trans ?_
        exact forall_congr' (fun s => imp_congr_right (fun _ =>
          iff_of_false (not_raises_validateGlob s) id))
    | nameRegexp =>
        refine ((raises_map _).trans raises_validatePattern).trans ?_
        simp only [raises_validateRegexp]
        -- A text is compiled, anything else is refused before that.
        cases v with
        | str s => simp [NotText]
        | _ => simp [NotText]
  unfold MetadataFilter.validate BreaksFilter
  rw [raises_tagged]
  simp only [raises_field, hvalue]
  constructor
  · intro h
    rcases h with ⟨type, d, htag, v, hlookup, hbreaks⟩
    exact ⟨type, d, v, htag, hlookup, hbreaks⟩
  · intro h
    rcases h with ⟨type, d, v, htag, hlookup, hbreaks⟩
    exact ⟨type, d, htag, v, hlookup, hbreaks⟩

theorem raises_transformation :
    (TransformationSchema.validate py pydantic j).Raises ↔
      ∃ d filters, Tagged TransformationType.tag TransformationType.all j .fileMetadataFilter d ∧
        d.lookup "filters" = some (.arr filters) ∧
        ∃ filter ∈ filters, BreaksFilter py pydantic filter := by
  -- The filters on rows and columns and the query have no validator that raises.
  have hrows : ∀ d : Dict, ¬ (fieldOr d "filters" [] (array RowsFilter.validate)).Raises := by
    intro d
    refine not_raises_fieldOr (fun j h => ?_)
    rcases raises_array.mp h with ⟨items, _, item, _, hitem⟩
    exact not_raises_rowsFilter item hitem
  have hcolumns : ∀ d : Dict, ¬ (fieldOr d "filters" [] (array ColumnsFilter.validate)).Raises := by
    intro d
    refine not_raises_fieldOr (fun j h => ?_)
    rcases raises_array.mp h with ⟨items, _, item, _, hitem⟩
    exact not_raises_columnsFilter item hitem
  have hquery : ∀ d : Dict,
      ¬ (field d "query" (fun j => (str j).andThen (validateQuery py))).Raises :=
    fun d => not_raises_field (fun j =>
      not_raises_andThen (not_raises_str j) not_raises_validateQuery)
  have hdialect : ∀ d : Dict, ¬ (fieldOr d "dialect" "spark" (member id ["spark"])).Raises :=
    fun d => not_raises_fieldOr (not_raises_member _ _)
  unfold TransformationSchema.validate
  rw [raises_tagged]
  constructor
  · intro h
    rcases h with ⟨type, d, htag, h⟩
    cases type with
    | dataframeRowsFilter => exact absurd ((raises_map _).mp h) (hrows d)
    | dataframeColumnsFilter => exact absurd ((raises_map _).mp h) (hcolumns d)
    | sql =>
        rcases raises_seq.mp h with h | h
        · exact absurd ((raises_map _).mp h) (hquery d)
        · exact absurd h (hdialect d)
    | fileMetadataFilter =>
        rcases raises_fieldOr.mp ((raises_map _).mp h) with ⟨v, hlookup, hraises⟩
        rcases raises_array.mp hraises with ⟨filters, hfilters, filter, hmem, hfilter⟩
        exact ⟨d, filters, htag, hfilters ▸ hlookup, filter, hmem,
          raises_metadataFilter.mp hfilter⟩
  · intro h
    rcases h with ⟨d, filters, htag, hlookup, filter, hmem, hbreaks⟩
    refine ⟨.fileMetadataFilter, d, htag, (raises_map _).mpr (raises_fieldOr.mpr ⟨_, hlookup, ?_⟩)⟩
    exact raises_array.mpr ⟨filters, rfl, filter, hmem, raises_metadataFilter.mpr hbreaks⟩

theorem raises_transformations :
    (array (TransformationSchema.validate py pydantic) j).Raises ↔
      BreaksTransformations py pydantic j := by
  rw [raises_array]
  simp only [raises_transformation]
  rfl

theorem not_raises_strategy (j : Json) : ¬ (Strategy.validate j).Raises := by
  unfold Strategy.validate
  rw [raises_tagged]
  intro h
  rcases h with ⟨type, d, _, h⟩
  cases type with
  | full => exact not_raises_ok _ h
  | incremental => exact not_raises_field not_raises_str ((raises_map _).mp h)

/-- `validate_strategy` raises for want of a source. -/
theorem raises_checkStrategy {source : Checked TransferSource} {value : Strategy} :
    (checkStrategy source value).Raises ↔
      (∃ incrementBy, value = .incremental incrementBy) ∧ ∀ s, source ≠ .ok s := by
  unfold checkStrategy
  cases value with
  | full => exact iff_of_false (not_raises_ok _) (by simp)
  | incremental incrementBy =>
      cases source with
      | ok s =>
          refine iff_of_false ?_ (fun h => h.2 s rfl)
          simp only
          cases validateStrategy s.modelDump (.incremental incrementBy) with
          | ok value => exact not_raises_ok value
          | error message => exact not_raises_invalid
      | invalid => exact iff_of_true (raises_raised _) (by simp)
      | raised e => exact iff_of_true (raises_raised _) (by simp)

theorem raises_strategyParams :
    (fieldOr d "strategy_params" .full (fun j =>
      (Strategy.validate j).andThen (checkStrategy (sourceParamsField py pydantic d)))).Raises ↔
      BreaksStrategy py pydantic d := by
  unfold BreaksStrategy
  rw [raises_fieldOr]
  simp only [raises_andThen, not_raises_strategy, false_or, raises_checkStrategy]
  constructor
  · intro h
    rcases h with ⟨j, hlookup, value, hvalue, ⟨incrementBy, hincremental⟩, hsource⟩
    exact ⟨j, incrementBy, hlookup, hincremental ▸ hvalue, hsource⟩
  · intro h
    rcases h with ⟨j, incrementBy, hlookup, hvalue, hsource⟩
    exact ⟨j, hlookup, _, hvalue, ⟨incrementBy, rfl⟩, hsource⟩

theorem not_raises_bounded (low high : Nat) (n : Int) : ¬ (bounded low high n).Raises :=
  not_raises_ite (not_raises_ok _) not_raises_invalid

theorem raises_resources : (Resources.validate pydantic j).Raises ↔ BreaksResources pydantic j := by
  have hint : ∀ (d : Dict) key default low high, ¬ (fieldOr d key default (fun j =>
      (pydantic.integer j).andThen (bounded low high))).Raises :=
    fun d key default low high => not_raises_fieldOr (fun j =>
      not_raises_andThen (pydantic.not_raises_integer j) (not_raises_bounded low high))
  unfold Resources.validate BreaksResources
  rw [raises_andThen, or_iff_right (not_raises_dict j)]
  simp only [raises_seq, raises_map, hint, false_or, raises_fieldOr, dict_eq_ok, raises_andThen,
    not_raises_bounded, and_false, exists_false, or_false]
  constructor
  · intro h
    rcases h with ⟨d, hd, v, hlookup, hraises⟩
    exact ⟨d, v, hd, hlookup, hraises⟩
  · intro h
    rcases h with ⟨d, v, hd, hlookup, hraises⟩
    exact ⟨d, hd, v, hlookup, hraises⟩

theorem not_raises_checkScheduling (isScheduled : Checked Bool) (value : Option String) :
    ¬ (checkScheduling isScheduled value).Raises := by
  unfold checkScheduling
  cases isScheduled with
  | ok isScheduled =>
      simp only
      cases validateScheduling isScheduled value with
      | ok value => exact not_raises_ok value
      | error message => exact not_raises_invalid
  | invalid => exact not_raises_ok _
  | raised e => exact not_raises_ok _

/-- An exception leaves the fields exactly when there is something that the
    validators cannot cope with. -/
theorem raises_transferFields :
    (transferFields py pydantic d).Raises ↔ ¬ ValidatorsCope py pydantic d := by
  -- The validators of plain types report what they reject, and raise nothing.
  have hint : ∀ key, ¬ (field d key pydantic.integer).Raises :=
    fun key => not_raises_field pydantic.not_raises_integer
  have hname : ¬ (field d "name" (fun j =>
      (str j).andThen (constrained (fun s => validName s = true)))).Raises :=
    not_raises_field (fun j => not_raises_andThen (not_raises_str j) (not_raises_constrained _))
  have hdescription : ¬ (fieldOr d "description" "" str).Raises := not_raises_fieldOr not_raises_str
  have hscheduled : ¬ (isScheduledField pydantic d).Raises :=
    not_raises_fieldOr pydantic.not_raises_boolean
  have hschedule : ¬ ((fieldOr d "schedule" none (nullable str)).andThen
      (checkScheduling (isScheduledField pydantic d))).Raises :=
    not_raises_andThen (not_raises_fieldOr (fun j => not_raises_nullable not_raises_str))
      (not_raises_checkScheduling _)
  -- Each of the others raises on what breaks its own validator, and on nothing else.
  have hsource : (sourceParamsField py pydantic d).Raises ↔
      ∃ j, d.lookup "source_params" = some j ∧ BreaksLocation j := by
    unfold sourceParamsField
    rw [raises_field]
    simp only [raises_source]
  have htarget : (field d "target_params" (TransferTarget.validate py pydantic)).Raises ↔
      ∃ j, d.lookup "target_params" = some j ∧ (BreaksLocation j ∨ BreaksTemplate py j) := by
    rw [raises_field]
    simp only [raises_target]
  have htransformations : (fieldOr d "transformations" []
      (array (TransformationSchema.validate py pydantic))).Raises ↔
      ∃ j, d.lookup "transformations" = some j ∧ BreaksTransformations py pydantic j := by
    rw [raises_fieldOr]
    simp only [raises_transformations]
  have hresources : (fieldOr d "resources" {} (Resources.validate pydantic)).Raises ↔
      ∃ j, d.lookup "resources" = some j ∧ BreaksResources pydantic j := by
    rw [raises_fieldOr]
    simp only [raises_resources]
  unfold transferFields
  simp only [raises_seq, raises_map, hint, hname, hdescription, hscheduled, hschedule, hsource,
    htarget, raises_strategyParams, htransformations, hresources, false_or, or_false]
  constructor
  · intro h hcope
    rcases h with (((⟨j, hj, hbreaks⟩ | ⟨j, hj, hbreaks⟩) | hbreaks) | ⟨j, hj, hbreaks⟩) |
      ⟨j, hj, hbreaks⟩
    · exact hcope.source j hj hbreaks
    · exact hbreaks.elim (hcope.target j hj).1 (hcope.target j hj).2
    · exact hcope.strategy hbreaks
    · exact hcope.transformations j hj hbreaks
    · exact hcope.resources j hj hbreaks
  · intro h
    by_contra hnone
    simp only [not_or, not_exists, not_and] at hnone
    rcases hnone with ⟨⟨⟨⟨hsource, htarget⟩, hstrategy⟩, htransformations⟩, hresources⟩
    exact h ⟨hsource, htarget, hstrategy, htransformations, hresources⟩

end Raises

end SyncMaster
