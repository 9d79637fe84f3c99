import SyncMaster.Schemas.Values

/-!
# Transformations

The transformations of a transfer: filters of rows, of columns and of the
metadata of files, and queries.

Two of the validators look at a value before it is known to be a string. What
they do with another value is what `glob.has_magic` and `re.compile` do with
it, and that is to raise.

## Main definitions

* `RowsFilter`, `ColumnsFilter`, `MetadataFilter`: The filters.
* `TransformationSchema`: The transformations.
* `validatePattern`: The two validators of the patterns of file names.
* `validateQuery`: The validator of a query.
* `TransformationSchema.validate`: What accepts a transformation.
-/

namespace SyncMaster

open Validated

inductive RowsFilterType where
  | isNull | isNotNull | equal | notEqual
  | greaterThan | greaterOrEqual | lessThan | lessOrEqual
  | like | ilike | notLike | notIlike | regexp
  deriving DecidableEq, Repr

structure RowsFilter where
  type : RowsFilterType
  field : String
  value : Option String
  deriving DecidableEq, Repr

inductive ColumnsFilter where
  | includeField (field : String)
  | rename (field newName : String)
  | cast (field asType : String)
  deriving DecidableEq, Repr

inductive MetadataFilter where
  | nameGlob (value : String)
  | nameRegexp (value : String)
  | fileSizeMin (value : Int)
  | fileSizeMax (value : Int)
  deriving DecidableEq, Repr

inductive TransformationSchema where
  | dataframeRowsFilter (filters : List RowsFilter)
  | dataframeColumnsFilter (filters : List ColumnsFilter)
  | fileMetadataFilter (filters : List MetadataFilter)
  | sql (query : String)
  deriving DecidableEq, Repr

/-! ## Rows filters -/

def RowsFilterType.tag : RowsFilterType → String
  | .isNull => "is_null"
  | .isNotNull => "is_not_null"
  | .equal => "equal"
  | .notEqual => "not_equal"
  | .greaterThan => "greater_than"
  | .greaterOrEqual => "greater_or_equal"
  | .lessThan => "less_than"
  | .lessOrEqual => "less_or_equal"
  | .like => "like"
  | .ilike => "ilike"
  | .notLike => "not_like"
  | .notIlike => "not_ilike"
  | .regexp => "regexp"

def RowsFilterType.all : List RowsFilterType :=
  [.isNull, .isNotNull, .equal, .notEqual, .greaterThan, .greaterOrEqual, .lessThan, .lessOrEqual,
    .like, .ilike, .notLike, .notIlike, .regexp]

/-- The filters that compare with nothing have no value. -/
def RowsFilterType.hasValue : RowsFilterType → Bool
  | .isNull | .isNotNull => false
  | _ => true

def RowsFilter.validate : Json → Checked RowsFilter :=
  tagged RowsFilterType.tag RowsFilterType.all (fun type d =>
    RowsFilter.mk type <$> SyncMaster.field d "field" str <*>
      (if type.hasValue then some <$> SyncMaster.field d "value" str else pure none))

def RowsFilter.modelDump (filter : RowsFilter) : Json :=
  .obj ([("field", .str filter.field), ("type", .str filter.type.tag)] ++
    match filter.value with
    | some value => [("value", .str value)]
    | none => [])

/-! ## Columns filters -/

inductive ColumnsFilterType where
  | includeField | rename | cast
  deriving DecidableEq, Repr

def ColumnsFilterType.tag : ColumnsFilterType → String
  | .includeField => "include"
  | .rename => "rename"
  | .cast => "cast"

def ColumnsFilter.validate : Json → Checked ColumnsFilter :=
  tagged ColumnsFilterType.tag [.includeField, .rename, .cast] (fun type d =>
    match type with
    | .includeField => ColumnsFilter.includeField <$> field d "field" str
    | .rename => ColumnsFilter.rename <$> field d "field" str <*> field d "to" str
    | .cast => ColumnsFilter.cast <$> field d "field" str <*> field d "as_type" str)

def ColumnsFilter.modelDump : ColumnsFilter → Json
  | .includeField field => .obj [("field", .str field), ("type", .str "include")]
  | .rename field newName =>
      .obj [("field", .str field), ("type", .str "rename"), ("to", .str newName)]
  | .cast field asType =>
      .obj [("field", .str field), ("type", .str "cast"), ("as_type", .str asType)]

/-! ## Metadata filters -/

/-- The `_validate_pattern` of the filters by name, before the value is known to
    be a string. -/
def validatePattern (accepts : String → Checked Unit) : Json → Checked String
  | .str s => (accepts s).andThen (fun _ => .ok s)
  | _ => .raised .typeError

/-- `glob.has_magic`. -/
def hasMagic (pattern : String) : Bool :=
  pattern.toList.any (fun c => c == '*' || c == '?' || c == '[')

/-- `NameGlobFilter._validate_pattern`. -/
def validateGlob (pattern : String) : Checked Unit :=
  if hasMagic pattern then .ok () else .invalid

/-- `NameRegexpFilter._validate_pattern`. -/
def validateRegexp (py : Python) (pattern : String) : Checked Unit :=
  match py.compile pattern with
  | .pattern => .ok ()
  | .error => .invalid
  | .raised e => .raised e

inductive MetadataFilterType where
  | nameGlob | nameRegexp | fileSizeMin | fileSizeMax
  deriving DecidableEq, Repr

def MetadataFilterType.tag : MetadataFilterType → String
  | .nameGlob => "name_glob"
  | .nameRegexp => "name_regexp"
  | .fileSizeMin => "file_size_min"
  | .fileSizeMax => "file_size_max"

def MetadataFilterType.all : List MetadataFilterType :=
  [.nameGlob, .nameRegexp, .fileSizeMin, .fileSizeMax]

/-- The filter, given its value. -/
def MetadataFilter.ofValue (py : Python) (pydantic : Pydantic) (j : Json) :
    MetadataFilterType → Checked MetadataFilter
  | .nameGlob => MetadataFilter.nameGlob <$> validatePattern validateGlob j
  | .nameRegexp => MetadataFilter.nameRegexp <$> validatePattern (validateRegexp py) j
  | .fileSizeMin => MetadataFilter.fileSizeMin <$> pydantic.byteSize j
  | .fileSizeMax => MetadataFilter.fileSizeMax <$> pydantic.byteSize j

def MetadataFilter.validate (py : Python) (pydantic : Pydantic) : Json → Checked MetadataFilter :=
  tagged MetadataFilterType.tag MetadataFilterType.all (fun type d =>
    field d "value" (fun j => MetadataFilter.ofValue py pydantic j type))

def MetadataFilter.modelDump : MetadataFilter → Json
  | .nameGlob value => .obj [("type", .str "name_glob"), ("value", .str value)]
  | .nameRegexp value => .obj [("type", .str "name_regexp"), ("value", .str value)]
  | .fileSizeMin value => .obj [("type", .str "file_size_min"), ("value", .num value)]
  | .fileSizeMax value => .obj [("type", .str "file_size_max"), ("value", .num value)]

/-! ## Queries -/

/-- `^\s*(SELECT|WITH)\b`. -/
def allowedQueryType (py : Python) (query : List Char) : Bool :=
  let text := query.dropWhile isSpace
  (py.afterWord "select".toList text).isSome || (py.afterWord "with".toList text).isSome

/-- `FROM\s+source\b`, at the start of the text. -/
def startsFromSource (py : Python) (text : List Char) : Bool :=
  match py.afterWord "from".toList text with
  | some (c :: rest) =>
      isSpace c && (py.afterWord "source".toList (rest.dropWhile isSpace)).isSome
  | _ => false

/-- `\bFROM\s+source\b`, anywhere behind a character that may be of a word. -/
def queryContainsFromSource (py : Python) : Bool → List Char → Bool
  | _, [] => false
  | behindWord, c :: text =>
      (!behindWord && startsFromSource py (c :: text)) ||
        queryContainsFromSource py (py.isWord c) text

/-- `Sql._validate_query`. -/
def validateQuery (py : Python) (query : String) : Checked String :=
  if !allowedQueryType py query.toList then .invalid
  else if !queryContainsFromSource py false query.toList then .invalid
  else .ok query

/-! ## Transformations -/

inductive TransformationType where
  | dataframeRowsFilter | dataframeColumnsFilter | fileMetadataFilter | sql
  deriving DecidableEq, Repr

def TransformationType.tag : TransformationType → String
  | .dataframeRowsFilter => "dataframe_rows_filter"
  | .dataframeColumnsFilter => "dataframe_columns_filter"
  | .fileMetadataFilter => "file_metadata_filter"
  | .sql => "sql"

def TransformationType.all : List TransformationType :=
  [.dataframeRowsFilter, .dataframeColumnsFilter, .fileMetadataFilter, .sql]

namespace TransformationSchema

def ofType (py : Python) (pydantic : Pydantic) (d : Dict) :
    TransformationType → Checked TransformationSchema
  | .dataframeRowsFilter =>
      dataframeRowsFilter <$> fieldOr d "filters" [] (array RowsFilter.validate)
  | .dataframeColumnsFilter =>
      dataframeColumnsFilter <$> fieldOr d "filters" [] (array ColumnsFilter.validate)
  | .fileMetadataFilter =>
      fileMetadataFilter <$> fieldOr d "filters" [] (array (MetadataFilter.validate py pydantic))
  | .sql =>
      (fun query _ => sql query) <$>
        field d "query" (fun j => (str j).andThen (validateQuery py)) <*>
        fieldOr d "dialect" "spark" (member id ["spark"])

def validate (py : Python) (pydantic : Pydantic) : Json → Checked TransformationSchema :=
  tagged TransformationType.tag TransformationType.all (fun type d => ofType py pydantic d type)

/-- `model_dump(mode="json")`. -/
def modelDump : TransformationSchema → Json
  | dataframeRowsFilter filters =>
      .obj [("type", .str "dataframe_rows_filter"),
        ("filters", .arr (filters.map RowsFilter.modelDump))]
  | dataframeColumnsFilter filters =>
      .obj [("type", .str "dataframe_columns_filter"),
        ("filters", .arr (filters.map ColumnsFilter.modelDump))]
  | fileMetadataFilter filters =>
      .obj [("type", .str "file_metadata_filter"),
        ("filters", .arr (filters.map MetadataFilter.modelDump))]
  | sql query => .obj [("type", .str "sql"), ("query", .str query), ("dialect", .str "spark")]

end TransformationSchema

/-! ## Exceptions -/

section Raises

variable {py : Python} {pydantic : Pydantic} {j : Json}

theorem not_raises_rowsFilter (j : Json) : ¬ (RowsFilter.validate j).Raises := by
  unfold RowsFilter.validate
  rw [raises_tagged]
  intro h
  rcases h with ⟨type, d, _, h⟩
  have hfield : ∀ key, ¬ (field d key str).Raises := fun key => not_raises_field not_raises_str
  rw [raises_seq, raises_map] at h
  by_cases hvalue : type.hasValue = true
  · rw [if_pos hvalue, raises_map] at h
    exact h.elim (hfield _) (hfield _)
  · rw [if_neg hvalue] at h
    exact h.elim (hfield _) (not_raises_ok _)

theorem not_raises_columnsFilter (j : Json) : ¬ (ColumnsFilter.validate j).Raises := by
  unfold ColumnsFilter.validate
  rw [raises_tagged]
  intro h
  rcases h with ⟨type, d, _, h⟩
  have hfield : ∀ key, ¬ (field d key str).Raises := fun key => not_raises_field not_raises_str
  cases type <;> simp only [raises_seq, raises_map, hfield, or_self] at h

/-- A validator of a pattern raises on whatever is not a string. -/
theorem raises_validatePattern {accepts : String → Checked Unit} :
    (validatePattern accepts j).Raises ↔ ∀ s, j = .str s → (accepts s).Raises := by
  cases j with
  | str s =>
      have hok : ∀ u : Unit, ¬ (Validated.ok s : Checked String).Raises := fun _ => not_raises_ok s
      unfold validatePattern
      rw [raises_andThen]
      constructor
      · intro h s' hs
        cases hs
        rcases h with h | ⟨u, _, h⟩
        · exact h
        · exact absurd h (hok u)
      · intro h
        exact Or.inl (h s rfl)
  | _ =>
      refine iff_of_true (raises_raised _) ?_
      intro s hs
      cases hs

theorem not_raises_validateGlob (pattern : String) : ¬ (validateGlob pattern).Raises :=
  not_raises_ite (not_raises_ok ()) not_raises_invalid

theorem raises_validateRegexp {pattern : String} :
    (validateRegexp py pattern).Raises ↔ ∃ e, py.compile pattern = .raised e := by
  unfold validateRegexp
  cases py.compile pattern with
  | pattern => exact iff_of_false (not_raises_ok ()) (by simp)
  | error => exact iff_of_false not_raises_invalid (by simp)
  | raised e => exact iff_of_true (raises_raised e) ⟨e, rfl⟩

theorem not_raises_validateQuery (query : String) : ¬ (validateQuery py query).Raises :=
  not_raises_ite not_raises_invalid (not_raises_ite not_raises_invalid (not_raises_ok query))

end Raises

end SyncMaster
