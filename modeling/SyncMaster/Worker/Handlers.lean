import SyncMaster.Library.Watermark
import SyncMaster.Schemas.Transformations

/-!
# Database Handlers

A worker copies a table with two handlers, one for the source and one for the
target. `read` describes the query to the library that runs it, `write` says
what is to become of the rows that are there. Seven database types share a base
class and override pieces of it.

The library is not part of the repository. `OnEtl` is what the handlers ask of
it, together with what its documentation says of the answers: a read without
a watermark returns the table, a read with one returns the rows above the
stored value, and a write appends to the table or replaces it. Tables and data
frames have no order, so the answers are stated up to a permutation.

## Main definitions

* `Transformation`: What a transfer makes of the rows.
* `DBTransferDTO`: The parameters of a handler, `postInit` with their defaults.
* `DBHandlerClass`: What the database types override, and the seven of them.
* `DBReader`, `DBWriter`, `DataFrame`, `OnEtl`: The library.
* `DBHandler.read`, `DBHandler.write`: The two halves of a transfer.

## Theorems

* `hivePostInit_eq`: The defaults of Hive are those of every other database.
* `getRowsFilterExpression_eq_none`: Without filters there is no condition.
* `DBHandler.rows_read_full`, `DBHandler.rows_read_incremental`: What is read.
* `DBHandler.write_replaced`, `DBHandler.write_appended`: What is in the target
  afterwards, for every database type.
-/

namespace SyncMaster

/-! ## Parameters of a handler -/

inductive Transformation where
  | dataframeRowsFilter (filters : List RowsFilter)
  | dataframeColumnsFilter (filters : List ColumnsFilter)
  | fileMetadataFilter
  | sql (query : String)
  deriving DecidableEq, Repr

/-- What a writer does with the rows that are in the table. -/
inductive IfExists where
  | append
  | replaceEntireTable
  | replaceOverlappingPartitions
  deriving DecidableEq, Repr

/-- The `options` of a transfer. -/
structure WriteOptions where
  ifExists : Option IfExists
  createTableOptions : Option String
  deriving DecidableEq, Repr

namespace WriteOptions

def empty : WriteOptions where
  ifExists := none
  createTableOptions := none

/-- `options.setdefault("if_exists", value)`. -/
def setDefault (options : WriteOptions) (value : IfExists) : WriteOptions :=
  { options with ifExists := options.ifExists.or (some value) }

end WriteOptions

structure DBTransferDTO where
  id : Id
  tableName : String
  strategy : Strategy
  resources : Resources
  transformations : List Transformation
  options : WriteOptions

/-- `DBTransferDTO.__post_init__`, on the options. -/
def dbPostInit (options : Option WriteOptions) : WriteOptions :=
  (options.getD .empty).setDefault .replaceEntireTable

/-- `HiveTransferDTO.__post_init__`, and the one of Iceberg. -/
def hivePostInit (options : Option WriteOptions) : WriteOptions :=
  (dbPostInit options).setDefault .replaceOverlappingPartitions

theorem WriteOptions.setDefault_of_isSome {options : WriteOptions} {value : IfExists}
    (h : options.ifExists.isSome = true) : options.setDefault value = options := by
  rcases options with ⟨_ | mode, create⟩
  · cases h
  · rfl

theorem isSome_ifExists_dbPostInit (options : Option WriteOptions) :
    (dbPostInit options).ifExists.isSome = true := by
  rw [dbPostInit, WriteOptions.setDefault]
  cases (options.getD .empty).ifExists <;> rfl

/-- The base class has set the default already when Hive sets its own. -/
theorem hivePostInit_eq (options : Option WriteOptions) : hivePostInit options = dbPostInit options :=
  WriteOptions.setDefault_of_isSome (isSome_ifExists_dbPostInit options)

/-! ## What the database types override -/

/-- `DBHandler._operators`, with the operator for `regexp` that a type adds. -/
def operators (regexp : String) : RowsFilterType → String
  | .isNull => "IS NULL"
  | .isNotNull => "IS NOT NULL"
  | .equal => "="
  | .notEqual => "!="
  | .greaterThan => ">"
  | .greaterOrEqual => ">="
  | .lessThan => "<"
  | .lessOrEqual => "<="
  | .like => "LIKE"
  | .ilike => "ILIKE"
  | .notLike => "NOT LIKE"
  | .notIlike => "NOT ILIKE"
  | .regexp => regexp

/-- `field op 'value'`. -/
def plainCondition (field op value : String) : String :=
  field ++ " " ++ op ++ " '" ++ value ++ "'"

/-- For databases without `ILIKE`. -/
def loweredCondition (field op value : String) : String :=
  if op = "ILIKE" then "LOWER(" ++ field ++ ") LIKE LOWER('" ++ value ++ "')"
  else if op = "NOT ILIKE" then "NOT LOWER(" ++ field ++ ") LIKE LOWER('" ++ value ++ "')"
  else plainCondition field op value

def oracleCondition (field op value : String) : String :=
  if op = "REGEXP_LIKE" then "REGEXP_LIKE(" ++ field ++ ", '" ++ value ++ "')"
  else loweredCondition field op value

def quoteDouble (field : String) : String :=
  "\"" ++ field ++ "\""

def quoteBacktick (field : String) : String :=
  "`" ++ field ++ "`"

/-- The methods that a database type overrides. -/
structure DBHandlerClass where
  type : ConnectionType
  /-- `connection_dto.type`. -/
  typeName : String
  regexp : String
  condition : String → String → String → String
  /-- `_quote_field`. -/
  quoteField : String → String
  /-- The new name in `_normalize_column_names`. -/
  normalizeName : String → String
  /-- Whether `_get_reading_options` is the one of the base class. -/
  partitions : Bool

def postgresHandler : DBHandlerClass where
  type := .postgres
  typeName := "postgres"
  regexp := "~"
  condition := plainCondition
  quoteField := quoteDouble
  normalizeName := String.toLower
  partitions := true

def clickhouseHandler : DBHandlerClass where
  type := .clickhouse
  typeName := "clickhouse"
  regexp := "REGEXP"
  condition := plainCondition
  quoteField := quoteDouble
  normalizeName := String.toLower
  partitions := true

def oracleHandler : DBHandlerClass where
  type := .oracle
  typeName := "oracle"
  regexp := "REGEXP_LIKE"
  condition := oracleCondition
  quoteField := quoteDouble
  normalizeName := String.toUpper
  partitions := true

def mssqlHandler : DBHandlerClass where
  type := .mssql
  typeName := "mssql"
  regexp := "LIKE"
  condition := loweredCondition
  quoteField := quoteDouble
  normalizeName := String.toLower
  partitions := true

def mysqlHandler : DBHandlerClass where
  type := .mysql
  typeName := "mysql"
  regexp := "RLIKE"
  condition := loweredCondition
  quoteField := quoteBacktick
  normalizeName := String.toLower
  partitions := true

def hiveHandler : DBHandlerClass where
  type := .hive
  typeName := "hive"
  regexp := "RLIKE"
  condition := loweredCondition
  quoteField := quoteBacktick
  normalizeName := String.toLower
  partitions := false

def icebergHandler : DBHandlerClass where
  type := .iceberg
  typeName := "iceberg"
  regexp := "RLIKE"
  condition := loweredCondition
  quoteField := quoteBacktick
  normalizeName := String.toLower
  partitions := false

namespace DBHandlerClass

variable (cls : DBHandlerClass)

/-- One filter in `_make_rows_filter_expression`. -/
def rowsFilterCondition (filter : RowsFilter) : String :=
  let field := cls.quoteField filter.field
  let op := operators cls.regexp filter.type
  match filter.value with
  | some value => cls.condition field op value
  | none => field ++ " " ++ op

/-- `_make_rows_filter_expression`. -/
def makeRowsFilterExpression (filters : List RowsFilter) : Option String :=
  let expression := " AND ".intercalate (filters.map cls.rowsFilterCondition)
  if expression = "" then none else some expression

def columnsFilterExpression : ColumnsFilter → String
  | .includeField field => cls.quoteField field
  | .rename field newName => cls.quoteField field ++ " AS " ++ cls.quoteField newName
  | .cast field asType =>
      "CAST(" ++ cls.quoteField field ++ " AS " ++ asType ++ ") AS " ++ cls.quoteField field

/-- `_make_columns_filter_expressions`. -/
def makeColumnsFilterExpressions (filters : List ColumnsFilter) : Option (List String) :=
  if filters.isEmpty then none else some (filters.map cls.columnsFilterExpression)

end DBHandlerClass

/-- The filters of all rows filters of a transfer. -/
def rowsFilters (transformations : List Transformation) : List RowsFilter :=
  transformations.flatMap fun
    | .dataframeRowsFilter filters => filters
    | _ => []

/-- The filters of all columns filters of a transfer. -/
def columnsFilters (transformations : List Transformation) : List ColumnsFilter :=
  transformations.flatMap fun
    | .dataframeColumnsFilter filters => filters
    | _ => []

/-- `_get_sql_query`: the first one. -/
def getSqlQuery (transformations : List Transformation) : Option String :=
  transformations.findSome? fun
    | .sql query => some query
    | _ => none

/-! ## The library that runs the queries -/

/-- A watermark of the store. -/
structure Hwm where
  value : Option Int
  deriving DecidableEq, Repr

/-- `hwm and hwm.value`. A value of zero counts as none. -/
def Hwm.truthy (hwm : Option Hwm) : Bool :=
  match hwm.bind Hwm.value with
  | some value => value != 0
  | none => false

theorem Hwm.truthy_iff {hwm : Option Hwm} :
    Hwm.truthy hwm = true ↔ hwm.bind Hwm.value ≠ none ∧ hwm.bind Hwm.value ≠ some 0 := by
  rw [Hwm.truthy]
  cases hwm.bind Hwm.value with
  | none => exact ⟨(fun h => nomatch h), fun h => absurd rfl h.1⟩
  | some v =>
      rw [bne_iff_ne]
      exact ⟨fun h => ⟨Option.some_ne_none v, fun hv => h (Option.some.inj hv)⟩,
        fun h hv => h.2 (congrArg some hv)⟩

inductive PartitioningMode where
  | range
  | hash
  deriving DecidableEq, Repr

structure ReadingOptions where
  partitionColumn : String
  numPartitions : Nat
  partitioningMode : PartitioningMode
  deriving DecidableEq, Repr

/-- `DBReader.AutoDetectHWM`. -/
structure AutoDetectHWM where
  name : String
  expression : String
  deriving DecidableEq, Repr

structure DBReader where
  table : String
  condition : Option String
  columns : Option (List String)
  hwm : Option AutoDetectHWM
  options : Option ReadingOptions
  deriving DecidableEq, Repr

structure DBWriter where
  table : String
  options : WriteOptions
  deriving DecidableEq, Repr

structure Column where
  name : String
  nullable : Bool
  deriving DecidableEq, Repr

/-- The columns of a table or a query. There is at least one. -/
structure Schema where
  columns : List Column
  ne_nil : columns ≠ []

def Schema.first (schema : Schema) : Column :=
  schema.columns.head schema.ne_nil

/-- Columns changed one by one. -/
def Schema.map (change : Column → Column) (schema : Schema) : Schema where
  columns := schema.columns.map change
  ne_nil := fun h => schema.ne_nil (List.map_eq_nil_iff.mp h)

structure DataFrame (Out : Type) where
  schema : Schema
  rows : List Out

/-- What the handlers ask of the library, over a source table whose rows have the
    given value in the increment column. -/
structure OnEtl (Row Out : Type) (value : Row → Int) where
  /-- Whether the connection has `get_df_schema`. -/
  containsGetDFSchemaMethod : ConnectionType → Bool
  getDFSchema : String → Option (List String) → Schema
  /-- `DBReader.run`, with the stored value of the watermark. -/
  run : DBReader → Option Int → List Row → DataFrame Out
  /-- The value that a successful incremental strategy stores for the reader. -/
  savedValue : DBReader → Option Int → List Row → Option Int
  /-- `DBWriter.run`, with the rows of the table before and after. -/
  write : DBWriter → List Out → DataFrame Out → List Out
  /-- `spark.sql`, over the view `source`. -/
  sql : String → DataFrame Out → DataFrame Out
  /-- A row with another value in place of a null in the column. -/
  coalesce : Column → Out → Out
  /-- What the column expressions make of a row. -/
  select : Option (List String) → Row → Out
  run_schema : ∀ (reader : DBReader) (mark : Option Int) (rows : List Row),
    (run reader mark rows).schema = getDFSchema reader.table reader.columns
  run_full : ∀ (reader : DBReader) (mark : Option Int) (rows : List Row),
    reader.condition = none → reader.hwm = none →
    ((run reader mark rows).rows).Perm (rows.map (select reader.columns))
  run_incremental : ∀ (reader : DBReader) (mark : Option Int) (rows : List Row),
    reader.condition = none → reader.hwm ≠ none →
    ((run reader mark rows).rows).Perm
      ((Watermark.fetch value mark rows).map (select reader.columns))
  savedValue_eq : ∀ (reader : DBReader) (mark : Option Int) (rows : List Row),
    reader.condition = none →
    savedValue reader mark rows = Watermark.advance value mark (Watermark.fetch value mark rows)
  write_append : ∀ (writer : DBWriter) (table : List Out) (df : DataFrame Out),
    writer.options.ifExists = some .append → (write writer table df).Perm (table ++ df.rows)
  write_replace : ∀ (writer : DBWriter) (table : List Out) (df : DataFrame Out),
    writer.options.ifExists = some .replaceEntireTable → (write writer table df).Perm df.rows

/-! ## Reading and writing -/

structure DBHandler where
  cls : DBHandlerClass
  transferDto : DBTransferDTO
  hwm : Option Hwm

namespace DBHandler

variable {Row Out : Type} {value : Row → Int} (etl : OnEtl Row Out value) (handler : DBHandler)

def getRowsFilterExpression : Option String :=
  handler.cls.makeRowsFilterExpression (rowsFilters handler.transferDto.transformations)

def getColumnsFilterExpressions : Option (List String) :=
  handler.cls.makeColumnsFilterExpressions (columnsFilters handler.transferDto.transformations)

/-- The name of the watermark that the reader asks for. -/
def hwmName : String :=
  toString handler.transferDto.id ++ "_" ++ handler.cls.typeName ++ "_" ++
    handler.transferDto.tableName

/-- `_get_reading_options`, after `read` has quoted the increment column. -/
def getReadingOptions : Option ReadingOptions :=
  if !handler.cls.partitions || handler.transferDto.resources.maxParallelTasks = 1 then none
  else
    match handler.transferDto.strategy with
    | .incremental incrementBy =>
        some
          { partitionColumn := handler.cls.quoteField incrementBy
            numPartitions := handler.transferDto.resources.maxParallelTasks
            partitioningMode := if Hwm.truthy handler.hwm then .range else .hash }
    | .full =>
        if etl.containsGetDFSchemaMethod handler.cls.type then
          let schema := etl.getDFSchema handler.transferDto.tableName
            handler.getColumnsFilterExpressions
          some
            { partitionColumn := handler.cls.quoteField schema.first.name
              numPartitions := handler.transferDto.resources.maxParallelTasks
              partitioningMode := .hash }
        else none

/-- The reader that `read` makes. -/
def reader : DBReader where
  table := handler.transferDto.tableName
  condition := handler.getRowsFilterExpression
  columns := handler.getColumnsFilterExpressions
  hwm :=
    match handler.transferDto.strategy with
    | .incremental incrementBy => some ⟨handler.hwmName, handler.cls.quoteField incrementBy⟩
    | .full => none
  options := handler.getReadingOptions etl

/-- `DBHandler.read`, of a table and with the stored value of the watermark. -/
def read (mark : Option Int) (table : List Row) : DataFrame Out :=
  let df := etl.run (handler.reader etl) mark table
  -- `if query`: an empty one is as good as none.
  match (getSqlQuery handler.transferDto.transformations).filter (fun query => query != "") with
  | some query => etl.sql query df
  | none => df

def normalizeColumnNames (df : DataFrame Out) : DataFrame Out :=
  { df with
    schema := df.schema.map fun column =>
      { column with name := handler.cls.normalizeName column.name } }

/-- The options that the writer gets. -/
def writeOptions : WriteOptions :=
  match handler.transferDto.strategy with
  | .incremental _ =>
      if Hwm.truthy handler.hwm then
        { handler.transferDto.options with ifExists := some .append }
      else handler.transferDto.options
  | .full => handler.transferDto.options

/-- `DBHandler.write`. -/
def baseWrite (table : List Out) (df : DataFrame Out) : List Out :=
  etl.write ⟨handler.transferDto.tableName, handler.writeOptions⟩ table
    (handler.normalizeColumnNames df)

/-- The sort column of a new table in ClickHouse: the first whose name ends with
    `id`, or the first of all. -/
def sortColumn (schema : Schema) : Column :=
  (schema.columns.find? fun column => column.name.toLower.endsWith "id").getD schema.first

/-- `_normalize_column_to_non_nullable`. -/
def normalizeColumnToNonNullable (df : DataFrame Out) (column : Column) : DataFrame Out :=
  if column.nullable then
    { schema := df.schema.map fun other =>
        if other.name = column.name then { other with nullable := false } else other
      rows := df.rows.map (etl.coalesce column) }
  else df

/-- `ClickhouseHandler.write`. -/
def clickhouseWrite (table : List Out) (df : DataFrame Out) : List Out :=
  let normalized := handler.normalizeColumnNames df
  let column := sortColumn normalized.schema
  let engine := "ENGINE = MergeTree() ORDER BY " ++ handler.cls.quoteField column.name
  let options := { handler.writeOptions with createTableOptions := some engine }
  etl.write ⟨handler.transferDto.tableName, options⟩ table
    (normalizeColumnToNonNullable etl normalized column)

/-- `write`, of the class of the handler. -/
def write (table : List Out) (df : DataFrame Out) : List Out :=
  match handler.cls.type with
  | .clickhouse => handler.clickhouseWrite etl table df
  | _ => handler.baseWrite etl table df

/-! ## What is read -/

/-- Neither a rows filter nor a query changes which rows there are. -/
def Unfiltered (transformations : List Transformation) : Prop :=
  rowsFilters transformations = [] ∧ getSqlQuery transformations = none

instance (transformations : List Transformation) : Decidable (Unfiltered transformations) :=
  inferInstanceAs (Decidable (_ ∧ _))

variable {handler}

/-- Without filters there is no condition. -/
theorem getRowsFilterExpression_eq_none (h : Unfiltered handler.transferDto.transformations) :
    handler.getRowsFilterExpression = none := by
  rw [getRowsFilterExpression, h.1]
  rfl

variable (handler) (mark : Option Int) (rows : List Row)

theorem read_eq_run (h : Unfiltered handler.transferDto.transformations) :
    handler.read etl mark rows = etl.run (handler.reader etl) mark rows := by
  simp only [read, h.2, Option.filter_none]

theorem schema_read (h : Unfiltered handler.transferDto.transformations) :
    (handler.read etl mark rows).schema =
      etl.getDFSchema handler.transferDto.tableName handler.getColumnsFilterExpressions := by
  rw [read_eq_run etl handler mark rows h]
  exact etl.run_schema _ _ _

/-- With the full strategy, everything is read. -/
theorem rows_read_full (h : Unfiltered handler.transferDto.transformations)
    (hstrategy : handler.transferDto.strategy = .full) :
    ((handler.read etl mark rows).rows).Perm
      (rows.map (etl.select handler.getColumnsFilterExpressions)) := by
  rw [read_eq_run etl handler mark rows h]
  refine etl.run_full _ _ _ (getRowsFilterExpression_eq_none h) ?_
  simp only [reader, hstrategy]

/-- With the incremental strategy, what is above the stored value is read. -/
theorem rows_read_incremental {incrementBy : String}
    (h : Unfiltered handler.transferDto.transformations)
    (hstrategy : handler.transferDto.strategy = .incremental incrementBy) :
    ((handler.read etl mark rows).rows).Perm
      ((Watermark.fetch value mark rows).map
        (etl.select handler.getColumnsFilterExpressions)) := by
  rw [read_eq_run etl handler mark rows h]
  refine etl.run_incremental _ _ _ (getRowsFilterExpression_eq_none h) ?_
  simp only [reader, hstrategy]
  exact Option.some_ne_none _

/-! ## What is written -/

/-- What the target makes of a row of a data frame with these columns. -/
def stored (schema : Schema) (row : Out) : Out :=
  match handler.cls.type with
  | .clickhouse =>
      let column := sortColumn (schema.map fun column =>
        { column with name := handler.cls.normalizeName column.name })
      if column.nullable then etl.coalesce column row else row
  | _ => row

/-- Only ClickHouse stores other rows than it is given. -/
theorem stored_of_ne_clickhouse (h : handler.cls.type ≠ .clickhouse) (schema : Schema) :
    handler.stored etl schema = id := by
  funext row
  rw [stored]
  split
  · rename_i hclickhouse
    exact absurd hclickhouse h
  · rfl

variable {handler} {df : DataFrame Out}

theorem rows_normalizeColumnToNonNullable (column : Column) :
    (normalizeColumnToNonNullable etl df column).rows =
      df.rows.map (fun row => if column.nullable then etl.coalesce column row else row) := by
  rw [normalizeColumnToNonNullable]
  cases column.nullable with
  | true => rfl
  | false => exact (List.map_id' df.rows).symm

variable (handler) (table : List Out) (df : DataFrame Out)

/-- `write` is one call of the library, with the mode that the handler has chosen
    and with the rows as the target stores them. -/
theorem write_eq :
    ∃ writer df', handler.write etl table df = etl.write writer table df' ∧
      writer.options.ifExists = handler.writeOptions.ifExists ∧
      df'.rows = df.rows.map (handler.stored etl df.schema) := by
  rw [write]
  split
  · rename_i hclickhouse
    refine ⟨_, _, rfl, rfl, ?_⟩
    rw [rows_normalizeColumnToNonNullable]
    refine List.map_congr_left (fun row _ => ?_)
    simp only [stored, hclickhouse]
    rfl
  · rename_i hother
    refine ⟨_, _, rfl, rfl, ?_⟩
    rw [stored_of_ne_clickhouse etl handler hother, List.map_id]
    rfl

theorem write_appended (h : handler.writeOptions.ifExists = some .append) :
    (handler.write etl table df).Perm (table ++ df.rows.map (handler.stored etl df.schema)) := by
  rcases write_eq etl handler table df with ⟨writer, df', hwrite, hmode, hrows⟩
  rw [hwrite, ← hrows]
  exact etl.write_append writer table df' (hmode.trans h)

theorem write_replaced (h : handler.writeOptions.ifExists = some .replaceEntireTable) :
    (handler.write etl table df).Perm (df.rows.map (handler.stored etl df.schema)) := by
  rcases write_eq etl handler table df with ⟨writer, df', hwrite, hmode, hrows⟩
  rw [hwrite, ← hrows]
  exact etl.write_replace writer table df' (hmode.trans h)

/-- The incremental strategy appends exactly when the stored value counts. -/
theorem ifExists_writeOptions {incrementBy : String}
    (h : handler.transferDto.strategy = .incremental incrementBy) :
    handler.writeOptions.ifExists =
      if Hwm.truthy handler.hwm then some .append else handler.transferDto.options.ifExists := by
  rw [writeOptions, h]
  exact apply_ite WriteOptions.ifExists _ _ _

end DBHandler

end SyncMaster
