import SyncMaster.Worker.FileHandlers

/-!
# Readers of Files

A transfer from files is to make the same of them wherever they are stored: the
rows that pass all filters, then the columns, then the query.

The remote storages do. The local ones, whose files are downloaded first, do as
long as no query is reached. For a query the handler asks `self.df_connection`
for the session, and their `connect` sets `self.local_df_connection` only, so
that the attribute is missing.

## Main definitions

* `conditionText`, `columnText`: The texts that the filters stand for.
* `transformed`: What the transformations are meant to do.
* `Alike`: All handlers do that.
* `Queryless`: No query is reached.

## Theorems

* `read_remote`: The remote handlers transform as they should.
* `read_local`: What the local handlers do.
* `alike_iff`: All handlers are alike just when no query is reached.
-/

namespace SyncMaster

section Readers

variable {Frame Failure : Type} (spark : Spark Frame Failure)

/-! ## The purpose -/

/-- Spark's operator for a kind of filter. -/
def sparkOperator : RowsFilterType → String
  | .isNull => "IS NULL"
  | .isNotNull => "IS NOT NULL"
  | .equal => "="
  | .notEqual => "!="
  | .greaterThan => ">"
  | .greaterOrEqual => ">="
  | .lessThan => "<"
  | .lessOrEqual => "<="
  | .like => "LIKE"
  | .ilike => "ILIKE"
  | .notLike => "NOT LIKE"
  | .notIlike => "NOT ILIKE"
  | .regexp => "RLIKE"

/-- The condition that a filter is meant to put: the field, the operator and, for
    an operator that has one, the value in quotes. -/
def conditionText (filter : RowsFilter) : String :=
  filter.field ++ " " ++ sparkOperator filter.type ++
    (filter.value.map (fun value => " '" ++ value ++ "'")).getD ""

/-- The column that a filter is meant to ask for: a field of the file, under a new
    name or of another type. -/
def columnText : ColumnsFilter → String
  | .includeField field => field
  | .rename field newName => field ++ " AS " ++ newName
  | .cast field asType => "CAST(" ++ field ++ " AS " ++ asType ++ ") AS " ++ field

/-- The rows that pass all filters. -/
def filteredRows (filters : List RowsFilter) (df : Frame) : Except Failure Frame :=
  match filters with
  | [] => .ok df
  | _ :: _ => spark.whereExpr (" AND ".intercalate (filters.map conditionText)) df

/-- The columns that are asked for. -/
def selectedColumns (filters : List ColumnsFilter) (df : Frame) : Except Failure Frame :=
  match filters with
  | [] => .ok df
  | _ :: _ => spark.selectExpr (filters.map columnText) df

/-- The rows and columns that a query is about. -/
def selection (transformations : List Transformation) (df : Frame) : Except Failure Frame := do
  let df ← filteredRows spark (rowsFilters transformations) df
  selectedColumns spark (columnsFilters transformations) df

/-- The query of the transformations, if there is one and it is not empty. -/
def queryOf (transformations : List Transformation) : Option String :=
  (getSqlQuery transformations).filter (fun query => query != "")

/-- The answer to the query over what was selected. -/
def transformed (transformations : List Transformation) (df : Frame) : Except Failure Frame := do
  let df ← selection spark transformations df
  match queryOf transformations with
  | some query => spark.sql query df
  | none => .ok df

/-- Every handler, connected with this session, does what the transformations are
    meant to do. It fails only where Spark rejects something. -/
def Alike (transformations : List Transformation) (df : Frame) : Prop :=
  ∀ cls : FileHandlerClass,
    cls.read (cls.connect spark) spark transformations df =
      asking (transformed spark transformations df)

/-- There is no query, or Spark rejects a filter before it comes to the query. -/
def Queryless (transformations : List Transformation) (df : Frame) : Prop :=
  queryOf transformations = none ∨ ∃ failure, selection spark transformations df = .error failure

/-! ## The handlers -/

variable (transformations : List Transformation) (df : Frame)

theorem asking_bind (x : Except Failure Frame) (f : Frame → Except Failure Frame) :
    asking (x >>= f) = asking x >>= fun df => asking (f df) := by
  cases x with
  | ok df => rfl
  | error failure => rfl

/-- The handler looks the operator up in its table and goes by whether there is a
    value. -/
theorem rowsFilterCondition_eq (filter : RowsFilter) :
    FileHandler.rowsFilterCondition filter = conditionText filter := by
  have hoperator : FileHandler.operators filter.type = sparkOperator filter.type := by
    cases filter.type <;> rfl
  unfold FileHandler.rowsFilterCondition conditionText
  cases filter.value with
  | none => rw [Option.map_none, Option.getD_none, String.append_empty, hoperator]
  | some value =>
      rw [Option.map_some, Option.getD_some, hoperator]
      unfold plainCondition
      simp only [String.append_assoc]

theorem columnsFilterExpression_eq (filter : ColumnsFilter) :
    FileHandler.columnsFilterExpression filter = columnText filter := by
  cases filter <;> rfl

/-- The condition is left out where there are no filters. -/
theorem asking_filteredRows :
    asking (filteredRows spark (rowsFilters transformations) df) =
      match FileHandler.getRowsFilterExpression transformations with
      | some rowsFilterExpression => asking (spark.whereExpr rowsFilterExpression df)
      | none => pure df := by
  unfold FileHandler.getRowsFilterExpression
  cases rowsFilters transformations with
  | nil => rfl
  | cons filter filters =>
      rw [FileHandler.makeRowsFilterExpression_cons, filteredRows,
        List.map_congr_left (fun filter _ => rowsFilterCondition_eq filter)]

/-- And so are the columns. -/
theorem asking_selectedColumns :
    asking (selectedColumns spark (columnsFilters transformations) df) =
      match FileHandler.getColumnsFilterExpressions transformations with
      | some columnsFilterExpressions => asking (spark.selectExpr columnsFilterExpressions df)
      | none => pure df := by
  unfold FileHandler.getColumnsFilterExpressions
  cases columnsFilters transformations with
  | nil => rfl
  | cons filter filters =>
      rw [selectedColumns, ← List.map_congr_left (fun filter _ => columnsFilterExpression_eq filter)]
      rfl

/-- What a handler does with the query. -/
def answer (attributes : FileHandlerAttributes (Spark Frame Failure))
    (transformations : List Transformation) (df : Frame) : Except (HandlerError Failure) Frame :=
  match queryOf transformations with
  | some query => do
      let dfConnection ← getAttribute "df_connection" attributes.dfConnection
      let session ← getAttribute "spark" dfConnection.spark
      asking (session.sql query df)
  | none => pure df

/-- The first two steps do not look at the attributes. -/
theorem transform_eq (attributes : FileHandlerAttributes (Spark Frame Failure)) :
    FileHandler.transform attributes spark transformations df =
      asking (selection spark transformations df) >>= answer attributes transformations := by
  unfold selection
  rw [asking_bind, bind_assoc, asking_filteredRows]
  simp only [asking_selectedColumns]
  unfold FileHandler.transform
  cases FileHandler.getRowsFilterExpression transformations with
  | none => cases FileHandler.getColumnsFilterExpressions transformations <;> rfl
  | some rowsFilterExpression =>
      refine congrArg _ (funext (fun df => ?_))
      cases FileHandler.getColumnsFilterExpressions transformations <;> rfl

/-- A handler with a session to ask. -/
theorem transform_of_dfConnection {attributes : FileHandlerAttributes (Spark Frame Failure)}
    {className : String} (h : attributes.dfConnection = some ⟨className, some spark⟩) :
    FileHandler.transform attributes spark transformations df =
      asking (transformed spark transformations df) := by
  unfold transformed
  rw [transform_eq, asking_bind]
  refine congrArg _ (funext (fun df => ?_))
  unfold answer
  rw [h]
  cases queryOf transformations with
  | none => rfl
  | some query => rfl

/-- A handler without one. -/
theorem transform_of_none {attributes : FileHandlerAttributes (Spark Frame Failure)}
    (h : attributes.dfConnection = none) :
    FileHandler.transform attributes spark transformations df =
      asking (selection spark transformations df) >>= fun df =>
        match queryOf transformations with
        | some _ => .error (.attributeError "df_connection")
        | none => .ok df := by
  rw [transform_eq]
  refine congrArg _ (funext (fun df => ?_))
  unfold answer
  rw [h]
  cases queryOf transformations with
  | none => rfl
  | some query => rfl

/-! ## The seven classes -/

theorem read_remote {cls : FileHandlerClass} (h : cls = .s3 ∨ cls = .hdfs) :
    cls.read (cls.connect spark) spark transformations df =
      asking (transformed spark transformations df) := by
  rcases h with rfl | rfl
  · exact transform_of_dfConnection spark transformations df rfl
  · exact transform_of_dfConnection spark transformations df rfl

theorem read_local {cls : FileHandlerClass} (h : ¬ (cls = .s3 ∨ cls = .hdfs)) :
    cls.read (cls.connect spark) spark transformations df =
      asking (selection spark transformations df) >>= fun df =>
        match queryOf transformations with
        | some _ => .error (.attributeError "df_connection")
        | none => .ok df := by
  cases cls with
  | ftp | ftps | sftp | samba | webdav => exact transform_of_none spark transformations df rfl
  | s3 => exact absurd (Or.inl rfl) h
  | hdfs => exact absurd (Or.inr rfl) h

/-- Spark never says that the handler has no attribute. -/
theorem asking_ne_attributeError (x : Except Failure Frame) (name : String) :
    asking x ≠ .error (.attributeError name) := by
  intro h
  cases x with
  | ok df => cases h
  | error failure => cases h

theorem read_local_eq_iff {cls : FileHandlerClass} (h : ¬ (cls = .s3 ∨ cls = .hdfs)) :
    cls.read (cls.connect spark) spark transformations df =
      asking (transformed spark transformations df) ↔ Queryless spark transformations df := by
  unfold Queryless transformed
  rw [read_local spark transformations df h]
  cases hquery : queryOf transformations with
  | none =>
      refine iff_of_true ?_ (Or.inl rfl)
      rw [asking_bind]
      rfl
  | some query =>
      cases hselection : selection spark transformations df with
      | error failure => exact iff_of_true rfl (Or.inr ⟨failure, rfl⟩)
      | ok selected =>
          refine iff_of_false (fun heq => ?_) (fun hqueryless => ?_)
          · exact asking_ne_attributeError _ "df_connection" heq.symm
          · rcases hqueryless with hnone | ⟨failure, hfailure⟩
            · exact Option.some_ne_none query hnone
            · cases hfailure

/-- For every data frame and every list of transformations. -/
theorem alike_iff : Alike spark transformations df ↔ Queryless spark transformations df := by
  constructor
  · intro h
    exact (read_local_eq_iff spark transformations df (by decide)).mp (h .ftp)
  · intro h cls
    by_cases hremote : cls = .s3 ∨ cls = .hdfs
    · exact read_remote spark transformations df hremote
    · exact (read_local_eq_iff spark transformations df hremote).mpr h

end Readers

/-- A Spark of one column of numbers, that knows one query. -/
def sampleSpark : Spark (List Nat) String where
  whereExpr := fun _ df => .ok df
  selectExpr := fun _ df => .ok df
  sql query df :=
    if query = "SELECT * FROM source WHERE id > 1" then .ok (df.filter (fun id => 1 < id))
    else .error "AnalysisException"

/-- With a query, a file from FTP is not read as a file from S3 is. -/
theorem not_alike_query :
    ¬ Alike sampleSpark [.sql "SELECT * FROM source WHERE id > 1"] [1, 2, 3] := by
  intro h
  have hftp := h .ftp
  cases hftp

end SyncMaster
