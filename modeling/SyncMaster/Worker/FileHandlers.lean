import SyncMaster.Worker.Handlers

/-!
# File Handlers

What the handlers of the seven file storages share, and what they do with a
data frame that was read from files.

Filters become texts, and the texts go to Spark: a condition for `where`, a
list of expressions for `selectExpr`, a query for `sql`. Unlike the handlers of
databases these quote neither fields nor names. The query needs the Spark
session, which a handler gets from one of the connections that `connect` makes:
`self.df_connection` and `self.local_df_connection` are the two that have one.

Spark is not part of the repository. `Spark` is what the handlers ask of it:
each request gives a data frame or an error.

## Main definitions

* `FileHandlerClass`: The seven handlers.
* `FileHandlerClass.connect`: The attributes that each of them sets.
* `FileHandler.rowsFilterCondition`, `FileHandler.columnsFilterExpression`: The
  texts.
* `FileHandler.transform`: The body of `read` after the files are loaded, which
  the classes have three copies of.

## Theorems

* `makeRowsFilterExpression_cons`: There is a condition as soon as there is a
  filter.
-/

namespace SyncMaster

/-! ## The texts -/

namespace FileHandler

/-- `FileHandler._operators` -/
def operators : RowsFilterType → String :=
  SyncMaster.operators "RLIKE"

/-- One filter in `_make_rows_filter_expression`. -/
def rowsFilterCondition (filter : RowsFilter) : String :=
  match filter.value with
  | some value => plainCondition filter.field (operators filter.type) value
  | none => filter.field ++ " " ++ operators filter.type

/-- `_make_rows_filter_expression` -/
def makeRowsFilterExpression (filters : List RowsFilter) : Option String :=
  let expression := " AND ".intercalate (filters.map rowsFilterCondition)
  if expression = "" then none else some expression

theorem rowsFilterCondition_ne_empty (filter : RowsFilter) : rowsFilterCondition filter ≠ "" := by
  intro h
  -- A blank stands behind the field in either case.
  have hblank : ' ' ∈ (rowsFilterCondition filter).toList := by
    unfold rowsFilterCondition plainCondition
    cases filter.value <;> simp
  rw [h] at hblank
  exact absurd hblank List.not_mem_nil

/-- The text is empty only where there are no filters. -/
theorem makeRowsFilterExpression_cons (filter : RowsFilter) (filters : List RowsFilter) :
    makeRowsFilterExpression (filter :: filters) =
      some (" AND ".intercalate ((filter :: filters).map rowsFilterCondition)) := by
  have hne := rowsFilterCondition_ne_empty filter
  unfold makeRowsFilterExpression
  rw [if_neg]
  intro hempty
  cases filters with
  | nil =>
      rw [List.map_singleton, String.intercalate_singleton] at hempty
      exact hne hempty
  | cons next filters =>
      rw [List.map_cons, List.map_cons, String.intercalate_cons_cons, String.append_eq_empty_iff,
        String.append_eq_empty_iff] at hempty
      exact hne hempty.1.1

def columnsFilterExpression : ColumnsFilter → String
  | .includeField field => field
  | .rename field newName => field ++ " AS " ++ newName
  | .cast field asType => "CAST(" ++ field ++ " AS " ++ asType ++ ") AS " ++ field

/-- `_make_columns_filter_expressions` -/
def makeColumnsFilterExpressions (filters : List ColumnsFilter) : Option (List String) :=
  if filters.isEmpty then none else some (filters.map columnsFilterExpression)

/-- `_get_rows_filter_expression` -/
def getRowsFilterExpression (transformations : List Transformation) : Option String :=
  makeRowsFilterExpression (rowsFilters transformations)

/-- `_get_columns_filter_expressions` -/
def getColumnsFilterExpressions (transformations : List Transformation) : Option (List String) :=
  makeColumnsFilterExpressions (columnsFilters transformations)

end FileHandler

/-! ## Connections -/

/-- What the handlers ask of Spark. `sql` is asked with the data frame that the
    view `source` stands for. -/
structure Spark (Frame Failure : Type) where
  whereExpr : String → Frame → Except Failure Frame
  selectExpr : List String → Frame → Except Failure Frame
  sql : String → Frame → Except Failure Frame

/-- A connection of the library. Those that load data frames have a session. -/
structure OnetlConnection (Session : Type) where
  className : String
  spark : Option Session

/-- The attributes that `connect` sets. Reading another one raises. -/
structure FileHandlerAttributes (Session : Type) where
  fileConnection : Option (OnetlConnection Session) := none
  dfConnection : Option (OnetlConnection Session) := none
  localDfConnection : Option (OnetlConnection Session) := none

inductive FileHandlerClass where
  | ftp | ftps | sftp | samba | webdav | s3 | hdfs
  deriving DecidableEq, Repr

section Connect

variable {Session : Type}

/-- The `connect` of a subclass of `LocalDFFileHandler`. -/
def connectLocalDF (className : String) (spark : Session) : FileHandlerAttributes Session where
  fileConnection := some ⟨className, none⟩
  localDfConnection := some ⟨"SparkLocalFS", some spark⟩

/-- The `connect` of a subclass of `RemoteDFFileHandler`. -/
def connectRemoteDF (dfClassName className : String) (spark : Session) :
    FileHandlerAttributes Session where
  dfConnection := some ⟨dfClassName, some spark⟩
  fileConnection := some ⟨className, none⟩

def FileHandlerClass.connect (spark : Session) : FileHandlerClass → FileHandlerAttributes Session
  | ftp => connectLocalDF "FTP" spark
  | ftps => connectLocalDF "FTPS" spark
  | sftp => connectLocalDF "SFTP" spark
  | samba => connectLocalDF "Samba" spark
  | webdav => connectLocalDF "WebDAV" spark
  | s3 => connectRemoteDF "SparkS3" "S3" spark
  | hdfs => connectRemoteDF "SparkHDFS" "HDFS" spark

end Connect

/-! ## Transforming a data frame -/

inductive HandlerError (Failure : Type) where
  /-- Spark rejects an expression or a query. -/
  | spark (failure : Failure)
  | attributeError (name : String)
  deriving DecidableEq, Repr

section Transform

variable {Frame Failure : Type}

/-- An attribute of an object. -/
def getAttribute {Value : Type} (name : String) (value : Option Value) :
    Except (HandlerError Failure) Value :=
  match value with
  | some value => .ok value
  | none => .error (.attributeError name)

/-- An answer of Spark. -/
def asking (answer : Except Failure Frame) : Except (HandlerError Failure) Frame :=
  answer.mapError HandlerError.spark

namespace FileHandler

variable (attributes : FileHandlerAttributes (Spark Frame Failure)) (spark : Spark Frame Failure)
  (transformations : List Transformation)

/-- The body of `read` after the files are loaded. The data frame belongs to the
    session, and so do its methods. -/
def transform (df : Frame) : Except (HandlerError Failure) Frame := do
  let df ← match getRowsFilterExpression transformations with
    | some rowsFilterExpression => asking (spark.whereExpr rowsFilterExpression df)
    | none => pure df
  let df ← match getColumnsFilterExpressions transformations with
    | some columnsFilterExpressions => asking (spark.selectExpr columnsFilterExpressions df)
    | none => pure df
  -- An empty query counts as none.
  match (getSqlQuery transformations).filter (fun sqlQuery => sqlQuery != "") with
  | some sqlQuery => do
      let dfConnection ← getAttribute "df_connection" attributes.dfConnection
      let session ← getAttribute "spark" dfConnection.spark
      asking (session.sql sqlQuery df)
  | none => pure df

end FileHandler

/-- `LocalDFFileHandler.read` -/
def LocalDFFileHandler.read :=
  @FileHandler.transform Frame Failure

/-- `RemoteDFFileHandler.read` -/
def RemoteDFFileHandler.read :=
  @FileHandler.transform Frame Failure

/-- `S3Handler.read`, which differs from that of its base class in how it loads. -/
def S3Handler.read :=
  @FileHandler.transform Frame Failure

/-- `read`, from the loaded data frame on. -/
def FileHandlerClass.read : FileHandlerClass →
    FileHandlerAttributes (Spark Frame Failure) → Spark Frame Failure → List Transformation →
      Frame → Except (HandlerError Failure) Frame
  | ftp | ftps | sftp | samba | webdav => LocalDFFileHandler.read
  | hdfs => RemoteDFFileHandler.read
  | s3 => S3Handler.read

end Transform

end SyncMaster
