import SyncMaster.Library.SqlDialects
import SyncMaster.Library.SqlVariables
import SyncMaster.Worker.FileHandlers

/-!
# Rows Filters as Conditions

A rows filter names a field, an operator and mostly a value. Eight handlers make
a condition of a list of them, each in a copy of the same loop. Seven put the
field between quotes of their database, the one for files puts it down as it is,
and all put the value between single quotes. None of them escapes anything.

What becomes of the text is up to the lexer of the database. `conditionReading`
pairs each handler with the grammar that its conditions are read by, and carries
the proof that the handler writes a filter the way the grammar prints it. Then
the general result about grammars says when the condition means the filters.

The conditions on files, and those of Hive and Iceberg, are read by Spark. It puts
variables in place of references before it reads them, and what it knows is up to
the session, so the condition has to mean the filters in all sessions.

## Main definitions

* `plainForm`, `loweredForm`, `oracleForm`: How the handlers write an operator.
* `ConditionReading`, `conditionReading`: A handler and its grammar.
* `ReadsBack`: The condition is read as exactly the filters.

## Theorems

* `hasValue_of_accepted`: What is accepted has a value where its operator needs
  one.
* `readsBack_iff`: The condition means the filters exactly when every field and
  every value is clean.
-/

namespace SyncMaster

open Sql (Grammar Part Dialect Form textOf)

/-! ## How operators are written -/

/-- `field op` or `field op 'value'`. -/
def plainForm (regexp : String) (type : RowsFilterType) : Form :=
  if type.hasValue then Sql.binary (operators regexp type) else Sql.unary (operators regexp type)

def loweredForm (regexp : String) : RowsFilterType → Form
  | .ilike => Sql.lowered (operators regexp .ilike)
  | .notIlike => Sql.notLowered (operators regexp .notIlike)
  | type => plainForm regexp type

def oracleForm (regexp : String) : RowsFilterType → Form
  | .regexp => Sql.call (operators regexp .regexp)
  | type => loweredForm regexp type

/-- The predicate that a filter stands for. -/
def RowsFilter.predicate (regexp : String) (filter : RowsFilter) : Sql.Predicate where
  operator := operators regexp filter.type
  field := filter.field
  value := filter.value

/-- The words of conditions. -/
def conditionKeywords (more : List String) : List (List Char) :=
  (["AND", "IS", "NULL", "NOT", "LIKE", "ILIKE"] ++ more).map String.toList

/-! ## The texts -/

section Texts

variable {d : Dialect} {quoted : String} {field : List Char} {regexp : String} {type : RowsFilterType}

theorem toList_plainCondition (quoted op value : String) :
    (plainCondition quoted op value).toList =
      quoted.toList ++ ' ' :: (op.toList ++ ' ' :: d.quoted .literal value.toList) := by
  simp [plainCondition, Dialect.quoted, Dialect.quote, String.toList_append]

theorem text_plainForm_value (hquoted : quoted.toList = (Part.name field).text d)
    (htype : type.hasValue = true) (value : String) :
    (plainCondition quoted (operators regexp type) value).toList =
      textOf d ((plainForm regexp type).parts field value.toList) := by
  rw [plainForm, if_pos htype, Sql.text_binary, toList_plainCondition (d := d), hquoted]

theorem text_plainForm (hquoted : quoted.toList = (Part.name field).text d)
    (htype : type.hasValue = false) (value : List Char) :
    (quoted ++ " " ++ operators regexp type).toList =
      textOf d ((plainForm regexp type).parts field value) := by
  rw [plainForm, if_neg (by rw [htype]; exact Bool.false_ne_true), Sql.text_unary,
    String.toList_append, String.toList_append, hquoted, List.append_assoc]
  rfl

theorem toList_loweredCondition (quoted value : String) :
    (loweredCondition quoted "ILIKE" value).toList =
      "LOWER(".toList ++ quoted.toList ++ ") LIKE LOWER(".toList ++
        d.quoted .literal value.toList ++ ")".toList := by
  simp [loweredCondition, Dialect.quoted, Dialect.quote, String.toList_append]

theorem toList_notLoweredCondition (quoted value : String) :
    (loweredCondition quoted "NOT ILIKE" value).toList =
      "NOT LOWER(".toList ++ quoted.toList ++ ") LIKE LOWER(".toList ++
        d.quoted .literal value.toList ++ ")".toList := by
  simp [loweredCondition, Dialect.quoted, Dialect.quote, String.toList_append]

/-- Only two operators are written with `LOWER`. -/
theorem loweredCondition_eq (quoted : String) (hregexp : regexp ≠ "ILIKE" ∧ regexp ≠ "NOT ILIKE")
    (hilike : type ≠ .ilike) (hnotIlike : type ≠ .notIlike) (value : String) :
    loweredCondition quoted (operators regexp type) value =
        plainCondition quoted (operators regexp type) value ∧
      loweredForm regexp type = plainForm regexp type := by
  have hoperator : operators regexp type ≠ "ILIKE" ∧ operators regexp type ≠ "NOT ILIKE" := by
    cases type with
    | ilike => exact absurd rfl hilike
    | notIlike => exact absurd rfl hnotIlike
    | regexp => exact hregexp
    | _ => simp [operators]
  refine ⟨?_, ?_⟩
  · rw [loweredCondition, if_neg hoperator.1, if_neg hoperator.2]
  · cases type with
    | ilike => exact absurd rfl hilike
    | notIlike => exact absurd rfl hnotIlike
    | _ => rfl

theorem text_loweredForm_value (hregexp : regexp ≠ "ILIKE" ∧ regexp ≠ "NOT ILIKE")
    (hquoted : quoted.toList = (Part.name field).text d) (htype : type.hasValue = true)
    (value : String) :
    (loweredCondition quoted (operators regexp type) value).toList =
      textOf d ((loweredForm regexp type).parts field value.toList) := by
  by_cases hilike : type = .ilike
  · subst hilike
    rw [operators, loweredForm, Sql.text_lowered, toList_loweredCondition (d := d), hquoted]
  by_cases hnotIlike : type = .notIlike
  · subst hnotIlike
    rw [operators, loweredForm, Sql.text_notLowered, toList_notLoweredCondition (d := d), hquoted]
  · have heq := loweredCondition_eq quoted hregexp hilike hnotIlike value
    rw [heq.1, heq.2]
    exact text_plainForm_value hquoted htype value

theorem text_oracleForm_value (hquoted : quoted.toList = (Part.name field).text d)
    (htype : type.hasValue = true) (value : String) :
    (oracleCondition quoted (operators "REGEXP_LIKE" type) value).toList =
      textOf d ((oracleForm "REGEXP_LIKE" type).parts field value.toList) := by
  by_cases hregexp : type = .regexp
  · subst hregexp
    rw [operators, oracleForm, Sql.text_call, operators, ← hquoted]
    simp [oracleCondition, Dialect.quoted, Dialect.quote, String.toList_append]
  · have hoperator : operators "REGEXP_LIKE" type ≠ "REGEXP_LIKE" := by
      cases type with
      | regexp => exact absurd rfl hregexp
      | _ => decide
    have hform : oracleForm "REGEXP_LIKE" type = loweredForm "REGEXP_LIKE" type := by
      cases type with
      | regexp => exact absurd rfl hregexp
      | _ => rfl
    rw [oracleCondition, if_neg hoperator, hform]
    exact text_loweredForm_value (by decide) hquoted htype value

theorem toList_quoteDouble (hquote : d.quote .identifier = '"') (hplain : d.plainIdentifiers = false)
    (field : String) : (quoteDouble field).toList = (Part.name field.toList).text d := by
  rw [Part.text, if_neg (by rw [hplain]; exact Bool.false_ne_true), Dialect.quoted, hquote]
  simp [quoteDouble, String.toList_append]

theorem toList_quoteBacktick (hquote : d.quote .identifier = '`')
    (hplain : d.plainIdentifiers = false) (field : String) :
    (quoteBacktick field).toList = (Part.name field.toList).text d := by
  rw [Part.text, if_neg (by rw [hplain]; exact Bool.false_ne_true), Dialect.quoted, hquote]
  simp [quoteBacktick, String.toList_append]

end Texts

/-! ## Handlers and their grammars -/

/-- A handler with the grammar that its conditions are read by. It writes a filter
    the way the grammar prints it. -/
structure ConditionReading where
  /-- `_make_rows_filter_expression` -/
  make : List RowsFilter → Option String
  condition : RowsFilter → String
  regexp : String
  form : RowsFilterType → Form
  grammar : Grammar
  /-- Whether references to variables are replaced before the condition is read. -/
  substitutes : Bool
  make_eq : ∀ filters, make filters =
    let expression := " AND ".intercalate (filters.map condition)
    if expression = "" then none else some expression
  form_mem : ∀ type, form type ∈ grammar.forms
  operator_form : ∀ type, (form type).operator = operators regexp type
  hasValue_form : ∀ type, (form type).hasValue = type.hasValue
  spaced : ∀ form ∈ grammar.forms, Sql.spaced form.pattern = true
  toList_condition : ∀ filter : RowsFilter, filter.value.isSome = filter.type.hasValue →
    (condition filter).toList = textOf grammar.dialect
      ((form filter.type).parts filter.field.toList (filter.predicate regexp).literal)

/-- Filters without a value are written alike everywhere. -/
theorem toList_match {d : Dialect} {quoted : String} {regexp : String} {form : RowsFilterType → Form}
    {condition : String → String → String → String} {filter : RowsFilter}
    (hquoted : quoted.toList = (Part.name filter.field.toList).text d)
    (hform : filter.type.hasValue = false → form filter.type = plainForm regexp filter.type)
    (hvalue : filter.type.hasValue = true → ∀ value,
      (condition quoted (operators regexp filter.type) value).toList =
        textOf d ((form filter.type).parts filter.field.toList value.toList))
    (h : filter.value.isSome = filter.type.hasValue) :
    (match filter.value with
      | some value => condition quoted (operators regexp filter.type) value
      | none => quoted ++ " " ++ operators regexp filter.type).toList =
      textOf d ((form filter.type).parts filter.field.toList (filter.predicate regexp).literal) := by
  rw [Sql.Predicate.literal, RowsFilter.predicate]
  cases hsome : filter.value with
  | some value =>
      rw [hsome] at h
      exact hvalue h.symm value
  | none =>
      rw [hsome] at h
      rw [hform h.symm]
      exact text_plainForm hquoted h.symm _

def postgresGrammar : Grammar where
  dialect := Sql.postgres (conditionKeywords [])
  forms := RowsFilterType.all.map (plainForm "~")
  conjunction_mem := by decide +kernel
  misread _ := false
  fits := by decide +kernel
  operators_distinct := by decide +kernel
  tokens_distinct := by decide +kernel

def clickhouseGrammar : Grammar where
  dialect := Sql.clickhouse (conditionKeywords ["REGEXP"])
  forms := RowsFilterType.all.map (plainForm "REGEXP")
  conjunction_mem := by decide +kernel
  misread _ := false
  fits := by decide +kernel
  operators_distinct := by decide +kernel
  tokens_distinct := by decide +kernel

def oracleGrammar : Grammar where
  dialect := Sql.oracle (conditionKeywords ["LOWER", "REGEXP_LIKE"])
  forms := RowsFilterType.all.map (oracleForm "REGEXP_LIKE")
  conjunction_mem := by decide +kernel
  misread _ := false
  fits := by decide +kernel
  operators_distinct := by decide +kernel
  tokens_distinct := by decide +kernel

/-- A regular expression is matched with `LIKE` here, which is no operator of its
    own. -/
def mssqlGrammar : Grammar where
  dialect := Sql.transact (conditionKeywords ["LOWER"])
  forms := (RowsFilterType.all.erase .regexp).map (loweredForm "LIKE")
  conjunction_mem := by decide +kernel
  misread _ := false
  fits := by decide +kernel
  operators_distinct := by decide +kernel
  tokens_distinct := by decide +kernel

def mysqlGrammar : Grammar where
  dialect := Sql.mysql (conditionKeywords ["LOWER", "RLIKE"])
  forms := RowsFilterType.all.map (loweredForm "RLIKE")
  conjunction_mem := by decide +kernel
  misread _ := false
  fits := by decide +kernel
  operators_distinct := by decide +kernel
  tokens_distinct := by decide +kernel

/-- Hive and Iceberg are read by Spark. -/
def sparkGrammar : Grammar where
  dialect := Sql.spark (conditionKeywords ["LOWER", "RLIKE"])
  forms := RowsFilterType.all.map (loweredForm "RLIKE")
  conjunction_mem := by decide +kernel
  misread _ := false
  fits := by decide +kernel
  operators_distinct := by decide +kernel
  tokens_distinct := by decide +kernel

/-- So are files, and their fields have no quotes. A condition that ends with
    `NOT IS NULL` is the negation of a column `IS`, under the name `NULL`. -/
def fileGrammar : Grammar where
  dialect := Sql.sparkPlain (conditionKeywords ["RLIKE"])
  forms := RowsFilterType.all.map (plainForm "RLIKE")
  conjunction_mem := by decide +kernel
  misread predicate :=
    Sql.upper predicate.field.toList == "NOT".toList && predicate.operator == "IS NULL"
  fits := by decide +kernel
  operators_distinct := by decide +kernel
  tokens_distinct := by decide +kernel

section Forms

variable {regexp : String} {type : RowsFilterType}

theorem RowsFilterType.mem_all (type : RowsFilterType) : type ∈ RowsFilterType.all := by
  cases type <;> decide

theorem operator_plainForm : (plainForm regexp type).operator = operators regexp type := by
  rw [plainForm]
  split <;> rfl

theorem operator_loweredForm : (loweredForm regexp type).operator = operators regexp type := by
  cases type <;> rfl

theorem operator_oracleForm : (oracleForm regexp type).operator = operators regexp type := by
  cases type <;> rfl

theorem plainForm_of_not_hasValue (h : type.hasValue = false) :
    loweredForm regexp type = plainForm regexp type ∧
      oracleForm regexp type = plainForm regexp type := by
  cases type with
  | isNull => exact ⟨rfl, rfl⟩
  | isNotNull => exact ⟨rfl, rfl⟩
  | _ => cases h

end Forms

/-- A database handler with a grammar, from what its type overrides. -/
def DBHandlerClass.reading (cls : DBHandlerClass) (form : RowsFilterType → Form) (grammar : Grammar)
    (substitutes : Bool) (spaced : ∀ form ∈ grammar.forms, Sql.spaced form.pattern = true)
    (form_mem : ∀ type, form type ∈ grammar.forms)
    (operator_form : ∀ type, (form type).operator = operators cls.regexp type)
    (hasValue_form : ∀ type, (form type).hasValue = type.hasValue)
    (plain : ∀ type, type.hasValue = false → form type = plainForm cls.regexp type)
    (toList_quoteField : ∀ field,
      (cls.quoteField field).toList = (Part.name field.toList).text grammar.dialect)
    (toList_value : ∀ field type, type.hasValue = true → ∀ value,
      (cls.condition (cls.quoteField field) (operators cls.regexp type) value).toList =
        textOf grammar.dialect ((form type).parts field.toList value.toList)) :
    ConditionReading where
  make := cls.makeRowsFilterExpression
  condition := cls.rowsFilterCondition
  regexp := cls.regexp
  form := form
  grammar := grammar
  substitutes := substitutes
  make_eq _ := rfl
  spaced := spaced
  form_mem := form_mem
  operator_form := operator_form
  hasValue_form := hasValue_form
  toList_condition filter h :=
    toList_match (toList_quoteField filter.field) (plain filter.type)
      (toList_value filter.field filter.type) h

def postgresReading : ConditionReading :=
  postgresHandler.reading (plainForm "~") postgresGrammar false
    (by decide +kernel) (fun type => List.mem_map_of_mem type.mem_all) (fun _ => operator_plainForm)
    (fun type => by cases type <;> decide) (fun _ _ => rfl) (toList_quoteDouble rfl rfl)
    (fun field _ htype => text_plainForm_value (toList_quoteDouble rfl rfl field) htype)

def clickhouseReading : ConditionReading :=
  clickhouseHandler.reading (plainForm "REGEXP") clickhouseGrammar false
    (by decide +kernel) (fun type => List.mem_map_of_mem type.mem_all) (fun _ => operator_plainForm)
    (fun type => by cases type <;> decide) (fun _ _ => rfl) (toList_quoteDouble rfl rfl)
    (fun field _ htype => text_plainForm_value (toList_quoteDouble rfl rfl field) htype)

def oracleReading : ConditionReading :=
  oracleHandler.reading (oracleForm "REGEXP_LIKE") oracleGrammar false
    (by decide +kernel) (fun type => List.mem_map_of_mem type.mem_all) (fun _ => operator_oracleForm)
    (fun type => by cases type <;> decide) (fun _ h => (plainForm_of_not_hasValue h).2)
    (toList_quoteDouble rfl rfl)
    (fun field _ htype => text_oracleForm_value (toList_quoteDouble rfl rfl field) htype)

def mssqlReading : ConditionReading :=
  mssqlHandler.reading (loweredForm "LIKE") mssqlGrammar false
    (by decide +kernel) (fun type => by cases type <;> decide) (fun _ => operator_loweredForm)
    (fun type => by cases type <;> decide) (fun _ h => (plainForm_of_not_hasValue h).1)
    (toList_quoteDouble rfl rfl)
    (fun field _ htype =>
      text_loweredForm_value (by decide) (toList_quoteDouble rfl rfl field) htype)

def mysqlReading : ConditionReading :=
  mysqlHandler.reading (loweredForm "RLIKE") mysqlGrammar false
    (by decide +kernel) (fun type => List.mem_map_of_mem type.mem_all) (fun _ => operator_loweredForm)
    (fun type => by cases type <;> decide) (fun _ h => (plainForm_of_not_hasValue h).1)
    (toList_quoteBacktick rfl rfl)
    (fun field _ htype =>
      text_loweredForm_value (by decide) (toList_quoteBacktick rfl rfl field) htype)

def hiveReading : ConditionReading :=
  hiveHandler.reading (loweredForm "RLIKE") sparkGrammar true
    (by decide +kernel) (fun type => List.mem_map_of_mem type.mem_all) (fun _ => operator_loweredForm)
    (fun type => by cases type <;> decide) (fun _ h => (plainForm_of_not_hasValue h).1)
    (toList_quoteBacktick rfl rfl)
    (fun field _ htype =>
      text_loweredForm_value (by decide) (toList_quoteBacktick rfl rfl field) htype)

def icebergReading : ConditionReading :=
  icebergHandler.reading (loweredForm "RLIKE") sparkGrammar true
    (by decide +kernel) (fun type => List.mem_map_of_mem type.mem_all) (fun _ => operator_loweredForm)
    (fun type => by cases type <;> decide) (fun _ h => (plainForm_of_not_hasValue h).1)
    (toList_quoteBacktick rfl rfl)
    (fun field _ htype =>
      text_loweredForm_value (by decide) (toList_quoteBacktick rfl rfl field) htype)

def fileReading : ConditionReading where
  make := FileHandler.makeRowsFilterExpression
  condition := FileHandler.rowsFilterCondition
  regexp := "RLIKE"
  form := plainForm "RLIKE"
  grammar := fileGrammar
  substitutes := true
  make_eq _ := rfl
  spaced := by decide +kernel
  form_mem type := List.mem_map_of_mem type.mem_all
  operator_form _ := operator_plainForm
  hasValue_form type := by cases type <;> decide
  toList_condition filter h :=
    toList_match (d := fileGrammar.dialect) rfl (fun _ => rfl)
      (fun htype => text_plainForm_value rfl htype) h

/-- The handler of a connection, with the grammar of what it asks. -/
def conditionReading : ConnectionType → ConditionReading
  | .postgres => postgresReading
  | .clickhouse => clickhouseReading
  | .oracle => oracleReading
  | .mssql => mssqlReading
  | .mysql => mysqlReading
  | .hive => hiveReading
  | .iceberg => icebergReading
  | .s3 | .hdfs | .sftp | .ftp | .ftps | .webdav | .samba => fileReading

/-! ## What the condition means -/

namespace ConditionReading

variable (reading : ConditionReading)

/-- The text that is read, where these variables are known. -/
def prepared (known : List Char → Option (List Char)) (text : List Char) : List Char :=
  if reading.substitutes then Sql.substitute known 0 text else text

/-- The predicates of a condition. Without a condition there are none. -/
def read (known : List Char → Option (List Char)) (expression : Option String) :
    Option (List Sql.Predicate) :=
  match expression with
  | some text => reading.grammar.parse (reading.prepared known text.toList)
  | none => some []

/-- Nothing in the filter needs to be escaped. -/
def Plain (filter : RowsFilter) : Prop :=
  reading.grammar.Clean (filter.predicate reading.regexp) ∧
    (reading.substitutes = true → (filter.predicate reading.regexp).refers = false)

variable {reading} {filter : RowsFilter} {filters : List RowsFilter}

theorem sayable (h : filter.value.isSome = filter.type.hasValue) :
    reading.grammar.Sayable (filter.predicate reading.regexp) :=
  ⟨reading.form filter.type, reading.form_mem filter.type, reading.operator_form filter.type,
    (reading.hasValue_form filter.type).trans h.symm⟩

/-- The text of a filter is what the grammar prints. -/
theorem print_predicate (h : filter.value.isSome = filter.type.hasValue) :
    reading.grammar.print (filter.predicate reading.regexp) = (reading.condition filter).toList := by
  have hform := Sql.Grammar.formOf_eq_some_iff.mpr
    ⟨reading.form_mem filter.type, reading.operator_form filter.type⟩
  have hfound : reading.grammar.formOf (filter.predicate reading.regexp).operator =
      some (reading.form filter.type) := hform
  rw [reading.toList_condition filter h, Sql.Grammar.print, hfound]
  rfl

theorem printAll_predicates (h : ∀ filter ∈ filters, filter.value.isSome = filter.type.hasValue) :
    reading.grammar.printAll (filters.map (RowsFilter.predicate reading.regexp)) =
      (" AND ".intercalate (filters.map reading.condition)).toList := by
  rw [String.toList_intercalate, Sql.Grammar.printAll, List.map_map, List.map_map]
  refine congrArg (List.intercalate _) (List.map_congr_left (fun filter hfilter => ?_))
  exact print_predicate (h filter hfilter)

/-- What is written for filters is read back under all variables exactly when nothing
    in them needs to be escaped, and the last is not read in another way. -/
theorem parse_prepared_iff (hne : filters ≠ [])
    (h : ∀ filter ∈ filters, filter.value.isSome = filter.type.hasValue) :
    (∀ known, reading.grammar.parse (reading.prepared known (reading.grammar.printAll
        (filters.map (RowsFilter.predicate reading.regexp)))) =
        some (filters.map (RowsFilter.predicate reading.regexp))) ↔
      (∀ filter ∈ filters, reading.Plain filter) ∧
        reading.grammar.endsMisread (filters.map (RowsFilter.predicate reading.regexp)) = false := by
  have hsayable : ∀ predicate ∈ filters.map (RowsFilter.predicate reading.regexp),
      reading.grammar.Sayable predicate :=
    List.forall_mem_map.mpr (fun filter hfilter => sayable (h filter hfilter))
  have hnePredicates : filters.map (RowsFilter.predicate reading.regexp) ≠ [] :=
    fun hnil => hne (List.map_eq_nil_iff.mp hnil)
  unfold prepared Plain
  by_cases hsubstitutes : reading.substitutes = true
  · simp only [hsubstitutes, if_true, forall_true_left]
    rw [Sql.Grammar.parse_substitute_iff reading.spaced hnePredicates hsayable,
      List.forall_mem_map, List.forall_mem_map, and_right_comm, ← forall₂_and]
  · simp only [hsubstitutes, Bool.false_eq_true, if_false, false_implies, and_true, forall_const]
    rw [Sql.Grammar.parse_printAll_iff hnePredicates hsayable, List.forall_mem_map]

/-- The condition is read as the filters under just these circumstances. -/
theorem read_make_iff (h : ∀ filter ∈ filters, filter.value.isSome = filter.type.hasValue) :
    (∀ known, reading.read known (reading.make filters) =
        some (filters.map (RowsFilter.predicate reading.regexp))) ↔
      (∀ filter ∈ filters, reading.Plain filter) ∧
        reading.grammar.endsMisread (filters.map (RowsFilter.predicate reading.regexp)) = false := by
  cases filters with
  | nil =>
      rw [reading.make_eq]
      exact ⟨fun _ => ⟨List.forall_mem_nil _, rfl⟩, fun _ _ => rfl⟩
  | cons filter filters =>
      have hne : filter :: filters ≠ [] := List.cons_ne_nil _ _
      have hread := @parse_prepared_iff reading _ hne h
      rw [printAll_predicates h] at hread
      rw [← hread, reading.make_eq]
      by_cases hempty : " AND ".intercalate ((filter :: filters).map reading.condition) = ""
      · -- An empty text has no predicates, and neither has no text.
        simp only [hempty, if_true] at hread ⊢
        refine iff_of_false (fun hall => ?_) (fun hparse => ?_)
        · exact absurd (Option.some.inj (hall Sql.emptied)).symm (List.cons_ne_nil _ _)
        · have hplain := (hread.mp hparse).1
          have hprint := @printAll_predicates reading _ h
          rw [hempty] at hprint
          refine absurd hprint (Sql.Grammar.printAll_ne_nil (List.cons_ne_nil _ _) ?_ ?_)
          · exact List.forall_mem_map.mpr (fun filter hfilter => sayable (h filter hfilter))
          · exact List.forall_mem_map.mpr (fun filter hfilter => (hplain filter hfilter).1)
      · simp only [hempty, if_false]
        exact Iff.rfl

end ConditionReading

theorem hasValue_of_accepted {filter : RowsFilter} (h : ∃ j, RowsFilter.validate j = .ok filter) :
    filter.value.isSome = filter.type.hasValue := by
  rcases h with ⟨j, hj⟩
  unfold RowsFilter.validate tagged at hj
  rcases Validated.andThen_eq_ok.mp hj with ⟨d, _, h⟩
  rcases Validated.andThen_eq_ok.mp h with ⟨type, _, h⟩
  rcases Validated.seq_eq_ok.mp h with ⟨make, value, hmake, hvalue, rfl⟩
  rcases (Validated.map_eq_ok _).mp hmake with ⟨field, _, rfl⟩
  by_cases htype : type.hasValue = true
  · rw [if_pos htype] at hvalue
    rcases (Validated.map_eq_ok _).mp hvalue with ⟨text, _, rfl⟩
    exact htype.symm
  · rw [if_neg htype] at hvalue
    cases hvalue
    exact (Bool.eq_false_iff.mpr htype).symm

/-- The condition of the handler is read as exactly the filters, with their fields
    and their values, whatever variables the reader knows. -/
def ReadsBack (type : ConnectionType) (filters : List RowsFilter) : Prop :=
  ∀ known, (conditionReading type).read known ((conditionReading type).make filters) =
    some (filters.map (RowsFilter.predicate (conditionReading type).regexp))

/-- The condition means the filters exactly when every field and every value is read
    as it is: no quote of its own, no backslash that the database replaces, nothing that
    it cuts off and, before Spark, no reference to a variable. -/
theorem readsBack_iff (type : ConnectionType) (filters : List RowsFilter)
    (h : ∀ filter ∈ filters, ∃ j, RowsFilter.validate j = .ok filter) :
    ReadsBack type filters ↔
      (∀ filter ∈ filters,
        ((conditionReading type).grammar.dialect.CleanName filter.field.toList
            (Sql.firstWord (operators (conditionReading type).regexp filter.type)) ∧
          ∀ value ∈ filter.value,
            (conditionReading type).grammar.dialect.CleanText .literal value.toList) ∧
        ((conditionReading type).substitutes = true →
          (filter.predicate (conditionReading type).regexp).refers = false)) ∧
      (conditionReading type).grammar.endsMisread
        (filters.map (RowsFilter.predicate (conditionReading type).regexp)) = false :=
  ConditionReading.read_make_iff (fun filter hfilter => hasValue_of_accepted (h filter hfilter))

def sampleFilters : List RowsFilter :=
  [⟨.equal, "name", some "Ann"⟩, ⟨.isNull, "deleted_at", none⟩]

/-- A name and a missing date are read as they are. -/
theorem readsBack_ann : ReadsBack .postgres sampleFilters := by
  refine (readsBack_iff .postgres sampleFilters ?_).mpr (by decide)
  refine List.forall_mem_cons.mpr ⟨?_, List.forall_mem_singleton.mpr ?_⟩
  · exact ⟨RowsFilter.modelDump ⟨.equal, "name", some "Ann"⟩, rfl⟩
  · exact ⟨RowsFilter.modelDump ⟨.isNull, "deleted_at", none⟩, rfl⟩

/-- A value can add a predicate of its own. -/
example : (conditionReading .postgres).read Sql.emptied ((conditionReading .postgres).make
    [⟨.equal, "name", some "x' AND \"id\" > '0"⟩]) =
      some [⟨"=", "name", some "x"⟩, ⟨">", "id", some "0"⟩] := by
  decide

/-- A name with an apostrophe ends the literal. -/
theorem not_readsBack_obrien :
    (∃ j, RowsFilter.validate j = .ok ⟨.equal, "name", some "O'Brien"⟩) ∧
      ¬ ReadsBack .postgres [⟨.equal, "name", some "O'Brien"⟩] := by
  refine ⟨⟨RowsFilter.modelDump ⟨.equal, "name", some "O'Brien"⟩, ?_⟩, fun h => ?_⟩
  · rfl
  · exact absurd (h Sql.emptied) (by decide)

end SyncMaster
