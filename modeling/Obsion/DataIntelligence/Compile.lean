import Obsion.Base.Json
import Obsion.DataIntelligence.SqlPolicy

/-! # The compiler of governed queries

`DataIntelligenceService.compile`: a logical plan is resolved in the catalog and becomes the
text of one statement, with a `WHERE` clause whose values are parameters. -/

namespace Obsion.DataIntelligence

/-! ## The catalog -/

structure DataSource where
  id : Uuid
  organizationId : Uuid
  dialect : String
  connectorId : Uuid
  readOnly : Bool
  queryPolicy : Json

structure DataTable where
  id : Uuid
  organizationId : Uuid
  dataSourceId : Uuid
  schemaName : String
  tableName : String
  rowPolicy : Json

structure DataColumn where
  organizationId : Uuid
  tableId : Uuid
  name : String
  maskPolicy : Json

structure Metric where
  id : Uuid
  organizationId : Uuid
  name : String
  displayName : String
  version : Int
  expression : String
  filters : Fields
  timeColumn : String
  sourceTableId : Uuid
  owner : String
  validated : Bool

structure Dimension where
  id : Uuid
  organizationId : Uuid
  name : String
  version : Int
  expression : String
  sourceTableId : Uuid
  deriving DecidableEq

structure Catalog where
  sources : List DataSource
  tables : List DataTable
  columns : List DataColumn
  metrics : List Metric
  dimensions : List Dimension

structure Settings where
  sqlDefaultLimit : Int
  sqlMaxLimit : Int
  sqlScanBudget : Int

structure Moment where
  instant : Int
  aware : Bool
  deriving DecidableEq

structure Library where
  sqlglot : Sqlglot
  /-- `UUID(text)`; `none` is a `ValueError` -/
  uuid : String → Option Uuid
  /-- `datetime.fromisoformat(text)`; `none` is a `ValueError` -/
  fromisoformat : String → Option Moment

inductive CompileError
  | rejected (error : SqlError)
  | notFound (resource : String) (id : Uuid)
  /-- an exception that is no error of the application -/
  | raised

def CompileError.of (code message : String) : CompileError :=
  .rejected { code := code, message := message }

def planInvalid : CompileError := .of "logical_plan_invalid" "Logical query plan is invalid"

structure Request where
  metricId : Uuid
  dimensionIds : List Uuid
  start : Moment
  stop : Moment

/-- `UUID(value)`, where a value without `replace` is no `TypeError`. -/
def planUuid (library : Library) : Json → Except CompileError Uuid
  | .str text => match library.uuid text with
      | some id => .ok id
      | none => .error planInvalid
  | .null => .error planInvalid
  | _ => .error .raised

def iterated : Json → Option (List Json)
  | .arr values => some values
  | .obj fields => some (fields.map fun field => .str field.1)
  | .str text => some (text.toList.map fun char => .str (String.singleton char))
  | _ => none

/-- `datetime.fromisoformat(plan["time_range"][key])` -/
def planMoment (library : Library) (plan : Fields) (key : String) : Except CompileError Moment :=
  match plan.get? "time_range" with
  | some (.obj range) =>
    match (Fields.get? range key).bind Json.str? with
    | some text =>
      match library.fromisoformat text with
      | some found => .ok found
      | none => .error planInvalid
    | none => .error planInvalid
  | _ => .error planInvalid

def readPlan (library : Library) (plan : Fields) : Except CompileError Request := do
  let metric ← match plan.get? "metric_id" with
    | some value => planUuid library value
    | none => .error planInvalid
  let dimensions ← match iterated ((plan.get? "dimension_ids").getD (.arr [])) with
    | some values => values.mapM (planUuid library)
    | none => .error planInvalid
  let start ← planMoment library plan "start"
  let stop ← planMoment library plan "end"
  if start.aware ≠ stop.aware then .error .raised
  else if stop.instant ≤ start.instant then
    .error (.of "time_range_invalid" "Query start must be before end")
  else .ok ⟨metric, dimensions, start, stop⟩

def resolveMetric (catalog : Catalog) (principal : Principal) (id : Uuid) :
    Except CompileError (Metric × DataTable × DataSource) :=
  let found := do
    let metric ← catalog.metrics.find? fun metric =>
      metric.id = id ∧ metric.organizationId = principal.organizationId ∧ metric.validated
    let table ← catalog.tables.find? fun table =>
      table.id = metric.sourceTableId ∧ table.organizationId = principal.organizationId
    let source ← catalog.sources.find? fun source =>
      source.id = table.dataSourceId ∧ source.organizationId = principal.organizationId ∧ source.readOnly
    some (metric, table, source)
  match found with
  | some rows => .ok rows
  | none => .error (.notFound "Validated metric" id)

def resolveDimensions (catalog : Catalog) (principal : Principal) (table : DataTable) (ids : List Uuid) :
    Except CompileError (List Dimension) :=
  if ids.dedup.length ≠ ids.length then
    .error (.of "dimension_scope_invalid" "A logical plan cannot repeat a dimension")
  else
    let found := catalog.dimensions.filter fun dimension =>
      dimension.organizationId = principal.organizationId ∧ dimension.id ∈ ids ∧
        dimension.sourceTableId = table.id
    if found.length ≠ ids.dedup.length then
      .error (.of "dimension_scope_invalid" "Every dimension must belong to the metric source table")
    else
      match ids.mapM fun id => found.find? fun dimension => dimension.id = id with
      | some dimensions => .ok dimensions
      | none => .error .raised

def columnsOfTable (catalog : Catalog) (principal : Principal) (table : DataTable) : List DataColumn :=
  catalog.columns.filter fun column =>
    column.organizationId = principal.organizationId ∧ column.tableId = table.id

/-- `{key: value for key, value in pairs}` -/
def dictOf (pairs : Fields) : Fields := pairs.foldl (fun dict pair => dict.set pair.1 pair.2) []

def DataColumn.hasMask (column : DataColumn) : Bool :=
  match column.maskPolicy with
  | .obj fields => !fields.isEmpty
  | _ => false

def columnMasks (columns : List DataColumn) : Fields :=
  dictOf ((columns.filter DataColumn.hasMask).map fun column => (column.name, column.maskPolicy))

/-! ## The conditions -/

inductive Parameter
  | moment (value : Moment)
  | value (value : Json)

inductive Predicate
  | compare (column operator : String) (number : Nat)
  | among (column : String) (numbers : List Nat)

def quotedName (name : String) : String := "\"" ++ name ++ "\""

def placeholder (number : Nat) : String := "$" ++ toString number

def Predicate.text : Predicate → String
  | .compare column operator number => quotedName column ++ " " ++ operator ++ " " ++ placeholder number
  | .among column numbers => quotedName column ++ " IN (" ++ ", ".intercalate (numbers.map placeholder) ++ ")"

structure Clauses where
  predicates : List Predicate
  parameters : List Parameter
  parameterTypes : List String

/-- `sorted(fields.items())` of a `dict` -/
def sortedItems (fields : Fields) : Fields := fields.insertionSort fun left right => left.1 ≤ right.1

def Clauses.compare (clauses : Clauses) (column operator : String) (value : Json) : Clauses where
  predicates := clauses.predicates ++ [.compare column operator (clauses.parameters.length + 1)]
  parameters := clauses.parameters ++ [.value value]
  parameterTypes := clauses.parameterTypes ++ ["scalar"]

def timeClauses (metric : Metric) (start stop : Moment) : Clauses where
  predicates := [.compare metric.timeColumn ">=" 1, .compare metric.timeColumn "<" 2]
  parameters := [.moment start, .moment stop]
  parameterTypes := ["datetime", "datetime"]

def appendMetricFilter (allowed : List String) (clauses : Clauses) (entry : String × Json) :
    Except CompileError Clauses :=
  if entry.1 ∉ allowed then
    .error (.of "metric_filter_invalid" "Metric definition uses an unknown column")
  else .ok (clauses.compare entry.1 "=" entry.2)

def filterOperators : List String := ["=", "!=", ">", ">=", "<", "<="]

def filterInvalid : CompileError := .of "query_filter_invalid" "Query filter is not allowed"

/-- `str(item.get("operator", "=")).upper()`; the text of a value that is no text is not
among the operators. -/
def operatorOf (item : Fields) : String :=
  match item.get? "operator" with
  | none => "="
  | some (.str text) => upper text
  | some _ => ""

def appendFilter (allowed : List String) (clauses : Clauses) (item : Json) : Except CompileError Clauses :=
  match item with
  | .obj fields =>
    match (Fields.get? fields "column").getD .null with
    | .str column =>
      if column ∉ allowed ∨ operatorOf fields ∉ filterOperators then .error filterInvalid
      else .ok (clauses.compare column (operatorOf fields) ((Fields.get? fields "value").getD .null))
    | .arr _ => .error .raised
    | .obj _ => .error .raised
    | _ => .error filterInvalid
  | _ => .error filterInvalid

def rowPolicyInvalid (message : String) : CompileError := .of "sql_row_policy_invalid" message

def reservedKeys : List String := ["column", "allowed_values", "filters", "description"]

/-- `filters_value`; `none` where it is no `dict`.  A list or an object is no key of a `dict`,
and another key that is no text is not among the columns. -/
def policyEntries (policy : Fields) : Except CompileError (Option Fields) :=
  match policy.get? "column", policy.get? "allowed_values" with
  | some column, some values =>
    match column with
    | .str name => .ok (some [(name, values)])
    | .arr _ => .error .raised
    | .obj _ => .error .raised
    | _ => .error (rowPolicyInvalid "Row policy references an unknown column")
  | _, _ => .ok ((policy.get? "filters").getD (.obj policy)).fields?

def rowValues : Json → List Json
  | .arr values => values
  | value => [value]

def Clauses.among (clauses : Clauses) (column : String) (values : List Json) : Clauses where
  predicates := clauses.predicates ++
    [if values.length = 1 then .compare column "=" (clauses.parameters.length + 1)
      else .among column ((List.range values.length).map fun index => clauses.parameters.length + 1 + index)]
  parameters := clauses.parameters ++ values.map .value
  parameterTypes := clauses.parameterTypes ++ values.map fun _ => "scalar"

def appendRow (allowed : List String) (clauses : Clauses) (entry : String × Json) :
    Except CompileError Clauses :=
  if entry.1 ∈ reservedKeys then .ok clauses
  else if entry.1 ∉ allowed then
    .error (rowPolicyInvalid "Row policy references an unknown column")
  else if rowValues entry.2 = [] then
    .error (rowPolicyInvalid "Row policy values cannot be empty")
  else .ok (clauses.among entry.1 (rowValues entry.2))

def appendRowPolicy (policy : Json) (allowed : List String) (clauses : Clauses) : Except CompileError Clauses :=
  match policy with
  | .obj [] => .ok clauses
  | .obj fields => do
      match ← policyEntries fields with
      | none => .ok clauses
      | some entries => (sortedItems entries).foldlM (appendRow allowed) clauses
  | _ => .ok clauses

def selectPart (expression name : String) : String := expression ++ " AS " ++ quotedName name

def queryText (metric : Metric) (table : DataTable) (dimensions : List Dimension)
    (predicates : List Predicate) : String :=
  let parts := dimensions.map (fun dimension => selectPart dimension.expression dimension.name) ++
    [selectPart metric.expression metric.name]
  let sql := "SELECT " ++ ", ".intercalate parts ++ " FROM " ++ quotedName table.schemaName ++ "." ++
    quotedName table.tableName ++ " WHERE " ++ " AND ".intercalate (predicates.map Predicate.text)
  let groupBy := ", ".intercalate (dimensions.map Dimension.expression)
  if groupBy = "" then sql else sql ++ " GROUP BY " ++ groupBy

def allowedTable (sqlglot : Sqlglot) (table : DataTable) : String :=
  sqlglot.lower (table.schemaName ++ "." ++ table.tableName)

def queryPolicy (library : Library) (settings : Settings) (table : DataTable) (source : DataSource)
    (columns : List DataColumn) : Policy :=
  let configured := (source.queryPolicy.fields?).getD []
  let maxLimit := match configured.get? "max_rows" with
    | some (.int rows) => if 0 < rows then min settings.sqlMaxLimit rows else settings.sqlMaxLimit
    | _ => settings.sqlMaxLimit
  { defaultLimit := min settings.sqlDefaultLimit maxLimit, maxLimit := maxLimit
    dialect := source.dialect, allowedTables := some [allowedTable library.sqlglot table]
    allowedColumns := some (columns.map DataColumn.name), requireLimit := false
    scanBudget := match configured.get? "scan_budget" with
      | some (.int budget) => some budget
      | _ => some settings.sqlScanBudget }

structure CompiledQuery where
  sql : String
  parameters : List Parameter
  parameterTypes : List String
  metric : Metric
  dimensions : List Dimension
  dataSource : DataSource
  table : DataTable
  validation : SqlValidationResult
  columnMasks : Fields

def baseClauses (plan : Fields) (metric : Metric) (start stop : Moment) (allowed : List String) :
    Except CompileError Clauses := do
  let clauses ← (sortedItems metric.filters).foldlM (appendMetricFilter allowed) (timeClauses metric start stop)
  match iterated ((plan.get? "filters").getD (.arr [])) with
  | some items => items.foldlM (appendFilter allowed) clauses
  | none => .error .raised

def compile (library : Library) (settings : Settings) (catalog : Catalog) (principal : Principal)
    (plan : Fields) : Except CompileError CompiledQuery := do
  let request ← readPlan library plan
  let (metric, table, source) ← resolveMetric catalog principal request.metricId
  let dimensions ← resolveDimensions catalog principal table request.dimensionIds
  let columns := columnsOfTable catalog principal table
  let base ← baseClauses plan metric request.start request.stop (columns.map DataColumn.name)
  let clauses ← appendRowPolicy table.rowPolicy (columns.map DataColumn.name) base
  let validation ← (validate library.sqlglot (queryPolicy library settings table source columns)
    (queryText metric table dimensions clauses.predicates)).mapError .rejected
  .ok
    { sql := validation.normalizedSql, parameters := clauses.parameters
      parameterTypes := clauses.parameterTypes, metric := metric, dimensions := dimensions
      dataSource := source, table := table, validation := validation
      columnMasks := columnMasks columns }

end Obsion.DataIntelligence
