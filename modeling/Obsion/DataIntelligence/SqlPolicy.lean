import Obsion.Base.Python
import Obsion.Lib.Labelled

/-! # The policy of governed SQL

`SqlPolicyValidator.validate`: the statement kind is split off the text, the rest is parsed,
and the tree is checked and gets its limit. -/

namespace Obsion.DataIntelligence

open Obsion.Lib

/-- `sqlglot`, and the letters of Python's Unicode database. -/
structure Sqlglot where
  /-- `sqlglot.parse`; `none` is a `ParseError` -/
  parse : String → String → Option (List (Option Tree))
  /-- `getattr(exp, name, None) is not None` -/
  defined : String → Bool
  /-- `isinstance(node, exp.Name)`, by the names of the classes -/
  isInstance : String → String → Bool
  /-- `sql_name()` of a class of functions -/
  sqlName : String → String
  /-- `node.name` -/
  name : Tree → String
  /-- `node.text(key)` -/
  text : Tree → String → String
  /-- `int(literal.this)` of a literal with `is_int` -/
  integer : Tree → Option Int
  /-- `expression.sql(dialect=dialect, pretty=True)` -/
  sql : Tree → String → String
  /-- `str.lower` -/
  lower : String → String
  /-- `re.match(r"\w", char)` -/
  isWord : Char → Bool

def isA (sqlglot : Sqlglot) (tree : Tree) (name : String) : Bool := sqlglot.isInstance tree.kind name

def blockedFunctions : List String :=
  ["dblink", "dblink_connect", "lo_export", "lo_import", "pg_read_binary_file", "pg_read_file",
    "pg_sleep", "pg_terminate_backend", "pg_cancel_backend"]

def allowedFunctions : List String :=
  ["abs", "avg", "ceil", "coalesce", "count", "date_add", "date_diff", "date_format", "date_part",
    "date_sub", "floor", "length", "lower", "max", "min", "nullif", "regexp_replace", "round",
    "split_part", "sum", "substring", "timestamp_trunc", "to_char", "trim", "upper"]

def nonFunctionExpressions : List String :=
  ["and", "between", "eq", "exists", "gt", "gte", "ilike", "in", "is", "like", "lt", "lte", "neq",
    "not", "or"]

def blockedNames : List String :=
  ["Alter", "Command", "Copy", "Create", "Delete", "Drop", "Execute", "Grant", "Insert", "LoadData",
    "Lock", "Merge", "Pragma", "Revoke", "Set", "Transaction", "TruncateTable", "Update", "Use"]

def blockedTypes (sqlglot : Sqlglot) : List String := blockedNames.filter sqlglot.defined

structure SqlError where
  code : String
  message : String
  details : List (String × List String) := []

structure SqlValidationResult where
  normalizedSql : String
  tables : List String
  columns : List String
  appliedLimit : Int
  warnings : List String
  statementType : String
  estimatedScanCost : Nat

/-! ## The kind of the statement -/

/-- The characters that a letter of a pattern matches with `re.IGNORECASE`. -/
def caseless (letter char : Char) : Bool :=
  char.toUpper == letter || (letter == 'I' && (char.toNat == 0x130 || char.toNat == 0x131)) ||
    (letter == 'S' && char.toNat == 0x17F) || (letter == 'K' && char.toNat == 0x212A)

def dropWord : List Char → List Char → Option (List Char)
  | [], text => some text
  | _ :: _, [] => none
  | letter :: word, char :: text => if caseless letter char then dropWord word text else none

/-- `\s+` -/
def dropSpaces (text : List Char) : Option (List Char) :=
  match text with
  | char :: rest => if isSpace char then some (rest.dropWhile isSpace) else none
  | [] => none

/-- `(?:ANALYZE|BUFFERS)\b` -/
def startsExecuting (sqlglot : Sqlglot) (text : List Char) : Bool :=
  ["ANALYZE", "BUFFERS"].any fun word =>
    match dropWord word.toList text with
    | some (next :: _) => !sqlglot.isWord next
    | some [] => true
    | none => false

/-- `\s*\((?P<options>[^)]*)\)` -/
def optionGroup (text : List Char) : Option (List Char × List Char) :=
  match text.dropWhile isSpace with
  | '(' :: rest =>
    match rest.dropWhile (· ≠ ')') with
    | _ :: after => some (rest.takeWhile (· ≠ ')'), after)
    | [] => none
  | _ => none

/-- `_EXPLAIN_PREFIX`: the options, and the text behind the match. -/
def explainPrefix (text : List Char) : Option (List Char × List Char) := do
  let rest ← dropWord "EXPLAIN".toList text
  let grouped := do
    let found ← optionGroup rest
    let after ← dropSpaces found.2
    some (found.1, after)
  match grouped with
  | some found => some found
  | none => (dropSpaces rest).map fun after => ([], after)

/-- `" ".join(text.split())` of a text without leading space, where `pending` says that a
space was passed. -/
def collapse (pending : Bool) : List Char → List Char
  | [] => []
  | char :: rest =>
    if isSpace char then collapse true rest
    else if pending then ' ' :: char :: collapse false rest
    else char :: collapse false rest

def splitComma : List Char → List (List Char)
  | [] => [[]]
  | char :: rest =>
    if char = ',' then [] :: splitComma rest
    else
      match splitComma rest with
      | first :: more => (char :: first) :: more
      | [] => [[char]]

def executionDenied : SqlError :=
  { code := "sql_explain_execution_denied"
    message := "EXPLAIN options that execute or inspect runtime buffers are not allowed" }

def optionTokens (options : List Char) : List (List Char) :=
  splitComma ((collapse false options).flatMap upperChar)

inductive StatementType
  | select
  | explain

def StatementType.str : StatementType → String
  | .select => "SELECT"
  | .explain => "EXPLAIN"

structure Prepared where
  statementType : StatementType
  /-- the options that are written again -/
  options : List Char
  sqlToParse : String

def Prepared.explainPrefix (prepared : Prepared) : String :=
  match prepared.statementType with
  | .select => ""
  | .explain =>
    if prepared.options.isEmpty then "EXPLAIN "
    else "EXPLAIN (" ++ String.ofList prepared.options ++ ") "

def prepareSql (sqlglot : Sqlglot) (sql : String) : Except SqlError Prepared :=
  let stripped := stripChars sql.toList
  let executing := ((dropWord "EXPLAIN".toList stripped).bind dropSpaces).any (startsExecuting sqlglot)
  if executing then .error executionDenied
  else
    match explainPrefix stripped with
    | none => .ok ⟨.select, [], sql⟩
    | some (found, rest) =>
      let options := stripChars found
      if "ANALYZE".toList ∈ optionTokens options ∨ "BUFFERS".toList ∈ optionTokens options then
        .error executionDenied
      else .ok ⟨.explain, options, String.ofList rest⟩

/-! ## The checks of the tree -/

/-- `sorted(set(names))` -/
def sortedSet (names : List String) : List String := names.dedup.insertionSort (· ≤ ·)

/-- The parts that are not empty, with points between them, in lower case. -/
def dotted (sqlglot : Sqlglot) (parts : List String) : String :=
  sqlglot.lower (".".intercalate (parts.filter fun part => part ≠ ""))

def tableName (sqlglot : Sqlglot) (table : Tree) : String :=
  dotted sqlglot [sqlglot.text table "catalog", sqlglot.text table "db", sqlglot.name table]

def columnName (sqlglot : Sqlglot) (column : Tree) : String :=
  dotted sqlglot [sqlglot.text column "table", sqlglot.name column]

def functionName (sqlglot : Sqlglot) (function : Tree) : String :=
  if isA sqlglot function "Anonymous" then sqlglot.lower (sqlglot.name function)
  else sqlglot.lower (sqlglot.sqlName function.kind)

def findAll (sqlglot : Sqlglot) (tree : Tree) (name : String) : List (Option String × Tree) :=
  tree.nodes.filter fun node => isA sqlglot node.2 name

def functionsOf (sqlglot : Sqlglot) (tree : Tree) : List String :=
  ((findAll sqlglot tree "Func").map fun node => functionName sqlglot node.2).filter
    fun name => name ∉ nonFunctionExpressions

def tablesOf (sqlglot : Sqlglot) (tree : Tree) : List String :=
  sortedSet ((findAll sqlglot tree "Table").map fun node => tableName sqlglot node.2)

def columnsOf (sqlglot : Sqlglot) (tree : Tree) : List String :=
  sortedSet (((findAll sqlglot tree "Column").filter fun node => sqlglot.name node.2 ≠ "*").map
    fun node => columnName sqlglot node.2)

def lastPart (column : String) : String :=
  String.ofList (column.toList.reverse.takeWhile (· ≠ '.')).reverse

def wildcardProjection (sqlglot : Sqlglot) (tree : Tree) : Bool :=
  (findAll sqlglot tree "Star").any fun node =>
    node.1.any fun parent => sqlglot.isInstance parent "Select" || sqlglot.isInstance parent "Column"

structure Policy where
  defaultLimit : Int
  maxLimit : Int
  dialect : String
  allowedTables : Option (List String)
  allowedColumns : Option (List String)
  requireLimit : Bool
  scanBudget : Option Int

def Arg.isNone {α : Type} : Arg α → Bool
  | .absent => true
  | _ => false

def checkShape (sqlglot : Sqlglot) (tree : Tree) : Except SqlError Unit :=
  if !isA sqlglot tree "Query" then
    .error { code := "sql_read_only_required", message := "Only read-only query statements are allowed" }
  else if (blockedTypes sqlglot).any fun name => tree.nodes.any fun node => isA sqlglot node.2 name then
    .error { code := "sql_mutation_denied", message := "SQL contains a prohibited operation" }
  else if !Arg.isNone (tree.arg "into") then
    .error { code := "sql_select_into_denied", message := "SELECT INTO is not allowed" }
  else .ok ()

def checkFunctions (sqlglot : Sqlglot) (tree : Tree) : Except SqlError Unit :=
  let denied := sortedSet ((functionsOf sqlglot tree).filter fun name =>
    name ∈ blockedFunctions ∨ name ∉ allowedFunctions)
  if denied ≠ [] then
    .error
      { code := "sql_function_denied", message := "SQL uses a prohibited or unregistered function"
        details := [("functions", denied)] }
  else .ok ()

def checkTables (sqlglot : Sqlglot) (policy : Policy) (tables : List String) : Except SqlError Unit :=
  if tables = [] then
    .error { code := "sql_table_required", message := "The query must reference an authorized table" }
  else
    match policy.allowedTables with
    | none => .ok ()
    | some allowed =>
      let denied := tables.filter fun table => table ∉ allowed.map sqlglot.lower
      if denied ≠ [] then
        .error
          { code := "sql_table_denied"
            message := "SQL references a table outside the allowed scope"
            details := [("tables", denied)] }
      else .ok ()

def checkColumns (sqlglot : Sqlglot) (policy : Policy) (tree : Tree) (columns : List String) :
    Except SqlError Unit :=
  match policy.allowedColumns with
  | none => .ok ()
  | some allowed =>
    let denied := columns.filter fun column =>
      column ∉ allowed.map sqlglot.lower ∧ lastPart column ∉ allowed.map sqlglot.lower
    if denied ≠ [] ∨ wildcardProjection sqlglot tree = true then
      .error
        { code := "sql_column_denied"
          message := "SQL references a column outside the allowed scope"
          details := [("columns", if wildcardProjection sqlglot tree then denied ++ ["*"] else denied)] }
    else .ok ()

def limitNode (value : Int) : Tree :=
  .node "Limit" [("expression", .one (.node "Literal" [("this", .text (toString value)), ("is_string", .flag false)]))]

/-- The literal integer of the `LIMIT` of the statement. -/
def requestedLimit (sqlglot : Sqlglot) (tree : Tree) : Option Int :=
  match tree.arg "limit" with
  | .one limit =>
    if isA sqlglot limit "Limit" then
      match limit.arg "expression" with
      | .one raw => if isA sqlglot raw "Literal" then sqlglot.integer raw else none
      | _ => none
    else none
  | _ => none

/-- `_apply_limit`: the changed tree, the limit and the warnings. -/
def applyLimit (sqlglot : Sqlglot) (policy : Policy) (tree : Tree) :
    Except SqlError (Tree × Int × List String) :=
  match requestedLimit sqlglot tree with
  | none =>
    if policy.requireLimit then
      .error { code := "sql_limit_required", message := "A literal LIMIT is required for governed SQL" }
    else
      .ok (tree.set "limit" (.one (limitNode policy.defaultLimit)), policy.defaultLimit,
        ["default_limit_applied"])
  | some requested =>
    let applied := min (max requested 1) policy.maxLimit
    if applied ≠ requested then
      .ok (tree.set "limit" (.one (limitNode applied)), applied, ["maximum_limit_applied"])
    else .ok (tree, applied, [])

def estimateScanCost (sqlglot : Sqlglot) (tree : Tree) (tables columns : List String) : Nat :=
  max 1 (tables.length * 1000 + columns.length * 100 + tree.nodes.length * 10 +
    (findAll sqlglot tree "Predicate").length * 25)

def checkBudget (policy : Policy) (cost : Nat) : Except SqlError Unit :=
  match policy.scanBudget with
  | none => .ok ()
  | some budget =>
    if budget < 1 then
      .error { code := "sql_scan_budget_invalid", message := "SQL scan budget must be positive" }
    else if budget < cost then
      .error
        { code := "sql_scan_budget_exceeded"
          message := "The query exceeds the configured scan budget"
          details := [("estimated_scan_cost", [toString cost]), ("scan_budget", [toString budget])] }
    else .ok ()

structure Accepted where
  expression : Tree
  tables : List String
  columns : List String
  appliedLimit : Int
  warnings : List String
  estimatedScanCost : Nat

def inspect (sqlglot : Sqlglot) (policy : Policy) (tree : Tree) : Except SqlError Accepted := do
  checkShape sqlglot tree
  checkFunctions sqlglot tree
  let tables := tablesOf sqlglot tree
  checkTables sqlglot policy tables
  let columns := columnsOf sqlglot tree
  checkColumns sqlglot policy tree columns
  let limited ← applyLimit sqlglot policy tree
  let cost := estimateScanCost sqlglot limited.1 tables columns
  checkBudget policy cost
  pure ⟨limited.1, tables, columns, limited.2.1, limited.2.2, cost⟩

def parseOne (sqlglot : Sqlglot) (policy : Policy) (sql : String) : Except SqlError Tree :=
  match sqlglot.parse sql policy.dialect with
  | none => .error { code := "sql_parse_failed", message := "SQL could not be parsed" }
  | some [some tree] => .ok tree
  | some [none] =>
    .error { code := "sql_read_only_required", message := "Only read-only query statements are allowed" }
  | some _ =>
    .error { code := "sql_multiple_statements", message := "Exactly one SQL statement is allowed" }

def validate (sqlglot : Sqlglot) (policy : Policy) (sql : String) : Except SqlError SqlValidationResult := do
  let prepared ← prepareSql sqlglot sql
  let tree ← parseOne sqlglot policy prepared.sqlToParse
  let accepted ← inspect sqlglot policy tree
  pure
    { normalizedSql := prepared.explainPrefix ++ sqlglot.sql accepted.expression policy.dialect
      tables := accepted.tables, columns := accepted.columns
      appliedLimit := accepted.appliedLimit, warnings := accepted.warnings
      statementType := prepared.statementType.str
      estimatedScanCost := accepted.estimatedScanCost }

def sampleIdentifier (name : String) : Arg Tree := .one (.node "Identifier" [("this", .text name)])

def sampleColumn (name : String) : Tree := .node "Column" [("this", sampleIdentifier name)]

def sampleFrom : String × Arg Tree :=
  ("from", .one (.node "From"
    [("this", .one (.node "Table" [("this", sampleIdentifier "orders"), ("db", sampleIdentifier "analytics")]))]))

def sampleSelect : Tree :=
  .node "Select" [("expressions", .many [sampleColumn "account_id"]), sampleFrom,
    ("limit", .one (.node "Limit" [("expression",
      .one (.node "Literal" [("this", .text "5"), ("is_string", .flag false)]))]))]

def sampleText (tree : Tree) (key : String) : String :=
  match tree.arg key with
  | .text value => value
  | .one child =>
    match child.arg "this" with
    | .text value => value
    | _ => ""
  | _ => ""

def sampleInteger (digits : List Char) : Option Int :=
  if digits ≠ [] ∧ digits.all Char.isDigit = true then some (Nat.ofDigitChars 10 digits 0) else none

def sampleInstance (kind name : String) : Bool :=
  kind = name || (name = "Query" && (kind = "Select" || kind = "Union")) ||
    (name = "Func" && kind ∈ ["And", "Anonymous", "Count", "Sum"])

/-- A parser that knows some statements, and the text of one of them. -/
def sampleSqlglot (statements : List (String × Tree)) (text : String) : Sqlglot where
  parse sql _ := (statements.find? fun entry => entry.1 = sql).map fun entry => [some entry.2]
  defined _ := true
  isInstance := sampleInstance
  sqlName := id
  name tree := sampleText tree "this"
  text := sampleText
  integer tree := sampleInteger (sampleText tree "this").toList
  sql _ _ := text
  lower := lower
  isWord := Char.isAlphanum

def sampleStatement : String := "SELECT account_id FROM analytics.orders LIMIT 5"

def sampleNormalized : String := "SELECT\n  account_id\nFROM analytics.orders\nLIMIT 5"

def samplePolicy : Policy where
  defaultLimit := 100
  maxLimit := 500
  dialect := "postgres"
  allowedTables := some ["analytics.orders"]
  allowedColumns := some ["account_id"]
  requireLimit := true
  scanBudget := none

end Obsion.DataIntelligence
