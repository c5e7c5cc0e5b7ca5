import Obsion.DataIntelligence.SqlPolicy

/-! # What an accepted statement can do

Most checks of the validator look at every node of the tree.  The check for `INTO` looks at
the root, the one for functions skips the names of operators, and the one for stars does not
know the star of a row. -/

namespace Obsion.DataIntelligence

open Obsion.Lib

/-- The literal of a new `LIMIT`. -/
def numberLiteral (value : Int) : Tree :=
  .node "Literal" [("this", .text (toString value)), ("is_string", .flag false)]

/-- What the validator relies on of the classes of `sqlglot`. -/
structure Grammar (sqlglot : Sqlglot) : Prop where
  apart : ∀ kind, sqlglot.isInstance kind "Query" = true →
    ∀ name ∈ ["Table", "Func", "Star"], sqlglot.isInstance kind name = false
  limit : sqlglot.isInstance "Limit" "Limit" = true
  literal : sqlglot.isInstance "Literal" "Literal" = true
  plain : ∀ kind ∈ ["Limit", "Literal"], ∀ name ∈ "Table" :: "Func" :: "Star" :: blockedNames,
    sqlglot.isInstance kind name = false
  integer : ∀ value, 1 ≤ value → sqlglot.integer (numberLiteral value) = some value

/-- A function of the allowlist, or an operator that `sqlglot` has as a class of functions. -/
def Registered (sqlglot : Sqlglot) (function : Tree) : Prop :=
  functionName sqlglot function ∈ allowedFunctions ∨
    (isA sqlglot function "Anonymous" = false ∧ functionName sqlglot function ∈ nonFunctionExpressions)

/-- `*` and `t.*` in a list of projections, and `(row).*`. -/
def StarProjection (sqlglot : Sqlglot) (node : Option String × Tree) : Prop :=
  isA sqlglot node.2 "Star" = true ∧ ∃ parent, node.1 = some parent ∧
    ∃ name ∈ ["Select", "Column", "Dot"], sqlglot.isInstance parent name = true

structure CleanNode (sqlglot : Sqlglot) (tables : List String) (node : Option String × Tree) : Prop where
  blocked : ∀ name ∈ blockedTypes sqlglot, isA sqlglot node.2 name = false
  into : Arg.isNone (node.2.arg "into") = true
  function : isA sqlglot node.2 "Func" = true → Registered sqlglot node.2
  table : isA sqlglot node.2 "Table" = true → tableName sqlglot node.2 ∈ tables.map sqlglot.lower
  star : ¬ StarProjection sqlglot node

def Clean (sqlglot : Sqlglot) (tables : List String) (tree : Tree) : Prop :=
  ∀ node ∈ tree.nodes, CleanNode sqlglot tables node

/-- The root has a literal `LIMIT` up to the maximum. -/
def LiteralLimit (sqlglot : Sqlglot) (maximum : Int) (tree : Tree) : Prop :=
  ∃ limit raw value, tree.arg "limit" = .one limit ∧ isA sqlglot limit "Limit" = true ∧
    limit.arg "expression" = .one raw ∧ isA sqlglot raw "Literal" = true ∧
    sqlglot.integer raw = some value ∧ 1 ≤ value ∧ value ≤ maximum

/-- The statement, before and after it gets its limit, only reads what is allowed. -/
structure ReadOnly (sqlglot : Sqlglot) (tables : List String) (maximum : Int) (parsed sent : Tree) : Prop where
  before : Clean sqlglot tables parsed
  after : Clean sqlglot tables sent
  limited : LiteralLimit sqlglot maximum sent

/-- The statement has nothing that the checks do not look at. -/
structure NothingUnseen (sqlglot : Sqlglot) (tree : Tree) : Prop where
  into : ∀ node ∈ tree.descendants, Arg.isNone (node.2.arg "into") = true
  function : ∀ node ∈ tree.nodes, isA sqlglot node.2 "Func" = true →
    isA sqlglot node.2 "Anonymous" = true → functionName sqlglot node.2 ∉ nonFunctionExpressions
  star : ∀ node ∈ tree.nodes, isA sqlglot node.2 "Star" = true →
    ∀ parent, node.1 = some parent → sqlglot.isInstance parent "Dot" = false

/-! ## What each check says -/

lemma mem_sortedSet {names : List String} {name : String} : name ∈ sortedSet names ↔ name ∈ names := by
  rw [sortedSet, List.mem_insertionSort, List.mem_dedup]

variable {tree : Tree} {policy : Policy} {allowed : List String} {node : Option String × Tree}

lemma checkShape_ok {sqlglot : Sqlglot} (passes : checkShape sqlglot tree = .ok ()) :
    isA sqlglot tree "Query" = true ∧
      (∀ name ∈ blockedTypes sqlglot, ∀ node ∈ tree.nodes, isA sqlglot node.2 name = false) ∧
      Arg.isNone (tree.arg "into") = true := by
  rw [checkShape] at passes
  split at passes
  · cases passes
  next query =>
  split at passes
  · cases passes
  next unblocked =>
  split at passes
  · cases passes
  next noInto =>
  rw [Bool.not_eq_true, List.any_eq_false] at unblocked
  refine ⟨by simpa using query, ?_, by simpa using noInto⟩
  intro name blocked node inside
  have clear := unblocked name blocked
  rw [Bool.not_eq_true, List.any_eq_false] at clear
  exact Bool.eq_false_of_not_eq_true (clear node inside)

lemma checkFunctions_ok {sqlglot : Sqlglot} (passes : checkFunctions sqlglot tree = .ok ()) :
    ∀ name ∈ functionsOf sqlglot tree, name ∈ allowedFunctions := by
  unfold checkFunctions at passes
  extract_lets at passes
  split at passes
  · cases passes
  next none_ =>
  intro name used
  by_contra unknown
  have denied : name ∈ sortedSet ((functionsOf sqlglot tree).filter fun name =>
      name ∈ blockedFunctions ∨ name ∉ allowedFunctions) := by
    rw [mem_sortedSet, List.mem_filter]
    exact ⟨used, decide_eq_true (Or.inr unknown)⟩
  rw [not_not] at none_
  rw [show sortedSet _ = [] from none_] at denied
  cases denied

lemma checkTables_ok {sqlglot : Sqlglot} {tables : List String}
    (given : policy.allowedTables = some allowed)
    (passes : checkTables sqlglot policy tables = .ok ()) :
    ∀ table ∈ tables, table ∈ allowed.map sqlglot.lower := by
  rw [checkTables, given] at passes
  dsimp only at passes
  split at passes
  · cases passes
  split at passes
  · cases passes
  next none_ =>
  intro table used
  by_contra unknown
  rw [not_not, List.filter_eq_nil_iff] at none_
  exact none_ table used (decide_eq_true unknown)

lemma checkColumns_ok {sqlglot : Sqlglot} {columns : List String}
    (given : policy.allowedColumns = some allowed)
    (passes : checkColumns sqlglot policy tree columns = .ok ()) :
    wildcardProjection sqlglot tree = false := by
  rw [checkColumns, given] at passes
  dsimp only at passes
  split at passes
  · cases passes
  next none_ =>
  rw [not_or] at none_
  exact Bool.eq_false_of_not_eq_true none_.2

lemma applyLimit_ok {sqlglot : Sqlglot} {limited : Tree × Int × List String}
    (limits : 1 ≤ policy.defaultLimit ∧ policy.defaultLimit ≤ policy.maxLimit)
    (passes : applyLimit sqlglot policy tree = .ok limited) :
    (limited.1 = tree ∧ ∃ value, requestedLimit sqlglot tree = some value ∧ 1 ≤ value ∧ value ≤ policy.maxLimit) ∨
      ∃ value, limited.1 = tree.set "limit" (.one (limitNode value)) ∧ 1 ≤ value ∧ value ≤ policy.maxLimit := by
  rw [applyLimit] at passes
  cases found : requestedLimit sqlglot tree with
  | none =>
    rw [found] at passes
    dsimp only at passes
    split at passes
    · cases passes
    cases passes
    exact .inr ⟨policy.defaultLimit, rfl, limits⟩
  | some requested =>
    rw [found] at passes
    dsimp only at passes
    have low : 1 ≤ min (max requested 1) policy.maxLimit := by omega
    split at passes
    · cases passes
      exact .inr ⟨min (max requested 1) policy.maxLimit, rfl, low, Int.min_le_right _ _⟩
    next eq =>
    rw [not_not] at eq
    cases passes
    exact .inl ⟨rfl, requested, rfl, by omega⟩

lemma inspect_ok {sqlglot : Sqlglot} {accepted : Accepted}
    (passes : inspect sqlglot policy tree = .ok accepted) :
    checkShape sqlglot tree = .ok () ∧ checkFunctions sqlglot tree = .ok () ∧
      checkTables sqlglot policy (tablesOf sqlglot tree) = .ok () ∧
      checkColumns sqlglot policy tree (columnsOf sqlglot tree) = .ok () ∧
      ∃ limited, applyLimit sqlglot policy tree = .ok limited ∧ accepted.expression = limited.1 := by
  obtain ⟨⟨⟩, shape, rest⟩ := of_bind_ok passes
  obtain ⟨⟨⟩, functions, rest⟩ := of_bind_ok rest
  obtain ⟨⟨⟩, tables, rest⟩ := of_bind_ok rest
  obtain ⟨⟨⟩, columns, rest⟩ := of_bind_ok rest
  obtain ⟨limited, limit, rest⟩ := of_bind_ok rest
  obtain ⟨⟨⟩, -, rest⟩ := of_bind_ok rest
  cases rest
  exact ⟨shape, functions, tables, columns, limited, limit, rfl⟩

variable {sql : String}

lemma parseOne_ok {sqlglot : Sqlglot} (parses : parseOne sqlglot policy sql = .ok tree) :
    sqlglot.parse sql policy.dialect = some [some tree] := by
  rw [parseOne] at parses
  split at parses
  · cases parses
  · next found =>
    cases parses
    exact found
  · cases parses
  · cases parses

lemma registered_of_checked {sqlglot : Sqlglot}
    (checked : ∀ name ∈ functionsOf sqlglot tree, name ∈ allowedFunctions)
    (inside : node ∈ tree.nodes) (function : isA sqlglot node.2 "Func" = true) :
    functionName sqlglot node.2 ∈ allowedFunctions ∨ functionName sqlglot node.2 ∈ nonFunctionExpressions := by
  by_cases operator : functionName sqlglot node.2 ∈ nonFunctionExpressions
  · exact .inr operator
  refine .inl (checked _ (List.mem_filter.2 ⟨?_, decide_eq_true operator⟩))
  exact List.mem_map.2 ⟨node, List.mem_filter.2 ⟨inside, function⟩, rfl⟩

lemma table_of_checked {sqlglot : Sqlglot}
    (checked : ∀ table ∈ tablesOf sqlglot tree, table ∈ allowed.map sqlglot.lower)
    (inside : node ∈ tree.nodes) (table : isA sqlglot node.2 "Table" = true) :
    tableName sqlglot node.2 ∈ allowed.map sqlglot.lower := by
  refine checked _ (mem_sortedSet.2 ?_)
  exact List.mem_map.2 ⟨node, List.mem_filter.2 ⟨inside, table⟩, rfl⟩

lemma parent_of_checked {sqlglot : Sqlglot} {parent : String}
    (checked : wildcardProjection sqlglot tree = false) (inside : node ∈ tree.nodes)
    (star : isA sqlglot node.2 "Star" = true) (here : node.1 = some parent) :
    sqlglot.isInstance parent "Select" = false ∧ sqlglot.isInstance parent "Column" = false := by
  rw [wildcardProjection, List.any_eq_false] at checked
  have clear := checked node (List.mem_filter.2 ⟨inside, star⟩)
  rw [here, Option.any_some, Bool.or_eq_true, not_or, Bool.not_eq_true, Bool.not_eq_true] at clear
  exact clear

lemma allowedFunctions_not_operator :
    ∀ name ∈ allowedFunctions, name ∉ nonFunctionExpressions := by decide

section

variable {sqlglot : Sqlglot} {tables : List String}

variable {value : Int}

variable {maximum : Int}

lemma literalLimit_of_requested {tree : Tree} (requested : requestedLimit sqlglot tree = some value)
    (low : 1 ≤ value) (high : value ≤ maximum) : LiteralLimit sqlglot maximum tree := by
  unfold requestedLimit at requested
  split at requested
  · next limit stored =>
    split at requested
    · next isLimit =>
      split at requested
      · next raw expression =>
        split at requested
        · next isLiteral => exact ⟨limit, raw, value, stored, isLimit, expression, isLiteral, requested, low, high⟩
        cases requested
      · cases requested
    · cases requested
  · cases requested

lemma literalLimit_set (grammar : Grammar sqlglot) (tree : Tree) (low : 1 ≤ value)
    (high : value ≤ maximum) :
    LiteralLimit sqlglot maximum (tree.set "limit" (.one (limitNode value))) :=
  ⟨limitNode value, numberLiteral value, value, Tree.arg_set_self tree "limit" _, grammar.limit, rfl, grammar.literal,
    grammar.integer value low, low, high⟩

lemma cleanNode_limitNode (grammar : Grammar sqlglot) {parent : Option String × Tree}
    {kind : String} (inside : parent ∈ Tree.walkArg kind (.one (limitNode value))) :
    CleanNode sqlglot tables parent := by
  have cases_ : parent = (some kind, limitNode value) ∨ parent = (some "Limit", numberLiteral value) := by
    simpa [Tree.walkArg, limitNode, Tree.walk, Tree.walkArgs, numberLiteral] using inside
  have plain : parent.2.kind ∈ ["Limit", "Literal"] ∧ Arg.isNone (parent.2.arg "into") = true := by
    rcases cases_ with rfl | rfl
    · exact ⟨List.mem_cons_self, rfl⟩
    exact ⟨List.mem_cons_of_mem _ List.mem_cons_self, rfl⟩
  have no : ∀ name ∈ "Table" :: "Func" :: "Star" :: blockedNames, isA sqlglot parent.2 name = false :=
    grammar.plain _ plain.1
  refine ⟨?_, plain.2, ?_, ?_, ?_⟩
  · intro name blocked
    have named : name ∈ blockedNames := (List.mem_filter.1 blocked).1
    exact no name (by simp [named])
  · intro function
    rw [no "Func" (by simp)] at function
    cases function
  · intro table
    rw [no "Table" (by simp)] at table
    cases table
  · intro projection
    have star := projection.1
    rw [no "Star" (by simp)] at star
    cases star

lemma clean_set (grammar : Grammar sqlglot) {tree : Tree} (query : isA sqlglot tree "Query" = true)
    (clean : Clean sqlglot tables tree) (value : Int) :
    Clean sqlglot tables (tree.set "limit" (.one (limitNode value))) := by
  intro node inside
  rw [Tree.nodes_eq] at inside
  rcases List.mem_cons.1 inside with rfl | below
  · have root := clean (none, tree) (by rw [Tree.nodes_eq]; exact List.mem_cons_self)
    have no := grammar.apart tree.kind query
    refine ⟨root.blocked, ?_, ?_, ?_, ?_⟩
    · rw [Tree.arg_set_of_ne tree _ (by decide)]
      exact root.into
    · intro function
      exact absurd function (by rw [isA, Tree.kind_set, no "Func" (by decide)]; decide)
    · intro table
      exact absurd table (by rw [isA, Tree.kind_set, no "Table" (by decide)]; decide)
    · rintro ⟨-, parent, none_, -⟩
      cases none_
  · rcases Tree.mem_descendants_set below with old | new
    · exact clean node (by rw [Tree.nodes_eq]; exact List.mem_cons_of_mem _ old)
    exact cleanNode_limitNode grammar new

end

lemma clean_iff {sqlglot : Sqlglot} (shape : checkShape sqlglot tree = .ok ())
    (functions : ∀ name ∈ functionsOf sqlglot tree, name ∈ allowedFunctions)
    (tables : ∀ table ∈ tablesOf sqlglot tree, table ∈ allowed.map sqlglot.lower)
    (stars : wildcardProjection sqlglot tree = false) :
    Clean sqlglot allowed tree ↔ NothingUnseen sqlglot tree := by
  obtain ⟨-, unblocked, rootInto⟩ := checkShape_ok shape
  constructor
  · intro clean
    refine ⟨?_, ?_, ?_⟩
    · intro node below
      exact (clean node (by rw [Tree.nodes_eq]; exact List.mem_cons_of_mem _ below)).into
    · intro node inside function anonymous operator
      rcases (clean node inside).function function with registered | named
      · exact allowedFunctions_not_operator _ registered operator
      rw [named.1] at anonymous
      cases anonymous
    · intro node inside star parent here
      by_contra dot
      rw [Bool.not_eq_false] at dot
      exact (clean node inside).star ⟨star, parent, here, "Dot", by decide, dot⟩
  · intro unseen node inside
    refine ⟨fun name blocked => unblocked name blocked node inside, ?_, ?_, table_of_checked tables inside, ?_⟩
    · rw [Tree.nodes_eq] at inside
      rcases List.mem_cons.1 inside with rfl | below
      · exact rootInto
      exact unseen.into node below
    · intro function
      rcases registered_of_checked functions inside function with registered | operator
      · exact .inl registered
      refine .inr ⟨?_, operator⟩
      by_contra anonymous
      exact unseen.function node inside function (by simpa using anonymous) operator
    · rintro ⟨star, parent, here, name, projecting, instance_⟩
      have seen := parent_of_checked stars inside star here
      have dot := unseen.star node inside star parent here
      simp only [List.mem_cons, List.not_mem_nil, or_false] at projecting
      rcases projecting with rfl | rfl | rfl
      · rw [seen.1] at instance_
        cases instance_
      · rw [seen.2] at instance_
        cases instance_
      · rw [dot] at instance_
        cases instance_

lemma toString_of_pos {value : Int} (low : 1 ≤ value) :
    (toString value).toList = Nat.toDigits 10 value.toNat := by
  obtain ⟨count, rfl⟩ := Int.eq_ofNat_of_zero_le (show 0 ≤ value by omega)
  exact Nat.toList_repr

lemma sampleSqlglot_grammar (statements : List (String × Tree)) (text : String) :
    Grammar (sampleSqlglot statements text) := by
  have plain : ∀ kind ∈ ["Limit", "Literal"], ∀ name ∈ "Table" :: "Func" :: "Star" :: blockedNames,
      sampleInstance kind name = false := by decide
  have apart : ∀ kind ∈ ["Query", "Select", "Union"], ∀ name ∈ ["Table", "Func", "Star"],
      sampleInstance kind name = false := by decide
  refine ⟨?_, rfl, rfl, plain, ?_⟩
  · intro kind query
    have known : kind ∈ ["Query", "Select", "Union"] := by
      simpa [sampleSqlglot, sampleInstance] using query
    exact apart kind known
  · intro value low
    have digits : (sampleText (numberLiteral value) "this").toList = Nat.toDigits 10 value.toNat :=
      toString_of_pos low
    change sampleInteger (sampleText (numberLiteral value) "this").toList = some value
    rw [digits, sampleInteger, if_pos ⟨Nat.toDigits_ne_nil, List.all_eq_true.2 fun char inside =>
      Nat.isDigit_of_mem_toDigits (by decide) (by decide) inside⟩, Nat.ofDigitChars_ten_toDigits]
    exact congrArg some (Int.toNat_of_nonneg (by omega))

def sampleInto : Tree :=
  .node "Select" [("expressions", .many [sampleColumn "account_id"]),
    ("into", .one (.node "Into" [("this", .one (.node "Identifier" [("this", .text "leaked")]))])), sampleFrom]

def sampleUnion : Tree :=
  .node "Union" [("this", .one sampleInto),
    ("expression", .one (.node "Select" [("expressions", .many [sampleColumn "account_id"]), sampleFrom])),
    ("limit", .one (limitNode 5))]

def sampleUnionText : String :=
  "SELECT account_id INTO leaked FROM analytics.orders UNION " ++
    "SELECT account_id FROM analytics.orders LIMIT 5"

def sampleParser : Sqlglot :=
  sampleSqlglot [(sampleStatement, sampleSelect), (sampleUnionText, sampleUnion)] sampleNormalized

lemma accepts_of_checked {sqlglot : Sqlglot}
    (checked : (validate sqlglot policy sql).toOption.isSome = true) :
    ∃ result, validate sqlglot policy sql = .ok result := by
  cases found : validate sqlglot policy sql with
  | error _ =>
    rw [found] at checked
    cases checked
  | ok result => exact ⟨result, rfl⟩

end Obsion.DataIntelligence
