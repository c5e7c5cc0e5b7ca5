import Obsion.DataIntelligence.Compile

/-! # The row policy of a compiled query

A policy is read in one of three shapes.  The entries of the shape that is read become
conditions; what the policy says in another shape, or under a reserved name, is passed over. -/

namespace Obsion.DataIntelligence

open Obsion.Lib

/-! ## What a policy says -/

def isShaped (policy : Fields) : Bool :=
  (policy.has "column" && policy.has "allowed_values") || policy.has "filters"

def isColumnKey (names : List String) (key : String) : Bool := key ∉ reservedKeys || key ∈ names

def pairConstraints (policy : Fields) : Fields :=
  match policy.get? "column", policy.get? "allowed_values" with
  | some (.str name), some values => [(name, values)]
  | _, _ => []

def filterConstraints (names : List String) (policy : Fields) : Fields :=
  match policy.get? "filters" with
  | some (.obj filters) => filters.filter fun entry => isColumnKey names entry.1
  | _ => []

def directConstraints (names : List String) (policy : Fields) : Fields :=
  policy.filter fun entry => entry.1 ∉ reservedKeys || (!isShaped policy && entry.1 ∈ names)

/-- The columns that the policy constrains in any of its shapes, with the values. -/
def constraints (names : List String) : Json → Fields
  | .obj policy => pairConstraints policy ++ filterConstraints names policy ++ directConstraints names policy
  | _ => []

def parameterAt (parameters : List Parameter) : Nat → Option Parameter
  | 0 => none
  | index + 1 => parameters[index]?

/-- The condition holds of the rows whose column has one of the values. -/
def Restricts (parameters : List Parameter) (column : String) (values : List Json) : Predicate → Prop
  | .compare name operator number =>
    name = column ∧ operator = "=" ∧
      ∃ value, values = [value] ∧ parameterAt parameters number = some (.value value)
  | .among name numbers =>
    name = column ∧ numbers.map (parameterAt parameters) = values.map fun value => some (.value value)

/-- There is a condition of the policy, and one for every column that it constrains. -/
structure Closed (names : List String) (policy : Json) (parameters : List Parameter)
    (conditions : List Predicate) : Prop where
  present : conditions ≠ []
  restricted : ∀ entry ∈ constraints names policy, ∃ condition ∈ conditions,
    Restricts parameters entry.1 (rowValues entry.2) condition

def usedEntries : Json → Fields
  | .obj policy =>
    match policyEntries policy with
    | .ok (some entries) => entries.filter fun entry => entry.1 ∉ reservedKeys
    | _ => []
  | _ => []

/-- An entry is used, and every constraint is said by a used entry. -/
structure Covered (names : List String) (policy : Json) : Prop where
  used : usedEntries policy ≠ []
  said : ∀ entry ∈ constraints names policy, ∃ read ∈ usedEntries policy,
    read.1 = entry.1 ∧ rowValues read.2 = rowValues entry.2

structure Serves (parameters : List Parameter) (entries : Fields) (conditions : List Predicate) : Prop where
  ofCondition : ∀ condition ∈ conditions, ∃ entry ∈ entries,
    Restricts parameters entry.1 (rowValues entry.2) condition
  ofEntry : ∀ entry ∈ entries, ∃ condition ∈ conditions,
    Restricts parameters entry.1 (rowValues entry.2) condition

variable {parameters : List Parameter} {condition : Predicate} {entry : String × Json}
  {entries : Fields} {conditions : List Predicate} {allowed : List String}

lemma parameterAt_append {number : Nat} {found : Parameter}
    (stored : parameterAt parameters number = some found) (more : List Parameter) :
    parameterAt (parameters ++ more) number = some found := by
  cases number with
  | zero => cases stored
  | succ index =>
    have inside : index < parameters.length := (List.getElem?_eq_some_iff.1 stored).1
    rw [parameterAt, List.getElem?_append_left inside]
    exact stored

lemma parameterAt_new (parameters more : List Parameter) (index : Nat) :
    parameterAt (parameters ++ more) (parameters.length + 1 + index) = more[index]? := by
  rw [show parameters.length + 1 + index = (parameters.length + index) + 1 by omega, parameterAt,
    List.getElem?_append_right (by omega), Nat.add_sub_cancel_left]

variable {column : String} {final base : Clauses} {policy : Json}

lemma Restricts.append {values : List Json}
    (restricts : Restricts parameters column values condition) (more : List Parameter) :
    Restricts (parameters ++ more) column values condition := by
  cases condition with
  | compare name operator number =>
    obtain ⟨eq, equal, value, only, stored⟩ := restricts
    exact ⟨eq, equal, value, only, parameterAt_append stored more⟩
  | among name numbers =>
    obtain ⟨eq, stored⟩ := restricts
    refine ⟨eq, ?_⟩
    rw [← stored]
    refine List.map_congr_left fun number mem => ?_
    have known : parameterAt parameters number ∈ values.map fun value => some (Parameter.value value) := by
      rw [← stored]
      exact List.mem_map_of_mem mem
    obtain ⟨value, -, found⟩ := List.mem_map.1 known
    rw [← found, parameterAt_append found.symm more]

lemma Restricts.unique {other : String} {values others : List Json}
    (first : Restricts parameters column values condition)
    (second : Restricts parameters other others condition) : column = other ∧ values = others := by
  cases condition with
  | compare name operator number =>
    obtain ⟨here, -, value, only, stored⟩ := first
    obtain ⟨there, -, found, alone, kept⟩ := second
    rw [stored] at kept
    cases kept
    exact ⟨here ▸ there, only.trans alone.symm⟩
  | among name numbers =>
    obtain ⟨here, stored⟩ := first
    obtain ⟨there, kept⟩ := second
    rw [stored] at kept
    refine ⟨here ▸ there, List.map_injective_iff.2 ?_ kept⟩
    intro left right eq
    cases eq
    rfl

lemma among_restricts (clauses : Clauses) (column : String) (values : List Json) :
    ∃ condition, (clauses.among column values).predicates = clauses.predicates ++ [condition] ∧
      Restricts (clauses.among column values).parameters column values condition := by
  refine ⟨_, rfl, ?_⟩
  split
  · next one =>
    obtain ⟨value, rfl⟩ := List.length_eq_one_iff.1 one
    exact ⟨rfl, rfl, value, rfl, parameterAt_new clauses.parameters [.value value] 0⟩
  · refine ⟨rfl, ?_⟩
    rw [List.map_map]
    refine List.ext_getElem (by simp) fun index low high => ?_
    rw [List.length_map] at high
    rw [List.getElem_map, List.getElem_map, List.getElem_range, Function.comp_apply]
    change parameterAt (clauses.parameters ++ values.map .value) (clauses.parameters.length + 1 + index) = _
    rw [parameterAt_new, List.getElem?_map, List.getElem?_eq_getElem high, Option.map_some]

lemma Serves.nil (parameters : List Parameter) : Serves parameters [] [] :=
  ⟨nofun, nofun⟩

lemma Serves.cons (serves : Serves parameters entries conditions)
    (restricts : Restricts parameters entry.1 (rowValues entry.2) condition) :
    Serves parameters (entry :: entries) (condition :: conditions) := by
  constructor
  · intro found mem
    rcases List.mem_cons.1 mem with rfl | later
    · exact ⟨entry, List.mem_cons_self, restricts⟩
    obtain ⟨other, inside, holds⟩ := serves.ofCondition found later
    exact ⟨other, List.mem_cons_of_mem _ inside, holds⟩
  · intro found mem
    rcases List.mem_cons.1 mem with rfl | later
    · exact ⟨condition, List.mem_cons_self, restricts⟩
    obtain ⟨other, inside, holds⟩ := serves.ofEntry found later
    exact ⟨other, List.mem_cons_of_mem _ inside, holds⟩

lemma Serves.congr {others : Fields} (serves : Serves parameters entries conditions)
    (eq : ∀ entry, entry ∈ entries ↔ entry ∈ others) : Serves parameters others conditions := by
  constructor
  · intro condition mem
    obtain ⟨entry, inside, holds⟩ := serves.ofCondition condition mem
    exact ⟨entry, (eq entry).1 inside, holds⟩
  · intro entry mem
    exact serves.ofEntry entry ((eq entry).2 mem)

lemma appendRow_ok {clauses next : Clauses} (passes : appendRow allowed clauses entry = .ok next) :
    (entry.1 ∈ reservedKeys ∧ next = clauses) ∨
      (entry.1 ∉ reservedKeys ∧ next = clauses.among entry.1 (rowValues entry.2)) := by
  unfold appendRow at passes
  split at passes
  · next reserved =>
    cases passes
    exact .inl ⟨reserved, rfl⟩
  · next plain =>
    split at passes
    · cases passes
    split at passes
    · cases passes
    cases passes
    exact .inr ⟨plain, rfl⟩

lemma appendRows_ok {clauses : Clauses}
    (passes : entries.foldlM (appendRow allowed) clauses = .ok final) :
    ∃ conditions more, final.predicates = clauses.predicates ++ conditions ∧
      final.parameters = clauses.parameters ++ more ∧
      Serves final.parameters (entries.filter fun entry => entry.1 ∉ reservedKeys) conditions := by
  induction entries generalizing clauses with
  | nil =>
    cases passes
    exact ⟨[], [], (List.append_nil _).symm, (List.append_nil _).symm, Serves.nil _⟩
  | cons entry rest ih =>
    rw [List.foldlM_cons] at passes
    obtain ⟨next, step, passes⟩ := of_bind_ok passes
    obtain ⟨conditions, more, predicates, parameters, serves⟩ := ih passes
    rcases appendRow_ok step with ⟨reserved, rfl⟩ | ⟨plain, rfl⟩
    · refine ⟨conditions, more, predicates, parameters, ?_⟩
      rw [List.filter_cons_of_neg (by simpa using reserved)]
      exact serves
    · obtain ⟨condition, appended, restricts⟩ := among_restricts clauses entry.1 (rowValues entry.2)
      refine ⟨condition :: conditions, (rowValues entry.2).map .value ++ more, ?_, ?_, ?_⟩
      · rw [predicates, appended, List.append_assoc, List.singleton_append]
      · rw [parameters]
        exact List.append_assoc _ _ _
      · rw [List.filter_cons_of_pos (by simpa using plain)]
        refine serves.cons ?_
        rw [parameters]
        exact restricts.append more

lemma mem_sortedItems {fields : Fields} : entry ∈ sortedItems fields ↔ entry ∈ fields :=
  (List.perm_insertionSort _ fields).mem_iff

lemma appendRowPolicy_cases (passes : appendRowPolicy policy allowed base = .ok final) :
    (final = base ∧ usedEntries policy = []) ∨
      ∃ entries, (sortedItems entries).foldlM (appendRow allowed) base = .ok final ∧
        usedEntries policy = entries.filter fun entry => entry.1 ∉ reservedKeys := by
  cases policy with
  | obj fields =>
    cases fields with
    | nil =>
      cases passes
      exact .inl ⟨rfl, rfl⟩
    | cons first rest =>
      obtain ⟨read, entriesOk, passes⟩ := of_bind_ok passes
      cases read with
      | none =>
        cases passes
        exact .inl ⟨rfl, by rw [usedEntries, entriesOk]⟩
      | some entries => exact .inr ⟨entries, passes, by rw [usedEntries, entriesOk]⟩
  | null | bool | int | float | str | arr => cases passes; exact .inl ⟨rfl, rfl⟩

lemma appendRowPolicy_ok (passes : appendRowPolicy policy allowed base = .ok final) :
    ∃ conditions, final.predicates = base.predicates ++ conditions ∧
      Serves final.parameters (usedEntries policy) conditions := by
  rcases appendRowPolicy_cases passes with ⟨rfl, none_⟩ | ⟨entries, passes, used⟩
  · rw [none_]
    exact ⟨[], (List.append_nil _).symm, Serves.nil _⟩
  · obtain ⟨conditions, -, predicates, -, serves⟩ := appendRows_ok passes
    refine ⟨conditions, predicates, ?_⟩
    rw [used]
    refine serves.congr fun entry => ?_
    rw [List.mem_filter, List.mem_filter, mem_sortedItems]

lemma closed_iff {names : List String} (serves : Serves parameters (usedEntries policy) conditions) :
    Closed names policy parameters conditions ↔ Covered names policy := by
  constructor
  · intro closed
    constructor
    · intro none_
      obtain ⟨condition, mem⟩ := List.exists_mem_of_ne_nil _ closed.present
      obtain ⟨entry, used, -⟩ := serves.ofCondition condition mem
      rw [none_] at used
      cases used
    · intro entry constrained
      obtain ⟨condition, mem, restricts⟩ := closed.restricted entry constrained
      obtain ⟨read, used, holds⟩ := serves.ofCondition condition mem
      exact ⟨read, used, holds.unique restricts⟩
  · intro covered
    constructor
    · rintro rfl
      obtain ⟨entry, used⟩ := List.exists_mem_of_ne_nil _ covered.used
      obtain ⟨condition, mem, -⟩ := serves.ofEntry entry used
      cases mem
    · intro entry constrained
      obtain ⟨read, used, column, values⟩ := covered.said entry constrained
      obtain ⟨condition, mem, restricts⟩ := serves.ofEntry read used
      rw [column, values] at restricts
      exact ⟨condition, mem, restricts⟩

lemma ok_of_mapError {ε δ α : Type} {computation : Except ε α} {f : ε → δ} {value : α}
    (run : computation.mapError f = .ok value) : computation = .ok value := by
  cases computation with
  | error _ => cases run
  | ok found => exact congrArg Except.ok (Except.ok.inj run)

lemma compile_ok {library : Library} {settings : Settings} {catalog : Catalog} {principal : Principal}
    {plan : Fields} {compiled : CompiledQuery}
    (accepted : compile library settings catalog principal plan = .ok compiled) :
    ∃ request base clauses, readPlan library plan = .ok request ∧
      resolveMetric catalog principal request.metricId =
        .ok (compiled.metric, compiled.table, compiled.dataSource) ∧
      resolveDimensions catalog principal compiled.table request.dimensionIds = .ok compiled.dimensions ∧
      baseClauses plan compiled.metric request.start request.stop
        ((columnsOfTable catalog principal compiled.table).map DataColumn.name) = .ok base ∧
      appendRowPolicy compiled.table.rowPolicy
        ((columnsOfTable catalog principal compiled.table).map DataColumn.name) base = .ok clauses ∧
      compiled.parameters = clauses.parameters ∧ compiled.parameterTypes = clauses.parameterTypes ∧
      validate library.sqlglot (queryPolicy library settings compiled.table compiled.dataSource
          (columnsOfTable catalog principal compiled.table))
        (queryText compiled.metric compiled.table compiled.dimensions clauses.predicates) =
          .ok compiled.validation ∧ compiled.sql = compiled.validation.normalizedSql ∧
      compiled.columnMasks = columnMasks (columnsOfTable catalog principal compiled.table) := by
  obtain ⟨request, reads, rest⟩ := of_bind_ok accepted
  obtain ⟨⟨metric, table, source⟩, rows, rest⟩ := of_bind_ok rest
  obtain ⟨dimensions, selected, rest⟩ := of_bind_ok rest
  obtain ⟨base, filtered, rest⟩ := of_bind_ok rest
  obtain ⟨clauses, policy, rest⟩ := of_bind_ok rest
  obtain ⟨validation, validated, rest⟩ := of_bind_ok rest
  cases rest
  refine ⟨request, base, clauses, reads, rows, selected, filtered, policy, rfl, rfl, ?_, rfl, rfl⟩
  exact ok_of_mapError validated

def Predicate.numbers : Predicate → List Nat
  | .compare _ _ number => [number]
  | .among _ numbers => numbers

section
-- The comparisons of the database, and a row of the table.
variable {Cell : Type} (compares : String → Cell → Parameter → Prop) (row : String → Cell)

def Predicate.Holds (parameters : List Parameter) : Predicate → Prop
  | .compare column operator number =>
    ∃ parameter, parameterAt parameters number = some parameter ∧ compares operator (row column) parameter
  | .among column numbers => ∃ number ∈ numbers, ∃ parameter,
    parameterAt parameters number = some parameter ∧ compares "=" (row column) parameter

def Clauses.Hold (clauses : Clauses) : Prop :=
  ∀ condition ∈ clauses.predicates, condition.Holds compares row clauses.parameters

def FilterHolds (item : Json) : Prop :=
  ∃ fields column, item = .obj fields ∧ Fields.get? fields "column" = some (.str column) ∧
    compares (operatorOf fields) (row column) (.value ((Fields.get? fields "value").getD .null))

def planFilters (plan : Fields) : List Json := (iterated ((plan.get? "filters").getD (.arr []))).getD []

/-- What a logical plan asks of a row, and the row policy of the table with it. -/
structure Denotes (metric : Metric) (start stop : Moment) (plan : Fields) (policy : Json) : Prop where
  since : compares ">=" (row metric.timeColumn) (.moment start)
  until_ : compares "<" (row metric.timeColumn) (.moment stop)
  filters : ∀ entry ∈ metric.filters, compares "=" (row entry.1) (.value entry.2)
  planned : ∀ item ∈ planFilters plan, FilterHolds compares row item
  allowed : ∀ entry ∈ usedEntries policy, ∃ value ∈ rowValues entry.2,
    compares "=" (row entry.1) (.value value)

/-- The placeholders are numbered in a row, over all the conditions. -/
structure Numbered (clauses : Clauses) : Prop where
  types : clauses.parameterTypes.length = clauses.parameters.length
  numbers : clauses.predicates.flatMap Predicate.numbers = List.range' 1 clauses.parameters.length

variable {clauses next : Clauses} {item : Json}

lemma Predicate.holds_append (more : List Parameter)
    (known : ∀ number ∈ condition.numbers, 1 ≤ number ∧ number ≤ parameters.length) :
    condition.Holds compares row (parameters ++ more) ↔ condition.Holds compares row parameters := by
  have eq : ∀ number ∈ condition.numbers,
      parameterAt (parameters ++ more) number = parameterAt parameters number := by
    intro number mem
    obtain ⟨positive, inside⟩ := known number mem
    obtain ⟨index, rfl⟩ := Nat.exists_eq_add_of_le' positive
    exact List.getElem?_append_left inside
  cases condition with
  | compare column operator number =>
    simp only [Predicate.Holds, eq number List.mem_cons_self]
  | among column numbers =>
    exact exists_congr fun number => and_congr_right fun mem => by rw [eq number mem]

/-- One condition more, whose placeholders are those of its values. -/
lemma Numbered.append (numbered : Numbered clauses) {values : List Json} (types : List String)
    (typed : types.length = values.length) (numbers : condition.numbers =
      List.range' (clauses.parameters.length + 1) values.length) :
    Numbered ⟨clauses.predicates ++ [condition], clauses.parameters ++ values.map .value,
        clauses.parameterTypes ++ types⟩ ∧
      (Clauses.Hold compares row ⟨clauses.predicates ++ [condition],
          clauses.parameters ++ values.map .value, clauses.parameterTypes ++ types⟩ ↔
        clauses.Hold compares row ∧
          condition.Holds compares row (clauses.parameters ++ values.map .value)) := by
  refine ⟨⟨by simp [numbered.types, typed], ?_⟩, ?_⟩
  · simp only [List.flatMap_append, List.flatMap_singleton, numbered.numbers, numbers,
      List.length_append, List.length_map]
    rw [Nat.add_comm clauses.parameters.length 1, List.range'_append_1]
  · unfold Clauses.Hold
    simp only [List.forall_mem_append, List.forall_mem_singleton]
    refine and_congr_left fun _ => forall₂_congr fun other mem => other.holds_append compares row _ ?_
    intro number inside
    have listed : number ∈ List.range' 1 clauses.parameters.length :=
      numbered.numbers ▸ List.mem_flatMap.2 ⟨other, mem, inside⟩
    rw [List.mem_range'_1] at listed
    omega

lemma Numbered.compare (numbered : Numbered clauses) (column operator : String) (value : Json) :
    Numbered (clauses.compare column operator value) ∧
      ((clauses.compare column operator value).Hold compares row ↔
        clauses.Hold compares row ∧ compares operator (row column) (.value value)) := by
  obtain ⟨kept, means⟩ := @Numbered.append (.compare column operator (clauses.parameters.length + 1))
    Cell compares row clauses numbered [value] ["scalar"] rfl rfl
  refine ⟨kept, means.trans (and_congr_right fun _ => ?_)⟩
  have stored := parameterAt_new clauses.parameters [.value value] 0
  simp only [Predicate.Holds, List.map_cons, List.map_nil]
  rw [show clauses.parameters.length + 1 = clauses.parameters.length + 1 + 0 from rfl, stored]
  simp

lemma Restricts.holds_iff {column : String} {values : List Json}
    (restricts : Restricts parameters column values condition) :
    condition.Holds compares row parameters ↔
      ∃ value ∈ values, compares "=" (row column) (.value value) := by
  cases condition with
  | compare name operator number =>
    obtain ⟨rfl, rfl, value, rfl, stored⟩ := restricts
    simp [Predicate.Holds, stored]
  | among name numbers =>
    obtain ⟨rfl, stored⟩ := restricts
    have found : ∀ parameter, (∃ number ∈ numbers, parameterAt parameters number = some parameter) ↔
        ∃ value ∈ values, Parameter.value value = parameter := by
      intro parameter
      have listed := congrArg (some parameter ∈ ·) stored
      simpa [List.mem_map] using listed
    simp only [Predicate.Holds]
    constructor
    · rintro ⟨number, mem, parameter, eq, holds⟩
      obtain ⟨value, inside, rfl⟩ := (found parameter).1 ⟨number, mem, eq⟩
      exact ⟨value, inside, holds⟩
    · rintro ⟨value, inside, holds⟩
      obtain ⟨number, mem, eq⟩ := (found _).2 ⟨value, inside, rfl⟩
      exact ⟨number, mem, _, eq, holds⟩

lemma Numbered.among (numbered : Numbered clauses) (column : String) (values : List Json) :
    Numbered (clauses.among column values) ∧ ((clauses.among column values).Hold compares row ↔
      clauses.Hold compares row ∧ ∃ value ∈ values, compares "=" (row column) (.value value)) := by
  obtain ⟨condition, appended, restricts⟩ := among_restricts clauses column values
  have eq := List.singleton_inj.1 (List.append_cancel_left appended)
  have numbers : condition.numbers = List.range' (clauses.parameters.length + 1) values.length := by
    rw [← eq]
    split
    · next one =>
      rw [one]
      rfl
    · exact List.range'_eq_map_range.symm
  subst eq
  obtain ⟨kept, means⟩ := numbered.append compares row (values.map fun _ => "scalar")
    (List.length_map _) numbers
  exact ⟨kept, means.trans (and_congr_right fun _ => restricts.holds_iff compares row)⟩

lemma foldlM_hold {α : Type} {step : Clauses → α → Except CompileError Clauses} (meaning : α → Prop)
    (each : ∀ clauses next entry, Numbered clauses → step clauses entry = .ok next →
      Numbered next ∧ (next.Hold compares row ↔ clauses.Hold compares row ∧ meaning entry))
    {entries : List α} (numbered : Numbered clauses)
    (passes : entries.foldlM step clauses = .ok next) : Numbered next ∧
      (next.Hold compares row ↔ clauses.Hold compares row ∧ ∀ entry ∈ entries, meaning entry) := by
  induction entries generalizing clauses with
  | nil =>
    cases passes
    exact ⟨numbered, by simp⟩
  | cons entry rest ih =>
    rw [List.foldlM_cons] at passes
    obtain ⟨middle, first, passes⟩ := of_bind_ok passes
    obtain ⟨kept, means⟩ := each _ _ _ numbered first
    obtain ⟨final, rest⟩ := ih kept passes
    exact ⟨final, by rw [rest, means, List.forall_mem_cons, and_assoc]⟩

lemma appendFilter_ok (passes : appendFilter allowed clauses item = .ok next) :
    ∃ fields column, item = .obj fields ∧ Fields.get? fields "column" = some (.str column) ∧
      next = clauses.compare column (operatorOf fields) ((Fields.get? fields "value").getD .null) := by
  unfold appendFilter at passes
  split at passes
  · next fields =>
    split at passes
    · next column named =>
      split at passes
      · cases passes
      cases passes
      cases stored : Fields.get? fields "column" with
      | none =>
        rw [stored] at named
        cases named
      | some value =>
        rw [stored] at named
        cases named
        exact ⟨fields, column, rfl, stored, rfl⟩
    · cases passes
    · cases passes
    · cases passes
  · cases passes

lemma baseClauses_hold {plan : Fields} {metric : Metric} {start stop : Moment}
    (passes : baseClauses plan metric start stop allowed = .ok next) :
    Numbered next ∧ (next.Hold compares row ↔
      (compares ">=" (row metric.timeColumn) (.moment start) ∧
        compares "<" (row metric.timeColumn) (.moment stop)) ∧
      (∀ entry ∈ metric.filters, compares "=" (row entry.1) (.value entry.2)) ∧
      ∀ item ∈ planFilters plan, FilterHolds compares row item) := by
  obtain ⟨filtered, metricFilters, passes⟩ := of_bind_ok passes
  have timed : Numbered (timeClauses metric start stop) := ⟨rfl, rfl⟩
  have times : (timeClauses metric start stop).Hold compares row ↔
      compares ">=" (row metric.timeColumn) (.moment start) ∧
        compares "<" (row metric.timeColumn) (.moment stop) := by
    simp [Clauses.Hold, timeClauses, Predicate.Holds, parameterAt]
  obtain ⟨numbered, means⟩ := foldlM_hold compares row
    (fun entry : String × Json => compares "=" (row entry.1) (.value entry.2))
    (fun clauses next entry numbered step => by
      unfold appendMetricFilter at step
      split at step
      · cases step
      cases step
      exact numbered.compare compares row entry.1 "=" entry.2) timed metricFilters
  split at passes
  · next items listed =>
    obtain ⟨numbered, planned⟩ := foldlM_hold compares row (FilterHolds compares row)
      (fun clauses next item numbered step => by
        obtain ⟨fields, column, rfl, named, rfl⟩ := appendFilter_ok step
        obtain ⟨kept, means⟩ := numbered.compare compares row column
          (operatorOf fields) ((Fields.get? fields "value").getD .null)
        refine ⟨kept, means.trans (and_congr_right fun _ => ⟨fun holds => ?_, ?_⟩)⟩
        · exact ⟨fields, column, rfl, named, holds⟩
        · rintro ⟨others, other, eq, found, holds⟩
          cases eq
          rw [named] at found
          cases found
          exact holds) numbered passes
    refine ⟨numbered, ?_⟩
    rw [planned, means, times, planFilters, listed, and_assoc]
    simp only [mem_sortedItems, Option.getD_some]
  · cases passes

lemma appendRowPolicy_hold {policy : Json} (numbered : Numbered clauses)
    (passes : appendRowPolicy policy allowed clauses = .ok next) :
    Numbered next ∧ (next.Hold compares row ↔ clauses.Hold compares row ∧
      ∀ entry ∈ usedEntries policy, ∃ value ∈ rowValues entry.2,
        compares "=" (row entry.1) (.value value)) := by
  rcases appendRowPolicy_cases passes with ⟨rfl, none_⟩ | ⟨entries, passes, used⟩
  · simp [numbered, none_]
  · obtain ⟨kept, means⟩ := foldlM_hold compares row (fun entry => entry.1 ∉ reservedKeys →
      ∃ value ∈ rowValues entry.2, compares "=" (row entry.1) (.value value))
      (fun clauses next entry numbered step => by
        rcases appendRow_ok step with ⟨reserved, rfl⟩ | ⟨plain, rfl⟩
        · exact ⟨numbered, by simp [reserved]⟩
        · obtain ⟨kept, means⟩ := numbered.among compares row entry.1 (rowValues entry.2)
          exact ⟨kept, by simpa [plain] using means⟩) numbered passes
    refine ⟨kept, means.trans (and_congr_right fun _ => ?_)⟩
    simp only [used, List.mem_filter, mem_sortedItems, decide_eq_true_eq, and_imp]

end

/-- The placeholders of an accepted plan are the numbers of its parameters, each once, and its
conditions hold of the rows that the plan and the row policy ask for. -/
theorem compile_denotes {library : Library} {settings : Settings} {catalog : Catalog}
    {principal : Principal} {plan : Fields} {compiled : CompiledQuery}
    (accepted : compile library settings catalog principal plan = .ok compiled) :
    ∃ request predicates, readPlan library plan = .ok request ∧
      validate library.sqlglot (queryPolicy library settings compiled.table compiled.dataSource
          (columnsOfTable catalog principal compiled.table))
        (queryText compiled.metric compiled.table compiled.dimensions predicates) =
          .ok compiled.validation ∧
      compiled.sql = compiled.validation.normalizedSql ∧
      compiled.parameters.length = compiled.parameterTypes.length ∧
      predicates.flatMap Predicate.numbers = List.range' 1 compiled.parameters.length ∧
      ∀ (Cell : Type) (compares : String → Cell → Parameter → Prop) (row : String → Cell),
        (∀ condition ∈ predicates, condition.Holds compares row compiled.parameters) ↔
          Denotes compares row compiled.metric request.start request.stop plan compiled.table.rowPolicy := by
  obtain ⟨request, base, clauses, reads, -, -, filtered, appended, parameters, types, validated, sql, -⟩ :=
    compile_ok accepted
  have means : ∀ (Cell : Type) (compares : String → Cell → Parameter → Prop) (row : String → Cell),
      Numbered clauses ∧ (clauses.Hold compares row ↔ Denotes compares row compiled.metric
        request.start request.stop plan compiled.table.rowPolicy) := by
    intro Cell compares row
    obtain ⟨numbered, planned⟩ := baseClauses_hold compares row filtered
    obtain ⟨kept, ruled⟩ := appendRowPolicy_hold compares row numbered appended
    refine ⟨kept, ruled.trans ⟨?_, fun denotes => ?_⟩⟩
    · rintro ⟨based, allowed⟩
      obtain ⟨⟨since, stops⟩, filters, items⟩ := planned.1 based
      exact ⟨since, stops, filters, items, allowed⟩
    · exact ⟨planned.2 ⟨⟨denotes.since, denotes.until_⟩, denotes.filters, denotes.planned⟩,
        denotes.allowed⟩
  have numbered := (means Unit (fun _ _ _ => True) fun _ => ()).1
  rw [parameters, types]
  exact ⟨request, clauses.predicates, reads, validated, sql, numbered.types.symm, numbered.numbers,
    fun Cell compares row => (means Cell compares row).2⟩

/-! ## A policy on a column with a reserved name -/

def sampleUuid (digit : Fin 16) : Uuid := .repeating digit

def sampleStart : String := "2026-01-01T00:00:00+00:00"

def sampleStop : String := "2026-02-01T00:00:00+00:00"

def sampleMoment (text : String) : Option Moment :=
  if text = sampleStart then some ⟨1767225600000000, true⟩
  else if text = sampleStop then some ⟨1769904000000000, true⟩
  else none

def sampleQuery : String :=
  "SELECT SUM(amount) AS \"revenue\" FROM \"analytics\".\"orders\" WHERE \"created_at\" >= $1 AND " ++
    "\"created_at\" < $2"

def sampleNumbered (kind column number : String) : Tree :=
  .node kind [("this", .one (sampleColumn column)),
    ("expression", .one (.node "Parameter" [("this", .one (.node "Literal" [("this", .text number)]))]))]

def sampleRange : Tree :=
  .node "And" [("this", .one (sampleNumbered "GTE" "created_at" "1")),
    ("expression", .one (sampleNumbered "LT" "created_at" "2"))]

def sampleAggregate (where_ : Tree) : Tree :=
  .node "Select" [("expressions", .many [.node "Alias" [("this", .one (.node "Sum" [("this", .one (sampleColumn "amount"))])),
      ("alias", sampleIdentifier "revenue")]]), sampleFrom, ("where", .one (.node "Where" [("this", .one where_)]))]

/-- The statement as the validator writes it, with more conditions behind the time range. -/
def sampleWritten (more : String) : String :=
  "SELECT\n  SUM(amount) AS \"revenue\"\nFROM \"analytics\".\"orders\"\nWHERE\n  \"created_at\" >= $1 AND " ++
    "\"created_at\" < $2" ++ more ++ "\nLIMIT 500"

def sampleLibrary (written : String) : Library where
  sqlglot := sampleSqlglot [(sampleQuery, sampleAggregate sampleRange),
    (sampleQuery ++ " AND \"region\" = $3", sampleAggregate (.node "And" [("this", .one sampleRange),
      ("expression", .one (sampleNumbered "EQ" "region" "3"))]))] written
  uuid := Uuid.parse?
  fromisoformat := sampleMoment

def sampleSettings : Settings := ⟨500, 5000, 1000000⟩

def sampleColumns : List DataColumn :=
  ["amount", "created_at", "description", "region"].map fun name => ⟨sampleUuid 0, sampleUuid 1, name, .obj []⟩

def sampleCatalog (policy : Json) : Catalog where
  sources := [⟨sampleUuid 2, sampleUuid 0, "postgres", sampleUuid 3, true, .obj []⟩]
  tables := [⟨sampleUuid 1, sampleUuid 0, sampleUuid 2, "analytics", "orders", policy⟩]
  columns := sampleColumns
  metrics := [⟨sampleUuid 4, sampleUuid 0, "revenue", "Revenue", 1, "SUM(amount)", [], "created_at", sampleUuid 1,
    "finance", true⟩]
  dimensions := []

def samplePrincipal : Principal := ⟨sampleUuid 5, sampleUuid 0, []⟩

def samplePlan : Fields :=
  [("metric_id", .str (sampleUuid 4).str), ("dimension_ids", .arr []),
    ("time_range", .obj [("start", .str sampleStart), ("end", .str sampleStop)]), ("filters", .arr [])]

def sampleCompiled (policy : Json) (written : String) : Except CompileError CompiledQuery :=
  compile (sampleLibrary written) sampleSettings (sampleCatalog policy) samplePrincipal samplePlan

def sampleDirect : Json := .obj [("region", .arr [.str "CN"])]

def sampleDirectWritten : String := sampleWritten " AND \"region\" = $3"

lemma sampleDirect_accepted :
    ∃ compiled, sampleCompiled sampleDirect sampleDirectWritten = .ok compiled := by
  have accepts : (sampleCompiled sampleDirect sampleDirectWritten).toOption.isSome = true := by decide +kernel
  cases accepted : sampleCompiled sampleDirect sampleDirectWritten with
  | error _ =>
    rw [accepted] at accepts
    cases accepts
  | ok compiled => exact ⟨compiled, rfl⟩

theorem compile_denotes_sample : ∃ compiled predicates,
    sampleCompiled sampleDirect sampleDirectWritten = .ok compiled ∧
      compiled.parameters.length = compiled.parameterTypes.length ∧
      List.flatMap Predicate.numbers predicates = List.range' 1 compiled.parameters.length := by
  obtain ⟨compiled, accepted⟩ := sampleDirect_accepted
  obtain ⟨_, predicates, -, -, -, types, numbers, -⟩ := compile_denotes accepted
  exact ⟨compiled, predicates, accepted, types, numbers⟩

def sampleReserved : Json := .obj [("column", .str "description"), ("allowed_values", .arr [.str "public"])]

lemma parameterAt_moments (start stop : Moment) (number : Nat) (value : Json) :
    parameterAt [.moment start, .moment stop] number ≠ some (.value value) := by
  rcases number with _ | _ | _ | number
  · exact nofun
  · exact nofun
  · exact nofun
  · exact nofun

def sendsMoments (sql : String) : Except CompileError CompiledQuery → Bool
  | .ok compiled => decide (compiled.sql = sql) && match compiled.parameters with
      | [.moment _, .moment _] => true
      | _ => false
  | .error _ => false

lemma eq_of_sendsMoments {sql : String} {found : Except CompileError CompiledQuery}
    (sends : sendsMoments sql found = true) : ∃ compiled start stop, found = .ok compiled ∧
      compiled.sql = sql ∧ compiled.parameters = [.moment start, .moment stop] := by
  cases found with
  | error _ => cases sends
  | ok compiled =>
    obtain ⟨sent, bound⟩ := Bool.and_eq_true_iff.1 sends
    split at bound
    · next start stop parameters => exact ⟨compiled, start, stop, rfl, of_decide_eq_true sent, parameters⟩
    · cases bound

end Obsion.DataIntelligence
