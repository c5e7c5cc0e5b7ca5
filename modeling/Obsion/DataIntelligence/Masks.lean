import Obsion.Base.Text
import Obsion.DataIntelligence.RowPolicy

/-! # The masks of the released rows

The compiler keys a mask by the name of the column, the planner carries the masks, and the
executor looks for one under the name of a column of the result. -/

namespace Obsion.DataIntelligence

open Obsion.Lib

/-! ## The executor -/

/-- A value of a record: what `json.dumps` can write, or another value with its text. -/
inductive Cell
  | json (value : Json)
  | date (isoformat : String)
  | decimal (text : String)
  | bytes (size : Nat)
  | other (text : String)

/-- `str(value)`, and `sha256(text.encode()).hexdigest()[:16]`. -/
structure Texts where
  str : Cell → String
  digest : String → String

def jsonValue : Cell → Json
  | .json value => value
  | .date isoformat => .str isoformat
  | .decimal text => .str text
  | .bytes size => .str ("<binary:" ++ toString size ++ ">")
  | .other text => .str text

def policyText (texts : Texts) (policy : Fields) (key default : String) : String :=
  match policy.get? key with
  | some (.str value) => value
  | some value => texts.str (.json value)
  | none => default

def isDisabled (policy : Fields) : Bool :=
  match policy.get? "enabled" with
  | some (.bool enabled) => !enabled
  | _ => false

def maskColumnValue (texts : Texts) (value : Cell) (policy : Option Json) : Cell :=
  match policy with
  | some (.obj fields) =>
    if isDisabled fields then value
    else
      let mode := Text.casefold (policyText texts fields "mode" "mask")
      if mode = "hash" then .json (.str (texts.digest (texts.str value)))
      else if mode ∈ ["mask", "redact", "hidden"] then
        .json (.str (policyText texts fields "replacement" "***"))
      else value
  | _ => value

structure Payload where
  sql : String
  parameters : List Parameter
  parameterTypes : List String
  columnMasks : Fields

/-- The step that `Planner.create` makes of a compiled query. -/
def plannedPayload (compiled : CompiledQuery) : Payload where
  sql := compiled.sql
  parameters := compiled.parameters
  parameterTypes := compiled.parameterTypes
  columnMasks := compiled.columnMasks

def releasedRow (texts : Texts) (masks : Fields) (names : List String) (record : List Cell) : Fields :=
  dictOf ((names.zip record).map fun item =>
    (item.1, jsonValue (maskColumnValue texts item.2 (masks.get? item.1))))

def releasedRows (texts : Texts) (maxRows : Nat) (payload : Payload) (names : List String)
    (records : List (List Cell)) : List Fields :=
  (records.take maxRows).map (releasedRow texts payload.columnMasks names)

inductive MaskAction
  | keep
  | hash
  | replace (text : String)
  deriving DecidableEq

def actionOf (texts : Texts) : Json → MaskAction
  | .obj fields =>
    if isDisabled fields then .keep
    else if Text.casefold (policyText texts fields "mode" "mask") = "hash" then .hash
    else if Text.casefold (policyText texts fields "mode" "mask") ∈ ["mask", "redact", "hidden"] then
      .replace (policyText texts fields "replacement" "***")
    else .keep
  | _ => .keep

def MaskAction.apply (texts : Texts) (value : Cell) : MaskAction → Json
  | .keep => jsonValue value
  | .hash => .str (texts.digest (texts.str value))
  | .replace text => .str text

lemma jsonValue_maskColumnValue (texts : Texts) (value : Cell) (policy : Option Json) :
    jsonValue (maskColumnValue texts value policy) =
      ((policy.map (actionOf texts)).getD .keep).apply texts value := by
  cases policy with
  | none => rfl
  | some policy =>
    cases policy with
    | obj fields =>
      rw [maskColumnValue, Option.map_some, Option.getD_some, actionOf]
      split
      · rfl
      dsimp only
      split
      · rfl
      split
      · rfl
      rfl
    | null => rfl
    | bool value => rfl
    | int value => rfl
    | float text => rfl
    | str value => rfl
    | arr values => rfl

lemma MaskAction.eq_of_apply {texts : Texts} (varies : ∃ one two, texts.digest (texts.str one) ≠
    texts.digest (texts.str two)) {left right : MaskAction} (masks : right ≠ .keep)
    (eq : ∀ value, left.apply texts value = right.apply texts value) : left = right := by
  obtain ⟨one, two, apart⟩ := varies
  cases right with
  | keep => exact absurd rfl masks
  | hash =>
    cases left with
    | keep => cases eq (.json .null)
    | hash => rfl
    | replace text =>
      have first := Json.str.inj (eq one)
      have second := Json.str.inj (eq two)
      exact absurd (first.symm.trans second) apart
  | replace text =>
    cases left with
    | keep => cases eq (.json .null)
    | hash =>
      have first := Json.str.inj (eq one)
      have second := Json.str.inj (eq two)
      exact absurd (first.trans second.symm) apart
    | replace other => rw [Json.str.inj (eq one)]

lemma get?_foldl_set (pairs init : Fields) (key : String) :
    Fields.get? (pairs.foldl (fun dict pair => Fields.set dict pair.1 pair.2) init) key =
      (Fields.get? pairs.reverse key).or (Fields.get? init key) := by
  induction pairs generalizing init with
  | nil => rfl
  | cons pair rest ih =>
    rw [List.foldl_cons, ih, List.reverse_cons, Fields.get?_append, Fields.get?_set, Option.or_assoc,
      Fields.get?_cons]
    by_cases eq : pair.1 = key
    · rw [if_pos eq, if_pos eq.symm]
      rfl
    rw [if_neg eq, if_neg (Ne.symm eq)]
    rfl

lemma get?_dictOf (pairs : Fields) (key : String) : (dictOf pairs).get? key = Fields.get? pairs.reverse key := by
  rw [dictOf, get?_foldl_set]
  exact Option.or_none

lemma get?_dictOf_append (front back : Fields) (key : String) :
    (dictOf (front ++ back)).get? key = ((dictOf back).get? key).or ((dictOf front).get? key) := by
  rw [get?_dictOf, get?_dictOf, get?_dictOf, List.reverse_append, Fields.get?_append]

variable {pairs : Fields} {key : String} {columns : List DataColumn} {policy : Json}

lemma get?_dictOf_of_notMem (absent : key ∉ pairs.map Prod.fst) :
    (dictOf pairs).get? key = none := by
  rw [get?_dictOf, Fields.get?, Option.map_eq_none_iff, List.find?_eq_none]
  intro pair mem eq
  refine absent (List.mem_map.2 ⟨pair, List.mem_reverse.1 mem, ?_⟩)
  exact beq_iff_eq.1 eq

lemma get?_dictOf_of_mem (present : key ∈ pairs.map Prod.fst) :
    ∃ value, (key, value) ∈ pairs ∧ (dictOf pairs).get? key = some value := by
  obtain ⟨pair, stored, rfl⟩ := List.mem_map.1 present
  cases found : pairs.reverse.find? fun field => field.1 == pair.1 with
  | none =>
    rw [List.find?_eq_none] at found
    exact absurd (beq_iff_eq.2 rfl) (found pair (List.mem_reverse.2 stored))
  | some last =>
    have here := List.find?_some found
    have eq : last.1 = pair.1 := beq_iff_eq.1 here
    have inside : last ∈ pairs := List.mem_reverse.1 (List.mem_of_find?_eq_some found)
    refine ⟨last.2, ?_, ?_⟩
    · rw [← eq]
      exact inside
    rw [get?_dictOf, Fields.get?, found]
    rfl

/-! ## The row of a record -/

section

variable (texts : Texts) (masks : Fields) {name : String}

def maskUnder (texts : Texts) (masks : Fields) (name : String) : MaskAction :=
  ((masks.get? name).map (actionOf texts)).getD .keep

variable {front back : List String} {left right record : List Cell}

lemma releasedRow_append (sizes : front.length = left.length) :
    (releasedRow texts masks (front ++ back) (left ++ right)).get? name =
      ((releasedRow texts masks back right).get? name).or ((releasedRow texts masks front left).get? name) := by
  rw [releasedRow, List.zip_append sizes, List.map_append, get?_dictOf_append]
  rfl

variable {names : List String} {cell : Cell}

lemma releasedRow_notMem (absent : name ∉ names) :
    (releasedRow texts masks names record).get? name = none := by
  refine get?_dictOf_of_notMem fun present => absent ?_
  rw [List.map_map] at present
  obtain ⟨item, inside, rfl⟩ := List.mem_map.1 present
  exact (List.of_mem_zip inside).1

lemma releasedRow_mem (sizes : names.length = record.length) (present : name ∈ names) : ∃ cell ∈ record,
      (releasedRow texts masks names record).get? name = some ((maskUnder texts masks name).apply texts cell) := by
  have keys : name ∈ ((names.zip record).map fun item =>
      (item.1, jsonValue (maskColumnValue texts item.2 (masks.get? item.1)))).map Prod.fst := by
    rw [List.map_map]
    change name ∈ (names.zip record).map Prod.fst
    rw [List.map_fst_zip (le_of_eq sizes)]
    exact present
  obtain ⟨value, stored, found⟩ := get?_dictOf_of_mem keys
  obtain ⟨item, inside, eq⟩ := List.mem_map.1 stored
  refine ⟨item.2, (List.of_mem_zip inside).2, ?_⟩
  rw [releasedRow, found]
  cases eq
  rw [jsonValue_maskColumnValue]
  rfl

lemma releasedRow_last (sizes : front.length = left.length) (last : name ∉ back) :
    (releasedRow texts masks (front ++ name :: back) (left ++ cell :: right)).get? name =
      some ((maskUnder texts masks name).apply texts cell) := by
  have single : (releasedRow texts masks [name] [cell]).get? name =
      some ((maskUnder texts masks name).apply texts cell) := by
    obtain ⟨found, inside, released⟩ := releasedRow_mem texts masks
      (show [name].length = [cell].length from rfl) (List.mem_singleton.2 rfl)
    rw [List.mem_singleton] at inside
    rw [released, inside]
  rw [releasedRow_append texts masks sizes, show name :: back = [name] ++ back from rfl,
    show cell :: right = [cell] ++ right from rfl, releasedRow_append texts masks rfl, releasedRow_notMem texts masks last, single]
  rfl

lemma releasedRow_later (sizes : front.length = left.length) (rest : back.length = right.length)
    (later : name ∈ back) :
    ∃ found ∈ right, (releasedRow texts masks (front ++ name :: back) (left ++ cell :: right)).get? name =
      some ((maskUnder texts masks name).apply texts found) := by
  obtain ⟨found, inside, released⟩ := releasedRow_mem texts masks rest later
  refine ⟨found, inside, ?_⟩
  rw [releasedRow_append texts masks sizes, show name :: back = [name] ++ back from rfl,
    show cell :: right = [cell] ++ right from rfl, releasedRow_append texts masks rfl, released]
  rfl

lemma exists_split (size : record.length = (front ++ name :: back).length) : ∃ left cell right,
      record = left ++ cell :: right ∧ front.length = left.length ∧ back.length = right.length := by
  rw [List.length_append, List.length_cons] at size
  have inside : front.length < record.length := by omega
  refine ⟨record.take front.length, record[front.length], record.drop (front.length + 1), ?_, ?_, ?_⟩
  · rw [List.getElem_cons_drop, List.take_append_drop]
  · rw [List.length_take]
    omega
  · rw [List.length_drop]
    omega

end

lemma get?_columnMasks (unique : (columns.map DataColumn.name).Nodup) {name : String} :
    (columnMasks columns).get? name = some policy ↔
      ∃ column ∈ columns, column.hasMask = true ∧ column.name = name ∧ column.maskPolicy = policy := by
  have pairs : ∀ value, (name, value) ∈ (columns.filter DataColumn.hasMask).map (fun column =>
      (column.name, column.maskPolicy)) ↔
        ∃ column ∈ columns, column.hasMask = true ∧ column.name = name ∧ column.maskPolicy = value := by
    intro value
    simp only [List.mem_map, List.mem_filter, Prod.mk.injEq, and_assoc]
  constructor
  · intro found
    by_cases present : name ∈ ((columns.filter DataColumn.hasMask).map fun column =>
        (column.name, column.maskPolicy)).map Prod.fst
    · obtain ⟨value, stored, kept⟩ := get?_dictOf_of_mem present
      rw [columnMasks, kept] at found
      cases found
      exact (pairs policy).1 stored
    · rw [columnMasks, get?_dictOf_of_notMem present] at found
      cases found
  · rintro ⟨column, mem, masked, here, rfl⟩
    have stored := (pairs column.maskPolicy).2 ⟨column, mem, masked, here, rfl⟩
    obtain ⟨value, inside, kept⟩ := get?_dictOf_of_mem (List.mem_map.2 ⟨_, stored, rfl⟩)
    obtain ⟨other, among, -, there, eq⟩ := (pairs value).1 inside
    have one : other = column := List.inj_on_of_nodup_map unique among mem (there.trans here.symm)
    rw [columnMasks, kept, ← eq, one]

lemma maskUnder_columnMasks_iff (texts : Texts) (unique : (columns.map DataColumn.name).Nodup)
    (name : String) {action : MaskAction} (masks : action ≠ .keep) :
    maskUnder texts (columnMasks columns) name = action ↔
      ∃ column ∈ columns, column.hasMask = true ∧ column.name = name ∧ actionOf texts column.maskPolicy = action := by
  constructor
  · intro eq
    rw [maskUnder] at eq
    cases found : (columnMasks columns).get? name with
    | none =>
      rw [found] at eq
      exact absurd eq.symm masks
    | some policy =>
      rw [found] at eq
      obtain ⟨column, mem, masked, here, rfl⟩ := (get?_columnMasks unique).1 found
      exact ⟨column, mem, masked, here, eq⟩
  · rintro ⟨column, mem, masked, here, eq⟩
    rw [maskUnder, (get?_columnMasks unique).2 ⟨column, mem, masked, here, rfl⟩]
    exact eq

def IsColumn (expression name : String) : Prop := expression = name ∨ expression = quotedName name

/-- A selected dimension that is exactly a column with a mask. -/
structure MaskedDimension (texts : Texts) (columns : List DataColumn) (dimensions : List Dimension)
    (dimension : Dimension) (column : DataColumn) : Prop where
  selected : dimension ∈ dimensions
  stored : column ∈ columns
  exact : IsColumn dimension.expression column.name
  configured : column.hasMask = true
  masks : actionOf texts column.maskPolicy ≠ .keep

/-- In every released row, the value under the name of the output column is the masked value
of its cell in the record. -/
def ReleasesMasked (texts : Texts) (maxRows : Nat) (payload : Payload) (front : List String) (name : String)
    (back : List String) (policy : Json) : Prop :=
  ∀ records : List (List Cell), (∀ record ∈ records, record.length = (front ++ name :: back).length) →
    List.Forall₂ (fun record row => ∃ cell, record[front.length]? = some cell ∧
        row.get? name = some (jsonValue (maskColumnValue texts cell (some policy))))
      (records.take maxRows) (releasedRows texts maxRows payload (front ++ name :: back) records)

lemma releasesMasked_iff {texts : Texts} {maxRows : Nat} {payload : Payload} {front : List String}
    {name : String} {back : List String}
    (varies : ∃ one two, texts.digest (texts.str one) ≠ texts.digest (texts.str two))
    (rows : 0 < maxRows) (masks : actionOf texts policy ≠ .keep) :
    ReleasesMasked texts maxRows payload front name back policy ↔
      maskUnder texts payload.columnMasks name = actionOf texts policy ∧
        (name ∉ back ∨ ∃ text, actionOf texts policy = .replace text) := by
  have wanted : ∀ cell, jsonValue (maskColumnValue texts cell (some policy)) = (actionOf texts policy).apply texts cell :=
    fun cell => jsonValue_maskColumnValue texts cell (some policy)
  constructor
  · intro released
    have alone : ∀ left cell right, front.length = left.length → back.length = right.length →
        (releasedRow texts payload.columnMasks (front ++ name :: back) (left ++ cell :: right)).get? name =
          some ((actionOf texts policy).apply texts cell) := by
      intro left cell right leftSize rightSize
      have one := released [left ++ cell :: right] (by simp [leftSize, rightSize])
      rw [releasedRows, List.take_of_length_le (by rw [List.length_singleton]; omega), List.map_singleton] at one
      obtain ⟨⟨found, stored, value⟩, -⟩ := List.forall₂_cons.1 one
      rw [List.getElem?_append_right (le_of_eq leftSize.symm), leftSize, Nat.sub_self] at stored
      cases stored
      rw [value, wanted]
    have action : maskUnder texts payload.columnMasks name = actionOf texts policy := by
      refine MaskAction.eq_of_apply varies masks fun value => ?_
      have row := alone (List.replicate front.length value) value (List.replicate back.length value)
        (by simp) (by simp)
      by_cases last : name ∈ back
      · obtain ⟨found, inside, later⟩ := releasedRow_later texts payload.columnMasks
          (show front.length = (List.replicate front.length value).length by simp)
          (show back.length = (List.replicate back.length value).length by simp) last
        rw [List.eq_of_mem_replicate inside] at later
        exact Option.some.inj (later.symm.trans row)
      · rw [releasedRow_last texts payload.columnMasks (by simp) last] at row
        exact Option.some.inj row
    refine ⟨action, ?_⟩
    by_cases last : name ∈ back
    · right
      cases kind : actionOf texts policy with
      | keep => exact absurd kind masks
      | replace text => exact ⟨text, rfl⟩
      | hash =>
        obtain ⟨one, two, apart⟩ := varies
        have row := alone (List.replicate front.length one) one (List.replicate back.length two) (by simp) (by simp)
        obtain ⟨found, inside, later⟩ := releasedRow_later texts payload.columnMasks
          (show front.length = (List.replicate front.length one).length by simp)
          (show back.length = (List.replicate back.length two).length by simp) last
        rw [List.eq_of_mem_replicate inside, action] at later
        have eq := Option.some.inj (later.symm.trans row)
        rw [kind] at eq
        exact absurd (Json.str.inj eq).symm apart
    · exact .inl last
  · rintro ⟨action, last⟩ records sizes
    rw [releasedRows, List.forall₂_map_right_iff, List.forall₂_same]
    intro record mem
    obtain ⟨left, cell, right, rfl, leftSize, rightSize⟩ := exists_split (sizes record (List.mem_of_mem_take mem))
    refine ⟨cell, ?_, ?_⟩
    · rw [List.getElem?_append_right (le_of_eq leftSize.symm), leftSize, Nat.sub_self]
      rfl
    rw [wanted, ← action]
    by_cases later : name ∈ back
    · obtain ⟨found, -, value⟩ := releasedRow_later texts payload.columnMasks
        leftSize rightSize later
      obtain ⟨text, replaces⟩ := last.resolve_left (not_not_intro later)
      rw [value, action, replaces]
      rfl
    · exact releasedRow_last texts payload.columnMasks leftSize later

/-- The mask of a column reaches the rows of a dimension exactly where a column with the name
of the output column has a mask that does the same, and no later output column takes its place. -/
theorem compile_masks_reach_iff {library : Library} {settings : Settings} {catalog : Catalog} {principal : Principal}
    {plan : Fields} {compiled : CompiledQuery} {texts : Texts} {maxRows : Nat} {label : String → String}
    {dimension : Dimension} {column : DataColumn} {front back : List String}
    (accepted : compile library settings catalog principal plan = .ok compiled)
    (unique : ((columnsOfTable catalog principal compiled.table).map DataColumn.name).Nodup)
    (masked : MaskedDimension texts (columnsOfTable catalog principal compiled.table) compiled.dimensions
      dimension column)
    (varies : ∃ one two, texts.digest (texts.str one) ≠ texts.digest (texts.str two)) (rows : 0 < maxRows) :
    ReleasesMasked texts maxRows (plannedPayload compiled) front (label dimension.name) back column.maskPolicy ↔
      (∃ other ∈ columnsOfTable catalog principal compiled.table, other.hasMask = true ∧
        other.name = label dimension.name ∧ actionOf texts other.maskPolicy = actionOf texts column.maskPolicy) ∧
      (label dimension.name ∉ back ∨ ∃ text, actionOf texts column.maskPolicy = .replace text) := by
  obtain ⟨request, base, clauses, -, -, -, -, -, -, -, -, -, masks⟩ := compile_ok accepted
  rw [releasesMasked_iff varies rows masked.masks,
    ← maskUnder_columnMasks_iff texts unique (label dimension.name) masked.masks, ← masks]
  rfl

/-! ## A dimension with another name than its column -/

def sampleStr : Cell → String
  | .json (.str value) => value
  | .json (.int value) => toString value
  | .date isoformat => isoformat
  | .decimal text => text
  | .other text => text
  | _ => "None"

def sampleDigests : List (String × String) := [("CN", "9fc4508238942e7c"), ("EU", "9170a8b2fb3234ba")]

def sampleTexts : Texts where
  str := sampleStr
  digest text := (((sampleDigests.find? fun entry => entry.1 = text).map Prod.snd).getD "")

lemma sampleTexts_varies : ∃ one two, sampleTexts.digest (sampleTexts.str one) ≠
    sampleTexts.digest (sampleTexts.str two) :=
  ⟨.json (.str "CN"), .json (.str "EU"), by decide⟩

def sampleRegion : DataColumn := ⟨sampleUuid 0, sampleUuid 1, "region", .obj [("mode", .str "hash")]⟩

def sampleMaskColumns : List DataColumn :=
  [⟨sampleUuid 0, sampleUuid 1, "amount", .obj []⟩, ⟨sampleUuid 0, sampleUuid 1, "created_at", .obj []⟩, sampleRegion]

def sampleDimension (name : String) : Dimension := ⟨sampleUuid 6, sampleUuid 0, name, 1, "region", sampleUuid 1⟩

def sampleMaskCatalog (name : String) : Catalog where
  sources := (sampleCatalog (.obj [])).sources
  tables := (sampleCatalog (.obj [])).tables
  columns := sampleMaskColumns
  metrics := (sampleCatalog (.obj [])).metrics
  dimensions := [sampleDimension name]

def sampleMaskQuery (name : String) : String :=
  "SELECT region AS \"" ++ name ++ "\", SUM(amount) AS \"revenue\" FROM \"analytics\".\"orders\" WHERE " ++
    "\"created_at\" >= $1 AND \"created_at\" < $2 GROUP BY region"

def sampleMaskTree (name : String) : Tree :=
  .node "Select"
    [("expressions", .many
      [.node "Alias" [("this", .one (sampleColumn "region")), ("alias", sampleIdentifier name)],
        .node "Alias" [("this", .one (.node "Sum" [("this", .one (sampleColumn "amount"))])),
          ("alias", sampleIdentifier "revenue")]]),
      sampleFrom, ("where", .one (.node "Where" [("this", .one sampleRange)])),
      ("group", .one (.node "Group" [("expressions", .many [sampleColumn "region"])]))]

def sampleMaskWritten (name : String) : String :=
  "SELECT\n  region AS \"" ++ name ++ "\",\n  SUM(amount) AS \"revenue\"\nFROM \"analytics\".\"orders\"\n" ++
    "WHERE\n  \"created_at\" >= $1 AND \"created_at\" < $2\nGROUP BY\n  region\nLIMIT 500"

def sampleMaskLibrary (name : String) : Library where
  sqlglot := sampleSqlglot [(sampleMaskQuery name, sampleMaskTree name)] (sampleMaskWritten name)
  uuid := Uuid.parse?
  fromisoformat := sampleMoment

def sampleMaskPlan : Fields :=
  [("metric_id", .str (sampleUuid 4).str), ("dimension_ids", .arr [.str (sampleUuid 6).str]),
    ("time_range", .obj [("start", .str sampleStart), ("end", .str sampleStop)]), ("filters", .arr [])]

def sampleByRegion (name : String) : Except CompileError CompiledQuery :=
  compile (sampleMaskLibrary name) sampleSettings (sampleMaskCatalog name) samplePrincipal sampleMaskPlan

def groupsBy (name : String) : Except CompileError CompiledQuery → Bool
  | .ok compiled => decide (compiled.table.id = sampleUuid 1 ∧ compiled.dimensions = [sampleDimension name])
  | .error _ => false

lemma eq_of_groupsBy (name : String) (groups : groupsBy name (sampleByRegion name) = true) :
    ∃ compiled, sampleByRegion name = .ok compiled ∧ compiled.table.id = sampleUuid 1 ∧
      compiled.dimensions = [sampleDimension name] := by
  cases found : sampleByRegion name with
  | error _ =>
    rw [found] at groups
    cases groups
  | ok compiled =>
    rw [found] at groups
    exact ⟨compiled, rfl, of_decide_eq_true groups⟩

lemma columnsOfTable_sample (name : String) {table : DataTable} (id : table.id = sampleUuid 1) :
    columnsOfTable (sampleMaskCatalog name) samplePrincipal table = sampleMaskColumns := by
  rw [columnsOfTable, id]
  rfl

lemma maskedDimension_sample (name : String) : MaskedDimension sampleTexts sampleMaskColumns [sampleDimension name]
    (sampleDimension name) sampleRegion where
  selected := List.mem_singleton.2 rfl
  stored := List.mem_cons_of_mem _ (List.mem_cons_of_mem _ List.mem_cons_self)
  exact := Or.inl rfl
  configured := rfl
  masks := by decide +kernel

theorem compile_masks_reach_sample : ∃ compiled, sampleByRegion "region" = .ok compiled ∧
    (ReleasesMasked sampleTexts 5000 (plannedPayload compiled) [] (id (sampleDimension "region").name) ["revenue"]
        sampleRegion.maskPolicy ↔
      (∃ other ∈ columnsOfTable (sampleMaskCatalog "region") samplePrincipal compiled.table, other.hasMask = true ∧
        other.name = id (sampleDimension "region").name ∧
          actionOf sampleTexts other.maskPolicy = actionOf sampleTexts sampleRegion.maskPolicy) ∧
      (id (sampleDimension "region").name ∉ ["revenue"] ∨
        ∃ text, actionOf sampleTexts sampleRegion.maskPolicy = .replace text)) := by
  obtain ⟨compiled, accepted, table, dimensions⟩ := eq_of_groupsBy "region" (by decide +kernel)
  have columns := columnsOfTable_sample "region" table
  have unique : ((columnsOfTable (sampleMaskCatalog "region") samplePrincipal compiled.table).map
      DataColumn.name).Nodup := by
    rw [columns]
    decide
  have masked : MaskedDimension sampleTexts (columnsOfTable (sampleMaskCatalog "region") samplePrincipal
      compiled.table) compiled.dimensions (sampleDimension "region") sampleRegion := by
    rw [columns, dimensions]
    exact maskedDimension_sample "region"
  exact ⟨compiled, accepted, compile_masks_reach_iff accepted unique masked sampleTexts_varies (by decide)⟩

/-- The hashed column leaves the executor as it is under the name of the dimension. -/
theorem renamed_dimension_unmasked : ∃ compiled, sampleByRegion "customer_region" = .ok compiled ∧
    MaskedDimension sampleTexts (columnsOfTable (sampleMaskCatalog "customer_region") samplePrincipal compiled.table)
      compiled.dimensions (sampleDimension "customer_region") sampleRegion ∧
    releasedRows sampleTexts 5000 (plannedPayload compiled) ["customer_region", "revenue"]
      [[.json (.str "CN"), .decimal "125.50"]] =
        [[("customer_region", .str "CN"), ("revenue", .str "125.50")]] ∧
    jsonValue (maskColumnValue sampleTexts (.json (.str "CN")) (some sampleRegion.maskPolicy)) =
      .str "9fc4508238942e7c" := by
  obtain ⟨compiled, accepted, table, dimensions⟩ := eq_of_groupsBy "customer_region" (by decide +kernel)
  have columns := columnsOfTable_sample "customer_region" table
  obtain ⟨request, base, clauses, -, -, -, -, -, -, -, -, -, masks⟩ := compile_ok accepted
  refine ⟨compiled, accepted, ?_, ?_, by rfl⟩
  · rw [columns, dimensions]
    exact maskedDimension_sample "customer_region"
  rw [plannedPayload, masks, columns]
  rfl

end Obsion.DataIntelligence
