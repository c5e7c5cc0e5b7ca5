import Obsion.Knowledge.Jsonml.Text

/-! # Conservative layout interpretation

The values `json.loads` returns, the numbering of ordered lists and the geometry of
tables.  A counter that a group does not have is absent from its dict; the model
keeps one partial function for all groups. -/

namespace Obsion.Jsonml

/-- A JSON value.  A float is its number, `none` where it is infinite or not a number. -/
inductive Value
  | null
  | bool (value : Bool)
  | int (value : Int)
  | float (value : Option Rat)
  | str (value : Text)
  | arr (values : List Value)
  | obj (fields : List (Text × Value))

abbrev Attributes := List (Text × Value)

def attribute? (attributes : Attributes) (key : String) : Option Value :=
  (attributes.find? fun field => field.1 == text key).map Prod.snd

/-- `attributes.get(key, default)` -/
def attributeOr (attributes : Attributes) (key : String) (default : Value) : Value :=
  (attribute? attributes key).getD default

def Value.isTrue : Value → Bool
  | .bool value => value
  | _ => false

def Value.isFalse : Value → Bool
  | .bool value => !value
  | _ => false

def Value.truthy : Value → Bool
  | .null => false
  | .bool value => value
  | .int value => value != 0
  | .float value => value != some 0
  | .str value => !value.isEmpty
  | .arr values => !values.isEmpty
  | .obj fields => !fields.isEmpty

def Value.isOne : Value → Bool
  | .bool value => value
  | .int value => value == 1
  | .float value => value == some 1
  | _ => false

/-- `value == literal` for a string literal. -/
def Value.isText (value : Value) (literal : String) : Bool :=
  match value with
  | .str found => found == text literal
  | _ => false

def Value.isBool : Value → Bool
  | .bool _ => true
  | _ => false

def Value.int? : Value → Option Int
  | .int value => some value
  | _ => none

def Value.str? : Value → Option Text
  | .str value => some value
  | _ => none

def Value.fields? : Value → Option Attributes
  | .obj fields => some fields
  | _ => none

/-- `element[1]` of an element. -/
def Value.attributes : Value → Attributes
  | .arr (_ :: .obj attributes :: _) => attributes
  | _ => []

def Value.children : Value → List Value
  | .arr values => values.drop 2
  | _ => []

def maxTableCells : Nat := 10000
def maxListLevel : Int := 8
def maxListNumber : Int := 1000000
def maxLayoutChars : Nat := 1400

/-! ## Ordered lists -/

structure OrderedLists where
  groups : Text → Int → Option Int
  invalid : Text → Bool

def OrderedLists.new : OrderedLists where
  groups := fun _ _ => none
  invalid := fun _ => false

/-- The letters of a number, most significant first: `a`, …, `z`, `aa`, …  Each turn of
the loop makes the number smaller. -/
def lowerLetters : Nat → Nat → Text → Text
  | 0, _, rendered => rendered
  | fuel + 1, number, rendered =>
    if number = 0 then rendered
    else lowerLetters fuel ((number - 1) / 26)
      (Fin.ofNat 0x110000 (97 + (number - 1) % 26) :: rendered)

def decimal (number : Int) : Text := text (toString number)

/-- The last character of the two accepted texts `%n.` and `%n)` of a level. -/
def levelSuffix? (style : Attributes) (level : Int) : Option CodePoint :=
  match (attribute? style "text").bind Value.str? with
  | none => none
  | some found =>
    if found = text "%" ++ decimal (level + 1) ++ text "." then some (point '.')
    else if found = text "%" ++ decimal (level + 1) ++ text ")" then some (point ')')
    else none

/-- `style["format"]` is one of the two accepted formats; whether it is the lettered one. -/
def lettered? (style : Attributes) : Option Bool :=
  if (attributeOr style "format" .null).isText "decimal" then some false
  else if (attributeOr style "format" .null).isText "lowerLetter" then some true
  else none

/-- The number of the next item: the counter of the level, or the start of the list. -/
def OrderedLists.next? (lists : OrderedLists) (group : Text) (level : Int)
    (listing : Attributes) : Option Int :=
  if (List.range level.toNat).any fun parent => (lists.groups group parent).isNone then none
  else
    match (attributeOr listing "start" (.int 1)).int? with
    | none => none
    | some start =>
      if start < 1 ∨ maxListNumber < start ∨
          ((attribute? listing "start").isSome ∧ (lists.groups group level).isSome) then none
      else
        let number := (lists.groups group level).getD (start - 1) + 1
        if maxListNumber < number then none else some number

def OrderedLists.count (lists : OrderedLists) (group : Text) (level number : Int) : OrderedLists :=
  { lists with
    groups := fun other nested =>
      if other = group then
        if nested = level then some number
        else if level < nested then none
        else lists.groups group nested
      else lists.groups other nested }

/-- `_label` -/
def OrderedLists.label? (lists : OrderedLists) (group : Text) (level : Option Int)
    (listing : Attributes) : Option (Text × OrderedLists) :=
  match level with
  | none => none
  | some level =>
    if lists.invalid group ∨ level < 0 ∨ maxListLevel < level ∨
        ¬ (attributeOr listing "hideSymbol" (.bool false)).isFalse ∨
        ¬ (attributeOr listing "isTaskList" (.bool false)).isFalse then none
    else
      match (attribute? listing "listStyle").bind Value.fields? with
      | none => none
      | some style =>
        match lettered? style, levelSuffix? style level with
        | some lettered, some suffix =>
          match lists.next? group level listing with
          | none => none
          | some number =>
            let rendered :=
              if lettered then lowerLetters number.toNat number.toNat [] else decimal number
            some ((List.replicate level.toNat (text "  ")).flatten ++ rendered ++
              [suffix, point ' '], lists.count group level number)
        | _, _ => none

/-- `OrderedLists.label`: a lost item makes the later counters of its group unusable. -/
def OrderedLists.label (lists : OrderedLists) (listing : Attributes) : Option Text × OrderedLists :=
  match (attribute? listing "listId").bind Value.str? with
  | none => (none, lists)
  | some group =>
    if group = [] ∨ 256 < group.length then (none, lists)
    else
      match lists.label? group ((attribute? listing "level").bind Value.int?) listing with
      | some (label, counted) => (some label, counted)
      | none =>
        (none, { lists with invalid := fun other => decide (other = group) || lists.invalid other })

/-- A row as `table_geometry` accepts it. -/
def isRow : Value → Bool
  | .arr (.str name :: .obj attributes :: _ :: _) =>
    name == text "tr" && (attributeOr attributes "isTblHeader" (.bool false)).isBool
  | _ => false

def cellShape? : Value → Option (Bool × Int × Int)
  | .arr (.str name :: .obj attributes :: _) =>
    if name = text "tc" then
      match attributeOr attributes "hidden" (.bool false), attributeOr attributes "rowSpan" (.int 1),
          attributeOr attributes "colSpan" (.int 1) with
      | .bool hidden, .int rowSpan, .int colSpan => some (hidden, rowSpan, colSpan)
      | _, _, _ => none
    else none
  | _ => none

def spanned (row column : Nat) (rowSpan colSpan : Int) : List (Nat × Nat) :=
  (List.range rowSpan.toNat).flatMap fun below =>
    (List.range colSpan.toNat).map fun right => (row + below, column + right)

/-- The places after one cell, and whether the cell needs markup. -/
def coverCell (height width row column : Nat) (cell : Value) (covered : List (Nat × Nat)) :
    Option (List (Nat × Nat) × Bool) :=
  match cellShape? cell with
  | none => none
  | some (hidden, rowSpan, colSpan) =>
    if rowSpan < 1 ∨ colSpan < 1 ∨ (height : Int) < row + rowSpan ∨
        (width : Int) < column + colSpan then none
    else if hidden then
      if (row, column) ∉ covered ∨ rowSpan ≠ 1 ∨ colSpan ≠ 1 then none else some (covered, false)
    else
      let places := spanned row column rowSpan colSpan
      if places.any fun place => covered.contains place then none
      else some (covered ++ places, decide (1 < rowSpan ∨ 1 < colSpan))

def coverCells (height width row : Nat) : List Value → Nat → List (Nat × Nat) →
    Option (List (Nat × Nat) × Bool)
  | [], _, covered => some (covered, false)
  | cell :: rest, column, covered =>
    match coverCell height width row column cell covered with
    | none => none
    | some (covered, marked) =>
      (coverCells height width row rest (column + 1) covered).map fun (covered, later) =>
        (covered, marked || later)

def coverRows (height width : Nat) : List Value → Nat → List (Nat × Nat) → Option Bool
  | [], _, _ => some false
  | cells :: rest, row, covered =>
    match coverCells height width row cells.children 0 covered with
    | none => none
    | some (covered, marked) =>
      (coverRows height width rest (row + 1) covered).map fun later => marked || later

/-- `table_geometry`: `none` where the grid is not valid, else whether it needs markup. -/
def tableGeometry (rows : List Value) : Option Bool :=
  if rows.isEmpty ∨ maxTableCells < rows.length then none
  else if ¬ rows.all isRow then none
  else
    let width := (rows.head?.map fun row => row.children.length).getD 0
    if maxTableCells < width * rows.length ∨
        rows.any fun row => row.children.length != width then none
    else
      (coverRows rows.length width rows 0 []).map fun marked =>
        (rows.any fun row => (attributeOr row.attributes "isTblHeader" (.bool false)).isTrue) || marked

lemma row_of_tableGeometry {rows : List Value} {markup : Bool}
    (valid : tableGeometry rows = some markup) {row : Value} (mem : row ∈ rows) :
    ∃ attributes cells, row = .arr (.str (text "tr") :: .obj attributes :: cells) := by
  unfold tableGeometry at valid
  split at valid
  · cases valid
  split at valid
  · cases valid
  next shaped =>
  rw [not_not, List.all_eq_true] at shaped
  have row_shape := shaped row mem
  unfold isRow at row_shape
  split at row_shape
  · next name attributes first rest =>
    rw [Bool.and_eq_true, beq_iff_eq] at row_shape
    exact ⟨attributes, first :: rest, by rw [row_shape.1]⟩
  · cases row_shape

end Obsion.Jsonml
