import Obsion.Base.Dumps

/-! # JSON texts with lone surrogates

`json.loads` and `json.dumps` of frames.  An escape can name half of a surrogate pair, so a
string that was read is a list of code points, and not every one of them can be sent. -/

namespace Obsion.Wide

inductive CodePoint
  | char (value : Char)
  | surrogate (offset : Fin 0x800)
  deriving DecidableEq

def CodePoint.code : CodePoint → Nat
  | .char value => value.toNat
  | .surrogate offset => 0xd800 + offset.val

def CodePoint.isChar : CodePoint → Bool
  | .char _ => true
  | .surrogate _ => false

/-- A Python `str`. -/
abbrev Text := List CodePoint

def text (value : String) : Text := value.toList.map CodePoint.char

def encodes (value : Text) : Bool := value.all CodePoint.isChar

@[simp] lemma encodes_text (value : String) : encodes (text value) = true := by
  rw [encodes, text, List.all_map]
  exact List.all_eq_true.2 fun _ _ => rfl

inductive Value
  | null
  | bool (value : Bool)
  | int (value : Int)
  | float (text : String)
  | str (value : Text)
  | arr (values : List Value)
  | obj (fields : List (Text × Value))
  /-- an object that `json.dumps` has no text for -/
  | other

/-- A `dict` with texts as keys. -/
abbrev Members := List (Text × Value)

def get? (fields : Members) (key : String) : Option Value :=
  (fields.find? fun field => field.1 = text key).map Prod.snd

def set (fields : Members) (key : Text) (value : Value) : Members :=
  if fields.any fun field => field.1 = key then
    fields.map fun field => if field.1 = key then (key, value) else field
  else fields ++ [(key, value)]

/-! ## Reading -/

/-- What `json.loads` raises: a `JSONDecodeError`, another `ValueError` or a
`RecursionError`. -/
inductive Undecoded
  | decode
  | value
  | recursion
  deriving DecidableEq

abbrev Decoder := StateT (List Char) (Except Undecoded)

def fail {α : Type} : Decoder α := throw .decode

def symbol : Decoder Char
  | [] => .error .decode
  | first :: rest => .ok (first, rest)

def peek (expected : List Char) : Decoder Bool := fun rest => .ok (expected.isPrefixOf rest, rest)

def literal (expected : List Char) : Decoder Unit := fun rest =>
  match rest.dropPrefix? expected with
  | some more => .ok ((), more)
  | none => .error .decode

def isWhite (char : Char) : Bool := char == ' ' || char == '\t' || char == '\n' || char == '\r'

def space : Decoder Unit := fun rest => .ok ((), rest.dropWhile isWhite)

def hexDigit : Decoder Nat := do
  match hexDigit? (← symbol) with
  | some digit => pure digit.val
  | none => fail

def hex4 : Decoder Nat := do
  let first ← hexDigit
  let second ← hexDigit
  let third ← hexDigit
  let fourth ← hexDigit
  pure (4096 * first + 256 * second + 16 * third + fourth)

def codePoint (code : Nat) : CodePoint :=
  if 0xd800 ≤ code ∧ code ≤ 0xdfff then .surrogate (Fin.ofNat 0x800 (code - 0xd800))
  else .char (Char.ofNat code)

/-- `\uXXXX`; two of them make one character where they are a surrogate pair. -/
def unicode : Decoder CodePoint := do
  let code ← hex4
  let after ← get
  if 0xd800 ≤ code ∧ code ≤ 0xdbff ∧ ['\\', 'u'].isPrefixOf after then
    literal ['\\', 'u']
    let low ← hex4
    if 0xdc00 ≤ low ∧ low ≤ 0xdfff then
      pure (.char (Char.ofNat (0x10000 + (code - 0xd800) * 1024 + (low - 0xdc00))))
    else
      StateT.set after
      pure (codePoint code)
  else pure (codePoint code)

def escape : Decoder CodePoint := do
  let letter ← symbol
  if letter = 'u' then unicode
  else if letter = 'n' then pure (.char '\n')
  else if letter = 'r' then pure (.char '\r')
  else if letter = 't' then pure (.char '\t')
  else if letter = 'f' then pure (.char '\x0c')
  else if letter = 'b' then pure (.char '\x08')
  else if letter = '"' ∨ letter = '\\' ∨ letter = '/' then pure (.char letter)
  else fail

def chars : Nat → Decoder Text
  | 0 => fail
  | fuel + 1 => do
      let first ← symbol
      if first = '"' then pure []
      else if first = '\\' then
        let point ← escape
        let rest ← chars fuel
        pure (point :: rest)
      else if first.toNat < 0x20 then fail
      else
        let rest ← chars fuel
        pure (.char first :: rest)

def string (fuel : Nat) : Decoder Text := do
  literal ['"']
  chars fuel

def digits : Decoder (List Char) := fun rest =>
  .ok (rest.takeWhile Char.isDigit, rest.dropWhile Char.isDigit)

/-- `(0|[1-9][0-9]*)` -/
def integer : Decoder (List Char) := do
  if ← peek ['0'] then
    literal ['0']
    pure ['0']
  else
    let found ← digits
    if found = [] then fail else pure found

/-- `(\.[0-9]+)?` -/
def fraction : Decoder (List Char) := do
  let before ← get
  if ← peek ['.'] then
    literal ['.']
    let found ← digits
    if found = [] then
      StateT.set before
      pure []
    else pure ('.' :: found)
  else pure []

/-- `([eE][-+]?[0-9]+)?` -/
def exponent : Decoder (List Char) := do
  let before ← get
  let mark := before.take 1
  if mark = ['e'] ∨ mark = ['E'] then
    let sign := (before.drop 1).take 1 |>.filter fun char => char = '-' ∨ char = '+'
    StateT.set (before.drop (1 + sign.length))
    let found ← digits
    if found = [] then
      StateT.set before
      pure []
    else pure (mark ++ sign ++ found)
  else pure []

/-- `sys.get_int_max_str_digits()` -/
def maxIntDigits : Nat := 4300

def natural (found : List Char) : Decoder Nat :=
  if maxIntDigits < found.length then throw .value else pure (Nat.ofDigitChars 10 found 0)

def unsigned (negative : Bool) : Decoder Value := do
  let whole ← integer
  let fraction ← fraction
  let exponent ← exponent
  if fraction = [] ∧ exponent = [] then
    let value ← natural whole
    pure (.int (if negative then -(value : Int) else value))
  else pure (.float (String.ofList ((if negative then ['-'] else []) ++ whole ++ fraction ++ exponent)))

def number : Decoder Value := do
  if ← peek ['-'] then
    literal ['-']
    unsigned true
  else unsigned false

def constants : List (List Char × Value) :=
  [("null".toList, .null), ("true".toList, .bool true), ("false".toList, .bool false),
    ("NaN".toList, .float "NaN"), ("Infinity".toList, .float "Infinity"),
    ("-Infinity".toList, .float "-Infinity")]

def scalar : Decoder Value := fun rest =>
  match constants.find? fun entry => entry.1.isPrefixOf rest with
  | some entry => .ok (entry.2, rest.drop entry.1.length)
  | none => number rest

def separated {α : Type} (decoder : Decoder α) (close : Char) : Nat → Decoder (List α)
  | 0 => fail
  | fuel + 1 => do
      let first ← decoder
      space
      let mark ← symbol
      if mark = close then pure [first]
      else if mark = ',' then
        space
        let rest ← separated decoder close fuel
        pure (first :: rest)
      else fail

def enclosed {α : Type} (decoder : Decoder α) (start close : Char) (fuel : Nat) : Decoder (List α) := do
  literal [start]
  space
  if ← peek [close] then
    literal [close]
    pure []
  else separated decoder close fuel

def member (value : Decoder Value) (fuel : Nat) : Decoder (Text × Value) := do
  let key ← string fuel
  space
  literal [':']
  space
  let found ← value
  pure (key, found)

/-- `scan_once`, which bears the nesting. -/
def value (fuel : Nat) : Nat → Decoder Value
  | 0 => fun rest =>
    match rest.head? with
    | some '"' => (string fuel).map Value.str rest
    | some '[' => .error .recursion
    | some '\x7b' => .error .recursion
    | _ => scalar rest
  | depth + 1 => fun rest =>
    match rest.head? with
    | some '"' => (string fuel).map Value.str rest
    | some '[' => (enclosed (value fuel depth) '[' ']' fuel).map Value.arr rest
    | some '\x7b' =>
      (enclosed (member (value fuel depth) fuel) '\x7b' '\x7d' fuel).map
        (fun pairs => .obj (pairs.foldl (fun fields pair => set fields pair.1 pair.2) [])) rest
    | _ => scalar rest

def document (fuel depth : Nat) : Decoder Value := do
  space
  let found ← value fuel depth
  space
  pure found

/-- `json.loads(raw)`, where `depth` is the nesting that it bears. -/
def loads (depth : Nat) (raw : List Char) : Except Undecoded Value :=
  match document (raw.length + 1) depth raw with
  | .ok (found, []) => .ok found
  | .ok _ => .error .decode
  | .error error => .error error

/-- `str(number)` does not raise. -/
def shortInt (number : Int) : Bool := (Nat.toDigits 10 number.natAbs).length ≤ maxIntDigits

mutual

/-- `json.dumps(value, ensure_ascii=False).encode("utf-8")` does not raise, where `depth` is the
nesting that it bears. -/
def writes (depth : Nat) : Value → Bool
  | .null => true
  | .bool _ => true
  | .int number => shortInt number
  | .float _ => true
  | .str value => encodes value
  | .arr values => decide (0 < depth) && writesValues (depth - 1) values
  | .obj fields => decide (0 < depth) && writesMembers (depth - 1) fields
  | .other => false

def writesValues (depth : Nat) : List Value → Bool
  | [] => true
  | value :: rest => writes depth value && writesValues depth rest

def writesMembers (depth : Nat) : List (Text × Value) → Bool
  | [] => true
  | (key, value) :: rest => encodes key && writes depth value && writesMembers depth rest

end

lemma writesMembers_append (depth : Nat) (left right : Members) :
    writesMembers depth (left ++ right) = (writesMembers depth left && writesMembers depth right) := by
  induction left with
  | nil => rw [List.nil_append, writesMembers, Bool.true_and]
  | cons first rest ih =>
    simp only [List.cons_append, writesMembers, ih, Bool.and_assoc]

end Obsion.Wide
