import Mathlib.Data.List.DropRight
import Mathlib.Tactic

/-! # The Python values the control plane computes with

Strings are Lean strings.  `strip` removes the characters that `str.isspace`
accepts.  `upper` and `lower` agree with `str.upper` and `str.lower` on every
string whose result is ASCII, which is what the comparisons in the source need.  A UUID is its 32
hexadecimal digits; `Uuid.str` is `str(value)` and `Uuid.parse?` is the
`UUID(text)` constructor on hyphenated text.  Instants and durations are counted
in microseconds, the resolution of `datetime`. -/

namespace Obsion

def isSpace (char : Char) : Bool :=
  let code := char.toNat
  (9 ≤ code && code ≤ 13) || (28 ≤ code && code ≤ 32) || code == 0x85 || code == 0xA0 ||
    code == 0x1680 || (0x2000 ≤ code && code ≤ 0x200A) || code == 0x2028 || code == 0x2029 ||
    code == 0x202F || code == 0x205F || code == 0x3000

def stripChars (chars : List Char) : List Char :=
  ((chars.dropWhile isSpace).reverse.dropWhile isSpace).reverse

def lstrip (text : String) : String := String.ofList (text.toList.dropWhile isSpace)

def startsWith (text head : String) : Bool := head.toList.isPrefixOf text.toList

def endsWith (text tail : String) : Bool := tail.toList.isSuffixOf text.toList

def strip (text : String) : String := String.ofList (stripChars text.toList)

lemma stripChars_idempotent (chars : List Char) :
    stripChars (stripChars chars) = stripChars chars := by
  let inner := chars.dropWhile isSpace
  have kept : (inner.rdropWhile isSpace).dropWhile isSpace = inner.rdropWhile isSpace := by
    rw [List.dropWhile_eq_self_iff]
    intro positive
    have head := (List.rdropWhile_prefix isSpace inner).getElem positive
    rw [head]
    exact List.dropWhile_get_zero_not isSpace chars _
  change ((inner.rdropWhile isSpace).dropWhile isSpace).rdropWhile isSpace = _
  rw [kept]
  exact List.rdropWhile_idempotent isSpace inner

@[simp] lemma strip_strip (text : String) : strip (strip text) = strip text := by
  rw [strip, strip, String.toList_ofList, stripChars_idempotent]

/-- The characters whose upper-case form is made of ASCII letters. -/
def upperChar (char : Char) : List Char :=
  match char.toNat with
  | 0x17F => ['S']
  | 0x131 => ['I']
  | 0xDF => ['S', 'S']
  | 0xFB00 => ['F', 'F']
  | 0xFB01 => ['F', 'I']
  | 0xFB02 => ['F', 'L']
  | 0xFB03 => ['F', 'F', 'I']
  | 0xFB04 => ['F', 'F', 'L']
  | 0xFB05 => ['S', 'T']
  | 0xFB06 => ['S', 'T']
  | _ => [char.toUpper]

def upper (text : String) : String := String.ofList (text.toList.flatMap upperChar)

/-- The Kelvin sign is the one other character with an ASCII lower-case form. -/
def lowerChar (char : Char) : Char := if char.toNat = 0x212A then 'k' else char.toLower

def lower (text : String) : String := String.ofList (text.toList.map lowerChar)

def isIn (part text : String) : Bool := decide (part.toList <:+: text.toList)

/-- Microseconds since the epoch, and durations in microseconds. -/
abbrev Time := Int

def seconds (count : Int) : Time := count * 1000000

inductive ErrorKind
  | notFound
  | conflict
  | authorization
  | validation
  | budget
  | other
  deriving DecidableEq, Repr

structure ObsionError where
  kind : ErrorKind
  code : String
  message : String
  deriving DecidableEq, Repr

def conflictError (code message : String) : ObsionError := ⟨.conflict, code, message⟩

def authorizationError (code message : String) : ObsionError := ⟨.authorization, code, message⟩

def notFoundError (resource : String) : ObsionError :=
  ⟨.notFound, "resource_not_found", resource ++ " was not found"⟩

def validationError (code message : String) : ObsionError := ⟨.validation, code, message⟩

lemma of_map_ok {ε α β : Type} {f : α → β} {computation : Except ε α} {value : β}
    (run : computation.map f = .ok value) : ∃ found, computation = .ok found ∧ f found = value := by
  cases computation with
  | error error => cases run
  | ok found => exact ⟨found, rfl, Except.ok.inj run⟩

lemma of_bind_ok {ε α β : Type} {first : Except ε α} {next : α → Except ε β} {value : β}
    (run : (first >>= next) = .ok value) : ∃ found, first = .ok found ∧ next found = .ok value := by
  cases first with
  | error error => cases run
  | ok found => exact ⟨found, rfl, run⟩

lemma ok_of_toOption {ε α : Type} {computation : Except ε α} {value : α}
    (run : computation.toOption = some value) : computation = .ok value := by
  cases computation with
  | error error => cases run
  | ok found => exact congrArg Except.ok (Option.some.inj run)

/-! ## UUIDs -/

structure Uuid where
  digits : List (Fin 16)
  size : digits.length = 32
  deriving DecidableEq, Repr

instance sixteen : NeZero 16 := ⟨by decide⟩

def Uuid.repeating (digit : Fin 16) : Uuid := ⟨List.replicate 32 digit, List.length_replicate⟩

def hexChar (digit : Fin 16) : Char :=
  if digit.val < 10 then Char.ofNat (48 + digit.val) else Char.ofNat (87 + digit.val)

def hexDigit? (char : Char) : Option (Fin 16) :=
  let code := char.toNat
  if 48 ≤ code ∧ code ≤ 57 then some (Fin.ofNat 16 (code - 48))
  else if 97 ≤ code ∧ code ≤ 102 then some (Fin.ofNat 16 (code - 87))
  else if 65 ≤ code ∧ code ≤ 70 then some (Fin.ofNat 16 (code - 55))
  else none

def Uuid.chars (value : Uuid) : List Char :=
  let hex := value.digits.map hexChar
  hex.take 8 ++ '-' :: (hex.drop 8).take 4 ++ '-' :: (hex.drop 12).take 4 ++
    '-' :: (hex.drop 16).take 4 ++ '-' :: hex.drop 20

def Uuid.str (value : Uuid) : String := String.ofList value.chars

/-- `UUID(text)` for text of hexadecimal digits and hyphens. -/
def Uuid.parse? (text : String) : Option Uuid :=
  match (text.toList.filter (· != '-')).mapM hexDigit? with
  | none => none
  | some digits => if size : digits.length = 32 then some ⟨digits, size⟩ else none

lemma hexDigit?_hexChar (digit : Fin 16) : hexDigit? (hexChar digit) = some digit := by
  revert digit
  decide

lemma hexChar_ne_hyphen (digit : Fin 16) : (hexChar digit != '-') = true := by
  revert digit
  decide

lemma filter_hyphen_map_hexChar (digits : List (Fin 16)) :
    (digits.map hexChar).filter (· != '-') = digits.map hexChar := by
  rw [List.filter_eq_self]
  intro char mem
  obtain ⟨digit, _, rfl⟩ := List.mem_map.1 mem
  exact hexChar_ne_hyphen digit

lemma mapM_hexDigit?_hexChar (digits : List (Fin 16)) :
    (digits.map hexChar).mapM hexDigit? = some digits := by
  induction digits with
  | nil => rfl
  | cons digit rest ih => simp [List.mapM_cons, hexDigit?_hexChar, ih]

lemma Uuid.filter_hyphen_chars (value : Uuid) :
    value.chars.filter (· != '-') = value.digits.map hexChar := by
  have split : ∀ digits : List (Fin 16),
      digits.take 8 ++ ((digits.drop 8).take 4 ++ ((digits.drop 12).take 4 ++
        ((digits.drop 16).take 4 ++ digits.drop 20))) = digits := by
    intro digits
    have rejoin : ∀ count size : Nat,
        (digits.drop count).take size ++ digits.drop (count + size) = digits.drop count := by
      intro count size
      rw [← List.drop_drop]
      exact List.take_append_drop size (digits.drop count)
    rw [rejoin 16 4, rejoin 12 4, rejoin 8 4, List.take_append_drop]
  simp only [Uuid.chars, ← List.map_take, ← List.map_drop, List.filter_append,
    List.filter_cons, filter_hyphen_map_hexChar, bne_self_eq_false, Bool.false_eq_true,
    if_false, List.append_assoc, List.cons_append]
  simp only [← List.map_append, split]

/-- `UUID(str(value)) == value` -/
lemma Uuid.parse?_str (value : Uuid) : Uuid.parse? value.str = some value := by
  obtain ⟨digits, size⟩ := value
  simp only [Uuid.parse?, Uuid.str, String.toList_ofList, Uuid.filter_hyphen_chars,
    mapM_hexDigit?_hexChar, size, dif_pos]

lemma Uuid.str_injective : Function.Injective Uuid.str := by
  intro left right eq
  have parsed : some left = some right := by
    rw [← Uuid.parse?_str left, ← Uuid.parse?_str right, eq]
  exact Option.some.inj parsed

/-! ## Principals and their permissions -/

structure Principal where
  id : Uuid
  organizationId : Uuid
  permissions : List String
  deriving DecidableEq, Repr

def Principal.can (principal : Principal) (permission : String) : Bool :=
  "*" ∈ principal.permissions || permission ∈ principal.permissions

end Obsion
