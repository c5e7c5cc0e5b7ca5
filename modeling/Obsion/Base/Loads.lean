import Obsion.Base.Dumps
import Obsion.Lib.Reader

/-! # Reading JSON texts

`json.loads` with an object hook.  A text that raises `ValueError` has no value, and neither
has one with a lone surrogate, which no `String` can hold.  The compact text of a value
without floats is read back, with the keys in order. -/

namespace Obsion.Loads

open Lib Lib.Reader

def isWhite (char : Char) : Bool := char == ' ' || char == '\t' || char == '\n' || char == '\r'

def space : Reader Char Unit := fun text => some ((), text.dropWhile isWhite)

def hex4 : Reader Char Nat := do
  let first ← symbol
  let second ← symbol
  let third ← symbol
  let fourth ← symbol
  ofOption (do
    let first ← hexDigit? first
    let second ← hexDigit? second
    let third ← hexDigit? third
    let fourth ← hexDigit? fourth
    some (4096 * first.val + 256 * second.val + 16 * third.val + fourth.val))

def isHigh (code : Nat) : Bool := 0xd800 ≤ code && code ≤ 0xdbff

def isLow (code : Nat) : Bool := 0xdc00 ≤ code && code ≤ 0xdfff

def unicode : Reader Char Char := do
  let code ← hex4
  if isHigh code then
    literal ['\\', 'u']
    let low ← hex4
    if isLow low then pure (Char.ofNat (0x10000 + (code - 0xd800) * 1024 + (low - 0xdc00))) else fail
  else if isLow code then fail
  else pure (Char.ofNat code)

def escape : Reader Char Char := do
  let letter ← symbol
  if letter = 'u' then unicode
  else if letter = 'n' then pure '\n'
  else if letter = 'r' then pure '\r'
  else if letter = 't' then pure '\t'
  else if letter = 'f' then pure '\x0c'
  else if letter = 'b' then pure '\x08'
  else if letter = '"' ∨ letter = '\\' ∨ letter = '/' then pure letter
  else fail

def chars : Nat → Reader Char (List Char)
  | 0 => fail
  | fuel + 1 => do
      let first ← symbol
      if first = '"' then pure []
      else if first = '\\' then
        let char ← escape
        let rest ← chars fuel
        pure (char :: rest)
      else if first.toNat < 0x20 then fail
      else
        let rest ← chars fuel
        pure (first :: rest)

def string (fuel : Nat) : Reader Char String := do
  literal ['"']
  let text ← chars fuel
  pure (String.ofList text)

def digits : Reader Char (List Char) := fun text =>
  some (text.takeWhile Char.isDigit, text.dropWhile Char.isDigit)

/-- `(0|[1-9][0-9]*)` -/
def integer : Reader Char (List Char) := do
  if ← peek ['0'] then
    literal ['0']
    pure ['0']
  else
    let found ← digits
    if found = [] then fail else pure found

/-- `(\.[0-9]+)?` -/
def fraction : Reader Char (List Char)
  | '.' :: rest =>
    match digits rest with
    | some (first :: more, after) => some ('.' :: first :: more, after)
    | _ => some ([], '.' :: rest)
  | text => some ([], text)

def exponent : Reader Char (List Char)
  | mark :: rest =>
    if mark = 'e' ∨ mark = 'E' then
      let sign := rest.take 1 |>.filter fun char => char = '-' ∨ char = '+'
      match digits (rest.drop sign.length) with
      | some (first :: more, after) => some (mark :: sign ++ first :: more, after)
      | _ => some ([], mark :: rest)
    else some ([], mark :: rest)
  | [] => some ([], [])

/-- `sys.get_int_max_str_digits()` -/
def maxIntDigits : Nat := 4300

def natural (found : List Char) : Option Nat :=
  if maxIntDigits < found.length then none else some (Nat.ofDigitChars 10 found 0)

def unsigned (negative : Bool) : Reader Char Json := do
  let whole ← integer
  let fraction ← fraction
  let exponent ← exponent
  if fraction = [] ∧ exponent = [] then
    let value ← ofOption (natural whole)
    pure (.int (if negative then -(value : Int) else value))
  else pure (.float (String.ofList ((if negative then ['-'] else []) ++ whole ++ fraction ++ exponent)))

def number : Reader Char Json := do
  if ← peek ['-'] then
    literal ['-']
    unsigned true
  else unsigned false

/-! ## Values -/

def constants : List (List Char × Json) :=
  [("null".toList, .null), ("true".toList, .bool true), ("false".toList, .bool false),
    ("NaN".toList, .float "NaN"), ("Infinity".toList, .float "Infinity"), ("-Infinity".toList, .float "-Infinity")]

def scalar : Reader Char Json := fun text =>
  match constants.find? fun entry => entry.1.isPrefixOf text with
  | some entry => some (entry.2, text.drop entry.1.length)
  | none => number text

def separated {α : Type} (reader : Reader Char α) (close : Char) : Nat → Reader Char (List α)
  | 0 => fail
  | fuel + 1 => do
      let first ← reader
      space
      let mark ← symbol
      if mark = close then pure [first]
      else if mark = ',' then
        space
        let rest ← separated reader close fuel
        pure (first :: rest)
      else fail

def enclosed {α : Type} (reader : Reader Char α) (start close : Char) (fuel : Nat) :
    Reader Char (List α) := do
  literal [start]
  space
  if ← peek [close] then
    literal [close]
    pure []
  else separated reader close fuel

def member (value : Reader Char Json) (fuel : Nat) : Reader Char (String × Json) := do
  let key ← string fuel
  space
  literal [':']
  space
  let found ← value
  pure (key, found)

def quoted (fuel : Nat) : Reader Char Json := do
  let found ← string fuel
  pure (.str found)

def array (value : Reader Char Json) (fuel : Nat) : Reader Char Json := do
  let found ← enclosed value '[' ']' fuel
  pure (.arr found)

def object (hook : Fields → Option Json) (value : Reader Char Json) (fuel : Nat) : Reader Char Json := do
  let found ← enclosed (member value fuel) '\x7b' '\x7d' fuel
  ofOption (hook found)

def value (hook : Fields → Option Json) : Nat → Reader Char Json
  | 0 => fail
  | fuel + 1 => fun text =>
    match text.head? with
    | some '"' => quoted fuel text
    | some '[' => array (value hook fuel) fuel text
    | some '\x7b' => object hook (value hook fuel) fuel text
    | _ => scalar text

def document (hook : Fields → Option Json) (fuel : Nat) : Reader Char Json := do
  space
  let found ← value hook fuel
  space
  pure found

def loads (hook : Fields → Option Json) (text : List Char) : Option Json :=
  whole (document hook (text.length + 1)) text

/-- `dict(pairs)`, where a later pair replaces the value of an earlier one. -/
def dict (pairs : Fields) : Option Json :=
  some (.obj (pairs.foldl (fun fields pair => Fields.set fields pair.1 pair.2) []))

/-! ## What a token's text reads as -/

variable {follow : List Char → Prop}

def Delimited (rest : List Char) : Prop :=
  rest = [] ∨ ∃ mark more, rest = mark :: more ∧ (mark = ',' ∨ mark = ']' ∨ mark = '\x7d')

def NoSpace (rest : List Char) : Prop := rest.dropWhile isWhite = rest

lemma reads_space : Reads NoSpace space [] () := by
  intro rest plain
  rw [space, List.nil_append, plain]

variable {rest text : List Char} {char close : Char} {fuel count : Nat} {found left right : Json}

lemma noSpace_cons {mark : Char} (plain : isWhite mark = false) : NoSpace (mark :: rest) := by
  rw [NoSpace, List.dropWhile_cons, plain]
  rfl

lemma hex4_unicodeEscape {code : Nat} (small : code < 0x10000) (rest : List Char) :
    hex4 ((unicodeEscape code).drop 2 ++ rest) = some (code, rest) := by
  have value : 4096 * (Fin.ofNat 16 (code / 4096)).val + 256 * (Fin.ofNat 16 (code / 256)).val
      + 16 * (Fin.ofNat 16 (code / 16)).val + (Fin.ofNat 16 code).val = code := by
    simp only [Fin.val_ofNat]
    omega
  change (ofOption (do
    let first ← hexDigit? (hexChar (Fin.ofNat 16 (code / 4096)))
    let second ← hexDigit? (hexChar (Fin.ofNat 16 (code / 256)))
    let third ← hexDigit? (hexChar (Fin.ofNat 16 (code / 16)))
    let fourth ← hexDigit? (hexChar (Fin.ofNat 16 code))
    some (4096 * first.val + 256 * second.val + 16 * third.val + fourth.val)) :
      Reader Char Nat) rest = _
  rw [hexDigit?_hexChar, hexDigit?_hexChar, hexDigit?_hexChar, hexDigit?_hexChar]
  change some (4096 * (Fin.ofNat 16 (code / 4096)).val + 256 * (Fin.ofNat 16 (code / 256)).val
    + 16 * (Fin.ofNat 16 (code / 16)).val + (Fin.ofNat 16 code).val, rest) = _
  rw [value]

lemma reads_escape_short {letter : Char} (short : shortEscape char = some letter) :
    Reads follow escape [letter] char := by
  unfold shortEscape at short
  repeat' split at short
  all_goals cases short
  all_goals subst_vars
  all_goals exact fun rest _ => rfl

lemma reads_escape_unicode (small : char.toNat < 0x10000) :
    Reads follow escape ('u' :: (unicodeEscape char.toNat).drop 2) char := by
  intro rest _
  have valid : char.toNat < 0xd800 ∨ 0xdfff < char.toNat ∧ char.toNat < 0x110000 := char.valid
  have high : isHigh char.toNat = false := by simp [isHigh]; omega
  have low : isLow char.toNat = false := by simp [isLow]; omega
  change (hex4 ((unicodeEscape char.toNat).drop 2 ++ rest)).bind _ = _
  rw [hex4_unicodeEscape small, Option.bind_some]
  change (if isHigh char.toNat = true then _ else if isLow char.toNat = true then _
    else pure (Char.ofNat char.toNat) : Reader Char Char) rest = _
  rw [high, low, Char.ofNat_toNat]
  rfl

lemma reads_escape_halves {upper lower : Nat} (upperSmall : upper < 0x10000) (lowerSmall : lower < 0x10000)
    (high : isHigh upper = true) (low : isLow lower = true) :
    Reads follow escape ('u' :: (unicodeEscape upper ++ unicodeEscape lower).drop 2)
      (Char.ofNat (0x10000 + (upper - 0xd800) * 1024 + (lower - 0xdc00))) := by
  intro rest _
  have second : Reads (fun _ => True) (do
      literal ['\\', 'u']
      let low ← hex4
      if isLow low then pure (Char.ofNat (0x10000 + (upper - 0xd800) * 1024 + (low - 0xdc00))) else fail)
      (['\\', 'u'] ++ ((unicodeEscape lower).drop 2 ++ []))
      (Char.ofNat (0x10000 + (upper - 0xd800) * 1024 + (lower - 0xdc00))) := by
    have last : Reads (fun _ => True) hex4 ((unicodeEscape lower).drop 2) lower :=
      fun rest _ => hex4_unicodeEscape lowerSmall rest
    refine reads_literal.then (last.then ?_)
    rw [if_pos low]
    exact Reads.pure
  change (hex4 ((unicodeEscape upper).drop 2 ++ ((['\\', 'u'] ++ ((unicodeEscape lower).drop 2 ++ []))
    ++ rest))).bind _ = _
  rw [hex4_unicodeEscape upperSmall, Option.bind_some]
  change (if isHigh upper = true then _ else _ : Reader Char Char) _ = _
  rw [if_pos high]
  exact second rest trivial

lemma reads_escape_pair (large : ¬ char.toNat < 0x10000) :
    Reads follow escape ('u' :: (unicodeEscape (0xd800 + (char.toNat - 0x10000) / 1024)
      ++ unicodeEscape (0xdc00 + (char.toNat - 0x10000) % 1024)).drop 2) char := by
  have valid : char.toNat < 0xd800 ∨ 0xdfff < char.toNat ∧ char.toNat < 0x110000 := char.valid
  obtain ⟨upper, upperEq⟩ : ∃ upper, upper = 0xd800 + (char.toNat - 0x10000) / 1024 := ⟨_, rfl⟩
  obtain ⟨lower, lowerEq⟩ : ∃ lower, lower = 0xdc00 + (char.toNat - 0x10000) % 1024 := ⟨_, rfl⟩
  have value : 0x10000 + (upper - 0xd800) * 1024 + (lower - 0xdc00) = char.toNat := by omega
  have high : isHigh upper = true := by
    simp only [isHigh, Bool.and_eq_true, decide_eq_true_eq]
    omega
  have low : isLow lower = true := by
    simp only [isLow, Bool.and_eq_true, decide_eq_true_eq]
    omega
  rw [← upperEq, ← lowerEq, ← Char.ofNat_toNat char, ← value]
  exact reads_escape_halves (by omega) (by omega) high low

lemma chars_escape (reads : ∀ rest, escape (text ++ rest) = some (char, rest)) :
    chars (fuel + 1) ('\\' :: text ++ rest) = (chars fuel rest).map fun found =>
      (char :: found.1, found.2) := by
  change ((escape (text ++ rest)).bind fun found =>
    (chars fuel found.2).bind fun more => some (found.1 :: more.1, more.2)) = _
  rw [reads, Option.bind_some]
  cases chars fuel rest <;> rfl

lemma chars_plain (notQuote : char ≠ '"') (notBackslash : char ≠ '\\')
    (printable : ¬ char.toNat < 0x20) :
    chars (fuel + 1) ([char] ++ rest) = (chars fuel rest).map fun found =>
      (char :: found.1, found.2) := by
  rw [List.singleton_append, chars]
  change ((if char = '"' then _ else _ : Reader Char (List Char)) rest) = _
  rw [if_neg notQuote, if_neg notBackslash, if_neg printable]
  change (chars fuel rest).bind _ = _
  cases chars fuel rest <;> rfl

/-- How a character stands in a string, so that it can be read back. -/
structure Escapes (quote : Char → List Char) : Prop where
  read : ∀ char rest fuel, chars (fuel + 1) (quote char ++ rest) = (chars fuel rest).map fun found =>
    (char :: found.1, found.2)
  filled : ∀ char, 0 < (quote char).length

lemma chars_escape_of (reads : Reads (fun _ => True) escape text char) :
    chars (fuel + 1) ('\\' :: text ++ rest) = (chars fuel rest).map fun found =>
      (char :: found.1, found.2) := chars_escape fun rest => reads rest trivial

lemma escapes_escapeChar : Escapes escapeChar where
  read := by
    intro char rest fuel
    unfold escapeChar
    split
    · next letter short => exact chars_escape_of (reads_escape_short short)
    next plain =>
    obtain ⟨notQuote, notBackslash⟩ := shortEscape_none plain
    split
    · next control => exact chars_escape_of (reads_escape_unicode (by omega))
    next printable => exact chars_plain notQuote notBackslash printable
  filled := by
    intro char
    unfold escapeChar
    split
    · exact Nat.succ_pos _
    split <;> exact Nat.succ_pos _

lemma escapes_escapeAscii : Escapes escapeAscii where
  read := by
    intro char rest fuel
    unfold escapeAscii
    split
    · next letter short => exact chars_escape_of (reads_escape_short short)
    next plain =>
    obtain ⟨notQuote, notBackslash⟩ := shortEscape_none plain
    split
    · next printable => exact chars_plain notQuote notBackslash (by omega)
    split
    · next small => exact chars_escape_of (reads_escape_unicode small)
    next large => exact chars_escape_of (reads_escape_pair large)
  filled := by
    intro char
    unfold escapeAscii
    split
    · exact Nat.succ_pos _
    split
    · exact Nat.succ_pos _
    split <;> exact Nat.succ_pos _

variable {quote : Char → List Char}

lemma reads_chars (escapes : Escapes quote) (enough : text.length < fuel) :
    Reads follow (chars fuel) (text.flatMap quote ++ ['"']) text := by
  intro rest holds
  induction text generalizing fuel with
  | nil =>
    obtain ⟨less, rfl⟩ : ∃ less, fuel = less + 1 := ⟨fuel - 1, by simp at enough; omega⟩
    rfl
  | cons char more ih =>
    rw [List.length_cons] at enough
    obtain ⟨less, rfl⟩ : ∃ less, fuel = less + 1 := ⟨fuel - 1, by omega⟩
    have shorter : more.length < less := by omega
    have tail := ih shorter
    rw [List.flatMap_cons, List.append_assoc, List.append_assoc, escapes.read,
      ← List.append_assoc, tail]
    rfl

lemma reads_string (escapes : Escapes quote) (enough : text.length < fuel) :
    Reads follow (string fuel) (quoteWith quote text) (String.ofList text) := by
  have split_ : quoteWith quote text = ['"'] ++ (text.flatMap quote ++ ['"'] ++ []) := by
    rw [List.append_nil]
    rfl
  rw [split_]
  exact reads_literal.then ((reads_chars escapes enough).then Reads.pure)

/-! ## Numbers and constants -/

lemma isDigit_toDigits : ∀ char ∈ Nat.toDigits 10 count, char.isDigit = true :=
  fun _ member => Nat.isDigit_of_mem_toDigits (by decide) (by decide) member

lemma digitChar_ne_zero {digit : Nat} (positive : 0 < digit) (small : digit < 10) :
    Nat.digitChar digit ≠ '0' := by
  have all : ∀ code : Fin 10, 0 < code.val → Nat.digitChar code.val ≠ '0' := by decide
  exact all ⟨digit, small⟩ positive

lemma head?_toDigits (positive : 0 < count) : (Nat.toDigits 10 count).head? ≠ some '0' := by
  induction count using Nat.strong_induction_on with
  | _ count ih =>
    by_cases small : count < 10
    · rw [Nat.toDigits_of_lt_base small]
      intro eq
      exact digitChar_ne_zero positive small (Option.some.inj eq)
    · have shorter := ih (count / 10) (by omega) (by omega)
      rw [Nat.toDigits_of_base_le (by decide) (by omega),
        List.head?_append_of_ne_nil _ Nat.toDigits_ne_nil]
      exact shorter

lemma Delimited.takeWhile (delimited : Delimited rest) :
    rest.takeWhile Char.isDigit = [] ∧ rest.dropWhile Char.isDigit = rest := by
  rcases delimited with rfl | ⟨mark, more, rfl, rfl | rfl | rfl⟩
  · exact ⟨rfl, rfl⟩
  all_goals exact ⟨rfl, rfl⟩

lemma reads_digits (are : ∀ char ∈ text, char.isDigit = true) :
    Reads Delimited digits text text := by
  intro rest delimited
  rw [digits, List.takeWhile_append_of_pos are, List.dropWhile_append_of_pos are,
    delimited.takeWhile.1, delimited.takeWhile.2, List.append_nil]

lemma reads_fraction : Reads Delimited fraction [] [] := by
  rintro rest (rfl | ⟨mark, more, rfl, rfl | rfl | rfl⟩)
  all_goals rfl

lemma reads_exponent : Reads Delimited exponent [] [] := by
  rintro rest (rfl | ⟨mark, more, rfl, rfl | rfl | rfl⟩)
  all_goals rfl

lemma head?_eq_of_isPrefixOf : [char].isPrefixOf text = decide (text.head? = some char) := by
  cases text with
  | nil => rfl
  | cons first more =>
    rw [List.isPrefixOf_cons_cons, List.isPrefixOf_nil_left, Bool.and_true, List.head?_cons]
    by_cases eq : char = first
    · rw [eq, beq_self_eq_true, decide_eq_true rfl]
    rw [beq_false_of_ne eq, decide_eq_false fun found => eq (Option.some.inj found).symm]

lemma reads_integer (count : Nat) :
    Reads Delimited integer (Nat.toDigits 10 count) (Nat.toDigits 10 count) := by
  intro rest delimited
  by_cases zero : count = 0
  · subst zero
    have digit : Nat.toDigits 10 0 = ['0'] ++ [] := by decide
    have zero : Reads Delimited integer (['0'] ++ []) ['0'] :=
      reads_peek_same.look (reads_literal.then Reads.pure) fun rest _ => prefix_of_append _ _ rest
    rw [digit]
    exact zero rest delimited
  · have head : ((Nat.toDigits 10 count) ++ rest).head? ≠ some '0' := by
      rw [List.head?_append_of_ne_nil _ Nat.toDigits_ne_nil]
      exact head?_toDigits (Nat.pos_of_ne_zero zero)
    have look : ['0'].isPrefixOf (Nat.toDigits 10 count ++ rest) = false := by
      rw [head?_eq_of_isPrefixOf, decide_eq_false head]
    change (if ['0'].isPrefixOf (Nat.toDigits 10 count ++ rest) = true then _ else digits >>= _
      : Reader Char (List Char)) _ = _
    rw [look, if_neg Bool.false_ne_true]
    change (digits (Nat.toDigits 10 count ++ rest)).bind _ = _
    rw [reads_digits isDigit_toDigits rest delimited, Option.bind_some]
    change (if Nat.toDigits 10 count = [] then _ else _ : Reader Char (List Char)) rest = _
    rw [if_neg Nat.toDigits_ne_nil]
    rfl

lemma reads_unsigned (short : (Nat.toDigits 10 count).length ≤ maxIntDigits) (negative : Bool) :
    Reads Delimited (unsigned negative) (Nat.toDigits 10 count)
      (.int (if negative then -(count : Int) else count)) := by
  have value : natural (Nat.toDigits 10 count) = some count := by
    rw [natural, if_neg (by omega), Nat.ofDigitChars_toDigits (by decide) (by decide)]
  have rest : Reads Delimited (do
      let fraction ← fraction
      let exponent ← exponent
      if fraction = [] ∧ exponent = [] then
        let value ← ofOption (natural (Nat.toDigits 10 count))
        pure (Json.int (if negative then -(value : Int) else value))
      else pure (Json.float (String.ofList ((if negative then ['-'] else []) ++ Nat.toDigits 10 count
        ++ fraction ++ exponent)))) [] (.int (if negative then -(count : Int) else count)) := by
    refine reads_fraction.look ?_ fun _ delimited => delimited
    refine reads_exponent.look ?_ fun _ delimited => delimited
    rw [if_pos ⟨rfl, rfl⟩]
    exact (reads_ofOption value).look Reads.pure fun _ delimited => delimited
  have both : Reads Delimited (unsigned negative) (Nat.toDigits 10 count ++ [])
      (.int (if negative then -(count : Int) else count)) :=
    Reads.bind (reads_integer count) rest fun _ delimited => delimited
  rwa [List.append_nil] at both

lemma toList_toString_int (value : Int) : (toString value).toList
      = (if value < 0 then ['-'] else []) ++ Nat.toDigits 10 value.natAbs := by
  cases value with
  | ofNat count =>
    change count.repr.toList = _
    rw [Nat.repr_eq_ofList_toDigits, String.toList_ofList, if_neg (by simp)]
    rfl
  | negSucc count =>
    change ("-" ++ (count + 1).repr).toList = _
    rw [if_pos (Int.negSucc_lt_zero count), Int.natAbs_negSucc, String.toList_append,
      Nat.repr_eq_ofList_toDigits, String.toList_ofList (l := Nat.toDigits 10 (count + 1))]
    rfl

lemma constants_none {sign : List Char} (signed : sign = [] ∨ sign = ['-']) :
    (constants.find? fun entry => entry.1.isPrefixOf (sign ++ (Nat.toDigits 10 count ++ rest))) = none := by
  obtain ⟨first, more, cut⟩ := List.exists_cons_of_ne_nil (Nat.toDigits_ne_nil (n := count) (b := 10))
  have digit : first.isDigit = true := isDigit_toDigits first (cut ▸ List.mem_cons_self)
  have apart : first ≠ 'n' ∧ first ≠ 't' ∧ first ≠ 'f' ∧ first ≠ 'N' ∧ first ≠ 'I' ∧ first ≠ '-' := by
    refine ⟨?_, ?_, ?_, ?_, ?_, ?_⟩
    all_goals rintro rfl
    all_goals exact absurd digit (by decide)
  rw [cut]
  rcases signed with rfl | rfl
  · simp [constants, apart.1.symm, apart.2.1.symm, apart.2.2.1.symm, apart.2.2.2.1.symm,
      apart.2.2.2.2.1.symm, apart.2.2.2.2.2.symm]
  simp [constants, apart.2.2.2.2.1.symm]

lemma reads_number (reads : Reads Delimited (unsigned true) text found) :
    Reads Delimited number (['-'] ++ text) found :=
  reads_peek_same.look (reads_literal.then reads) fun rest _ => prefix_of_append _ _ rest

lemma reads_int {value : Int} (short : (Nat.toDigits 10 value.natAbs).length ≤ maxIntDigits) :
    Reads Delimited scalar (toString value).toList (.int value) := by
  intro rest delimited
  rw [toList_toString_int, List.append_assoc, scalar]
  by_cases negative : value < 0
  · rw [if_pos negative, constants_none (Or.inr rfl)]
    have found := reads_number (reads_unsigned short true) rest delimited
    have eq : (if true = true then -(value.natAbs : Int) else value.natAbs) = value := by
      rw [if_pos rfl]
      omega
    rw [eq] at found
    exact found
  · rw [if_neg negative, constants_none (Or.inl rfl)]
    have found := reads_unsigned short false rest delimited
    have eq : (if false = true then -(value.natAbs : Int) else value.natAbs) = value := by
      rw [if_neg Bool.false_ne_true]
      omega
    rw [eq] at found
    have head : (Nat.toDigits 10 value.natAbs ++ rest).head? ≠ some '-' := by
      rw [List.head?_append_of_ne_nil _ Nat.toDigits_ne_nil]
      intro minus
      exact absurd (isDigit_toDigits '-' (List.mem_of_head? minus)) (by decide)
    have look : ['-'].isPrefixOf (Nat.toDigits 10 value.natAbs ++ rest) = false := by
      rw [head?_eq_of_isPrefixOf, decide_eq_false head]
    change (if ['-'].isPrefixOf (Nat.toDigits 10 value.natAbs ++ rest) = true then _ else unsigned false
      : Reader Char Json) _ = _
    rw [look, if_neg Bool.false_ne_true]
    exact found

lemma reads_null : Reads follow scalar "null".toList .null := fun _ _ => rfl

lemma reads_bool (value : Bool) :
    Reads follow scalar (if value then "true" else "false").toList (.bool value) := by
  intro rest _
  cases value <;> rfl

/-- Texts with commas between them, up to the closing mark, as `separated` reads them. -/
lemma reads_separated {α : Type} {reader : Reader Char α} {pieces : List (List Char × α)}
    (filled : pieces ≠ []) (enough : pieces.length ≤ fuel) (closes : close = ']' ∨ close = '\x7d')
    (reads : ∀ piece ∈ pieces, Reads Delimited reader piece.1 piece.2)
    (starts : ∀ piece ∈ pieces, ∀ rest, NoSpace (piece.1 ++ rest)) :
    Reads follow (separated reader close fuel)
      (List.intercalate [','] (pieces.map Prod.fst) ++ [close]) (pieces.map Prod.snd) := by
  have closeSpace : ∀ rest, NoSpace ([close] ++ rest) := by
    intro rest
    rcases closes with rfl | rfl
    all_goals exact noSpace_cons (by decide)
  have closeEnds : ∀ rest, Delimited ([close] ++ rest) := fun rest =>
    Or.inr ⟨close, rest, rfl, Or.inr closes⟩
  have commaOpen : ',' ≠ close := by rcases closes with rfl | rfl <;> decide
  induction pieces generalizing fuel with
  | nil => exact absurd rfl filled
  | cons piece rest ih =>
    obtain ⟨less, rfl⟩ : ∃ less, fuel = less + 1 := ⟨fuel - 1, by simp at enough; omega⟩
    have here := reads piece List.mem_cons_self
    rw [separated]
    cases rest with
    | nil =>
      have last : Reads follow (do
          space
          let mark ← symbol
          if mark = close then pure [piece.2]
          else if mark = ',' then
            space
            let rest ← separated reader close less
            pure (piece.2 :: rest)
          else fail) [close] [piece.2] := by
        refine reads_space.look ?_ fun after _ => closeSpace after
        rw [← List.append_nil [close]]
        refine reads_symbol.then ?_
        rw [if_pos rfl]
        exact Reads.pure
      have text : List.intercalate [','] ([piece].map Prod.fst) = piece.1 := by simp
      rw [text]
      exact here.bind last fun after _ => closeEnds after
    | cons second others =>
      have tail := ih (List.cons_ne_nil _ _) (by simpa using enough)
        (fun other member => reads other (List.mem_cons_of_mem _ member))
        (fun other member => starts other (List.mem_cons_of_mem _ member))
      have spaced : ∀ after, NoSpace (List.intercalate [','] ((second :: others).map Prod.fst)
          ++ [close] ++ after) := by
        intro after
        have begins := starts second (List.mem_cons_of_mem _ List.mem_cons_self)
        rw [List.map_cons]
        cases others with
        | nil => simpa using begins ([close] ++ after)
        | cons third more =>
          rw [List.map_cons, List.intercalate_cons_of_ne_nil (List.cons_ne_nil _ _),
            List.append_assoc, List.append_assoc, List.append_assoc]
          exact begins _
      have last : Reads follow (do
          space
          let mark ← symbol
          if mark = close then pure [piece.2]
          else if mark = ',' then
            space
            let rest ← separated reader close less
            pure (piece.2 :: rest)
          else fail) ([','] ++ (List.intercalate [','] ((second :: others).map Prod.fst) ++ [close]))
          (piece.2 :: (second :: others).map Prod.snd) := by
        refine reads_space.look ?_ fun after _ => noSpace_cons (by decide)
        refine reads_symbol.then ?_
        rw [if_neg commaOpen, if_pos rfl]
        refine reads_space.look ?_ fun after _ => spaced after
        rw [← List.append_nil (_ ++ [close])]
        exact tail.bind Reads.pure fun _ holds => holds
      have text : List.intercalate [','] ((piece :: second :: others).map Prod.fst)
          = piece.1 ++ ([','] ++ List.intercalate [','] ((second :: others).map Prod.fst)) := by
        rw [List.map_cons, List.map_cons, List.intercalate_cons_of_ne_nil (List.cons_ne_nil _ _),
          List.append_assoc]
      rw [text, List.append_assoc, List.append_assoc]
      exact here.bind last fun after _ => Or.inr ⟨',', _, rfl, Or.inl rfl⟩

/-! ### Plain values -/

def NumberStart (first : Char) : Prop :=
  first.isDigit = true ∨ first = '-' ∨ first = 'N' ∨ first = 'I'

/-- A text that reads as the float it belongs to. -/
structure FloatText (text : String) : Prop where
  reads : Reads Delimited scalar text.toList (.float text)
  starts : ∃ first more, text.toList = first :: more ∧ NumberStart first

mutual

def Plain : Json → Prop
  | .float text => FloatText text
  | .int value => (Nat.toDigits 10 value.natAbs).length ≤ maxIntDigits
  | .arr values => PlainValues values
  | .obj fields => (fields.map Prod.fst).Nodup ∧ PlainMembers fields
  | .null | .bool _ | .str _ => True

def PlainValues : List Json → Prop
  | [] => True
  | value :: rest => Plain value ∧ PlainValues rest

def PlainMembers : List (String × Json) → Prop
  | [] => True
  | (_, value) :: rest => Plain value ∧ PlainMembers rest

end

mutual

def sortKeys : Json → Json
  | .arr values => .arr (sortValues values)
  | .obj fields => .obj ((sortMembers fields).insertionSort fun left right => left.1 ≤ right.1)
  | .null => .null
  | .bool value => .bool value
  | .int value => .int value
  | .float text => .float text
  | .str value => .str value

def sortValues : List Json → List Json
  | [] => []
  | value :: rest => sortKeys value :: sortValues rest

def sortMembers : List (String × Json) → List (String × Json)
  | [] => []
  | (key, value) :: rest => (key, sortKeys value) :: sortMembers rest

end

lemma dumpsValuesWith_eq (values : List Json) : dumpsValuesWith quote values = values.map (Json.dumpsWith quote) := by
  induction values with
  | nil => rfl
  | cons value rest ih => rw [dumpsValuesWith, ih, List.map_cons]

lemma sortValues_eq (values : List Json) : sortValues values = values.map sortKeys := by
  induction values with
  | nil => rfl
  | cons value rest ih => rw [sortValues, ih, List.map_cons]

lemma dumpsMembersWith_eq (fields : Fields) :
    dumpsMembersWith quote fields = fields.map fun field =>
      (field.1, quoteWith quote field.1.toList ++ ':' :: field.2.dumpsWith quote) := by
  induction fields with
  | nil => rfl
  | cons field rest ih =>
    obtain ⟨key, value⟩ := field
    rw [dumpsMembersWith, ih, List.map_cons]

lemma sortMembers_eq (fields : Fields) :
    sortMembers fields = fields.map fun field => (field.1, sortKeys field.2) := by
  induction fields with
  | nil => rfl
  | cons field rest ih =>
    obtain ⟨key, value⟩ := field
    rw [sortMembers, ih, List.map_cons]

variable {values : List Json} {fields : Fields}

lemma plainValues_iff : PlainValues values ↔ ∀ value ∈ values, Plain value := by
  induction values with
  | nil => exact iff_of_true trivial (List.forall_mem_nil _)
  | cons value rest ih => rw [PlainValues, ih, List.forall_mem_cons]

lemma plainMembers_iff : PlainMembers fields ↔ ∀ field ∈ fields, Plain field.2 := by
  induction fields with
  | nil => exact iff_of_true trivial (List.forall_mem_nil _)
  | cons field rest ih =>
    obtain ⟨key, value⟩ := field
    rw [PlainMembers, ih, List.forall_mem_cons]

lemma PlainValues.mem (plain : PlainValues values) {value : Json} (inside : value ∈ values) :
    Plain value := plainValues_iff.1 plain value inside

lemma PlainMembers.mem (plain : PlainMembers fields) {field : String × Json}
    (inside : field ∈ fields) : Plain field.2 := plainMembers_iff.1 plain field inside

lemma NumberStart.apart {first : Char} (starts : NumberStart first) :
    (first ≠ '"' ∧ first ≠ '[' ∧ first ≠ '\x7b') ∧ first ≠ ']' ∧ first ≠ '\x7d'
      ∧ isWhite first = false := by
  rcases starts with digit | rfl | rfl | rfl
  · have bare : isWhite first = false := by
      rw [Bool.eq_false_iff]
      intro white
      simp only [isWhite, Bool.or_eq_true, beq_iff_eq] at white
      rcases white with ((rfl | rfl) | rfl) | rfl
      all_goals exact absurd digit (by decide)
    refine ⟨⟨?_, ?_, ?_⟩, ?_, ?_, bare⟩
    all_goals rintro rfl
    all_goals exact absurd digit (by decide)
  all_goals decide

lemma int_starts (value : Int) :
    ∃ first more, (toString value).toList = first :: more ∧ NumberStart first := by
  obtain ⟨first, more, cut⟩ :=
    List.exists_cons_of_ne_nil (Nat.toDigits_ne_nil (n := value.natAbs) (b := 10))
  rw [toList_toString_int, cut]
  split
  · exact ⟨'-', first :: more, rfl, Or.inr (Or.inl rfl)⟩
  exact ⟨first, more, rfl, Or.inl (isDigit_toDigits first (cut ▸ List.mem_cons_self))⟩

def Begins (text : List Char) : Prop :=
  ∃ first more, text = first :: more ∧ first ≠ ']' ∧ first ≠ '\x7d' ∧ isWhite first = false

lemma begins_dumps (plain : Plain found) : Begins (found.dumpsWith quote) := by
  cases found with
  | null | str | arr | obj => exact ⟨_, _, rfl, by decide⟩
  | bool value => cases value <;> exact ⟨_, _, rfl, by decide⟩
  | int value =>
    obtain ⟨first, more, cut, starts⟩ := int_starts value
    exact ⟨first, more, cut, starts.apart.2⟩
  | float text =>
    obtain ⟨first, more, cut, starts⟩ := plain.starts
    exact ⟨first, more, cut, starts.apart.2⟩

lemma Begins.noSpace (begins : Begins text) (rest : List Char) : NoSpace (text ++ rest) := by
  obtain ⟨first, more, rfl, -, -, bare⟩ := begins
  exact noSpace_cons bare

variable {texts : List (List Char)}

lemma length_le_intercalate (inside : text ∈ texts) :
    text.length ≤ (List.intercalate [','] texts).length := by
  induction texts with
  | nil => cases inside
  | cons first rest ih =>
    cases rest with
    | nil =>
      obtain rfl := List.mem_singleton.1 inside
      simp
    | cons second others =>
      rw [List.intercalate_cons_of_ne_nil (List.cons_ne_nil _ _), List.length_append,
        List.length_append]
      rcases List.mem_cons.1 inside with rfl | later
      · omega
      have := ih later
      omega

lemma length_le_intercalate_length (filled : ∀ text ∈ texts, text ≠ []) :
    texts.length ≤ (List.intercalate [','] texts).length := by
  induction texts with
  | nil => exact le_rfl
  | cons first rest ih =>
    have positive := List.length_pos_of_ne_nil (filled first List.mem_cons_self)
    cases rest with
    | nil =>
      rw [List.intercalate_singleton]
      exact positive
    | cons second others =>
      have tail := ih fun text later => filled text (List.mem_cons_of_mem _ later)
      rw [List.intercalate_cons_of_ne_nil (List.cons_ne_nil _ _), List.length_append,
        List.length_append, List.length_cons]
      omega

lemma Begins.opens (begins : Begins text) (closes : close = ']' ∨ close = '\x7d') :
    ∃ first more, text = first :: more ∧ first ≠ close := by
  obtain ⟨first, more, cut, bracket, brace, -⟩ := begins
  refine ⟨first, more, cut, ?_⟩
  rcases closes with rfl | rfl
  · exact bracket
  exact brace

lemma reads_enclosed {α : Type} {reader : Reader Char α} {start : Char}
    {pieces : List (List Char × α)} (closes : close = ']' ∨ close = '\x7d')
    (enough : (List.intercalate [','] (pieces.map Prod.fst)).length ≤ fuel)
    (reads : ∀ piece ∈ pieces, Reads Delimited reader piece.1 piece.2)
    (starts : ∀ piece ∈ pieces, ∀ rest, NoSpace (piece.1 ++ rest))
    (opens : ∀ piece ∈ pieces, ∃ first more, piece.1 = first :: more ∧ first ≠ close) :
    Reads follow (enclosed reader start close fuel)
      (start :: (List.intercalate [','] (pieces.map Prod.fst) ++ [close])) (pieces.map Prod.snd) := by
  have closeSpace : ∀ rest, NoSpace ([close] ++ rest) := by
    intro rest
    rcases closes with rfl | rfl
    all_goals exact noSpace_cons (by decide)
  rw [← List.singleton_append, enclosed]
  refine reads_literal.then ?_
  cases pieces with
  | nil =>
    refine reads_space.look ?_ fun after _ => closeSpace after
    refine reads_peek_same.look ?_ fun after _ => List.prefix_append _ _
    rw [if_pos rfl, List.map_nil, List.intercalate_nil, List.nil_append, ← List.append_nil [close]]
    exact reads_literal.then Reads.pure
  | cons piece rest =>
    obtain ⟨first, more, begins, apart⟩ := opens piece List.mem_cons_self
    have head : ∃ others, List.intercalate [','] ((piece :: rest).map Prod.fst) ++ [close]
        = piece.1 ++ others := by
      rw [List.map_cons]
      cases rest with
      | nil => exact ⟨[close], by simp⟩
      | cons second others =>
        rw [List.map_cons, List.intercalate_cons_of_ne_nil (List.cons_ne_nil _ _), List.append_assoc,
          List.append_assoc]
        exact ⟨_, rfl⟩
    obtain ⟨others, eq⟩ := head
    have looks : Reads (fun after => piece.1 <+: after) (peek [close]) [] false := by
      refine reads_peek fun after ahead => ?_
      obtain ⟨tail, rfl⟩ := ahead
      rw [begins, List.cons_append, List.isPrefixOf_cons_cons, beq_false_of_ne (Ne.symm apart),
        Bool.false_and]
    have count : (piece :: rest).length ≤ fuel := by
      refine le_trans ?_ enough
      rw [← List.length_map (f := Prod.fst)]
      refine length_le_intercalate_length fun text inside => ?_
      obtain ⟨other, among, rfl⟩ := List.mem_map.1 inside
      obtain ⟨_, _, cut, -⟩ := opens other among
      rw [cut]
      exact List.cons_ne_nil _ _
    refine reads_space.look ?_ fun after _ => ?_
    · refine looks.look ?_ fun after _ => ?_
      · rw [if_neg Bool.false_ne_true]
        exact reads_separated (List.cons_ne_nil _ _) count closes reads starts
      rw [eq, List.append_assoc]
      exact List.prefix_append _ _
    · rw [eq, List.append_assoc]
      exact starts piece List.mem_cons_self _

lemma reads_member (escapes : Escapes quote) {key : String} {reader : Reader Char Json}
    (enough : key.toList.length < fuel) (begins : Begins text) (reads : Reads Delimited reader text found) :
    Reads Delimited (member reader fuel) (quoteWith quote key.toList ++ ':' :: text) (key, found) := by
  have colon : ∀ rest, NoSpace (([':'] ++ text) ++ rest) := fun rest => noSpace_cons (by decide)
  have keyed : Reads (fun _ => True) (string fuel) (quoteWith quote key.toList) (String.ofList key.toList) :=
    reads_string escapes enough
  rw [String.ofList_toList] at keyed
  rw [← List.singleton_append (x := ':'), member]
  refine keyed.then ?_
  refine reads_space.look ?_ fun rest _ => colon rest
  refine reads_literal.then ?_
  refine reads_space.look ?_ fun rest _ => begins.noSpace rest
  rw [← List.append_nil text]
  exact reads.bind Reads.pure fun _ delimited => delimited

lemma length_quoteWith (escapes : Escapes quote) (text : List Char) : text.length + 2 ≤ (quoteWith quote text).length := by
  have inner : text.length ≤ (text.flatMap quote).length := by
    induction text with
    | nil => exact le_rfl
    | cons char rest ih =>
      have := escapes.filled char
      rw [List.flatMap_cons, List.length_append, List.length_cons]
      omega
  rw [quoteWith, List.length_cons, List.length_append, List.length_singleton]
  omega

variable {hook : Fields → Option Json}

lemma value_scalar (reads : Reads Delimited scalar text found)
    (starts : ∃ first more, text = first :: more ∧ first ≠ '"' ∧ first ≠ '[' ∧ first ≠ '\x7b') :
    Reads Delimited (value hook (fuel + 1)) text found := by
  intro rest delimited
  obtain ⟨first, more, rfl, notQuote, notBracket, notBrace⟩ := starts
  have other : value hook (fuel + 1) (first :: more ++ rest) = scalar (first :: more ++ rest) := by
    change (match some first with
      | some '"' => _
      | some '[' => _
      | some '\x7b' => _
      | _ => scalar (first :: more ++ rest)) = _
    split
    · next eq => exact absurd (Option.some.inj eq) notQuote
    · next eq => exact absurd (Option.some.inj eq) notBracket
    · next eq => exact absurd (Option.some.inj eq) notBrace
    · rfl
  rw [other]
  exact reads rest delimited

def ordered (fields : Fields) : Fields := fields.insertionSort fun left right => left.1 ≤ right.1

lemma dumpsWith_obj (fields : Fields) :
    (Json.obj fields).dumpsWith quote = '\x7b' :: (List.intercalate [','] ((ordered fields).map fun field =>
      quoteWith quote field.1.toList ++ ':' :: field.2.dumpsWith quote) ++ ['\x7d']) := by
  have sorted : (dumpsMembersWith quote fields).insertionSort (fun left right => left.1 ≤ right.1)
      = (ordered fields).map fun field =>
        (field.1, quoteWith quote field.1.toList ++ ':' :: field.2.dumpsWith quote) := by
    rw [dumpsMembersWith_eq]
    exact (List.map_insertionSort (fun left right : String × Json => left.1 ≤ right.1)
      (fun left right : String × List Char => left.1 ≤ right.1) _ fields fun _ _ _ _ => Iff.rfl).symm
  rw [Json.dumpsWith, sorted, List.map_map]
  rfl

lemma sortMembers_ordered (fields : Fields) :
    (ordered fields).map (fun field => (field.1, sortKeys field.2))
      = (sortMembers fields).insertionSort fun left right => left.1 ≤ right.1 := by
  rw [sortMembers_eq]
  exact List.map_insertionSort (fun left right : String × Json => left.1 ≤ right.1)
    (fun left right : String × Json => left.1 ≤ right.1) _ fields fun _ _ _ _ => Iff.rfl

/-- What the text of a value reads as, with fuel beyond its length. -/
def Sound (quote : Char → List Char) (hook : Fields → Option Json) (found : Json) : Prop :=
  ∀ {fuel : Nat}, (found.dumpsWith quote).length < fuel →
    Reads Delimited (value hook fuel) (found.dumpsWith quote) (sortKeys found)

lemma sound_null : Sound quote hook .null := by
  intro fuel enough
  obtain ⟨less, rfl⟩ : ∃ less, fuel = less + 1 := ⟨fuel - 1, by omega⟩
  exact value_scalar reads_null ⟨_, _, rfl, by decide⟩

lemma sound_bool (answer : Bool) : Sound quote hook (.bool answer) := by
  intro fuel enough
  obtain ⟨less, rfl⟩ : ∃ less, fuel = less + 1 := ⟨fuel - 1, by omega⟩
  refine value_scalar (reads_bool answer) ?_
  cases answer
  all_goals exact ⟨_, _, rfl, by decide⟩

lemma sound_int {number : Int} (plain : Plain (.int number)) : Sound quote hook (.int number) := by
  intro fuel enough
  obtain ⟨less, rfl⟩ : ∃ less, fuel = less + 1 := ⟨fuel - 1, by omega⟩
  obtain ⟨first, more, cut, starts⟩ := int_starts number
  exact value_scalar (reads_int plain) ⟨first, more, cut, starts.apart.1⟩

lemma sound_float {text : String} (plain : FloatText text) : Sound quote hook (.float text) := by
  intro fuel enough
  obtain ⟨less, rfl⟩ : ∃ less, fuel = less + 1 := ⟨fuel - 1, by omega⟩
  obtain ⟨first, more, cut, starts⟩ := plain.starts
  exact value_scalar plain.reads ⟨first, more, cut, starts.apart.1⟩

lemma sound_str (escapes : Escapes quote) (text : String) : Sound quote hook (.str text) := by
  intro fuel enough
  obtain ⟨less, rfl⟩ : ∃ less, fuel = less + 1 := ⟨fuel - 1, by omega⟩
  have long := length_quoteWith escapes text.toList
  rw [Json.dumpsWith] at enough
  have short : text.toList.length < less := by omega
  have string : Reads Delimited (string less) (quoteWith quote text.toList) (String.ofList text.toList) :=
    reads_string escapes short
  rw [String.ofList_toList] at string
  have whole : Reads Delimited (quoted less) (quoteWith quote text.toList ++ []) (.str text) :=
    Reads.bind string Reads.pure fun _ delimited => delimited
  rw [List.append_nil] at whole
  exact whole

section
variable {write : Json → List Char} {shape : Json → Json}

/-- What writes a value, and what its text reads as, with fuel beyond its length. -/
def ReadsAs (hook : Fields → Option Json) (write : Json → List Char) (shape : Json → Json)
    (found : Json) : Prop :=
  Begins (write found) ∧ ∀ {fuel : Nat}, (write found).length < fuel →
    Reads Delimited (value hook fuel) (write found) (shape found)

lemma reads_array {values : List Json} (children : ∀ item ∈ values, ReadsAs hook write shape item)
    (enough : ('[' :: (List.intercalate [','] (values.map write) ++ [']'])).length < fuel) :
    Reads Delimited (value hook fuel) ('[' :: (List.intercalate [','] (values.map write) ++ [']']))
      (.arr (values.map shape)) := by
  obtain ⟨less, rfl⟩ : ∃ less, fuel = less + 1 := ⟨fuel - 1, by omega⟩
  let pieces := values.map fun item => (write item, shape item)
  have texts : pieces.map Prod.fst = values.map write := by
    rw [List.map_map]
    rfl
  have results : pieces.map Prod.snd = values.map shape := by
    rw [List.map_map]
    rfl
  rw [← texts, List.length_cons, List.length_append, List.length_singleton] at enough
  have inner : Reads Delimited (enclosed (value hook less) '[' ']' less)
      ('[' :: (List.intercalate [','] (pieces.map Prod.fst) ++ [']'])) (pieces.map Prod.snd) := by
    refine reads_enclosed (Or.inl rfl) (by omega) ?_ ?_ ?_
    all_goals intro piece inside
    all_goals obtain ⟨item, among, rfl⟩ := List.mem_map.1 inside
    · have shorter := length_le_intercalate (List.mem_map_of_mem (f := Prod.fst) inside)
      exact (children item among).2 (by dsimp only at shorter; omega)
    · exact (children item among).1.noSpace
    · exact (children item among).1.opens (Or.inl rfl)
  have whole : Reads Delimited (array (value hook less) less)
      ('[' :: (List.intercalate [','] (pieces.map Prod.fst) ++ [']']) ++ [])
      (.arr (pieces.map Prod.snd)) := Reads.bind inner Reads.pure fun _ delimited => delimited
  rw [List.append_nil, texts, results] at whole
  exact whole

lemma reads_object (escapes : Escapes quote) {fields : Fields} {result : Json}
    (children : ∀ field ∈ fields, ReadsAs hook write shape field.2)
    (accepts : hook (fields.map fun field => (field.1, shape field.2)) = some result)
    (enough : ('\x7b' :: (List.intercalate [','] (fields.map fun field =>
      quoteWith quote field.1.toList ++ ':' :: write field.2) ++ ['\x7d'])).length < fuel) :
    Reads Delimited (value hook fuel) ('\x7b' :: (List.intercalate [','] (fields.map fun field =>
      quoteWith quote field.1.toList ++ ':' :: write field.2) ++ ['\x7d'])) result := by
  obtain ⟨less, rfl⟩ : ∃ less, fuel = less + 1 := ⟨fuel - 1, by omega⟩
  let pieces := fields.map fun field =>
    (quoteWith quote field.1.toList ++ ':' :: write field.2, (field.1, shape field.2))
  have texts : pieces.map Prod.fst =
      fields.map fun field => quoteWith quote field.1.toList ++ ':' :: write field.2 := by
    rw [List.map_map]
    rfl
  have results : pieces.map Prod.snd = fields.map fun field => (field.1, shape field.2) := by
    rw [List.map_map]
    rfl
  rw [← texts, List.length_cons, List.length_append, List.length_singleton] at enough
  rw [← texts]
  have inner : Reads Delimited (enclosed (member (value hook less) less) '\x7b' '\x7d' less)
      ('\x7b' :: (List.intercalate [','] (pieces.map Prod.fst) ++ ['\x7d'])) (pieces.map Prod.snd) := by
    refine reads_enclosed (Or.inr rfl) (by omega) ?_ ?_ ?_
    all_goals intro piece inside
    all_goals obtain ⟨field, among, rfl⟩ := List.mem_map.1 inside
    · have shorter := length_le_intercalate (List.mem_map_of_mem (f := Prod.fst) inside)
      have long := length_quoteWith escapes field.1.toList
      rw [List.length_append, List.length_cons] at shorter
      exact reads_member escapes (by omega) (children field among).1
        ((children field among).2 (by omega))
    · exact fun rest => noSpace_cons (by decide)
    · exact ⟨_, _, rfl, by decide⟩
  have whole : Reads Delimited (object hook (value hook less) less)
      ('\x7b' :: (List.intercalate [','] (pieces.map Prod.fst) ++ ['\x7d']) ++ []) result :=
    Reads.bind inner (reads_ofOption (by rw [results, accepts])) fun _ delimited => delimited
  rw [List.append_nil] at whole
  exact whole

end

lemma sound_arr (plain : PlainValues values) (children : ∀ value ∈ values, Sound quote hook value) :
    Sound quote hook (.arr values) := by
  intro fuel enough
  rw [Json.dumpsWith, dumpsValuesWith_eq] at enough ⊢
  rw [sortKeys, sortValues_eq]
  exact reads_array (fun value among => ⟨begins_dumps (plain.mem among), children value among⟩) enough

lemma sound_obj (escapes : Escapes quote)
    (accepts : ∀ fields : Fields, (fields.map Prod.fst).Nodup → hook fields = some (.obj fields))
    (plain : Plain (.obj fields)) (children : ∀ field ∈ fields, Sound quote hook field.2) :
    Sound quote hook (.obj fields) := by
  intro fuel enough
  have distinct : (((sortMembers fields).insertionSort fun left right => left.1 ≤ right.1).map
      Prod.fst).Nodup := by
    rw [← sortMembers_ordered, List.map_map]
    exact ((List.perm_insertionSort _ fields).map Prod.fst).nodup_iff.2 plain.1
  have among : ∀ field ∈ ordered fields, field ∈ fields := fun field inside =>
    (List.perm_insertionSort _ fields).mem_iff.1 inside
  rw [dumpsWith_obj] at enough ⊢
  refine reads_object escapes (fun field inside => ⟨begins_dumps (plain.2.mem (among field inside)),
    children field (among field inside)⟩) ?_ enough
  rw [sortMembers_ordered, accepts _ distinct]
  rfl

lemma sound_plain (escapes : Escapes quote) (accepts : ∀ fields : Fields, (fields.map Prod.fst).Nodup → hook fields = some (.obj fields)) :
    (found : Json) → Plain found → Sound quote hook found
  | .null, _ => sound_null
  | .bool answer, _ => sound_bool answer
  | .int _, plain => sound_int plain
  | .float _, plain => sound_float plain
  | .str text, _ => sound_str escapes text
  | .arr values, plain =>
    sound_arr plain fun value inside => sound_plain escapes accepts value (PlainValues.mem plain inside)
  | .obj fields, plain =>
    sound_obj escapes accepts plain fun field inside =>
      sound_plain escapes accepts field.2 (plain.2.mem inside)
termination_by found => sizeOf found
decreasing_by
  · have := List.sizeOf_lt_of_mem inside
    have whole : sizeOf (Json.arr values) = 1 + sizeOf values := by simp
    omega
  · have := List.sizeOf_lt_of_mem inside
    have : sizeOf field = 1 + sizeOf field.1 + sizeOf field.2 := rfl
    have whole : sizeOf (Json.obj fields) = 1 + sizeOf fields := by simp
    omega

lemma delimited_nil : Delimited [] := Or.inl rfl

lemma loads_of_reads (reads : Reads Delimited (value hook (text.length + 1)) text found) (begins : Begins text) :
    loads hook text = some found := by
  have after : Reads (fun rest => rest = []) (do space; pure found) [] found :=
    reads_space.look Reads.pure fun rest empty => by
      rw [List.nil_append, empty]
      rfl
  have body : Reads (fun rest => rest = []) (do
      let found ← value hook (text.length + 1)
      space
      pure found) (text ++ []) found := by
    refine Reads.bind reads after ?_
    rintro rest rfl
    exact delimited_nil
  rw [List.append_nil] at body
  have ends : Reads (fun rest => rest = []) (document hook (text.length + 1)) text found :=
    reads_space.look body fun rest _ => begins.noSpace rest
  exact ends.whole rfl

lemma loads_dumpsWith (escapes : Escapes quote)
    (accepts : ∀ fields : Fields, (fields.map Prod.fst).Nodup → hook fields = some (.obj fields))
    (plain : Plain found) : loads hook (found.dumpsWith quote) = some (sortKeys found) :=
  loads_of_reads (sound_plain escapes accepts found plain (Nat.lt_succ_self _)) (begins_dumps plain)

lemma begins_compact (plain : Plain found) : Begins found.compact := by
  cases found with
  | arr | obj => exact ⟨_, _, rfl, by decide⟩
  | null | bool _ | int _ | float _ | str _ => exact show Begins (Json.dumpsWith escapeChar _) from begins_dumps plain

lemma reads_compact (accepts : ∀ fields : Fields, (fields.map Prod.fst).Nodup → hook fields = some (.obj fields)) :
    (found : Json) → Plain found → ∀ {fuel : Nat}, found.compact.length < fuel →
      Reads Delimited (value hook fuel) found.compact found
  | .null, _, _, enough => (show Sound escapeChar hook .null from sound_null) enough
  | .bool answer, _, _, enough => (show Sound escapeChar hook (.bool answer) from sound_bool answer) enough
  | .int number, plain, _, enough => (show Sound escapeChar hook (.int number) from sound_int plain) enough
  | .float text, plain, _, enough => (show Sound escapeChar hook (.float text) from sound_float plain) enough
  | .str text, _, _, enough => sound_str escapes_escapeChar text enough
  | .arr values, plain, fuel, enough => by
    have children : ∀ value ∈ values, ReadsAs hook Json.compact id value := fun value among =>
      ⟨begins_compact (PlainValues.mem plain among),
        reads_compact accepts value (PlainValues.mem plain among)⟩
    rw [Json.compact, compactValues_eq] at enough ⊢
    have whole := reads_array children enough
    rw [List.map_id] at whole
    exact whole
  | .obj fields, plain, fuel, enough => by
    have children : ∀ own ∈ fields, ReadsAs hook Json.compact id own.2 := fun own listed =>
      ⟨begins_compact (plain.2.mem listed), reads_compact accepts own.2 (plain.2.mem listed)⟩
    rw [Json.compact, compactMembers_eq] at enough ⊢
    exact reads_object escapes_escapeChar children
      ((congrArg hook (List.map_id fields)).trans (accepts fields plain.1)) enough
termination_by found => sizeOf found
decreasing_by
  · have := List.sizeOf_lt_of_mem among
    have whole : sizeOf (Json.arr values) = 1 + sizeOf values := by simp
    omega
  · have := List.sizeOf_lt_of_mem listed
    have : sizeOf own = 1 + sizeOf own.1 + sizeOf own.2 := rfl
    have whole : sizeOf (Json.obj fields) = 1 + sizeOf fields := by simp
    omega

lemma loads_compact (accepts : ∀ fields : Fields, (fields.map Prod.fst).Nodup → hook fields = some (.obj fields))
    (plain : Plain found) : loads hook found.compact = some found :=
  loads_of_reads (reads_compact accepts found plain (Nat.lt_succ_self _)) (begins_compact plain)

lemma dict_of_nodup (distinct : (fields.map Prod.fst).Nodup) : dict fields = some (.obj fields) := by
  suffices folds : ∀ pairs known : Fields, ((known ++ pairs).map Prod.fst).Nodup →
      pairs.foldl (fun fields pair => Fields.set fields pair.1 pair.2) known = known ++ pairs by
    rw [dict, folds fields [] distinct, List.nil_append]
  intro pairs
  induction pairs with
  | nil => exact fun known _ => (List.append_nil known).symm
  | cons pair pairs ih =>
    intro known distinct
    have fresh : ¬ (known.any fun field => field.1 == pair.1) = true := by
      rw [List.any_eq_true]
      rintro ⟨field, inside, eq⟩
      rw [List.map_append, List.map_cons] at distinct
      exact (List.nodup_append.1 distinct).2.2 _ (List.mem_map_of_mem inside) _ List.mem_cons_self (beq_iff_eq.1 eq)
    have onward := ih (known ++ [pair]) (by rwa [List.append_assoc])
    rw [List.append_assoc] at onward
    rw [List.foldl_cons, Fields.set, if_neg fresh]
    exact onward

lemma dumpsWith_injective (escapes : Escapes quote) (leftPlain : Plain left)
    (rightPlain : Plain right) (eq : left.dumpsWith quote = right.dumpsWith quote) :
    sortKeys left = sortKeys right := by
  have accepts : ∀ fields : Fields, (fields.map Prod.fst).Nodup
      → (fun fields => some (Json.obj fields)) fields = some (.obj fields) := fun _ _ => rfl
  have read := loads_dumpsWith escapes accepts leftPlain
  rw [eq, loads_dumpsWith escapes accepts rightPlain] at read
  exact (Option.some.inj read).symm

lemma dumps_injective (leftPlain : Plain left) (rightPlain : Plain right)
    (eq : left.dumps = right.dumps) : sortKeys left = sortKeys right := by
  have chars := String.ofList_injective eq
  rw [← dumpsWith_escapeChar, ← dumpsWith_escapeChar] at chars
  exact dumpsWith_injective escapes_escapeChar leftPlain rightPlain chars

lemma dumpsAscii_injective (leftPlain : Plain left) (rightPlain : Plain right)
    (eq : left.dumpsAscii = right.dumpsAscii) : sortKeys left = sortKeys right :=
  dumpsWith_injective escapes_escapeAscii leftPlain rightPlain (String.ofList_injective eq)

end Obsion.Loads
