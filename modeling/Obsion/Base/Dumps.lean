import Obsion.Base.Json

/-! # Canonical JSON texts

`json.dumps(value, sort_keys=True, ensure_ascii=False, separators=(",", ":"))`, in general
and of an object whose values are strings.  Two such objects with the same keys have the
same text only if they are equal, since an escaped string ends at its first bare quotation
mark. -/

namespace Obsion

def shortEscape (char : Char) : Option Char :=
  if char = '"' then some '"'
  else if char = '\\' then some '\\'
  else if char = '\n' then some 'n'
  else if char = '\r' then some 'r'
  else if char = '\t' then some 't'
  else if char = '\x0c' then some 'f'
  else if char = '\x08' then some 'b'
  else none

def unicodeEscape (code : Nat) : List Char :=
  ['\\', 'u', hexChar (Fin.ofNat 16 (code / 4096)), hexChar (Fin.ofNat 16 (code / 256)),
    hexChar (Fin.ofNat 16 (code / 16)), hexChar (Fin.ofNat 16 code)]

/-- The escapes of `json.dumps(..., ensure_ascii=False)`. -/
def escapeChar (char : Char) : List Char :=
  match shortEscape char with
  | some letter => ['\\', letter]
  | none => if char.toNat < 0x20 then unicodeEscape char.toNat else [char]

/-- The escapes of `json.dumps`; a character beyond 16 bits is a surrogate pair. -/
def escapeAscii (char : Char) : List Char :=
  match shortEscape char with
  | some letter => ['\\', letter]
  | none =>
    if 0x20 ≤ char.toNat ∧ char.toNat ≤ 0x7e then [char]
    else if char.toNat < 0x10000 then unicodeEscape char.toNat
    else unicodeEscape (0xd800 + (char.toNat - 0x10000) / 1024)
      ++ unicodeEscape (0xdc00 + (char.toNat - 0x10000) % 1024)

def quoteChars (text : List Char) : List Char := '"' :: (text.flatMap escapeChar ++ ['"'])

def quoteAscii (text : List Char) : List Char := '"' :: (text.flatMap escapeAscii ++ ['"'])

mutual

def Json.dumpsChars : Json → List Char
  | .null => "null".toList
  | .bool value => (if value then "true" else "false").toList
  | .int value => (toString value).toList
  | .float text => text.toList
  | .str value => quoteChars value.toList
  | .arr values => '[' :: (List.intercalate [','] (dumpsValues values) ++ [']'])
  | .obj fields =>
    '\x7b' :: (List.intercalate [',']
      (((dumpsMembers fields).insertionSort fun left right => left.1 ≤ right.1).map Prod.snd)
      ++ ['\x7d'])

def dumpsValues : List Json → List (List Char)
  | [] => []
  | value :: rest => value.dumpsChars :: dumpsValues rest

def dumpsMembers : List (String × Json) → List (String × List Char)
  | [] => []
  | (key, value) :: rest =>
    (key, quoteChars key.toList ++ ':' :: value.dumpsChars) :: dumpsMembers rest

end

def Json.dumps (value : Json) : String := String.ofList value.dumpsChars

/-! ## Other escapes -/

def quoteWith (escape : Char → List Char) (text : List Char) : List Char :=
  '"' :: (text.flatMap escape ++ ['"'])

mutual

def Json.dumpsWith (escape : Char → List Char) : Json → List Char
  | .null => "null".toList
  | .bool value => (if value then "true" else "false").toList
  | .int value => (toString value).toList
  | .float text => text.toList
  | .str value => quoteWith escape value.toList
  | .arr values => '[' :: (List.intercalate [','] (dumpsValuesWith escape values) ++ [']'])
  | .obj fields =>
    '\x7b' :: (List.intercalate [',']
      (((dumpsMembersWith escape fields).insertionSort fun left right => left.1 ≤ right.1).map Prod.snd)
      ++ ['\x7d'])

def dumpsValuesWith (escape : Char → List Char) : List Json → List (List Char)
  | [] => []
  | value :: rest => value.dumpsWith escape :: dumpsValuesWith escape rest

def dumpsMembersWith (escape : Char → List Char) : List (String × Json) → List (String × List Char)
  | [] => []
  | (key, value) :: rest =>
    (key, quoteWith escape key.toList ++ ':' :: value.dumpsWith escape)
      :: dumpsMembersWith escape rest

end

mutual

lemma dumpsWith_escapeChar : (value : Json) → value.dumpsWith escapeChar = value.dumpsChars
  | .null | .bool _ | .int _ | .float _ | .str _ => rfl
  | .arr values => by rw [Json.dumpsWith, Json.dumpsChars, dumpsValuesWith_escapeChar values]
  | .obj fields => by rw [Json.dumpsWith, Json.dumpsChars, dumpsMembersWith_escapeChar fields]

lemma dumpsValuesWith_escapeChar :
    (values : List Json) → dumpsValuesWith escapeChar values = dumpsValues values
  | [] => rfl
  | value :: rest => by
      rw [dumpsValuesWith, dumpsValues, dumpsWith_escapeChar value, dumpsValuesWith_escapeChar rest]

lemma dumpsMembersWith_escapeChar :
    (fields : List (String × Json)) → dumpsMembersWith escapeChar fields = dumpsMembers fields
  | [] => rfl
  | (key, value) :: rest => by
      rw [dumpsMembersWith, dumpsMembers, dumpsWith_escapeChar value, dumpsMembersWith_escapeChar rest]
      rfl

end

/-- `json.dumps(value, sort_keys=True, separators=(",", ":"))` -/
def Json.dumpsAscii (value : Json) : String := String.ofList (value.dumpsWith escapeAscii)

mutual

/-- `json.dumps(value, ensure_ascii=False, separators=(",", ":"))` -/
def Json.compact : Json → List Char
  | .null => "null".toList
  | .bool value => (if value then "true" else "false").toList
  | .int value => (toString value).toList
  | .float text => text.toList
  | .str value => quoteWith escapeChar value.toList
  | .arr values => '[' :: (List.intercalate [','] (compactValues values) ++ [']'])
  | .obj fields => '\x7b' :: (List.intercalate [','] (compactMembers fields) ++ ['\x7d'])

def compactValues : List Json → List (List Char)
  | [] => []
  | value :: rest => value.compact :: compactValues rest

def compactMembers : List (String × Json) → List (List Char)
  | [] => []
  | (key, value) :: rest => (quoteWith escapeChar key.toList ++ ':' :: value.compact) :: compactMembers rest

end

lemma compactValues_eq (values : List Json) : compactValues values = values.map Json.compact := by
  induction values with
  | nil => rfl
  | cons value rest ih => rw [compactValues, ih, List.map_cons]

lemma compactMembers_eq (fields : List (String × Json)) :
    compactMembers fields = fields.map fun field => quoteWith escapeChar field.1.toList ++ ':' :: field.2.compact := by
  induction fields with
  | nil => rfl
  | cons field rest ih =>
    obtain ⟨key, value⟩ := field
    rw [compactMembers, ih, List.map_cons]

def dumpsFields : List (String × String) → List Char
  | [] => []
  | [(key, value)] => quoteChars key.toList ++ ':' :: quoteChars value.toList
  | (key, value) :: rest =>
    quoteChars key.toList ++ ':' :: (quoteChars value.toList ++ ',' :: dumpsFields rest)

def dumpsStrings (fields : List (String × String)) : String :=
  String.ofList ('\x7b' :: (dumpsFields fields ++ ['\x7d']))

def unescape : List Char → Option (Char × List Char)
  | [] => none
  | '"' :: _ => none
  | '\\' :: '"' :: rest => some ('"', rest)
  | '\\' :: '\\' :: rest => some ('\\', rest)
  | '\\' :: 'n' :: rest => some ('\n', rest)
  | '\\' :: 'r' :: rest => some ('\r', rest)
  | '\\' :: 't' :: rest => some ('\t', rest)
  | '\\' :: 'f' :: rest => some ('\x0c', rest)
  | '\\' :: 'b' :: rest => some ('\x08', rest)
  | '\\' :: 'u' :: _ :: _ :: high :: low :: rest =>
    match hexDigit? high, hexDigit? low with
    | some high, some low => some (Char.ofNat (16 * high.val + low.val), rest)
    | _, _ => none
  | char :: rest => some (char, rest)

variable {char : Char} {left right after other : List Char}

lemma unescape_short {letter : Char} (short : shortEscape char = some letter) (rest : List Char) :
    unescape ('\\' :: letter :: rest) = some (char, rest) := by
  unfold shortEscape at short
  repeat' split at short
  all_goals cases short
  all_goals subst_vars
  all_goals rfl

lemma shortEscape_none (plain : shortEscape char = none) :
    char ≠ '"' ∧ char ≠ '\\' := by
  constructor
  · rintro rfl
    cases plain
  rintro rfl
  cases plain

lemma unescape_escapeChar (char : Char) (rest : List Char) :
    unescape (escapeChar char ++ rest) = some (char, rest) := by
  unfold escapeChar
  split
  · next letter short => exact unescape_short short rest
  next plain =>
  split
  · next control =>
    have value : 16 * (Fin.ofNat 16 (char.toNat / 16)).val + (Fin.ofNat 16 char.toNat).val
        = char.toNat := by
      simp only [Fin.val_ofNat]
      omega
    simp only [unicodeEscape, List.cons_append, List.nil_append, unescape, hexDigit?_hexChar]
    rw [value, Char.ofNat_toNat]
  · obtain ⟨notQuote, notBackslash⟩ := shortEscape_none plain
    rw [List.singleton_append]
    unfold unescape
    split
    all_goals first | rfl | simp_all

lemma escaped_injective
    (eq : left.flatMap escapeChar ++ '"' :: after = right.flatMap escapeChar ++ '"' :: other) :
    left = right ∧ after = other := by
  induction left generalizing right with
  | nil =>
    cases right with
    | nil => exact ⟨rfl, (List.cons.inj eq).2⟩
    | cons char rest =>
      have read := congrArg unescape eq
      rw [List.flatMap_cons, List.append_assoc, unescape_escapeChar] at read
      cases read
  | cons char rest ih =>
    cases right with
    | nil =>
      have read := congrArg unescape eq
      rw [List.flatMap_cons, List.append_assoc, unescape_escapeChar] at read
      cases read
    | cons found later =>
      have read := congrArg unescape eq
      rw [List.flatMap_cons, List.flatMap_cons, List.append_assoc, List.append_assoc,
        unescape_escapeChar, unescape_escapeChar] at read
      obtain ⟨rfl, tail⟩ := Prod.mk.inj (Option.some.inj read)
      obtain ⟨rfl, ends⟩ := ih tail
      exact ⟨rfl, ends⟩

lemma quoteChars_injective (eq : quoteChars left ++ after = quoteChars right ++ other) :
    left = right ∧ after = other := by
  simp only [quoteChars, List.cons_append, List.append_assoc, List.cons.injEq, true_and,
    List.nil_append] at eq
  exact escaped_injective eq

lemma dumpsFields_injective {left right : List (String × String)}
    (keys : left.map Prod.fst = right.map Prod.fst)
    (eq : dumpsFields left ++ after = dumpsFields right ++ other) : left = right := by
  induction left generalizing right with
  | nil => exact (List.map_eq_nil_iff.1 keys.symm).symm
  | cons first rest ih =>
    obtain ⟨key, value⟩ := first
    cases right with
    | nil => cases keys
    | cons found later =>
      obtain ⟨otherKey, otherValue⟩ := found
      obtain ⟨rfl, laterKeys⟩ := List.cons.inj keys
      cases rest with
      | nil =>
        obtain rfl := List.map_eq_nil_iff.1 laterKeys.symm
        simp only [dumpsFields, List.append_assoc, List.cons_append] at eq
        have tail := (quoteChars_injective eq).2
        have values := (quoteChars_injective (List.cons.inj tail).2).1
        rw [String.toList_inj.1 values]
      | cons second more =>
        cases later with
        | nil => cases laterKeys
        | cons third others =>
          simp only [dumpsFields, List.append_assoc, List.cons_append] at eq
          have tail := (quoteChars_injective eq).2
          obtain ⟨values, remaining⟩ := quoteChars_injective (List.cons.inj tail).2
          rw [String.toList_inj.1 values, ih laterKeys (List.cons.inj remaining).2]

lemma dumpsStrings_injective {left right : List (String × String)}
    (keys : left.map Prod.fst = right.map Prod.fst)
    (eq : dumpsStrings left = dumpsStrings right) : left = right := by
  have chars := String.ofList_injective eq
  exact dumpsFields_injective keys (List.cons.inj chars).2

end Obsion
