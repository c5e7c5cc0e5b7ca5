import Obsion.Lib.Patch
import Obsion.Sandbox.Delivery

/-! # What a reference applier reads

Each piece of the patch is taken by the reader of its place in the format: quoted paths,
mode lines, line counts and the lines themselves, whatever they look like. -/

namespace Obsion.Sandbox

open Lib Lib.Reader Lib.Patch

variable {host : Host}

def Apart (word other : Bytes) : Prop := ¬ word <+: other ∧ ¬ other <+: word

instance (word other : Bytes) : Decidable (Apart word other) := inferInstanceAs (Decidable (_ ∧ _))

/-- The words of the format are ASCII, and the reader can tell those that it looks ahead for. -/
structure Words : Prop where
  mark : noNewline = 92 :: noNewline.tail
  markLine : noNewlineMark = 10 :: noNewline
  range : encode "@@ -" = ascii "@@ -" ∧ encode "," = [44] ∧ encode " +" = [32] ++ ascii "+" ∧
    encode " @@\n" = [32] ++ ascii "@@\n"
  mode : encode "new file mode " = ascii "new file mode " ∧
    encode "deleted file mode " = ascii "deleted file mode " ∧ encode "old mode " = ascii "old mode " ∧
    encode "\nnew mode " = encode "\n" ++ ascii "new mode "
  sides : encode "--- " = ascii "--- " ∧ encode "\n+++ " = ascii "\n+++ " ∧ encode "/dev/null" = ascii "/dev/null"
  tags : encode "-" = [45] ∧ encode "+" = [43]
  paths : encode "a/" = ascii "a/" ∧ encode "b/" = ascii "b/"
  file : encode "diff --git " = ascii "diff --git " ∧ encode " " = ascii " " ∧ encode "\n" = ascii "\n"
  next : ∀ word ∈ [noNewline, ascii "--- ", ascii "new file mode ", ascii "deleted file mode ", ascii "old mode "],
    word ≠ [] ∧ Apart (ascii "diff --git ") word
  kinds : ∀ word ∈ [ascii "new file mode ", ascii "deleted file mode ", ascii "old mode "],
    Apart (ascii "--- ") word
  old : ∀ word ∈ [ascii "new file mode ", ascii "deleted file mode "], Apart (ascii "old mode ") word
  deleted : Apart (ascii "deleted file mode ") (ascii "new file mode ")

lemma words : Words := by
  constructor <;> simp only [encode, noNewline, noNewlineMark, ascii, String.reduceToList] <;> decide

/-! ## Quoted paths -/

lemma digitChar_octal : ∀ digit < 8, (Nat.digitChar digit).toNat = 48 + digit := by decide

lemma octalDigit_octal : ∀ digit < 8, octalDigit (UInt8.ofNat (48 + digit)) = some digit := by decide

lemma encode_quotedByte (value : UInt8) : encodeChars (quotedByte value)
      = if 32 ≤ value.toNat ∧ value.toNat < 127 ∧ value ≠ 34 ∧ value ≠ 92 then [value]
        else [92, UInt8.ofNat (48 + value.toNat / 64), UInt8.ofNat (48 + value.toNat / 8 % 8),
          UInt8.ofNat (48 + value.toNat % 8)] := by
  have bound := value.toNat_lt
  rw [quotedByte]
  split
  · next plain =>
    have eq := toNat_ofNat_toNat value
    have ascii : ∀ char ∈ [Char.ofNat value.toNat], char.toNat < 128 := by
      simp only [List.forall_mem_singleton, eq]
      omega
    rw [encodeChars_ascii ascii, List.map_singleton, eq, UInt8.ofNat_toNat]
  · have high := digitChar_octal (value.toNat / 64) (by omega)
    have middle := digitChar_octal (value.toNat / 8 % 8) (by omega)
    have low := digitChar_octal (value.toNat % 8) (by omega)
    rw [encodeChars_ascii]
    · simp only [List.map_cons, List.map_nil, high, middle, low]
      rfl
    · simp only [List.forall_mem_cons, high, middle, low]
      exact ⟨by decide, by omega, by omega, by omega, by simp⟩

lemma octal_digits (value : UInt8) :
    octal (UInt8.ofNat (48 + value.toNat / 64)) (UInt8.ofNat (48 + value.toNat / 8 % 8))
      (UInt8.ofNat (48 + value.toNat % 8)) = some value := by
  have bound := value.toNat_lt
  have whole : 64 * (value.toNat / 64) + 8 * (value.toNat / 8 % 8) + value.toNat % 8 = value.toNat := by omega
  rw [octal, octalDigit_octal _ (by omega), octalDigit_octal _ (by omega), octalDigit_octal _ (by omega)]
  simp only [Option.bind_eq_bind, Option.bind_some, whole]
  rw [if_pos bound, UInt8.ofNat_toNat]

lemma unquote_quotedByte (value : UInt8) (rest : Bytes) :
    unquote (encodeChars (quotedByte value) ++ rest)
      = (unquote rest).map fun found => (value :: found.1, found.2) := by
  rw [encode_quotedByte]
  split
  · next plain => exact unquote_plain plain.2.2.1 plain.2.2.2 rest
  exact unquote_octal (octal_digits value) rest

lemma unquote_quoted (raw rest : Bytes) :
    unquote (encodeChars (raw.flatMap quotedByte) ++ 34 :: rest) = some (raw, rest) := by
  induction raw with
  | nil => exact unquote_end rest
  | cons value raw ih =>
    rw [List.flatMap_cons, encodeChars_append, List.append_assoc, unquote_quotedByte, ih]
    rfl

lemma encode_quotedPath (side path : String) : encode (quotedPath side path)
      = 34 :: (encodeChars ((encode (side ++ path)).flatMap quotedByte) ++ [34]) := by
  have mark : encodeChars ['"'] = [34] := by decide
  rw [quotedPath, encode_ofList, ← List.singleton_append, encodeChars_append, encodeChars_append, mark]
  rfl

variable {follow : Bytes → Prop}

variable {side path : String} {texts olds news : List Bytes} {fuel : Nat} {char : Char}
  {mark : UInt8} {other : Bytes}

lemma reads_sidePath (plain : encode side = ascii side) :
    Reads follow (sidePath side) (encode (quotedPath side path)) (encode path) := by
  have text : encode (quotedPath side path)
      = ascii "\"" ++ (encodeChars ((encode (side ++ path)).flatMap quotedByte) ++ [34] ++ []) := by
    rw [encode_quotedPath, List.append_nil]
    rfl
  have dropped : (encode (side ++ path)).dropPrefix? (ascii side) = some (encode path) := by
    rw [encode_append, plain]
    exact List.dropPrefix?_eq_some_iff.2 ⟨ascii side, rfl, by simp⟩
  have inner : Reads (fun _ => True) unquote
      (encodeChars ((encode (side ++ path)).flatMap quotedByte) ++ [34]) (encode (side ++ path)) := by
    intro rest _
    rw [List.append_assoc, List.singleton_append]
    exact unquote_quoted _ _
  rw [text]
  exact reads_literal.then (inner.then (reads_ofOption dropped))

def isExecutable (file : Option (ProjectFile host)) : Bool :=
  match file with
  | some file => file.executable
  | none => false

variable {old new : Option (ProjectFile host)} {rest : Bytes} {count : Nat}

lemma modeOf_ne_iff : modeOf old ≠ modeOf new ↔ isExecutable old ≠ isExecutable new := by
  have word : ∀ file : Option (ProjectFile host),
      modeOf file = if isExecutable file then "100755" else "100644" := by
    intro file
    cases file <;> rfl
  rw [word, word]
  cases isExecutable old <;> cases isExecutable new <;> decide

lemma reads_mode (file : Option (ProjectFile host)) :
    Reads follow mode (encode (modeOf file ++ "\n")) (isExecutable file) := by
  have word : ∀ executable : Bool, Reads follow mode
      (encode ((if executable then "100755" else "100644") ++ "\n")) executable := by
    intro executable rest _
    cases executable <;> rfl
  have eq : modeOf file = if isExecutable file then "100755" else "100644" := by
    cases file <;> rfl
  rw [eq]
  exact word _

def ofParts : List Bytes → List Bytes
  | [] => []
  | [last] => if last = [] then [] else [last]
  | part :: next :: rest => (part ++ [10]) :: ofParts (next :: rest)

lemma ofParts_eq {parts : List Bytes} (filled : parts ≠ []) :
    ofParts parts = parts.dropLast.map (fun part => part ++ [10])
      ++ if parts.getLast filled = [] then [] else [parts.getLast filled] := by
  induction parts with
  | nil => exact absurd rfl filled
  | cons part rest ih =>
    cases rest with
    | nil => rfl
    | cons next others => rw [ofParts, ih (List.cons_ne_nil _ _)]; rfl

lemma lines_eq (content : Bytes) : lines content = ofParts (content.splitOn 10) := by
  rw [lines]
  split
  · next empty =>
    subst empty
    rw [List.splitOn_nil]
    rfl
  · exact (ofParts_eq _).symm

lemma splitLines_eq (content : Bytes) : splitLines content = ofParts (content.splitOn 10) := by
  induction content with
  | nil => rfl
  | cons byte rest ih =>
    obtain ⟨first, others, cut⟩ := List.exists_cons_of_ne_nil (List.splitOn_ne_nil 10 rest)
    rw [splitLines, ih, List.splitOn_cons_eq_if_modifyHead, cut]
    by_cases newline : byte = 10
    · rw [if_pos newline, if_pos (beq_iff_eq.2 newline)]
      rfl
    rw [if_neg newline, if_neg (by simpa using newline)]
    cases others with
    | nil => by_cases empty : first = [] <;> simp [ofParts, empty]
    | cons next more => rfl

lemma splitLines_eq_lines (content : Bytes) : splitLines content = lines content :=
  (splitLines_eq content).trans (lines_eq content).symm

lemma flatten_splitLines (content : Bytes) : (splitLines content).flatten = content := by
  induction content with
  | nil => rfl
  | cons byte rest ih =>
    rw [splitLines]
    split
    · next newline => rw [List.flatten_cons, ih, newline]; rfl
    cases cut : splitLines rest with
    | nil => rw [← ih, cut]; rfl
    | cons first others => rw [← ih, cut]; rfl

lemma flatten_lines (content : Bytes) : (lines content).flatten = content := by
  rw [← splitLines_eq_lines, flatten_splitLines]

def IsLine (line : Bytes) : Prop :=
  (∃ body : Bytes, 10 ∉ body ∧ line = body ++ [10]) ∨ (line ≠ [] ∧ 10 ∉ line)

lemma isLine_of_mem {content line : Bytes} (mem : line ∈ splitLines content) : IsLine line := by
  induction content generalizing line with
  | nil => cases mem
  | cons byte rest ih =>
    rw [splitLines] at mem
    split at mem
    · rcases List.mem_cons.1 mem with rfl | later
      · exact .inl ⟨[], List.not_mem_nil, rfl⟩
      exact ih later
    · next inner =>
      have apart : ∀ body : Bytes, 10 ∉ body → (10 : UInt8) ∉ byte :: body := by
        intro body plain newline
        rcases List.mem_cons.1 newline with eq | later
        · exact inner eq.symm
        exact plain later
      cases cut : splitLines rest with
      | nil =>
        rw [cut] at mem
        obtain rfl := List.mem_singleton.1 mem
        exact .inr ⟨List.cons_ne_nil _ _, apart [] List.not_mem_nil⟩
      | cons first others =>
        rw [cut] at mem ih
        rcases List.mem_cons.1 mem with rfl | later
        · rcases ih List.mem_cons_self with ⟨body, plain, rfl⟩ | ⟨-, plain⟩
          · exact .inl ⟨byte :: body, apart body plain, rfl⟩
          exact .inr ⟨List.cons_ne_nil _ _, apart first plain⟩
        · exact ih (List.mem_cons_of_mem _ later)

/-- What follows does not look like the marker of a missing newline. -/
def NoMark (rest : Bytes) : Prop := noNewline.isPrefixOf rest = false

lemma noMark_of_head {byte : UInt8} (apart : byte ≠ 92) : NoMark (byte :: rest) := by
  rw [NoMark, words.mark, List.isPrefixOf_cons_cons, beq_false_of_ne (Ne.symm apart), Bool.false_and]

lemma linePieces_flatten (tag line : Bytes) : (linePieces tag line).flatten
      = tag ++ (line ++ if [10].isSuffixOf line then [] else 10 :: noNewline) := by
  rw [linePieces]
  split
  · simp
  simp [words.markLine]

lemma reads_line {text : Bytes} (isLine : IsLine text) :
    Reads NoMark line (text ++ if [10].isSuffixOf text then [] else 10 :: noNewline) text := by
  rcases isLine with ⟨body, plain, rfl⟩ | ⟨filled, plain⟩
  · have ends : [10].isSuffixOf (body ++ [10]) = true :=
      List.isSuffixOf_iff_suffix.2 (List.suffix_append _ _)
    rw [if_pos ends]
    exact (reads_until plain).then ((reads_peek (fun rest unmarked => unmarked)).look Reads.pure
      fun _ unmarked => unmarked)
  · have bare : ¬ [10].isSuffixOf text = true := by
      intro ends
      obtain ⟨front, rfl⟩ := List.isSuffixOf_iff_suffix.1 ends
      exact plain (List.mem_append_right _ (List.mem_singleton_self _))
    rw [if_neg bare, List.append_cons]
    refine (reads_until plain).then ?_
    have marked : Reads (fun rest => noNewline <+: rest) (peek noNewline) [] true :=
      reads_peek fun rest marked => List.isPrefixOf_iff_prefix.2 marked
    refine marked.look ?_ fun rest _ => ⟨rest, rfl⟩
    rw [← List.append_nil noNewline]
    exact reads_literal.then Reads.pure

def tagged (tag : UInt8) (texts : List Bytes) : Bytes := (texts.flatMap (linePieces [tag])).flatten

lemma tagged_cons (tag : UInt8) (text : Bytes) (texts : List Bytes) : tagged tag (text :: texts)
      = [tag] ++ ((text ++ if [10].isSuffixOf text then [] else 10 :: noNewline) ++ tagged tag texts) := by
  rw [tagged, List.flatMap_cons, List.flatten_append, linePieces_flatten, List.append_assoc]
  rfl

lemma noMark_tagged {tag : UInt8} (apart : tag ≠ 92) (after : NoMark rest) :
    NoMark (tagged tag texts ++ rest) := by
  cases texts with
  | nil => exact after
  | cons text others =>
    rw [tagged_cons, List.append_assoc, List.singleton_append]
    exact noMark_of_head apart

lemma reads_newLines (are : ∀ text ∈ texts, IsLine text) (enough : texts.length ≤ fuel) :
    Reads NoMark (hunkLines fuel 0 texts.length) (tagged 43 texts) ([], texts) := by
  induction texts generalizing fuel with
  | nil => cases fuel <;> exact Reads.pure
  | cons text others ih =>
    rw [List.length_cons] at enough ⊢
    obtain ⟨less, rfl⟩ : ∃ less, fuel = less + 1 := ⟨fuel - 1, by omega⟩
    have shorter : others.length ≤ less := by omega
    have inner := ih (fun other mem => are other (List.mem_cons_of_mem _ mem)) shorter
    have started : ¬(0 = 0 ∧ others.length + 1 = 0) := by omega
    have old : ¬((43 : UInt8) = 45 ∧ 0 < 0) := by omega
    have new : (43 : UInt8) = 43 ∧ 0 < others.length + 1 := ⟨rfl, by omega⟩
    have apart : (43 : UInt8) ≠ 92 := by decide
    rw [hunkLines, if_neg started, tagged_cons]
    refine reads_symbol.then ?_
    refine (reads_line (are text List.mem_cons_self)).bind ?_ fun _ after => noMark_tagged apart after
    rw [if_neg old, if_pos new, ← List.append_nil (tagged 43 others)]
    exact inner.bind Reads.pure fun _ after => after

lemma reads_hunkLines (oldAre : ∀ text ∈ olds, IsLine text) (newAre : ∀ text ∈ news, IsLine text)
    (enough : olds.length + news.length ≤ fuel) :
    Reads NoMark (hunkLines fuel olds.length news.length) (tagged 45 olds ++ tagged 43 news)
      (olds, news) := by
  induction olds generalizing fuel with
  | nil => exact reads_newLines newAre (by simpa using enough)
  | cons text others ih =>
    rw [List.length_cons] at enough ⊢
    obtain ⟨less, rfl⟩ : ∃ less, fuel = less + 1 := ⟨fuel - 1, by omega⟩
    have shorter : others.length + news.length ≤ less := by omega
    have inner := ih (fun other mem => oldAre other (List.mem_cons_of_mem _ mem)) shorter
    have started : ¬(others.length + 1 = 0 ∧ news.length = 0) := by omega
    have old : (45 : UInt8) = 45 ∧ 0 < others.length + 1 := ⟨rfl, by omega⟩
    have oldApart : (45 : UInt8) ≠ 92 := by decide
    have newApart : (43 : UInt8) ≠ 92 := by decide
    rw [hunkLines, if_neg started, tagged_cons, List.append_assoc, List.append_assoc]
    refine reads_symbol.then ?_
    refine (reads_line (oldAre text List.mem_cons_self)).bind ?_ fun rest after => ?_
    · rw [if_pos old, ← List.append_nil (tagged 45 others ++ tagged 43 news)]
      exact inner.bind Reads.pure fun _ after => after
    rw [List.append_assoc]
    exact noMark_tagged oldApart (noMark_tagged newApart after)

/-! ## Numbers -/

lemma toDigits_plain (mem : char ∈ Nat.toDigits 10 count) :
    48 ≤ char.toNat ∧ char.toNat ≤ 57 := by
  have digit := Nat.isDigit_of_mem_toDigits (by decide) (by decide) mem
  rw [Char.isDigit_iff_toNat] at digit
  exact digit

lemma toList_toString (count : Nat) : (toString count).toList = Nat.toDigits 10 count := by
  change count.repr.toList = _
  rw [Nat.repr_eq_ofList_toDigits, String.toList_ofList]

lemma encode_toString (count : Nat) :
    encode (toString count) = (Nat.toDigits 10 count).map fun char => UInt8.ofNat char.toNat := by
  rw [encode, toList_toString]
  refine encodeChars_ascii fun char mem => ?_
  have := toDigits_plain mem
  omega

lemma toNat_ofNat_digit (mem : char ∈ Nat.toDigits 10 count) :
    (UInt8.ofNat char.toNat).toNat = char.toNat := by
  have := toDigits_plain mem
  rw [UInt8.toNat_ofNat']
  omega

lemma number?_encode (count : Nat) : number? (encode (toString count)) = some count := by
  have digits : ((Nat.toDigits 10 count).map fun char => UInt8.ofNat char.toNat).map
      (fun byte => Char.ofNat byte.toNat) = Nat.toDigits 10 count := by
    rw [List.map_map]
    refine (List.map_congr_left fun char mem => ?_).trans (List.map_id _)
    rw [Function.comp_apply, toNat_ofNat_digit mem, Char.ofNat_toNat, id]
  have filled : ((Nat.toDigits 10 count).map fun char => UInt8.ofNat char.toNat).isEmpty = false := by
    simp
  have plain : ((Nat.toDigits 10 count).map fun char => UInt8.ofNat char.toNat).all
      (fun byte => decide (48 ≤ byte.toNat ∧ byte.toNat ≤ 57)) = true := by
    rw [List.all_eq_true]
    intro byte mem
    obtain ⟨char, inside, rfl⟩ := List.mem_map.1 mem
    rw [toNat_ofNat_digit inside]
    exact decide_eq_true (toDigits_plain inside)
  rw [encode_toString, number?, filled, plain, digits, Nat.ofDigitChars_toDigits (by decide) (by decide)]
  rfl

lemma not_mem_encode_toString (outside : mark.toNat < 48) :
    mark ∉ encode (toString count) := by
  rw [encode_toString]
  intro mem
  obtain ⟨char, inside, rfl⟩ := List.mem_map.1 mem
  rw [toNat_ofNat_digit inside] at outside
  have := toDigits_plain inside
  omega

lemma reads_number {follow : Bytes → Prop} (count : Nat) (outside : mark.toNat < 48) :
    Reads follow (number mark) (encode (toString count) ++ [mark]) count := by
  rw [← List.append_nil (_ ++ _)]
  exact (reads_until (not_mem_encode_toString outside)).then (reads_ofOption (number?_encode count))

def start (texts : List Bytes) : Nat := if texts = [] then 0 else 1

def hunkOf (old new : Option (ProjectFile host)) : Option Hunk :=
  let olds := lines (contentOf old)
  let news := lines (contentOf new)
  if contentOf old = contentOf new then none
  else some ⟨start olds, olds.length, start news, news.length, olds, news⟩

lemma encode_hunkHeader (olds news : List Bytes) : encode (hunkHeader olds news)
      = ascii "@@ -" ++ ((encode (toString (start olds)) ++ [44])
        ++ ((encode (toString olds.length) ++ [32]) ++ (ascii "+"
        ++ ((encode (toString (start news)) ++ [44])
        ++ ((encode (toString news.length) ++ [32]) ++ ascii "@@\n"))))) := by
  have word : ∀ texts : List Bytes, (if texts = [] then "0" else "1") = toString (start texts) := by
    intro texts
    rw [start]
    split <;> rfl
  obtain ⟨opening, comma, plus, closing⟩ := words.range
  rw [hunkHeader, word, word]
  simp only [encode_append, opening, comma, plus, closing, List.append_assoc]

lemma reads_hunk (oldAre : ∀ text ∈ olds, IsLine text) (newAre : ∀ text ∈ news, IsLine text) :
    Reads NoMark hunk (encode (hunkHeader olds news) ++ (tagged 45 olds ++ tagged 43 news))
      ⟨start olds, olds.length, start news, news.length, olds, news⟩ := by
  have comma : (44 : UInt8).toNat < 48 := by decide
  have space : (32 : UInt8).toNat < 48 := by decide
  rw [encode_hunkHeader]
  simp only [List.append_assoc _ _ (tagged 45 olds ++ tagged 43 news)]
  refine reads_literal.then ?_
  refine (reads_number _ comma).then ?_
  refine (reads_number _ space).then ?_
  refine reads_literal.then ?_
  refine (reads_number _ comma).then ?_
  refine (reads_number _ space).then ?_
  refine reads_literal.then ?_
  rw [← List.append_nil (tagged 45 olds ++ tagged 43 news)]
  exact (reads_hunkLines oldAre newAre le_rfl).bind Reads.pure fun _ after => after

def kindOf (old new : Option (ProjectFile host)) : Kind :=
  if old = none then .created (isExecutable new)
  else if new = none then .deleted (isExecutable old)
  else if modeOf old ≠ modeOf new then .modified (some (isExecutable old, isExecutable new))
  else .modified none

def Ends (rest : Bytes) : Prop := rest = [] ∨ ascii "diff --git " <+: rest

lemma Ends.not_isPrefixOf (ends : Ends rest) (filled : other ≠ [])
    (apart : Apart (ascii "diff --git ") other) : other.isPrefixOf rest = false := by
  rcases ends with rfl | begins
  · cases other with
    | nil => exact absurd rfl filled
    | cons byte more => rfl
  · exact Reader.not_isPrefixOf apart begins

lemma Ends.noMark (ends : Ends rest) : NoMark rest := by
  obtain ⟨filled, apart⟩ := words.next _ List.mem_cons_self
  exact ends.not_isPrefixOf filled apart

def AfterKind (rest : Bytes) : Prop := Ends rest ∨ ascii "--- " <+: rest

lemma AfterKind.not_isPrefixOf (after : AfterKind rest) (filled : other ≠ [])
    (file : Apart (ascii "diff --git ") other) (hunk : Apart (ascii "--- ") other) :
    other.isPrefixOf rest = false := by
  rcases after with ends | begins
  · exact ends.not_isPrefixOf filled file
  exact Reader.not_isPrefixOf hunk begins

lemma reads_kind (old new : Option (ProjectFile host)) :
    Reads AfterKind kind (modePieces old new).flatten (kindOf old new) := by
  obtain ⟨created, deleted, oldMode, newMode⟩ := words.mode
  have text : ∀ file : Option (ProjectFile host),
      Reads (fun _ => True) mode (encode (modeOf file) ++ encode "\n") (isExecutable file) := by
    intro file
    rw [← encode_append]
    exact reads_mode file
  rw [modePieces, kindOf]
  split
  · rw [List.flatten_singleton, encode_append, encode_append, created, List.append_assoc]
    refine reads_peek_same.look ?_ fun rest _ => prefix_of_append _ _ rest
    rw [← List.append_nil (encode _ ++ encode _)]
    exact reads_literal.then ((text new).then Reads.pure)
  · split
    · rw [List.flatten_singleton, encode_append, encode_append, deleted, List.append_assoc]
      refine (reads_peek_other words.deleted).look ?_ fun rest _ => prefix_of_append _ _ rest
      refine reads_peek_same.look ?_ fun rest _ => prefix_of_append _ _ rest
      rw [← List.append_nil (encode _ ++ encode _)]
      exact reads_literal.then ((text old).then Reads.pure)
    · split
      · have pieces : encode ("old mode " ++ modeOf old ++ "\nnew mode " ++ modeOf new ++ "\n")
            = ascii "old mode " ++ ((encode (modeOf old) ++ encode "\n")
              ++ (ascii "new mode " ++ (encode (modeOf new) ++ encode "\n"))) := by
          simp only [encode_append, oldMode, newMode, List.append_assoc]
        rw [List.flatten_singleton, pieces]
        refine (reads_peek_other (words.old _ (by simp))).look ?_ fun rest _ => prefix_of_append _ _ rest
        refine (reads_peek_other (words.old _ (by simp))).look ?_ fun rest _ => prefix_of_append _ _ rest
        refine reads_peek_same.look ?_ fun rest _ => prefix_of_append _ _ rest
        refine reads_literal.then ?_
        refine (text old).then (reads_literal.then ?_)
        rw [← List.append_nil (encode _ ++ encode _)]
        exact (text new).then Reads.pure
      · have none_ : ∀ word ∈ [ascii "new file mode ", ascii "deleted file mode ", ascii "old mode "],
            Reads AfterKind (peek word) [] false := by
          intro word mem
          have file := words.next word (List.mem_cons_of_mem _ (List.mem_cons_of_mem _ mem))
          exact reads_peek fun rest after => after.not_isPrefixOf file.1 file.2 (words.kinds word mem)
        have keep : ∀ rest, AfterKind rest → AfterKind ([] ++ rest) := fun _ after => after
        refine (none_ _ (by simp)).look ?_ keep
        refine (none_ _ (by simp)).look ?_ keep
        refine (none_ _ (by simp)).look ?_ keep
        exact Reads.pure

lemma contentPieces_flatten (path : String) (differ : contentOf old ≠ contentOf new) :
    (contentPieces path old new).flatten
      = ascii "--- " ++ (encode (if old.isSome then quotedPath "a/" path else "/dev/null")
        ++ (ascii "\n+++ " ++ (encode (if new.isSome then quotedPath "b/" path else "/dev/null")
        ++ (ascii "\n" ++ (encode (hunkHeader (lines (contentOf old)) (lines (contentOf new)))
        ++ (tagged 45 (lines (contentOf old)) ++ tagged 43 (lines (contentOf new)))))))) := by
  obtain ⟨opening, middle, -⟩ := words.sides
  obtain ⟨-, -, newline⟩ := words.file
  obtain ⟨minus, plus⟩ := words.tags
  rw [contentPieces, if_neg differ, minus, plus]
  simp only [encode_append, opening, middle, newline, tagged, List.flatten_append,
    List.flatten_cons, List.flatten_nil, List.append_nil, List.append_assoc]

lemma reads_hunkSide (plain : encode side = ascii side) (present : Bool) :
    Reads follow (hunkSide side (!present) (encode path))
      (encode (if present then quotedPath side path else "/dev/null")) () := by
  obtain ⟨-, -, null⟩ := words.sides
  cases present
  · simp only [hunkSide, Bool.not_false, if_true, Bool.false_eq_true, if_false, null]
    exact reads_literal
  · simp only [hunkSide, Bool.not_true, if_true, Bool.false_eq_true, if_false]
    rw [← List.append_nil (encode (quotedPath side path))]
    refine (reads_sidePath plain).then ?_
    rw [if_pos rfl]
    exact Reads.pure

lemma kindOf_creates : (kindOf old new).creates = !old.isSome := by
  cases old with
  | none => rfl
  | some file =>
    rw [kindOf, if_neg (Option.some_ne_none file)]
    split
    · rfl
    split <;> rfl

lemma kindOf_deletes (differ : old ≠ new) : (kindOf old new).deletes = !new.isSome := by
  rw [kindOf]
  split
  · next absent =>
    subst absent
    cases new with
    | none => exact absurd rfl differ
    | some file => rfl
  · split
    · next gone =>
      subst gone
      rfl
    · next present =>
      obtain ⟨file, rfl⟩ := Option.ne_none_iff_exists'.1 present
      split <;> rfl

lemma reads_contents (path : String) (differ : old ≠ new) :
    Reads Ends (contents (encode path) (kindOf old new)) (contentPieces path old new).flatten
      (hunkOf old new) := by
  obtain ⟨aSide, bSide⟩ := words.paths
  by_cases eq : contentOf old = contentOf new
  · obtain ⟨filled, apart⟩ := words.next (ascii "--- ") (List.mem_cons_of_mem _ List.mem_cons_self)
    have other : Reads Ends (peek (ascii "--- ")) [] false :=
      reads_peek fun rest ends => ends.not_isPrefixOf filled apart
    rw [contentPieces, if_pos eq, hunkOf, if_pos eq]
    exact other.look Reads.pure fun _ ends => ends
  · have are : ∀ content : Bytes, ∀ text ∈ lines content, IsLine text := by
      intro content text mem
      rw [← splitLines_eq_lines] at mem
      exact isLine_of_mem mem
    have oldSide : Reads (fun _ => True) (hunkSide "a/" (!old.isSome) (encode path))
        (encode (if old.isSome then quotedPath "a/" path else "/dev/null")) () :=
      reads_hunkSide aSide old.isSome
    have newSide : Reads (fun _ => True) (hunkSide "b/" (!new.isSome) (encode path))
        (encode (if new.isSome then quotedPath "b/" path else "/dev/null")) () :=
      reads_hunkSide bSide new.isSome
    rw [contentPieces_flatten path eq, hunkOf, if_neg eq]
    refine reads_peek_same.look ?_ fun rest _ => prefix_of_append _ _ rest
    refine reads_literal.then ?_
    rw [kindOf_creates, kindOf_deletes differ]
    refine oldSide.then (reads_literal.then (newSide.then (reads_literal.then ?_)))
    rw [← List.append_nil (encode _ ++ _)]
    exact (reads_hunk (are _) (are _)).bind Reads.pure fun rest ends => ends.noMark

def patchOf (path : String) (old new : Option (ProjectFile host)) : FilePatch :=
  ⟨encode path, kindOf old new, hunkOf old new⟩

lemma filePieces_flatten (path : String) (differ : old ≠ new) : (filePieces path old new).flatten
      = ascii "diff --git " ++ (encode (quotedPath "a/" path) ++ (ascii " "
        ++ (encode (quotedPath "b/" path) ++ (ascii "\n"
        ++ ((modePieces old new).flatten ++ (contentPieces path old new).flatten))))) := by
  obtain ⟨opening, space, newline⟩ := words.file
  rw [filePieces, if_neg differ]
  simp only [encode_append, opening, space, newline, List.flatten_append, List.flatten_cons,
    List.flatten_nil, List.append_nil, List.append_assoc]

lemma afterKind_contentPieces (path : String) (old new : Option (ProjectFile host))
    (ends : Ends rest) : AfterKind ((contentPieces path old new).flatten ++ rest) := by
  by_cases eq : contentOf old = contentOf new
  · rw [contentPieces, if_pos eq]
    exact .inl ends
  rw [contentPieces_flatten path eq]
  exact .inr (prefix_of_append _ _ rest)

lemma reads_filePatch (path : String) (differ : old ≠ new) :
    Reads Ends filePatch (filePieces path old new).flatten (patchOf path old new) := by
  obtain ⟨aSide, bSide⟩ := words.paths
  rw [filePieces_flatten path differ]
  refine reads_literal.then ((reads_sidePath aSide).then ?_)
  refine reads_literal.then ((reads_sidePath bSide).then ?_)
  refine reads_literal.then ?_
  rw [if_pos rfl]
  refine (reads_kind old new).bind ?_ fun _ ends => afterKind_contentPieces path old new ends
  rw [← List.append_nil (contentPieces path old new).flatten]
  exact (reads_contents path differ).bind Reads.pure fun _ ends => ends

end Obsion.Sandbox
