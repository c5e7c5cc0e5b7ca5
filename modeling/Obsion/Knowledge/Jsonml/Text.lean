import Mathlib.Data.List.DropRight
import Mathlib.Tactic

/-! # Text of a JSONML document

`json.loads` keeps a lone surrogate escape as a code point, so a text is a list of
code points and not a Lean string.  `strip` removes what `str.isspace` accepts;
`encodedLength` is `len(text.encode("utf-8"))` on the texts that encode. -/

namespace Obsion.Jsonml

abbrev CodePoint := Fin 0x110000

instance codeSpace : NeZero 0x110000 := ⟨by decide⟩

abbrev Text := List CodePoint

def point (char : Char) : CodePoint := Fin.ofNat 0x110000 char.toNat

def text (literal : String) : Text := literal.toList.map point

def CodePoint.isSpace (char : CodePoint) : Bool :=
  let code := char.val
  (9 ≤ code && code ≤ 13) || (28 ≤ code && code ≤ 32) || code == 0x85 || code == 0xA0 ||
    code == 0x1680 || (0x2000 ≤ code && code ≤ 0x200A) || code == 0x2028 || code == 0x2029 ||
    code == 0x202F || code == 0x205F || code == 0x3000

def CodePoint.isSurrogate (char : CodePoint) : Bool := 0xD800 ≤ char.val && char.val ≤ 0xDFFF

def CodePoint.utf8Size (char : CodePoint) : Nat :=
  if char.val < 0x80 then 1 else if char.val < 0x800 then 2 else if char.val < 0x10000 then 3 else 4

/-- `text.encode("utf-8")` succeeds. -/
def encodable (text : Text) : Bool := text.all fun char => !char.isSurrogate

def encodedLength (text : Text) : Nat := (text.map CodePoint.utf8Size).sum

def strip (text : Text) : Text :=
  (text.dropWhile CodePoint.isSpace).rdropWhile CodePoint.isSpace

def escapeChar (char : CodePoint) : Text :=
  if char = point '&' then text "&amp;"
  else if char = point '<' then text "&lt;"
  else if char = point '>' then text "&gt;"
  else [char]

def escape (text : Text) : Text := text.flatMap escapeChar

/-- `"\n".join("> " + line for line in text.split("\n"))` -/
def quoteLines (lines : Text) : Text :=
  [point '\n'].intercalate ((lines.splitOn (point '\n')).map (text "> " ++ ·))

def squeeze (text : Text) : Text := text.filter fun char => !char.isSpace

@[simp] lemma squeeze_nil : squeeze [] = [] := rfl

@[simp] lemma squeeze_append (left right : Text) :
    squeeze (left ++ right) = squeeze left ++ squeeze right := List.filter_append left right

lemma squeeze_eq_nil_iff {text : Text} :
    squeeze text = [] ↔ ∀ char ∈ text, char.isSpace = true := by
  simp only [squeeze, List.filter_eq_nil_iff, Bool.not_eq_true, Bool.not_eq_false']

lemma squeeze_dropWhile (text : Text) :
    squeeze (text.dropWhile CodePoint.isSpace) = squeeze text := by
  induction text with
  | nil => rfl
  | cons char rest ih =>
    rw [List.dropWhile_cons]
    split
    · next blank => rw [ih, squeeze, squeeze, List.filter_cons_of_neg (by simp [blank])]
    rfl

lemma squeeze_reverse (text : Text) : squeeze text.reverse = (squeeze text).reverse :=
  List.filter_reverse

@[simp] lemma squeeze_strip (text : Text) : squeeze (strip text) = squeeze text := by
  rw [strip, List.rdropWhile, squeeze_reverse, squeeze_dropWhile, squeeze_reverse,
    List.reverse_reverse, squeeze_dropWhile]

/-- What `strip` leaves of a text is empty where the text is blank. -/
lemma strip_eq_nil_iff {text : Text} : strip text = [] ↔ squeeze text = [] := by
  constructor
  · intro empty
    rw [← squeeze_strip, empty, squeeze_nil]
  intro blank
  rw [strip, List.rdropWhile_eq_nil_iff]
  intro char mem
  exact squeeze_eq_nil_iff.1 blank char (List.dropWhile_sublist _ |>.subset mem)

lemma squeeze_escapeChar (char : CodePoint) :
    squeeze (escapeChar char) = (squeeze [char]).flatMap escapeChar := by
  by_cases amp : char = point '&'
  · subst amp
    decide
  by_cases lt : char = point '<'
  · subst lt
    decide
  by_cases gt : char = point '>'
  · subst gt
    decide
  have plain : escapeChar char = [char] := by
    rw [escapeChar, if_neg amp, if_neg lt, if_neg gt]
  rw [plain, squeeze, List.filter_cons, List.filter_nil]
  split
  · rw [List.flatMap_cons, List.flatMap_nil, List.append_nil, plain]
  rfl

lemma escape_append (left right : Text) : escape (left ++ right) = escape left ++ escape right :=
  List.flatMap_append

lemma squeeze_escape (text : Text) : squeeze (escape text) = escape (squeeze text) := by
  induction text with
  | nil => rfl
  | cons char rest ih =>
    have head : escape (char :: rest) = escapeChar char ++ escape rest := List.flatMap_cons
    have kept : squeeze (char :: rest) = squeeze [char] ++ squeeze rest := squeeze_append [char] rest
    rw [head, squeeze_append, ih, squeeze_escapeChar, kept, escape_append]
    rfl

lemma escape_sublist {part whole : Text} (kept : part.Sublist whole) :
    (escape part).Sublist (escape whole) := by
  induction kept with
  | slnil => exact List.Sublist.slnil
  | cons char _ ih => exact ih.trans (List.sublist_append_right (escapeChar char) _)
  | cons_cons char _ ih => exact ih.append_left (escapeChar char)

lemma squeeze_sublist {part whole : Text} (kept : part.Sublist whole) :
    (squeeze part).Sublist (squeeze whole) := kept.filter _

lemma flatten_sublist_intercalate (separator : Text) (parts : List Text) :
    parts.flatten.Sublist (separator.intercalate parts) := by
  induction parts with
  | nil => exact List.Sublist.refl _
  | cons part rest ih =>
    cases rest with
    | nil => simp
    | cons next rest =>
      rw [List.intercalate_cons_cons, List.flatten_cons, List.append_assoc]
      exact (List.Sublist.refl part).append (ih.trans (List.sublist_append_right separator _))

lemma intercalate_sublist (separator : Text) (mark : Text → Text)
    (grows : ∀ line : Text, line.Sublist (mark line)) (lines : List Text) :
    (separator.intercalate lines).Sublist (separator.intercalate (lines.map mark)) := by
  induction lines with
  | nil => exact List.Sublist.refl _
  | cons line rest ih =>
    cases rest with
    | nil => simpa using grows line
    | cons next rest =>
      rw [List.map_cons, List.map_cons, List.intercalate_cons_cons, List.intercalate_cons_cons]
      exact ((grows line).append (List.Sublist.refl separator)).append ih

lemma quoteLines_sublist (lines : Text) : lines.Sublist (quoteLines lines) := by
  have whole := intercalate_sublist [point '\n'] (text "> " ++ ·)
    (fun line => List.sublist_append_right _ line) (lines.splitOn (point '\n'))
  rwa [List.intercalate_splitOn] at whole

end Obsion.Jsonml
