import Obsion.Base.Python

/-! # Case folding and regular expressions

`str.casefold` as far as its result is ASCII, and the part of Python's `re` that the
source uses: characters and sets, repeated sets, word boundaries, sequences and
alternatives.  The lengths of the matches at a position stand in the order in which the
backtracking search of `re` tries them. -/

namespace Obsion.Text

def casefoldChar (char : Char) : List Char :=
  match char.toNat with
  | 0xDF => ['s', 's']
  | 0x130 => ['i', Char.ofNat 0x307]
  | 0x149 => [Char.ofNat 0x2BC, 'n']
  | 0x17F => ['s']
  | 0x1F0 => ['j', Char.ofNat 0x30C]
  | 0x1E96 => ['h', Char.ofNat 0x331]
  | 0x1E97 => ['t', Char.ofNat 0x308]
  | 0x1E98 => ['w', Char.ofNat 0x30A]
  | 0x1E99 => ['y', Char.ofNat 0x30A]
  | 0x1E9A => ['a', Char.ofNat 0x2BE]
  | 0x1E9E => ['s', 's']
  | 0x212A => ['k']
  | 0xFB00 => ['f', 'f']
  | 0xFB01 => ['f', 'i']
  | 0xFB02 => ['f', 'l']
  | 0xFB03 => ['f', 'f', 'i']
  | 0xFB04 => ['f', 'f', 'l']
  | 0xFB05 => ['s', 't']
  | 0xFB06 => ['s', 't']
  | _ => [char.toLower]

def casefold (text : String) : String := String.ofList (text.toList.flatMap casefoldChar)

/-- `text.replace(old, new)` for single characters -/
def replaceChar (old new : Char) (text : String) : String :=
  String.ofList (text.toList.map fun char => if char = old then new else char)

inductive Pattern
  | empty
  | one (allowed : Char → Bool)
  /-- `[...]*` -/
  | many (allowed : Char → Bool)
  /-- `[...]*?` -/
  | fewest (allowed : Char → Bool)
  /-- `\b` -/
  | boundary
  | both (first second : Pattern)
  | either (first second : Pattern)

def Pattern.some_ (allowed : Char → Bool) : Pattern := .both (.one allowed) (.many allowed)

/-- The text itself, each character compared by `same`. -/
def Pattern.literal (same : Char → Char → Bool) (text : String) : Pattern :=
  text.toList.foldr (fun char rest => .both (.one (same char)) rest) .empty

def Pattern.anyOf (patterns : List Pattern) : Pattern :=
  match patterns with
  | [] => .one fun _ => false
  | first :: rest => .either first (anyOf rest)

def before (previous : Option Char) (text : List Char) : Nat → Option Char
  | 0 => previous
  | length + 1 => text[length]?

/-- The lengths of the matches at a position, in the order of preference.  `word` is the
class `\w`. -/
def Pattern.lengths (word : Char → Bool) : Pattern → Option Char → List Char → List Nat
  | .empty, _, _ => [0]
  | .one allowed, _, text => if text.head?.any allowed then [1] else []
  | .many allowed, _, text => (List.range ((text.takeWhile allowed).length + 1)).reverse
  | .fewest allowed, _, text => List.range ((text.takeWhile allowed).length + 1)
  | .boundary, previous, text => if previous.any word = text.head?.any word then [] else [0]
  | .both first second, previous, text =>
    (first.lengths word previous text).flatMap fun length =>
      (second.lengths word (before previous text length) (text.drop length)).map (length + ·)
  | .either first second, previous, text =>
    first.lengths word previous text ++ second.lengths word previous text

def cut (word : Char → Bool) (kept dropped : Pattern) (previous : Option Char)
    (text : List Char) : Option (Nat × Nat) :=
  ((kept.lengths word previous text).flatMap fun held =>
    (dropped.lengths word (before previous text held) (text.drop held)).map fun more =>
      (held, held + more)).head?

/-- `re.sub` of a pattern that matches no empty text: what the first part has matched is
kept, the rest of the match is replaced. -/
def sub (word : Char → Bool) (kept dropped : Pattern) (replacement : List Char) :
    Nat → Option Char → List Char → List Char
  | 0, _, text => text
  | _, _, [] => []
  | fuel + 1, previous, char :: rest =>
    match cut word kept dropped previous (char :: rest) with
    | some (held, length) =>
      (char :: rest).take held ++ replacement ++
        sub word kept dropped replacement fuel (before previous (char :: rest) length)
          ((char :: rest).drop length)
    | none => char :: sub word kept dropped replacement fuel (some char) rest

/-- `re.findall` of a pattern without groups that matches no empty text -/
def findAll (word : Char → Bool) (pattern : Pattern) : Nat → Option Char → List Char → List (List Char)
  | 0, _, _ => []
  | _, _, [] => []
  | fuel + 1, previous, char :: rest =>
    match (pattern.lengths word previous (char :: rest)).head? with
    | some length =>
      (char :: rest).take length :: findAll word pattern fuel (before previous (char :: rest) length)
          ((char :: rest).drop length)
    | none => findAll word pattern fuel (some char) rest

end Obsion.Text
