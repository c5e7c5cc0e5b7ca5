import Obsion.Base.Python

/-! # Shell patterns

`fnmatch.fnmatch` on a system with case-sensitive names: `*`, `?` and sets in brackets, as
`fnmatch.translate` writes them into a regular expression. -/

namespace Obsion.Fnmatch

inductive Token
  | star
  | any
  | char (value : Char)
  /-- Ranges of characters, or their complement. -/
  | set (negated : Bool) (ranges : List (Char × Char))
  deriving DecidableEq

/-! ## Sets -/

def findFrom (mark : Char) (text : List Char) (start : Nat) : Option Nat :=
  ((text.drop start).findIdx? (· == mark)).map (start + ·)

def chunks : Nat → List Char → Nat → List (List Char)
  | 0, text, _ => [text]
  | fuel + 1, text, start =>
    match findFrom '-' text start with
    | none => [text]
    | some index => text.take index :: chunks fuel (text.drop (index + 1)) 2

def closeChunks : List (List Char) → List (List Char)
  | [] => []
  | [last] => [last]
  | [before, []] => [before ++ ['-']]
  | first :: rest => first :: closeChunks rest

def dropEmpty (all : List (List Char)) : List (List Char) :=
  all.foldr (fun chunk rest =>
    match rest, chunk.getLast? with
    | next :: more, some last =>
      match next with
      | first :: others => if first < last then (chunk.dropLast ++ others) :: more else chunk :: rest
      | [] => chunk :: rest
    | _, _ => chunk :: rest) []

def rangesOf : List (List Char) → List (Char × Char)
  | [] => []
  | [last] => last.map fun char => (char, char)
  | chunk :: next :: rest =>
    match chunk.getLast?, next.head? with
    | some low, some high =>
      (chunk.map fun char => (char, char)) ++ (low, high) :: rangesOf (next :: rest)
    | _, _ => rangesOf (next :: rest)

def setOf (text : List Char) : Token :=
  let start := if text.head? = some '!' then 2 else 1
  let found := if text.contains '-' then dropEmpty (closeChunks (chunks text.length text start)) else [text]
  match found with
  | ('!' :: first) :: rest =>
    if first.isEmpty && rest.isEmpty then .any else .set true (rangesOf (first :: rest))
  | _ => .set false (rangesOf found)

def setEnd (text : List Char) : Option Nat :=
  let start := if text.head? = some '!' then 1 else 0
  let start := if text[start]? = some ']' then start + 1 else start
  findFrom ']' text start

def tokens : Nat → List Char → List Token
  | 0, _ => []
  | _, [] => []
  | fuel + 1, '*' :: rest => .star :: tokens fuel rest
  | fuel + 1, '?' :: rest => .any :: tokens fuel rest
  | fuel + 1, '[' :: rest =>
    match setEnd rest with
    | none => .char '[' :: tokens fuel rest
    | some index => setOf (rest.take index) :: tokens fuel (rest.drop (index + 1))
  | fuel + 1, char :: rest => .char char :: tokens fuel rest

def Token.accepts (token : Token) (char : Char) : Bool :=
  match token with
  | .star => true
  | .any => true
  | .char value => value == char
  | .set negated ranges => (ranges.any fun range => range.1 ≤ char && char ≤ range.2) != negated

def fits : List Token → List Char → Bool
  | [], text => text.isEmpty
  | .star :: rest, text => text.tails.any (fits rest)
  | _ :: _, [] => false
  | token :: rest, char :: text => token.accepts char && fits rest text

def fnmatch (name pattern : String) : Bool :=
  fits (tokens pattern.toList.length pattern.toList) name.toList

example : fnmatch "knowledge.read" "knowledge.*" = true := by decide

end Obsion.Fnmatch
