import Obsion.Base.Python
import Obsion.Knowledge.Jsonml.Layout
import Obsion.Knowledge.Jsonml.Rendering
import Obsion.Lib.Delimited

/-! # Cutting a document into evidence chunks

`chunk_document`.  The regular expressions of the source are
read as scans: `\n\s*\n` is a line end, blank text and the last line end of it, and a
heading is one to six number signs and a blank at the start of a line. -/

namespace Obsion.Jsonml

open Obsion.Lib

def maxChars : Nat := 1400
def overlapChars : Nat := 160

structure ChunkSizes where
  maxChars : Nat := Jsonml.maxChars
  overlapChars : Nat := Jsonml.overlapChars

/-- A heading path and the text below it. -/
abbrev Chunk := List Text × Text

def newline : CodePoint := point '\n'

/-- `text.replace("\r\n", "\n")` -/
def unixLines : Text → Text
  | [] => []
  | char :: rest =>
    if char = point '\r' ∧ rest.head? = some newline then unixLines rest
    else char :: unixLines rest

def cleanedText (text : Text) : Text := strip (unixLines (text.filter (· != 0)))

/-- `#{1,6}\s` at the front. -/
def headingAhead (text : Text) : Bool :=
  let marks := (text.takeWhile (· == point '#')).length
  1 ≤ marks && marks ≤ 6 && ((text.drop marks).head?.map CodePoint.isSpace).getD false

/-- The length of `\n\s*\n` at the front. -/
def blankLines? (text : Text) : Option Nat :=
  match text with
  | [] => none
  | first :: rest =>
    let run := rest.takeWhile CodePoint.isSpace
    if first = newline ∧ newline ∈ run then some (1 + (run.rdropWhile (· != newline)).length)
    else none

/-- The blocks of `re.split`, from a place in the text: the rest of a match to skip,
whether a line starts here, and the block begun so far.  A heading splits in front of
itself. -/
def splitBlocks (skip : Nat) (lineStart : Bool) (current : Text) : Text → List Text
  | [] => [current]
  | char :: rest =>
    match skip with
    | skip + 1 => splitBlocks skip (char == newline) current rest
    | 0 =>
      match blankLines? (char :: rest) with
      | some size => current :: splitBlocks (size - 1) true [] rest
      | none =>
        if lineStart && headingAhead (char :: rest) then
          current :: splitBlocks 0 false [char] rest
        else splitBlocks 0 (char == newline) (current ++ [char]) rest

/-- The line boundaries of `str.splitlines`. -/
def CodePoint.endsLine (char : CodePoint) : Bool :=
  let code := char.val
  (10 ≤ code && code ≤ 13) || (28 ≤ code && code ≤ 30) || code == 0x85 || code == 0x2028 ||
    code == 0x2029

/-- `re.match(r"^(#{1,6})\s+(.+)$", line)`: the depth and the title of a heading. -/
def heading? (line : Text) : Option (Nat × Text) :=
  let marks := (line.takeWhile (· == point '#')).length
  let after := line.drop marks
  let blanks := after.takeWhile CodePoint.isSpace
  let title := after.drop blanks.length
  if marks < 1 ∨ 6 < marks ∨ blanks = [] then none
  else if title ≠ [] then some (marks, title)
  else if 2 ≤ blanks.length then some (marks, blanks.drop (blanks.length - 1))
  else none

section
variable (sizes : ChunkSizes)

structure Chunking where
  headingPath : List Text
  chunks : List Chunk
  buffer : Text
  bufferHeading : List Text

def Chunking.start : Chunking := ⟨[], [], [], []⟩

/-- `content[-overlap_chars:]` -/
def overlap (content : Text) : Text := content.drop (content.length - sizes.overlapChars)

def Chunking.flush (state : Chunking) : Chunking :=
  let content := strip state.buffer
  { state with
    chunks := if content = [] then state.chunks else state.chunks ++ [(state.bufferHeading, content)]
    buffer := overlap sizes content }

/-- The pieces of a block that is longer than a chunk, one for each unit of fuel. -/
def Chunking.pieces (fuel : Nat) (block : Text) (state : Chunking) : Chunking :=
  match fuel with
  | 0 => state
  | fuel + 1 =>
    if block = [] then state
    else
      let piece := block.take sizes.maxChars
      let state :=
        if state.buffer ≠ [] then
          { state with buffer := state.buffer ++ text "\n\n" ++ piece }.flush sizes
        else { state with chunks := state.chunks ++ [(state.headingPath, piece)] }
      Chunking.pieces fuel (block.drop (sizes.maxChars - sizes.overlapChars)) state

def Chunking.add (state : Chunking) (part : Text) : Chunking :=
  let block := strip part
  if block = [] then state
  else
    let state :=
      match heading? (block.takeWhile fun char => !char.endsLine) with
      | some (depth, title) =>
        { state with headingPath := state.headingPath.take (depth - 1) ++ [strip title] }
      | none => state
    let state :=
      if state.buffer ≠ [] ∧ sizes.maxChars < state.buffer.length + block.length + 2 then
        { state.flush sizes with bufferHeading := state.headingPath }
      else if state.buffer = [] then { state with bufferHeading := state.headingPath }
      else state
    if sizes.maxChars < block.length then state.pieces sizes block.length block
    else
      { state with
        buffer := if state.buffer = [] then block else state.buffer ++ text "\n\n" ++ block }

def Chunking.finish (state : Chunking) : List Chunk :=
  if strip state.buffer = [] then state.chunks
  else state.chunks ++ [(state.bufferHeading, strip state.buffer)]

def chunkPlain (text : Text) : Except ObsionError (List Chunk) :=
  if cleanedText text = [] then
    .error (validationError "document_empty" "The document contains no extractable text")
  else .ok (((splitBlocks 0 true [] (cleanedText text)).foldl (Chunking.add sizes) .start).finish)

end

def layoutMarkers : Delimiters Markup CodePoint where
  kinds := [.table, .columns]
  opening := Markup.opening
  closing := Markup.closing

/-- The chunks of one block: a layout block is one chunk, a blank block none. -/
def chunkBlock (layout : Bool) (block : Text) : Except ObsionError (List Chunk) :=
  if strip block = [] then .ok []
  else if layout then
    if min maxChars maxLayoutChars < block.length then
      .error (validationError "document_parse_failed" "The document layout exceeds the evidence budget")
    else .ok [([], block)]
  else chunkPlain {} block

def chunkBlocks : List (Bool × Text) → Except ObsionError (List Chunk)
  | [] => .ok []
  | (layout, block) :: rest =>
    match chunkBlock layout block with
    | .error error => .error error
    | .ok chunks =>
      match chunkBlocks rest with
      | .error error => .error error
      | .ok later => .ok (chunks ++ later)

def chunkDocument (text : Text) (preserveDingtalkLayout : Bool) : Except ObsionError (List Chunk) :=
  if preserveDingtalkLayout then chunkBlocks (layoutMarkers.blocks text) else chunkPlain {} text

end Obsion.Jsonml
