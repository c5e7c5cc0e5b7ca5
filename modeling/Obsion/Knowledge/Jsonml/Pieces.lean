import Mathlib.Data.List.ReduceOption
import Obsion.Knowledge.Jsonml.Chunks
import Obsion.Knowledge.Jsonml.Rendered

/-! # Which of the text is generated markup

The renderer run over pieces writes the same text and remembers the layout blocks it
generated.  A block inside another block, a block quote or a code element is written as
plain text there.  `outline` is the document between its top-level blocks. -/

namespace Obsion.Jsonml

open Obsion.Lib
open Rendering (plain append block toText join)

inductive Piece
  | plain (text : Text)
  | block (markup : Markup) (inner : Text)

def Piece.text : Piece → Text
  | .plain text => text
  | .block markup inner => layoutMarkers.wrap markup inner

abbrev Pieces := List Piece

def Pieces.text (pieces : Pieces) : Text := pieces.flatMap Piece.text

def Pieces.trimLeft : Pieces → Pieces
  | [] => []
  | .plain text :: rest =>
    if text.all CodePoint.isSpace then Pieces.trimLeft rest
    else .plain (text.dropWhile CodePoint.isSpace) :: rest
  | .block markup inner :: rest => .block markup inner :: rest

def Pieces.trimRight : Pieces → Pieces
  | [] => []
  | .plain text :: rest =>
    if (Pieces.text rest).all CodePoint.isSpace then [.plain (text.rdropWhile CodePoint.isSpace)]
    else .plain text :: Pieces.trimRight rest
  | .block markup inner :: rest => .block markup inner :: Pieces.trimRight rest

lemma Pieces.text_cons (piece : Piece) (rest : Pieces) :
    Pieces.text (piece :: rest) = piece.text ++ Pieces.text rest := List.flatMap_cons

lemma dropWhile_append_of_all {text : Text} (blank : text.all CodePoint.isSpace = true)
    (rest : Text) : (text ++ rest).dropWhile CodePoint.isSpace = rest.dropWhile CodePoint.isSpace := by
  rw [List.dropWhile_append, List.dropWhile_eq_nil_iff.2 (List.all_eq_true.1 blank)]
  rfl

lemma dropWhile_append_of_not_all {text : Text} (shown : ¬ text.all CodePoint.isSpace = true)
    (rest : Text) :
    (text ++ rest).dropWhile CodePoint.isSpace = text.dropWhile CodePoint.isSpace ++ rest := by
  rw [List.dropWhile_append, if_neg]
  rw [List.isEmpty_iff, List.dropWhile_eq_nil_iff]
  exact fun blank => shown (List.all_eq_true.2 blank)

lemma rdropWhile_append_of_all {rest : Text} (blank : rest.all CodePoint.isSpace = true)
    (text : Text) : (text ++ rest).rdropWhile CodePoint.isSpace = text.rdropWhile CodePoint.isSpace := by
  rw [List.rdropWhile, List.reverse_append, dropWhile_append_of_all (by rwa [List.all_reverse])]
  rfl

lemma rdropWhile_append_of_not_all {rest : Text} (shown : ¬ rest.all CodePoint.isSpace = true)
    (text : Text) :
    (text ++ rest).rdropWhile CodePoint.isSpace = text ++ rest.rdropWhile CodePoint.isSpace := by
  rw [List.rdropWhile, List.reverse_append,
    dropWhile_append_of_not_all (by rwa [List.all_reverse]), List.reverse_append,
    List.reverse_reverse]
  rfl

lemma wrap_starts (markup : Markup) (inner : Text) :
    ∃ rest, layoutMarkers.wrap markup inner = point '<' :: rest := by
  cases markup <;> exact ⟨_, rfl⟩

lemma wrap_ends (markup : Markup) (inner : Text) :
    ∃ rest, layoutMarkers.wrap markup inner = rest ++ [point '>'] := by
  cases markup with
  | table => exact ⟨_ ++ text "\n</table", by rw [List.append_assoc]; rfl⟩
  | columns => exact ⟨_ ++ text "\n</div", by rw [List.append_assoc]; rfl⟩

lemma Pieces.text_trimLeft (pieces : Pieces) :
    Pieces.text pieces.trimLeft = (Pieces.text pieces).dropWhile CodePoint.isSpace := by
  induction pieces with
  | nil => rfl
  | cons piece rest ih =>
    cases piece with
    | plain text =>
      rw [Pieces.trimLeft, Pieces.text_cons, Piece.text]
      split
      · next blank => rw [ih, dropWhile_append_of_all blank]
      next shown => rw [Pieces.text_cons, Piece.text, dropWhile_append_of_not_all shown]
    | block markup inner =>
      obtain ⟨tail, eq⟩ := wrap_starts markup inner
      rw [Pieces.trimLeft, Pieces.text_cons, Piece.text, eq, List.cons_append,
        List.dropWhile_cons_of_neg (by decide)]

lemma Pieces.text_trimRight (pieces : Pieces) :
    Pieces.text pieces.trimRight = (Pieces.text pieces).rdropWhile CodePoint.isSpace := by
  induction pieces with
  | nil => rfl
  | cons piece rest ih =>
    cases piece with
    | plain text =>
      rw [Pieces.trimRight, Pieces.text_cons, Piece.text]
      split
      · next blank =>
        rw [Pieces.text_cons, Piece.text, rdropWhile_append_of_all blank]
        exact List.append_nil _
      · next shown => rw [Pieces.text_cons, Piece.text, ih, rdropWhile_append_of_not_all shown]
    | block markup inner =>
      rw [Pieces.trimRight, Pieces.text_cons, Pieces.text_cons, Piece.text, ih]
      by_cases blank : (Pieces.text rest).all CodePoint.isSpace = true
      · obtain ⟨front, eq⟩ := wrap_ends markup inner
        have nothing : (Pieces.text rest).rdropWhile CodePoint.isSpace = [] :=
          List.rdropWhile_eq_nil_iff.2 (List.all_eq_true.1 blank)
        rw [rdropWhile_append_of_all blank, nothing, List.append_nil, eq,
          List.rdropWhile_concat_neg _ _ _ (by decide)]
      · rw [rdropWhile_append_of_not_all blank]

instance : Rendering Pieces where
  plain text := [.plain text]
  append left right := left ++ right
  strip pieces := pieces.trimLeft.trimRight
  block markup inner := [.block markup (Pieces.text inner)]
  toText := Pieces.text
  toText_plain text := List.append_nil text
  toText_append left right := List.flatMap_append
  toText_strip pieces := by rw [Pieces.text_trimRight, Pieces.text_trimLeft, strip]
  toText_block markup inner := List.append_nil _

/-! ## The text does not depend on what is written -/

section

variable {ω : Type} [Rendering ω]

def shown (result : Except Fault (ω × Parser)) : Except Fault (Text × Parser) :=
  result.map (Prod.map toText id)

lemma toText_text (output : Text) : toText output = output := rfl

lemma cellText_toText (markup : Option Markup) (row cell : Value) (output : ω) :
    cellText markup row cell (toText output) = toText (cellText markup row cell output) := by
  match markup with
  | none => rfl
  | some .columns =>
    simp only [cellText, Rendering.toText_append, Rendering.toText_plain, Rendering.toText_escape]
    rfl
  | some .table =>
    simp only [cellText, Rendering.toText_append, Rendering.toText_plain, Rendering.toText_escape]
    rfl

lemma rowText_toText (markup : Option Markup) (cells : List ω) :
    rowText markup (cells.map toText) = toText (rowText markup cells) := by
  match markup with
  | none => exact (Rendering.toText_join_eq _ cells).symm
  | some .columns => exact (Rendering.toText_join_eq _ cells).symm
  | some .table =>
    simp only [rowText, Rendering.toText_append, Rendering.toText_plain, Rendering.toText_join_eq]
    rfl

lemma tableText_toText (markup : Option Markup) (rows : List ω) :
    tableText markup (rows.map toText) = toText (tableText markup rows) := by
  match markup with
  | none => exact (Rendering.toText_join_eq _ rows).symm
  | some markup =>
    simp only [tableText, Rendering.toText_block, Rendering.toText_join_eq]
    rfl

lemma closeTable_shown (markup : Option Markup) (result : ω) (parser : Parser) :
    closeTable markup (toText result) parser = shown (closeTable markup result parser) := by
  simp only [closeTable, toText_text]
  split
  · rfl
  split
  · rfl
  simp only [shown, Except.map, Prod.map_apply, Rendering.toText_append, Rendering.toText_plain]
  rfl

variable {renderCell : Value → Parser → Except Fault (ω × Parser)}
  {renderText : Value → Parser → Except Fault (Text × Parser)}
  (agree : ∀ cell parser, renderText cell parser = shown (renderCell cell parser))

include agree

lemma tableCell_shown (markup : Option Markup) (row cell : Value) (parser : Parser) :
    tableCell renderText markup row cell parser =
      (tableCell renderCell markup row cell parser).map (Prod.map (Option.map toText) id) := by
  rw [tableCell, tableCell, agree]
  cases renderCell cell parser with
  | error fault => rfl
  | ok run =>
    obtain ⟨output, entered⟩ := run
    simp only [shown, Except.map, Prod.map_apply, id_eq, Rendering.toText_strip, toText_text]
    split
    · rfl
    have cells := cellText_toText markup row cell (Rendering.strip output)
    rw [Rendering.toText_strip] at cells
    exact congrArg (fun shown => Except.ok (some shown, entered)) cells

lemma tableRow_shown (markup : Option Markup) (room : Nat) (row : Value) (parser : Parser) :
    tableRow renderText markup room row parser = shown (tableRow renderCell markup room row parser) := by
  rw [tableRow, tableRow]
  cases visit room parser with
  | error fault => rfl
  | ok entered =>
    dsimp only
    rw [traverse_map (fun cell _ state => tableCell_shown agree markup row cell state)]
    cases traverse (tableCell renderCell markup row) row.children entered with
    | error fault => rfl
    | ok run =>
      obtain ⟨cells, closed⟩ := run
      simp only [Except.map, Prod.map_apply, id_eq, shown, List.reduceOption_map, rowText_toText]

lemma renderTable_shown (markup : Option Markup) (room : Nat) (rows : List Value)
    (parser : Parser) : renderTable renderText markup room rows parser =
      shown (renderTable renderCell markup room rows parser) := by
  rw [renderTable, renderTable,
    traverse_map (fun row _ state => tableRow_shown agree markup room row state)]
  cases traverse (tableRow renderCell markup room) rows parser with
  | error fault => rfl
  | ok run =>
    obtain ⟨drawn, closed⟩ := run
    simp only [Except.map, Prod.map_apply, id_eq, tableText_toText, closeTable_shown]

end

section

variable {ω : Type} [Rendering ω]

lemma paragraph_shown (attributes : Attributes) (output : ω) (parser : Parser) :
    paragraph attributes (toText output) parser = shown (paragraph attributes output parser) := by
  have quoted : (if (attributeOr attributes "blockquote" .null).isTrue then
      Rendering.quoteLines (toText output) else toText output) =
      toText (if (attributeOr attributes "blockquote" .null).isTrue then
        Rendering.quoteLines output else output) := by
    split
    · exact (Rendering.toText_quoteLines output).symm
    rfl
  have closed : ∀ (label : Text) (parser : Parser),
      (.ok (append (plain label) (append (if (attributeOr attributes "blockquote" .null).isTrue then
        Rendering.quoteLines (toText output) else toText output) (plain (text "\n\n"))), parser) :
          Except Fault (Text × Parser)) =
      shown (.ok (append (plain label) (append (if (attributeOr attributes "blockquote" .null).isTrue
        then Rendering.quoteLines output else output) (plain (text "\n\n"))), parser)) := by
    intro label parser
    rw [quoted]
    simp only [shown, Except.map, Prod.map_apply, Rendering.toText_append, Rendering.toText_plain]
    rfl
  simp only [paragraph]
  split
  · exact closed _ _
  split
  · exact closed _ _
  split
  · split
    · split
      · exact closed _ _
      split
      · exact closed _ _
      exact closed _ _
    · split
      · exact closed _ _
      exact closed _ _
  · rfl

lemma close_shown (tag : Tag) (attributes : Attributes) (children : List Value)
    (rendered : List ω) (parser : Parser) :
    close tag attributes children (rendered.map toText) parser =
      shown (close tag attributes children rendered parser) := by
  have whole : join [] (rendered.map (toText : ω → Text)) = toText (join [] rendered) :=
    (Rendering.toText_join_eq [] rendered).symm
  have blank : ((rendered.map (toText : ω → Text)).any fun child =>
      !(toText (Rendering.strip child)).isEmpty) =
      rendered.any fun child => !(toText (Rendering.strip child)).isEmpty := by
    rw [List.any_map]
    refine congrArg rendered.any (funext fun child => ?_)
    rw [Function.comp_apply, Rendering.toText_strip, Rendering.toText_strip]
    rfl
  have trimmed : (rendered.map (toText : ω → Text)).map Rendering.strip =
      (rendered.map Rendering.strip).map toText := by
    rw [List.map_map, List.map_map]
    refine List.map_congr_left fun child _ => ?_
    rw [Function.comp_apply, Function.comp_apply, Rendering.toText_strip]
    rfl
  simp only [close, whole, blank, trimmed]
  split
  · split
    · simp only [toText_text]
      split
      · simp only [shown, Except.map, Prod.map_apply, Rendering.toText_plain]
        rfl
      simp only [shown, Except.map, Prod.map_apply, Rendering.toText_plain]
      rfl
    · simp only [shown, Except.map, Prod.map_apply, Rendering.toText_plain]
      rfl
  · simp only [shown, Except.map, Prod.map_apply, Rendering.toText_plain]
    rfl
  · simp only [shown, Except.map, Prod.map_apply, Rendering.toText_plain]
    rfl
  · split
    · simp only [shown, Except.map, Prod.map_apply, Rendering.toText_append, Rendering.toText_plain,
        Rendering.toText_join_eq]
      rfl
    · rfl
  all_goals first
    | exact paragraph_shown attributes (join [] rendered) parser
    | rfl
    | (simp only [shown, Except.map, Prod.map_apply, Rendering.toText_append,
        Rendering.toText_plain]; rfl)

/-- The renderer of the code writes the text of what the renderer over `ω` writes. -/
lemma render_shown (room : Nat) : ∀ (value : Value) (validatedCell : Bool) (parser : Parser),
    render room value validatedCell parser =
      shown (render room value validatedCell parser : Except Fault (ω × Parser)) := by
  induction room using Nat.strong_induction_on with
  | h room ih =>
    intro value validatedCell parser
    cases room with
    | zero => rfl
    | succ room =>
      match value with
      | .str leaf =>
        rw [render, render]
        cases visit (room + 1) parser with
        | error fault => rfl
        | ok entered =>
          simp only [shown, Except.map, Prod.map_apply, Rendering.toText_plain]
          rfl
      | .arr (.str name :: .obj attributes :: children) =>
        rw [render_element, render_element]
        cases enter room name attributes children validatedCell parser with
        | error fault => rfl
        | ok entry =>
          cases entry with
          | skipped entered =>
            simp only [shown, Except.map, Prod.map_apply, Rendering.toText_plain]
            rfl
          | children tag entered =>
            dsimp only
            rw [traverse_map (fun child _ state => ih room (by omega) child false state)]
            cases traverse (fun child => (render room child false :
              Parser → Except Fault (ω × Parser))) children entered with
            | error fault => rfl
            | ok run =>
              exact close_shown tag attributes children run.1 run.2
          | rows markup entered =>
            refine renderTable_shown (fun cell parser => ?_) markup room children entered
            cases room with
            | zero => rfl
            | succ deeper => exact ih deeper (by omega) cell true parser
      | .null | .bool _ | .int _ | .float _ | .obj _ | .arr [] | .arr [.str _]
      | .arr (.null :: _) | .arr (.bool _ :: _) | .arr (.int _ :: _) | .arr (.float _ :: _)
      | .arr (.arr _ :: _) | .arr (.obj _ :: _)
      | .arr (.str _ :: .null :: _) | .arr (.str _ :: .bool _ :: _)
      | .arr (.str _ :: .int _ :: _) | .arr (.str _ :: .float _ :: _)
      | .arr (.str _ :: .str _ :: _) | .arr (.str _ :: .arr _ :: _) =>
        rw [render, render]
        cases visit (room + 1) parser <;> rfl

lemma renderTree_shown (tree : Value) : (renderTree tree : Except Fault (Text × List String)) =
      (renderTree tree : Except Fault (ω × List String)).map (Prod.map toText id) := by
  have texts : render (maxDepth + 1) tree false .new =
      shown (render (maxDepth + 1) tree false .new : Except Fault (ω × Parser)) :=
    render_shown (maxDepth + 1) tree false .new
  rw [renderTree, renderTree, texts]
  cases (render (maxDepth + 1) tree false .new : Except Fault (ω × Parser)) with
  | error fault => rfl
  | ok run =>
    obtain ⟨output, closed⟩ := run
    simp only [shown, Except.map, Prod.map_apply, id_eq, Rendering.toText_strip]
    rfl

end

end Obsion.Jsonml
