import Obsion.Knowledge.Jsonml.Blocks

/-! # The chunker finds the generated blocks

`layoutOf` is what the renderer generated at top level; the chunker only sees the text.
The two agree exactly where the plain text around the blocks is quiet and has something
to chunk. -/

namespace Obsion.Jsonml

open Obsion.Lib
open Rendering (plain append block toText join)

def outline : Pieces → Outline Markup CodePoint
  | [] => ⟨[], []⟩
  | .plain part :: rest =>
    match outline rest with
    | ⟨[], last⟩ => ⟨[], part ++ last⟩
    | ⟨(before, markup, inner) :: blocks, last⟩ => ⟨(part ++ before, markup, inner) :: blocks, last⟩
  | .block markup inner :: rest => ⟨([], markup, inner) :: (outline rest).blocks, (outline rest).last⟩

def layoutOf (tree : Value) : Outline Markup CodePoint :=
  match (renderTree tree : Except Fault (Pieces × List String)) with
  | .ok (pieces, _) => outline pieces
  | .error _ => ⟨[], []⟩

lemma textOf_outline (pieces : Pieces) :
    layoutMarkers.textOf (outline pieces) = Pieces.text pieces := by
  induction pieces with
  | nil => rfl
  | cons piece rest ih =>
    rw [Pieces.text_cons, ← ih]
    cases piece with
    | plain part =>
      rw [outline]
      split
      · next last eq =>
        rw [eq]
        rfl
      · next before markup inner blocks last eq =>
        rw [eq]
        simp only [Delimiters.textOf, List.foldr_cons, Piece.text, List.append_assoc]
    | block markup inner => rfl

lemma outline_sound {pieces : Pieces} (sound : Sound pieces) :
    ∀ block ∈ (outline pieces).blocks, (Piece.block block.2.1 block.2.2).Sound := by
  induction pieces with
  | nil =>
    intro block mem
    cases mem
  | cons piece rest ih =>
    have later := ih fun other known => sound other (List.mem_cons_of_mem _ known)
    cases piece with
    | plain part =>
      rw [outline]
      split
      · intro block mem
        cases mem
      next before markup inner blocks last eq =>
      rw [eq] at later
      intro block mem
      rcases List.mem_cons.1 mem with rfl | known
      · exact later (before, markup, inner) List.mem_cons_self
      exact later block (List.mem_cons_of_mem _ known)
    | block markup inner =>
      intro block mem
      rcases List.mem_cons.1 mem with rfl | known
      · exact sound _ List.mem_cons_self
      exact later block known

lemma layoutMarkers_marked : layoutMarkers.Marked (point '<') where
  once := by
    intro kind _
    cases kind with
    | table => exact ⟨text "table>\n", rfl, by decide⟩
    | columns => exact ⟨text "div class=\"columns\">\n", rfl, by decide⟩
  apart := by
    rintro kind _ other _ tail ⟨rest, eq⟩
    have second := congrArg (fun part : Text => part[1]?) eq
    cases kind <;> cases other
    · rfl
    · exact absurd (show some (point 't') = some (point 'd') from second) (by decide)
    · exact absurd (show some (point 'd') = some (point 't') from second) (by decide)
    · rfl

lemma mem_kinds (markup : Markup) : markup ∈ layoutMarkers.kinds := by
  cases markup
  · exact List.mem_cons_self
  · exact List.mem_cons_of_mem _ List.mem_cons_self

lemma closing_eq (markup : Markup) :
    ∃ rest, layoutMarkers.closing markup = newline :: point '<' :: point '/' :: rest := by
  cases markup <;> exact ⟨_, rfl⟩

variable {markup : Markup} {inner part : Text}

lemma closes_of_tight (tight : Tight inner) :
    layoutMarkers.Closes markup inner := by
  intro rest
  rw [List.dropInfix?_eq_some_iff]
  refine ⟨⟨layoutMarkers.closing markup, (List.append_assoc _ _ _).symm, beq_self_eq_true _⟩, ?_⟩
  intro before marker after eq equal
  obtain rfl := beq_iff_eq.1 equal
  by_contra shorter
  rw [ge_iff_le, not_le] at shorter
  rw [List.append_assoc] at eq
  obtain ⟨tail, split⟩ := List.prefix_of_prefix_length_le ⟨_, eq.symm⟩
    (List.prefix_append inner (layoutMarkers.closing markup ++ rest)) shorter.le
  rw [← split, List.append_assoc] at eq
  have aligned := List.append_cancel_left eq
  obtain ⟨more, closing⟩ := closing_eq markup
  rw [closing] at aligned
  clear eq
  match tail, split, aligned with
  | [], split, _ =>
    rw [← split, List.append_nil] at shorter
    exact lt_irrefl _ shorter
  | [_], _, aligned =>
    have wrong := (List.cons.inj (List.cons.inj aligned).2).1
    exact absurd wrong (by decide)
  | [_, _], _, aligned =>
    have wrong := (List.cons.inj (List.cons.inj (List.cons.inj aligned).2).2).1
    exact absurd wrong (by decide)
  | first :: second :: third :: deeper, split, aligned =>
    obtain ⟨lineEnd, afterLine⟩ := List.cons.inj aligned
    obtain ⟨tagStart, afterTag⟩ := List.cons.inj afterLine
    have slash := (List.cons.inj afterTag).1
    refine tight ⟨before, deeper, ?_⟩
    rw [← split, lineEnd, tagStart, slash, closingStart_eq, List.append_assoc]
    rfl

lemma squeeze_unixLines (part : Text) : squeeze (unixLines part) = squeeze part := by
  induction part with
  | nil => rfl
  | cons char rest ih =>
    rw [unixLines]
    split
    · next ended =>
      have blank : squeeze (char :: rest) = squeeze rest := by
        rw [ended.1]
        rfl
      rw [ih, blank]
    · have split : ∀ tail : Text, squeeze (char :: tail) = squeeze [char] ++ squeeze tail :=
        fun tail => squeeze_append [char] tail
      rw [split, split rest, ih]

/-- The part has a character that is neither a NUL nor whitespace. -/
def Visible (part : Text) : Prop := ∃ char ∈ part, char ≠ 0 ∧ char.isSpace = false

lemma cleanedText_eq_nil_iff : cleanedText part = [] ↔ ¬ Visible part := by
  rw [cleanedText, strip_eq_nil_iff, squeeze_unixLines, squeeze_eq_nil_iff]
  simp only [List.mem_filter, bne_iff_ne, Visible, not_exists, not_and, Bool.not_eq_false, and_imp]

lemma chunkBlock_plain_iff :
    (∃ chunks, chunkBlock false part = .ok chunks) ↔ (strip part ≠ [] → Visible part) := by
  rw [chunkBlock]
  split
  · next blank => exact iff_of_true ⟨[], rfl⟩ (fun shown => absurd blank shown)
  next shown =>
  rw [if_neg Bool.false_ne_true, chunkPlain]
  split
  · next empty =>
    refine iff_of_false ?_ fun visible => cleanedText_eq_nil_iff.1 empty (visible shown)
    rintro ⟨chunks, run⟩
    cases run
  · next full =>
    rw [cleanedText_eq_nil_iff, not_not] at full
    exact iff_of_true ⟨_, rfl⟩ fun _ => full

lemma chunkBlock_layout (small : (layoutMarkers.wrap markup inner).length ≤ maxLayoutChars) :
    chunkBlock true (layoutMarkers.wrap markup inner) =
      .ok [([], layoutMarkers.wrap markup inner)] := by
  have shown : strip (layoutMarkers.wrap markup inner) ≠ [] := by
    rw [ne_eq, strip_eq_nil_iff, squeeze_eq_nil_iff]
    intro blank
    obtain ⟨rest, eq⟩ := wrap_starts markup inner
    have space := blank (point '<') (by rw [eq]; exact List.mem_cons_self)
    exact absurd space (by decide)
  have bound : ¬ min maxChars maxLayoutChars < (layoutMarkers.wrap markup inner).length := by
    have equal : min maxChars maxLayoutChars = maxLayoutChars := rfl
    omega
  rw [chunkBlock, if_neg shown, if_pos rfl, if_neg bound]

lemma chunkBlocks_eq_ok_iff {parts : List (Bool × Text)} {chunks : List Chunk} :
    chunkBlocks parts = .ok chunks ↔
      ∃ each, List.Forall₂ (fun part made => chunkBlock part.1 part.2 = .ok made) parts each ∧
        chunks = each.flatten := by
  induction parts generalizing chunks with
  | nil =>
    constructor
    · intro run
      cases run
      exact ⟨[], List.Forall₂.nil, rfl⟩
    · rintro ⟨each, related, rfl⟩
      cases related
      rfl
  | cons part rest ih =>
    obtain ⟨layout, block⟩ := part
    constructor
    · intro run
      rw [chunkBlocks] at run
      split at run
      · cases run
      next made chunked =>
      split at run
      · cases run
      next later rested =>
      cases run
      obtain ⟨each, related, rfl⟩ := ih.1 rested
      exact ⟨made :: each, List.Forall₂.cons chunked related, rfl⟩
    · rintro ⟨each, related, rfl⟩
      cases related with
      | cons head tail =>
        rw [chunkBlocks, head, ih.2 ⟨_, tail, rfl⟩]
        rfl

/-- The chunker takes exactly the generated blocks for layout blocks, raises nothing, and
makes each of them one chunk. -/
structure Agrees (tree : Value) (body : Text) : Prop where
  blocks : layoutMarkers.blocks body = layoutMarkers.partsOf (layoutOf tree)
  chunks : ∃ each, chunkDocument body true = .ok each.flatten ∧
    List.Forall₂ (fun part made => part.1 = true → made = [([], part.2)])
      (layoutMarkers.partsOf (layoutOf tree)) each

/-- The text around the generated blocks is not taken for a block, and what of it is not
blank has something to chunk. -/
structure PlainAround (tree : Value) : Prop where
  quiet : layoutMarkers.Quiet (layoutOf tree)
  visible : ∀ part ∈ layoutMarkers.partsOf (layoutOf tree), part.1 = false → strip part.2 ≠ [] →
    Visible part.2

lemma layoutOf_spec {tree : Value} {body : Text}
    (run : (renderTree tree : Except Fault (Text × List String)) = .ok (body, [])) :
    layoutMarkers.textOf (layoutOf tree) = body ∧
      ∀ block ∈ (layoutOf tree).blocks, (Piece.block block.2.1 block.2.2).Sound := by
  have texts : (renderTree tree : Except Fault (Text × List String)) =
      (renderTree tree : Except Fault (Pieces × List String)).map (Prod.map toText id) :=
    renderTree_shown tree
  rw [texts] at run
  unfold layoutOf
  split
  · next pieces gaps drawn =>
    rw [drawn] at run
    obtain ⟨eq, empty⟩ := Prod.mk.inj (Except.ok.inj run)
    refine ⟨(textOf_outline pieces).trans eq, outline_sound ?_⟩
    unfold renderTree at drawn
    split at drawn
    · cases drawn
    next output final rendered =>
    cases drawn
    exact sound_strip (render_sound _ _ _ _ _ _ rendered empty)
  · next fault failed =>
    rw [failed] at run
    cases run

lemma exists_forall₂_iff {α β : Type} {related : α → β → Prop} {items : List α} :
    (∃ each, List.Forall₂ related items each) ↔ ∀ item ∈ items, ∃ made, related item made := by
  induction items with
  | nil => exact iff_of_true ⟨[], List.Forall₂.nil⟩ nofun
  | cons first rest ih =>
    rw [List.forall_mem_cons, ← ih]
    constructor
    · rintro ⟨each, both⟩
      cases both with
      | cons head tail => exact ⟨⟨_, head⟩, ⟨_, tail⟩⟩
    · rintro ⟨⟨made, head⟩, ⟨each, tail⟩⟩
      exact ⟨made :: each, List.Forall₂.cons head tail⟩

/-- A document's generated blocks are its layout chunks exactly where the text around
them is plain. -/
theorem layout_agrees_iff {tree : Value} {body : Text}
    (run : (renderTree tree : Except Fault (Text × List String)) = .ok (body, [])) :
    Agrees tree body ↔ PlainAround tree := by
  obtain ⟨rfl, sound⟩ := layoutOf_spec run
  have scanned := Delimiters.blocks_eq_partsOf_iff layoutMarkers_marked (layoutOf tree)
    fun block member => ⟨mem_kinds _, closes_of_tight (sound block member).1⟩
  constructor
  · rintro ⟨blocks, each, chunked, _⟩
    refine ⟨scanned.1 blocks, fun part member isPlain shown => ?_⟩
    rw [chunkDocument, if_pos rfl, blocks] at chunked
    obtain ⟨made, related, _⟩ := chunkBlocks_eq_ok_iff.1 chunked
    obtain ⟨output, chunk⟩ := exists_forall₂_iff.1 ⟨made, related⟩ part member
    rw [isPlain] at chunk
    exact chunkBlock_plain_iff.1 ⟨output, chunk⟩ shown
  · rintro ⟨quiet, visible⟩
    have blocks := scanned.2 quiet
    have chunked : ∀ part ∈ layoutMarkers.partsOf (layoutOf tree), ∃ made,
        chunkBlock part.1 part.2 = .ok made ∧ (part.1 = true → made = [([], part.2)]) := by
      rintro ⟨layout, part⟩ member
      cases layout with
      | true =>
        obtain ⟨block, known, rfl⟩ := Delimiters.mem_partsOf_layout member
        exact ⟨_, chunkBlock_layout (sound block known).2, fun _ => rfl⟩
      | false =>
        obtain ⟨made, run⟩ := chunkBlock_plain_iff.2 (visible _ member rfl)
        exact ⟨made, run, fun wrong => nomatch wrong⟩
    obtain ⟨each, related⟩ := exists_forall₂_iff.2 chunked
    refine ⟨blocks, each, ?_, related.imp fun _ _ both => both.2⟩
    rw [chunkDocument, if_pos rfl, blocks]
    exact chunkBlocks_eq_ok_iff.2 ⟨each, related.imp fun _ _ both => both.1, rfl⟩

/-! A code sample that shows a table, and a table between two paragraphs. -/

def tableSample : Value :=
  .arr [.str (text "root"), .obj [],
    .arr [.str (text "code"), .obj [(text "code", .str (text "<table>\nx\n</table>"))]]]

def tableBetween : Value :=
  .arr [.str (text "root"), .obj [], .arr [.str (text "p"), .obj [], .str (text "before")],
    .arr [.str (text "table"), .obj [],
      .arr [.str (text "tr"), .obj [(text "isTblHeader", .bool true)],
        .arr [.str (text "tc"), .obj [], .str (text "Item")]]],
    .arr [.str (text "p"), .obj [], .str (text "after")]]

theorem layout_agrees_between : (renderTree tableBetween : Except Fault (Text × List String)) =
        .ok (text "before\n\n<table>\n<tr><th>Item</th></tr>\n</table>\n\nafter", []) ∧
      (Agrees tableBetween (text "before\n\n<table>\n<tr><th>Item</th></tr>\n</table>\n\nafter") ↔
        PlainAround tableBetween) := by
  have run : (renderTree tableBetween : Except Fault (Text × List String)) =
      .ok (text "before\n\n<table>\n<tr><th>Item</th></tr>\n</table>\n\nafter", []) := by
    decide +kernel
  exact ⟨run, layout_agrees_iff run⟩

/-- The code sample renders without gaps and is taken for a generated table. -/
theorem sample_taken_for_table : (renderTree tableSample : Except Fault (Text × List String)) =
        .ok (text "<table>\nx\n</table>", []) ∧
      ¬ Agrees tableSample (text "<table>\nx\n</table>") := by
  refine ⟨by decide +kernel, fun agrees => ?_⟩
  have scanned := agrees.blocks
  have counted : (layoutMarkers.blocks (text "<table>\nx\n</table>")).length = 3 := by decide +kernel
  have expected : (layoutMarkers.partsOf (layoutOf tableSample)).length = 1 := by decide +kernel
  rw [scanned, expected] at counted
  cases counted

end Obsion.Jsonml
