import Mathlib.Data.List.ReduceOption
import Obsion.Knowledge.Jsonml.Rendered

/-! # A complete body keeps every text leaf

`Value.leaves` reads a document's text in document order without rendering it: a
code element counts for its `code` attribute, and what lies inside generated markup
is escaped once for each level of it.  A rendering that records no gap keeps all of
it, whitespace aside. -/

namespace Obsion.Jsonml

open Obsion.Lib
open Rendering (plain append block toText join)

def generated (attributes : Attributes) (rows : List Value) : Bool :=
  match tableGeometry rows with
  | some markup => (tableMarkup attributes markup).isSome
  | none => false

mutual

def Value.leaves : Value → List Text
  | .str leaf => [leaf]
  | .arr (.str name :: .obj attributes :: children) =>
    match Tag.of? name with
    | some .code =>
      match attribute? attributes "code" with
      | some (.str code) => [code]
      | _ => []
    | some .table =>
      if generated attributes children then (leavesOf children).map escape
      else leavesOf children
    | _ => leavesOf children
  | _ => []

def leavesOf : List Value → List Text
  | [] => []
  | value :: rest => value.leaves ++ leavesOf rest

end

def Value.content (value : Value) : Text := squeeze value.leaves.flatten

def contentOf (values : List Value) : Text := squeeze (leavesOf values).flatten

lemma contentOf_cons (value : Value) (rest : List Value) :
    contentOf (value :: rest) = value.content ++ contentOf rest := by
  rw [contentOf, leavesOf, List.flatten_append, squeeze_append]
  rfl

lemma flatten_map_escape (parts : List Text) :
    (parts.map escape).flatten = escape parts.flatten := by
  induction parts with
  | nil => rfl
  | cons part rest ih => rw [List.map_cons, List.flatten_cons, List.flatten_cons, escape_append, ih]

lemma join_text (separator : Text) (parts : List Text) :
    join separator parts = separator.intercalate parts := by
  have texts := Rendering.toText_join separator parts
  rwa [show parts.map (toText : Text → Text) = parts from List.map_id' parts] at texts

lemma flatten_sublist_join (separator : Text) (parts : List Text) :
    parts.flatten.Sublist (join separator parts) := by
  rw [join_text]
  exact flatten_sublist_intercalate separator parts

def marked (markup : Option Markup) (part : Text) : Text :=
  if markup.isSome then escape part else part

lemma marked_append (markup : Option Markup) (left right : Text) :
    marked markup (left ++ right) = marked markup left ++ marked markup right := by
  unfold marked
  split
  · exact escape_append left right
  rfl

lemma marked_nil (markup : Option Markup) : marked markup [] = [] := by
  unfold marked
  split <;> rfl

lemma contentOf_sublist {β : Type} (markup : Option Markup) {shown : β → Text} {values : List Value}
    {made : List β}
    (each : List.Forall₂ (fun value output =>
      (marked markup value.content).Sublist (squeeze (shown output))) values made) :
    (marked markup (contentOf values)).Sublist (squeeze (made.map shown).flatten) := by
  induction each with
  | nil =>
    change (marked markup []).Sublist _
    rw [marked_nil]
    exact List.nil_sublist _
  | cons head _ ih =>
    rw [contentOf_cons, marked_append, List.map_cons, List.flatten_cons, squeeze_append]
    exact head.append ih

variable {part output name : Text} {attributes : Attributes} {children : List Value}

lemma content_sublist_append {before after : Text} (kept : part.Sublist (squeeze output)) :
    part.Sublist (squeeze (before ++ (output ++ after))) := by
  refine kept.trans (squeeze_sublist ?_)
  exact (List.sublist_append_left output after).trans (List.sublist_append_right before _)

lemma paragraph_content {inner : Text} {parser final : Parser}
    (run : paragraph attributes inner parser = .ok (output, final))
    (kept : part.Sublist (squeeze inner)) : part.Sublist (squeeze output) := by
  have quoted : part.Sublist (squeeze (if (attributeOr attributes "blockquote" .null).isTrue then
      Rendering.quoteLines inner else inner)) := by
    split
    · exact kept.trans (squeeze_sublist (quoteLines_sublist inner))
    exact kept
  simp only [paragraph] at run
  split at run
  · cases run
    exact content_sublist_append quoted
  split at run
  · cases run
    exact content_sublist_append quoted
  split at run
  · split at run
    · split at run
      · cases run
        exact content_sublist_append quoted
      split at run
      all_goals
        cases run
        exact content_sublist_append quoted
    · split at run
      all_goals
        cases run
        exact content_sublist_append quoted
  · cases run

lemma element_content {tag : Tag} (tagged : Tag.of? name = some tag) (notCode : tag ≠ .code)
    (plainTable : tag = .table → generated attributes children = false) :
    Value.content (.arr (.str name :: .obj attributes :: children)) = contentOf children := by
  rw [Value.content, Value.leaves, tagged]
  cases tag with
  | code => exact absurd rfl notCode
  | table =>
    dsimp only
    rw [plainTable rfl]
    rfl
  | _ => rfl

lemma code_content {code : Text} (tagged : Tag.of? name = some .code)
    (found : attribute? attributes "code" = some (.str code)) :
    Value.content (.arr (.str name :: .obj attributes :: children)) = squeeze code := by
  have leaves : Value.leaves (.arr (.str name :: .obj attributes :: children)) = [code] := by
    simp only [Value.leaves, tagged, found]
  rw [Value.content, leaves, List.flatten_singleton]

lemma close_content {tag : Tag} {rendered : List Text} {parser final : Parser}
    (tagged : Tag.of? name = some tag)
    (plainTable : tag = .table → generated attributes children = false)
    (each : List.Forall₂ (fun child made => child.content.Sublist (squeeze made)) children rendered)
    (run : close tag attributes children rendered parser = .ok (output, final))
    (clean : final.Clean) :
    (Value.content (.arr (.str name :: .obj attributes :: children))).Sublist (squeeze output) := by
  have whole : (contentOf children).Sublist (squeeze (join [] rendered)) := by
    have parts : (contentOf children).Sublist (squeeze (rendered.map id).flatten) :=
      contentOf_sublist none each
    rw [List.map_id] at parts
    exact parts.trans (squeeze_sublist (flatten_sublist_join [] rendered))
  have trimmed : (contentOf children).Sublist (squeeze (rendered.map strip).flatten) := by
    refine contentOf_sublist none (each.imp fun child made kept => ?_)
    rwa [squeeze_strip]
  by_cases isCode : tag = .code
  · subst isCode
    simp only [close] at run
    split at run
    · next code found =>
      split at run
      · cases run
        exact absurd clean (Parser.gap_not_clean _ _)
      cases run
      rw [code_content tagged found]
      exact squeeze_sublist (by simp [plain])
    · cases run
      exact absurd clean (Parser.gap_not_clean _ _)
  · rw [element_content tagged isCode plainTable]
    have blank : final.Clean → final = parser.gapIf (rendered.any fun child =>
        !(toText (Rendering.strip child)).isEmpty) "unexpected_leaf_content" →
        contentOf children = [] := by
      rintro clean rfl
      have empty := (Parser.gapIf_clean clean).1
      rw [List.any_eq_false] at empty
      have nothing : (rendered.map strip).flatten = [] := by
        rw [List.flatten_eq_nil_iff]
        intro part mem
        obtain ⟨child, known, rfl⟩ := List.mem_map.1 mem
        have stripped := empty child known
        rwa [Bool.not_eq_true, Bool.not_eq_false', List.isEmpty_iff] at stripped
      rw [nothing] at trimmed
      exact List.sublist_nil.1 trimmed
    simp only [close] at run
    split at run
    · exact absurd rfl isCode
    · cases run
      rw [blank clean rfl]
      exact List.nil_sublist _
    · cases run
      rw [blank clean rfl]
      exact List.nil_sublist _
    · split at run
      · cases run
        refine trimmed.trans (squeeze_sublist ?_)
        exact (flatten_sublist_join (text " | ") (rendered.map strip)).trans
          (List.sublist_append_left _ _)
      · cases run
    all_goals first
      | exact paragraph_content run whole
      | (cases run; exact whole)
      | (cases run; exact whole.trans (squeeze_sublist (List.sublist_append_left _ _)))

lemma cellText_content {markup : Option Markup} {row cell : Value}
    (kept : part.Sublist (squeeze output)) :
    (marked markup part).Sublist (squeeze (cellText markup row cell output)) := by
  have escaped : (escape part).Sublist (squeeze (escape output)) := by
    rw [squeeze_escape]
    exact escape_sublist kept
  match markup with
  | none => exact kept
  | some .columns => exact content_sublist_append escaped
  | some .table => exact content_sublist_append escaped

lemma reduceOption_flatten (cells : List (Option Text)) :
    (cells.map fun cell => cell.getD []).flatten = cells.reduceOption.flatten := by
  induction cells with
  | nil => rfl
  | cons cell rest ih =>
    cases cell with
    | none => rw [List.map_cons, List.flatten_cons, ih, List.reduceOption_cons_of_none]; rfl
    | some cell =>
      rw [List.map_cons, List.flatten_cons, ih, List.reduceOption_cons_of_some]
      rfl

lemma flatten_sublist_rowText (markup : Option Markup) (cells : List Text) :
    cells.flatten.Sublist (rowText markup cells) := by
  match markup with
  | none => exact flatten_sublist_join (text " | ") cells
  | some .columns => exact flatten_sublist_join (text "\n") cells
  | some .table =>
    refine (flatten_sublist_join [] cells).trans ?_
    exact (List.sublist_append_left _ (text "</tr>")).trans (List.sublist_append_right (text "<tr>") _)

lemma flatten_sublist_tableText (markup : Option Markup) (rows : List Text) :
    rows.flatten.Sublist (tableText markup rows) := by
  match markup with
  | none => exact flatten_sublist_join (text "\n") rows
  | some markup =>
    refine (flatten_sublist_join (text "\n") rows).trans ?_
    exact (List.sublist_append_right markup.opening _).trans
      (List.sublist_append_left _ markup.closing)

section

variable {renderCell : Value → Parser → Except Fault (Text × Parser)} {markup : Option Markup}
  {room : Nat} (cells : ∀ cell parser output final, renderCell cell parser = .ok (output, final) →
    final.Clean → parser.Clean ∧ cell.content.Sublist (squeeze output))

include cells

variable {parser final : Parser}

lemma tableCell_content {row cell : Value} {made : Option Text}
    (run : tableCell renderCell markup row cell parser = .ok (made, final)) (clean : final.Clean) :
    parser.Clean ∧ (marked markup cell.content).Sublist (squeeze (made.getD [])) := by
  obtain ⟨output, entered, drawn, passed⟩ := tableCell_ok run
  obtain ⟨before, shown⟩ := passed clean
  obtain ⟨started, kept⟩ := cells _ _ _ _ drawn before
  refine ⟨started, ?_⟩
  have stripped : cell.content.Sublist (squeeze (strip output)) := by rwa [squeeze_strip]
  rcases shown with ⟨rfl, blank⟩ | rfl
  · have empty : strip output = [] := blank
    rw [empty, squeeze_nil, List.sublist_nil] at stripped
    rw [stripped, marked_nil]
    exact List.nil_sublist _
  · exact cellText_content stripped

lemma tableRow_content {row : Value} {attributes : Attributes} {children : List Value}
    (shaped : row = .arr (.str (text "tr") :: .obj attributes :: children)) {output : Text}
    (run : tableRow renderCell markup room row parser = .ok (output, final)) (clean : final.Clean) :
    parser.Clean ∧ (marked markup row.content).Sublist (squeeze output) := by
  obtain ⟨entered, made, kept, drawn, rfl⟩ := tableRow_ok run
  have reflected := fun cell (_ : cell ∈ row.children) state made next =>
    fun (stepped : tableCell renderCell markup row cell state = .ok (made, next)) (last : next.Clean) =>
      tableCell_content cells stepped last
  have started : entered.Clean := traverse_reflects
    (fun cell mem state made next stepped last =>
      (reflected cell mem state made next stepped last).1) drawn clean
  have each := traverse_forall₂ reflected drawn clean
  have whole := contentOf_sublist markup each
  rw [reduceOption_flatten] at whole
  subst shaped
  have trTag : Tag.of? (text "tr") = some .tr := by decide
  rw [element_content trTag (by decide) (nomatch ·)]
  exact ⟨kept started, whole.trans (squeeze_sublist (flatten_sublist_rowText markup _))⟩

lemma renderTable_content {rows : List Value} (shaped : ∀ row ∈ rows, ∃ attributes children,
      row = .arr (.str (text "tr") :: .obj attributes :: children))
    {output : Text} (run : renderTable renderCell markup room rows parser = .ok (output, final))
    (clean : final.Clean) : (marked markup (contentOf rows)).Sublist (squeeze output) := by
  obtain ⟨drawn, closed, inner, closing⟩ := renderTable_ok run
  obtain ⟨rfl, passed⟩ := closeTable_ok closing
  have each : List.Forall₂ (fun row output =>
      (marked markup row.content).Sublist (squeeze (id output))) rows drawn := by
    refine traverse_forall₂ (fun row mem state made next stepped last => ?_) inner (passed clean).1
    obtain ⟨attributes, children, eq⟩ := shaped row mem
    exact tableRow_content cells eq stepped last
  have whole := contentOf_sublist markup each
  rw [List.map_id] at whole
  refine whole.trans (squeeze_sublist ?_)
  exact (flatten_sublist_tableText markup drawn).trans (List.sublist_append_left _ _)

end

lemma render_content (room : Nat) : ∀ (value : Value) (validatedCell : Bool)
    (parser final : Parser) (output : Text),
    render room value validatedCell parser = .ok (output, final) → final.Clean →
      value.content.Sublist (squeeze output) := by
  induction room using Nat.strong_induction_on with
  | h room ih =>
    intro value validatedCell parser final output run clean
    cases rendered run with
    | leaf _ =>
      rw [Value.content, Value.leaves, List.flatten_singleton]
      exact List.Sublist.refl _
    | unknown recorded => exact absurd clean recorded
    | @table room name attributes children markup _ entered _ _ tagged valid _ inner =>
      have escaped : Value.content (.arr (.str name :: .obj attributes :: children)) =
          marked (tableMarkup attributes markup) (contentOf children) := by
        rw [Value.content, Value.leaves, tagged]
        simp only [generated, valid, marked, contentOf]
        split
        · rw [flatten_map_escape, squeeze_escape]
        rfl
      rw [escaped]
      refine renderTable_content (fun cell parser output final drawn clean => ?_)
        (fun row mem => row_of_tableGeometry valid mem) inner clean
      cases room with
      | zero => cases drawn
      | succ deeper =>
        exact ⟨render_clean deeper cell true parser final output drawn clean,
          ih deeper (by omega) cell true parser final output drawn clean⟩
    | @element room name tag attributes children _ entered closed _ rendered _ tagged plainTable _
        inner closing =>
        refine close_content tagged (fun isTable => ?_) ?_ closing clean
        · rw [generated, plainTable isTable]
        refine traverse_forall₂ (fun child _ state made next stepped last => ?_) inner
          (close_clean closing clean)
        exact ⟨render_clean room child false state next made stepped last,
          ih room (by omega) child false state next made stepped last⟩

end Obsion.Jsonml
