import Obsion.Knowledge.Jsonml.Parser

/-! # What a successful rendering is

`Rendered` lists the ways an element is rendered; every result about the renderer
that speaks of finished runs goes by its cases.  Gaps are never taken back:
`Parser.Clean` is reflected by every step. -/

namespace Obsion.Jsonml

open Obsion.Lib
open Rendering (plain append block toText join)

def Parser.Clean (parser : Parser) : Prop := parser.gaps = []

lemma Parser.gap_not_clean (parser : Parser) (name : String) : ¬ (parser.gap name).Clean := by
  intro clean
  simp only [Parser.Clean, Parser.gap] at clean
  split at clean
  · next mem => exact absurd (clean ▸ mem) List.not_mem_nil
  cases clean

variable {parser : Parser} {room : Nat} {tag : Tag} {validatedCell : Bool} {markup : Option Markup}
  {row : Value}

lemma Parser.gapIf_clean {condition : Bool} {name : String}
    (clean : (parser.gapIf condition name).Clean) : condition = false ∧ parser.Clean := by
  unfold Parser.gapIf at clean
  split at clean
  · exact absurd clean (Parser.gap_not_clean parser name)
  next kept => exact ⟨Bool.eq_false_iff.2 kept, clean⟩

variable {final : Parser} {attributes : Attributes}

lemma visit_ok (run : visit room parser = .ok final) : final.gaps = parser.gaps ∧ room ≠ 0 := by
  unfold visit at run
  split at run
  · cases run
  next room_left =>
  cases run
  exact ⟨rfl, fun none_left => room_left (.inl none_left)⟩

lemma checkSpan_clean (run : checkSpan tag attributes parser = .ok final) (clean : final.Clean) :
    parser.Clean := by
  unfold checkSpan at run
  split at run
  · split at run
    · cases run
    cases run
    exact (Parser.gapIf_clean clean).2
  · cases run
    exact clean

lemma checkCell_clean (clean : (checkCell tag attributes validatedCell parser).Clean) :
    parser.Clean := by
  unfold checkCell at clean
  split at clean
  · exact (Parser.gapIf_clean (Parser.gapIf_clean clean).2).2
  exact clean

variable {ω : Type} [Rendering ω]

def renderCell : Nat → Value → Parser → Except Fault (ω × Parser)
  | 0, _, _ => .error structuralBudget
  | room + 1, cell, parser => render room cell true parser

/-- What the renderer goes on with in an element. -/
inductive Entry
  | skipped (parser : Parser)
  | children (tag : Tag) (parser : Parser)
  | rows (markup : Option Markup) (parser : Parser)

/-- The checks of an element before anything inside it is rendered. -/
def enter (room : Nat) (name : Text) (attributes : Attributes) (children : List Value)
    (validatedCell : Bool) (parser : Parser) : Except Fault Entry :=
  match visit (room + 1) parser with
  | .error fault => .error fault
  | .ok parser =>
    match Tag.of? name with
    | none => .ok (.skipped (parser.gap "unsupported_element"))
    | some tag =>
      match checkSpan tag attributes parser with
      | .error fault => .error fault
      | .ok parser =>
        let parser := checkContainer tag attributes parser
        if tag = .table then
          let parser := checkColumns attributes children (tableGeometry children) parser
          match tableGeometry children with
          | some markup => .ok (.rows (tableMarkup attributes markup) parser)
          | none =>
            .ok (.children tag
              (checkCell tag attributes validatedCell (parser.gap "invalid_table_geometry")))
        else .ok (.children tag (checkCell tag attributes validatedCell parser))

lemma render_element (room : Nat) (name : Text) (attributes : Attributes) (children : List Value)
    (validatedCell : Bool) (parser : Parser) :
    (render (room + 1) (.arr (.str name :: .obj attributes :: children)) validatedCell parser :
      Except Fault (ω × Parser)) =
      match enter room name attributes children validatedCell parser with
      | .error fault => .error fault
      | .ok (.skipped parser) => .ok (plain [], parser)
      | .ok (.children tag parser) =>
        match traverse (fun child => render room child false) children parser with
        | .error fault => .error fault
        | .ok (rendered, parser) => close tag attributes children rendered parser
      | .ok (.rows markup parser) => renderTable (renderCell room) markup room children parser := by
  rw [render, enter]
  cases visit (room + 1) parser with
  | error fault => rfl
  | ok parser =>
    dsimp only
    cases Tag.of? name with
    | none => rfl
    | some tag =>
      dsimp only
      cases checkSpan tag attributes parser with
      | error fault => rfl
      | ok parser =>
        dsimp only
        by_cases isTable : tag = .table
        · subst isTable
          rw [if_pos rfl, if_pos rfl]
          cases tableGeometry children with
          | none => rfl
          | some markup => cases room <;> rfl
        · rw [if_neg isTable, if_neg isTable]
          all_goals rfl

def Entry.Follows (name : Text) (attributes : Attributes) (children : List Value) (parser : Parser) :
    Entry → Prop
  | .skipped entered => ¬ entered.Clean
  | .children tag entered =>
    Tag.of? name = some tag ∧ (tag = .table → tableGeometry children = none) ∧
      (entered.Clean → parser.Clean)
  | .rows markup entered =>
    Tag.of? name = some .table ∧
      (∃ marked, tableGeometry children = some marked ∧ markup = tableMarkup attributes marked) ∧
      (entered.Clean → parser.Clean)

variable {children rows : List Value}

lemma enter_follows {name : Text} {entry : Entry}
    (run : enter room name attributes children validatedCell parser = .ok entry) :
    entry.Follows name attributes children parser := by
  unfold enter at run
  split at run
  · cases run
  next seen visited =>
  have entering : seen.Clean → parser.Clean := by
    intro clean
    rw [Parser.Clean, ← (visit_ok visited).1]
    exact clean
  split at run
  · cases run
    exact Parser.gap_not_clean seen _
  next tag tagged =>
  split at run
  · cases run
  next spanned passed =>
  have kept : (checkContainer tag attributes spanned).Clean → parser.Clean :=
    fun clean => entering (checkSpan_clean passed (Parser.gapIf_clean clean).2)
  simp only at run
  split at run
  · next isTable =>
    subst isTable
    split at run
    · next marked valid =>
      cases run
      exact ⟨tagged, ⟨marked, valid, rfl⟩, fun clean => kept (Parser.gapIf_clean clean).2⟩
    · next invalid =>
      cases run
      exact ⟨tagged, fun _ => invalid, fun clean =>
        absurd (checkCell_clean clean) (Parser.gap_not_clean _ _)⟩
  · next notTable =>
    cases run
    exact ⟨tagged, fun isTable => absurd isTable notTable,
      fun clean => kept (checkCell_clean clean)⟩

/-- A finished rendering, by the branch it took. -/
inductive Rendered : Nat → Value → Parser → ω → Parser → Prop
  | leaf {room : Nat} {leaf : Text} {parser final : Parser} (kept : final.Clean → parser.Clean) :
      Rendered (room + 1) (.str leaf) parser (plain leaf) final
  | unknown {room : Nat} {value : Value} {parser final : Parser} (recorded : ¬ final.Clean) :
      Rendered (room + 1) value parser (plain []) final
  | table {room : Nat} {name : Text} {attributes : Attributes} {children : List Value} {markup : Bool}
      {parser entered final : Parser} {output : ω} (tagged : Tag.of? name = some .table)
      (valid : tableGeometry children = some markup) (kept : entered.Clean → parser.Clean)
      (run : renderTable (renderCell room) (tableMarkup attributes markup) room children entered =
        .ok (output, final)) :
      Rendered (room + 1) (.arr (.str name :: .obj attributes :: children)) parser output final
  | element {room : Nat} {name : Text} {tag : Tag} {attributes : Attributes} {children : List Value}
      {parser entered closed final : Parser} {rendered : List ω} {output : ω}
      (tagged : Tag.of? name = some tag)
      (plainTable : tag = .table → tableGeometry children = none)
      (kept : entered.Clean → parser.Clean)
      (inner : traverse (fun child => render room child false) children entered =
        .ok (rendered, closed))
      (run : close tag attributes children rendered closed = .ok (output, final)) :
      Rendered (room + 1) (.arr (.str name :: .obj attributes :: children)) parser output final

lemma rendered {value : Value} {output : ω}
    (run : render room value validatedCell parser = .ok (output, final)) :
    Rendered room value parser output final := by
  cases room with
  | zero => cases run
  | succ room =>
    cases visited : visit (room + 1) parser with
    | error fault =>
      rw [render, visited] at run
      cases run
    | ok seen =>
      have entering : seen.Clean → parser.Clean := by
        intro clean
        rw [Parser.Clean, ← (visit_ok visited).1]
        exact clean
      match value with
      | .str leaf =>
        rw [render, visited] at run
        cases run
        exact .leaf entering
      | .arr (.str name :: .obj attributes :: children) =>
        rw [render_element] at run
        split at run
        · cases run
        · next passed =>
          cases run
          exact .unknown (enter_follows passed)
        · next tag entered passed =>
          obtain ⟨tagged, plainTable, kept⟩ := enter_follows passed
          split at run
          · cases run
          next made closed inner => exact .element tagged plainTable kept inner run
        · next markup entered passed =>
          obtain ⟨tagged, ⟨marked, valid, rfl⟩, kept⟩ := enter_follows passed
          exact .table tagged valid kept run
      | .null | .bool _ | .int _ | .float _ | .obj _ | .arr [] | .arr [.str _]
      | .arr (.null :: _) | .arr (.bool _ :: _) | .arr (.int _ :: _) | .arr (.float _ :: _)
      | .arr (.arr _ :: _) | .arr (.obj _ :: _)
      | .arr (.str _ :: .null :: _) | .arr (.str _ :: .bool _ :: _)
      | .arr (.str _ :: .int _ :: _) | .arr (.str _ :: .float _ :: _)
      | .arr (.str _ :: .str _ :: _) | .arr (.str _ :: .arr _ :: _) =>
        rw [render, visited] at run
        cases run

lemma paragraph_clean {inner output : ω}
    (run : paragraph attributes inner parser = .ok (output, final)) (clean : final.Clean) :
    parser.Clean := by
  have unlabelled : ∀ (listing : Attributes) (parser : Parser) (quoted : ω),
      (if (attributeOr listing "isTaskList" .null).isTrue then
        let checked := attributeOr listing "isChecked" .null
        .ok (append (plain (if checked.isTrue then text "[x] " else text "[ ] "))
          (append quoted (plain (text "\n\n"))),
          parser.gapIf (!checked.isBool) "unknown_task_state")
      else .ok (append (plain (text "- ")) (append quoted (plain (text "\n\n"))), parser)) =
        (.ok (output, final) : Except Fault (ω × Parser)) → parser.Clean := by
    intro listing parser quoted run
    split at run
    · cases run
      exact (Parser.gapIf_clean clean).2
    cases run
    exact clean
  simp only [paragraph] at run
  split at run
  · cases run
    exact clean
  split at run
  · cases run
    exact clean
  split at run
  · split at run
    · split at run
      · cases run
        exact clean
      exact absurd (unlabelled _ _ _ run) (Parser.gap_not_clean _ _)
    · exact unlabelled _ _ _ run
  · cases run

lemma close_clean {rendered : List ω} {output : ω}
    (run : close tag attributes children rendered parser = .ok (output, final))
    (clean : final.Clean) : parser.Clean := by
  simp only [close] at run
  split at run
  · split at run
    · split at run
      · cases run
        exact absurd clean (Parser.gap_not_clean _ _)
      cases run
      exact clean
    · cases run
      exact absurd clean (Parser.gap_not_clean _ _)
  · cases run
    exact (Parser.gapIf_clean clean).2
  · cases run
    exact (Parser.gapIf_clean clean).2
  · split at run
    · cases run
      exact clean
    cases run
  all_goals first
    | exact paragraph_clean run clean
    | (cases run; exact clean)

lemma closeTable_ok {result output : ω}
    (run : closeTable markup result parser = .ok (output, final)) :
    output = append result (plain (text "\n\n")) ∧
      (final.Clean → parser.Clean ∧ (markup.isSome → (toText result).length ≤ maxLayoutChars)) := by
  unfold closeTable at run
  split at run
  · cases run
  split at run
  · cases run
  cases run
  refine ⟨rfl, fun clean => ⟨(Parser.gapIf_clean clean).2, fun marked => ?_⟩⟩
  have small := (Parser.gapIf_clean clean).1
  rw [marked, Bool.true_and, decide_eq_false_iff_not, not_lt] at small
  exact small

lemma tableCell_ok {renderCell : Value → Parser → Except Fault (ω × Parser)} {cell : Value}
    {made : Option ω} (run : tableCell renderCell markup row cell parser = .ok (made, final)) :
    ∃ output entered, renderCell cell parser = .ok (output, entered) ∧
      (final.Clean → entered.Clean ∧ (made = none ∧ toText (Rendering.strip output) = [] ∨
          made = some (cellText markup row cell (Rendering.strip output)))) := by
  unfold tableCell at run
  split at run
  · cases run
  next output entered drawn =>
  refine ⟨output, entered, drawn, fun clean => ?_⟩
  simp only at run
  split at run
  · cases run
    obtain ⟨blank, kept⟩ := Parser.gapIf_clean clean
    rw [Bool.not_eq_false', List.isEmpty_iff] at blank
    exact ⟨kept, .inl ⟨rfl, blank⟩⟩
  · cases run
    exact ⟨clean, .inr rfl⟩

lemma tableRow_ok {renderCell : Value → Parser → Except Fault (ω × Parser)} {output : ω}
    (run : tableRow renderCell markup room row parser = .ok (output, final)) :
    ∃ entered cells, (entered.Clean → parser.Clean) ∧
      traverse (tableCell renderCell markup row) row.children entered = .ok (cells, final) ∧
      output = rowText markup cells.reduceOption := by
  unfold tableRow at run
  split at run
  · cases run
  next entered visited =>
  split at run
  · cases run
  next cells last drawn =>
  cases run
  refine ⟨entered, cells, fun clean => ?_, drawn, rfl⟩
  rw [Parser.Clean, ← (visit_ok visited).1]
  exact clean

lemma renderTable_ok {renderCell : Value → Parser → Except Fault (ω × Parser)} {output : ω}
    (run : renderTable renderCell markup room rows parser = .ok (output, final)) :
    ∃ drawn closed, traverse (tableRow renderCell markup room) rows parser = .ok (drawn, closed) ∧
      closeTable markup (tableText markup drawn) closed = .ok (output, final) := by
  unfold renderTable at run
  split at run
  · cases run
  next drawn closed inner => exact ⟨drawn, closed, inner, run⟩

lemma tableRow_clean {renderCell : Value → Parser → Except Fault (ω × Parser)}
    (cells : ∀ cell parser output final, renderCell cell parser = .ok (output, final) →
      final.Clean → parser.Clean)
    {output : ω} (run : tableRow renderCell markup room row parser = .ok (output, final))
    (clean : final.Clean) :
    parser.Clean := by
  obtain ⟨entered, _, kept, drawn, _⟩ := tableRow_ok run
  refine kept (traverse_reflects (fun cell _ state made next stepped last => ?_) drawn clean)
  obtain ⟨output, entered, rendered, passed⟩ := tableCell_ok stepped
  exact cells _ _ _ _ rendered (passed last).1

lemma renderTable_clean {renderCell : Value → Parser → Except Fault (ω × Parser)}
    (cells : ∀ cell parser output final, renderCell cell parser = .ok (output, final) →
      final.Clean → parser.Clean)
    {output : ω} (run : renderTable renderCell markup room rows parser = .ok (output, final))
    (clean : final.Clean) : parser.Clean := by
  obtain ⟨drawn, closed, inner, closing⟩ := renderTable_ok run
  exact traverse_reflects
    (fun row _ state made next stepped last => tableRow_clean cells stepped last)
    inner ((closeTable_ok closing).2 clean).1

lemma render_clean (room : Nat) : ∀ (value : Value) (validatedCell : Bool) (parser final : Parser)
    (output : ω), render room value validatedCell parser = .ok (output, final) → final.Clean →
      parser.Clean := by
  induction room using Nat.strong_induction_on with
  | h room ih =>
    intro value validatedCell parser final output run clean
    cases rendered run with
    | leaf kept => exact kept clean
    | unknown recorded => exact absurd clean recorded
    | @table room name attributes children markup _ entered _ _ _ _ kept inner =>
      refine kept (renderTable_clean (fun cell parser output final drawn => ?_) inner clean)
      cases room with
      | zero => cases drawn
      | succ deeper => exact ih deeper (by omega) cell true parser final output drawn
    | @element room name tag attributes children _ entered closed _ _ _ _ _ kept inner closing =>
      refine kept (traverse_reflects (fun child _ state made next stepped => ?_) inner
        (close_clean closing clean))
      exact ih room (by omega) child false state next made stepped

end Obsion.Jsonml
