import Obsion.Knowledge.Jsonml.Complete

/-! # How an extraction can fail

The renderer goes through a tree in document order and stops at the first refusal.
`Reached` are the elements it comes to.  Every refusal of an element is a response
error except at a `Defect`: a span whose `data-type` cannot be hashed, or a finished
table whose text holds a lone surrogate. -/

namespace Obsion.Jsonml

open Obsion.Lib

def Fault.isResponse : Fault → Bool
  | .response _ => true
  | _ => false

def Value.hashable : Value → Bool
  | .arr _ => false
  | .obj _ => false
  | _ => true

/-- The elements the rendering of a tree comes to, with what is left of the depth and
the parser each of them finds. -/
inductive Reached (tree : Value) : Nat → Value → Bool → Parser → Prop
  | root : Reached tree (maxDepth + 1) tree false .new
  | child {room : Nat} {name : Text} {tag : Tag} {attributes : Attributes}
      {before after : List Value} {child : Value} {validatedCell : Bool}
      {parser entered reached : Parser} {made : List Text}
      (parent : Reached tree (room + 1)
        (.arr (.str name :: .obj attributes :: (before ++ child :: after))) validatedCell parser)
      (opened : enter room name attributes (before ++ child :: after) validatedCell parser =
        .ok (.children tag entered))
      (earlier : traverse (fun child => render room child false) before entered = .ok (made, reached)) :
      Reached tree room child false reached
  | cell {room : Nat} {name : Text} {attributes : Attributes} {before after front back : List Value}
      {row cell : Value} {validatedCell : Bool} {markup : Option Markup}
      {parser entered between started reached : Parser} {drawn : List Text}
      {made : List (Option Text)}
      (parent : Reached tree (room + 2)
        (.arr (.str name :: .obj attributes :: (before ++ row :: after))) validatedCell parser)
      (opened : enter (room + 1) name attributes (before ++ row :: after) validatedCell parser =
        .ok (.rows markup entered))
      (above : traverse (tableRow (renderCell (room + 1)) markup (room + 1)) before entered =
        .ok (drawn, between))
      (visited : visit (room + 1) between = .ok started)
      (split : row.children = front ++ cell :: back)
      (earlier : traverse (tableCell (renderCell (room + 1)) markup row) front started =
        .ok (made, reached)) :
      Reached tree room cell true reached

/-- The elements at which the renderer raises something else. -/
inductive Defect : Nat → Value → Bool → Parser → Prop
  | span {room : Nat} {name : Text} {attributes : Attributes} {children : List Value} {kind : Value}
      {validatedCell : Bool} {parser seen : Parser} (visited : visit (room + 1) parser = .ok seen)
      (tagged : Tag.of? name = some .span) (typed : attribute? attributes "data-type" = some kind)
      (unhashable : kind.hashable = false) :
      Defect (room + 1) (.arr (.str name :: .obj attributes :: children)) validatedCell parser
  | table {room : Nat} {name : Text} {attributes : Attributes} {rows : List Value}
      {validatedCell : Bool} {markup : Option Markup} {parser entered closed : Parser}
      {drawn : List Text}
      (opened : enter room name attributes rows validatedCell parser = .ok (.rows markup entered))
      (finished : traverse (tableRow (renderCell room) markup room) rows entered = .ok (drawn, closed))
      (surrogate : encodable (tableText markup drawn) = false) :
      Defect (room + 1) (.arr (.str name :: .obj attributes :: rows)) validatedCell parser

/-! ## A defect raises something else -/

variable {room : Nat} {parser : Parser} {fault : Fault} {value tree : Value}
  {attributes : Attributes} {validatedCell : Bool} {markup : Option Markup}

lemma visit_error (run : visit room parser = .error fault) : fault.isResponse = true := by
  unfold visit at run
  split at run
  · cases run
    rfl
  cases run

lemma isTextType_error_iff :
    isTextType value = .error fault ↔ value.hashable = false ∧ fault = .typeError := by
  cases value <;> simp [isTextType, Value.hashable, eq_comm]

variable {tag : Tag} {children : List Value}
  {renderCell : Value → Parser → Except Fault (Text × Parser)} {row : Value}
  {loads : Text → Option Value} {payload : Attributes} {nodeId : Text}

lemma checkSpan_error_iff : checkSpan tag attributes parser = .error fault ↔
      tag = .span ∧ fault = .typeError ∧
        ∃ kind, attribute? attributes "data-type" = some kind ∧ kind.hashable = false := by
  unfold checkSpan
  by_cases isSpan : tag = .span
  · rw [if_pos isSpan]
    cases tested : isTextType (attributeOr attributes "data-type" (.str (text "text"))) with
    | error raised =>
      obtain ⟨unhashable, rfl⟩ := isTextType_error_iff.1 tested
      rw [attributeOr] at unhashable
      cases typed : attribute? attributes "data-type" with
      | none =>
        rw [typed] at unhashable
        cases unhashable
      | some kind =>
        rw [typed, Option.getD_some] at unhashable
        constructor
        · intro run
          cases run
          exact ⟨isSpan, rfl, kind, rfl, unhashable⟩
        · rintro ⟨_, rfl, _⟩
          rfl
    | ok isText =>
      constructor
      · intro run
        cases run
      rintro ⟨_, _, kind, typed, unhashable⟩
      rw [attributeOr, typed, Option.getD_some] at tested
      have raised := isTextType_error_iff.2 ⟨unhashable, rfl⟩
      rw [tested] at raised
      cases raised
  · rw [if_neg isSpan]
    constructor
    · intro run
      cases run
    rintro ⟨isTag, _⟩
    exact absurd isTag isSpan

lemma enter_error {name : Text}
    (run : enter room name attributes children validatedCell parser = .error fault) :
    fault.isResponse = true ∨
      Defect (room + 1) (.arr (.str name :: .obj attributes :: children)) validatedCell parser := by
  unfold enter at run
  split at run
  · next visited =>
    cases run
    exact .inl (visit_error visited)
  · next seen visited =>
    split at run
    · cases run
    next tag tagged =>
    split at run
    · next refused =>
      obtain ⟨rfl, _, kind, typed, unhashable⟩ := checkSpan_error_iff.1 refused
      exact .inr (.span visited tagged typed unhashable)
    · simp only at run
      split at run
      · split at run <;> cases run
      cases run

lemma closeTable_error {result : Text} (run : closeTable markup result parser = .error fault) :
    fault.isResponse = true ∨ encodable result = false := by
  unfold closeTable at run
  split at run
  · next surrogate => exact .inr (Bool.eq_false_iff.2 surrogate)
  split at run
  · cases run
    exact .inl rfl
  cases run

lemma paragraph_error {output : Text} (run : paragraph attributes output parser = .error fault) :
    fault.isResponse = true := by
  simp only [paragraph] at run
  split at run
  · cases run
  split at run
  · cases run
  split at run
  · split at run
    · split at run
      · cases run
      split at run <;> cases run
    · split at run <;> cases run
  · cases run
    rfl

lemma close_error {rendered : List Text}
    (run : close tag attributes children rendered parser = .error fault) :
    fault.isResponse = true := by
  simp only [close] at run
  split at run
  · split at run
    · split at run <;> cases run
    cases run
  · cases run
  · cases run
  · split at run
    · cases run
    cases run
    rfl
  all_goals first
    | exact paragraph_error run
    | cases run

lemma Defect.raises (defect : Defect room value validatedCell parser) :
    ∃ fault, (render room value validatedCell parser : Except Fault (Text × Parser)) =
      .error fault ∧ fault.isResponse = false := by
  cases defect with
  | @span room name attributes children kind _ _ seen visited tagged typed unhashable =>
    have refused : checkSpan .span attributes seen = .error .typeError :=
      checkSpan_error_iff.2 ⟨rfl, rfl, kind, typed, unhashable⟩
    refine ⟨.typeError, ?_, rfl⟩
    simp only [render_element, enter, visited, tagged, refused]
  | @table room name attributes rows _ markup _ entered closed drawn opened finished surrogate =>
    have unencoded : ¬ encodable (Rendering.toText (tableText markup drawn)) = true :=
      Bool.eq_false_iff.1 surrogate
    refine ⟨.unicodeEncodeError, ?_, rfl⟩
    simp only [render_element, opened, renderTable, finished]
    rw [closeTable, if_pos unencoded]

lemma Reached.fails (reached : Reached tree room value validatedCell parser)
    (run : (render room value validatedCell parser : Except Fault (Text × Parser)) = .error fault) :
    (render (maxDepth + 1) tree false .new : Except Fault (Text × Parser)) = .error fault := by
  induction reached with
  | root => exact run
  | @child room name tag attributes before after child _ _ entered reached made _ opened earlier ih =>
    have stopped : traverse (fun child => render room child false) (before ++ child :: after)
        entered = .error fault :=
      traverse_eq_error_iff.2 ⟨before, child, after, made, reached, rfl, earlier, run⟩
    refine ih ?_
    rw [render_element, opened]
    dsimp only
    rw [stopped]
  | @cell room name attributes before after front back row cell _ markup _ entered between started
      reached drawn made _ opened above visited split earlier ih =>
      have stuck : (tableCell (renderCell (room + 1)) markup row cell reached :
          Except Fault (Option Text × Parser)) = .error fault := by
        have drawnCell : (renderCell (room + 1) cell reached : Except Fault (Text × Parser)) =
          .error fault := run
        simp only [tableCell, drawnCell]
      have stoppedRow : tableRow (renderCell (room + 1)) markup (room + 1) row between =
          (.error fault : Except Fault (Text × Parser)) := by
        have inRow := traverse_eq_error_iff.2
          ⟨front, cell, back, made, reached, split, earlier, stuck⟩
        simp only [tableRow, visited, inRow]
      have stopped := traverse_eq_error_iff.2
        ⟨before, row, after, drawn, between, rfl, above, stoppedRow⟩
      refine ih ?_
      rw [render_element, opened]
      simp only [renderTable, stopped]

lemma tableCell_error {cell : Value}
    (run : tableCell renderCell markup row cell parser = .error fault) :
    renderCell cell parser = .error fault := by
  unfold tableCell at run
  split at run
  · next drawn =>
    cases run
    exact drawn
  · simp only at run
    split at run <;> cases run

lemma tableRow_error (run : tableRow renderCell markup room row parser = .error fault) :
    fault.isResponse = true ∨ ∃ started, visit room parser = .ok started ∧
        traverse (tableCell renderCell markup row) row.children started = .error fault := by
  unfold tableRow at run
  split at run
  · next visited =>
    cases run
    exact .inl (visit_error visited)
  · next started visited =>
    split at run
    · next stopped =>
      cases run
      exact .inr ⟨started, visited, stopped⟩
    · cases run

lemma exists_defect (room : Nat) : ∀ (value : Value) (validatedCell : Bool)
    (parser : Parser) (fault : Fault), Reached tree room value validatedCell parser →
      (render room value validatedCell parser : Except Fault (Text × Parser)) = .error fault →
      fault.isResponse = false → ∃ room value validatedCell parser,
        Reached tree room value validatedCell parser ∧ Defect room value validatedCell parser := by
  induction room using Nat.strong_induction_on with
  | h room ih =>
    intro value validatedCell parser fault reached run other
    have notResponse : ¬ fault.isResponse = true := Bool.eq_false_iff.1 other
    cases room with
    | zero =>
      cases run
      cases other
    | succ room =>
      match value with
      | .str leaf =>
        rw [render] at run
        split at run
        · next visited =>
          cases run
          exact absurd (visit_error visited) notResponse
        · cases run
      | .arr (.str name :: .obj attributes :: children) =>
        rw [render_element] at run
        split at run
        · next refused =>
          cases run
          rcases enter_error refused with response | defect
          · exact absurd response notResponse
          exact ⟨_, _, _, _, reached, defect⟩
        · cases run
        · next tag entered opened =>
          split at run
          · next stopped =>
            cases run
            obtain ⟨before, child, after, made, found, rfl, earlier, stuck⟩ :=
              traverse_eq_error_iff.1 stopped
            exact ih room (by omega) child false found fault
              (.child reached opened earlier) stuck other
          · exact absurd (close_error run) notResponse
        · next markup entered opened =>
          unfold renderTable at run
          split at run
          · next stopped =>
            cases run
            obtain ⟨before, row, after, drawn, between, rfl, above, stoppedRow⟩ :=
              traverse_eq_error_iff.1 stopped
            rcases tableRow_error stoppedRow with response | ⟨started, visited, inRow⟩
            · exact absurd response notResponse
            obtain ⟨front, cell, back, made, found, split, earlier, stuck⟩ :=
              traverse_eq_error_iff.1 inRow
            have raised := tableCell_error stuck
            cases room with
            | zero =>
              cases raised
              cases other
            | succ deeper =>
              exact ih deeper (by omega) cell true found fault
                (.cell reached opened above visited split earlier) raised other
          · next drawn closed finished =>
            rcases closeTable_error run with response | surrogate
            · exact absurd response notResponse
            exact ⟨_, _, _, _, reached, .table opened finished surrogate⟩
      | .null | .bool _ | .int _ | .float _ | .obj _ | .arr [] | .arr [.str _]
      | .arr (.null :: _) | .arr (.bool _ :: _) | .arr (.int _ :: _) | .arr (.float _ :: _)
      | .arr (.arr _ :: _) | .arr (.obj _ :: _)
      | .arr (.str _ :: .null :: _) | .arr (.str _ :: .bool _ :: _)
      | .arr (.str _ :: .int _ :: _) | .arr (.str _ :: .float _ :: _)
      | .arr (.str _ :: .str _ :: _) | .arr (.str _ :: .arr _ :: _) =>
        rw [render] at run
        split at run
        · next visited =>
          cases run
          exact absurd (visit_error visited) notResponse
        · cases run
          cases other

lemma renderTree_other_iff (tree : Value) :
    (∃ fault, (renderTree tree : Except Fault (Text × List String)) = .error fault ∧
      fault.isResponse = false) ↔ ∃ room value validatedCell parser,
        Reached tree room value validatedCell parser ∧ Defect room value validatedCell parser := by
  constructor
  · rintro ⟨fault, run, other⟩
    unfold renderTree at run
    split at run
    · next refused =>
      cases run
      exact exists_defect (maxDepth + 1) tree false .new fault .root refused other
    · cases run
  · rintro ⟨room, value, validatedCell, parser, reached, defect⟩
    obtain ⟨fault, raised, other⟩ := defect.raises
    refine ⟨fault, ?_, other⟩
    rw [renderTree, reached.fails raised]

/-! ## Extraction -/

def Decodes (loads : Text → Option Value) (payload : Attributes) (nodeId : Text) (tree : Value) : Prop :=
  ∃ content raw revision title, verifyEnvelope payload nodeId = .ok content ∧
    readContent content = .ok (raw, revision, title) ∧ decode loads raw = .ok tree

/-- An extraction ends with a body or a response error, and a complete body keeps every
text leaf of the document. -/
structure Lossless (loads : Text → Option Value) (sha256 : Text → Text) (payload : Attributes)
    (nodeId : Text) : Prop where
  refuses : ∀ fault, extractFullDocument loads sha256 payload nodeId = .error fault →
    fault.isResponse = true
  keeps : ∀ body, extractFullDocument loads sha256 payload nodeId = .ok body → body.complete = true →
    ∀ tree, Decodes loads payload nodeId tree →
      (squeeze tree.leaves.flatten).Sublist (squeeze body.text)

/-- The document has nothing the renderer cannot hash or encode. -/
structure Extractable (loads : Text → Option Value) (payload : Attributes) (nodeId : Text) : Prop where
  raw : ∀ content raw, verifyEnvelope payload nodeId = .ok content →
    attribute? content "jsonml" = some (.str raw) → encodable raw = true
  tree : ∀ tree, Decodes loads payload nodeId tree → ∀ room value validatedCell parser,
    Reached tree room value validatedCell parser → ¬ Defect room value validatedCell parser
  body : ∀ tree, Decodes loads payload nodeId tree → ∀ body gaps,
    (renderTree tree : Except Fault (Text × List String)) = .ok (body, gaps) → encodable body = true

lemma insertionSort_isEmpty {gaps : List String}
    (empty : (gaps.insertionSort (· ≤ ·)).isEmpty = true) : gaps = [] := by
  rw [List.isEmpty_iff] at empty
  have perm := List.perm_insertionSort (· ≤ ·) gaps
  rw [empty] at perm
  exact perm.nil_eq.symm

lemma complete_keeps {sha256 : Text → Text} {body : JsonmlBody}
    (run : extractFullDocument loads sha256 payload nodeId = .ok body)
    (complete : body.complete = true) (decoded : Decodes loads payload nodeId tree) :
    (squeeze tree.leaves.flatten).Sublist (squeeze body.text) := by
  obtain ⟨content, raw, revision, title, verified, read, decoded⟩ := decoded
  simp only [extractFullDocument, verified, read, decoded, renderTree] at run
  split at run
  · cases run
  next shown gaps drawn =>
  split at drawn
  · cases drawn
  next output final rendered =>
  cases drawn
  split at run
  · cases run
  split at run
  · cases run
  cases run
  have clean : final.Clean := insertionSort_isEmpty complete
  have kept := render_content (maxDepth + 1) tree false .new final output rendered clean
  change (squeeze tree.leaves.flatten).Sublist (squeeze (strip output))
  rwa [squeeze_strip]

lemma verifyEnvelope_error (run : verifyEnvelope payload nodeId = .error fault) :
    fault.isResponse = true := by
  unfold verifyEnvelope at run
  split at run
  · simp only at run
    split at run
    · cases run
      rfl
    cases run
  · cases run
    rfl

lemma readContent_error {content : Attributes} (run : readContent content = .error fault) :
    fault.isResponse = true ∨
      ∃ raw, attribute? content "jsonml" = some (.str raw) ∧ encodable raw = false := by
  simp only [readContent] at run
  split at run
  · next raw found =>
    split at run
    · next surrogate => exact .inr ⟨raw, found, Bool.eq_false_iff.2 surrogate⟩
    split at run
    · cases run
      exact .inl rfl
    split at run
    · split at run
      · cases run
        exact .inl rfl
      cases run
    · cases run
      exact .inl rfl
  · cases run
    exact .inl rfl

lemma decode_error {raw : Text} (run : decode loads raw = .error fault) : fault.isResponse = true := by
  unfold decode at run
  split at run
  · cases run
    rfl
  split at run
  · cases run
  cases run
  rfl

def listTypedText : Text :=
  text "[\"root\",\x7b\x7d,[\"span\",\x7b\"data-type\":[]\x7d,\"x\"]]"

def listTypedTree : Value :=
  .arr [.str (text "root"), .obj [],
    .arr [.str (text "span"), .obj [(text "data-type", .arr [])], .str (text "x")]]

def listTypedLoads (raw : Text) : Option Value :=
  if raw = listTypedText then some listTypedTree else none

def listTypedPayload : Attributes :=
  [(text "complete", .bool true), (text "status", .str (text "success")),
    (text "contractVersion", .str (text "doc.content.v1")),
    (text "target", .obj [(text "canonicalId", .str (text "doc_one1")),
      (text "product", .str (text "doc"))]),
    (text "content", .obj [(text "success", .bool true), (text "nodeId", .str (text "doc_one1")),
      (text "revision", .str (text "17")), (text "title", .str (text "Synthetic layout")),
      (text "jsonml", .str listTypedText)])]

end Obsion.Jsonml
