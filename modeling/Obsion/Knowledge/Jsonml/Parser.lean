import Obsion.Knowledge.Jsonml.Layout
import Obsion.Knowledge.Jsonml.Rendering
import Obsion.Lib.Traverse

/-! # Body-only extraction from a complete JSONML document

`render` is the recursive renderer.  Its first argument is the number of levels
left, `MAX_DEPTH + 1 - depth`: an element with no level left is refused.  The parser
state is threaded through.  `json.loads` and SHA-256 are parameters: `loads` is
`none` where the decoder raises `ValueError` or `RecursionError`. -/

namespace Obsion.Jsonml

open Obsion.Lib (traverse)
open Rendering (plain append block toText join)

def maxJsonmlBytes : Nat := 8000000
def maxElements : Nat := 100000
def maxDepth : Nat := 64

inductive Fault
  | response (message : String)
  | typeError
  | unicodeEncodeError
  deriving DecidableEq, Repr

def structuralBudget : Fault := .response "The document JSONML exceeded its structural budget"

structure Parser where
  count : Nat
  gaps : List String
  lists : OrderedLists

def Parser.new : Parser := ⟨0, [], .new⟩

def Parser.gap (parser : Parser) (name : String) : Parser :=
  { parser with gaps := if name ∈ parser.gaps then parser.gaps else name :: parser.gaps }

def Parser.gapIf (parser : Parser) (condition : Bool) (name : String) : Parser :=
  if condition then parser.gap name else parser

inductive Tag
  | root
  | p
  | span
  | a
  | h1
  | h2
  | h3
  | h4
  | h5
  | h6
  | table
  | tr
  | tc
  | hr
  | br
  | container
  | code
  deriving DecidableEq, Repr

def known : List (String × Tag) :=
  [("root", .root), ("p", .p), ("span", .span), ("a", .a), ("h1", .h1), ("h2", .h2), ("h3", .h3),
    ("h4", .h4), ("h5", .h5), ("h6", .h6), ("table", .table), ("tr", .tr), ("tc", .tc),
    ("hr", .hr), ("br", .br), ("container", .container), ("code", .code)]

def Tag.of? (name : Text) : Option Tag :=
  (known.find? fun entry => text entry.1 == name).map Prod.snd

def visit (room : Nat) (parser : Parser) : Except Fault Parser :=
  if room = 0 ∨ maxElements < parser.count + 1 then .error structuralBudget
  else .ok { parser with count := parser.count + 1 }

/-- `value in {"text", "leaf"}`: the test hashes the value. -/
def isTextType : Value → Except Fault Bool
  | .arr _ => .error .typeError
  | .obj _ => .error .typeError
  | value => .ok (value.isText "text" || value.isText "leaf")

/-- The gaps an element records before its children are rendered. -/
def checkSpan (tag : Tag) (attributes : Attributes) (parser : Parser) : Except Fault Parser :=
  if tag = .span then
    match isTextType (attributeOr attributes "data-type" (.str (text "text"))) with
    | .error fault => .error fault
    | .ok isText => .ok (parser.gapIf (!isText) "non_text_span")
  else .ok parser

def checkContainer (tag : Tag) (attributes : Attributes) (parser : Parser) : Parser :=
  parser.gapIf
    (tag == .container && !(attributeOr attributes "subType" .null).isText "colorBlocks")
    "unsupported_container"

def tableMarkup (attributes : Attributes) (markup : Bool) : Option Markup :=
  if (attributeOr attributes "sr" (.bool false)).isTrue ∧ ¬ markup then some .columns
  else if markup then some .table
  else none

def checkColumns (attributes : Attributes) (rows : List Value) (geometry : Option Bool)
    (parser : Parser) : Parser :=
  let columns := attributeOr attributes "sr" (.bool false)
  parser.gapIf
    (!columns.isFalse && !(columns.isTrue && geometry == some false && rows.length == 1))
    "unsupported_column_layout"

def checkCell (tag : Tag) (attributes : Attributes) (validatedCell : Bool) (parser : Parser) :
    Parser :=
  if tag = .tc ∧ ¬ validatedCell then
    (parser.gapIf (!(attributeOr attributes "hidden" (.bool false)).isFalse)
      "hidden_table_cell").gapIf
        (!(attributeOr attributes "colSpan" (.int 1)).isOne ||
          !(attributeOr attributes "rowSpan" (.int 1)).isOne) "merged_table_cell"
  else parser

section

variable {ω : Type} [Rendering ω]

def cellText (markup : Option Markup) (row cell : Value) (output : ω) : ω :=
  match markup with
  | some .columns =>
    append (plain (text "<div class=\"column\">"))
      (append (Rendering.escape output) (plain (text "</div>")))
  | some .table =>
    let tag := if (attributeOr row.attributes "isTblHeader" .null).isTrue then text "th" else text "td"
    let span (key : String) (name : String) : Text :=
      match attributeOr cell.attributes key (.int 1) with
      | .int count => if 1 < count then text (" " ++ name ++ "=\"") ++ decimal count ++ text "\"" else []
      | _ => []
    append (plain (text "<" ++ tag ++ span "rowSpan" "rowspan" ++ span "colSpan" "colspan" ++ text ">"))
      (append (Rendering.escape output) (plain (text "</" ++ tag ++ text ">")))
  | none => output

def tableCell (renderCell : Value → Parser → Except Fault (ω × Parser)) (markup : Option Markup)
    (row cell : Value) (parser : Parser) : Except Fault (Option ω × Parser) :=
  match renderCell cell parser with
  | .error fault => .error fault
  | .ok (output, parser) =>
    let stripped := Rendering.strip output
    if (attributeOr cell.attributes "hidden" .null).isTrue then
      .ok (none, parser.gapIf (!(toText stripped).isEmpty) "hidden_table_cell")
    else .ok (some (cellText markup row cell stripped), parser)

def rowText (markup : Option Markup) (cells : List ω) : ω :=
  match markup with
  | some .columns => join (text "\n") cells
  | some .table => append (plain (text "<tr>")) (append (join [] cells) (plain (text "</tr>")))
  | none => join (text " | ") cells

def tableRow (renderCell : Value → Parser → Except Fault (ω × Parser)) (markup : Option Markup)
    (room : Nat) (row : Value) (parser : Parser) : Except Fault (ω × Parser) :=
  match visit room parser with
  | .error fault => .error fault
  | .ok parser =>
    match traverse (tableCell renderCell markup row) row.children parser with
    | .error fault => .error fault
    | .ok (cells, parser) => .ok (rowText markup cells.reduceOption, parser)

def tableText (markup : Option Markup) (rows : List ω) : ω :=
  match markup with
  | some markup => block markup (join (text "\n") rows)
  | none => join (text "\n") rows

/-- `_table` after its rows. -/
def closeTable (markup : Option Markup) (result : ω) (parser : Parser) :
    Except Fault (ω × Parser) :=
  if ¬ encodable (toText result) then .error .unicodeEncodeError
  else if maxJsonmlBytes < encodedLength (toText result) then
    .error (.response "The document table exceeded its rendering budget")
  else
    .ok (append result (plain (text "\n\n")),
      parser.gapIf (markup.isSome && decide (maxLayoutChars < (toText result).length))
        "oversized_layout_evidence")

def renderTable (renderCell : Value → Parser → Except Fault (ω × Parser)) (markup : Option Markup)
    (room : Nat) (rows : List Value) (parser : Parser) : Except Fault (ω × Parser) :=
  match traverse (tableRow renderCell markup room) rows parser with
  | .error fault => .error fault
  | .ok (rows, parser) => closeTable markup (tableText markup rows) parser

/-- A paragraph or heading with its quote marks and its list label. -/
def paragraph (attributes : Attributes) (output : ω) (parser : Parser) : Except Fault (ω × Parser) :=
  let output :=
    if (attributeOr attributes "blockquote" .null).isTrue then Rendering.quoteLines output else output
  let closed (label : Text) (parser : Parser) : Except Fault (ω × Parser) :=
    .ok (append (plain label) (append output (plain (text "\n\n"))), parser)
  match attribute? attributes "list" with
  | none => closed [] parser
  | some listing =>
    if ¬ listing.truthy then closed [] parser
    else
      match listing with
      | .obj listing =>
        let unordered (parser : Parser) : Except Fault (ω × Parser) :=
          if (attributeOr listing "isTaskList" .null).isTrue then
            let checked := attributeOr listing "isChecked" .null
            closed (if checked.isTrue then text "[x] " else text "[ ] ")
              (parser.gapIf (!checked.isBool) "unknown_task_state")
          else closed (text "- ") parser
        if (attributeOr listing "isOrdered" .null).isTrue then
          match parser.lists.label listing with
          | (some label, lists) => closed label { parser with lists := lists }
          | (none, lists) =>
            unordered ({ parser with lists := lists }.gap "ordered_list_labels")
        else unordered parser
      | _ => .error (.response "The document list structure was invalid")

def isCell : Value → Bool
  | .arr (name :: _) => name.isText "tc"
  | _ => false

def close (tag : Tag) (attributes : Attributes) (children : List Value) (rendered : List ω)
    (parser : Parser) : Except Fault (ω × Parser) :=
  let output := join [] rendered
  match tag with
  | .code =>
    match attribute? attributes "code" with
    | some (.str code) =>
      if toText output ≠ [] ∧ toText output ≠ code then
        .ok (plain [], parser.gap "unsupported_code")
      else .ok (plain (code ++ text "\n\n"), parser)
    | _ => .ok (plain [], parser.gap "unsupported_code")
  | .br | .hr =>
    .ok (plain (text "\n"),
      parser.gapIf (rendered.any fun child => !(toText (Rendering.strip child)).isEmpty)
        "unexpected_leaf_content")
  | .tr =>
    if children.all isCell then
      .ok (append (join (text " | ") (rendered.map Rendering.strip)) (plain (text "\n")), parser)
    else .error (.response "The document table row was invalid")
  | .p | .h1 | .h2 | .h3 | .h4 | .h5 | .h6 => paragraph attributes output parser
  | .table | .container => .ok (append output (plain (text "\n\n")), parser)
  | .root | .span | .a | .tc => .ok (output, parser)

def render : Nat → Value → Bool → Parser → Except Fault (ω × Parser)
  | 0, _, _, _ => .error structuralBudget
  | room + 1, value, validatedCell, parser =>
    match visit (room + 1) parser with
    | .error fault => .error fault
    | .ok parser =>
      match value with
      | .str leaf => .ok (plain leaf, parser)
      | .arr (.str name :: .obj attributes :: children) =>
        match Tag.of? name with
        | none => .ok (plain [], parser.gap "unsupported_element")
        | some tag =>
          match checkSpan tag attributes parser with
          | .error fault => .error fault
          | .ok parser =>
            let parser := checkContainer tag attributes parser
            let elements (parser : Parser) : Except Fault (ω × Parser) :=
              match traverse (fun child => render room child false) children
                (checkCell tag attributes validatedCell parser) with
              | .error fault => .error fault
              | .ok (rendered, parser) => close tag attributes children rendered parser
            if tag = .table then
              let geometry := tableGeometry children
              let parser := checkColumns attributes children geometry parser
              match geometry with
              | some markup =>
                match room with
                | 0 =>
                  renderTable (fun _ _ => .error structuralBudget)
                    (tableMarkup attributes markup) 0 children parser
                | deeper + 1 =>
                  renderTable (fun cell => render deeper cell true)
                    (tableMarkup attributes markup) (deeper + 1) children parser
              | none => elements (parser.gap "invalid_table_geometry")
            else elements parser
      | _ => .error (.response "The document JSONML contained an invalid element")

end

structure JsonmlBody where
  text : Text
  revision : Text
  title : Text
  rawChecksum : Text
  gaps : List String

def JsonmlBody.complete (body : JsonmlBody) : Bool := body.gaps.isEmpty

def Value.names (value : Value) (nodeId : Text) : Bool :=
  match value with
  | .str found => found == nodeId
  | _ => false

def verifyEnvelope (payload : Attributes) (nodeId : Text) : Except Fault Attributes :=
  let unverified : Fault := .response "The complete document envelope could not be verified"
  match attribute? payload "target", attribute? payload "content" with
  | some (.obj target), some (.obj content) =>
    if ¬ (attributeOr payload "complete" .null).isTrue ∨
        ¬ (attributeOr payload "status" .null).isText "success" ∨
        ¬ (attributeOr payload "contractVersion" .null).isText "doc.content.v1" ∨
        ¬ (attributeOr target "canonicalId" .null).names nodeId ∨
        ¬ (attributeOr target "product" .null).isText "doc" ∨
        ¬ (attributeOr content "success" .null).isTrue ∨
        ¬ (attributeOr content "nodeId" .null).names nodeId then .error unverified
    else .ok content
  | _, _ => .error unverified

/-- The JSONML text, the revision and the title of the content. -/
def readContent (content : Attributes) : Except Fault (Text × Text × Text) :=
  let invalid : Fault := .response "The document body or version was invalid"
  match attribute? content "jsonml" with
  | some (.str raw) =>
    if ¬ encodable raw then .error .unicodeEncodeError
    else if maxJsonmlBytes < encodedLength raw then .error invalid
    else
      match attribute? content "revision", attribute? content "title" with
      | some (.str revision), some (.str title) =>
        if strip revision = [] ∨ strip title = [] ∨ 500 < title.length then .error invalid
        else .ok (raw, revision, title)
      | _, _ => .error invalid
  | _ => .error invalid

def isRoot : Value → Bool
  | .arr (name :: _) => name.isText "root"
  | _ => false

def decode (loads : Text → Option Value) (raw : Text) : Except Fault Value :=
  match loads raw with
  | none => .error (.response "The document JSONML could not be decoded")
  | some tree =>
    if isRoot tree then .ok tree else .error (.response "The document JSONML root was invalid")

def renderTree {ω : Type} [Rendering ω] (tree : Value) : Except Fault (ω × List String) :=
  match render (maxDepth + 1) tree false .new with
  | .error fault => .error fault
  | .ok (output, parser) => .ok (Rendering.strip output, parser.gaps)

def extractFullDocument (loads : Text → Option Value) (sha256 : Text → Text) (payload : Attributes)
    (nodeId : Text) : Except Fault JsonmlBody :=
  match verifyEnvelope payload nodeId with
  | .error fault => .error fault
  | .ok content =>
    match readContent content with
    | .error fault => .error fault
    | .ok (raw, revision, title) =>
      match decode loads raw with
      | .error fault => .error fault
      | .ok tree =>
        match (renderTree tree : Except Fault (Text × List String)) with
        | .error fault => .error fault
        | .ok (body, gaps) =>
          if ¬ encodable body then .error .unicodeEncodeError
          else if maxJsonmlBytes < encodedLength body then
            .error (.response "The document exceeded its rendering budget")
          else .ok ⟨body, revision, title, sha256 raw, gaps.insertionSort (· ≤ ·)⟩

end Obsion.Jsonml
