import Obsion.ModelGateway.History

/-! # What a provider conversation says

Both conversations are read as segments of items; an item carries the key by which its
provider knows a call: the id for Anthropic, the name for Gemini.  `recover` reads from
the segments which call each result answers. -/

namespace Obsion.ModelGateway

inductive Entry
  | text (speaker : Speaker) (content : String)
  | call (name : String) (arguments : Fields)
  | result (content : String)

def Turn.entries : Turn → List Entry
  | .system _ => []
  | .say speaker content => [.text speaker content]
  | .calls texts made =>
    texts.map (.text .assistant) ++ made.map fun call => .call call.name call.arguments
  | .result _ content => [.result content]

/-! ## Segments -/

inductive Item
  | text (content : String)
  | call (key name : String) (arguments : Fields)
  | answer (key content : String)

structure Segment where
  speaker : Speaker
  items : List Item

def Item.entry (speaker : Speaker) : Item → Entry
  | .text content => .text speaker content
  | .call _ name arguments => .call name arguments
  | .answer _ content => .result content

def Segment.entries (segment : Segment) : List Entry := segment.items.map (Item.entry segment.speaker)

def Item.key? : Item → Option String
  | .call key _ _ => some key
  | _ => none

def Segment.keys (segment : Segment) : List String := segment.items.filterMap Item.key?

def callKeys (segments : List Segment) : List (List String) :=
  (segments.map Segment.keys).filter fun keys => !keys.isEmpty

/-- The calls so far, those of the last turn by their keys, and the call of each result. -/
structure Matching where
  offset : Nat
  keys : List String
  found : List Nat

def Matching.next (matching : Matching) : Matching :=
  ⟨matching.offset + matching.keys.length, [], matching.found⟩

def Matching.item (matching : Matching) : Item → Matching
  | .text _ => matching
  | .call key _ _ => { matching with keys := matching.keys ++ [key] }
  | .answer key _ =>
    { matching with found := matching.found ++ [matching.offset + matching.keys.idxOf key] }

def Matching.segment (matching : Matching) (segment : Segment) : Matching :=
  segment.items.foldl Matching.item
    (if segment.speaker = .assistant then matching.next else matching)

def matched (segments : List Segment) : Matching := segments.foldl Matching.segment ⟨0, [], []⟩

def recover (segments : List Segment) : List Nat := (matched segments).found

/-- A result joins the last segment or begins a new one. -/
inductive Pushed (item : Item) : List Segment → List Segment → Prop
  | fresh (segments : List Segment) : Pushed item segments (segments ++ [⟨.user, [item]⟩])
  | joined (segments : List Segment) (speaker : Speaker) (items : List Item) :
      Pushed item (segments ++ [⟨speaker, items⟩]) (segments ++ [⟨speaker, items ++ [item]⟩])

lemma Pushed.cons {item : Item} {segments segments' : List Segment} (first : Segment)
    (pushed : Pushed item segments segments') :
    Pushed item (first :: segments) (first :: segments') := by
  cases pushed with
  | fresh => exact .fresh (first :: segments)
  | joined segments speaker items => exact .joined (first :: segments) speaker items

section
variable {segments segments' : List Segment} {key content : String}

section
variable (pushed : Pushed (.answer key content) segments segments')
include pushed

lemma Pushed.entries :
    segments'.flatMap Segment.entries = segments.flatMap Segment.entries ++ [.result content] := by
  cases pushed with
  | fresh => rw [List.flatMap_append]; rfl
  | joined segments speaker items =>
    simp only [List.flatMap_append, List.flatMap_singleton, Segment.entries, List.map_append,
      List.append_assoc]
    rfl

lemma Pushed.matched :
    matched segments' = (matched segments).item (.answer key content) := by
  cases pushed with
  | fresh =>
    rw [ModelGateway.matched, List.foldl_append]
    rfl
  | joined segments speaker items =>
    rw [ModelGateway.matched, ModelGateway.matched, List.foldl_append, List.foldl_append]
    simp only [List.foldl_cons, List.foldl_nil, Matching.segment, List.foldl_append]

lemma Pushed.callKeys :
    callKeys segments' = callKeys segments := by
  cases pushed with
  | fresh =>
    rw [ModelGateway.callKeys, List.map_append, List.filter_append]
    exact List.append_nil _
  | joined segments speaker items =>
    have eq : Segment.keys ⟨speaker, items ++ [.answer key content]⟩
        = Segment.keys ⟨speaker, items⟩ := by
      rw [Segment.keys, List.filterMap_append]
      exact List.append_nil _
    simp only [ModelGateway.callKeys, List.map_append, List.map_cons, List.map_nil, eq]

end

lemma matched_append (segment : Segment) :
    matched (segments ++ [segment]) = (matched segments).segment segment := by
  rw [matched, List.foldl_append]
  rfl

lemma callKeys_append (segment : Segment) : callKeys (segments ++ [segment])
      = callKeys segments ++ (if segment.keys = [] then [] else [segment.keys]) := by
  rw [callKeys, List.map_append, List.filter_append, ← callKeys]
  cases keys : segment.keys with
  | nil | cons => simp [keys]

def callItems (keyOf : ModelToolCall → String) (texts : List String) (calls : List ModelToolCall) :
    List Item :=
  texts.map .text ++ calls.map fun call => .call (keyOf call) call.name call.arguments

lemma keys_callItems (keyOf : ModelToolCall → String) (texts : List String)
    (calls : List ModelToolCall) :
    Segment.keys ⟨.assistant, callItems keyOf texts calls⟩ = calls.map keyOf := by
  have quiet : (texts.map Item.text).filterMap Item.key? = [] := by
    rw [List.filterMap_map]
    exact List.filterMap_eq_nil_iff.2 fun _ _ => rfl
  rw [Segment.keys, callItems, List.filterMap_append, quiet, List.nil_append, List.filterMap_map,
    ← List.filterMap_eq_map]
  rfl

lemma entries_callItems (keyOf : ModelToolCall → String) (texts : List String)
    (calls : List ModelToolCall) : Segment.entries ⟨.assistant, callItems keyOf texts calls⟩
      = (Turn.calls texts calls).entries := by
  simp only [Segment.entries, callItems, Turn.entries, List.map_append, List.map_map]
  rfl

lemma foldl_text (texts : List String) (matching : Matching) :
    (texts.map Item.text).foldl Matching.item matching = matching := by
  induction texts with
  | nil => rfl
  | cons text rest ih => exact ih

lemma foldl_call (keyOf : ModelToolCall → String) (calls : List ModelToolCall)
    (matching : Matching) :
    (calls.map fun call => Item.call (keyOf call) call.name call.arguments).foldl Matching.item
      matching = { matching with keys := matching.keys ++ calls.map keyOf } := by
  induction calls generalizing matching with
  | nil => rw [List.map_nil, List.map_nil, List.append_nil]; rfl
  | cons call rest ih =>
    rw [List.map_cons, List.foldl_cons, ih]
    simp only [Matching.item, List.map_cons, List.append_assoc, List.singleton_append]

lemma segment_callItems (keyOf : ModelToolCall → String) (texts : List String)
    (calls : List ModelToolCall) (matching : Matching) :
    matching.segment ⟨.assistant, callItems keyOf texts calls⟩
      = { matching.next with keys := calls.map keyOf } := by
  rw [Matching.segment, if_pos rfl, callItems, List.foldl_append, foldl_text, foldl_call]
  rfl

end

def AnthropicBlock.item : AnthropicBlock → Item
  | .text words => .text words
  | .toolUse id name input => .call id name input
  | .toolResult toolUseId content => .answer toolUseId content

def AnthropicMessage.segment (message : AnthropicMessage) : Segment where
  speaker := if message.role = "assistant" then .assistant else .user
  items := match message.content with
    | .plain words => [.text words]
    | .blocks blocks => blocks.map AnthropicBlock.item

def GeminiPart.item : GeminiPart → Item
  | .text words => .text words
  | .functionCall name arguments => .call name name arguments
  | .functionResponse name result => .answer name result

def GeminiContent.segment (content : GeminiContent) : Segment where
  speaker := if content.role = "model" then .assistant else .user
  items := content.parts.map GeminiPart.item

lemma pushed_push (messages : List AnthropicMessage) (block : AnthropicBlock) :
    Pushed block.item (messages.map AnthropicMessage.segment)
      ((AnthropicMessage.push messages block).map AnthropicMessage.segment) := by
  induction messages with
  | nil => exact .fresh []
  | cons first rest ih =>
    cases rest with
    | nil =>
      obtain ⟨role, plain | blocks⟩ := first
      · exact .fresh [_]
      rw [AnthropicMessage.push]
      split
      · simp only [List.map_cons, List.map_nil, AnthropicMessage.segment, List.map_append]
        exact .joined [] _ _
      exact .fresh [_]
    | cons second rest =>
      rw [AnthropicMessage.push, List.map_cons, List.map_cons]
      exact ih.cons first.segment

lemma pushed_extend {part : GeminiPart} {contents contents' : List GeminiContent}
    (run : GeminiContent.extend [part] contents = some contents') :
    Pushed part.item (contents.map GeminiContent.segment)
      (contents'.map GeminiContent.segment) := by
  induction contents generalizing contents' with
  | nil => cases run
  | cons first rest ih =>
    cases rest with
    | nil =>
      cases run
      simp only [List.map_cons, List.map_nil, GeminiContent.segment, List.map_append]
      exact .joined [] _ _
    | cons second rest =>
      obtain ⟨others, extended, rfl⟩ := Option.map_eq_some_iff.1 run
      exact (ih extended).cons first.segment

lemma exists_extend (part : GeminiPart) {contents : List GeminiContent} (some_ : contents ≠ []) :
    ∃ contents', GeminiContent.extend [part] contents = some contents' ∧ contents' ≠ [] := by
  induction contents with
  | nil => exact absurd rfl some_
  | cons first rest ih =>
    cases rest with
    | nil => exact ⟨_, rfl, List.cons_ne_nil _ _⟩
    | cons second rest =>
      obtain ⟨others, extended, _⟩ := ih (List.cons_ne_nil _ _)
      exact ⟨first :: others, by rw [GeminiContent.extend, extended]; rfl, List.cons_ne_nil _ _⟩

end Obsion.ModelGateway
