import Obsion.Base.Json

/-! # Tool histories and their provider conversations

A history is a list of provider-neutral messages.  `validateToolHistory` accepts it, and
the adapters of Anthropic and Gemini build their conversations from what it accepted.
`none` is a `KeyError` or a `TypeError`. -/

namespace Obsion.ModelGateway

/-- `json.loads` with `_unique_json_object`, and whether `json.dumps` with `allow_nan=False`
succeeds. -/
structure JsonCodec where
  loads : String → Option Json
  dumps : Json → Bool

structure ModelToolCall where
  id : String
  name : String
  arguments : Fields

/-- `ProviderProtocolError` with its message -/
abbrev Checked := Except String

def strField (fields : Fields) (key : String) : Option String :=
  (fields.get? key).bind Json.str?

/-- `_TOOL_NAME.fullmatch(name)` -/
def toolName (name : String) : Bool :=
  let chars := name.toList
  !chars.isEmpty && chars.length ≤ 64 &&
    chars.all fun char => char.isAlphanum || char = '_' || char = '-'

def validateArguments (codec : JsonCodec) : Json → Checked Fields
  | .obj fields =>
    if codec.dumps (.obj fields) then .ok fields
    else .error "tool call arguments must be finite JSON"
  | _ => .error "tool call arguments must be an object"

def parseToolCall (codec : JsonCodec) : Json → Checked ModelToolCall
  | .obj value =>
    match strField value "type", strField value "id",
        (Fields.get? value "function").bind Json.fields? with
    | some type, some id, some function =>
      if type ≠ "function" ∨ id = "" then .error "tool call id and function are required"
      else
        match strField function "name" with
        | none => .error "tool call name is invalid"
        | some name =>
          if toolName name = false then .error "tool call name is invalid"
          else
            match strField function "arguments" with
            | none => .error "tool call arguments must be JSON text"
            | some text =>
              match codec.loads text with
              | none => .error "tool call arguments are not valid JSON"
              | some arguments =>
                (validateArguments codec arguments).map fun arguments =>
                  ⟨id, name, arguments⟩
    | _, _, _ => .error "tool call id and function are required"
  | _ => .error "tool call must be an object"

/-! ## The validation of a history -/

def keysAre (fields : Fields) (keys : List String) : Bool :=
  (fields.all fun field => field.1 ∈ keys) && keys.all fields.has

def exactCall (raw : Json) : Bool :=
  match raw with
  | .obj value =>
    keysAre value ["id", "type", "function"] &&
      ((Fields.get? value "function").bind Json.fields?).any fun function =>
        keysAre function ["name", "arguments"]
  | _ => false

def validateCalls (codec : JsonCodec) : Finset String → List Json → Checked (Finset String)
  | pending, [] => .ok pending
  | pending, raw :: rest =>
    match parseToolCall codec raw with
    | .error error => .error error
    | .ok call =>
      if exactCall raw = false then .error "tool call contains unsupported protocol fields"
      else if call.id ∈ pending then .error "tool call ids must be unique within a turn"
      else validateCalls codec (insert call.id pending) rest

def validateResult (pending : Finset String) (fields : Fields) : Checked (Finset String) :=
  match strField fields "tool_call_id" with
  | none => .error "tool result must reference a pending call exactly once"
  | some callId =>
    if callId ∉ pending then .error "tool result must reference a pending call exactly once"
    else if (strField fields "content").isNone then
      .error "tool result content must be a string"
    else if fields.has "tool_calls" then .error "tool results cannot declare tool calls"
    else .ok (pending.erase callId)

/-- `content is not None and not isinstance(content, str)` -/
def badContent (fields : Fields) : Bool :=
  match fields.get? "content" with
  | none | some .null | some (.str _) => false
  | _ => true

def validateContent (codec : JsonCodec) (role : String) (fields : Fields) : Checked (Finset String) :=
  if fields.has "tool_calls" then
    match (fields.get? "tool_calls").bind Json.values? with
    | none => .error "only assistant messages may declare non-empty tool calls"
    | some calls =>
      if role ≠ "assistant" ∨ calls = [] then
        .error "only assistant messages may declare non-empty tool calls"
      else if badContent fields then .error "assistant content must be a string or null"
      else validateCalls codec ∅ calls
  else if (strField fields "content").isNone then .error "message content must be a string"
  else .ok ∅

/-- A message that is no tool result, where no result is pending. -/
def validateTurn (codec : JsonCodec) (role : String) (fields : Fields) : Checked (Finset String) :=
  match validateContent codec role fields with
  | .error error => .error error
  | .ok pending =>
    if fields.has "tool_call_id" then .error "only tool results may reference a call id"
    else .ok pending

def allowedKeys (role : String) : List String :=
  ["role", "content"] ++ if role = "assistant" then ["tool_calls"]
    else if role = "tool" then ["tool_call_id"] else []

def validateMessage (codec : JsonCodec) (pending : Finset String) : Json → Checked (Finset String)
  | .obj fields =>
    match strField fields "role" with
    | none => .error "unsupported message role"
    | some role =>
      if role ∉ ["system", "user", "assistant", "tool"] then .error "unsupported message role"
      else if fields.any fun field => field.1 ∉ allowedKeys role then
        .error "message contains unsupported protocol fields"
      else if role = "tool" then validateResult pending fields
      else if pending ≠ ∅ then
        .error "all tool results must precede the next conversational turn"
      else validateTurn codec role fields
  | _ => .error "messages must be objects"

def validateMessages (codec : JsonCodec) : Finset String → List Json → Checked (Finset String)
  | pending, [] => .ok pending
  | pending, message :: rest =>
    match validateMessage codec pending message with
    | .error error => .error error
    | .ok pending => validateMessages codec pending rest

def validateToolHistory (codec : JsonCodec) (messages : List Json) : Checked Unit :=
  match validateMessages codec ∅ messages with
  | .error error => .error error
  | .ok pending => if pending = ∅ then .ok () else .error "tool history has unresolved calls"

/-- The texts of the system messages and the other messages; `none` where a message has no role
or a system message no text. -/
def splitMessages : List Json → Option (List String × List Fields)
  | [] => some ([], [])
  | message :: rest => do
      let fields ← message.fields?
      let role ← strField fields "role"
      let (systemParts, conversation) ← splitMessages rest
      if role = "system" then return ((← strField fields "content") :: systemParts, conversation)
      else return (systemParts, fields :: conversation)

def splitSystemMessages (codec : JsonCodec) (messages : List Json) :
    Checked (String × List Fields) := do
  validateToolHistory codec messages
  match splitMessages messages with
  | none => .error "KeyError"
  | some (systemParts, conversation) => return ("\n\n".intercalate systemParts, conversation)

inductive AnthropicBlock
  | text (text : String)
  | toolUse (id name : String) (input : Fields)
  | toolResult (toolUseId content : String)

inductive AnthropicContent
  | plain (text : String)
  | blocks (blocks : List AnthropicBlock)

structure AnthropicMessage where
  role : String
  content : AnthropicContent

/-- A result goes to the last message where that is a user message with blocks. -/
def AnthropicMessage.push : List AnthropicMessage → AnthropicBlock → List AnthropicMessage
  | [], block => [⟨"user", .blocks [block]⟩]
  | [⟨role, .blocks blocks⟩], block =>
    if role = "user" then [⟨role, .blocks (blocks ++ [block])⟩]
    else [⟨role, .blocks blocks⟩, ⟨"user", .blocks [block]⟩]
  | [last], block => [last, ⟨"user", .blocks [block]⟩]
  | first :: second :: rest, block => first :: AnthropicMessage.push (second :: rest) block

/-- The calls of a message, `[]` where it has none: a history that was accepted has a list of
them or no such field. -/
def rawCalls (fields : Fields) : List Json :=
  ((fields.get? "tool_calls").bind Json.values?).getD []

/-- The text of `message.get("content")`, where it is true. -/
def spoken (fields : Fields) : List String :=
  match strField fields "content" with
  | some text => if text = "" then [] else [text]
  | none => []

def anthropicMessage (codec : JsonCodec) (messages : List AnthropicMessage) (fields : Fields) :
    Option (List AnthropicMessage) := do
  let role ← strField fields "role"
  if role = "tool" then
    return AnthropicMessage.push messages
      (.toolResult (← strField fields "tool_call_id") (← strField fields "content"))
  else if rawCalls fields ≠ [] then
    let calls ← (rawCalls fields).mapM fun raw => (parseToolCall codec raw).toOption
    return messages ++ [⟨"assistant", .blocks ((spoken fields).map .text ++
      calls.map fun call => .toolUse call.id call.name call.arguments)⟩]
  else
    return messages ++ [⟨role, .plain (← strField fields "content")⟩]

def anthropicConversation (codec : JsonCodec) (conversation : List Fields) :
    Option (List AnthropicMessage) :=
  conversation.foldlM (anthropicMessage codec) []

inductive GeminiPart
  | text (text : String)
  | functionCall (name : String) (arguments : Fields)
  | functionResponse (name result : String)

structure GeminiContent where
  role : String
  parts : List GeminiPart

structure GeminiState where
  contents : List GeminiContent
  names : String → Option String
  previousRole : Option String

/-- `contents[-1]["parts"].extend(parts)` -/
def GeminiContent.extend (parts : List GeminiPart) : List GeminiContent → Option (List GeminiContent)
  | [] => none
  | [last] => some [⟨last.role, last.parts ++ parts⟩]
  | first :: second :: rest => (GeminiContent.extend parts (second :: rest)).map (first :: ·)

def learnNames (names : String → Option String) (calls : List ModelToolCall) : String → Option String :=
  calls.foldl (fun names call => Function.update names call.id (some call.name)) names

def geminiMessage (codec : JsonCodec) (state : GeminiState) (fields : Fields) : Option GeminiState := do
  let role ← strField fields "role"
  if role = "tool" then
    let name ← state.names (← strField fields "tool_call_id")
    let part := GeminiPart.functionResponse name (← strField fields "content")
    let contents ←
      if state.previousRole = some "tool" then GeminiContent.extend [part] state.contents
      else some (state.contents ++ [⟨"user", [part]⟩])
    return ⟨contents, state.names, some role⟩
  else
    let text ←
      if rawCalls fields ≠ [] then some ((spoken fields).map .text)
      else (strField fields "content").map fun content => [GeminiPart.text content]
    let calls ← (rawCalls fields).mapM fun raw => (parseToolCall codec raw).toOption
    return ⟨state.contents ++ [⟨if role = "assistant" then "model" else "user",
        text ++ calls.map fun call => .functionCall call.name call.arguments⟩],
      learnNames state.names calls, some role⟩

def geminiConversation (codec : JsonCodec) (conversation : List Fields) : Option (List GeminiContent) :=
  (conversation.foldlM (geminiMessage codec) ⟨[], fun _ => none, none⟩).map GeminiState.contents

end Obsion.ModelGateway
