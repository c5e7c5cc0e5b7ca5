import Obsion.Base.Loads
import Obsion.ModelGateway.Providers

/-! # Provider responses

The three adapters read a response with subscripts, `dict.get` and `int`.  Each of these
raises one of Python's exceptions on a value of another shape, and each adapter catches
some of them. -/

namespace Obsion.ModelGateway

inductive Raised
  | protocol (message : String)
  | key
  | index
  | type
  | attribute
  | overflow
  | recursion
  | decode
  | value
  deriving DecidableEq

/-- What `json.loads` raises: a `JSONDecodeError`, another `ValueError` or a
`RecursionError`. -/
inductive Undecoded
  | decode
  | value
  | recursion

def Undecoded.raised : Undecoded → Raised
  | .decode => .decode
  | .value => .value
  | .recursion => .recursion

/-- A `float`; `int` of a finite one is its whole part. -/
inductive Double
  | nan
  | infinite
  | finite (whole : Int)

structure Python where
  loads : String → Except Undecoded Json
  /-- `json.loads` with `_unique_json_object`; `none` is a `ValueError` or a `RecursionError` -/
  loadsUnique : String → Option Json
  float : String → Double
  /-- `int(text)`; `none` is a `ValueError` -/
  int : String → Option Int
  /-- `repr(value)`; `none` is a `RecursionError` -/
  repr : Json → Option String
  /-- the nesting that `json.loads` and `json.dumps` bear -/
  loadsDepth : Nat
  dumpsDepth : Nat

/-- `json.dumps` with `allow_nan=False` has a text for the value. -/
def Python.finite (python : Python) : Json → Bool
  | .float text =>
    match python.float text with
    | .finite _ => true
    | _ => false
  | _ => true

def Python.codec (python : Python) : JsonCodec where
  loads := python.loadsUnique
  dumps value := value.all python.finite && value.depth ≤ python.dumpsDepth

/-- The digits of an integer that `json.loads` reads. -/
def shortInt : Json → Bool
  | .int number => (Nat.toDigits 10 number.natAbs).length ≤ Loads.maxIntDigits
  | _ => true

/-- The body of a response: a JSON value, or bytes that are none. -/
inductive Body
  | json (value : Json)
  | garbled (error : Undecoded)

def Python.json (python : Python) : Body → Except Raised Json
  | .garbled error => .error error.raised
  | .json value =>
    if python.loadsDepth < value.depth then .error .recursion
    else if value.all shortInt then .ok value
    else .error .value

/-! ## Reading a value -/

/-- `value[key]` -/
def subscript (value : Json) (key : String) : Except Raised Json :=
  match value with
  | .obj fields =>
    match Fields.get? fields key with
    | some found => .ok found
    | none => .error .key
  | _ => .error .type

def firstItem : Json → Except Raised Json
  | .arr (first :: _) => .ok first
  | .arr [] => .error .index
  | .str text =>
    match text.toList with
    | first :: _ => .ok (.str (String.ofList [first]))
    | [] => .error .index
  | .obj _ => .error .key
  | _ => .error .type

/-- `value.get(key, default)` -/
def dictGet (value : Json) (key : String) (default : Json) : Except Raised Json :=
  match value with
  | .obj fields => .ok ((Fields.get? fields key).getD default)
  | _ => .error .attribute

/-- A text or `None`. -/
def optionalText (message : String) : Json → Except Raised (Option String)
  | .null => .ok none
  | .str text => .ok (some text)
  | _ => .error (.protocol message)

def listOf (message : String) : Json → Except Raised (List Json)
  | .arr values => .ok values
  | _ => .error (.protocol message)

def checked {α : Type} (run : Checked α) : Except Raised α := run.mapError .protocol

/-- `try: … except … as exc: raise ProviderProtocolError(message) from exc` -/
def catching {α : Type} (caught : Raised → Bool) (message : String) (run : Except Raised α) :
    Except Raised α :=
  match run with
  | .ok result => .ok result
  | .error raised => if caught raised then .error (.protocol message) else .error raised

def Python.intOf (python : Python) : Json → Except Raised Int
  | .bool answer => .ok (if answer then 1 else 0)
  | .int number => .ok number
  | .float text =>
    match python.float text with
    | .nan => .error .value
    | .infinite => .error .overflow
    | .finite whole => .ok whole
  | .str text =>
    match python.int text with
    | some number => .ok number
    | none => .error .value
  | _ => .error .type

def notNumber : Raised → Bool
  | .type | .value | .decode | .protocol _ => true
  | _ => false

def nonnegativeInt (python : Python) (value : Json) (field : String) : Except Raised Int :=
  match value with
  | .bool _ => .error (.protocol (field ++ " must be a non-negative integer"))
  | value => do
      let result ← catching notNumber (field ++ " must be a non-negative integer")
        (python.intOf value)
      if result < 0 then .error (.protocol (field ++ " must be a non-negative integer"))
      else .ok result

structure ProviderCompletion where
  content : String
  toolCalls : List ModelToolCall
  inputTokens : Int
  outputTokens : Int
  finishReason : Option String

/-- The token counts of `body.get(usage, {})`. -/
def tokenCounts (python : Python) (body : Json) (usage input output : String) :
    Except Raised (Int × Int) := do
  let counts ← dictGet body usage (.obj [])
  let inputTokens ← nonnegativeInt python (← dictGet counts input (.int 0)) input
  let outputTokens ← nonnegativeInt python (← dictGet counts output (.int 0)) output
  return (inputTokens, outputTokens)

/-- What the adapters catch; `index` tells whether the `IndexError` is among it. -/
def Raised.caught (index : Bool) : Raised → Bool
  | .key | .type | .decode => true
  | .index => index
  | _ => false

/-! ## The adapters -/

def openaiCompletion (python : Python) (response : Body) : Except Raised ProviderCompletion := do
  let body ← python.json response
  let choice ← firstItem (← subscript body "choices")
  let message ← subscript choice "message"
  let content ← optionalText "completion content must be a string or null"
    (← dictGet message "content" .null)
  let rawToolCalls ← listOf "tool_calls must be an array" (← dictGet message "tool_calls" (.arr []))
  let toolCalls ← rawToolCalls.mapM fun raw => checked (parseToolCall python.codec raw)
  let counts ← tokenCounts python body "usage" "prompt_tokens" "completion_tokens"
  let finishReason ← optionalText "finish_reason must be a string or null"
    (← dictGet choice "finish_reason" .null)
  return ⟨content.getD "", toolCalls, counts.1, counts.2, finishReason⟩

def parseToolUse (codec : JsonCodec) (block : Fields) : Checked ModelToolCall :=
  match strField block "id" with
  | none => .error "tool_use block id is required"
  | some id =>
    if id = "" then .error "tool_use block id is required"
    else
      match strField block "name" with
      | none => .error "tool_use block name is invalid"
      | some name =>
        if toolName name = false then .error "tool_use block name is invalid"
        else
          (validateArguments codec ((Fields.get? block "input").getD .null)).map fun arguments =>
            ⟨id, name, arguments⟩

inductive Part
  | text (text : String)
  | call (call : ModelToolCall)

def Part.text? : Part → Option String
  | .text found => some found
  | .call _ => none

def Part.call? : Part → Option ModelToolCall
  | .text _ => none
  | .call made => some made

def textBlock (block : Fields) : Checked Part :=
  match strField block "text" with
  | some text => .ok (.text text)
  | none => .error "text block content must be a string"

def anthropicBlock (python : Python) : Json → Except Raised Part
  | .obj block =>
    if strField block "type" = some "text" then checked (textBlock block)
    else if strField block "type" = some "tool_use" then
      checked ((parseToolUse python.codec block).map .call)
    else
      match python.repr ((Fields.get? block "type").getD .null) with
      | some text => .error (.protocol ("unsupported content block type: " ++ text))
      | none => .error .recursion
  | _ => .error (.protocol "content block must be an object")

def anthropicCompletion (python : Python) (response : Body) : Except Raised ProviderCompletion := do
  let body ← python.json response
  let blocks ← listOf "content must be an array of blocks" (← subscript body "content")
  let parts ← blocks.mapM (anthropicBlock python)
  let counts ← tokenCounts python body "usage" "input_tokens" "output_tokens"
  let finishReason ← optionalText "stop_reason must be a string or null"
    (← dictGet body "stop_reason" .null)
  return ⟨"".intercalate (parts.filterMap Part.text?), parts.filterMap Part.call?,
    counts.1, counts.2, finishReason⟩

def parseFunctionCall (codec : JsonCodec) (ordinal : Nat) : Json → Checked ModelToolCall
  | .obj value =>
    match strField value "name" with
    | none => .error "functionCall name is invalid"
    | some name =>
      if toolName name = false then .error "functionCall name is invalid"
      else
        (validateArguments codec ((Fields.get? value "args").getD (.obj []))).map fun arguments =>
          ⟨"call_" ++ toString ordinal, name, arguments⟩
  | _ => .error "functionCall must be an object"

/-- A part where `ordinal` calls were read before it. -/
def geminiPart (python : Python) (ordinal : Nat) : Json → Checked Part
  | .obj part =>
    match Fields.get? part "text" with
    | some (.str text) => .ok (.text text)
    | some _ => .error "text part content must be a string"
    | none =>
      match Fields.get? part "functionCall" with
      | some call => (parseFunctionCall python.codec ordinal call).map .call
      | none => .error "content part must be text or functionCall"
  | _ => .error "content part must be an object"

def geminiParts (python : Python) : Nat → List Json → Checked (List Part)
  | _, [] => .ok []
  | ordinal, value :: rest => do
      let part ← geminiPart python ordinal value
      let parts ← geminiParts python (if part.call?.isSome then ordinal + 1 else ordinal) rest
      return part :: parts

/-- `candidates` is a non-empty array. -/
def candidatesOf : Json → Except Raised (List Json)
  | .arr (first :: rest) => .ok (first :: rest)
  | _ => .error (.protocol "candidates must be a non-empty array")

def geminiCompletion (python : Python) (response : Body) : Except Raised ProviderCompletion := do
  let body ← python.json response
  let candidates ← candidatesOf (← subscript body "candidates")
  let candidate ← firstItem (.arr candidates)
  let parts ← listOf "content parts must be an array"
    (← subscript (← subscript candidate "content") "parts")
  let parts ← checked (geminiParts python 0 parts)
  let counts ← tokenCounts python body "usageMetadata" "promptTokenCount" "candidatesTokenCount"
  let finishReason ← optionalText "finishReason must be a string or null"
    (← dictGet candidate "finishReason" .null)
  return ⟨"".intercalate (parts.filterMap Part.text?), parts.filterMap Part.call?,
    counts.1, counts.2, finishReason⟩

inductive Adapter
  | openaiCompatible
  | anthropic
  | gemini

def Adapter.completion (python : Python) : Adapter → Body → Except Raised ProviderCompletion
  | .openaiCompatible => openaiCompletion python
  | .anthropic => anthropicCompletion python
  | .gemini => geminiCompletion python

/-- Anthropic's adapter lets an `IndexError` through. -/
def Adapter.index : Adapter → Bool
  | .anthropic => false
  | _ => true

def Adapter.invalid : Adapter → String
  | .openaiCompatible => "invalid chat-completions response"
  | .anthropic => "invalid Anthropic messages response"
  | .gemini => "invalid Gemini generateContent response"

def Adapter.parseCompletionResponse (adapter : Adapter) (python : Python) (response : Body) :
    Except Raised ProviderCompletion :=
  catching (Raised.caught adapter.index) adapter.invalid (adapter.completion python response)

end Obsion.ModelGateway
