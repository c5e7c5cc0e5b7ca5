import Obsion.Lib.Escapes
import Obsion.ModelGateway.Gateway

/-! # Responses that the gateway can handle

Which shapes of a JSON body leave an adapter with an exception of its own, or leave the
attempt with one.  Every other body is read as a completion or refused. -/

namespace Obsion.ModelGateway

open Lib

/-! ## What a body says -/

/-- `json.loads` reads the body. -/
def Decodable (python : Python) (value : Json) : Prop :=
  value.depth ≤ python.loadsDepth ∧ value.all shortInt = true

/-- The number is infinite: `int` raises an `OverflowError`. -/
def Infinite (python : Python) (value : Json) : Prop :=
  ∃ text, value = .float text ∧ python.float text = .infinite

inductive IsCount (python : Python) : Json → Int → Prop
  | int {number : Int} (positive : 0 ≤ number) : IsCount python (.int number) number
  | float {text : String} {whole : Int} (reads : python.float text = .finite whole)
      (positive : 0 ≤ whole) : IsCount python (.float text) whole
  | str {text : String} {number : Int} (reads : python.int text = some number)
      (positive : 0 ≤ number) : IsCount python (.str text) number

inductive IsText : Json → Option String → Prop
  | null : IsText .null none
  | str (text : String) : IsText (.str text) (some text)

/-- The field, or the default of `dict.get`. -/
def fieldOr (fields : Fields) (key : String) (default : Json) : Json := (fields.get? key).getD default

def CountsAre (python : Python) (body : Fields) (usage input output : String)
    (inputTokens outputTokens : Int) : Prop :=
  ∃ counts, fieldOr body usage (.obj []) = .obj counts ∧
    IsCount python (fieldOr counts input (.int 0)) inputTokens ∧
    IsCount python (fieldOr counts output (.int 0)) outputTokens

/-- The usage of a body is an object without an infinite count; the second count is only read
where the first is a count. -/
def UsageRegular (python : Python) (body : Fields) (usage input output : String) : Prop :=
  ∃ counts, fieldOr body usage (.obj []) = .obj counts ∧
    ¬ Infinite python (fieldOr counts input (.int 0)) ∧
    ∀ number, IsCount python (fieldOr counts input (.int 0)) number →
      ¬ Infinite python (fieldOr counts output (.int 0))

structure Chosen (body choice : Fields) (message : Json) : Prop where
  choices : ∃ rest, body.get? "choices" = some (.arr (.obj choice :: rest))
  message : choice.get? "message" = some message

structure Told (python : Python) (message : Fields) (text : Option String)
    (calls : List ModelToolCall) : Prop where
  text : IsText (fieldOr message "content" .null) text
  calls : ∃ raws, fieldOr message "tool_calls" (.arr []) = .arr raws ∧
    List.Forall₂ (fun raw call => parseToolCall python.codec raw = .ok call) raws calls

def Blocks (python : Python) (blocks : List Json) (parts : List Part) : Prop :=
  List.Forall₂ (fun block part => anthropicBlock python block = .ok part) blocks parts

structure Proposed (body candidate : Fields) (parts : List Json) : Prop where
  candidates : ∃ rest, body.get? "candidates" = some (.arr (.obj candidate :: rest))
  parts : ∃ content, candidate.get? "content" = some (.obj content) ∧
    Fields.get? content "parts" = some (.arr parts)

inductive Says (python : Python) : Adapter → Json → ProviderCompletion → Prop
  | openaiCompatible {body choice message : Fields} {text finish : Option String}
      {calls : List ModelToolCall} {input output : Int}
      (chosen : Chosen body choice (.obj message)) (told : Told python message text calls)
      (counts : CountsAre python body "usage" "prompt_tokens" "completion_tokens" input output)
      (ended : IsText (fieldOr choice "finish_reason" .null) finish) :
      Says python .openaiCompatible (.obj body) ⟨text.getD "", calls, input, output, finish⟩
  | anthropic {body : Fields} {blocks : List Json} {parts : List Part} {finish : Option String}
      {input output : Int} (content : body.get? "content" = some (.arr blocks))
      (reads : Blocks python blocks parts)
      (counts : CountsAre python body "usage" "input_tokens" "output_tokens" input output)
      (ended : IsText (fieldOr body "stop_reason" .null) finish) :
      Says python .anthropic (.obj body)
        ⟨"".intercalate (parts.filterMap Part.text?), parts.filterMap Part.call?, input, output, finish⟩
  | gemini {body candidate : Fields} {values : List Json} {parts : List Part}
      {finish : Option String} {input output : Int} (proposed : Proposed body candidate values)
      (reads : geminiParts python 0 values = .ok parts)
      (counts : CountsAre python body "usageMetadata" "promptTokenCount" "candidatesTokenCount"
        input output)
      (ended : IsText (fieldOr candidate "finishReason" .null) finish) :
      Says python .gemini (.obj body)
        ⟨"".intercalate (parts.filterMap Part.text?), parts.filterMap Part.call?, input, output, finish⟩

/-- No value that the adapter reaches makes it raise an `AttributeError`, an `OverflowError` or
a `RecursionError`. -/
def Regular (python : Python) : Adapter → Json → Prop
  | .openaiCompatible, value =>
    ∀ body choice message, value = .obj body → Chosen body choice message →
      ∃ told, message = .obj told ∧ ∀ text calls, Told python told text calls →
        UsageRegular python body "usage" "prompt_tokens" "completion_tokens"
  | .anthropic, value =>
    ∀ (body : Fields) (blocks : List Json), value = .obj body → body.get? "content" = some (.arr blocks) →
      (∀ front block back parts, blocks = front ++ .obj block :: back → Blocks python front parts →
        strField block "type" ≠ some "text" → strField block "type" ≠ some "tool_use" →
        python.repr (fieldOr block "type" .null) ≠ none) ∧
      ∀ parts, Blocks python blocks parts →
        UsageRegular python body "usage" "input_tokens" "output_tokens"
  | .gemini, value =>
    ∀ body candidate values parts, value = .obj body → Proposed body candidate values →
      geminiParts python 0 values = .ok parts →
      UsageRegular python body "usageMetadata" "promptTokenCount" "candidatesTokenCount"

/-! ## The readers -/

/-- The exceptions that become a `ProviderProtocolError`, or are one. -/
def Raised.tame (index : Bool) (raised : Raised) : Bool :=
  match raised with
  | .protocol _ => true
  | raised => raised.caught index

section

variable {python : Python} {index : Bool} {value found : Json} {key : String}

lemma subscript_ok :
    subscript value key = .ok found ↔ ∃ fields : Fields, value = .obj fields ∧ fields.get? key = some found := by
  cases value with
  | obj fields => cases stored : Fields.get? fields key <;> simp [subscript, stored]
  | _ => simp [subscript]

@[simp] lemma not_escapes_subscript : ¬ Escapes (Raised.tame index) (subscript value key) := by
  cases value with
  | obj fields =>
    cases stored : Fields.get? fields key <;> simp [subscript, stored, Raised.tame, Raised.caught]
  | _ => simp [subscript, Raised.tame, Raised.caught]

@[simp] lemma not_escapes_firstItem : ¬ Escapes (Raised.tame true) (firstItem value) := by
  cases value with
  | arr values => cases values <;> simp [firstItem, Raised.tame, Raised.caught]
  | str text =>
    unfold firstItem
    dsimp only
    split <;> simp [Raised.tame, Raised.caught]
  | _ => simp [firstItem, Raised.tame, Raised.caught]

lemma firstItem_subscript :
    (∃ choice, firstItem value = .ok choice ∧ subscript choice key = .ok found) ↔
      ∃ (fields : Fields) (rest : List Json), value = .arr (.obj fields :: rest) ∧
        fields.get? key = some found := by
  constructor
  · rintro ⟨choice, first, inside⟩
    obtain ⟨fields, rfl, stored⟩ := subscript_ok.1 inside
    cases value with
    | arr values =>
      cases values with
      | nil => cases first
      | cons item rest =>
        cases first
        exact ⟨fields, rest, rfl, stored⟩
    | str text =>
      unfold firstItem at first
      dsimp only at first
      split at first <;> cases first
    | _ => cases first
  · rintro ⟨fields, rest, rfl, stored⟩
    exact ⟨.obj fields, rfl, subscript_ok.2 ⟨fields, rfl, stored⟩⟩

variable {default : Json} {message field : String}

lemma dictGet_ok : dictGet value key default = .ok found ↔
      ∃ fields : Fields, value = .obj fields ∧ fieldOr fields key default = found := by
  cases value with
  | obj fields => simp [dictGet, fieldOr]
  | _ => simp [dictGet]

@[simp] lemma dictGet_obj {fields : Fields} :
    dictGet (.obj fields) key default = .ok (fieldOr fields key default) := rfl

lemma escapes_dictGet :
    Escapes (Raised.tame index) (dictGet value key default) ↔ ∀ fields, value ≠ .obj fields := by
  cases value with
  | obj fields => simp [dictGet]
  | _ => simp [dictGet, Raised.tame, Raised.caught]

lemma optionalText_ok {text : Option String} :
    optionalText message value = .ok text ↔ IsText value text := by
  cases value with
  | null =>
    constructor
    · intro run
      cases run
      exact .null
    · rintro ⟨⟩
      rfl
  | str told =>
    constructor
    · intro run
      cases run
      exact .str told
    · rintro ⟨⟩
      rfl
  | _ =>
    constructor
    · intro run
      cases run
    rintro ⟨⟩

@[simp] lemma not_escapes_optionalText :
    ¬ Escapes (Raised.tame index) (optionalText message value) := by
  cases value <;> simp [optionalText, Raised.tame]

lemma listOf_ok {values : List Json} : listOf message value = .ok values ↔ value = .arr values := by
  cases value <;> simp [listOf]

@[simp] lemma not_escapes_listOf : ¬ Escapes (Raised.tame index) (listOf message value) := by
  cases value <;> simp [listOf, Raised.tame]

lemma checked_ok {α : Type} {run : Checked α} {result : α} :
    checked run = .ok result ↔ run = .ok result := by
  cases run <;> simp [checked, Except.mapError]

@[simp] lemma not_escapes_checked {α : Type} (run : Checked α) :
    ¬ Escapes (Raised.tame index) (checked run) := by
  cases run <;> simp [checked, Except.mapError, Raised.tame]

variable {number : Int} {body : Fields} {usage input output : String}

lemma counted {result : Int} :
    (if number < 0 then .error (.protocol field) else .ok number : Except Raised Int) = .ok result ↔
      0 ≤ number ∧ number = result := by
  by_cases negative : number < 0
  · simp only [if_pos negative, reduceCtorEq, false_iff]
    omega
  rw [if_neg negative, Except.ok.injEq]
  omega

lemma nonnegativeInt_ok :
    nonnegativeInt python value field = .ok number ↔ IsCount python value number := by
  constructor
  · intro run
    cases value with
    | int stored =>
      obtain ⟨positive, rfl⟩ := counted.1 run
      exact .int positive
    | float text =>
      cases reads : python.float text with
      | finite whole =>
        simp only [nonnegativeInt, Python.intOf, reads] at run
        obtain ⟨positive, rfl⟩ := counted.1 run
        exact .float reads positive
      | _ => simp [nonnegativeInt, Python.intOf, reads, catching, notNumber, bind, Except.bind] at run
    | str text =>
      cases reads : python.int text with
      | some stored =>
        simp only [nonnegativeInt, Python.intOf, reads] at run
        obtain ⟨positive, rfl⟩ := counted.1 run
        exact .str reads positive
      | none => simp [nonnegativeInt, Python.intOf, reads, catching, notNumber, bind, Except.bind] at run
    | _ => simp [nonnegativeInt, Python.intOf, catching, notNumber, bind, Except.bind] at run
  · intro count
    cases count with
    | int positive => exact counted.2 ⟨positive, rfl⟩
    | float reads positive | str reads positive =>
      simp only [nonnegativeInt, Python.intOf, reads]
      exact counted.2 ⟨positive, rfl⟩

lemma escapes_nonnegativeInt :
    Escapes (Raised.tame index) (nonnegativeInt python value field) ↔ Infinite python value := by
  have checks (number : Int) : ¬ Escapes (Raised.tame index)
      (if number < 0 then .error (.protocol (field ++ " must be a non-negative integer")) else .ok number) := by
    split <;> simp [Raised.tame]
  cases value with
  | int number =>
    simpa [nonnegativeInt, Python.intOf, catching, Infinite, bind, Except.bind] using checks number
  | float text =>
    cases reads : python.float text with
    | finite whole =>
      simpa [nonnegativeInt, Python.intOf, catching, Infinite, reads, bind, Except.bind] using checks whole
    | nan => simp [nonnegativeInt, Python.intOf, Infinite, reads, catching, notNumber, bind, Except.bind, Raised.tame]
    | infinite =>
      simp [nonnegativeInt, Python.intOf, Infinite, reads, catching, notNumber, bind, Except.bind,
        Raised.tame, Raised.caught]
  | str text =>
    cases reads : python.int text with
    | some number =>
      simpa [nonnegativeInt, Python.intOf, catching, Infinite, reads, bind, Except.bind] using checks number
    | none => simp [nonnegativeInt, Python.intOf, Infinite, reads, catching, notNumber, bind, Except.bind, Raised.tame]
  | _ => simp [nonnegativeInt, Python.intOf, Infinite, catching, notNumber, bind, Except.bind, Raised.tame]

lemma tokenCounts_ok {counts : Int × Int} :
    tokenCounts python (.obj body) usage input output = .ok counts ↔
      CountsAre python body usage input output counts.1 counts.2 := by
  unfold tokenCounts CountsAre
  rw [dictGet_obj]
  cases found : fieldOr body usage (.obj []) with
  | obj stored =>
    simp only [bind_eq_ok, dictGet_obj, nonnegativeInt_ok, pure, Except.pure, Except.ok.injEq,
      exists_eq_left', Json.obj.injEq]
    constructor
    · rintro ⟨inputTokens, first, outputTokens, second, rfl⟩
      exact ⟨first, second⟩
    rintro ⟨first, second⟩
    exact ⟨counts.1, first, counts.2, second, rfl⟩
  | _ => simp [dictGet, bind, Except.bind]

lemma escapes_tokenCounts :
    Escapes (Raised.tame index) (tokenCounts python (.obj body) usage input output) ↔
      ¬ UsageRegular python body usage input output := by
  unfold tokenCounts UsageRegular
  rw [dictGet_obj]
  cases found : fieldOr body usage (.obj []) with
  | obj counts =>
    simp only [escapes_bind, dictGet_obj, escapes_ok, false_or, Except.ok.injEq,
      exists_eq_left', escapes_nonnegativeInt, nonnegativeInt_ok, escapes_pure, and_false,
      exists_false, or_false, Json.obj.injEq]
    constructor
    · rintro (first | ⟨number, count, second⟩) ⟨finite, others⟩
      · exact finite first
      · exact others number count second
    · intro irregular
      by_contra neither
      rw [not_or, not_exists] at neither
      exact irregular ⟨neither.1, fun number count second => neither.2 number ⟨count, second⟩⟩
  | _ => simp [dictGet, bind, Except.bind, Raised.tame, Raised.caught]

end

/-! ## What the adapters read -/

section

variable {python : Python} {value : Json} {completion : ProviderCompletion}

lemma json_of_decodable (decodable : Decodable python value) : python.json (.json value) = .ok value := by
  unfold Python.json
  dsimp only
  rw [if_neg (not_lt.2 decodable.1), if_pos decodable.2]

lemma escapes_json {index : Bool} :
    Escapes (Raised.tame index) (python.json (.json value)) ↔ ¬ Decodable python value := by
  unfold Python.json Decodable
  dsimp only
  by_cases deep : python.loadsDepth < value.depth
  · rw [if_pos deep]
    simp [Raised.tame, Raised.caught, deep]
  rw [if_neg deep]
  by_cases short : value.all shortInt = true
  · simp [short, not_lt.1 deep]
  simp [short, Raised.tame, Raised.caught]

lemma ok_bind {α β : Type} (result : α) (next : α → Except Raised β) :
    (Except.ok result >>= next) = next result := rfl

lemma openai_ok (decodable : Decodable python value) :
    openaiCompletion python (.json value) = .ok completion ↔
      Says python .openaiCompatible value completion := by
  unfold openaiCompletion
  rw [json_of_decodable decodable, ok_bind]
  simp only [bind_eq_ok, optionalText_ok, listOf_ok, mapM_eq_ok, checked_ok]
  constructor
  · rintro ⟨_, stored, choice, first, message, inside, _, content, text, isText, _, calls, raws, rfl,
      toolCalls, parsed, counts, counted, _, reason, finish, isFinish, eq⟩
    obtain ⟨body, rfl, choices⟩ := subscript_ok.1 stored
    obtain ⟨fields, rest, rfl, found⟩ := firstItem_subscript.1 ⟨choice, first, inside⟩
    cases first
    obtain ⟨told, rfl, rfl⟩ := dictGet_ok.1 content
    rw [dictGet_obj, Except.ok.injEq] at calls reason
    cases eq
    exact .openaiCompatible ⟨⟨rest, choices⟩, found⟩ ⟨isText, raws, calls, parsed⟩
      (tokenCounts_ok.1 counted) (reason ▸ isFinish)
  · intro says_
    cases says_ with
    | @openaiCompatible body choice message text finish calls input output chosen told counts ended =>
      obtain ⟨⟨rest, choices⟩, found⟩ := chosen
      obtain ⟨isText, raws, reads, parsed⟩ := told
      exact ⟨_, subscript_ok.2 ⟨body, rfl, choices⟩, .obj choice, rfl, .obj message,
        subscript_ok.2 ⟨choice, rfl, found⟩, _, rfl, text, isText, _, rfl, raws, reads, calls, parsed,
        (input, output), tokenCounts_ok.2 counts, _, rfl, finish, ended, rfl⟩

lemma escapes_openai (decodable : Decodable python value) :
    Escapes (Raised.tame true) (openaiCompletion python (.json value)) ↔
      ¬ Regular python .openaiCompatible value := by
  unfold openaiCompletion
  rw [json_of_decodable decodable, ok_bind]
  simp only [escapes_bind, not_escapes_subscript, not_escapes_firstItem, not_escapes_optionalText,
    not_escapes_listOf, false_or, escapes_pure, and_false, exists_false, or_false, optionalText_ok, listOf_ok,
    mapM_eq_ok, checked_ok, not_escapes_mapM _ fun raw => not_escapes_checked (parseToolCall python.codec raw)]
  constructor
  · rintro ⟨_, stored, choice, first, message, inside, escapes⟩ regular
    obtain ⟨body, rfl, choices⟩ := subscript_ok.1 stored
    obtain ⟨fields, rest, rfl, found⟩ := firstItem_subscript.1 ⟨choice, first, inside⟩
    cases first
    obtain ⟨told, rfl, usage⟩ := regular body fields message rfl ⟨⟨rest, choices⟩, found⟩
    simp only [dictGet_obj, escapes_ok, false_or, Except.ok.injEq, exists_eq_left', escapes_tokenCounts] at escapes
    obtain ⟨text, isText, raws, reads, calls, parsed, wild⟩ := escapes
    rcases wild with irregular | ⟨_, _, wild⟩
    · exact irregular (usage text calls ⟨isText, raws, reads, parsed⟩)
    exact wild
  · intro irregular
    simp only [Regular, not_forall, not_exists, not_and] at irregular
    obtain ⟨body, choice, message, rfl, chosen, shaped⟩ := irregular
    obtain ⟨rest, choices⟩ := chosen.choices
    refine ⟨_, subscript_ok.2 ⟨body, rfl, choices⟩, .obj choice, rfl, message,
      subscript_ok.2 ⟨choice, rfl, chosen.message⟩, ?_⟩
    cases message with
    | obj told =>
      obtain ⟨text, calls, says_, usage⟩ := shaped told rfl
      obtain ⟨raws, reads, parsed⟩ := says_.calls
      simp only [dictGet_obj, escapes_ok, false_or, Except.ok.injEq, exists_eq_left', escapes_tokenCounts]
      exact ⟨text, says_.text, raws, reads, calls, parsed, Or.inl usage⟩
    | _ => exact .inl (escapes_dictGet.2 fun _ eq => by cases eq)

lemma anthropic_ok (decodable : Decodable python value) :
    anthropicCompletion python (.json value) = .ok completion ↔ Says python .anthropic value completion := by
  unfold anthropicCompletion
  rw [json_of_decodable decodable, ok_bind]
  simp only [bind_eq_ok, optionalText_ok, listOf_ok, mapM_eq_ok]
  constructor
  · rintro ⟨_, stored, blocks, rfl, parts, reads, counts, counted, _, reason, finish, isFinish, eq⟩
    obtain ⟨body, rfl, content⟩ := subscript_ok.1 stored
    rw [dictGet_obj, Except.ok.injEq] at reason
    cases eq
    exact .anthropic content reads (tokenCounts_ok.1 counted) (reason ▸ isFinish)
  · intro says_
    cases says_ with
    | @anthropic body blocks parts finish input output content reads counts ended =>
      exact ⟨_, subscript_ok.2 ⟨body, rfl, content⟩, blocks, rfl, parts, reads, (input, output),
        tokenCounts_ok.2 counts, _, rfl, finish, ended, rfl⟩

lemma escapes_anthropicBlock {index : Bool} {block : Json} :
    Escapes (Raised.tame index) (anthropicBlock python block) ↔
      ∃ fields : Fields, block = .obj fields ∧ strField fields "type" ≠ some "text" ∧
        strField fields "type" ≠ some "tool_use" ∧ python.repr (fieldOr fields "type" .null) = none := by
  cases block with
  | obj fields =>
    unfold anthropicBlock fieldOr
    dsimp only
    split
    · next text => simp [text]
    next notText =>
    split
    · next use_ => simp [use_]
    next notUse =>
    split
    · next text shown => simp [shown, Raised.tame]
    next shown => simp [shown, notText, notUse, Raised.tame, Raised.caught]
  | _ => simp [anthropicBlock, Raised.tame]

lemma escapes_anthropic (decodable : Decodable python value) :
    Escapes (Raised.tame false) (anthropicCompletion python (.json value)) ↔
      ¬ Regular python .anthropic value := by
  unfold anthropicCompletion
  rw [json_of_decodable decodable, ok_bind]
  simp only [escapes_bind, not_escapes_subscript, not_escapes_optionalText, not_escapes_listOf, false_or,
    escapes_pure, and_false, exists_false, or_false, listOf_ok, mapM_eq_ok, escapes_mapM,
    escapes_anthropicBlock]
  constructor
  · rintro ⟨_, stored, blocks, rfl, wild⟩ regular
    obtain ⟨body, rfl, content⟩ := subscript_ok.1 stored
    obtain ⟨shown, usage⟩ := regular body blocks rfl content
    rcases wild with ⟨front, _, back, rfl, ⟨parts, before⟩, block, rfl, notText, notUse, deep⟩ |
      ⟨parts, reads, wild⟩
    · exact shown front block back parts rfl before notText notUse deep
    rcases wild with irregular | ⟨_, _, wild⟩
    · exact escapes_tokenCounts.1 irregular (usage parts reads)
    rw [dictGet_obj] at wild
    exact escapes_ok _ wild
  · intro irregular
    simp only [Regular, not_forall, not_and_or] at irregular
    obtain ⟨body, blocks, rfl, content, shape⟩ := irregular
    refine ⟨_, subscript_ok.2 ⟨body, rfl, content⟩, blocks, rfl, ?_⟩
    rcases shape with ⟨front, block, back, parts, eq, before, notText, notUse, deep⟩ |
      ⟨parts, reads, usage⟩
    · exact .inl ⟨front, _, back, eq, ⟨parts, before⟩, block, rfl, notText, notUse, not_not.1 deep⟩
    exact .inr ⟨parts, reads, Or.inl (escapes_tokenCounts.2 usage)⟩

variable {values : List Json} {parts : List Part}

lemma candidatesOf_ok :
    candidatesOf value = .ok values ↔ value = .arr values ∧ values ≠ [] := by
  cases value with
  | arr stored =>
    cases stored with
    | nil => simp [candidatesOf]
    | cons first rest =>
      simp only [candidatesOf, Except.ok.injEq, Json.arr.injEq]
      constructor
      · rintro rfl
        exact ⟨rfl, List.cons_ne_nil _ _⟩
      exact fun eq => eq.1
  | _ => simp [candidatesOf]

@[simp] lemma not_escapes_candidatesOf {index : Bool} :
    ¬ Escapes (Raised.tame index) (candidatesOf value) := by
  cases value with
  | arr stored => cases stored <;> simp [candidatesOf, Raised.tame]
  | _ => simp [candidatesOf, Raised.tame]

lemma proposed_iff {candidate content parts : Json} :
    (∃ candidates, subscript value "candidates" = .ok candidates ∧ ∃ values,
      candidatesOf candidates = .ok values ∧ firstItem (.arr values) = .ok candidate ∧
        subscript candidate "content" = .ok content ∧ subscript content "parts" = .ok parts) ↔
      ∃ (body fields told : Fields) (rest : List Json), value = .obj body ∧
        body.get? "candidates" = some (.arr (.obj fields :: rest)) ∧ candidate = .obj fields ∧
        fields.get? "content" = some (.obj told) ∧ content = .obj told ∧
        told.get? "parts" = some parts := by
  constructor
  · rintro ⟨_, stored, values, listed, first, inside, deeper⟩
    obtain ⟨body, rfl, found⟩ := subscript_ok.1 stored
    obtain ⟨rfl, _⟩ := candidatesOf_ok.1 listed
    obtain ⟨fields, rfl, fieldsHave⟩ := subscript_ok.1 inside
    obtain ⟨told, rfl, toldHas⟩ := subscript_ok.1 deeper
    cases values with
    | nil => cases first
    | cons item rest =>
      cases first
      exact ⟨body, fields, told, rest, rfl, found, rfl, fieldsHave, rfl, toldHas⟩
  · rintro ⟨body, fields, told, rest, rfl, found, rfl, fieldsHave, rfl, toldHas⟩
    exact ⟨_, subscript_ok.2 ⟨body, rfl, found⟩, _, candidatesOf_ok.2 ⟨rfl, List.cons_ne_nil _ _⟩, rfl,
      subscript_ok.2 ⟨fields, rfl, fieldsHave⟩, subscript_ok.2 ⟨told, rfl, toldHas⟩⟩

lemma gemini_ok (decodable : Decodable python value) :
    geminiCompletion python (.json value) = .ok completion ↔ Says python .gemini value completion := by
  unfold geminiCompletion
  rw [json_of_decodable decodable, ok_bind]
  simp only [bind_eq_ok, optionalText_ok, listOf_ok, checked_ok]
  constructor
  · rintro ⟨_, stored, values, listed, candidate, first, content, inside, _, deeper, parts, rfl, found, reads,
      counts, counted, _, reason, finish, isFinish, eq⟩
    obtain ⟨body, fields, told, rest, rfl, candidates, rfl, fieldsHave, rfl, toldHas⟩ :=
      proposed_iff.1 ⟨_, stored, values, listed, first, inside, deeper⟩
    rw [dictGet_obj, Except.ok.injEq] at reason
    cases eq
    exact .gemini ⟨⟨rest, candidates⟩, told, fieldsHave, toldHas⟩ reads (tokenCounts_ok.1 counted)
      (reason ▸ isFinish)
  · intro says_
    cases says_ with
    | @gemini body candidate values parts finish input output proposed reads counts ended =>
      obtain ⟨⟨rest, candidates⟩, told, fieldsHave, toldHas⟩ := proposed
      obtain ⟨_, stored, listed, some_, first, inside, deeper⟩ :=
        proposed_iff.2 ⟨body, candidate, told, rest, rfl, candidates, rfl, fieldsHave, rfl, toldHas⟩
      exact ⟨_, stored, listed, some_, _, first, _, inside, _, deeper, values, rfl, parts, reads,
        (input, output), tokenCounts_ok.2 counts, _, rfl, finish, ended, rfl⟩

lemma escapes_gemini (decodable : Decodable python value) :
    Escapes (Raised.tame true) (geminiCompletion python (.json value)) ↔ ¬ Regular python .gemini value := by
  unfold geminiCompletion
  rw [json_of_decodable decodable, ok_bind]
  simp only [escapes_bind, not_escapes_subscript, not_escapes_firstItem, not_escapes_candidatesOf,
    not_escapes_optionalText, not_escapes_listOf, not_escapes_checked, false_or, escapes_pure, and_false,
    exists_false, or_false, listOf_ok, checked_ok]
  constructor
  · rintro ⟨_, stored, values, listed, candidate, first, content, inside, _, deeper, parts, rfl, found, reads,
      wild⟩ regular
    obtain ⟨body, fields, told, rest, rfl, candidates, rfl, fieldsHave, rfl, toldHas⟩ :=
      proposed_iff.1 ⟨_, stored, values, listed, first, inside, deeper⟩
    rcases wild with irregular | ⟨_, _, wild⟩
    · exact escapes_tokenCounts.1 irregular
        (regular body fields parts found rfl ⟨⟨rest, candidates⟩, told, fieldsHave, toldHas⟩ reads)
    rw [dictGet_obj] at wild
    exact escapes_ok _ wild
  · intro irregular
    simp only [Regular, not_forall] at irregular
    obtain ⟨body, candidate, values, parts, rfl, proposed, reads, usage⟩ := irregular
    obtain ⟨⟨rest, candidates⟩, told, fieldsHave, toldHas⟩ := proposed
    obtain ⟨_, stored, listed, some_, first, inside, deeper⟩ :=
      proposed_iff.2 ⟨body, candidate, told, rest, rfl, candidates, rfl, fieldsHave, rfl, toldHas⟩
    exact ⟨_, stored, listed, some_, _, first, _, inside, _, deeper, values, rfl, parts, reads,
      Or.inl (escapes_tokenCounts.2 usage)⟩

lemma completion_ok (decodable : Decodable python value) (adapter : Adapter) :
    adapter.completion python (.json value) = .ok completion ↔ Says python adapter value completion := by
  cases adapter with
  | openaiCompatible => exact openai_ok decodable
  | anthropic => exact anthropic_ok decodable
  | gemini => exact gemini_ok decodable

lemma escapes_completion_of_undecodable (adapter : Adapter) (bad : ¬ Decodable python value) :
    Escapes (Raised.tame adapter.index) (adapter.completion python (.json value)) := by
  cases adapter with
  | openaiCompatible | anthropic | gemini => exact escapes_bind.2 (Or.inl (escapes_json.2 bad))

lemma escapes_completion (adapter : Adapter) :
    Escapes (Raised.tame adapter.index) (adapter.completion python (.json value)) ↔
      ¬ (Decodable python value ∧ Regular python adapter value) := by
  by_cases decodable : Decodable python value
  · rw [and_iff_right decodable]
    cases adapter with
    | openaiCompatible => exact escapes_openai decodable
    | anthropic => exact escapes_anthropic decodable
    | gemini => exact escapes_gemini decodable
  · simp only [decodable, false_and, not_false_eq_true, iff_true]
    exact escapes_completion_of_undecodable adapter decodable

variable {adapter : Adapter} {call : ModelToolCall} {ordinal : Nat}

lemma decodable_of_completion (run : adapter.completion python (.json value) = .ok completion) :
    Decodable python value := by
  by_contra bad
  obtain ⟨raised, fails, -⟩ := escapes_completion_of_undecodable adapter bad
  rw [run] at fails
  cases fails

lemma parse_ok : adapter.parseCompletionResponse python (.json value) = .ok completion ↔
      Decodable python value ∧ Says python adapter value completion := by
  unfold Adapter.parseCompletionResponse catching
  constructor
  · intro run
    split at run
    · next found ran =>
      cases run
      have decodable := decodable_of_completion ran
      exact ⟨decodable, (completion_ok decodable adapter).1 ran⟩
    · split at run <;> cases run
  · rintro ⟨decodable, says_⟩
    rw [(completion_ok decodable adapter).2 says_]

/-- An exception of `parse_completion_response` is the adapter's own, unless it escaped. -/
lemma parse_raised {raised : Raised}
    (run : adapter.parseCompletionResponse python (.json value) = .error raised) :
    (∃ message, raised = .protocol message) ∧ Decodable python value ∧ Regular python adapter value ∨
      raised.tame adapter.index = false ∧ ¬ (Decodable python value ∧ Regular python adapter value) := by
  unfold Adapter.parseCompletionResponse catching at run
  split at run
  · cases run
  next error ran =>
  have escapes : Escapes (Raised.tame adapter.index) (adapter.completion python (.json value)) ↔
      error.tame adapter.index = false := by rw [ran, escapes_error]
  rw [escapes_completion] at escapes
  by_cases caught : error.caught adapter.index = true
  · rw [if_pos caught] at run
    cases run
    have tame : error.tame adapter.index = true := by
      unfold Raised.tame
      split
      · rfl
      exact caught
    have regular := not_not.1 (mt escapes.1 (by rw [tame]; decide))
    exact .inl ⟨⟨_, rfl⟩, regular⟩
  · rw [if_neg caught] at run
    cases run
    by_cases wild : raised.tame adapter.index = false
    · exact .inr ⟨wild, escapes.2 wild⟩
    have regular := not_not.1 (mt escapes.1 wild)
    cases raised with
    | protocol message => exact .inl ⟨⟨message, rfl⟩, regular⟩
    | _ => exact absurd (Bool.eq_false_iff.2 caught) wild

/-- The counts are not negative, and the arguments are finite. -/
structure WellFormed (python : Python) (completion : ProviderCompletion) : Prop where
  inputTokens : 0 ≤ completion.inputTokens
  outputTokens : 0 ≤ completion.outputTokens
  arguments : ∀ call ∈ completion.toolCalls, (Json.obj call.arguments).all python.finite = true

lemma IsCount.positive {number : Int} (count : IsCount python value number) : 0 ≤ number := by
  cases count with
  | int positive | float _ positive | str _ positive => exact positive

lemma finite_of_validateArguments {id name : String}
    (run : (validateArguments python.codec value).map (fun arguments => ModelToolCall.mk id name arguments) =
      .ok call) : (Json.obj call.arguments).all python.finite = true := by
  obtain ⟨arguments, valid, rfl⟩ := of_map_ok run
  unfold validateArguments at valid
  split at valid
  · split at valid
    · next finite =>
      cases valid
      exact (Bool.and_eq_true_iff.1 finite).1
    · cases valid
  · cases valid

lemma finite_of_parseToolCall (run : parseToolCall python.codec value = .ok call) :
    (Json.obj call.arguments).all python.finite = true := by
  unfold parseToolCall at run
  repeat' split at run
  all_goals first
    | cases run
    | exact finite_of_validateArguments run

lemma finite_of_parseToolUse {block : Fields} (run : parseToolUse python.codec block = .ok call) :
    (Json.obj call.arguments).all python.finite = true := by
  unfold parseToolUse at run
  repeat' split at run
  all_goals first
    | cases run
    | exact finite_of_validateArguments run

lemma finite_of_parseFunctionCall (run : parseFunctionCall python.codec ordinal value = .ok call) :
    (Json.obj call.arguments).all python.finite = true := by
  unfold parseFunctionCall at run
  repeat' split at run
  all_goals first
    | cases run
    | exact finite_of_validateArguments run

lemma finite_of_anthropicBlock (run : anthropicBlock python value = .ok (.call call)) :
    (Json.obj call.arguments).all python.finite = true := by
  cases value with
  | obj block =>
    unfold anthropicBlock at run
    dsimp only at run
    split at run
    · unfold textBlock at run
      split at run <;> cases run
    split at run
    · obtain ⟨made, parsed, eq⟩ := of_map_ok (checked_ok.1 run)
      cases eq
      exact finite_of_parseToolUse parsed
    · split at run <;> cases run
  | _ => cases run

lemma finite_of_geminiPart (run : geminiPart python ordinal value = .ok (.call call)) :
    (Json.obj call.arguments).all python.finite = true := by
  cases value with
  | obj part =>
    unfold geminiPart at run
    dsimp only at run
    split at run
    · cases run
    · cases run
    · split at run
      · obtain ⟨made, parsed, eq⟩ := of_map_ok run
        cases eq
        exact finite_of_parseFunctionCall parsed
      · cases run
  | _ => cases run

lemma mem_calls :
    call ∈ parts.filterMap Part.call? ↔ Part.call call ∈ parts := by
  rw [List.mem_filterMap]
  constructor
  · rintro ⟨part, mem, made⟩
    cases part with
    | text _ => cases made
    | call _ =>
      cases made
      exact mem
  · intro mem
    exact ⟨_, mem, rfl⟩

lemma finite_of_geminiParts (run : geminiParts python ordinal values = .ok parts)
    (mem : Part.call call ∈ parts) :
    (Json.obj call.arguments).all python.finite = true := by
  induction values generalizing ordinal parts with
  | nil =>
    cases run
    cases mem
  | cons first rest ih =>
    obtain ⟨part, now, next⟩ := bind_eq_ok.1 run
    obtain ⟨more, later, eq⟩ := bind_eq_ok.1 next
    cases eq
    rcases List.mem_cons.1 mem with rfl | inRest
    · exact finite_of_geminiPart now
    exact ih later inRest

lemma forall₂_mem {α β : Type} {relation : α → β → Prop} {left : List α} {right : List β}
    (related : List.Forall₂ relation left right) {item : β} (mem : item ∈ right) :
    ∃ other ∈ left, relation other item := by
  induction related with
  | nil => cases mem
  | cons first _ ih =>
    rcases List.mem_cons.1 mem with rfl | inRest
    · exact ⟨_, List.mem_cons_self, first⟩
    obtain ⟨other, inside, holds⟩ := ih inRest
    exact ⟨other, List.mem_cons_of_mem _ inside, holds⟩

lemma Says.wellFormed (says_ : Says python adapter value completion) :
    WellFormed python completion := by
  cases says_ with
  | openaiCompatible chosen told counts ended =>
    obtain ⟨_, _, input, output⟩ := counts
    obtain ⟨raws, _, parsed⟩ := told.calls
    refine ⟨input.positive, output.positive, fun call mem => ?_⟩
    obtain ⟨raw, _, run⟩ := forall₂_mem parsed mem
    exact finite_of_parseToolCall run
  | anthropic content reads counts ended =>
    obtain ⟨_, _, input, output⟩ := counts
    refine ⟨input.positive, output.positive, fun call mem => ?_⟩
    obtain ⟨block, _, run⟩ := forall₂_mem reads (mem_calls.1 mem)
    exact finite_of_anthropicBlock run
  | gemini proposed reads counts ended =>
    obtain ⟨_, _, input, output⟩ := counts
    exact ⟨input.positive, output.positive, fun call mem =>
      finite_of_geminiParts reads (mem_calls.1 mem)⟩

end

end Obsion.ModelGateway
