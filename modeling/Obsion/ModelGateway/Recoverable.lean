import Obsion.ModelGateway.Pairing

/-! # What the two conversations preserve

A history in which a turn calls one tool twice is confused with the history in which the
ids of the two calls are exchanged: Gemini's conversation is the same, the pairing is not. -/

namespace Obsion.ModelGateway

def anthropicOf (codec : JsonCodec) (messages : List Json) : Option (List AnthropicMessage) :=
  (splitSystemMessages codec messages).toOption.bind fun found =>
    anthropicConversation codec found.2

def geminiOf (codec : JsonCodec) (messages : List Json) : Option (List GeminiContent) :=
  (splitSystemMessages codec messages).toOption.bind fun found => geminiConversation codec found.2

def turnsOf (codec : JsonCodec) (messages : List Json) : List Turn :=
  (messages.mapM (readTurn codec)).getD []

def entriesOf (codec : JsonCodec) (messages : List Json) : List Entry :=
  (turnsOf codec messages).flatMap Turn.entries

def answersOf (codec : JsonCodec) (messages : List Json) : List Nat :=
  pairings (turnsOf codec messages)

def ToolsApart (codec : JsonCodec) (messages : List Json) : Prop :=
  ∀ names ∈ (turnsOf codec messages).flatMap Turn.tools, names.Nodup

/-- A conversation determines the pairing of the history it was built from. -/
def Determines {Conversation : Type} (codec : JsonCodec)
    (transcode : JsonCodec → List Json → Option Conversation) (messages : List Json) : Prop :=
  ∀ other, validateToolHistory codec other = .ok () → transcode codec other = transcode codec messages →
    answersOf codec other = answersOf codec messages

structure Preserved (codec : JsonCodec) (messages : List Json) : Prop where
  anthropic : ∃ conversation, anthropicOf codec messages = some conversation ∧
    (AnthropicMessage.segments conversation).flatMap Segment.entries = entriesOf codec messages
  gemini : ∃ conversation, geminiOf codec messages = some conversation ∧
    (conversation.map GeminiContent.segment).flatMap Segment.entries = entriesOf codec messages
  anthropicPaired : Determines codec anthropicOf messages
  geminiPaired : Determines codec geminiOf messages

section
variable {codec : JsonCodec} {messages : List Json}

lemma accepted_turns (accepted : validateToolHistory codec messages = .ok ()) :
    ∃ turns systemParts conversation, turnsOf codec messages = turns ∧
      messages.mapM (readTurn codec) = some turns ∧ Valid ∅ turns ∧
      splitMessages messages = some (systemParts, conversation) ∧
      splitSystemMessages codec messages = .ok ("\n\n".intercalate systemParts, conversation) ∧
      conversation.mapM (readFields codec)
        = some (turns.filter fun turn => turn.quiet = false) := by
  obtain ⟨turns, read, valid⟩ := validated accepted
  obtain ⟨systemParts, conversation, split, readLoud⟩ := split_read read
  refine ⟨turns, systemParts, conversation, ?_, read, valid, split, ?_, readLoud⟩
  · rw [turnsOf, read, Option.getD_some]
  rw [splitSystemMessages, accepted, split]
  rfl

lemma all_loud (turns : List Turn) :
    ∀ turn ∈ turns.filter fun turn => turn.quiet = false, turn.quiet = false := by
  intro turn mem
  exact of_decide_eq_true (List.mem_filter.1 mem).2

section
variable (accepted : validateToolHistory codec messages = .ok ())
include accepted

lemma anthropic_recovers :
    ∃ conversation, anthropicOf codec messages = some conversation ∧
      (AnthropicMessage.segments conversation).flatMap Segment.entries = entriesOf codec messages ∧
      recover (AnthropicMessage.segments conversation) = answersOf codec messages := by
  obtain ⟨turns, systemParts, loud, eq, read, valid, _, split, readLoud⟩ :=
    accepted_turns accepted
  have start : AnthropicTold [] [] ⟨0, [], []⟩ := ⟨rfl, rfl⟩
  obtain ⟨conversation, run, entries, matched⟩ := anthropic_told readLoud (all_loud turns) start
  refine ⟨conversation, ?_, ?_, ?_⟩
  · rw [anthropicOf, split]
    exact run
  · rw [entries, List.nil_append, flatMap_loud fun _ => rfl, entriesOf, eq]
  · rw [recover, matched, foldl_loud, answersOf, eq]
    rfl

lemma gemini_recovers :
    ∃ conversation, geminiOf codec messages = some conversation ∧
      (conversation.map GeminiContent.segment).flatMap Segment.entries = entriesOf codec messages ∧
      callKeys (conversation.map GeminiContent.segment)
        = (turnsOf codec messages).flatMap Turn.tools ∧ (ToolsApart codec messages →
        recover (conversation.map GeminiContent.segment) = answersOf codec messages) := by
  obtain ⟨turns, systemParts, loud, eq, read, valid, _, split, readLoud⟩ :=
    accepted_turns accepted
  have start : GeminiTold (ToolsApart codec messages) ∅ ⟨[], fun _ => none, none⟩ [] []
      ⟨0, [], []⟩ :=
    ⟨rfl, rfl, rfl, rfl, fun _ => rfl, nofun,
      fun _ mem => absurd mem (Finset.notMem_empty _), List.nodup_nil,
      fun _ => List.nodup_nil, fun role => by cases role⟩
  have once : ToolsApart codec messages →
      ∀ names ∈ (turns.filter fun turn => turn.quiet = false).flatMap Turn.tools, names.Nodup := by
    intro apart names mem
    rw [flatMap_loud fun _ => rfl, ← eq] at mem
    exact apart names mem
  obtain ⟨state, run, told⟩ := gemini_told readLoud (all_loud turns) valid.loud once start
  refine ⟨state.contents, ?_, ?_, ?_, fun apart => ?_⟩
  · rw [geminiOf, split]
    exact congrArg (Option.map GeminiState.contents) run
  · rw [← GeminiState.segments, told.entries, List.nil_append, flatMap_loud fun _ => rfl, entriesOf, eq]
  · rw [← GeminiState.segments, told.tools, List.nil_append, flatMap_loud fun _ => rfl, eq]
  · rw [recover, ← GeminiState.segments, told.found apart, foldl_loud, answersOf, eq]
    rfl

lemma anthropic_determines :
    Determines codec anthropicOf messages := by
  intro other otherAccepted eq
  obtain ⟨conversation, built, _, recovered⟩ := anthropic_recovers accepted
  obtain ⟨conversation', built', _, recovered'⟩ := anthropic_recovers otherAccepted
  rw [built, built'] at eq
  cases eq
  exact recovered'.symm.trans recovered

lemma gemini_determines (apart : ToolsApart codec messages) : Determines codec geminiOf messages := by
  intro other otherAccepted eq
  obtain ⟨conversation, built, _, tools, recovered⟩ := gemini_recovers accepted
  obtain ⟨conversation', built', _, tools', recovered'⟩ := gemini_recovers otherAccepted
  rw [built, built'] at eq
  cases eq
  -- the tools of each turn can be read from the conversation
  have apart' : ToolsApart codec other := by
    rw [ToolsApart, ← tools', tools]
    exact apart
  exact (recovered' apart').symm.trans (recovered apart)

end

end

/-! ## The ids of two calls exchanged -/

def ModelToolCall.renamed (σ : String → String) (call : ModelToolCall) : ModelToolCall :=
  { call with id := σ call.id }

def renameCall (σ : String → String) (raw : Json) : Json :=
  match raw with
  | .obj value => .obj (Fields.set value "id" (.str (σ ((strField value "id").getD ""))))
  | other => other

def renameCalls (σ : String → String) (fields : Fields) : Fields :=
  Fields.set fields "tool_calls" (.arr ((rawCalls fields).map (renameCall σ)))

section
variable {codec : JsonCodec} {σ : String → String} {pending pending' : Finset String}
  {fields : Fields}

variable {key : String} {raw : Json} {call : ModelToolCall} {fields' : Fields}

lemma has_of_strField {fields : Fields} {value : String}
    (found : strField fields key = some value) : fields.has key = true := by
  obtain ⟨json, stored, _⟩ := Option.bind_eq_some_iff.1 found
  rw [Fields.has, stored]
  rfl

lemma strField_set_of_ne {fields : Fields} {wanted : String} (present : fields.has key = true)
    (value : Json) (apart : wanted ≠ key) :
    strField (fields.set key value) wanted = strField fields wanted := by
  rw [strField, Fields.get?_set_of_ne present value apart, ← strField]

lemma keysAre_set {fields : Fields} (present : fields.has key = true) (value : Json)
    (keys : List String) : keysAre (fields.set key value) keys = keysAre fields keys := by
  have listed : ∀ other : Fields, keysAre other keys = ((other.map Prod.fst).all (· ∈ keys) &&
      keys.all (· ∈ other.map Prod.fst)) := by
    intro other
    have has : ∀ wanted, other.has wanted = decide (wanted ∈ other.map Prod.fst) := by
      intro wanted
      rw [Bool.eq_iff_iff, Fields.has_iff, decide_eq_true_iff, List.mem_map]
    rw [keysAre, List.all_map, show other.has = fun wanted => _ from funext has]
    rfl
  rw [listed, listed, Fields.keys_set present]

lemma parseToolCall_fields (parsed : parseToolCall codec raw = .ok call) :
    ∃ value, raw = .obj value ∧ strField value "id" = some call.id ∧ call.id ≠ "" := by
  unfold parseToolCall at parsed
  split at parsed
  · next value =>
    split at parsed
    · next kind callId function _ named _ =>
      split at parsed
      · cases parsed
      next shape =>
      obtain ⟨_, nonempty⟩ := not_or.1 shape
      split at parsed
      · cases parsed
      split at parsed
      · cases parsed
      split at parsed
      · cases parsed
      split at parsed
      · cases parsed
      obtain ⟨_, _, rfl⟩ := of_map_ok parsed
      exact ⟨value, rfl, named, nonempty⟩
    · cases parsed
  · cases parsed

lemma parseToolCall_renamed (parsed : parseToolCall codec raw = .ok call)
    (nonempty : σ call.id ≠ "") :
    parseToolCall codec (renameCall σ raw) = .ok (call.renamed σ) := by
  obtain ⟨value, rfl, named, _⟩ := parseToolCall_fields parsed
  have present := has_of_strField named
  have own : strField (Fields.set value "id" (.str (σ call.id))) "id" = some (σ call.id) := by
    rw [strField, Fields.get?_set_self present]
    rfl
  rw [renameCall, named, Option.getD_some]
  unfold parseToolCall at parsed ⊢
  simp only [own, strField_set_of_ne present _ (show "type" ≠ "id" by decide),
    Fields.get?_set_of_ne present _ (show "function" ≠ "id" by decide), named] at parsed ⊢
  split at parsed
  · next kind callId function kindEq callIdEq functionEq =>
    cases callIdEq
    simp only [kindEq, functionEq]
    split at parsed
    · cases parsed
    next shape =>
    rw [not_or] at shape
    rw [if_neg (not_or.2 ⟨shape.1, nonempty⟩)]
    split at parsed
    · cases parsed
    next name _ =>
    split at parsed
    · cases parsed
    next valid =>
    rw [if_neg valid]
    split at parsed
    · cases parsed
    next text _ =>
    split at parsed
    · cases parsed
    next arguments _ =>
    obtain ⟨checked, ok, eq⟩ := of_map_ok parsed
    rw [ok]
    exact congrArg (fun call => Except.ok (call.renamed σ)) eq
  · cases parsed

lemma exactCall_renamed (parsed : parseToolCall codec raw = .ok call)
    (exact_ : exactCall raw = true) : exactCall (renameCall σ raw) = true := by
  obtain ⟨value, rfl, named, _⟩ := parseToolCall_fields parsed
  have present := has_of_strField named
  simp only [renameCall, exactCall, keysAre_set present,
    Fields.get?_set_of_ne present _ (show "function" ≠ "id" by decide)]
  exact exact_

lemma validateCalls_renamed {raws : List Json} (injective : Function.Injective σ)
    (nonempty : ∀ id, id ≠ "" → σ id ≠ "") (run : validateCalls codec pending raws = .ok pending') :
    validateCalls codec (pending.image σ) (raws.map (renameCall σ)) = .ok (pending'.image σ) := by
  induction raws generalizing pending with
  | nil =>
    cases run
    rfl
  | cons raw rest ih =>
    unfold validateCalls at run
    split at run
    · cases run
    next call parsed =>
    obtain ⟨_, _, _, named⟩ := parseToolCall_fields parsed
    split at run
    · cases run
    next exact_ =>
    split at run
    · cases run
    next fresh =>
    have exacts : exactCall (renameCall σ raw) = true :=
      exactCall_renamed parsed (Bool.not_eq_false _ ▸ exact_)
    have fresh' : (call.renamed σ).id ∉ pending.image σ := by
      rw [Finset.mem_image]
      rintro ⟨other, mem, eq⟩
      exact fresh (injective eq ▸ mem)
    rw [List.map_cons, validateCalls, parseToolCall_renamed parsed (nonempty _ named)]
    simp only [exacts, Bool.true_eq_false, if_false]
    rw [if_neg fresh', ← ih run, Finset.image_insert]
    rfl

lemma parseCalls_renamed {raws : List Json} {calls : List ModelToolCall}
    (nonempty : ∀ id, id ≠ "" → σ id ≠ "") (parsed : parseCalls codec raws = some calls) :
    parseCalls codec (raws.map (renameCall σ)) = some (calls.map (ModelToolCall.renamed σ)) := by
  induction raws generalizing calls with
  | nil =>
    obtain rfl := mapM_nil_some parsed
    rfl
  | cons raw rest ih =>
    obtain ⟨call, others, first, later, rfl⟩ := mapM_cons_some parsed
    have ok := ok_of_toOption first
    obtain ⟨_, _, _, named⟩ := parseToolCall_fields ok
    exact parseCalls_cons (parseToolCall_renamed ok (nonempty _ named)) (ih later)

lemma has_rawCalls (some_ : rawCalls fields ≠ []) :
    ∃ raws, fields.get? "tool_calls" = some (.arr raws) ∧ rawCalls fields = raws := by
  unfold rawCalls at some_ ⊢
  cases stored : fields.get? "tool_calls" with
  | none =>
    rw [stored] at some_
    exact absurd rfl some_
  | some json =>
    cases json with
    | arr raws => exact ⟨raws, rfl, rfl⟩
    | null | bool | int | float | str | obj =>
      rw [stored] at some_
      exact absurd rfl some_

/-- A message with calls keeps everything but the ids of the calls. -/
structure Renamed (σ : String → String) (fields fields' : Fields) : Prop where
  others : ∀ key, key ≠ "tool_calls" → fields'.get? key = fields.get? key
  stored : fields'.get? "tool_calls" = some (.arr ((rawCalls fields).map (renameCall σ)))
  keys : fields'.map Prod.fst = fields.map Prod.fst

lemma renamed_renameCalls (some_ : rawCalls fields ≠ []) : Renamed σ fields (renameCalls σ fields) := by
  obtain ⟨raws, stored, _⟩ := has_rawCalls some_
  have present : fields.has "tool_calls" = true := by
    rw [Fields.has, stored]
    rfl
  exact ⟨fun key apart => Fields.get?_set_of_ne present _ apart,
    Fields.get?_set_self present _, Fields.keys_set present _⟩

section
variable (renamed : Renamed σ fields fields')
include renamed

lemma Renamed.strField (apart : key ≠ "tool_calls") :
    ModelGateway.strField fields' key = ModelGateway.strField fields key := by
  rw [ModelGateway.strField, renamed.others key apart, ← ModelGateway.strField]

lemma Renamed.rawCalls :
    ModelGateway.rawCalls fields' = (ModelGateway.rawCalls fields).map (renameCall σ) := by
  rw [ModelGateway.rawCalls, renamed.stored]
  rfl

lemma Renamed.has (key : String) :
    fields'.has key = fields.has key := by
  have listed : ∀ other : Fields, (∃ field ∈ other, field.1 = key) ↔ key ∈ other.map Prod.fst :=
    fun _ => List.mem_map.symm
  rw [Bool.eq_iff_iff, Fields.has_iff, Fields.has_iff, listed, listed, renamed.keys]

lemma Renamed.validateContent {role : String} (injective : Function.Injective σ)
    (nonempty : ∀ id, id ≠ "" → σ id ≠ "") (some_ : ModelGateway.rawCalls fields ≠ [])
    (run : validateContent codec role fields = .ok pending) :
    ModelGateway.validateContent codec role fields' = .ok (pending.image σ) := by
  obtain ⟨raws, stored, eq⟩ := has_rawCalls some_
  have present : fields.has "tool_calls" = true := by
    rw [Fields.has, stored]
    rfl
  rw [eq] at some_
  have content : badContent fields' = badContent fields := by
    rw [badContent, badContent, renamed.others "content" (by decide)]
  unfold ModelGateway.validateContent at run ⊢
  rw [renamed.has, if_pos present, renamed.stored, eq, content]
  rw [if_pos present, stored] at run
  simp only [Option.bind_some, Json.values?] at run ⊢
  split at run
  · cases run
  next shape =>
  rw [not_or] at shape
  rw [if_neg (not_or.2 ⟨shape.1, fun empty => some_ (List.map_eq_nil_iff.1 empty)⟩)]
  split at run
  · cases run
  next readable =>
  rw [if_neg readable, ← Finset.image_empty σ]
  exact validateCalls_renamed injective nonempty run

lemma Renamed.validateMessage (injective : Function.Injective σ)
    (nonempty : ∀ id, id ≠ "" → σ id ≠ "")
    (assistant : ModelGateway.strField fields "role" = some "assistant")
    (some_ : ModelGateway.rawCalls fields ≠ []) (fixed : pending'.image σ = pending')
    (run : validateMessage codec pending (.obj fields) = .ok pending') :
    ModelGateway.validateMessage codec pending (.obj fields') = .ok pending' := by
  have allowed : ∀ other : Fields, (other.any fun field => field.1 ∉ allowedKeys "assistant")
      = (other.map Prod.fst).any fun key => key ∉ allowedKeys "assistant" := by
    intro other
    rw [List.any_map]
    rfl
  unfold ModelGateway.validateMessage at run ⊢
  simp only [renamed.strField (show "role" ≠ "tool_calls" by decide), assistant,
    if_neg (show ¬ "assistant" ∉ ["system", "user", "assistant", "tool"] by decide),
    if_neg (show ¬ "assistant" = "tool" by decide), allowed, renamed.keys] at run ⊢
  split at run
  · cases run
  next known =>
  split at run
  · cases run
  next idle =>
  unfold validateTurn at run ⊢
  split at run
  · cases run
  next found content =>
  rw [if_neg known, if_neg idle, renamed.validateContent injective nonempty some_ content, renamed.has]
  simp only
  split at run
  · cases run
  next plain =>
  cases run
  rw [if_neg plain, fixed]

lemma Renamed.readFields (nonempty : ∀ id, id ≠ "" → σ id ≠ "")
    (assistant : ModelGateway.strField fields "role" = some "assistant")
    (some_ : ModelGateway.rawCalls fields ≠ []) {calls : List ModelToolCall}
    (parsed : parseCalls codec (ModelGateway.rawCalls fields) = some calls) :
    ModelGateway.readFields codec fields'
      = some (.calls (spoken fields) (calls.map (ModelToolCall.renamed σ))) := by
  have said : spoken fields' = spoken fields := by
    rw [spoken, spoken, renamed.strField (by decide)]
  have some' : (ModelGateway.rawCalls fields).map (renameCall σ) ≠ [] :=
    fun empty => some_ (List.map_eq_nil_iff.1 empty)
  rw [ModelGateway.readFields, renamed.strField (by decide), assistant]
  simp only [if_neg (show ¬ "assistant" = "tool" by decide),
    if_neg (show ¬ "assistant" = "system" by decide), renamed.rawCalls, if_pos some', if_true,
    parseCalls_renamed nonempty parsed, said, Option.map_some]

lemma Renamed.geminiMessage (nonempty : ∀ id, id ≠ "" → σ id ≠ "")
    (assistant : ModelGateway.strField fields "role" = some "assistant")
    (some_ : ModelGateway.rawCalls fields ≠ []) {calls : List ModelToolCall}
    (parsed : parseCalls codec (ModelGateway.rawCalls fields) = some calls)
    (learned : ∀ names, learnNames names (calls.map (ModelToolCall.renamed σ))
      = learnNames names calls)
    (state : GeminiState) :
    ModelGateway.geminiMessage codec state fields' = ModelGateway.geminiMessage codec state fields := by
  have said : spoken fields' = spoken fields := by
    rw [spoken, spoken, renamed.strField (by decide)]
  have some' : (ModelGateway.rawCalls fields).map (renameCall σ) ≠ [] :=
    fun empty => some_ (List.map_eq_nil_iff.1 empty)
  have parsed' := parseCalls_renamed nonempty parsed
  rw [parseCalls] at parsed parsed'
  unfold ModelGateway.geminiMessage
  rw [renamed.strField (by decide), assistant, renamed.rawCalls, said]
  simp [some_, parsed, parsed', learned]
  exact fun _ _ => ⟨rfl, rfl⟩

end

def exchange (first second : String) : String → String := Equiv.swap first second

variable {first second : String}

lemma exchange_injective : Function.Injective (exchange first second) :=
  (Equiv.swap first second).injective

lemma exchange_nonempty (firstSome : first ≠ "") (secondSome : second ≠ "") (id : String)
    (nonempty : id ≠ "") : exchange first second id ≠ "" := by
  unfold exchange
  rw [Equiv.swap_apply_def]
  split
  · exact secondSome
  split
  · exact firstSome
  exact nonempty

lemma image_exchange {ids : Finset String} (firstIn : first ∈ ids) (secondIn : second ∈ ids) :
    ids.image (exchange first second) = ids := by
  have kept : ∀ id ∈ ids, exchange first second id ∈ ids := by
    intro id mem
    unfold exchange
    rw [Equiv.swap_apply_def]
    split
    · exact secondIn
    split
    · exact firstIn
    exact mem
  refine Finset.eq_of_subset_of_card_le ?_ ?_
  · intro id mem
    obtain ⟨other, otherIn, rfl⟩ := Finset.mem_image.1 mem
    exact kept other otherIn
  · rw [Finset.card_image_of_injective _ exchange_injective]

lemma learnNames_exchange {calls : List ModelToolCall}
    (apart : (calls.map ModelToolCall.id).Nodup) {left right : ModelToolCall}
    (leftIn : left ∈ calls) (rightIn : right ∈ calls) (eq : left.name = right.name)
    (names : String → Option String) :
    learnNames names (calls.map (ModelToolCall.renamed (exchange left.id right.id)))
      = learnNames names calls := by
  have ids : (calls.map (ModelToolCall.renamed (exchange left.id right.id))).map ModelToolCall.id
      = (calls.map ModelToolCall.id).map (exchange left.id right.id) := by
    rw [List.map_map, List.map_map]
    rfl
  have apart' : ((calls.map (ModelToolCall.renamed (exchange left.id right.id))).map
      ModelToolCall.id).Nodup := by
    rw [ids]
    exact apart.map exchange_injective
  funext id
  by_cases known : id ∈ calls.map ModelToolCall.id
  · obtain ⟨call, mem, rfl⟩ := List.mem_map.1 known
    rw [learnNames_own apart mem]
    -- the call that has this id after the exchange
    obtain ⟨other, otherIn, otherId, otherName⟩ : ∃ other ∈ calls,
        exchange left.id right.id other.id = call.id ∧ other.name = call.name := by
      have unique : ∀ one ∈ calls, ∀ two ∈ calls, one.id = two.id → one.name = two.name := by
        intro one oneIn two twoIn equal
        rw [List.inj_on_of_nodup_map apart oneIn twoIn equal]
      by_cases isLeft : call.id = left.id
      · refine ⟨right, rightIn, ?_, ?_⟩
        · rw [exchange, Equiv.swap_apply_right, isLeft]
        rw [← eq, unique call mem left leftIn isLeft]
      · by_cases isRight : call.id = right.id
        · refine ⟨left, leftIn, ?_, ?_⟩
          · rw [exchange, Equiv.swap_apply_left, isRight]
          rw [eq, unique call mem right rightIn isRight]
        · exact ⟨call, mem, Equiv.swap_apply_of_ne_of_ne isLeft isRight, rfl⟩
    have renamed : learnNames names
        (calls.map (ModelToolCall.renamed (exchange left.id right.id))) _ = some _ :=
      learnNames_own apart' (List.mem_map_of_mem otherIn : other.renamed _ ∈ _)
    rw [← otherId, ← otherName]
    exact renamed
  · rw [learnNames_other known, learnNames_other]
    rw [ids]
    intro mem
    obtain ⟨other, otherIn, rfl⟩ := List.mem_map.1 mem
    obtain ⟨call, callIn, rfl⟩ := List.mem_map.1 otherIn
    unfold exchange at known
    rw [Equiv.swap_apply_def] at known
    split at known
    · exact known (List.mem_map_of_mem rightIn)
    split at known
    · exact known (List.mem_map_of_mem leftIn)
    exact known (List.mem_map_of_mem callIn)

end

section
variable {codec : JsonCodec} {pending pending' : Finset String}

lemma found_kept (turns : List Turn) {trail : Trail} {position : Nat}
    (bound : position < trail.found.length) :
    (turns.foldl Trail.step trail).found[position]? = trail.found[position]? := by
  induction turns generalizing trail with
  | nil => rfl
  | cons turn rest ih =>
    rw [List.foldl_cons]
    cases turn with
    | system content => exact ih bound
    | say speaker content => cases speaker <;> exact ih bound
    | calls texts calls => exact ih bound
    | result callId content =>
      rw [ih (by rw [Trail.step, List.length_append]; exact Nat.lt_add_right _ bound), Trail.step]
      exact List.getElem?_append_left bound

lemma found_differs {turns : List Turn} (valid : Valid pending turns) {callId : String}
    (open_ : callId ∈ pending) {left right : Trail} (offset : left.offset = right.offset)
    (length : left.found.length = right.found.length)
    (apart : (left.calls.map ModelToolCall.id).idxOf callId
      ≠ (right.calls.map ModelToolCall.id).idxOf callId) :
    (turns.foldl Trail.step left).found ≠ (turns.foldl Trail.step right).found := by
  induction valid generalizing left right with
  | nil => exact absurd open_ (Finset.notMem_empty _)
  | @cons pending pending' turn rest admits valid ih =>
    cases admits with
    | system | say | calls => exact absurd open_ (Finset.notMem_empty _)
    | result _ other content mem =>
      rw [List.foldl_cons, List.foldl_cons]
      by_cases own : other = callId
      · subst own
        intro eq
        have answer : ∀ trail : Trail, trail.found.length = left.found.length →
            (rest.foldl Trail.step (trail.step (.result other content))).found[left.found.length]?
              = some (trail.offset + (trail.calls.map ModelToolCall.id).idxOf other) := by
          intro trail equal
          rw [found_kept rest (by rw [Trail.step, List.length_append, equal]; simp), ← equal]
          exact List.getElem?_concat_length ..
        have equal := answer left rfl
        rw [eq, answer right length.symm, Option.some.injEq, offset] at equal
        exact apart (Nat.add_left_cancel equal).symm
      · refine ih (Finset.mem_erase.2 ⟨Ne.symm own, open_⟩) offset ?_ apart
        simp [Trail.step, length]

lemma mapM_append_cons_some {α β : Type} {f : α → Option β} {items : List α}
    {before after : List β} {value : β} (run : items.mapM f = some (before ++ value :: after)) :
    ∃ first item last, items = first ++ item :: last ∧ first.mapM f = some before ∧
      f item = some value ∧ last.mapM f = some after := by
  induction before generalizing items with
  | nil =>
    cases items with
    | nil => cases mapM_nil_some run
    | cons item rest =>
      obtain ⟨found, others, this, later, eq⟩ := mapM_cons_some run
      cases eq
      exact ⟨[], item, rest, rfl, rfl, this, later⟩
  | cons one before ih =>
    cases items with
    | nil => cases mapM_nil_some run
    | cons item rest =>
      obtain ⟨found, others, this, later, eq⟩ := mapM_cons_some run
      cases eq
      obtain ⟨first, chosen, last, rfl, firsts, own, lasts⟩ := ih later
      refine ⟨item :: first, chosen, last, rfl, ?_, own, lasts⟩
      rw [List.mapM_cons, this, firsts]
      rfl

lemma validateMessages_replaced {before after : List Json} {message message' : Json}
    (replaced : ∀ pending pending', validateMessage codec pending message = .ok pending' →
      validateMessage codec pending message' = .ok pending')
    (run : validateMessages codec pending (before ++ message :: after) = .ok pending') :
    validateMessages codec pending (before ++ message' :: after) = .ok pending' := by
  induction before generalizing pending with
  | nil =>
    rw [List.nil_append, validateMessages] at run ⊢
    split at run
    · cases run
    next found valid =>
    rw [replaced _ _ valid]
    exact run
  | cons first rest ih =>
    rw [List.cons_append, validateMessages] at run ⊢
    split at run
    · cases run
    exact ih run

lemma splitMessages_replaced {before after : List Json} {fields fields' : Fields}
    (role : strField fields "role" = some "assistant")
    (role' : strField fields' "role" = some "assistant") {systemParts : List String}
    {conversation : List Fields}
    (split_ : splitMessages (before ++ .obj fields :: after) = some (systemParts, conversation)) :
    ∃ first last, conversation = first ++ fields :: last ∧
      splitMessages (before ++ .obj fields' :: after)
        = some (systemParts, first ++ fields' :: last) := by
  induction before generalizing systemParts conversation with
  | nil =>
    simp only [List.nil_append, splitMessages, Json.fields?_obj, Option.bind_eq_bind,
      Option.bind_some, role, role'] at split_ ⊢
    obtain ⟨found, rest, eq⟩ := Option.bind_eq_some_iff.1 split_
    cases eq
    rw [rest]
    exact ⟨[], found.2, rfl, rfl⟩
  | cons message rest ih =>
    simp only [List.cons_append, splitMessages, Option.bind_eq_bind] at split_ ⊢
    obtain ⟨own, object, split_⟩ := Option.bind_eq_some_iff.1 split_
    obtain ⟨kind, named, split_⟩ := Option.bind_eq_some_iff.1 split_
    obtain ⟨⟨parts, others⟩, found, split_⟩ := Option.bind_eq_some_iff.1 split_
    obtain ⟨first, last, rfl, replaced⟩ := ih found
    rw [object, Option.bind_some, named, Option.bind_some, replaced, Option.bind_some]
    split at split_
    · next system =>
      obtain ⟨content, said, eq⟩ := Option.bind_eq_some_iff.1 split_
      cases eq
      rw [if_pos system, said]
      exact ⟨first, last, rfl, rfl⟩
    · next other =>
      cases split_
      rw [if_neg other]
      exact ⟨own :: first, last, rfl, rfl⟩

end

/-! ## The history with the exchanged ids -/

section
variable {codec : JsonCodec} {messages : List Json} {fields : Fields} {texts : List String}
  {calls : List ModelToolCall} {left right : ModelToolCall}

structure Twice (codec : JsonCodec) (fields : Fields) (calls : List ModelToolCall)
    (left right : ModelToolCall) : Prop where
  assistant : strField fields "role" = some "assistant"
  some_ : rawCalls fields ≠ []
  parsed : parseCalls codec (rawCalls fields) = some calls
  apart : (calls.map ModelToolCall.id).Nodup
  leftIn : left ∈ calls
  rightIn : right ∈ calls
  same : left.name = right.name

def exchanged (fields : Fields) (left right : ModelToolCall) : Fields :=
  renameCalls (exchange left.id right.id) fields

lemma parseCalls_ids {raws : List Json} (parsed : parseCalls codec raws = some calls) :
    ∀ call ∈ calls, call.id ≠ "" := by
  induction raws generalizing calls with
  | nil =>
    obtain rfl := mapM_nil_some parsed
    exact nofun
  | cons raw rest ih =>
    obtain ⟨call, others, first, later, rfl⟩ := mapM_cons_some parsed
    obtain ⟨_, _, _, named⟩ := parseToolCall_fields (ok_of_toOption first)
    exact List.forall_mem_cons.2 ⟨named, ih later⟩

section
variable (twice : Twice codec fields calls left right)
include twice

lemma Twice.nonempty (id : String) (some_ : id ≠ "") :
    exchange left.id right.id id ≠ "" :=
  exchange_nonempty (parseCalls_ids twice.parsed left twice.leftIn)
    (parseCalls_ids twice.parsed right twice.rightIn) id some_

lemma Twice.renamed :
    Renamed (exchange left.id right.id) fields (exchanged fields left right) :=
  renamed_renameCalls twice.some_

lemma Twice.readFields :
    readFields codec fields = some (.calls (spoken fields) calls) := by
  rw [ModelGateway.readFields, twice.assistant]
  simp only [if_neg (show ¬ "assistant" = "tool" by decide),
    if_neg (show ¬ "assistant" = "system" by decide), if_pos twice.some_, if_true, twice.parsed,
    Option.map_some]

lemma Twice.validated (pending pending' : Finset String)
    (run : validateMessage codec pending (.obj fields) = .ok pending') :
    validateMessage codec pending (.obj (exchanged fields left right)) = .ok pending' := by
  obtain ⟨turn, read, admits⟩ := validateMessage_ok run
  rw [readTurn, Json.fields?_obj, Option.bind_some, twice.readFields] at read
  cases read
  cases admits with
  | calls =>
    refine twice.renamed.validateMessage exchange_injective twice.nonempty twice.assistant
      twice.some_ (image_exchange ?_ ?_) run
    · exact List.mem_toFinset.2 (List.mem_map_of_mem twice.leftIn)
    exact List.mem_toFinset.2 (List.mem_map_of_mem twice.rightIn)

end

variable {before after : List Json}

section
variable (twice : Twice codec fields calls left right)
include twice

lemma Twice.accepted
    (accepted : validateToolHistory codec (before ++ .obj fields :: after) = .ok ()) :
    validateToolHistory codec (before ++ .obj (exchanged fields left right) :: after) = .ok () := by
  unfold validateToolHistory at accepted ⊢
  split at accepted
  · cases accepted
  next pending run =>
  rw [validateMessages_replaced twice.validated run]
  exact accepted

lemma Twice.geminiOf
    (accepted : validateToolHistory codec (before ++ .obj fields :: after) = .ok ()) :
    geminiOf codec (before ++ .obj (exchanged fields left right) :: after)
      = geminiOf codec (before ++ .obj fields :: after) := by
  obtain ⟨_, systemParts, conversation, _, _, _, split_, parts, _⟩ := accepted_turns accepted
  have role' : strField (exchanged fields left right) "role" = some "assistant" := by
    rw [twice.renamed.strField (by decide)]
    exact twice.assistant
  obtain ⟨first, last, rfl, replaced⟩ := splitMessages_replaced twice.assistant role' split_
  have parts' : splitSystemMessages codec (before ++ .obj (exchanged fields left right) :: after)
      = .ok ("\n\n".intercalate systemParts, first ++ exchanged fields left right :: last) := by
    rw [splitSystemMessages, twice.accepted accepted, replaced]
    rfl
  have step : ∀ state, geminiMessage codec state (exchanged fields left right)
      = geminiMessage codec state fields :=
    twice.renamed.geminiMessage twice.nonempty twice.assistant twice.some_ twice.parsed
      (learnNames_exchange twice.apart twice.leftIn twice.rightIn twice.same)
  rw [ModelGateway.geminiOf, ModelGateway.geminiOf, parts, parts']
  simp only [Except.toOption, Option.bind_some, geminiConversation, List.foldlM_append,
    List.foldlM_cons, step]

lemma Twice.turns {first last : List Turn} (firsts : before.mapM (readTurn codec) = some first)
    (lasts : after.mapM (readTurn codec) = some last) :
    turnsOf codec (before ++ .obj (exchanged fields left right) :: after)
      = first ++ .calls (spoken fields)
        (calls.map (ModelToolCall.renamed (exchange left.id right.id))) :: last := by
  have own : readTurn codec (.obj (exchanged fields left right)) = some (.calls (spoken fields)
        (calls.map (ModelToolCall.renamed (exchange left.id right.id)))) :=
    twice.renamed.readFields twice.nonempty twice.assistant twice.some_ twice.parsed
  rw [turnsOf, List.mapM_append, firsts, List.mapM_cons, own, lasts]
  rfl

lemma Twice.moved (other : left.id ≠ right.id) :
    (calls.map ModelToolCall.id).idxOf left.id
      ≠ ((calls.map (ModelToolCall.renamed (exchange left.id right.id))).map
        ModelToolCall.id).idxOf left.id := by
  obtain ⟨position, placed⟩ := List.mem_iff_getElem?.1 twice.leftIn
  obtain ⟨position', placed'⟩ := List.mem_iff_getElem?.1 twice.rightIn
  have renamedApart : (calls.map fun call => exchange left.id right.id call.id).Nodup := by
    have injective : Function.Injective (exchange left.id right.id) := exchange_injective
    have mapped := twice.apart.map injective
    rw [List.map_map] at mapped
    exact mapped
  have place := idxOf_map twice.apart placed
  have place' := idxOf_map renamedApart placed'
  rw [show exchange left.id right.id right.id = left.id from Equiv.swap_apply_right ..] at place'
  rw [List.map_map, place]
  change position ≠ (calls.map fun call => exchange left.id right.id call.id).idxOf left.id
  rw [place']
  rintro rfl
  rw [placed] at placed'
  exact other (congrArg ModelToolCall.id (Option.some.inj placed'))

end

lemma Valid.at_calls {pending : Finset String} {before after : List Turn}
    (valid : Valid pending (before ++ .calls texts calls :: after)) :
    (calls.map ModelToolCall.id).Nodup ∧ Valid (calls.map ModelToolCall.id).toFinset after := by
  induction before generalizing pending with
  | nil =>
    cases valid with
    | cons admits valid =>
      cases admits with
      | calls _ _ _ apart => exact ⟨apart, valid⟩
  | cons turn rest ih =>
    cases valid with
    | cons admits valid => exact ih valid

lemma gemini_confuses (accepted : validateToolHistory codec messages = .ok ())
    (twice : ¬ ToolsApart codec messages) : ¬ Determines codec geminiOf messages := by
  obtain ⟨turns, _, _, eq, read, valid, _, _, _⟩ := accepted_turns accepted
  -- the turn and its two calls
  obtain ⟨texts, calls, turnIn, repeated⟩ : ∃ texts calls, Turn.calls texts calls ∈ turns ∧
      ¬ (calls.map ModelToolCall.name).Nodup := by
    simp only [ToolsApart, eq, List.mem_flatMap, not_forall] at twice
    obtain ⟨names, ⟨turn, mem, named⟩, repeated⟩ := twice
    cases turn with
    | calls texts calls =>
      rw [List.mem_singleton.1 named] at repeated
      exact ⟨texts, calls, mem, repeated⟩
    | system | say | result => cases named
  obtain ⟨before, after, rfl⟩ := List.append_of_mem turnIn
  obtain ⟨first, message, last, rfl, firsts, own, lasts⟩ := mapM_append_cons_some read
  obtain ⟨fields, object, readOwn⟩ := Option.bind_eq_some_iff.1 own
  obtain ⟨apart, validAfter⟩ := valid.at_calls
  obtain rfl : message = .obj fields := by
    cases message <;> cases object
    rfl
  obtain ⟨left, leftIn, right, rightIn, other, name⟩ : ∃ left ∈ calls, ∃ right ∈ calls,
      left.id ≠ right.id ∧ left.name = right.name := by
    rw [List.Nodup, List.pairwise_map, List.pairwise_iff_getElem] at repeated
    push Not at repeated
    obtain ⟨i, j, hi, hj, less, name⟩ := repeated
    refine ⟨calls[i], List.getElem_mem _, calls[j], List.getElem_mem _, ?_, name⟩
    rw [List.Nodup, List.pairwise_map, List.pairwise_iff_getElem] at apart
    exact apart i j hi hj less
  cases reads readOwn with
  | calls _ assistant some_ parsed =>
    have confusing : Twice codec fields calls left right :=
      ⟨assistant, some_, parsed, apart, leftIn, rightIn, name⟩
    intro determines
    have answers := determines _ (confusing.accepted accepted) (confusing.geminiOf accepted)
    rw [answersOf, answersOf, eq, confusing.turns firsts lasts, pairings, pairings,
      List.foldl_append, List.foldl_append, List.foldl_cons, List.foldl_cons] at answers
    refine absurd answers.symm (found_differs validAfter ?_ rfl rfl (confusing.moved other))
    exact List.mem_toFinset.2 (List.mem_map_of_mem leftIn)

/-- The two conversations preserve a history exactly where no turn calls a tool twice. -/
theorem preserved_iff (accepted : validateToolHistory codec messages = .ok ()) :
    Preserved codec messages ↔ ToolsApart codec messages := by
  constructor
  · intro preserved
    by_contra twice
    exact gemini_confuses accepted twice preserved.geminiPaired
  · intro apart
    obtain ⟨anthropic, anthropicBuilt, anthropicEntries, _⟩ := anthropic_recovers accepted
    obtain ⟨gemini, geminiBuilt, geminiEntries, _, _⟩ := gemini_recovers accepted
    exact ⟨⟨anthropic, anthropicBuilt, anthropicEntries⟩, ⟨gemini, geminiBuilt, geminiEntries⟩,
      anthropic_determines accepted, gemini_determines accepted apart⟩

end

def sampleCodec : JsonCodec where
  loads text := if text = "{}" then some (.obj []) else none
  dumps _ := true

def sampleCall (id name : String) : Json :=
  .obj [("id", .str id), ("type", .str "function"),
    ("function", .obj [("name", .str name), ("arguments", .str "{}")])]

/-- Two parallel calls of two tools, whose results arrive in the other order. -/
def sampleHistory (first second : String) : List Json :=
  [.obj [("role", .str "user"), ("content", .str "check the service")],
    .obj [("role", .str "assistant"), ("content", .null),
      ("tool_calls", .arr [sampleCall "call_0" first, sampleCall "call_1" second])],
    .obj [("role", .str "tool"), ("tool_call_id", .str "call_1"), ("content", .str "no errors")],
    .obj [("role", .str "tool"), ("tool_call_id", .str "call_0"), ("content", .str "1")]]

theorem preserved_iff_parallel : Preserved sampleCodec (sampleHistory "metric_query" "log_search") := by
  have apart : ToolsApart sampleCodec (sampleHistory "metric_query" "log_search") := by
    intro names member
    have only : names = ["metric_query", "log_search"] := List.mem_singleton.1 member
    rw [only]
    decide
  exact (preserved_iff rfl).2 apart

/-- Two calls of one tool. -/
theorem parallel_calls_confused : ¬ Preserved sampleCodec (sampleHistory "query" "query") := by
  intro preserved
  have twice : ¬ ToolsApart sampleCodec (sampleHistory "query" "query") := by
    intro apart
    have repeated := apart ["query", "query"] List.mem_cons_self
    exact absurd repeated (by decide)
  exact gemini_confuses rfl twice preserved.geminiPaired

end Obsion.ModelGateway
