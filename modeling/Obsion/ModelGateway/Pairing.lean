import Obsion.ModelGateway.Wire

/-! # Which call a result answers

`pairings` counts, for each result of a history, the call it answers.  Anthropic's
conversation always determines it; Gemini's knows a call by the name of its tool, and
determines it where no turn calls a tool twice. -/

namespace Obsion.ModelGateway

/-- The calls before the last turn with calls, those of that turn, and the calls that the
results so far have answered. -/
structure Trail where
  offset : Nat
  calls : List ModelToolCall
  found : List Nat

def Trail.next (trail : Trail) : Trail := ⟨trail.offset + trail.calls.length, [], trail.found⟩

def Trail.step (trail : Trail) : Turn → Trail
  | .system _ | .say .user _ => trail
  | .say .assistant _ => trail.next
  | .calls _ calls => { trail.next with calls }
  | .result callId _ =>
    { trail with
      found := trail.found ++ [trail.offset + (trail.calls.map ModelToolCall.id).idxOf callId] }

def pairings (turns : List Turn) : List Nat := (turns.foldl Trail.step ⟨0, [], []⟩).found

def Turn.quiet : Turn → Bool
  | .system _ => true
  | _ => false

def Turn.tools : Turn → List (List String)
  | .calls _ made => [made.map ModelToolCall.name]
  | _ => []

section
variable {codec : JsonCodec} {fields : Fields} {turn : Turn} {pending pending' : Finset String}

inductive Reads (codec : JsonCodec) (fields : Fields) : Turn → Prop
  | system (content : String) (role : strField fields "role" = some "system")
      (said : strField fields "content" = some content) : Reads codec fields (.system content)
  | user (content : String) (role : strField fields "role" = some "user")
      (none_ : rawCalls fields = []) (said : strField fields "content" = some content) :
      Reads codec fields (.say .user content)
  | assistant (content : String) (role : strField fields "role" = some "assistant")
      (none_ : rawCalls fields = []) (said : strField fields "content" = some content) :
      Reads codec fields (.say .assistant content)
  | calls (calls : List ModelToolCall) (role : strField fields "role" = some "assistant")
      (some_ : rawCalls fields ≠ []) (parsed : parseCalls codec (rawCalls fields) = some calls) :
      Reads codec fields (.calls (spoken fields) calls)
  | result (callId content : String) (role : strField fields "role" = some "tool")
      (named : strField fields "tool_call_id" = some callId)
      (said : strField fields "content" = some content) :
      Reads codec fields (.result callId content)

lemma reads (read : readFields codec fields = some turn) : Reads codec fields turn := by
  unfold readFields at read
  split at read
  · cases read
  next role named =>
  split at read
  · next tool =>
    subst tool
    split at read
    · next callId content own said =>
      cases read
      exact .result callId content named own said
    · cases read
  · split at read
    · next quiet =>
      subst quiet
      obtain ⟨content, said, rfl⟩ := Option.map_eq_some_iff.1 read
      exact .system content named said
    · split at read
      · next some_ =>
        split at read
        · next assistant =>
          subst assistant
          obtain ⟨calls, parsed, rfl⟩ := Option.map_eq_some_iff.1 read
          exact .calls calls named some_ parsed
        · cases read
      · next none_ =>
        have empty := Decidable.not_not.1 none_
        split at read
        · next assistant =>
          subst assistant
          obtain ⟨content, said, rfl⟩ := Option.map_eq_some_iff.1 read
          exact .assistant content named empty said
        · split at read
          · next user =>
            subst user
            obtain ⟨content, said, rfl⟩ := Option.map_eq_some_iff.1 read
            exact .user content named empty said
          · cases read

def AnthropicMessage.segments (messages : List AnthropicMessage) : List Segment :=
  messages.map AnthropicMessage.segment

def Trail.byId (trail : Trail) : Matching :=
  ⟨trail.offset, trail.calls.map ModelToolCall.id, trail.found⟩

/-- The conversation says what the turns say, and tells which calls the results answer. -/
structure AnthropicTold (messages : List AnthropicMessage) (entries : List Entry) (trail : Trail) :
    Prop where
  entries : (AnthropicMessage.segments messages).flatMap Segment.entries = entries
  matched : matched (AnthropicMessage.segments messages) = trail.byId

variable {messages : List AnthropicMessage} {entries : List Entry} {trail : Trail}
  {turns : List Turn} {calls : List ModelToolCall} {state : GeminiState}

lemma told_append (told : AnthropicTold messages entries trail) {message : AnthropicMessage}
    {more : List Entry} {trail' : Trail} (eq : message.segment.entries = more)
    (moved : trail.byId.segment message.segment = trail'.byId) :
    AnthropicTold (messages ++ [message]) (entries ++ more) trail' := by
  constructor
  · rw [AnthropicMessage.segments, List.map_append, List.flatMap_append, ← told.entries, ← eq]
    exact congrArg _ (List.append_nil _)
  rw [AnthropicMessage.segments, List.map_append, List.map_cons, List.map_nil, matched_append,
    ← AnthropicMessage.segments, told.matched, moved]

def callBlocks (texts : List String) (calls : List ModelToolCall) : List AnthropicBlock :=
  texts.map .text ++ calls.map fun call => .toolUse call.id call.name call.arguments

lemma segment_anthropicCalls (texts : List String) (calls : List ModelToolCall) :
    AnthropicMessage.segment ⟨"assistant", .blocks (callBlocks texts calls)⟩
      = ⟨.assistant, callItems ModelToolCall.id texts calls⟩ := by
  simp only [AnthropicMessage.segment, callBlocks, callItems, List.map_append, List.map_map]
  rfl

lemma anthropicMessage_told (told : AnthropicTold messages entries trail)
    (read : Reads codec fields turn) (loud : turn.quiet = false) :
    ∃ messages', anthropicMessage codec messages fields = some messages' ∧
      AnthropicTold messages' (entries ++ turn.entries) (trail.step turn) := by
  unfold anthropicMessage
  cases read with
  | system content role said => cases loud
  | user content role none_ said =>
    refine ⟨messages ++ [⟨"user", .plain content⟩], ?_, told_append told rfl rfl⟩
    rw [role]
    simp [none_, said]
  | assistant content role none_ said =>
    refine ⟨messages ++ [⟨"assistant", .plain content⟩], ?_, told_append told rfl ?_⟩
    · rw [role]
      simp [none_, said]
    simp [AnthropicMessage.segment, Matching.segment, Matching.item, Matching.next, Trail.byId,
      Trail.step, Trail.next]
  | calls calls role some_ parsed =>
    refine ⟨messages ++ [⟨"assistant", .blocks (callBlocks (spoken fields) calls)⟩], ?_,
      told_append told ?_ ?_⟩
    · rw [role]
      simp only [parseCalls] at parsed
      simp [some_, parsed, callBlocks]
    · rw [segment_anthropicCalls, entries_callItems]
    · rw [segment_anthropicCalls, segment_callItems]
      simp only [Trail.byId, Trail.step, Trail.next, Matching.next, List.length_map]
  | result callId content role named said =>
    have pushed := pushed_push messages (.toolResult callId content)
    refine ⟨AnthropicMessage.push messages (.toolResult callId content), ?_, ?_, ?_⟩
    · rw [role]
      simp [named, said]
    · rw [AnthropicMessage.segments, Pushed.entries pushed, ← AnthropicMessage.segments, told.entries]
      rfl
    · rw [AnthropicMessage.segments, Pushed.matched pushed, ← AnthropicMessage.segments, told.matched]
      rfl

variable {conversation : List Fields} {names : String → Option String} {call : ModelToolCall}
  {single : Prop}

lemma anthropic_told (read : conversation.mapM (readFields codec) = some turns)
    (loud : ∀ turn ∈ turns, turn.quiet = false) (told : AnthropicTold messages entries trail) :
    ∃ messages', conversation.foldlM (anthropicMessage codec) messages = some messages' ∧
      AnthropicTold messages' (entries ++ turns.flatMap Turn.entries)
        (turns.foldl Trail.step trail) := by
  induction conversation generalizing turns messages entries trail with
  | nil =>
    obtain rfl := mapM_nil_some read
    refine ⟨messages, rfl, ?_⟩
    rw [List.flatMap_nil, List.append_nil]
    exact told
  | cons fields rest ih =>
    obtain ⟨turn, others, first, later, rfl⟩ := mapM_cons_some read
    obtain ⟨firstLoud, othersLoud⟩ := List.forall_mem_cons.1 loud
    obtain ⟨middle, run, middleTold⟩ := anthropicMessage_told told (reads first) firstLoud
    obtain ⟨last, lastRun, lastTold⟩ := ih later othersLoud middleTold
    refine ⟨last, ?_, ?_⟩
    · rw [List.foldlM_cons, run]
      exact lastRun
    rw [List.flatMap_cons, ← List.append_assoc]
    exact lastTold

/-! ## Gemini -/

def GeminiState.segments (state : GeminiState) : List Segment :=
  state.contents.map GeminiContent.segment

lemma learnNames_other {callId : String} (absent : callId ∉ calls.map ModelToolCall.id) :
    learnNames names calls callId = names callId := by
  induction calls generalizing names with
  | nil => rfl
  | cons call rest ih =>
    rw [List.map_cons, List.mem_cons, not_or] at absent
    rw [learnNames, List.foldl_cons, ← learnNames, ih absent.2, Function.update_of_ne absent.1]

lemma learnNames_own (apart : (calls.map ModelToolCall.id).Nodup) (mem : call ∈ calls) :
    learnNames names calls call.id = some call.name := by
  induction calls generalizing names with
  | nil => cases mem
  | cons first rest ih =>
    rw [List.map_cons, List.nodup_cons] at apart
    rw [learnNames, List.foldl_cons, ← learnNames]
    rcases List.mem_cons.1 mem with rfl | later
    · rw [learnNames_other apart.1, Function.update_self]
    exact ih apart.2 later

lemma idxOf_map {keyOf : ModelToolCall → String} (apart : (calls.map keyOf).Nodup) {position : Nat}
    (placed : calls[position]? = some call) :
    (calls.map keyOf).idxOf (keyOf call) = position := by
  obtain ⟨bound, rfl⟩ := List.getElem?_eq_some_iff.1 placed
  have bound' : position < (calls.map keyOf).length := by
    rw [List.length_map]
    exact bound
  have at_ : (calls.map keyOf)[position] = keyOf calls[position] := List.getElem_map ..
  rw [← at_]
  exact apart.idxOf_getElem position bound'

/-- What a state of the transcription tells, as far as no turn has called a tool twice. -/
structure GeminiTold (single : Prop) (pending : Finset String) (state : GeminiState)
    (entries : List Entry) (tools : List (List String)) (trail : Trail) : Prop where
  entries : state.segments.flatMap Segment.entries = entries
  tools : callKeys state.segments = tools
  offset : (matched state.segments).offset = trail.offset
  keys : (matched state.segments).keys = trail.calls.map ModelToolCall.name
  found : single → (matched state.segments).found = trail.found
  names : ∀ call ∈ trail.calls, state.names call.id = some call.name
  open_ : ∀ callId ∈ pending, callId ∈ trail.calls.map ModelToolCall.id
  apart : (trail.calls.map ModelToolCall.id).Nodup
  distinct : single → (trail.calls.map ModelToolCall.name).Nodup
  some_ : state.previousRole = some "tool" → state.contents ≠ []

lemma gemini_append (content : GeminiContent) (names : String → Option String)
    (role : Option String) : GeminiState.segments ⟨state.contents ++ [content], names, role⟩
      = state.segments ++ [content.segment] := by
  rw [GeminiState.segments, List.map_append]
  rfl

lemma entries_append {segments : List Segment} (segment : Segment) :
    (segments ++ [segment]).flatMap Segment.entries
      = segments.flatMap Segment.entries ++ segment.entries := by
  rw [List.flatMap_append, List.flatMap_singleton]

def callParts (texts : List String) (calls : List ModelToolCall) : List GeminiPart :=
  texts.map .text ++ calls.map fun call => .functionCall call.name call.arguments

lemma segment_geminiCalls (texts : List String) (calls : List ModelToolCall) :
    GeminiContent.segment ⟨"model", callParts texts calls⟩
      = ⟨.assistant, callItems ModelToolCall.name texts calls⟩ := by
  simp only [GeminiContent.segment, callParts, callItems, List.map_append, List.map_map]
  rfl

lemma geminiMessage_told {tools : List (List String)}
    (told : GeminiTold single pending state entries tools trail) (read : Reads codec fields turn)
    (loud : turn.quiet = false) (admits : Admits pending turn pending')
    (once : single → ∀ names ∈ turn.tools, names.Nodup) :
    ∃ state', geminiMessage codec state fields = some state' ∧
      GeminiTold single pending' state' (entries ++ turn.entries) (tools ++ turn.tools)
        (trail.step turn) := by
  unfold geminiMessage
  cases read with
  | system content role said => cases loud
  | user content role none_ said =>
    cases admits
    refine ⟨⟨state.contents ++ [⟨"user", [.text content]⟩], state.names, some "user"⟩, ?_, ?_⟩
    · rw [role]
      simp [none_, said, learnNames]
    refine ⟨?_, ?_, ?_, ?_, fun apart => ?_, told.names, ?_, told.apart, told.distinct, ?_⟩
    · rw [gemini_append, entries_append, told.entries]
      rfl
    · rw [gemini_append, callKeys_append, told.tools]
      rfl
    · rw [gemini_append, matched_append]
      exact told.offset
    · rw [gemini_append, matched_append]
      exact told.keys
    · rw [gemini_append, matched_append]
      exact told.found apart
    · exact fun _ mem => absurd mem (Finset.notMem_empty _)
    · exact fun _ => List.append_ne_nil_of_right_ne_nil _ (List.cons_ne_nil _ _)
  | assistant content role none_ said =>
    cases admits
    refine ⟨⟨state.contents ++ [⟨"model", [.text content]⟩], state.names, some "assistant"⟩, ?_, ?_⟩
    · rw [role]
      simp [none_, said, learnNames]
    refine ⟨?_, ?_, ?_, ?_, fun apart => ?_, ?_, ?_, ?_, fun _ => ?_, ?_⟩
    · rw [gemini_append, entries_append, told.entries]
      rfl
    · rw [gemini_append, callKeys_append, told.tools]
      rfl
    · rw [gemini_append, matched_append]
      change (matched state.segments).offset + (matched state.segments).keys.length = _
      rw [told.offset, told.keys, List.length_map]
      rfl
    · rw [gemini_append, matched_append]
      rfl
    · rw [gemini_append, matched_append]
      exact told.found apart
    · exact nofun
    · exact fun _ mem => absurd mem (Finset.notMem_empty _)
    · exact List.nodup_nil
    · exact List.nodup_nil
    · exact fun _ => List.append_ne_nil_of_right_ne_nil _ (List.cons_ne_nil _ _)
  | calls calls role some_ parsed =>
    cases admits with
    | calls _ _ nonempty apart =>
      refine ⟨⟨state.contents ++ [⟨"model", callParts (spoken fields) calls⟩],
        learnNames state.names calls, some "assistant"⟩, ?_, ?_⟩
      · rw [role]
        simp only [parseCalls] at parsed
        simp [some_, parsed, callParts]
      · refine ⟨?_, ?_, ?_, ?_, fun all => ?_, fun call mem => learnNames_own apart mem,
          ?_, apart, fun all => once all _ List.mem_cons_self, ?_⟩
        · rw [gemini_append, entries_append, told.entries, segment_geminiCalls, entries_callItems]
        · rw [gemini_append, callKeys_append, told.tools, segment_geminiCalls, keys_callItems, if_neg]
          · rfl
          · exact fun empty => nonempty (List.map_eq_nil_iff.1 empty)
        · rw [gemini_append, matched_append, segment_geminiCalls, segment_callItems]
          change (matched state.segments).offset + (matched state.segments).keys.length = _
          rw [told.offset, told.keys, List.length_map]
          rfl
        · rw [gemini_append, matched_append, segment_geminiCalls, segment_callItems]
          rfl
        · rw [gemini_append, matched_append, segment_geminiCalls, segment_callItems]
          exact told.found all
        · exact fun callId mem => List.mem_toFinset.1 mem
        · exact fun _ => List.append_ne_nil_of_right_ne_nil _ (List.cons_ne_nil _ _)
  | result callId content role named said =>
    cases admits with
    | result _ _ _ known =>
      obtain ⟨call, mem, own⟩ := List.mem_map.1 (told.open_ callId known)
      subst own
      obtain ⟨position, placed⟩ := List.mem_iff_getElem?.1 mem
      have naming : state.names call.id = some call.name := told.names call mem
      obtain ⟨contents, run, nonempty, pushed⟩ : ∃ contents, (if state.previousRole = some "tool" then
            GeminiContent.extend [.functionResponse call.name content] state.contents
          else some (state.contents ++ [⟨"user", [.functionResponse call.name content]⟩]))
            = some contents ∧ contents ≠ [] ∧
          Pushed (.answer call.name content) state.segments
            (contents.map GeminiContent.segment) := by
        split
        · next previous =>
          obtain ⟨contents, run, nonempty⟩ :=
            exists_extend (.functionResponse call.name content) (told.some_ previous)
          exact ⟨contents, run, nonempty, pushed_extend run⟩
        · refine ⟨_, rfl, List.append_ne_nil_of_right_ne_nil _ (List.cons_ne_nil _ _), ?_⟩
          rw [List.map_append]
          exact .fresh _
      refine ⟨⟨contents, state.names, some "tool"⟩, ?_, ?_⟩
      · rw [role]
        simp only [Option.bind_eq_bind, Option.bind_some, if_true, named, naming, said]
        by_cases previous : state.previousRole = some "tool"
        · rw [if_pos previous] at run ⊢
          rw [run]
          rfl
        · rw [if_neg previous] at run ⊢
          cases run
          rfl
      · refine ⟨?_, ?_, ?_, ?_, fun all => ?_, told.names, ?_, told.apart, told.distinct,
          fun _ => nonempty⟩
        · rw [GeminiState.segments, pushed.entries, told.entries]
          rfl
        · rw [GeminiState.segments, pushed.callKeys, told.tools]
          exact (List.append_nil _).symm
        · rw [GeminiState.segments, pushed.matched]
          exact told.offset
        · rw [GeminiState.segments, pushed.matched]
          exact told.keys
        · -- both lists of keys have the call at its place
          rw [GeminiState.segments, pushed.matched]
          simp only [Matching.item, Trail.step, told.found all, told.offset, told.keys,
            idxOf_map (told.distinct all) placed, idxOf_map told.apart placed]
        · exact fun other otherIn => told.open_ other (Finset.mem_of_mem_erase otherIn)

lemma gemini_told (read : conversation.mapM (readFields codec) = some turns)
    (loud : ∀ turn ∈ turns, turn.quiet = false) (valid : Valid pending turns)
    (once : single → ∀ names ∈ turns.flatMap Turn.tools, names.Nodup) {tools : List (List String)}
    (told : GeminiTold single pending state entries tools trail) :
    ∃ state', conversation.foldlM (geminiMessage codec) state = some state' ∧
      GeminiTold single ∅ state' (entries ++ turns.flatMap Turn.entries)
        (tools ++ turns.flatMap Turn.tools) (turns.foldl Trail.step trail) := by
  induction conversation generalizing turns pending state entries tools trail with
  | nil =>
    obtain rfl := mapM_nil_some read
    cases valid
    refine ⟨state, rfl, ?_⟩
    rw [List.flatMap_nil, List.flatMap_nil, List.append_nil, List.append_nil]
    exact told
  | cons fields rest ih =>
    obtain ⟨turn, others, first, later, rfl⟩ := mapM_cons_some read
    obtain ⟨firstLoud, othersLoud⟩ := List.forall_mem_cons.1 loud
    cases valid with
    | cons admits valid =>
      rw [List.flatMap_cons] at once
      obtain ⟨middle, run, middleTold⟩ := geminiMessage_told told (reads first) firstLoud admits
        fun all names mem => once all names (List.mem_append_left _ mem)
      obtain ⟨last, lastRun, lastTold⟩ := ih later othersLoud valid
        (fun all names mem => once all names (List.mem_append_right _ mem)) middleTold
      refine ⟨last, ?_, ?_⟩
      · rw [List.foldlM_cons, run]
        exact lastRun
      rw [List.flatMap_cons, List.flatMap_cons, ← List.append_assoc, ← List.append_assoc]
      exact lastTold

lemma readFields_role {role : String} (read : readFields codec fields = some turn)
    (named : strField fields "role" = some role) : turn.quiet = true ↔ role = "system" := by
  cases reads read with
  | system content found said => exact ⟨fun _ => Option.some.inj (named.symm.trans found), fun _ => rfl⟩
  | user content found | assistant content found | calls calls found | result callId content found =>
    have eq := Option.some.inj (named.symm.trans found)
    subst eq
    exact ⟨Bool.noConfusion, fun system => absurd system (by decide)⟩

lemma split_read {messages : List Json} (read : messages.mapM (readTurn codec) = some turns) :
    ∃ systemParts conversation, splitMessages messages = some (systemParts, conversation) ∧
      conversation.mapM (readFields codec)
        = some (turns.filter fun turn => turn.quiet = false) := by
  induction messages generalizing turns with
  | nil =>
    obtain rfl := mapM_nil_some read
    exact ⟨[], [], rfl, rfl⟩
  | cons message rest ih =>
    obtain ⟨turn, others, first, later, rfl⟩ := mapM_cons_some read
    obtain ⟨systemParts, conversation, split, readOthers⟩ := ih later
    obtain ⟨fields, object, first⟩ := Option.bind_eq_some_iff.1 first
    obtain ⟨role, named⟩ : ∃ role, strField fields "role" = some role := by
      cases reads first <;> exact ⟨_, ‹_›⟩
    have kind := readFields_role first named
    by_cases system : role = "system"
    · have quiet := kind.2 system
      obtain ⟨content, said⟩ : ∃ content, strField fields "content" = some content := by
        cases reads first with
        | calls => cases quiet
        | system content role said | user content role none_ said
        | assistant content role none_ said | result callId content role own said =>
          exact ⟨content, said⟩
      refine ⟨content :: systemParts, conversation, ?_, ?_⟩
      · simp [splitMessages, object, named, split, system, said]
      rw [List.filter_cons_of_neg (by simp [quiet]), readOthers]
    · have loud : turn.quiet = false := by
        rw [← Bool.not_eq_true, kind]
        exact system
      refine ⟨systemParts, fields :: conversation, ?_, ?_⟩
      · simp [splitMessages, object, named, split, system]
      rw [List.filter_cons_of_pos (by simp [loud]), List.mapM_cons, first, readOthers]
      rfl

lemma Valid.loud (valid : Valid pending turns) :
    Valid pending (turns.filter fun turn => turn.quiet = false) := by
  induction valid with
  | nil => exact .nil
  | @cons pending pending' turn rest admits valid ih =>
    by_cases quiet : turn.quiet = true
    · rw [List.filter_cons_of_neg (by simp [quiet])]
      cases admits with
      | system => exact ih
      | say | calls | result => cases quiet
    · rw [List.filter_cons_of_pos (by simpa using quiet)]
      exact .cons admits ih

lemma foldl_loud (turns : List Turn) (trail : Trail) :
    (turns.filter fun turn => turn.quiet = false).foldl Trail.step trail
      = turns.foldl Trail.step trail := by
  induction turns generalizing trail with
  | nil => rfl
  | cons turn rest ih =>
    cases turn with
    | system content => exact ih trail
    | say | calls | result => exact ih _

lemma flatMap_loud {Value : Type} {f : Turn → List Value}
    (silent : ∀ content, f (.system content) = []) (turns : List Turn) :
    (turns.filter fun turn => turn.quiet = false).flatMap f = turns.flatMap f := by
  induction turns with
  | nil => rfl
  | cons turn rest ih =>
    cases turn with
    | system content =>
      rw [List.flatMap_cons, silent]
      exact ih
    | say | calls | result => exact congrArg (f _ ++ ·) ih

end

end Obsion.ModelGateway
