import Obsion.ModelGateway.Providers

/-! # The turns of an accepted history

`readTurn` reads what a message says; `validated` is what `validateToolHistory` guarantees
of the turns it has read. -/

namespace Obsion.ModelGateway

inductive Speaker
  | user
  | assistant
  deriving DecidableEq, Repr

inductive Turn
  | system (content : String)
  | say (speaker : Speaker) (content : String)
  | calls (texts : List String) (calls : List ModelToolCall)
  | result (callId content : String)

def parseCalls (codec : JsonCodec) (raws : List Json) : Option (List ModelToolCall) :=
  raws.mapM fun raw => (parseToolCall codec raw).toOption

def readFields (codec : JsonCodec) (fields : Fields) : Option Turn :=
  match strField fields "role" with
  | none => none
  | some role =>
    if role = "tool" then
      match strField fields "tool_call_id", strField fields "content" with
      | some callId, some content => some (.result callId content)
      | _, _ => none
    else if role = "system" then (strField fields "content").map .system
    else if rawCalls fields ≠ [] then
      if role = "assistant" then
        (parseCalls codec (rawCalls fields)).map fun calls => .calls (spoken fields) calls
      else none
    else if role = "assistant" then (strField fields "content").map (.say .assistant)
    else if role = "user" then (strField fields "content").map (.say .user)
    else none

def readTurn (codec : JsonCodec) (message : Json) : Option Turn :=
  message.fields?.bind (readFields codec)

/-- Which calls are pending before and after a turn that is accepted. -/
inductive Admits : Finset String → Turn → Finset String → Prop
  | system (content : String) : Admits ∅ (.system content) ∅
  | say (speaker : Speaker) (content : String) : Admits ∅ (.say speaker content) ∅
  | calls (texts : List String) (calls : List ModelToolCall) (some : calls ≠ [])
      (apart : (calls.map ModelToolCall.id).Nodup) :
      Admits ∅ (.calls texts calls) (calls.map ModelToolCall.id).toFinset
  | result (pending : Finset String) (callId content : String) (open_ : callId ∈ pending) :
      Admits pending (.result callId content) (pending.erase callId)

inductive Valid : Finset String → List Turn → Prop
  | nil : Valid ∅ []
  | cons {pending pending' : Finset String} {turn : Turn} {rest : List Turn}
      (admits : Admits pending turn pending') (valid : Valid pending' rest) :
      Valid pending (turn :: rest)

lemma mapM_nil_some {α β : Type} {f : α → Option β} {values : List β}
    (run : [].mapM f = some values) : values = [] := by
  rw [List.mapM_nil] at run
  exact (Option.some.inj run).symm

lemma mapM_cons_some {α β : Type} {f : α → Option β} {first : α} {rest : List α}
    {values : List β} (run : (first :: rest).mapM f = some values) :
    ∃ value others, f first = some value ∧ rest.mapM f = some others ∧ values = value :: others := by
  rw [List.mapM_cons] at run
  obtain ⟨value, found, run⟩ := Option.bind_eq_some_iff.1 run
  obtain ⟨others, later, run⟩ := Option.bind_eq_some_iff.1 run
  exact ⟨value, others, found, later, (Option.some.inj run).symm⟩

section
variable {codec : JsonCodec} {pending pending' : Finset String} {fields : Fields}

variable {calls : List ModelToolCall} {raws messages : List Json} {role : String}

lemma parseCalls_cons {raw : Json} {rest : List Json} {call : ModelToolCall}
    (first : parseToolCall codec raw = .ok call) (others : parseCalls codec rest = some calls) :
    parseCalls codec (raw :: rest) = some (call :: calls) := by
  unfold parseCalls at others ⊢
  rw [List.mapM_cons, first, others]
  rfl

lemma validateCalls_ok (run : validateCalls codec pending raws = .ok pending') :
    ∃ calls, parseCalls codec raws = some calls ∧ (∀ raw ∈ raws, exactCall raw = true) ∧
      (calls.map ModelToolCall.id).Nodup ∧ (∀ call ∈ calls, call.id ∉ pending) ∧
      pending' = pending ∪ (calls.map ModelToolCall.id).toFinset := by
  induction raws generalizing pending with
  | nil =>
    cases run
    exact ⟨[], rfl, nofun, List.nodup_nil, nofun, by simp⟩
  | cons raw rest ih =>
    unfold validateCalls at run
    split at run
    · cases run
    next call parsed =>
    split at run
    · cases run
    next exact_ =>
    split at run
    · cases run
    next fresh =>
    obtain ⟨calls, others, exacts, apart, disjoint, rfl⟩ := ih run
    refine ⟨call :: calls, parseCalls_cons parsed others, ?_, ?_, ?_, ?_⟩
    · exact List.forall_mem_cons.2 ⟨Bool.not_eq_false _ ▸ exact_, exacts⟩
    · rw [List.map_cons, List.nodup_cons]
      refine ⟨fun repeated => ?_, apart⟩
      obtain ⟨other, mem, eq⟩ := List.mem_map.1 repeated
      exact disjoint other mem (eq ▸ Finset.mem_insert_self _ _)
    · refine List.forall_mem_cons.2 ⟨fresh, fun other mem => ?_⟩
      exact fun old => disjoint other mem (Finset.mem_insert_of_mem old)
    · rw [List.map_cons, List.toFinset_cons, Finset.union_insert, Finset.insert_union]

lemma validateResult_ok (run : validateResult pending fields = .ok pending') :
    ∃ callId content, strField fields "tool_call_id" = some callId ∧
      strField fields "content" = some content ∧ callId ∈ pending ∧
      pending' = pending.erase callId := by
  unfold validateResult at run
  split at run
  · cases run
  next callId named =>
  split at run
  · cases run
  next known =>
  split at run
  · cases run
  next text =>
  split at run
  · cases run
  cases run
  rw [Option.isNone_iff_eq_none] at text
  obtain ⟨content, said⟩ := Option.ne_none_iff_exists'.1 text
  exact ⟨callId, content, named, said, Decidable.not_not.1 known, rfl⟩

lemma rawCalls_of_values (listed : (fields.get? "tool_calls").bind Json.values? = some raws) :
    rawCalls fields = raws := by
  rw [rawCalls, listed, Option.getD_some]

lemma parseCalls_ne_nil (some_ : raws ≠ []) (parsed : parseCalls codec raws = some calls) :
    calls ≠ [] := by
  rintro rfl
  cases raws with
  | nil => exact some_ rfl
  | cons raw rest =>
    obtain ⟨_, _, _, _, nonempty⟩ := mapM_cons_some parsed
    cases nonempty

lemma validateContent_ok (run : validateContent codec role fields = .ok pending') :
    (role = "assistant" ∧ ∃ calls, rawCalls fields ≠ [] ∧
      parseCalls codec (rawCalls fields) = some calls ∧
      (calls.map ModelToolCall.id).Nodup ∧ calls ≠ [] ∧
      pending' = (calls.map ModelToolCall.id).toFinset) ∨
    (rawCalls fields = [] ∧ (∃ content, strField fields "content" = some content) ∧ pending' = ∅) := by
  unfold validateContent at run
  split at run
  · split at run
    · cases run
    next raws listed =>
    have eq := rawCalls_of_values listed
    subst eq
    split at run
    · cases run
    next shape =>
    obtain ⟨assistant, some_⟩ := not_or.1 shape
    split at run
    · cases run
    obtain ⟨calls, parsed, _, apart, _, rfl⟩ := validateCalls_ok run
    exact .inl ⟨Decidable.not_not.1 assistant, calls, some_, parsed, apart,
      parseCalls_ne_nil some_ parsed, Finset.empty_union _⟩
  · next none_ =>
    split at run
    · cases run
    next text =>
    cases run
    refine .inr ⟨?_, ?_, rfl⟩
    · have absent : fields.get? "tool_calls" = none := Option.not_isSome_iff_eq_none.1 none_
      rw [rawCalls, absent]
      rfl
    · rw [Option.isNone_iff_eq_none] at text
      exact Option.ne_none_iff_exists'.1 text

lemma validateTurn_ok (run : validateTurn codec role fields = .ok pending') :
    validateContent codec role fields = .ok pending' := by
  unfold validateTurn at run
  split at run
  · cases run
  next found =>
  split at run
  · cases run
  cases run
  exact found

lemma validateMessage_ok {message : Json}
    (run : validateMessage codec pending message = .ok pending') :
    ∃ turn, readTurn codec message = some turn ∧ Admits pending turn pending' := by
  unfold validateMessage at run
  split at run
  · next fields =>
    rw [readTurn, Json.fields?_obj, Option.bind_some, readFields]
    split at run
    · cases run
    next role named =>
    split at run
    · cases run
    next known =>
    split at run
    · cases run
    split at run
    · next tool =>
      obtain ⟨callId, content, own, said, mem, rfl⟩ := validateResult_ok run
      refine ⟨.result callId content, ?_, .result pending callId content mem⟩
      simp only [named, tool, if_true, own, said]
    · next noTool =>
      split at run
      · cases run
      next idle =>
      obtain rfl : pending = ∅ := Decidable.not_not.1 idle
      simp only [named, if_neg noTool]
      rcases validateContent_ok (validateTurn_ok run) with
        ⟨rfl, calls, some_, parsed, apart, nonempty, rfl⟩ |
          ⟨none_, ⟨content, said⟩, rfl⟩
      · refine ⟨.calls (spoken fields) calls, ?_, .calls _ _ nonempty apart⟩
        rw [if_neg (by decide), if_pos some_, if_pos rfl, parsed, Option.map_some]
      · simp only [said, none_, ne_eq, not_true, if_false, Option.map_some]
        simp only [List.mem_cons, List.not_mem_nil, or_false, Decidable.not_not] at known
        rcases known with rfl | rfl | rfl | rfl
        · exact ⟨_, rfl, .system content⟩
        · exact ⟨_, rfl, .say .user content⟩
        · exact ⟨_, rfl, .say .assistant content⟩
        · exact absurd rfl noTool
  · cases run

lemma validateMessages_ok (run : validateMessages codec pending messages = .ok ∅) :
    ∃ turns, messages.mapM (readTurn codec) = some turns ∧ Valid pending turns := by
  induction messages generalizing pending with
  | nil =>
    cases run
    exact ⟨[], rfl, .nil⟩
  | cons message rest ih =>
    unfold validateMessages at run
    split at run
    · cases run
    next pending' first =>
    obtain ⟨turn, read, admits⟩ := validateMessage_ok first
    obtain ⟨turns, others, valid⟩ := ih run
    refine ⟨turn :: turns, ?_, .cons admits valid⟩
    rw [List.mapM_cons, read, others]
    rfl

lemma validated (run : validateToolHistory codec messages = .ok ()) :
    ∃ turns, messages.mapM (readTurn codec) = some turns ∧ Valid ∅ turns := by
  unfold validateToolHistory at run
  split at run
  · cases run
  next pending found =>
  split at run
  · next done =>
    subst done
    exact validateMessages_ok found
  · cases run

end

end Obsion.ModelGateway
