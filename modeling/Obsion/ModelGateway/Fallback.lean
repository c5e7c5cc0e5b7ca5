import Obsion.ModelGateway.Handled

/-! # Going on to the next endpoint

With fallback an attempt is settled when it returns a result or raises
`ModelUnavailableError`; any other exception ends `complete`. -/

namespace Obsion.ModelGateway

open Lib

/-- The request of the attempt was sent, and its response is a JSON value. -/
structure Sent (request : CompletionRequest) (candidate : Candidate) (adapter : Adapter)
    (value : Json) : Prop where
  inTime : candidate.expired = false
  allowed : candidate.allowed = true
  adapter : candidate.endpoint.adapter = some adapter
  affordable : request.maxCostAmount.any (· < estimatedCost request candidate.endpoint) = false
  prepared : candidate.preparation = .ready
  reply : candidate.reply = .success (.json value)

def Classified (python : Python) : Except Raised ProviderCompletion → Prop
  | .ok completion => WellFormed python completion
  | .error raised => ∃ message, raised = .protocol message

/-- From the endpoint on, a result is returned or the rest of the endpoints is tried. -/
def GoesOn (host : Host) (request : CompletionRequest) (candidate : Candidate) : Prop :=
  ∀ attempted timedOut rest, (∃ rows result,
      tryEndpoints host request attempted timedOut (candidate :: rest) = (rows, .ok result)) ∨
    ∃ rows callIds late, tryEndpoints host request attempted timedOut (candidate :: rest) =
        (rows ++ (tryEndpoints host request (attempted ++ callIds) late rest).1,
          (tryEndpoints host request (attempted ++ callIds) late rest).2)

def Usage.fits (usage : Usage) : Prop :=
  fitsInteger usage.inputTokens = true ∧ fitsInteger usage.outputTokens = true ∧
    fitsNumeric8 usage.costAmount = true

/-- The usage that the body states has room in a row; where JSON mode reads its content, that is
no number too long and no value too deep to be read. -/
def Accountable (host : Host) (request : CompletionRequest) (endpoint : Endpoint) (adapter : Adapter)
    (value : Json) : Prop :=
  ∀ completion, Says host.python adapter value completion → (usageOf endpoint completion).fits ∧
      (validateToolCalls host completion.toolCalls request.tools request.toolChoice = .ok () →
        request.jsonMode = true → completion.toolCalls = [] →
        ∀ error, host.python.loads completion.content = .error error → error = .decode)

section

variable {host : Host} {request : CompletionRequest} {candidate : Candidate} {adapter : Adapter}
  {value : Json}

lemma classified_iff :
    Classified host.python (adapter.parseCompletionResponse host.python (.json value)) ↔
      Decodable host.python value ∧ Regular host.python adapter value := by
  cases run : adapter.parseCompletionResponse host.python (.json value) with
  | ok completion =>
    obtain ⟨decodable, says_⟩ := parse_ok.1 run
    refine iff_of_true says_.wellFormed ⟨decodable, ?_⟩
    by_contra irregular
    have escapes := (escapes_completion adapter).2 (fun both => irregular both.2)
    obtain ⟨raised, fails, -⟩ := escapes
    rw [(completion_ok decodable adapter).2 says_] at fails
    cases fails
  | error raised =>
    rcases parse_raised run with ⟨protocol, regular⟩ | ⟨wild, irregular⟩
    · exact iff_of_true protocol regular
    refine iff_of_false ?_ irregular
    rintro ⟨message, rfl⟩
    cases wild

/-- The attempt ends with a result or a `ModelUnavailableError`. -/
def Settled : Except Failure ModelResult → Prop
  | .ok _ => True
  | .error (.unavailable _ _) => True
  | .error _ => False

lemma tryEndpoints_sent (sent : Sent request candidate adapter value) (attempted : List Uuid)
    (timedOut : Bool) (rest : List Candidate) :
    tryEndpoints host request attempted timedOut (candidate :: rest) =
      match send host request candidate adapter with
      | (rows, .ok result) => (rows, .ok { result with callIds := attempted ++ result.callIds })
      | (rows, .error (.unavailable late callIds)) =>
        if request.fallback then
          let later := tryEndpoints host request (attempted ++ callIds) late rest
          (rows ++ later.1, later.2) else (rows, .error (.unavailable late callIds))
      | (rows, .error failure) => (rows, .error failure) := by
  have attempt : completeWithEndpoint host request candidate = send host request candidate adapter := by
    unfold completeWithEndpoint
    rw [if_neg (by rw [sent.allowed]; decide), sent.adapter]
    dsimp only
    rw [if_neg (by rw [sent.affordable]; decide), sent.prepared]
  have tried := tryEndpoints.eq_2 host request attempted timedOut candidate rest
  rw [if_neg (by rw [sent.inTime]; decide), attempt] at tried
  exact tried

lemma goesOn_iff (fallback : request.fallback = true) (sent : Sent request candidate adapter value) :
    GoesOn host request candidate ↔ Settled (send host request candidate adapter).2 := by
  unfold GoesOn
  simp only [tryEndpoints_sent sent, fallback, if_true]
  cases ran : send host request candidate adapter with
  | mk rows outcome =>
    cases outcome with
    | ok result =>
      refine iff_of_true (fun attempted timedOut rest => Or.inl ⟨rows, _, rfl⟩) trivial
    | error failure =>
      cases failure with
      | unavailable late callIds =>
        exact iff_of_true (fun attempted timedOut rest => Or.inr ⟨rows, callIds, late, rfl⟩) trivial
      | _ =>
        refine iff_of_false (fun goes => ?_) id
        rcases goes [] false [] with ⟨_, _, eq⟩ | ⟨_, _, _, eq⟩
        · cases eq
        cases eq

lemma zero_fits : Usage.zero.fits := by
  refine ⟨by decide, by decide, ?_⟩
  simp only [Usage.zero, fitsNumeric8, numeric8]
  norm_num

variable {usage : Usage} {ending : Ending}

lemma callRow_fits :
    (callRow request candidate usage ending).fits = true ↔ usage.fits := by
  simp only [ModelCall.fits, callRow, Usage.fits, Bool.and_eq_true, and_assoc]

lemma settled_finish :
    Settled (finish request candidate.endpoint candidate.callId usage ending) ↔
      ending ≠ .cancelled ∧ ∀ raised, ending = .raised raised → raised.expected = true := by
  cases ending with
  | raised raised =>
    cases expected : raised.expected <;> simp [finish, Settled, expected]
  | _ => simp [finish, Settled]

lemma settled_send : Settled (send host request candidate adapter).2 ↔
      (converse host request candidate.endpoint adapter candidate.reply).1.fits ∧
        Settled (finish request candidate.endpoint candidate.callId
          (converse host request candidate.endpoint adapter candidate.reply).1
          (converse host request candidate.endpoint adapter candidate.reply).2) := by
  unfold send
  dsimp only
  split
  · next fits => rw [and_iff_right (callRow_fits.1 fits)]
  next tooLarge => exact iff_of_false id fun both => tooLarge (callRow_fits.2 both.1)

lemma acceptCompletion_expected {completion : ProviderCompletion} :
    (∀ raised, acceptCompletion host request completion = .error raised → raised.expected = true) ↔
      (validateToolCalls host completion.toolCalls request.tools request.toolChoice = .ok () →
        request.jsonMode = true → completion.toolCalls = [] →
        ∀ error, host.python.loads completion.content = .error error → error = .decode) := by
  unfold acceptCompletion
  cases validated : validateToolCalls host completion.toolCalls request.tools request.toolChoice with
  | error message => simp [checked, Except.mapError, bind, Except.bind, Raised.expected]
  | ok _ =>
    simp only [checked, Except.mapError, bind, Except.bind, Bool.and_eq_true, List.isEmpty_iff,
      forall_const]
    by_cases reads : request.jsonMode = true ∧ completion.toolCalls = []
    · rw [if_pos reads, jsonContent]
      cases loaded : host.python.loads completion.content with
      | ok found => cases found <;> simp [Raised.expected]
      | error error => cases error <;> simp [Undecoded.raised, Raised.expected, reads.1, reads.2]
    · rw [if_neg reads]
      constructor
      · intro _ json none_
        exact absurd ⟨json, none_⟩ reads
      intro _ raised fails
      cases fails

lemma settled_converse_iff (sent : Sent request candidate adapter value)
    (readable : Decodable host.python value ∧ Regular host.python adapter value) :
    Settled (send host request candidate adapter).2 ↔
      Accountable host request candidate.endpoint adapter value := by
  rw [settled_send, settled_finish, sent.reply]
  unfold converse Accountable
  dsimp only
  cases run : adapter.parseCompletionResponse host.python (.json value) with
  | error raised =>
    dsimp only
    rcases parse_raised run with ⟨⟨message, rfl⟩, -⟩ | ⟨-, irregular⟩
    · refine iff_of_true ⟨zero_fits, nofun, ?_⟩ fun completion says_ => ?_
      · intro raised eq
        cases eq
        rfl
      · rw [parse_ok.2 ⟨readable.1, says_⟩] at run
        cases run
    · exact absurd readable irregular
  | ok completion =>
    have only (other : ProviderCompletion) (says_ : Says host.python adapter value other) :
        other = completion := by
      have again := parse_ok.2 ⟨readable.1, says_⟩
      rw [run] at again
      exact (Except.ok.inj again).symm
    have reduced : (∀ other, Says host.python adapter value other →
        (usageOf candidate.endpoint other).fits ∧
          (validateToolCalls host other.toolCalls request.tools request.toolChoice = .ok () →
            request.jsonMode = true → other.toolCalls = [] →
            ∀ error, host.python.loads other.content = .error error → error = .decode)) ↔
        (usageOf candidate.endpoint completion).fits ∧
          ∀ raised, acceptCompletion host request completion = .error raised → raised.expected = true := by
      rw [acceptCompletion_expected]
      constructor
      · exact fun all => all completion (parse_ok.1 run).2
      intro one other says_
      rw [only other says_]
      exact one
    rw [reduced]
    dsimp only
    cases accepted : acceptCompletion host request completion with
    | ok _ => simp
    | error raised => simp

/-- Whether a response crashes the gateway is told by its body. -/
theorem provider_responses_handled_iff (fallback : request.fallback = true)
    (sent : Sent request candidate adapter value) :
    (Classified host.python (adapter.parseCompletionResponse host.python (.json value)) ∧
        GoesOn host request candidate) ↔
      Decodable host.python value ∧ Regular host.python adapter value ∧
        Accountable host request candidate.endpoint adapter value := by
  rw [goesOn_iff fallback sent, classified_iff, and_assoc, and_congr_right_iff]
  intro decodable
  rw [and_congr_right_iff]
  intro regular
  exact settled_converse_iff sent ⟨decodable, regular⟩

end

def samplePython : Python where
  loads text :=
    match Loads.loads Loads.dict text.toList with
    | some value => .ok value
    | none => .error .decode
  loadsUnique text := Loads.loads Loads.dict text.toList
  float text :=
    if text = "NaN" then .nan
    else if text = "Infinity" ∨ text = "-Infinity" then .infinite
    else .finite (((text.splitOn ".").headD "").toInt?.getD 0)
  int text := text.toInt?
  repr value := some value.dumps
  loadsDepth := 900
  dumpsDepth := 900

def sampleHost : Host := ⟨samplePython, fun _ _ => true⟩

def sampleRequest : CompletionRequest where
  profileId := .repeating 1
  fallback := true
  jsonMode := false
  tools := []
  toolChoice := none
  estimatedInputTokens := 1
  maxInputTokens := none
  maxOutputTokens := none
  maxCostAmount := none

def sampleBody (usage : Fields) : Json :=
  .obj (("choices", .arr [.obj [("message", .obj [("content", .str "ok")])]]) :: usage)

def sampleCandidate (usage : Fields) : Candidate where
  endpoint := ⟨.repeating 2, some .openaiCompatible, 100, 0, 0⟩
  callId := .repeating 3
  expired := false
  allowed := true
  preparation := .ready
  reply := .success (.json (sampleBody usage))

lemma sampleCandidate_sent (usage : Fields) :
    Sent sampleRequest (sampleCandidate usage) .openaiCompatible (sampleBody usage) :=
  ⟨rfl, rfl, rfl, rfl, rfl, rfl⟩

/-- The second endpoint is never asked. -/
theorem null_usage_ends_complete : Adapter.openaiCompatible.parseCompletionResponse samplePython
        (.json (sampleBody [("usage", .null)])) = .error .attribute ∧
      (complete sampleHost sampleRequest
        [sampleCandidate [("usage", .null)], sampleCandidate []]).2 = .error (.raised .attribute) := by
  have parsed : Adapter.openaiCompatible.parseCompletionResponse samplePython
      (.json (sampleBody [("usage", .null)])) = .error .attribute := rfl
  refine ⟨parsed, ?_⟩
  have conversed : converse sampleHost sampleRequest (sampleCandidate [("usage", .null)]).endpoint
      .openaiCompatible (sampleCandidate [("usage", .null)]).reply = (.zero, .raised .attribute) := by
    have at_ : Adapter.openaiCompatible.parseCompletionResponse sampleHost.python
        (.json (sampleBody [("usage", .null)])) = .error .attribute := parsed
    simp only [converse, sampleCandidate, at_]
  have sent := sampleCandidate_sent [("usage", .null)]
  unfold complete
  rw [if_neg (by decide), if_pos (show sampleRequest.fallback = true from rfl), tryEndpoints_sent sent, send,
    conversed]
  dsimp only
  rw [if_pos (callRow_fits.2 zero_fits)]
  rfl

theorem sampleBody_handled :
    Classified samplePython (Adapter.openaiCompatible.parseCompletionResponse samplePython
        (.json (sampleBody []))) ∧ GoesOn sampleHost sampleRequest (sampleCandidate []) := by
  have decodable : Decodable sampleHost.python (sampleBody []) := ⟨by decide, by decide⟩
  refine (provider_responses_handled_iff rfl (sampleCandidate_sent [])).2 ⟨decodable, ?_, ?_⟩
  · rintro body choice message ⟨⟩ ⟨⟨rest, choices⟩, found⟩
    cases choices
    cases found
    exact ⟨_, rfl, fun _ _ _ => ⟨[], rfl, nofun, fun _ _ => nofun⟩⟩
  · intro completion says_
    have run := parse_ok.2 ⟨decodable, says_⟩
    cases run
    refine ⟨⟨by decide, by decide, ?_⟩, fun _ => nofun⟩
    norm_num [usageOf, price, sampleCandidate, Decimal.mul, Decimal.add, Decimal.div, significant,
      fitsNumeric8, numeric8]

end Obsion.ModelGateway
