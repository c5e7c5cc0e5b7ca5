import Obsion.ModelGateway.Charges
import Obsion.ModelGateway.Fallback

/-! # Runs that are charged what was recorded

The usage of a response is recorded as soon as it is read, and charged only where the
attempt returns the result.  A Run keeps the sums of its calls while no response is
refused after its usage was read, and the rounding of the cost column does not matter. -/

namespace Obsion.ModelGateway

open Lib

/-- The usage of the Run is the sum of that of its calls. -/
structure Balanced (run : RunUsage) (calls : List ModelCall) : Prop where
  inputTokens : run.inputTokens = (calls.map ModelCall.inputTokens).sum
  outputTokens : run.outputTokens = (calls.map ModelCall.outputTokens).sum
  costAmount : numeric8 run.costAmount = (calls.map ModelCall.costAmount).sum

/-- The estimates of the endpoints asked fit the budget of the call together. -/
def WithinBudget (host : Host) (move : Move Account Event) : Prop :=
  match move.action with
  | .call caller prompt endpoints =>
    move.before.run.exhausted = false → let request := caller.request move.before.run prompt
      (estimates request (asked host request endpoints)).sum ≤ move.before.run.remainingCost
  | _ => True

def Usage.stored (usage : Usage) : Usage := { usage with costAmount := numeric8 usage.costAmount }

/-- The column keeps the sum of the two costs as the sum of what it keeps of each. -/
def Rounds (run : RunUsage) (cost : ℚ) : Prop :=
  numeric8 (Decimal.add run.costAmount cost) = numeric8 run.costAmount + numeric8 cost

/-- A response that is read is accepted as well, or states no usage. -/
def Charged (host : Host) (request : CompletionRequest) (run : RunUsage) (candidate : Candidate) :
    Prop :=
  ∀ adapter response completion, candidate.endpoint.adapter = some adapter →
    candidate.reply = .success response →
    adapter.parseCompletionResponse host.python response = .ok completion →
    (acceptCompletion host request completion = .ok () ∧
        Rounds run (usageOf candidate.endpoint completion).costAmount) ∨
      (acceptCompletion host request completion ≠ .ok () ∧
        (usageOf candidate.endpoint completion).stored = .zero)

/-- Each response is charged, and each further endpoint asked costs no more than the ones before
it left. -/
def Careful (host : Host) (move : Move Account Event) : Prop :=
  match move.action with
  | .call caller prompt endpoints =>
    let request := caller.request move.before.run prompt
    (∀ candidate ∈ asked host request endpoints, Charged host request move.before.run candidate) ∧
      ∀ front candidate back, asked host request endpoints = front ++ candidate :: back → front ≠ [] →
        (estimates request front).sum + estimatedCost request candidate.endpoint ≤
          move.before.run.remainingCost
  | _ => True

lemma numeric8_zero : numeric8 0 = 0 := by
  norm_num [numeric8]

lemma numeric8_numeric8 (value : ℚ) : numeric8 (numeric8 value) = numeric8 value := by
  have units (count : Int) : numeric8 ((count : ℚ) / 10 ^ 8) = (count : ℚ) / 10 ^ 8 := by
    unfold numeric8
    rw [div_mul_cancel₀ _ (by positivity), Int.floor_intCast_add]
    norm_num
  exact units _

/-! ## The rows of a call -/

structure Bills (rows : List ModelCall) (usage : Usage) : Prop where
  inputTokens : (rows.map ModelCall.inputTokens).sum = usage.inputTokens
  outputTokens : (rows.map ModelCall.outputTokens).sum = usage.outputTokens
  costAmount : (rows.map fun row => numeric8 row.costAmount).sum = usage.costAmount

lemma Bills.nil : Bills [] .zero := ⟨rfl, rfl, rfl⟩

variable {rows calls : List ModelCall} {account : Account}

lemma Bills.append {more : List ModelCall} {usage : Usage} (nothing : Bills rows .zero)
    (bills : Bills more usage) : Bills (rows ++ more) usage := by
  refine ⟨?_, ?_, ?_⟩
  · rw [List.map_append, List.sum_append, nothing.inputTokens, bills.inputTokens]
    exact zero_add _
  · rw [List.map_append, List.sum_append, nothing.outputTokens, bills.outputTokens]
    exact zero_add _
  · rw [List.map_append, List.sum_append, nothing.costAmount, bills.costAmount]
    exact zero_add _

def ModelResult.usage (result : ModelResult) : Usage :=
  ⟨result.inputTokens, result.outputTokens, result.costAmount⟩

def Billed (run : RunUsage) (rows : List ModelCall) : Except Failure ModelResult → Prop
  | .ok result => Bills rows result.usage.stored ∧ Rounds run result.costAmount
  | .error _ => Bills rows .zero

section

variable {host : Host} {request : CompletionRequest} {candidate : Candidate} {run : RunUsage}

lemma bills_callRow (usage : Usage) (ending : Ending) :
    Bills [callRow request candidate usage ending] usage.stored := by
  refine ⟨?_, ?_, ?_⟩
  · exact List.sum_singleton
  · exact List.sum_singleton
  · exact List.sum_singleton

lemma bills_callRow_zero {usage : Usage} (zero : usage.stored = .zero) (ending : Ending) :
    Bills [callRow request candidate usage ending] .zero :=
  zero ▸ bills_callRow usage ending

lemma stored_zero : Usage.zero.stored = .zero := by
  rw [Usage.stored, Usage.zero, numeric8_zero]

lemma billed_send {adapter : Adapter} (spoken : candidate.endpoint.adapter = some adapter)
    (charged : Charged host request run candidate) :
    Billed run (send host request candidate adapter).1 (send host request candidate adapter).2 := by
  unfold send
  dsimp only
  split
  · unfold converse
    cases reply : candidate.reply with
    | success response =>
      dsimp only
      cases parsed : adapter.parseCompletionResponse host.python response with
      | error raised => exact bills_callRow_zero stored_zero _
      | ok completion =>
        dsimp only
        have known := charged adapter response completion spoken reply parsed
        cases accepted : acceptCompletion host request completion with
        | ok _ =>
          rcases known with ⟨-, rounds⟩ | ⟨refused, -⟩
          · exact ⟨bills_callRow _ _, rounds⟩
          exact absurd accepted refused
        | error raised =>
          rcases known with ⟨accepts, -⟩ | ⟨-, zero⟩
          · rw [accepted] at accepts
            cases accepts
          exact bills_callRow_zero zero _
    | failure | timeout | cancelled => exact bills_callRow_zero stored_zero _
  · exact Bills.nil

lemma completeWithEndpoint_cases :
    (asks request candidate = true ∧ ∃ adapter, candidate.endpoint.adapter = some adapter ∧
        completeWithEndpoint host request candidate = send host request candidate adapter) ∨
      (asks request candidate = false ∧
        ∃ failure, completeWithEndpoint host request candidate = ([], .error failure)) := by
  unfold completeWithEndpoint asks
  cases candidate.allowed with
  | false => exact .inr ⟨rfl, _, rfl⟩
  | true =>
    cases spoken : candidate.endpoint.adapter with
    | none => exact .inr ⟨rfl, _, rfl⟩
    | some adapter =>
      cases request.maxCostAmount.any (· < estimatedCost request candidate.endpoint) with
      | true => exact .inr ⟨rfl, _, rfl⟩
      | false =>
        cases candidate.preparation with
        | ready => exact .inl ⟨rfl, adapter, rfl, rfl⟩
        | denied => exact .inr ⟨rfl, _, rfl⟩
        | invalid => exact .inr ⟨rfl, _, rfl⟩

lemma billed_completeWithEndpoint
    (charged : asks request candidate = true → Charged host request run candidate) :
    Billed run (completeWithEndpoint host request candidate).1
      (completeWithEndpoint host request candidate).2 := by
  rcases completeWithEndpoint_cases with ⟨asks_, adapter, spoken, sends⟩ | ⟨-, failure, fails⟩
  · rw [sends]
    exact billed_send spoken (charged asks_)
  rw [fails]
  exact Bills.nil

lemma billed_tryEndpoints {candidates : List Candidate}
    (charged : ∀ candidate ∈ reached host request candidates, asks request candidate = true →
      Charged host request run candidate) (attempted : List Uuid) (timedOut : Bool) :
    Billed run (tryEndpoints host request attempted timedOut candidates).1
      (tryEndpoints host request attempted timedOut candidates).2 := by
  induction candidates generalizing attempted timedOut with
  | nil => exact Bills.nil
  | cons candidate rest ih =>
    rw [tryEndpoints]
    rw [reached] at charged
    by_cases expired : candidate.expired = true
    · rw [if_pos expired]
      exact Bills.nil
    rw [if_neg expired]
    rw [if_neg expired] at charged
    have here : Billed run _ _ := billed_completeWithEndpoint (charged candidate List.mem_cons_self)
    cases attempt : completeWithEndpoint host request candidate with
    | mk rows outcome =>
      rw [attempt] at here charged
      cases outcome with
      | ok result => exact here
      | error failure =>
        cases failure with
        | unavailable late callIds =>
          dsimp only at charged ⊢
          by_cases fallback : request.fallback = true
          · rw [if_pos fallback] at charged ⊢
            have later := ih (fun other mem => charged other (List.mem_cons_of_mem _ mem))
              (attempted ++ callIds) late
            cases ends : tryEndpoints host request (attempted ++ callIds) late rest with
            | mk more outcome =>
              rw [ends] at later
              cases outcome with
              | ok result => exact ⟨Bills.append here later.1, later.2⟩
              | error failure => exact Bills.append here later
          · rw [if_neg fallback]
            exact here
        | _ => exact here

lemma billed_complete {endpoints : List Candidate}
    (charged : ∀ candidate ∈ asked host request endpoints, Charged host request run candidate) :
    Billed run (complete host request endpoints).1 (complete host request endpoints).2 := by
  unfold complete
  unfold asked at charged
  split
  · exact Bills.nil
  next within =>
  rw [if_neg within] at charged
  exact billed_tryEndpoints
    (fun candidate mem asks_ => charged candidate (List.mem_filter.2 ⟨mem, asks_⟩)) _ _

end

lemma Balanced.charge {run : RunUsage} {result : ModelResult} (balanced : Balanced run calls)
    (bills : Bills rows result.usage.stored) (rounds : Rounds run result.costAmount) :
    Balanced (run.charge result) (calls ++ rows.map ModelCall.stored) := by
  refine ⟨?_, ?_, ?_⟩
  · rw [List.map_append, List.sum_append, List.map_map, ← balanced.inputTokens]
    exact congrArg (run.inputTokens + ·) bills.inputTokens.symm
  · rw [List.map_append, List.sum_append, List.map_map, ← balanced.outputTokens]
    exact congrArg (run.outputTokens + ·) bills.outputTokens.symm
  · rw [List.map_append, List.sum_append, List.map_map, ← balanced.costAmount]
    exact rounds.trans (congrArg (numeric8 run.costAmount + ·) bills.costAmount.symm)

lemma Balanced.without {run : RunUsage} (balanced : Balanced run calls) (bills : Bills rows .zero) :
    Balanced run (calls ++ rows.map ModelCall.stored) := by
  refine ⟨?_, ?_, ?_⟩
  · rw [List.map_append, List.sum_append, List.map_map, balanced.inputTokens]
    exact (add_eq_left.2 bills.inputTokens).symm
  · rw [List.map_append, List.sum_append, List.map_map, balanced.outputTokens]
    exact (add_eq_left.2 bills.outputTokens).symm
  · rw [List.map_append, List.sum_append, List.map_map, balanced.costAmount]
    exact (add_eq_left.2 bills.costAmount).symm

lemma Balanced.stored {run : RunUsage} (balanced : Balanced run calls) :
    Balanced run.stored calls :=
  ⟨balanced.inputTokens, balanced.outputTokens,
    (numeric8_numeric8 run.costAmount).trans balanced.costAmount⟩

/-- The Run is balanced, in its transaction and as it was committed. -/
structure Kept (account : Account) : Prop where
  current : Balanced account.run account.calls
  saved : Balanced account.savedRun account.savedCalls

lemma Fresh.kept (fresh : Fresh account) : Kept account := by
  have balanced : Balanced account.run [] :=
    ⟨fresh.inputTokens, fresh.outputTokens, by rw [fresh.costAmount]; exact numeric8_zero⟩
  exact ⟨fresh.calls ▸ balanced, fresh.savedRun ▸ fresh.savedCalls ▸ balanced⟩

lemma Kept.rollback (kept : Kept account) : Kept account.rollback :=
  ⟨kept.saved, kept.saved⟩

lemma Kept.commit (kept : Kept account) : Kept account.commit := by
  unfold Account.commit
  split
  · exact ⟨kept.current.stored, kept.current.stored⟩
  exact kept.rollback

lemma Kept.settle (kept : Kept account) {caller : Caller} {outcome : Except Failure ModelResult}
    (billed : Billed account.run rows outcome) : Kept (account.settle caller rows outcome) := by
  cases outcome with
  | ok result => exact ⟨kept.current.charge billed.1 billed.2, kept.saved⟩
  | error failure =>
    unfold Account.settle
    dsimp only
    split
    · exact ⟨kept.current.without billed, kept.saved⟩
    exact kept.rollback

lemma kept_perform {host : Host} {event : Event} (kept : Kept account)
    (careful : Careful host ⟨account, event, perform host account event⟩) :
    Kept (perform host account event) := by
  cases event with
  | call caller prompt endpoints =>
    unfold perform
    dsimp only
    split
    · cases caller with
      | synthesis => exact kept.rollback
      | presentationRetry => exact kept.rollback
      | documentReview => exact kept
      | investigation => exact kept
    · exact kept.settle (billed_complete careful.1)
  | commit => exact kept.commit
  | rollback => exact kept.rollback

lemma estimate_of_asks {request : CompletionRequest} {candidate : Candidate} {limit : ℚ}
    (budget : request.maxCostAmount = some limit) (asks_ : asks request candidate = true) :
    estimatedCost request candidate.endpoint ≤ limit := by
  unfold asks at asks_
  simp only [budget, Option.any_some, Bool.and_eq_true, Bool.not_eq_true', decide_eq_false_iff_not,
    not_lt] at asks_
  exact asks_.1.2

lemma withinBudget_of_careful {host : Host} {move : Move Account Event} (careful : Careful host move) :
    WithinBudget host move := by
  obtain ⟨before, event, after⟩ := move
  cases event with
  | call caller prompt endpoints =>
    intro able
    dsimp only at able ⊢
    obtain ⟨-, further⟩ := careful
    dsimp only at further
    rcases List.eq_nil_or_concat (asked host (caller.request before.run prompt) endpoints) with
      none_ | ⟨front, candidate, split_⟩
    · rw [none_]
      simp only [RunUsage.exhausted, Bool.or_eq_false_iff, decide_eq_false_iff_not, not_le] at able
      exact able.2.le
    · rw [List.concat_eq_append] at split_
      rw [split_]
      simp only [estimates, List.map_append, List.map_cons, List.map_nil, List.sum_append,
        List.sum_cons, List.sum_nil, add_zero]
      by_cases first : front = []
      · rw [first, List.map_nil, List.sum_nil, zero_add]
        have mem : candidate ∈ asked host (caller.request before.run prompt) endpoints := by
          rw [split_]
          exact List.mem_append_right _ List.mem_cons_self
        have asks_ : asks (caller.request before.run prompt) candidate = true := by
          unfold asked at mem
          split at mem
          · cases mem
          exact (List.mem_filter.1 mem).2
        exact estimate_of_asks rfl asks_
      · exact further front candidate [] split_ first
  | commit | rollback => exact trivial

lemma reached_sublist {host : Host} {request : CompletionRequest} (candidates : List Candidate) :
    (reached host request candidates).Sublist candidates := by
  induction candidates with
  | nil => exact List.Sublist.refl []
  | cons candidate rest ih =>
    rw [reached]
    split
    · exact List.nil_sublist _
    refine List.Sublist.cons_cons candidate ?_
    split
    · split
      · exact ih
      exact List.nil_sublist rest
    · exact List.nil_sublist rest

lemma asked_sublist {host : Host} {request : CompletionRequest} (endpoints : List Candidate) :
    (asked host request endpoints).Sublist endpoints := by
  unfold asked
  split
  · exact List.nil_sublist endpoints
  refine (List.filter_sublist).trans ((reached_sublist _).trans ?_)
  split
  · exact List.Sublist.refl endpoints
  exact List.take_sublist 1 endpoints

def sampleAccount : Account :=
  let run : RunUsage := ⟨120000, 16000, 10, 0, 0, 0⟩
  ⟨run, [], run, []⟩

lemma sampleAccount_fresh : Fresh sampleAccount := ⟨rfl, rfl, rfl, rfl, rfl, rfl⟩

def samplePrompt : Prompt := ⟨.repeating 1, true, 1⟩

/-- An endpoint that answers with the text and counts ten input tokens. -/
def sampleAnswer (text : String) : Candidate :=
  { sampleCandidate [] with
    reply := .success (.json (.obj
      [("choices", .arr [.obj [("message", .obj [("content", .str text)])]]),
        ("usage", .obj [("prompt_tokens", .int 10)])])) }

def sampleCompletion (texts : List String) : Event :=
  .call .synthesis samplePrompt (texts.map sampleAnswer)

/-- The answers are asked for, and the transaction is committed. -/
def sampleMoves (texts : List String) : List (Move Account Event) :=
  let called := perform sampleHost sampleAccount (sampleCompletion texts)
  [⟨sampleAccount, sampleCompletion texts, called⟩, ⟨called, .commit, called.commit⟩]

def sampleEnd (texts : List String) : Account :=
  (perform sampleHost sampleAccount (sampleCompletion texts)).commit

lemma sampleMoves_path (texts : List String) :
    Path (accounting sampleHost) sampleAccount (sampleMoves texts) (sampleEnd texts) :=
  Path.cons (sampleCompletion texts) rfl (Path.cons Event.commit rfl (Path.nil _))

end Obsion.ModelGateway
