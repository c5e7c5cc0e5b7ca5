import Obsion.Lib.Transition
import Obsion.ModelGateway.Gateway

/-! # What a Run is charged for its model calls

Synthesis, its presentation retry, the document review and the investigation charge the
Run the usage of the result they get.  The rows of the calls are written by the gateway,
in the same transaction. -/

namespace Obsion.ModelGateway

open Lib

inductive Caller
  | synthesis
  | presentationRetry
  | documentReview
  | investigation

structure RunUsage where
  maxInputTokens : Int
  maxOutputTokens : Int
  maxCostAmount : ℚ
  inputTokens : Int
  outputTokens : Int
  costAmount : ℚ

/-- The Run in its transaction, the rows of its calls there, and what was last committed. -/
structure Account where
  run : RunUsage
  calls : List ModelCall
  savedRun : RunUsage
  savedCalls : List ModelCall

/-- What a caller asks for, besides the budget of the Run. -/
structure Prompt where
  profileId : Uuid
  fallback : Bool
  estimatedInputTokens : Nat

inductive Event
  | call (caller : Caller) (prompt : Prompt) (endpoints : List Candidate)
  | commit
  | rollback

def RunUsage.remainingInput (run : RunUsage) : Int := run.maxInputTokens - run.inputTokens

def RunUsage.remainingOutput (run : RunUsage) : Int := run.maxOutputTokens - run.outputTokens

def RunUsage.remainingCost (run : RunUsage) : ℚ := significant (run.maxCostAmount - run.costAmount)

def Caller.outputBudget (run : RunUsage) : Caller → Int
  | .synthesis | .presentationRetry => run.remainingOutput
  | .documentReview => min 4000 run.remainingOutput
  | .investigation => min 1500 run.remainingOutput

def RunUsage.exhausted (run : RunUsage) : Bool :=
  run.remainingInput ≤ 0 || run.remainingOutput ≤ 0 || run.remainingCost ≤ 0

def Caller.request (caller : Caller) (run : RunUsage) (prompt : Prompt) : CompletionRequest where
  profileId := prompt.profileId
  fallback := prompt.fallback
  jsonMode := true
  tools := []
  toolChoice := none
  estimatedInputTokens := prompt.estimatedInputTokens
  maxInputTokens := some run.remainingInput.toNat
  maxOutputTokens := some (caller.outputBudget run).toNat
  maxCostAmount := some run.remainingCost

/-- `except (json.JSONDecodeError, TypeError, ValueError)` -/
def Raised.invalidOutput : Raised → Bool
  | .protocol _ | .decode | .value | .type => true
  | _ => false

/-- The failures after which the caller goes on; every other one ends its transaction. -/
def Caller.catches : Caller → Failure → Bool
  | .synthesis, failure | .presentationRetry, failure =>
    match failure with
    | .unavailable _ _ => true
    | .raised raised => raised.invalidOutput
    | .refused valueError => valueError
    | _ => false
  | .documentReview, failure | .investigation, failure =>
    match failure with
    | .unavailable _ _ | .budget _ => true
    | _ => false

/-! ## Rows and charges -/

def ModelCall.stored (call : ModelCall) : ModelCall :=
  { call with costAmount := numeric8 call.costAmount }

def RunUsage.stored (run : RunUsage) : RunUsage := { run with costAmount := numeric8 run.costAmount }

def RunUsage.fits (run : RunUsage) : Bool :=
  fitsInteger run.inputTokens && fitsInteger run.outputTokens && fitsNumeric8 run.costAmount

def RunUsage.charge (run : RunUsage) (result : ModelResult) : RunUsage :=
  { run with
    inputTokens := run.inputTokens + result.inputTokens
    outputTokens := run.outputTokens + result.outputTokens
    costAmount := Decimal.add run.costAmount result.costAmount }

def Account.rollback (account : Account) : Account :=
  { account with run := account.savedRun, calls := account.savedCalls }

def Account.commit (account : Account) : Account :=
  if account.run.fits then
    ⟨account.run.stored, account.calls, account.run.stored, account.calls⟩
  else account.rollback

def Account.settle (account : Account) (caller : Caller) (rows : List ModelCall) :
    Except Failure ModelResult → Account
  | .ok result =>
    { account with
      run := account.run.charge result, calls := account.calls ++ rows.map ModelCall.stored }
  | .error failure =>
    if caller.catches failure then
      { account with calls := account.calls ++ rows.map ModelCall.stored }
    else account.rollback

/-- A caller with no budget left: synthesis raises, the others do without the model. -/
def Account.refuse (account : Account) : Caller → Account
  | .synthesis | .presentationRetry => account.rollback
  | _ => account

def perform (host : Host) (account : Account) : Event → Account
  | .call caller prompt endpoints =>
    if account.run.exhausted then account.refuse caller
    else
      let (rows, outcome) := complete host (caller.request account.run prompt) endpoints
      account.settle caller rows outcome
  | .commit => account.commit
  | .rollback => account.rollback

/-- A Run starts without calls and without usage. -/
structure Fresh (account : Account) : Prop where
  calls : account.calls = []
  inputTokens : account.run.inputTokens = 0
  outputTokens : account.run.outputTokens = 0
  costAmount : account.run.costAmount = 0
  savedRun : account.savedRun = account.run
  savedCalls : account.savedCalls = []

def accounting (host : Host) : System Account Event where
  init := Fresh
  step before event after := perform host before event = after

def reached (host : Host) (request : CompletionRequest) : List Candidate → List Candidate
  | [] => []
  | candidate :: rest =>
    if candidate.expired then []
    else
      candidate :: match (completeWithEndpoint host request candidate).2 with
        | .error (.unavailable _ _) => if request.fallback then reached host request rest else []
        | _ => []

def asks (request : CompletionRequest) (candidate : Candidate) : Bool :=
  candidate.allowed && candidate.endpoint.adapter.isSome &&
    !request.maxCostAmount.any (· < estimatedCost request candidate.endpoint) &&
    candidate.preparation = .ready

/-- The endpoints to which one `complete` sends a request. -/
def asked (host : Host) (request : CompletionRequest) (endpoints : List Candidate) :
    List Candidate :=
  if request.maxInputTokens.any (· < request.estimatedInputTokens) then []
  else
    (reached host request (if request.fallback then endpoints else endpoints.take 1)).filter
      (asks request)

def estimates (request : CompletionRequest) (candidates : List Candidate) : List ℚ :=
  candidates.map fun candidate => estimatedCost request candidate.endpoint

end Obsion.ModelGateway
