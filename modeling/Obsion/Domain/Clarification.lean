import Obsion.Domain.RunIntent

/-! # Clarifications

Asking for a clarification, answering it and closing it.  Dates are times in UTC, and the
identifier of a new request is an argument. -/

namespace Obsion.Domain

inductive ClarificationError
  | stateInvalid (message : String)
  | notPending (message : String)
  | staleRevision (message : String)
  | answerInvalid (message : String)
  | noProgress (message : String)
  /-- A model or a helper raises `ValueError` or `OverflowError`. -/
  | valueError
  deriving DecidableEq, Repr

structure ClarificationAnswerItem where
  slot : String
  optionId : Option String
  value : Option Json

structure ClarificationAnswerSubmission where
  expectedIntentRevision : Int
  answers : List ClarificationAnswerItem

structure AppliedClarificationAnswer where
  intent : RunIntent
  clarificationId : String
  answeredSlots : List String
  responseFingerprint : String

/-- `ValueError` where a model refuses its value. -/
def accepted {α : Type} : Option α → Except ClarificationError α
  | some value => .ok value
  | none => .error .valueError

/-- `ClarificationState(...)` of requests that are models already -/
def ClarificationState.make (activeId : Option String) (requests : List ClarificationRequest)
    (remaining : Option Int) : Option ClarificationState :=
  let state : ClarificationState := ⟨activeId, requests, remaining⟩
  if activeId.all isCanonicalUuid && requests.length ≤ maxClarificationRounds && remaining.all (1 ≤ ·)
      && state.activeValid then some state
  else none

section

variable (lib : Library)

/-- The request that `request_clarification` lets the model validate. -/
def draftRequest (intent : RunIntent) (question : String) (fields : List ClarificationField)
    (requestedAt expiresAt : Time) (requestId : String) : ClarificationRequest :=
  let draft : ClarificationRequest :=
    { id := requestId, intentRevision := intent.intentRevision
      round := intent.clarification.requests.length + 1, status := .open_
      question := normalText lib question, fields := fields
      requestedAt := lib.isoformat requestedAt, expiresAt := lib.isoformat expiresAt
      gapFingerprint := fingerprintGap lib fields, requestFingerprint := "", answers := []
      answeredBy := none, answeredAt := none, responseFingerprint := none, closedAt := none }
  { draft with requestFingerprint := fingerprintRequest lib draft }

def requestClarification (intent : RunIntent) (question : String) (fields : List ClarificationField)
    (requestedAt expiresAt : Time) (remaining : Int) (requestId : String) :
    Except ClarificationError RunIntent :=
  if intent.clarification.activeRequest.isSome then
    .error (.stateInvalid "the run already has an open clarification")
  else if maxClarificationRounds ≤ intent.clarification.requests.length then
    .error (.noProgress "the clarification round budget is exhausted")
  else if intent.clarification.requests.any fun item => item.gapFingerprint = fingerprintGap lib fields then
    .error (.noProgress "clarification repeated the same unresolved gap")
  else do
    let request ← accepted
      ((draftRequest lib intent question fields requestedAt expiresAt requestId).validate lib)
    let clarification ← accepted (ClarificationState.make (some request.id)
      (intent.clarification.requests ++ [request]) (some remaining))
    return { intent with
      preparationStage := .waitingUser, decision := some .clarify
      decisionReason := some "blocking_information_required", clarification := clarification }

/-! ## Answering -/

/-- `{item.slot: item for item in items}[slot]` -/
def lastWith {α : Type} (key : α → String) (items : List α) (slot : String) : Option α :=
  items.reverse.find? fun item => key item = slot

/-- `sorted({item.slot for item in items})` -/
def sortedSlots {α : Type} (key : α → String) (items : List α) : List String :=
  (items.map key).dedup.insertionSort (· ≤ ·)

def boundary (text : String) : Except ClarificationError Time :=
  match lib.instant? text with
  | some instant => if instant.inRange then .ok instant.time else .error .valueError
  | none => .error (.answerInvalid "time range boundaries must be ISO-8601")

def checkTimeRange (fields : Fields) : Except ClarificationError Unit :=
  if (fields.any fun field => field.1 ∉ ["start", "end", "timezone"]) || !fields.has "start"
      || !fields.has "end" then
    .error (.answerInvalid "time range clarification has unsupported fields")
  else match fields.get? "start", fields.get? "end" with
    | some (.str start), some (.str finish) => do
        let first ← boundary lib start
        let last ← boundary lib finish
        if last ≤ first then throw (.answerInvalid "time range start must be before its end")
    | _, _ => .error (.answerInvalid "time range boundaries must be strings")

/-- `_validate_free_text_value`, with the value that passes. -/
def freeText (field : ClarificationField) (value : Option Json) : Except ClarificationError Json :=
  match field.valueType, value with
  | .string, some (.str text) =>
    if text = "" then .error (.answerInvalid "clarification field requires a non-empty string")
    else .ok (.str text)
  | .string, _ => .error (.answerInvalid "clarification field requires a non-empty string")
  | .timeRange, some (.obj fields) => (checkTimeRange lib fields).map fun _ => .obj fields
  | .timeRange, _ => .error (.answerInvalid "time range clarification requires an object")

structure Choice where
  value : Json
  kind : AnswerKind
  source : SlotSource
  sourceRef : String

def chosen (activeId : String) (field : ClarificationField) (answer : ClarificationAnswerItem) :
    Except ClarificationError Choice :=
  match answer.optionId with
  | some optionId =>
    match field.options.find? fun item => item.id = optionId with
    | some option => .ok ⟨option.canonicalValue, .option, .clarificationOption, option.id⟩
    | none => .error (.answerInvalid "answer references an unknown clarification option")
  | none =>
    if !field.allowFreeText then
      .error (.answerInvalid "free-text input is not allowed for this field")
    else (freeText lib field answer.value).map fun value =>
      ⟨value, .value, .clarificationValue, activeId⟩

def StoredClarificationAnswer.validate (answer : StoredClarificationAnswer) :
    Option StoredClarificationAnswer :=
  if answer.bounded && (answer.normal lib).valid lib then some (answer.normal lib) else none

def makeResolvedSlot (slot : String) (value : Json) (source : SlotSource) (sourceRef : String)
    (confidenceRank : Int) : Option ResolvedSlot :=
  if isDumpable value && isSafeId (safeId lib slot) then
    let draft : ResolvedSlot :=
      ⟨safeId lib slot, normalJson lib value, source, sourceRef, confidenceRank, ""⟩
    let filled := { draft with fingerprint := fingerprintValue lib draft.payload }
    if filled.bounded && (filled.normal lib).valid lib then some (filled.normal lib) else none
  else none

/-- One turn of the loop of `apply_clarification_answer` -/
def answerSlot (active : ClarificationRequest) (submission : ClarificationAnswerSubmission) (slot : String) :
    Except ClarificationError (StoredClarificationAnswer × ResolvedSlot) :=
  match lastWith ClarificationField.slot active.fields slot,
    lastWith ClarificationAnswerItem.slot submission.answers slot with
  | some field, some answer => do
      let choice ← chosen lib active.id field answer
      let stored ← accepted (StoredClarificationAnswer.validate lib
        ⟨slot, choice.kind, choice.value, choice.sourceRef, fingerprintValue lib choice.value⟩)
      let resolved ← accepted (makeResolvedSlot lib slot choice.value choice.source choice.sourceRef 100)
      return (stored, resolved)
  | _, _ => .error .valueError

def responseFingerprint (answers : List StoredClarificationAnswer) : String :=
  fingerprintValue lib (.arr (answers.map fun item =>
    .obj [("slot", .str item.slot), ("kind", .str item.kind.str),
      ("value_fingerprint", .str item.valueFingerprint)]))

def requestedSlots (active : ClarificationRequest) : List String :=
  sortedSlots ClarificationField.slot active.fields

def submittedSlots (submission : ClarificationAnswerSubmission) : List String :=
  sortedSlots ClarificationAnswerItem.slot submission.answers

def answeredRequest (active : ClarificationRequest) (answers : List StoredClarificationAnswer)
    (answeredBy : String) (answeredAt : Time) : Except ClarificationError ClarificationRequest :=
  if !isCanonicalUuid answeredBy then .error .valueError
  else accepted (ClarificationRequest.validate lib { active with
    status := .answered, answers := answers, answeredBy := some answeredBy
    answeredAt := some (lib.isoformat answeredAt)
    responseFingerprint := some (responseFingerprint lib answers) })

def replaceRequest (requests : List ClarificationRequest) (id : String) (request : ClarificationRequest) :
    List ClarificationRequest :=
  requests.map fun item => if item.id = id then request else item

def mergeSlots (slots answered : List ResolvedSlot) : List ResolvedSlot :=
  (sortedSlots ResolvedSlot.slot (slots ++ answered)).filterMap
    (lastWith ResolvedSlot.slot (slots ++ answered))

def applyClarificationAnswer (intent : RunIntent) (submission : ClarificationAnswerSubmission)
    (clarificationId answeredBy : String) (answeredAt : Time) :
    Except ClarificationError AppliedClarificationAnswer :=
  if !isCanonicalUuid clarificationId then .error .valueError
  else match intent.clarification.activeRequest with
    | none => .error (.notPending "the clarification is not the active open request")
    | some active =>
      if active.id ≠ clarificationId ∨ active.status ≠ .open_ then
        .error (.notPending "the clarification is not the active open request")
      else if submission.expectedIntentRevision ≠ intent.intentRevision then
        .error (.staleRevision "the clarification targets a stale intent revision")
      else if submittedSlots submission ≠ requestedSlots active then
        .error (.answerInvalid "answers must match every requested clarification field")
      else do
        let pairs ← (requestedSlots active).mapM (answerSlot lib active submission)
        let request ← answeredRequest lib active (pairs.map Prod.fst) answeredBy answeredAt
        let clarification ← accepted (ClarificationState.make none
          (replaceRequest intent.clarification.requests active.id request) none)
        let updated ← accepted (RunIntent.validate lib { intent with
          intentRevision := intent.intentRevision + 1, preparationStage := .contextResolved
          decision := none, decisionReason := none
          resolvedSlots := mergeSlots intent.resolvedSlots (pairs.map Prod.snd)
          clarification := clarification })
        return ⟨updated, active.id, submittedSlots submission,
          responseFingerprint lib (pairs.map Prod.fst)⟩

def closeActiveClarification (intent : RunIntent) (status : RequestStatus) (closedAt : Time) :
    Except ClarificationError RunIntent :=
  match intent.clarification.activeRequest with
  | none => .ok intent
  | some active => do
      let closed ← accepted (ClarificationRequest.validate lib { active with
        status := status, closedAt := some (lib.isoformat closedAt) })
      let clarification ← accepted (ClarificationState.make none
        (replaceRequest intent.clarification.requests active.id closed) none)
      return { intent with
        preparationStage := .intentResolved, decision := some .unavailable
        decisionReason := some
          (if status = .expired then "clarification_expired" else "clarification_cancelled")
        clarification := clarification }

end

end Obsion.Domain
