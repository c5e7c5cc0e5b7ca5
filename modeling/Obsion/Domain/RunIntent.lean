import Obsion.Domain.TaskContract

/-! # Run intents

The models of a run intent and of its clarifications: what they take, how they normalise it and
what their validators check. -/

namespace Obsion.Domain

def maxClarificationRounds : Nat := 2

def maxClarificationFields : Nat := 3

def maxClarificationOptions : Nat := 3

inductive ValueType
  | string
  | timeRange
  deriving DecidableEq, Repr

inductive AnswerKind
  | option
  | value
  deriving DecidableEq, Repr

inductive RequestStatus
  | open_
  | answered
  | expired
  | cancelled
  deriving DecidableEq, Repr

inductive SlotSource
  | input
  | contextRef
  | conversation
  | memory
  | workspace
  | catalog
  | manifest
  | capability
  | clarificationOption
  | clarificationValue
  deriving DecidableEq, Repr

inductive PreparationStage
  | contextResolved
  | waitingUser
  | intentResolved
  | planned
  deriving DecidableEq, Repr

inductive IntentDecision
  | proceed
  | clarify
  | unavailable
  | deny
  deriving DecidableEq, Repr

structure ClarificationOption where
  id : String
  label : String
  canonicalValue : Json
  valueFingerprint : String

/-- The cardinality, which is always `ONE`, is left out. -/
structure ClarificationField where
  slot : String
  reasonCode : String
  prompt : String
  valueType : ValueType
  options : List ClarificationOption
  allowFreeText : Bool

structure StoredClarificationAnswer where
  slot : String
  kind : AnswerKind
  value : Json
  sourceRef : String
  valueFingerprint : String

structure ClarificationRequest where
  id : String
  intentRevision : Int
  round : Int
  status : RequestStatus
  question : String
  fields : List ClarificationField
  requestedAt : String
  expiresAt : String
  gapFingerprint : String
  requestFingerprint : String
  answers : List StoredClarificationAnswer
  answeredBy : Option String
  answeredAt : Option String
  responseFingerprint : Option String
  closedAt : Option String

structure ClarificationState where
  activeId : Option String
  requests : List ClarificationRequest
  remainingExecutionSeconds : Option Int

structure ResolvedSlot where
  slot : String
  value : Json
  source : SlotSource
  sourceRef : String
  confidenceRank : Int
  fingerprint : String

structure RunIntent where
  intentRevision : Int
  preparationStage : PreparationStage
  admissionIntent : Option String
  domain : String
  route : String
  intent : String
  question : String
  metrics : List Fields
  dimensions : List Fields
  timeRange : List (String × String)
  comparison : Option String
  needData : Bool
  needRootCause : Bool
  risk : String
  agent : Option String
  skill : Option String
  skillVersion : Option Int
  skillChecksumSha256 : Option String
  decision : Option IntentDecision
  decisionReason : Option String
  resolvedSlots : List ResolvedSlot
  taskContract : Option TaskContract
  clarification : ClarificationState

section

variable (lib : Library)

def ClarificationOption.bounded (option : ClarificationOption) : Bool :=
  isCanonicalUuid option.id && between 1 240 option.label && isDigest option.valueFingerprint

def ClarificationField.bounded (field : ClarificationField) : Bool :=
  between 1 1000 field.prompt && field.options.length ≤ maxClarificationOptions
    && field.options.all ClarificationOption.bounded

def StoredClarificationAnswer.bounded (answer : StoredClarificationAnswer) : Bool :=
  between 1 500 answer.sourceRef && isDigest answer.valueFingerprint

def ClarificationRequest.bounded (request : ClarificationRequest) : Bool :=
  isCanonicalUuid request.id && 1 ≤ request.intentRevision && 1 ≤ request.round
    && request.round ≤ maxClarificationRounds && between 1 2000 request.question
    && 1 ≤ request.fields.length && request.fields.length ≤ maxClarificationFields
    && request.fields.all ClarificationField.bounded
    && isTimestamp lib request.requestedAt && isTimestamp lib request.expiresAt
    && isDigest request.gapFingerprint && isDigest request.requestFingerprint
    && request.answers.length ≤ maxClarificationFields
    && request.answers.all StoredClarificationAnswer.bounded
    && request.answeredBy.all isCanonicalUuid && request.answeredAt.all (isTimestamp lib)
    && request.responseFingerprint.all isDigest && request.closedAt.all (isTimestamp lib)

def ClarificationState.bounded (state : ClarificationState) : Bool :=
  state.activeId.all isCanonicalUuid && state.requests.length ≤ maxClarificationRounds
    && state.requests.all (ClarificationRequest.bounded lib)
    && state.remainingExecutionSeconds.all (1 ≤ ·)

def ResolvedSlot.bounded (slot : ResolvedSlot) : Bool :=
  between 1 500 slot.sourceRef && 1 ≤ slot.confidenceRank && slot.confidenceRank ≤ 100
    && isDigest slot.fingerprint

/-- `^L[0-5]$` -/
def isRisk (text : String) : Bool := ["L0", "L1", "L2", "L3", "L4", "L5"].contains text

def RunIntent.bounded (intent : RunIntent) : Bool :=
  1 ≤ intent.intentRevision && atMost 32 intent.admissionIntent && between 1 80 intent.domain
    && between 1 80 intent.route && between 1 120 intent.intent && between 1 100000 intent.question
    && intent.metrics.length ≤ 100 && intent.dimensions.length ≤ 100 && atMost 120 intent.comparison
    && isRisk intent.risk && atMost 160 intent.agent && atMost 160 intent.skill
    && intent.skillVersion.all (1 ≤ ·) && intent.skillChecksumSha256.all isDigest
    && atMost 200 intent.decisionReason && intent.resolvedSlots.length ≤ 20
    && intent.resolvedSlots.all ResolvedSlot.bounded && intent.taskContract.all TaskContract.bounded
    && intent.clarification.bounded lib

end

section

variable (lib : Library)

def ClarificationOption.normal (option : ClarificationOption) : ClarificationOption :=
  { option with
    label := normalText lib option.label, canonicalValue := normalJson lib option.canonicalValue }

def ClarificationField.normal (field : ClarificationField) : ClarificationField :=
  { field with
    slot := safeId lib field.slot, reasonCode := safeId lib field.reasonCode
    prompt := normalText lib field.prompt
    options := field.options.map (ClarificationOption.normal lib) }

def StoredClarificationAnswer.normal (answer : StoredClarificationAnswer) : StoredClarificationAnswer :=
  { answer with
    slot := safeId lib answer.slot, value := normalJson lib answer.value }

def ClarificationRequest.normal (request : ClarificationRequest) : ClarificationRequest :=
  { request with
    question := normalText lib request.question
    fields := request.fields.map (ClarificationField.normal lib)
    requestedAt := timestamp lib request.requestedAt, expiresAt := timestamp lib request.expiresAt
    answers := request.answers.map (StoredClarificationAnswer.normal lib)
    answeredAt := request.answeredAt.map (timestamp lib)
    closedAt := request.closedAt.map (timestamp lib) }

def ClarificationState.normal (state : ClarificationState) : ClarificationState :=
  { state with requests := state.requests.map (ClarificationRequest.normal lib) }

def ResolvedSlot.normal (slot : ResolvedSlot) : ResolvedSlot :=
  { slot with
    slot := safeId lib slot.slot, value := normalJson lib slot.value }

def RunIntent.normal (intent : RunIntent) : RunIntent :=
  { intent with
    domain := identifier lib intent.domain, route := identifier lib intent.route
    intent := identifier lib intent.intent, question := normalText lib intent.question
    risk := identifier lib intent.risk, agent := intent.agent.map (identifier lib)
    skill := intent.skill.map (identifier lib)
    resolvedSlots := intent.resolvedSlots.map (ResolvedSlot.normal lib)
    taskContract := intent.taskContract.map (TaskContract.normal lib)
    clarification := intent.clarification.normal lib }

end

def ValueType.str : ValueType → String
  | .string => "STRING"
  | .timeRange => "TIME_RANGE"

def AnswerKind.str : AnswerKind → String
  | .option => "OPTION"
  | .value => "VALUE"

def SlotSource.str : SlotSource → String
  | .input => "INPUT"
  | .contextRef => "CONTEXT_REF"
  | .conversation => "CONVERSATION"
  | .memory => "MEMORY"
  | .workspace => "WORKSPACE"
  | .catalog => "CATALOG"
  | .manifest => "MANIFEST"
  | .capability => "CAPABILITY"
  | .clarificationOption => "CLARIFICATION_OPTION"
  | .clarificationValue => "CLARIFICATION_VALUE"

/-- `sorted(fields, key=lambda item: item.slot)` -/
def bySlot (fields : List ClarificationField) : List ClarificationField :=
  fields.insertionSort fun left right => left.slot ≤ right.slot

section

variable (lib : Library)

def fingerprintGap (fields : List ClarificationField) : String :=
  fingerprintValue lib (.arr ((bySlot fields).map fun field =>
    .obj [("slot", .str field.slot), ("reason_code", .str field.reasonCode), ("cardinality", .str "ONE"),
      ("value_type", .str field.valueType.str), ("allow_free_text", .bool field.allowFreeText),
      ("options", strings ((field.options.map ClarificationOption.valueFingerprint).insertionSort (· ≤ ·)))]))

def fingerprintRequest (request : ClarificationRequest) : String :=
  fingerprintValue lib (.obj [("id", .str request.id), ("intent_revision", .int request.intentRevision),
    ("round", .int request.round), ("question", .str request.question),
    ("fields", .arr ((bySlot request.fields).map fun field =>
      .obj [("slot", .str field.slot), ("reason_code", .str field.reasonCode), ("prompt", .str field.prompt),
        ("cardinality", .str "ONE"), ("value_type", .str field.valueType.str),
        ("allow_free_text", .bool field.allowFreeText),
        ("options", .arr (field.options.map fun option =>
          .obj [("id", .str option.id), ("label", .str option.label)]))])),
    ("requested_at", .str request.requestedAt), ("expires_at", .str request.expiresAt)])

def ResolvedSlot.payload (slot : ResolvedSlot) : Json :=
  .obj [("slot", .str slot.slot), ("value", slot.value), ("source", .str slot.source.str),
    ("source_ref", .str slot.sourceRef), ("confidence_rank", .int slot.confidenceRank)]

end

/-! ## Validators -/

section

variable (lib : Library)

def ClarificationOption.valid (option : ClarificationOption) : Bool :=
  option.label ≠ "" && isBoundedJson option.canonicalValue && hasPlainKeys lib option.canonicalValue
    && option.valueFingerprint = fingerprintValue lib option.canonicalValue

def ClarificationField.valid (field : ClarificationField) : Bool :=
  isSafeId field.slot && !namesAny lib sensitiveSlotParts field.slot
    && !namesAny lib derivedSlotParts field.slot && isSafeId field.reasonCode && field.prompt ≠ ""
    && field.options.all (ClarificationOption.valid lib)
    && decide (field.options.map ClarificationOption.id).Nodup
    && (field.options ≠ [] || field.allowFreeText)

def StoredClarificationAnswer.valid (answer : StoredClarificationAnswer) : Bool :=
  isSafeId answer.slot && isBoundedJson answer.value
    && answer.valueFingerprint = fingerprintValue lib answer.value

def ClarificationRequest.slots (request : ClarificationRequest) : List String :=
  request.fields.map ClarificationField.slot

def ClarificationRequest.answerSlots (request : ClarificationRequest) : List String :=
  request.answers.map StoredClarificationAnswer.slot

/-- `set(left) == set(right)` -/
def sameMembers (left right : List String) : Bool := left.all (· ∈ right) && right.all (· ∈ left)

def ClarificationRequest.closes (request : ClarificationRequest) : Bool :=
  match request.status with
  | .open_ =>
    request.answers.isEmpty && request.answeredBy.isNone && request.answeredAt.isNone
      && request.responseFingerprint.isNone && request.closedAt.isNone
  | .answered =>
    sameMembers request.answerSlots request.slots && request.answeredBy.isSome
      && request.answeredAt.isSome && request.responseFingerprint.isSome && request.closedAt.isNone
  | .expired | .cancelled =>
    request.answers.isEmpty && request.answeredBy.isNone && request.answeredAt.isNone
      && request.responseFingerprint.isNone && request.closedAt.isSome

def ClarificationRequest.ordered (request : ClarificationRequest) : Bool :=
  match lib.instant? request.requestedAt, lib.instant? request.expiresAt with
  | some requested, some expires => requested.time < expires.time
  | _, _ => false

def ClarificationRequest.lifecycle (request : ClarificationRequest) : Bool :=
  decide request.slots.Nodup && request.ordered lib && decide request.answerSlots.Nodup && request.closes
    && isPrintable request.intentRevision && request.gapFingerprint = fingerprintGap lib request.fields
    && request.requestFingerprint = fingerprintRequest lib request

def ClarificationRequest.valid (request : ClarificationRequest) : Bool :=
  request.question ≠ "" && request.fields.all (ClarificationField.valid lib)
    && request.answers.all (StoredClarificationAnswer.valid lib) && request.lifecycle lib

def ClarificationState.openRequests (state : ClarificationState) : List ClarificationRequest :=
  state.requests.filter fun item => item.status = .open_

def ClarificationState.activeValid (state : ClarificationState) : Bool :=
  decide (state.requests.map ClarificationRequest.id).Nodup
    && state.requests.map ClarificationRequest.round
      = (List.range state.requests.length).map (fun index => (index + 1 : Int))
    && state.openRequests.length ≤ 1
    && match state.openRequests with
      | first :: _ =>
        state.activeId = some first.id && state.requests.getLast?.map ClarificationRequest.id = state.activeId
          && state.remainingExecutionSeconds.isSome
          && state.requests.dropLast.all fun item => item.status = .answered
      | [] => state.activeId.isNone && state.remainingExecutionSeconds.isNone

def ClarificationState.valid (state : ClarificationState) : Bool :=
  state.requests.all (ClarificationRequest.valid lib) && state.activeValid

def ClarificationState.activeRequest (state : ClarificationState) : Option ClarificationRequest :=
  match state.activeId with
  | none => none
  | some id => state.requests.find? fun item => item.id = id

def ResolvedSlot.valid (slot : ResolvedSlot) : Bool :=
  isSafeId slot.slot && isBoundedJson slot.value && slot.fingerprint = fingerprintValue lib slot.payload

def RunIntent.stateValid (intent : RunIntent) : Bool :=
  decide (intent.resolvedSlots.map ResolvedSlot.slot).Nodup
    && (match intent.clarification.activeRequest with
      | some active =>
        intent.preparationStage = .waitingUser && intent.decision = some .clarify
          && active.intentRevision = intent.intentRevision
      | none => intent.preparationStage ≠ .waitingUser)
    && (intent.decision ≠ some .clarify || intent.preparationStage = .waitingUser)
    && (intent.preparationStage ≠ .planned || intent.decision = some .proceed)
    && (intent.skillVersion.isNone == intent.skillChecksumSha256.isNone)
    && (intent.skill.isSome || intent.skillVersion.isNone)

def RunIntent.valid (intent : RunIntent) : Bool :=
  intent.domain ≠ "" && intent.route ≠ "" && intent.intent ≠ "" && intent.risk ≠ ""
    && intent.agent.all (· ≠ "") && intent.skill.all (· ≠ "") && intent.question ≠ ""
    && intent.resolvedSlots.all (ResolvedSlot.valid lib) && intent.taskContract.all (TaskContract.valid lib ·)
    && intent.clarification.valid lib && intent.stateValid

def ClarificationRequest.validate (request : ClarificationRequest) : Option ClarificationRequest :=
  if request.bounded lib && (request.normal lib).valid lib then some (request.normal lib) else none

def RunIntent.validate (intent : RunIntent) : Option RunIntent :=
  if intent.bounded lib && (intent.normal lib).valid lib then some (intent.normal lib) else none

end

end Obsion.Domain
