import Obsion.Domain.RunIntent

/-! # Stored intents

How the models read JSON, and what they dump: whatever is dumped is read as it was. -/

namespace Obsion.Domain

/-! ## Enumerations -/

def sourceKind : Codec SourceKind :=
  .literal [.attachment, .document, .repository] SourceKind.str (by rintro (_ | _ | _) <;> rfl)

def sourceScopeMode : Codec SourceScopeMode :=
  .literal [.exactAttachments, .exactDocuments, .exactRepository, .authorizedEnterprise, .noExternalSource]
    SourceScopeMode.str (by rintro (_ | _ | _ | _ | _) <;> rfl)

def taskDomain : Codec TaskDomain :=
  .literal [.knowledge, .localization, .statistics, .incident, .code] TaskDomain.str
    (by rintro (_ | _ | _ | _ | _) <;> rfl)

def requirementLevel : Codec RequirementLevel :=
  .literal [.hard, .optional_] RequirementLevel.str (by rintro (_ | _) <;> rfl)

def accuracyMode : Codec AccuracyMode :=
  .literal [.exact, .evidenceBound, .bestEffort, .nonFactual] AccuracyMode.str
    (by rintro (_ | _ | _ | _) <;> rfl)

def invalidatedOutput : Codec InvalidatedOutput :=
  .literal [.plan, .dataQuery, .statistics, .evidenceReview, .claims, .artifacts] InvalidatedOutput.str
    (by rintro (_ | _ | _ | _ | _ | _) <;> rfl)

def changedField : Codec ChangedField :=
  .literal [.goal, .sourceScope, .objects, .timeWindow, .accuracy, .deliverables, .constraints, .authority,
    .budget, .successCriteria, .dimensions] ChangedField.str
    (by rintro (_ | _ | _ | _ | _ | _ | _ | _ | _ | _ | _) <;> rfl)

def objectKind : Codec ObjectKind :=
  .literal [.metric, .dimension, .service, .repository, .document, .attachment] ObjectKind.str
    (by rintro (_ | _ | _ | _ | _ | _) <;> rfl)

def deliverableKind : Codec DeliverableKind :=
  .literal [.answer, .table, .report, .artifact] DeliverableKind.str (by rintro (_ | _ | _ | _) <;> rfl)

def deliverableFormat : Codec DeliverableFormat :=
  .literal [.auto, .table, .bullets, .report, .json] DeliverableFormat.str
    (by rintro (_ | _ | _ | _ | _) <;> rfl)

def clarificationValueType : Codec ValueType :=
  .literal [.string, .timeRange] ValueType.str (by rintro (_ | _) <;> rfl)

def answerKind : Codec AnswerKind :=
  .literal [.option, .value] AnswerKind.str (by rintro (_ | _) <;> rfl)

def slotSource : Codec SlotSource :=
  .literal [.input, .contextRef, .conversation, .memory, .workspace, .catalog, .manifest, .capability,
    .clarificationOption, .clarificationValue] SlotSource.str
    (by rintro (_ | _ | _ | _ | _ | _ | _ | _ | _ | _) <;> rfl)

def RequestStatus.str : RequestStatus → String
  | .open_ => "OPEN"
  | .answered => "ANSWERED"
  | .expired => "EXPIRED"
  | .cancelled => "CANCELLED"

def requestStatus : Codec RequestStatus :=
  .literal [.open_, .answered, .expired, .cancelled] RequestStatus.str (by rintro (_ | _ | _ | _) <;> rfl)

def PreparationStage.str : PreparationStage → String
  | .contextResolved => "CONTEXT_RESOLVED"
  | .waitingUser => "WAITING_USER"
  | .intentResolved => "INTENT_RESOLVED"
  | .planned => "PLANNED"

def stage : Codec PreparationStage :=
  .literal [.contextResolved, .waitingUser, .intentResolved, .planned] PreparationStage.str
    (by rintro (_ | _ | _ | _) <;> rfl)

def IntentDecision.str : IntentDecision → String
  | .proceed => "PROCEED"
  | .clarify => "CLARIFY"
  | .unavailable => "UNAVAILABLE"
  | .deny => "DENY"

def intentDecision : Codec IntentDecision :=
  .literal [.proceed, .clarify, .unavailable, .deny] IntentDecision.str (by rintro (_ | _ | _ | _) <;> rfl)

def optionalText : Codec (Option String) := .optional .text fun _ => nofun

def optionalInt : Codec (Option Int) := .optional .int fun _ => nofun

def isTrue : Codec Unit :=
  .only (.bool true) (fun value => match value with
    | .bool answer => answer
    | _ => false) rfl

def versionOne : Codec Unit :=
  .only (.int 1) (fun value => match value with
    | .int number => number = 1
    | _ => false) rfl

def cardinalityOne : Codec Unit :=
  .only (.str "ONE") (fun value => value.str? = some "ONE") rfl

/-! ## The parts of a contract -/

def TaskSourceReference.read : Json → Option TaskSourceReference :=
  readModel ["kind", "identifier", "version"] fun fields => do
    let kind ← required sourceKind fields "kind"
    let identifier ← required .text fields "identifier"
    let version ← withDefault optionalInt fields "version" none
    return ⟨kind, identifier, version⟩

lemma TaskSourceReference.dump_eq (reference : TaskSourceReference) :
    reference.dump = .obj [("kind", sourceKind.dump reference.kind),
      ("identifier", Codec.text.dump reference.identifier), ("version", optionalInt.dump reference.version)] :=
  rfl

def TaskSourceReference.codec : Codec TaskSourceReference where
  dump := TaskSourceReference.dump
  read := TaskSourceReference.read
  read_dump := by
    intro reference
    rw [TaskSourceReference.dump_eq]
    refine (readModel_obj rfl).trans ?_
    simp [required_cons, withDefault_cons]

def TaskSourceScope.read : Json → Option TaskSourceScope :=
  readModel ["mode", "references", "organization_search_allowed"] fun fields => do
    let mode ← required sourceScopeMode fields "mode"
    let references ← withDefault (.list TaskSourceReference.codec) fields "references" []
    let organizationSearchAllowed ← withDefault .bool fields "organization_search_allowed" false
    return ⟨mode, references, organizationSearchAllowed⟩

lemma TaskSourceScope.dump_eq (scope : TaskSourceScope) :
    scope.dump = .obj [("mode", sourceScopeMode.dump scope.mode),
    ("references", (Codec.list TaskSourceReference.codec).dump scope.references),
    ("organization_search_allowed", Codec.bool.dump scope.organizationSearchAllowed)] :=
  rfl

def TaskSourceScope.codec : Codec TaskSourceScope where
  dump := TaskSourceScope.dump
  read := TaskSourceScope.read
  read_dump := by
    intro scope
    rw [TaskSourceScope.dump_eq]
    refine (readModel_obj rfl).trans ?_
    simp [required_cons, withDefault_cons]

def TaskObject.read : Json → Option TaskObject :=
  readModel ["kind", "identifier", "label"] fun fields => do
    let kind ← required objectKind fields "kind"
    let identifier ← required .text fields "identifier"
    let label ← withDefault optionalText fields "label" none
    return ⟨kind, identifier, label⟩

lemma TaskObject.dump_eq (object : TaskObject) :
    object.dump = .obj [("kind", objectKind.dump object.kind), ("identifier", Codec.text.dump object.identifier),
    ("label", optionalText.dump object.label)] :=
  rfl

def TaskObject.codec : Codec TaskObject where
  dump := TaskObject.dump
  read := TaskObject.read
  read_dump := by
    intro object
    rw [TaskObject.dump_eq]
    refine (readModel_obj rfl).trans ?_
    simp [required_cons, withDefault_cons]

def TaskTimeWindow.read : Json → Option TaskTimeWindow :=
  readModel ["start", "end", "timezone"] fun fields => do
    let start ← required .text fields "start"
    let finish ← required .text fields "end"
    let timezone ← required .text fields "timezone"
    return ⟨start, finish, timezone⟩

lemma TaskTimeWindow.dump_eq (window : TaskTimeWindow) :
    window.dump = .obj [("start", Codec.text.dump window.start), ("end", Codec.text.dump window.finish),
    ("timezone", Codec.text.dump window.timezone)] :=
  rfl

def TaskTimeWindow.codec : Codec TaskTimeWindow where
  dump := TaskTimeWindow.dump
  read := TaskTimeWindow.read
  read_dump := by
    intro window
    rw [TaskTimeWindow.dump_eq]
    refine (readModel_obj rfl).trans ?_
    simp [required_cons]

def TaskAccuracy.read : Json → Option TaskAccuracy :=
  readModel ["mode", "exact_values_required", "citations_required", "withhold_unverified_claims"] fun fields => do
    let mode ← required accuracyMode fields "mode"
    let exactValuesRequired ← required .bool fields "exact_values_required"
    let citationsRequired ← required .bool fields "citations_required"
    let withholdUnverifiedClaims ← withDefault .bool fields "withhold_unverified_claims" true
    return ⟨mode, exactValuesRequired, citationsRequired, withholdUnverifiedClaims⟩

lemma TaskAccuracy.dump_eq (accuracy : TaskAccuracy) :
    accuracy.dump = .obj [("mode", accuracyMode.dump accuracy.mode),
    ("exact_values_required", Codec.bool.dump accuracy.exactValuesRequired),
    ("citations_required", Codec.bool.dump accuracy.citationsRequired),
    ("withhold_unverified_claims", Codec.bool.dump accuracy.withholdUnverifiedClaims)] :=
  rfl

def TaskAccuracy.codec : Codec TaskAccuracy where
  dump := TaskAccuracy.dump
  read := TaskAccuracy.read
  read_dump := by
    intro accuracy
    rw [TaskAccuracy.dump_eq]
    refine (readModel_obj rfl).trans ?_
    simp [required_cons, withDefault_cons]

def TaskDeliverable.read : Json → Option TaskDeliverable :=
  readModel ["kind", "format"] fun fields => do
    let kind ← required deliverableKind fields "kind"
    let format ← withDefault deliverableFormat fields "format" .auto
    return ⟨kind, format⟩

lemma TaskDeliverable.dump_eq (deliverable : TaskDeliverable) :
    deliverable.dump = .obj [("kind", deliverableKind.dump deliverable.kind), ("format", deliverableFormat.dump deliverable.format)] :=
  rfl

def TaskDeliverable.codec : Codec TaskDeliverable where
  dump := TaskDeliverable.dump
  read := TaskDeliverable.read
  read_dump := by
    intro deliverable
    rw [TaskDeliverable.dump_eq]
    refine (readModel_obj rfl).trans ?_
    simp [required_cons, withDefault_cons]

def TaskAuthority.read : Json → Option TaskAuthority :=
  readModel ["principal_id", "organization_id", "permission_snapshot_sha256", "role_snapshot_sha256",
      "policy_engine_required", "capability_gateway_required", "descriptive_only"] fun fields => do
    let principalId ← required .text fields "principal_id"
    let organizationId ← required .text fields "organization_id"
    let permissionSnapshotSha256 ← required .text fields "permission_snapshot_sha256"
    let roleSnapshotSha256 ← required .text fields "role_snapshot_sha256"
    let _ ← withDefault isTrue fields "policy_engine_required" ()
    let _ ← withDefault isTrue fields "capability_gateway_required" ()
    let _ ← withDefault isTrue fields "descriptive_only" ()
    return ⟨principalId, organizationId, permissionSnapshotSha256, roleSnapshotSha256⟩

lemma TaskAuthority.dump_eq (authority : TaskAuthority) :
    authority.dump = .obj [("principal_id", Codec.text.dump authority.principalId),
    ("organization_id", Codec.text.dump authority.organizationId),
    ("permission_snapshot_sha256", Codec.text.dump authority.permissionSnapshotSha256),
    ("role_snapshot_sha256", Codec.text.dump authority.roleSnapshotSha256),
    ("policy_engine_required", isTrue.dump ()), ("capability_gateway_required", isTrue.dump ()),
    ("descriptive_only", isTrue.dump ())] :=
  rfl

def TaskAuthority.codec : Codec TaskAuthority where
  dump := TaskAuthority.dump
  read := TaskAuthority.read
  read_dump := by
    intro authority
    rw [TaskAuthority.dump_eq]
    refine (readModel_obj rfl).trans ?_
    simp [required_cons, withDefault_cons]

def TaskBudget.read : Json → Option TaskBudget :=
  readModel ["max_steps", "timeout_seconds", "max_input_tokens", "max_output_tokens", "max_cost_amount"] fun fields => do
    let maxSteps ← required .int fields "max_steps"
    let timeoutSeconds ← required .int fields "timeout_seconds"
    let maxInputTokens ← required .int fields "max_input_tokens"
    let maxOutputTokens ← required .int fields "max_output_tokens"
    let maxCostAmount ← required .text fields "max_cost_amount"
    return ⟨maxSteps, timeoutSeconds, maxInputTokens, maxOutputTokens, maxCostAmount⟩

lemma TaskBudget.dump_eq (budget : TaskBudget) :
    budget.dump = .obj [("max_steps", Codec.int.dump budget.maxSteps), ("timeout_seconds", Codec.int.dump budget.timeoutSeconds),
    ("max_input_tokens", Codec.int.dump budget.maxInputTokens),
    ("max_output_tokens", Codec.int.dump budget.maxOutputTokens),
    ("max_cost_amount", Codec.text.dump budget.maxCostAmount)] :=
  rfl

def TaskBudget.codec : Codec TaskBudget where
  dump := TaskBudget.dump
  read := TaskBudget.read
  read_dump := by
    intro budget
    rw [TaskBudget.dump_eq]
    refine (readModel_obj rfl).trans ?_
    simp [required_cons]

def DimensionRequirement.read : Json → Option DimensionRequirement :=
  readModel ["id", "domain", "level", "expected_scope", "as_of", "precision", "validation_rule",
      "acceptable_evidence_kinds"] fun fields => do
    let id ← required .text fields "id"
    let domain ← required taskDomain fields "domain"
    let level ← required requirementLevel fields "level"
    let expectedScope ← required .text fields "expected_scope"
    let asOf ← withDefault optionalText fields "as_of" none
    let precision ← required .text fields "precision"
    let validationRule ← required .text fields "validation_rule"
    let acceptableEvidenceKinds ← required (.list .text) fields "acceptable_evidence_kinds"
    return ⟨id, domain, level, expectedScope, asOf, precision, validationRule, acceptableEvidenceKinds⟩

lemma DimensionRequirement.dump_eq (requirement : DimensionRequirement) :
    requirement.dump = .obj [("id", Codec.text.dump requirement.id), ("domain", taskDomain.dump requirement.domain),
    ("level", requirementLevel.dump requirement.level),
    ("expected_scope", Codec.text.dump requirement.expectedScope),
    ("as_of", optionalText.dump requirement.asOf), ("precision", Codec.text.dump requirement.precision),
    ("validation_rule", Codec.text.dump requirement.validationRule),
    ("acceptable_evidence_kinds", (Codec.list .text).dump requirement.acceptableEvidenceKinds)] :=
  rfl

def DimensionRequirement.codec : Codec DimensionRequirement where
  dump := DimensionRequirement.dump
  read := DimensionRequirement.read
  read_dump := by
    intro requirement
    rw [DimensionRequirement.dump_eq]
    refine (readModel_obj rfl).trans ?_
    simp [required_cons, withDefault_cons]

def TaskContract.read : Json → Option TaskContract :=
  readModel ["schema_version", "revision", "parent_fingerprint", "goal", "source_scope", "objects", "time_window",
      "accuracy", "deliverables", "constraints", "allowed_environments", "authority", "budget",
      "success_criteria", "dimensions", "changed_fields", "invalidated_outputs", "fingerprint"] fun fields => do
    let _ ← withDefault versionOne fields "schema_version" ()
    let revision ← withDefault .int fields "revision" 1
    let parentFingerprint ← withDefault optionalText fields "parent_fingerprint" none
    let goal ← required .text fields "goal"
    let sourceScope ← required TaskSourceScope.codec fields "source_scope"
    let objects ← withDefault (.list TaskObject.codec) fields "objects" []
    let timeWindow ← withDefault (.optional TaskTimeWindow.codec fun _ => nofun) fields "time_window" none
    let accuracy ← required TaskAccuracy.codec fields "accuracy"
    let deliverables ← required (.list TaskDeliverable.codec) fields "deliverables"
    let constraints ← withDefault (.list .text) fields "constraints" []
    let allowedEnvironments ← required (.list .text) fields "allowed_environments"
    let authority ← required TaskAuthority.codec fields "authority"
    let budget ← required TaskBudget.codec fields "budget"
    let successCriteria ← required (.list .text) fields "success_criteria"
    let dimensions ← required (.list DimensionRequirement.codec) fields "dimensions"
    let changedFields ← withDefault (.list changedField) fields "changed_fields" []
    let invalidatedOutputs ← withDefault (.list invalidatedOutput) fields "invalidated_outputs" []
    let fingerprint ← required .text fields "fingerprint"
    return ⟨revision, fingerprint, parentFingerprint, goal, sourceScope, objects, timeWindow, accuracy, deliverables,
      constraints, allowedEnvironments, authority, budget, successCriteria, dimensions, changedFields,
      invalidatedOutputs⟩

lemma TaskContract.dump_eq (contract : TaskContract) :
    contract.dump = .obj [("schema_version", versionOne.dump ()), ("revision", Codec.int.dump contract.revision),
    ("parent_fingerprint", optionalText.dump contract.parentFingerprint),
    ("goal", Codec.text.dump contract.goal),
    ("source_scope", TaskSourceScope.codec.dump contract.sourceScope),
    ("objects", (Codec.list TaskObject.codec).dump contract.objects),
    ("time_window", (Codec.optional TaskTimeWindow.codec fun _ => nofun).dump contract.timeWindow),
    ("accuracy", TaskAccuracy.codec.dump contract.accuracy),
    ("deliverables", (Codec.list TaskDeliverable.codec).dump contract.deliverables),
    ("constraints", (Codec.list .text).dump contract.constraints),
    ("allowed_environments", (Codec.list .text).dump contract.allowedEnvironments),
    ("authority", TaskAuthority.codec.dump contract.authority),
    ("budget", TaskBudget.codec.dump contract.budget),
    ("success_criteria", (Codec.list .text).dump contract.successCriteria),
    ("dimensions", (Codec.list DimensionRequirement.codec).dump contract.dimensions),
    ("changed_fields", (Codec.list changedField).dump contract.changedFields),
    ("invalidated_outputs", (Codec.list invalidatedOutput).dump contract.invalidatedOutputs),
    ("fingerprint", Codec.text.dump contract.fingerprint)] :=
  rfl

def TaskContract.codec : Codec TaskContract where
  dump := TaskContract.dump
  read := TaskContract.read
  read_dump := by
    intro contract
    rw [TaskContract.dump_eq]
    refine (readModel_obj rfl).trans ?_
    simp [required_cons, withDefault_cons]

/-! ## The parts of an intent -/

def ClarificationOption.read : Json → Option ClarificationOption :=
  readModel ["id", "label", "canonical_value", "value_fingerprint"] fun fields => do
    let id ← required .text fields "id"
    let label ← required .text fields "label"
    let canonicalValue ← required .json fields "canonical_value"
    let valueFingerprint ← required .text fields "value_fingerprint"
    return ⟨id, label, canonicalValue, valueFingerprint⟩

def ClarificationOption.dump (option : ClarificationOption) : Json :=
  .obj [("id", Codec.text.dump option.id), ("label", Codec.text.dump option.label),
    ("canonical_value", Codec.json.dump option.canonicalValue),
    ("value_fingerprint", Codec.text.dump option.valueFingerprint)]

def ClarificationOption.codec : Codec ClarificationOption where
  dump := ClarificationOption.dump
  read := ClarificationOption.read
  read_dump := by
    intro option
    rw [ClarificationOption.dump]
    refine (readModel_obj rfl).trans ?_
    simp [required_cons]

def ClarificationField.read : Json → Option ClarificationField :=
  readModel ["slot", "reason_code", "prompt", "cardinality", "value_type", "options", "allow_free_text"] fun fields => do
    let slot ← required .text fields "slot"
    let reasonCode ← required .text fields "reason_code"
    let prompt ← required .text fields "prompt"
    let _ ← withDefault cardinalityOne fields "cardinality" ()
    let valueType ← withDefault clarificationValueType fields "value_type" .string
    let options ← withDefault (.list ClarificationOption.codec) fields "options" []
    let allowFreeText ← withDefault .bool fields "allow_free_text" false
    return ⟨slot, reasonCode, prompt, valueType, options, allowFreeText⟩

def ClarificationField.dump (field : ClarificationField) : Json :=
  .obj [("slot", Codec.text.dump field.slot), ("reason_code", Codec.text.dump field.reasonCode),
    ("prompt", Codec.text.dump field.prompt), ("cardinality", cardinalityOne.dump ()),
    ("value_type", clarificationValueType.dump field.valueType),
    ("options", (Codec.list ClarificationOption.codec).dump field.options),
    ("allow_free_text", Codec.bool.dump field.allowFreeText)]

def ClarificationField.codec : Codec ClarificationField where
  dump := ClarificationField.dump
  read := ClarificationField.read
  read_dump := by
    intro field
    rw [ClarificationField.dump]
    refine (readModel_obj rfl).trans ?_
    simp [required_cons, withDefault_cons]

def StoredClarificationAnswer.read : Json → Option StoredClarificationAnswer :=
  readModel ["slot", "kind", "value", "source_ref", "value_fingerprint"] fun fields => do
    let slot ← required .text fields "slot"
    let kind ← required answerKind fields "kind"
    let value ← required .json fields "value"
    let sourceRef ← required .text fields "source_ref"
    let valueFingerprint ← required .text fields "value_fingerprint"
    return ⟨slot, kind, value, sourceRef, valueFingerprint⟩

def StoredClarificationAnswer.dump (answer : StoredClarificationAnswer) : Json :=
  .obj [("slot", Codec.text.dump answer.slot), ("kind", answerKind.dump answer.kind),
    ("value", Codec.json.dump answer.value), ("source_ref", Codec.text.dump answer.sourceRef),
    ("value_fingerprint", Codec.text.dump answer.valueFingerprint)]

def StoredClarificationAnswer.codec : Codec StoredClarificationAnswer where
  dump := StoredClarificationAnswer.dump
  read := StoredClarificationAnswer.read
  read_dump := by
    intro answer
    rw [StoredClarificationAnswer.dump]
    refine (readModel_obj rfl).trans ?_
    simp [required_cons]

def ClarificationRequest.read : Json → Option ClarificationRequest :=
  readModel ["id", "intent_revision", "round", "status", "question", "fields", "requested_at", "expires_at",
      "gap_fingerprint", "request_fingerprint", "answers", "answered_by", "answered_at",
      "response_fingerprint", "closed_at"] fun fields => do
    let id ← required .text fields "id"
    let intentRevision ← required .int fields "intent_revision"
    let round ← required .int fields "round"
    let status ← required requestStatus fields "status"
    let question ← required .text fields "question"
    let asked ← required (.list ClarificationField.codec) fields "fields"
    let requestedAt ← required .text fields "requested_at"
    let expiresAt ← required .text fields "expires_at"
    let gapFingerprint ← required .text fields "gap_fingerprint"
    let requestFingerprint ← required .text fields "request_fingerprint"
    let answers ← withDefault (.list StoredClarificationAnswer.codec) fields "answers" []
    let answeredBy ← withDefault optionalText fields "answered_by" none
    let answeredAt ← withDefault optionalText fields "answered_at" none
    let responseFingerprint ← withDefault optionalText fields "response_fingerprint" none
    let closedAt ← withDefault optionalText fields "closed_at" none
    return ⟨id, intentRevision, round, status, question, asked, requestedAt, expiresAt, gapFingerprint,
      requestFingerprint, answers, answeredBy, answeredAt, responseFingerprint, closedAt⟩

def ClarificationRequest.dump (request : ClarificationRequest) : Json :=
  .obj [("id", Codec.text.dump request.id), ("intent_revision", Codec.int.dump request.intentRevision),
    ("round", Codec.int.dump request.round), ("status", requestStatus.dump request.status),
    ("question", Codec.text.dump request.question),
    ("fields", (Codec.list ClarificationField.codec).dump request.fields),
    ("requested_at", Codec.text.dump request.requestedAt), ("expires_at", Codec.text.dump request.expiresAt),
    ("gap_fingerprint", Codec.text.dump request.gapFingerprint),
    ("request_fingerprint", Codec.text.dump request.requestFingerprint),
    ("answers", (Codec.list StoredClarificationAnswer.codec).dump request.answers),
    ("answered_by", optionalText.dump request.answeredBy),
    ("answered_at", optionalText.dump request.answeredAt),
    ("response_fingerprint", optionalText.dump request.responseFingerprint),
    ("closed_at", optionalText.dump request.closedAt)]

def ClarificationRequest.codec : Codec ClarificationRequest where
  dump := ClarificationRequest.dump
  read := ClarificationRequest.read
  read_dump := by
    intro request
    rw [ClarificationRequest.dump]
    refine (readModel_obj rfl).trans ?_
    simp [required_cons, withDefault_cons]

def ClarificationState.read : Json → Option ClarificationState :=
  readModel ["active_id", "requests", "remaining_execution_seconds"] fun fields => do
    let activeId ← withDefault optionalText fields "active_id" none
    let requests ← withDefault (.list ClarificationRequest.codec) fields "requests" []
    let remainingExecutionSeconds ← withDefault optionalInt fields "remaining_execution_seconds" none
    return ⟨activeId, requests, remainingExecutionSeconds⟩

def ClarificationState.dump (state : ClarificationState) : Json :=
  .obj [("active_id", optionalText.dump state.activeId),
    ("requests", (Codec.list ClarificationRequest.codec).dump state.requests),
    ("remaining_execution_seconds", optionalInt.dump state.remainingExecutionSeconds)]

def ClarificationState.codec : Codec ClarificationState where
  dump := ClarificationState.dump
  read := ClarificationState.read
  read_dump := by
    intro state
    rw [ClarificationState.dump]
    refine (readModel_obj rfl).trans ?_
    simp [withDefault_cons]

def ResolvedSlot.read : Json → Option ResolvedSlot :=
  readModel ["slot", "value", "source", "source_ref", "confidence_rank", "fingerprint"] fun fields => do
    let slot ← required .text fields "slot"
    let value ← required .json fields "value"
    let source ← required slotSource fields "source"
    let sourceRef ← required .text fields "source_ref"
    let confidenceRank ← required .int fields "confidence_rank"
    let fingerprint ← required .text fields "fingerprint"
    return ⟨slot, value, source, sourceRef, confidenceRank, fingerprint⟩

def ResolvedSlot.dump (resolved : ResolvedSlot) : Json :=
  .obj [("slot", Codec.text.dump resolved.slot), ("value", Codec.json.dump resolved.value),
    ("source", slotSource.dump resolved.source), ("source_ref", Codec.text.dump resolved.sourceRef),
    ("confidence_rank", Codec.int.dump resolved.confidenceRank),
    ("fingerprint", Codec.text.dump resolved.fingerprint)]

def ResolvedSlot.codec : Codec ResolvedSlot where
  dump := ResolvedSlot.dump
  read := ResolvedSlot.read
  read_dump := by
    intro resolved
    rw [ResolvedSlot.dump]
    refine (readModel_obj rfl).trans ?_
    simp [required_cons]

def RunIntent.read : Json → Option RunIntent :=
  readModel ["schema_version", "intent_revision", "preparation_stage", "admission_intent", "domain", "route",
      "intent", "question", "metrics", "dimensions", "time_range", "comparison", "need_data",
      "need_root_cause", "risk", "agent", "skill", "skill_version", "skill_checksum_sha256", "decision",
      "decision_reason", "resolved_slots", "task_contract", "clarification"] fun fields => do
    let _ ← withDefault versionOne fields "schema_version" ()
    let intentRevision ← withDefault .int fields "intent_revision" 1
    let preparationStage ← required stage fields "preparation_stage"
    let admissionIntent ← withDefault optionalText fields "admission_intent" none
    let domain ← required .text fields "domain"
    let route ← required .text fields "route"
    let intent ← required .text fields "intent"
    let question ← required .text fields "question"
    let metrics ← withDefault (.list .members) fields "metrics" []
    let dimensions ← withDefault (.list .members) fields "dimensions" []
    let timeRange ← withDefault .texts fields "time_range" []
    let comparison ← withDefault optionalText fields "comparison" none
    let needData ← withDefault .bool fields "need_data" false
    let needRootCause ← withDefault .bool fields "need_root_cause" false
    let risk ← withDefault .text fields "risk" "L1"
    let agent ← withDefault optionalText fields "agent" none
    let skill ← withDefault optionalText fields "skill" none
    let skillVersion ← withDefault optionalInt fields "skill_version" none
    let skillChecksumSha256 ← withDefault optionalText fields "skill_checksum_sha256" none
    let decision ← withDefault (.optional intentDecision fun _ => nofun) fields "decision" none
    let decisionReason ← withDefault optionalText fields "decision_reason" none
    let resolvedSlots ← withDefault (.list ResolvedSlot.codec) fields "resolved_slots" []
    let taskContract ← withDefault (.optional TaskContract.codec fun _ => nofun) fields "task_contract" none
    let clarification ← withDefault ClarificationState.codec fields "clarification" ⟨none, [], none⟩
    return ⟨intentRevision, preparationStage, admissionIntent, domain, route, intent, question, metrics, dimensions,
      timeRange, comparison, needData, needRootCause, risk, agent, skill, skillVersion, skillChecksumSha256,
      decision, decisionReason, resolvedSlots, taskContract, clarification⟩

def RunIntent.dump (intent : RunIntent) : Json :=
  .obj [("schema_version", versionOne.dump ()), ("intent_revision", Codec.int.dump intent.intentRevision),
    ("preparation_stage", stage.dump intent.preparationStage),
    ("admission_intent", optionalText.dump intent.admissionIntent),
    ("domain", Codec.text.dump intent.domain), ("route", Codec.text.dump intent.route),
    ("intent", Codec.text.dump intent.intent), ("question", Codec.text.dump intent.question),
    ("metrics", (Codec.list .members).dump intent.metrics),
    ("dimensions", (Codec.list .members).dump intent.dimensions),
    ("time_range", Codec.texts.dump intent.timeRange), ("comparison", optionalText.dump intent.comparison),
    ("need_data", Codec.bool.dump intent.needData),
    ("need_root_cause", Codec.bool.dump intent.needRootCause), ("risk", Codec.text.dump intent.risk),
    ("agent", optionalText.dump intent.agent), ("skill", optionalText.dump intent.skill),
    ("skill_version", optionalInt.dump intent.skillVersion),
    ("skill_checksum_sha256", optionalText.dump intent.skillChecksumSha256),
    ("decision", (Codec.optional intentDecision fun _ => nofun).dump intent.decision),
    ("decision_reason", optionalText.dump intent.decisionReason),
    ("resolved_slots", (Codec.list ResolvedSlot.codec).dump intent.resolvedSlots),
    ("task_contract", (Codec.optional TaskContract.codec fun _ => nofun).dump intent.taskContract),
    ("clarification", ClarificationState.codec.dump intent.clarification)]

def RunIntent.codec : Codec RunIntent where
  dump := RunIntent.dump
  read := RunIntent.read
  read_dump := by
    intro intent
    rw [RunIntent.dump]
    refine (readModel_obj rfl).trans ?_
    simp [required_cons, withDefault_cons]

end Obsion.Domain
