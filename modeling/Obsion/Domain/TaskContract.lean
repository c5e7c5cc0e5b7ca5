import Obsion.Base.Codec
import Obsion.Domain.Texts

/-! # Task contracts

The models of a task contract.  A model takes a value if its fields meet their constraints
(`bounded`) and the normalised value passes the validators (`valid`); it returns the value with
its texts normalised (`normal`). -/

namespace Obsion.Domain

inductive SourceScopeMode
  | exactAttachments
  | exactDocuments
  | exactRepository
  | authorizedEnterprise
  | noExternalSource
  deriving DecidableEq, Repr

inductive TaskDomain
  | knowledge
  | localization
  | statistics
  | incident
  | code
  deriving DecidableEq, Repr

inductive RequirementLevel
  | hard
  | optional_
  deriving DecidableEq, Repr

inductive AccuracyMode
  | exact
  | evidenceBound
  | bestEffort
  | nonFactual
  deriving DecidableEq, Repr

inductive InvalidatedOutput
  | plan
  | dataQuery
  | statistics
  | evidenceReview
  | claims
  | artifacts
  deriving DecidableEq, Repr

inductive ChangedField
  | goal
  | sourceScope
  | objects
  | timeWindow
  | accuracy
  | deliverables
  | constraints
  | authority
  | budget
  | successCriteria
  | dimensions
  deriving DecidableEq, Repr

inductive SourceKind
  | attachment
  | document
  | repository
  deriving DecidableEq, Repr

inductive ObjectKind
  | metric
  | dimension
  | service
  | repository
  | document
  | attachment
  deriving DecidableEq, Repr

inductive DeliverableKind
  | answer
  | table
  | report
  | artifact
  deriving DecidableEq, Repr

inductive DeliverableFormat
  | auto
  | table
  | bullets
  | report
  | json
  deriving DecidableEq, Repr

/-! ## Models -/

structure TaskSourceReference where
  kind : SourceKind
  identifier : String
  version : Option Int
  deriving DecidableEq

structure TaskSourceScope where
  mode : SourceScopeMode
  references : List TaskSourceReference
  organizationSearchAllowed : Bool
  deriving DecidableEq

structure TaskObject where
  kind : ObjectKind
  identifier : String
  label : Option String
  deriving DecidableEq

structure TaskTimeWindow where
  start : String
  finish : String
  timezone : String
  deriving DecidableEq

structure TaskAccuracy where
  mode : AccuracyMode
  exactValuesRequired : Bool
  citationsRequired : Bool
  withholdUnverifiedClaims : Bool
  deriving DecidableEq

structure TaskDeliverable where
  kind : DeliverableKind
  format : DeliverableFormat
  deriving DecidableEq

/-- The three fields that are always true are left out. -/
structure TaskAuthority where
  principalId : String
  organizationId : String
  permissionSnapshotSha256 : String
  roleSnapshotSha256 : String
  deriving DecidableEq

structure TaskBudget where
  maxSteps : Int
  timeoutSeconds : Int
  maxInputTokens : Int
  maxOutputTokens : Int
  maxCostAmount : String
  deriving DecidableEq

structure DimensionRequirement where
  id : String
  domain : TaskDomain
  level : RequirementLevel
  expectedScope : String
  asOf : Option String
  precision : String
  validationRule : String
  acceptableEvidenceKinds : List String
  deriving DecidableEq

structure TaskContract where
  revision : Int
  fingerprint : String
  parentFingerprint : Option String
  goal : String
  sourceScope : TaskSourceScope
  objects : List TaskObject
  timeWindow : Option TaskTimeWindow
  accuracy : TaskAccuracy
  deliverables : List TaskDeliverable
  constraints : List String
  allowedEnvironments : List String
  authority : TaskAuthority
  budget : TaskBudget
  successCriteria : List String
  dimensions : List DimensionRequirement
  changedFields : List ChangedField
  invalidatedOutputs : List InvalidatedOutput
  deriving DecidableEq

/-- `Field(default=None, max_length=most)` -/
def atMost (most : Nat) (text : Option String) : Bool := text.all (between 0 most)

def TaskSourceReference.bounded (reference : TaskSourceReference) : Bool :=
  between 1 500 reference.identifier && reference.version.all (1 ≤ ·)

def TaskSourceScope.bounded (scope : TaskSourceScope) : Bool :=
  scope.references.length ≤ 50 && scope.references.all TaskSourceReference.bounded

def TaskObject.bounded (object : TaskObject) : Bool :=
  between 1 500 object.identifier && atMost 500 object.label

def TaskTimeWindow.bounded (window : TaskTimeWindow) : Bool :=
  between 1 80 window.start && between 1 80 window.finish && between 1 80 window.timezone

def TaskAuthority.bounded (authority : TaskAuthority) : Bool :=
  isCanonicalUuid authority.principalId && isCanonicalUuid authority.organizationId
    && isDigest authority.permissionSnapshotSha256 && isDigest authority.roleSnapshotSha256

def TaskBudget.bounded (budget : TaskBudget) : Bool :=
  1 ≤ budget.maxSteps && 1 ≤ budget.timeoutSeconds && 1 ≤ budget.maxInputTokens
    && 1 ≤ budget.maxOutputTokens && isCost budget.maxCostAmount

def DimensionRequirement.bounded (requirement : DimensionRequirement) : Bool :=
  matchesId 119 requirement.id && between 1 1000 requirement.expectedScope
    && atMost 160 requirement.asOf && between 1 160 requirement.precision
    && between 1 1000 requirement.validationRule
    && 1 ≤ requirement.acceptableEvidenceKinds.length && requirement.acceptableEvidenceKinds.length ≤ 20

def TaskContract.bounded (contract : TaskContract) : Bool :=
  1 ≤ contract.revision && isDigest contract.fingerprint && contract.parentFingerprint.all isDigest
    && between 1 100000 contract.goal && contract.sourceScope.bounded
    && contract.objects.length ≤ 200 && contract.objects.all TaskObject.bounded
    && contract.timeWindow.all TaskTimeWindow.bounded
    && 1 ≤ contract.deliverables.length && contract.deliverables.length ≤ 10
    && contract.constraints.length ≤ 24
    && 1 ≤ contract.allowedEnvironments.length && contract.allowedEnvironments.length ≤ 10
    && contract.authority.bounded && contract.budget.bounded
    && 1 ≤ contract.successCriteria.length && contract.successCriteria.length ≤ 30
    && 1 ≤ contract.dimensions.length && contract.dimensions.length ≤ 50
    && contract.dimensions.all DimensionRequirement.bounded
    && contract.changedFields.length ≤ 12 && contract.invalidatedOutputs.length ≤ 6

section

variable (lib : Library)

def TaskSourceReference.normal (reference : TaskSourceReference) : TaskSourceReference :=
  { reference with identifier := normalText lib reference.identifier }

def TaskSourceScope.normal (scope : TaskSourceScope) : TaskSourceScope :=
  { scope with references := scope.references.map (TaskSourceReference.normal lib) }

def TaskObject.normal (object : TaskObject) : TaskObject :=
  { object with
    identifier := normalText lib object.identifier, label := object.label.map (normalText lib) }

def evidenceKind (item : String) : String := lib.upper (strip item)

def DimensionRequirement.normal (requirement : DimensionRequirement) : DimensionRequirement :=
  { requirement with
    expectedScope := normalText lib requirement.expectedScope
    asOf := requirement.asOf.map (normalText lib)
    precision := normalText lib requirement.precision
    validationRule := normalText lib requirement.validationRule
    acceptableEvidenceKinds := requirement.acceptableEvidenceKinds.map (evidenceKind lib) }

def TaskContract.normal (contract : TaskContract) : TaskContract :=
  { contract with
    goal := normalText lib contract.goal, sourceScope := contract.sourceScope.normal lib
    objects := contract.objects.map (TaskObject.normal lib)
    constraints := contract.constraints.map (normalText lib)
    allowedEnvironments := contract.allowedEnvironments.map (normalText lib)
    successCriteria := contract.successCriteria.map (normalText lib)
    dimensions := contract.dimensions.map (DimensionRequirement.normal lib) }

end

/-! ## Dumps -/

def SourceScopeMode.str : SourceScopeMode → String
  | .exactAttachments => "EXACT_ATTACHMENTS"
  | .exactDocuments => "EXACT_DOCUMENTS"
  | .exactRepository => "EXACT_REPOSITORY"
  | .authorizedEnterprise => "AUTHORIZED_ENTERPRISE"
  | .noExternalSource => "NO_EXTERNAL_SOURCE"

def TaskDomain.str : TaskDomain → String
  | .knowledge => "KNOWLEDGE"
  | .localization => "LOCALIZATION"
  | .statistics => "STATISTICS"
  | .incident => "INCIDENT"
  | .code => "CODE"

def RequirementLevel.str : RequirementLevel → String
  | .hard => "HARD"
  | .optional_ => "OPTIONAL"

def AccuracyMode.str : AccuracyMode → String
  | .exact => "EXACT"
  | .evidenceBound => "EVIDENCE_BOUND"
  | .bestEffort => "BEST_EFFORT"
  | .nonFactual => "NON_FACTUAL"

def InvalidatedOutput.str : InvalidatedOutput → String
  | .plan => "PLAN"
  | .dataQuery => "DATA_QUERY"
  | .statistics => "STATISTICS"
  | .evidenceReview => "EVIDENCE_REVIEW"
  | .claims => "CLAIMS"
  | .artifacts => "ARTIFACTS"

def ChangedField.str : ChangedField → String
  | .goal => "GOAL"
  | .sourceScope => "SOURCE_SCOPE"
  | .objects => "OBJECTS"
  | .timeWindow => "TIME_WINDOW"
  | .accuracy => "ACCURACY"
  | .deliverables => "DELIVERABLES"
  | .constraints => "CONSTRAINTS"
  | .authority => "AUTHORITY"
  | .budget => "BUDGET"
  | .successCriteria => "SUCCESS_CRITERIA"
  | .dimensions => "DIMENSIONS"

def SourceKind.str : SourceKind → String
  | .attachment => "ATTACHMENT"
  | .document => "DOCUMENT"
  | .repository => "REPOSITORY"

def ObjectKind.str : ObjectKind → String
  | .metric => "METRIC"
  | .dimension => "DIMENSION"
  | .service => "SERVICE"
  | .repository => "REPOSITORY"
  | .document => "DOCUMENT"
  | .attachment => "ATTACHMENT"

def DeliverableKind.str : DeliverableKind → String
  | .answer => "ANSWER"
  | .table => "TABLE"
  | .report => "REPORT"
  | .artifact => "ARTIFACT"

def DeliverableFormat.str : DeliverableFormat → String
  | .auto => "AUTO"
  | .table => "TABLE"
  | .bullets => "BULLETS"
  | .report => "REPORT"
  | .json => "JSON"

def strings (texts : List String) : Json := .arr (texts.map Json.str)

def TaskSourceReference.dump (reference : TaskSourceReference) : Json :=
  .obj [("kind", .str reference.kind.str), ("identifier", .str reference.identifier),
    ("version", optionJson Json.int reference.version)]

def TaskSourceScope.dump (scope : TaskSourceScope) : Json :=
  .obj [("mode", .str scope.mode.str), ("references", .arr (scope.references.map TaskSourceReference.dump)),
    ("organization_search_allowed", .bool scope.organizationSearchAllowed)]

def TaskObject.dump (object : TaskObject) : Json :=
  .obj [("kind", .str object.kind.str), ("identifier", .str object.identifier),
    ("label", optionJson Json.str object.label)]

def TaskTimeWindow.dump (window : TaskTimeWindow) : Json :=
  .obj [("start", .str window.start), ("end", .str window.finish), ("timezone", .str window.timezone)]

def TaskAccuracy.dump (accuracy : TaskAccuracy) : Json :=
  .obj [("mode", .str accuracy.mode.str), ("exact_values_required", .bool accuracy.exactValuesRequired),
    ("citations_required", .bool accuracy.citationsRequired),
    ("withhold_unverified_claims", .bool accuracy.withholdUnverifiedClaims)]

def TaskDeliverable.dump (deliverable : TaskDeliverable) : Json :=
  .obj [("kind", .str deliverable.kind.str), ("format", .str deliverable.format.str)]

def TaskAuthority.dump (authority : TaskAuthority) : Json :=
  .obj [("principal_id", .str authority.principalId), ("organization_id", .str authority.organizationId),
    ("permission_snapshot_sha256", .str authority.permissionSnapshotSha256),
    ("role_snapshot_sha256", .str authority.roleSnapshotSha256),
    ("policy_engine_required", .bool true), ("capability_gateway_required", .bool true),
    ("descriptive_only", .bool true)]

def TaskBudget.dump (budget : TaskBudget) : Json :=
  .obj [("max_steps", .int budget.maxSteps), ("timeout_seconds", .int budget.timeoutSeconds),
    ("max_input_tokens", .int budget.maxInputTokens), ("max_output_tokens", .int budget.maxOutputTokens),
    ("max_cost_amount", .str budget.maxCostAmount)]

def DimensionRequirement.dump (requirement : DimensionRequirement) : Json :=
  .obj [("id", .str requirement.id), ("domain", .str requirement.domain.str),
    ("level", .str requirement.level.str), ("expected_scope", .str requirement.expectedScope),
    ("as_of", optionJson Json.str requirement.asOf), ("precision", .str requirement.precision),
    ("validation_rule", .str requirement.validationRule),
    ("acceptable_evidence_kinds", strings requirement.acceptableEvidenceKinds)]

def TaskContract.payload (contract : TaskContract) : Fields :=
  [("schema_version", .int 1), ("revision", .int contract.revision),
    ("parent_fingerprint", optionJson Json.str contract.parentFingerprint), ("goal", .str contract.goal),
    ("source_scope", contract.sourceScope.dump),
    ("objects", .arr (contract.objects.map TaskObject.dump)),
    ("time_window", optionJson TaskTimeWindow.dump contract.timeWindow),
    ("accuracy", contract.accuracy.dump),
    ("deliverables", .arr (contract.deliverables.map TaskDeliverable.dump)),
    ("constraints", strings contract.constraints),
    ("allowed_environments", strings contract.allowedEnvironments),
    ("authority", contract.authority.dump), ("budget", contract.budget.dump),
    ("success_criteria", strings contract.successCriteria),
    ("dimensions", .arr (contract.dimensions.map DimensionRequirement.dump)),
    ("changed_fields", .arr (contract.changedFields.map fun changed => .str changed.str)),
    ("invalidated_outputs", .arr (contract.invalidatedOutputs.map fun output => .str output.str))]

def TaskContract.dump (contract : TaskContract) : Json :=
  .obj (contract.payload ++ [("fingerprint", .str contract.fingerprint)])

/-! ## Validators -/

section

variable (lib : Library)

def taskContractFingerprint (payload : Fields) : String := lib.sha256 (Json.obj payload).dumps

def SourceKind.hasUuid : SourceKind → Bool
  | .attachment | .document => true
  | .repository => false

def TaskSourceReference.valid (reference : TaskSourceReference) : Bool :=
  reference.identifier ≠ "" && (!reference.kind.hasUuid || isCanonicalUuid reference.identifier)
    && (reference.kind = .document || reference.version.isNone)

def SourceScopeMode.exactKind : SourceScopeMode → Option SourceKind
  | .exactAttachments => some .attachment
  | .exactDocuments => some .document
  | .exactRepository => some .repository
  | .authorizedEnterprise | .noExternalSource => none

def TaskSourceScope.valid (scope : TaskSourceScope) : Bool :=
  scope.references.all TaskSourceReference.valid && decide scope.references.Nodup
    && (match scope.mode.exactKind with
      | some expected =>
        scope.references ≠ [] && (scope.references.all fun item => item.kind = expected)
          && !scope.organizationSearchAllowed
      | none => scope.references = [])
    && (scope.mode ≠ .authorizedEnterprise || scope.organizationSearchAllowed)
    && (scope.mode ≠ .noExternalSource || !scope.organizationSearchAllowed)

def TaskObject.valid (object : TaskObject) : Bool := object.identifier ≠ "" && object.label.all (· ≠ "")

def TaskTimeWindow.valid (window : TaskTimeWindow) : Bool :=
  (match lib.instant? window.start, lib.instant? window.finish with
    | some start, some finish => start.aware && finish.aware && decide (start.time < finish.time)
    | _, _ => false)
    && strip window.timezone ≠ ""

def DimensionRequirement.valid (requirement : DimensionRequirement) : Bool :=
  requirement.expectedScope ≠ "" && requirement.asOf.all (· ≠ "") && requirement.precision ≠ ""
    && requirement.validationRule ≠ "" && requirement.acceptableEvidenceKinds.all (between 1 80)
    && decide requirement.acceptableEvidenceKinds.Nodup

/-- What `normalize_lists` takes, normalised. -/
def validTexts (texts : List String) : Bool := texts.all (between 1 1000) && decide texts.Nodup

def TaskContract.numbers (contract : TaskContract) : List Int :=
  [contract.revision, contract.budget.maxSteps, contract.budget.timeoutSeconds, contract.budget.maxInputTokens,
    contract.budget.maxOutputTokens] ++ contract.sourceScope.references.filterMap TaskSourceReference.version

def TaskContract.consistent (contract : TaskContract) : Bool :=
  contract.goal ≠ "" && contract.sourceScope.valid && contract.objects.all TaskObject.valid
    && contract.timeWindow.all (TaskTimeWindow.valid lib) && validTexts contract.constraints
    && validTexts contract.allowedEnvironments && validTexts contract.successCriteria
    && contract.dimensions.all DimensionRequirement.valid
    && decide (contract.objects.map fun item => (item.kind, item.identifier)).Nodup
    && decide (contract.dimensions.map DimensionRequirement.id).Nodup
    && (contract.revision ≠ 1 || contract.parentFingerprint.isNone)
    && (contract.revision ≤ 1 || contract.parentFingerprint.isSome)
    && (contract.invalidatedOutputs = [] || contract.revision ≠ 1)
    && contract.numbers.all isPrintable

def TaskContract.valid (contract : TaskContract) : Bool :=
  contract.consistent lib && contract.fingerprint = taskContractFingerprint lib contract.payload

def TaskContract.validate (contract : TaskContract) : Option TaskContract :=
  if contract.bounded && (contract.normal lib).valid lib then some (contract.normal lib) else none

/-- `create_task_contract`, for a payload with the fields of a contract -/
def createTaskContract (payload : TaskContract) : Option TaskContract :=
  TaskContract.validate lib { payload with fingerprint := taskContractFingerprint lib payload.payload }

end

end Obsion.Domain
