import Obsion.Security.Evaluate

/-! # The other entry points of the policy engine

`PolicyEngine.evaluate_resource` and `PolicyEngine.evaluate_action`, and the resolution of all
three on what the query of the policies returned. -/

namespace Obsion.Security

structure ResourcePolicyInput where
  principal : Principal
  action : String
  resource : Fields
  context : Fields
  riskLevel : RiskLevel
  resourceType : String
  capabilityVersionId : Option Uuid
  agentName : String
  agentVersionId : Option Uuid
  runId : Option Uuid
  resourceAccessAllowed : Option Bool

structure ActionPolicyInput where
  principal : Principal
  capability : CapabilityVersion
  action : String
  resource : Fields
  context : Fields
  actionRequestId : Uuid
  approvalValid : Bool

/-- A row of `policy_decisions` that may be about no capability. -/
structure PolicyDecisionRow where
  id : Uuid
  organizationId : Uuid
  runId : Option Uuid
  principalId : Uuid
  agentVersionId : Option Uuid
  capabilityVersionId : Option Uuid
  action : String
  resource : Fields
  context : Fields
  riskLevel : RiskLevel
  effect : DecisionEffect
  matchedPolicyIds : List String
  obligations : List Json
  reasonCodes : List String
  inputFingerprint : String
  createdAt : Time

/-! ## Resolution of what the query returned -/

/-- The part of `_resolve` behind the query of the policies. -/
def resolveFound (principal : Principal) (action : String) (found : List Policy) (otherwise : Resolution) :
    Resolution :=
  match found.argmax fun policy => policy.effect.strength with
  | some strongest =>
    let selected := found.filter fun policy => policy.effect = strongest.effect
    if strongest.effect ≠ .deny ∧ !principal.can action then denied "no_matching_grant"
    else ⟨strongest.effect, selected.flatMap Policy.obligations, selected.map reasonOf, selected.map Policy.id⟩
  | none => if !principal.can action then denied "no_matching_grant" else otherwise

def matchesCapability (repr : Json → String) (request : PolicyInput) (policy : Policy) : Bool :=
  policyMatches repr policy request.principal request.action request.resource request.context
    request.agentName request.agentVersionId request.capability.riskLevel

def capabilityDefault (riskLevel : RiskLevel) : Resolution :=
  if riskLevel = .l2 then
    ⟨.mask, [.obj [("type", .str "mask_classified_fields")],
      .obj [("type", .str "limit_result_rows"), ("value", .int 500)]], ["default_sensitive_read"], []⟩
  else ⟨.allow, [], ["principal_permission"], []⟩

/-- `PolicyEngine._resolve` on the policies that the query returned. -/
def resolveReturned (repr : Json → String) (returned : List Policy) (request : PolicyInput) : Resolution :=
  if request.agentCapabilityAllowed = some false then denied "agent_capability_not_allowed"
  else if request.capability.sideEffect ≠ .none ∨ 3 ≤ request.capability.riskLevel.ordinal then
    denied "v1_read_only_boundary"
  else
    resolveFound request.principal request.action (returned.filter (matchesCapability repr request))
      (capabilityDefault request.capability.riskLevel)

def matchesResource (repr : Json → String) (request : ResourcePolicyInput) (policy : Policy) : Bool :=
  policyMatches repr policy request.principal request.action request.resource request.context
    request.agentName request.agentVersionId request.riskLevel

def resourceDefault (riskLevel : RiskLevel) : Resolution :=
  if riskLevel = .l2 then
    ⟨.mask, [.obj [("type", .str "redact_sensitive_fields")]], ["default_sensitive_resource"], []⟩
  else ⟨.allow, [], ["principal_permission"], []⟩

def resolveResource (repr : Json → String) (returned : List Policy) (request : ResourcePolicyInput) : Resolution :=
  let found :=
    if 3 ≤ request.riskLevel.ordinal then [] else returned.filter (matchesResource repr request)
  if request.resourceAccessAllowed = some false then denied "resource_access_denied"
  else if 3 ≤ request.riskLevel.ordinal then denied "high_risk_resource_mutation_denied"
  else resolveFound request.principal request.action found (resourceDefault request.riskLevel)

def actionAgent : String := "action-agent"

def matchesAction (repr : Json → String) (request : ActionPolicyInput) (policy : Policy) : Bool :=
  policyMatches repr policy request.principal request.action request.resource request.context
    actionAgent none request.capability.riskLevel

/-- `str(context.get("environment", ""))` -/
def environmentOf (repr : Json → String) (context : Fields) : String :=
  match context.get? "environment" with
  | some value => pyStr repr value
  | none => ""

def resolveAction (repr : Json → String) (returned : List Policy) (request : ActionPolicyInput) : Resolution :=
  if environmentOf repr request.context ∉ ["development", "staging"] then denied "v1_production_action_boundary"
  else if request.capability.riskLevel ≠ .l3 ∨ request.capability.sideEffect ≠ .idempotentWrite then
    denied "v1_action_capability_boundary"
  else if !request.approvalValid then denied "action_approval_invalid"
  else if !request.principal.can "action.execute" ∨ !request.principal.can request.action then
    denied "no_matching_grant"
  else
    let found := returned.filter (matchesAction repr request)
    let denying := found.filter fun policy => policy.effect = .deny
    if denying ≠ [] then ⟨.deny, [], denying.map reasonOf, denying.map Policy.id⟩
    else ⟨.allow, [], "governed_action_approved" :: found.map reasonOf, found.map Policy.id⟩

def safeResource (engine : Engine) (request : ResourcePolicyInput) (effect : DecisionEffect)
    (policyIds : List Uuid) : Json :=
  .obj (principalFingerprint engine request.principal ++
    [("agent", .str request.agentName),
      ("agent_version_id", optionalStr (request.agentVersionId.map Uuid.str)),
      ("resource_type", .str request.resourceType),
      ("capability_version_id", optionalStr (request.capabilityVersionId.map Uuid.str)),
      ("action", .str request.action),
      ("resource", .obj (redactFields engine.redactText request.resource)),
      ("context", .obj (redactFields engine.redactText request.context)),
      ("risk", .str request.riskLevel.str),
      ("resource_access_allowed", match request.resourceAccessAllowed with
        | some allowed => .bool allowed
        | none => .null),
      ("effect", .str effect.str),
      ("matched_policy_ids", .arr (policyIds.map fun id => .str id.str))])

def evaluateResource (engine : Engine) (policies : List Policy) (request : ResourcePolicyInput) (id : Uuid)
    (now : Time) : Decision × PolicyDecisionRow :=
  let found := resolveResource engine.repr (enabledPolicies policies request.principal.organizationId) request
  (⟨id, found.effect, found.obligations, found.reasons, found.policyIds⟩,
    { id
      organizationId := request.principal.organizationId, runId := request.runId
      principalId := request.principal.id, agentVersionId := none
      capabilityVersionId := request.capabilityVersionId, action := request.action
      resource := redactFields engine.redactText request.resource
      context := redactFields engine.redactText request.context, riskLevel := request.riskLevel
      effect := found.effect, matchedPolicyIds := found.policyIds.map Uuid.str
      obligations := found.obligations, reasonCodes := found.reasons
      inputFingerprint := engine.sha256
        (encode (safeResource engine request found.effect found.policyIds).dumpsAscii)
      createdAt := now })

def safeAction (engine : Engine) (request : ActionPolicyInput) : Json :=
  .obj (principalFingerprint engine request.principal ++
    [("action_request_id", .str request.actionRequestId.str),
      ("capability", .str request.capability.id.str),
      ("action", .str request.action),
      ("resource", .obj (redactFields engine.redactText request.resource)),
      ("context", .obj (redactFields engine.redactText request.context)),
      ("risk", .str request.capability.riskLevel.str),
      ("approval_valid", .bool request.approvalValid)])

def evaluateAction (engine : Engine) (policies : List Policy) (request : ActionPolicyInput) (id : Uuid)
    (now : Time) : Decision × PolicyDecisionRow :=
  let found := resolveAction engine.repr (enabledPolicies policies request.principal.organizationId) request
  (⟨id, found.effect, [], found.reasons, found.policyIds⟩,
    { id
      organizationId := request.principal.organizationId, runId := none
      principalId := request.principal.id, agentVersionId := none
      capabilityVersionId := some request.capability.id, action := request.action
      resource := redactFields engine.redactText request.resource
      context := redactFields engine.redactText request.context
      riskLevel := request.capability.riskLevel, effect := found.effect
      matchedPolicyIds := found.policyIds.map Uuid.str, obligations := []
      reasonCodes := found.reasons
      inputFingerprint := engine.sha256 (encode (safeAction engine request).dumpsAscii)
      createdAt := now })

/-- `_resolve` is the resolution of the enabled policies. -/
lemma resolve_eq (repr : Json → String) (policies : List Policy) (request : PolicyInput) :
    resolve repr policies request =
      resolveReturned repr (enabledPolicies policies request.principal.organizationId) request := by
  rw [resolve, resolveReturned]
  split
  · rfl
  split
  · rfl
  rw [resolveFound, capabilityDefault]
  rfl

end Obsion.Security
