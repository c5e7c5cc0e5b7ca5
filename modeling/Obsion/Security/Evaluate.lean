import Obsion.Base.Bytes
import Obsion.Base.Dumps
import Obsion.Security.Policy
import Obsion.Security.Redaction

/-! # Decisions

`PolicyEngine.evaluate`: the resolution of a request, the row that records it and its
fingerprint. -/

namespace Obsion.Security

structure Engine where
  /-- `str(value)` of floats, lists and objects -/
  repr : Json → String
  redactText : String → String
  /-- `hashlib.sha256(content).hexdigest()` -/
  sha256 : Bytes → String

structure Decision where
  id : Uuid
  effect : DecisionEffect
  obligations : List Json
  reasonCodes : List String
  matchedPolicyIds : List Uuid

structure PolicyDecision where
  id : Uuid
  organizationId : Uuid
  runId : Option Uuid
  principalId : Uuid
  agentVersionId : Option Uuid
  capabilityVersionId : Uuid
  action : String
  resource : Fields
  context : Fields
  riskLevel : RiskLevel
  effect : DecisionEffect
  matchedPolicyIds : List String
  obligations : List Json
  reasonCodes : List String
  inputFingerprint : String
  createdAt : Time

def optionalStr (value : Option String) : Json :=
  match value with
  | some text => .str text
  | none => .null

/-- `sorted(set)` -/
def sortedNames (names : List String) : List Json :=
  (names.dedup.insertionSort (· ≤ ·)).map Json.str

def principalFingerprint (engine : Engine) (principal : Principal) : Fields :=
  [("principal", .str principal.id.str),
    ("department_id", optionalStr (principal.departmentId.map Uuid.str)),
    ("department", optionalStr principal.department),
    ("roles", .arr (sortedNames principal.roles)),
    ("permissions", .arr (sortedNames principal.permissions)),
    ("attributes", .obj (redactFields engine.redactText principal.attributes))]

def safeInput (engine : Engine) (request : PolicyInput) (effect : DecisionEffect)
    (policyIds : List Uuid) : Json :=
  .obj (principalFingerprint engine request.principal ++
    [("agent", .str request.agentName),
      ("agent_version_id", optionalStr (request.agentVersionId.map Uuid.str)),
      ("agent_capability_allowed", match request.agentCapabilityAllowed with
        | some allowed => .bool allowed
        | none => .null),
      ("capability", .str request.capability.id.str),
      ("action", .str request.action),
      ("resource", .obj (redactFields engine.redactText request.resource)),
      ("context", .obj (redactFields engine.redactText request.context)),
      ("risk", .str request.capability.riskLevel.str),
      ("effect", .str effect.str),
      ("matched_policy_ids", .arr (policyIds.map fun id => .str id.str))])

def fingerprint (engine : Engine) (request : PolicyInput) (effect : DecisionEffect)
    (policyIds : List Uuid) : String :=
  engine.sha256 (encode (safeInput engine request effect policyIds).dumpsAscii)

def evaluate (engine : Engine) (policies : List Policy) (request : PolicyInput) (id : Uuid)
    (now : Time) : Decision × PolicyDecision :=
  let found := resolve engine.repr policies request
  (⟨id, found.effect, found.obligations, found.reasons, found.policyIds⟩,
    { id
      organizationId := request.principal.organizationId, runId := request.runId
      principalId := request.principal.id, agentVersionId := request.agentVersionId
      capabilityVersionId := request.capability.id, action := request.action
      resource := redactFields engine.redactText request.resource
      context := redactFields engine.redactText request.context
      riskLevel := request.capability.riskLevel, effect := found.effect
      matchedPolicyIds := found.policyIds.map Uuid.str, obligations := found.obligations
      reasonCodes := found.reasons
      inputFingerprint := fingerprint engine request found.effect found.policyIds
      createdAt := now })

variable {engine : Engine} {policies : List Policy} {request : PolicyInput}

lemma resolve_of_matching {policy : Policy} (matched : policy ∈ matching engine.repr policies request)
    (open_ : (resolve engine.repr policies request).effect ≠ .deny) :
    policy.effect.strength ≤ (resolve engine.repr policies request).effect.strength ∧
      (resolve engine.repr policies request).obligations
        = ((matching engine.repr policies request).filter fun other =>
            other.effect = (resolve engine.repr policies request).effect).flatMap Policy.obligations := by
  have filled : (matching engine.repr policies request).argmax
      (fun policy => policy.effect.strength) ≠ none := by
    rw [Ne, List.argmax_eq_none]
    rintro empty
    rw [empty] at matched
    exact List.not_mem_nil matched
  obtain ⟨strongest, found⟩ := Option.ne_none_iff_exists'.1 filled
  have most := List.le_of_mem_argmax matched (Option.mem_def.2 found)
  generalize eq : resolve engine.repr policies request = resolution at open_ ⊢
  rw [resolve] at eq
  split at eq
  · exact absurd (congrArg Resolution.effect eq).symm open_
  split at eq
  · exact absurd (congrArg Resolution.effect eq).symm open_
  dsimp only at eq
  rw [found] at eq
  dsimp only at eq
  split at eq
  · exact absurd (congrArg Resolution.effect eq).symm open_
  subst eq
  exact ⟨most, rfl⟩

/-- The obligations of a decision are those of the policies with its effect: where a masking
policy matches, the decision masks with all of its obligations, or it asks and has exactly
those of the asking policies. -/
theorem mask_obligations (id : Uuid) (now : Time) {policy : Policy}
    (matched : policy ∈ matching engine.repr policies request) (masks : policy.effect = .mask)
    (open_ : (evaluate engine policies request id now).1.effect ≠ .deny) :
    ((evaluate engine policies request id now).1.effect = .mask ∧
        ∀ obligation ∈ policy.obligations,
          obligation ∈ (evaluate engine policies request id now).1.obligations) ∨
      ((evaluate engine policies request id now).1.effect = .ask ∧
        (evaluate engine policies request id now).1.obligations
          = ((matching engine.repr policies request).filter fun other => other.effect = .ask).flatMap
              Policy.obligations) := by
  obtain ⟨most, obligations⟩ := resolve_of_matching matched open_
  change ((resolve engine.repr policies request).effect = .mask ∧ _) ∨
    ((resolve engine.repr policies request).effect = .ask ∧ _)
  change (resolve engine.repr policies request).effect ≠ .deny at open_
  rw [masks] at most
  cases effect : (resolve engine.repr policies request).effect with
  | allow =>
    rw [effect] at most
    exact absurd most (by decide)
  | mask =>
    refine .inl ⟨rfl, fun obligation inside => ?_⟩
    change obligation ∈ (resolve engine.repr policies request).obligations
    rw [obligations, effect]
    exact List.mem_flatMap.2 ⟨policy, List.mem_filter.2 ⟨matched, decide_eq_true masks⟩, inside⟩
  | ask =>
    refine .inr ⟨rfl, ?_⟩
    change (resolve engine.repr policies request).obligations = _
    rw [obligations, effect]
  | deny => exact absurd effect open_

def sampleEngine : Engine := ⟨fun _ => "", id, fun content => toString content.length⟩

def sampleId (digit : Fin 16) : Uuid := .repeating digit

def samplePrincipal : Principal :=
  { id := sampleId 1, organizationId := sampleId 2, permissions := ["metrics.read"]
    departmentId := none, department := none, roles := ["analyst"], attributes := [] }

def sampleRequest : PolicyInput :=
  ⟨samplePrincipal, ⟨sampleId 3, .l1, .none⟩, "metrics.read", [], [], "agent", none, none, none⟩

def samplePolicy (digit : Fin 16) (effect : DecisionEffect) (obligations : List Json) : Policy :=
  ⟨sampleId digit, sampleId 2, "policy", 1, effect, 0, true, .obj [], obligations, 0⟩

def sampleMask : Policy :=
  samplePolicy 4 .mask [.obj [("type", .str "mask_fields"), ("fields", .arr [.str "email"])]]

/-- An asking policy on top of a masking one leaves nothing masked. -/
theorem ask_drops_mask :
    ∃ policy ∈ matching sampleEngine.repr [sampleMask, samplePolicy 5 .ask []] sampleRequest,
      policy.effect = .mask ∧
      (evaluate sampleEngine [sampleMask, samplePolicy 5 .ask []] sampleRequest (sampleId 6) 0).1.effect
        = .ask ∧
      ∃ obligation ∈ policy.obligations, obligation ∉
        (evaluate sampleEngine [sampleMask, samplePolicy 5 .ask []] sampleRequest (sampleId 6)
          0).1.obligations := by
  have found : matching sampleEngine.repr [sampleMask, samplePolicy 5 .ask []] sampleRequest
      = [sampleMask, samplePolicy 5 .ask []] := by rfl
  have nothing : (evaluate sampleEngine [sampleMask, samplePolicy 5 .ask []] sampleRequest
      (sampleId 6) 0).1.obligations = [] := by rfl
  refine ⟨sampleMask, found ▸ List.mem_cons_self, rfl, by rfl, _, List.mem_cons_self, ?_⟩
  rw [nothing]
  exact List.not_mem_nil

theorem mask_obligations_sample :
    (evaluate sampleEngine [sampleMask] sampleRequest (sampleId 6) 0).1.effect = .mask ∧
      ∀ obligation ∈ sampleMask.obligations, obligation ∈
        (evaluate sampleEngine [sampleMask] sampleRequest (sampleId 6) 0).1.obligations := by
  have found : matching sampleEngine.repr [sampleMask] sampleRequest = [sampleMask] := by rfl
  have masked : (evaluate sampleEngine [sampleMask] sampleRequest (sampleId 6) 0).1.effect = .mask := by
    rfl
  have open_ : (evaluate sampleEngine [sampleMask] sampleRequest (sampleId 6) 0).1.effect ≠ .deny := by
    rw [masked]
    decide
  rcases mask_obligations (sampleId 6) 0 (found ▸ List.mem_cons_self) rfl open_ with kept | ⟨asks, -⟩
  · exact kept
  rw [masked] at asks
  cases asks

end Obsion.Security
