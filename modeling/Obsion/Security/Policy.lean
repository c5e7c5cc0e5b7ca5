import Obsion.Base.Fnmatch
import Obsion.Base.Json

/-! # The policy engine

Which policies match a request, and what a capability request is decided to be. -/

namespace Obsion.Security

open Fnmatch

inductive DecisionEffect
  | allow
  | mask
  | ask
  | deny
  deriving DecidableEq, Repr

def DecisionEffect.strength : DecisionEffect → Nat
  | .allow => 0
  | .mask => 1
  | .ask => 2
  | .deny => 3

def DecisionEffect.str : DecisionEffect → String
  | .allow => "ALLOW"
  | .mask => "MASK"
  | .ask => "ASK"
  | .deny => "DENY"

inductive RiskLevel
  | l0
  | l1
  | l2
  | l3
  | l4
  | l5
  deriving DecidableEq, Repr

def RiskLevel.ordinal : RiskLevel → Nat
  | .l0 => 0
  | .l1 => 1
  | .l2 => 2
  | .l3 => 3
  | .l4 => 4
  | .l5 => 5

def RiskLevel.str (level : RiskLevel) : String := "L" ++ toString level.ordinal

/-- `RiskLevel(value)`, unless it raises `ValueError`. -/
def RiskLevel.parse? : Json → Option RiskLevel
  | .str "L0" => some .l0
  | .str "L1" => some .l1
  | .str "L2" => some .l2
  | .str "L3" => some .l3
  | .str "L4" => some .l4
  | .str "L5" => some .l5
  | _ => none

inductive SideEffect
  | none
  | idempotentWrite
  | write
  | destructive
  deriving DecidableEq, Repr

structure CapabilityVersion where
  id : Uuid
  riskLevel : RiskLevel
  sideEffect : SideEffect

structure Principal extends Obsion.Principal where
  departmentId : Option Uuid
  department : Option String
  roles : List String
  attributes : Fields

structure PolicyInput where
  principal : Principal
  capability : CapabilityVersion
  action : String
  resource : Fields
  context : Fields
  agentName : String
  agentVersionId : Option Uuid
  agentCapabilityAllowed : Option Bool
  runId : Option Uuid

structure Policy where
  id : Uuid
  organizationId : Uuid
  name : String
  version : Nat
  effect : DecisionEffect
  priority : Int
  enabled : Bool
  conditions : Json
  obligations : List Json
  createdAt : Time

/-! ## Conditions -/

/-- `str(value)`; the text of a float, a list or an object is a parameter. -/
def pyStr (repr : Json → String) : Json → String
  | .null => "None"
  | .bool true => "True"
  | .bool false => "False"
  | .int value => toString value
  | .str value => value
  | value => repr value

def number? : Json → Option Int
  | .bool value => some (if value then 1 else 0)
  | .int value => some value
  | _ => none

mutual

/-- `actual == expected`; floats are compared by their texts. -/
def equal : Json → Json → Bool
  | .null, .null => true
  | .str left, .str right => left == right
  | .float left, .float right => left == right && left != "NaN"
  | .float left, right => (number? right).any fun value => left == toString value ++ ".0"
  | left, .float right => (number? left).any fun value => right == toString value ++ ".0"
  | .arr left, .arr right => equalValues left right
  | .obj left, .obj right => left.length == right.length && equalMembers left right
  | left, right => (number? left).isSome && number? left == number? right

def equalValues : List Json → List Json → Bool
  | [], [] => true
  | left :: lefts, right :: rights => equal left right && equalValues lefts rights
  | _, _ => false

def equalMembers : Fields → Fields → Bool
  | [], _ => true
  | (key, value) :: rest, right =>
    (match Fields.get? right key with
      | some other => equal value other
      | none => false) && equalMembers rest right

end

def matchesScalar (repr : Json → String) (actual expected : Json) : Bool :=
  match expected with
  | .arr values => values.any fun value => equal actual value
  | .str text => if text.toList.contains '*' then fnmatch (pyStr repr actual) text else equal actual expected
  | _ => equal actual expected

def stringSet (repr : Json → String) : Json → List String
  | .str value => [value]
  | .arr values => values.map (pyStr repr)
  | _ => []

def patterns (repr : Json → String) (value : Json) : List String := stringSet repr value

def lookup : Json → List String → Option Json
  | current, [] => some current
  | .obj fields, part :: rest => (Fields.get? fields part).bind fun next => lookup next rest
  | _, _ :: _ => none

def splitDots (key : String) : List String := (key.toList.splitOn '.').map String.ofList

def matchesMapping (repr : Json → String) (actual expected : Fields) : Bool :=
  expected.all fun field =>
    match lookup (.obj actual) (splitDots field.1) with
    | some current => matchesScalar repr current field.2
    | none => false

def conditionOr (conditions : Fields) (key : String) (default : Json) : Json :=
  (conditions.get? key).getD default

/-- A requirement that is only checked where it names something. -/
def ifNamed (names : List String) (holds : Bool) : Bool := names.isEmpty || holds

def matchesRoles (repr : Json → String) (conditions : Fields) (principal : Principal) : Bool :=
  let any_ := stringSet repr (conditionOr conditions "roles_any" (.arr []))
  let all_ := stringSet repr (conditionOr conditions "roles_all" (.arr []))
  ifNamed any_ (any_.any principal.roles.contains) && ifNamed all_ (all_.all principal.roles.contains)

def matchesPermissions (repr : Json → String) (conditions : Fields) (principal : Principal) : Bool :=
  let any_ := stringSet repr (conditionOr conditions "permissions_any" (.arr []))
  let all_ := stringSet repr (conditionOr conditions "permissions_all" (.arr []))
  let every := principal.permissions.contains "*"
  ifNamed any_ (every || any_.any principal.permissions.contains)
    && ifNamed all_ (every || all_.all principal.permissions.contains)

def matchesPerson (repr : Json → String) (conditions : Fields) (principal : Principal) : Bool :=
  let users := stringSet repr (conditionOr conditions "user_ids"
    (conditionOr conditions "users_any" (conditionOr conditions "users" (.arr []))))
  let departments := stringSet repr (conditionOr conditions "department_ids"
    (conditionOr conditions "departments_any" (conditionOr conditions "departments" (.arr []))))
  let names := stringSet repr (conditionOr conditions "department_names" (.arr []))
  let attributes := conditionOr conditions "attributes" (.obj [])
  ifNamed users (users.contains principal.id.str)
    && ifNamed departments (principal.departmentId.any fun id => departments.contains id.str)
    && ifNamed names (principal.department.any names.contains)
    && (!attributes.truthy || match attributes with
      | .obj expected => matchesMapping repr principal.attributes expected
      | _ => false)

def matchesRisk (conditions : Fields) (riskLevel : RiskLevel) : Bool :=
  match conditions.get? "max_risk" with
  | none => true
  | some value =>
    !value.truthy || match RiskLevel.parse? value with
      | some most => riskLevel.ordinal ≤ most.ordinal
      | none => false

def policyMatches (repr : Json → String) (policy : Policy) (principal : Principal) (action : String)
    (resource context : Fields) (agentName : String) (agentVersionId : Option Uuid)
    (riskLevel : RiskLevel) : Bool :=
  let conditions : Fields := policy.conditions.fields?.getD []
  let actions := patterns repr (conditionOr conditions "actions" (.arr [.str "*"]))
  let agents := patterns repr (conditionOr conditions "agents" (.arr [.str "*"]))
  let versions := stringSet repr (conditionOr conditions "agent_version_ids" (.arr []))
  actions.any (fnmatch action) && matchesRoles repr conditions principal
    && matchesPermissions repr conditions principal && matchesPerson repr conditions principal
    && agents.any (fnmatch agentName)
    && ifNamed versions (agentVersionId.any fun id => versions.contains id.str)
    && matchesRisk conditions riskLevel
    && match conditionOr conditions "resource" (.obj []), conditionOr conditions "context" (.obj []) with
      | .obj resources, .obj contexts =>
        matchesMapping repr resource resources && matchesMapping repr context contexts
      | _, _ => false

structure Resolution where
  effect : DecisionEffect
  obligations : List Json
  reasons : List String
  policyIds : List Uuid

def denied (reason : String) : Resolution := ⟨.deny, [], [reason], []⟩

/-- The enabled policies of the organization, in the order of the query. -/
def enabledPolicies (policies : List Policy) (organizationId : Uuid) : List Policy :=
  (policies.filter fun policy => policy.organizationId = organizationId ∧ policy.enabled).insertionSort
    fun left right => right.priority < left.priority
      ∨ (left.priority = right.priority ∧ right.createdAt ≤ left.createdAt)

def matching (repr : Json → String) (policies : List Policy) (request : PolicyInput) : List Policy :=
  (enabledPolicies policies request.principal.organizationId).filter fun policy =>
    policyMatches repr policy request.principal request.action request.resource request.context
      request.agentName request.agentVersionId request.capability.riskLevel

def reasonOf (policy : Policy) : String := "policy:" ++ policy.name ++ ":v" ++ toString policy.version

def resolve (repr : Json → String) (policies : List Policy) (request : PolicyInput) : Resolution :=
  if request.agentCapabilityAllowed = some false then denied "agent_capability_not_allowed"
  else if request.capability.sideEffect ≠ .none ∨ 3 ≤ request.capability.riskLevel.ordinal then
    denied "v1_read_only_boundary"
  else
    let found := matching repr policies request
    match found.argmax fun policy => policy.effect.strength with
    | some strongest =>
      let sameEffect := found.filter fun policy => policy.effect = strongest.effect
      if strongest.effect ≠ .deny ∧ !request.principal.can request.action then denied "no_matching_grant"
      else ⟨strongest.effect, sameEffect.flatMap Policy.obligations, sameEffect.map reasonOf,
        sameEffect.map Policy.id⟩
    | none =>
      if !request.principal.can request.action then denied "no_matching_grant"
      else if request.capability.riskLevel = .l2 then
        ⟨.mask, [.obj [("type", .str "mask_classified_fields")],
          .obj [("type", .str "limit_result_rows"), ("value", .int 500)]],
          ["default_sensitive_read"], []⟩
      else ⟨.allow, [], ["principal_permission"], []⟩

end Obsion.Security
