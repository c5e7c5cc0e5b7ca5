import Obsion.Base.Loads
import Obsion.Security.Evaluate

/-! # What a policy fingerprint binds

The fingerprint is taken of the compact text of the redacted request.  Two requests with
one text agree in everything but the parts of their attributes, resource and context that
redaction erases. -/

namespace Obsion.Security

open Loads

/-- The two objects differ at most in what redaction erases, and in the order of their keys. -/
def SameRedacted (engine : Engine) (left right : Fields) : Prop :=
  sortKeys (.obj (redactFields engine.redactText left)) =
    sortKeys (.obj (redactFields engine.redactText right))

structure SamePrincipal (engine : Engine) (left right : Principal) : Prop where
  id : left.id = right.id
  departmentId : left.departmentId = right.departmentId
  department : left.department = right.department
  roles : ∀ role, role ∈ left.roles ↔ role ∈ right.roles
  permissions : ∀ permission, permission ∈ left.permissions ↔ permission ∈ right.permissions
  attributes : SameRedacted engine left.attributes right.attributes

structure SameRequest (engine : Engine) (left right : PolicyInput) : Prop where
  principal : SamePrincipal engine left.principal right.principal
  agentName : left.agentName = right.agentName
  agentVersionId : left.agentVersionId = right.agentVersionId
  agentCapabilityAllowed : left.agentCapabilityAllowed = right.agentCapabilityAllowed
  capability : left.capability.id = right.capability.id
  action : left.action = right.action
  resource : SameRedacted engine left.resource right.resource
  context : SameRedacted engine left.context right.context

/-- `json.dumps` writes the request: no integer is too long, and a `dict` has a key once. -/
structure Written (request : PolicyInput) : Prop where
  attributes : Plain (.obj request.principal.attributes)
  resource : Plain (.obj request.resource)
  context : Plain (.obj request.context)

def fingerprinted (engine : Engine) (request : PolicyInput) (effect : DecisionEffect)
    (policyIds : List Uuid) : Bytes :=
  encode (safeInput engine request effect policyIds).dumpsAscii

section

variable {redactText : String → String}

mutual

lemma plain_redact : (value : Json) → Plain value → Plain (redact redactText value)
  | .null, _ => trivial
  | .bool _, _ => trivial
  | .int _, plain => plain
  | .float _, plain => plain
  | .str _, _ => trivial
  | .arr values, plain => plain_redactValues values plain
  | .obj fields, plain => by
      refine ⟨?_, plain_redactFields fields plain.2⟩
      rw [keys_redactFields]
      exact plain.1

lemma plain_redactValues :
    (values : List Json) → PlainValues values → PlainValues (redactValues redactText values)
  | [], _ => trivial
  | value :: rest, plain => ⟨plain_redact value plain.1, plain_redactValues rest plain.2⟩

lemma plain_redactFields :
    (fields : List (String × Json)) → PlainMembers fields → PlainMembers (redactFields redactText fields)
  | [], _ => trivial
  | (key, value) :: rest, plain => by
      refine ⟨?_, plain_redactFields rest plain.2⟩
      split
      · exact trivial
      exact plain_redact value plain.1

end

end

lemma eq_of_ordered {left right : Fields} (keys : left.map Prod.fst = right.map Prod.fst)
    (distinct : (left.map Prod.fst).Nodup) (perm : left.Perm right) : left = right := by
  induction left generalizing right with
  | nil => exact perm.nil_eq
  | cons first rest ih =>
    cases right with
    | nil => cases keys
    | cons other more =>
      rw [List.map_cons, List.map_cons, List.cons.injEq] at keys
      rw [List.map_cons, List.nodup_cons] at distinct
      have eq : first = other := by
        rcases List.mem_cons.1 (perm.subset List.mem_cons_self) with eq | later
        · exact eq
        exfalso
        apply distinct.1
        rw [keys.2]
        exact List.mem_map_of_mem later
      rw [eq] at perm
      rw [eq, ih keys.2 distinct.2 (List.perm_cons other |>.1 perm)]

lemma sortMembers_eq_of_sortKeys {left right : Fields} (keys : left.map Prod.fst = right.map Prod.fst)
    (distinct : (left.map Prod.fst).Nodup) (eq : sortKeys (.obj left) = sortKeys (.obj right)) :
    sortMembers left = sortMembers right := by
  have keysOf (fields : Fields) : (sortMembers fields).map Prod.fst = fields.map Prod.fst := by
    rw [sortMembers_eq, List.map_map]
    rfl
  rw [sortKeys, sortKeys, Json.obj.injEq] at eq
  have sorted := List.perm_insertionSort (fun left right : String × Json => left.1 ≤ right.1) (sortMembers left)
  rw [eq] at sorted
  refine eq_of_ordered (by rw [keysOf, keysOf, keys]) (by rw [keysOf]; exact distinct) ?_
  exact sorted.symm.trans (List.perm_insertionSort _ _)

lemma sortKeys_optionalStr (value : Option String) : sortKeys (optionalStr value) = optionalStr value := by
  cases value <;> rfl

lemma optionalStr_injective : Function.Injective optionalStr := by
  intro left right eq
  cases left with
  | none =>
    cases right with
    | none => rfl
    | some _ => cases eq
  | some text =>
    cases right with
    | none => cases eq
    | some _ =>
      cases eq
      rfl

lemma plain_optionalStr (value : Option String) : Plain (optionalStr value) := by
  cases value <;> exact trivial

lemma plainValues_strs (texts : List String) : PlainValues (texts.map Json.str) := by
  induction texts with
  | nil => exact trivial
  | cons text rest ih => exact ⟨trivial, ih⟩

lemma sortValues_strs (texts : List String) : sortValues (texts.map Json.str) = texts.map Json.str := by
  rw [sortValues_eq, List.map_map]
  rfl

lemma mem_of_sortedNames {left right : List String} (eq : sortedNames left = sortedNames right)
    (name : String) : name ∈ left ↔ name ∈ right := by
  have lists : left.dedup.insertionSort (· ≤ ·) = right.dedup.insertionSort (· ≤ ·) :=
    List.map_injective_iff.2 (fun _ _ equal => Json.str.inj equal) eq
  rw [← List.mem_dedup, ← List.mem_insertionSort (· ≤ ·), lists, List.mem_insertionSort, List.mem_dedup]

section

variable {engine : Engine} {left right : PolicyInput} {effect other : DecisionEffect}
  {policyIds otherIds : List Uuid}

def safeFields (engine : Engine) (request : PolicyInput) (effect : DecisionEffect)
    (policyIds : List Uuid) : Fields :=
  ((safeInput engine request effect policyIds).fields?).getD []

lemma safeFields_keys : (safeFields engine left effect policyIds).map Prod.fst =
    ["principal", "department_id", "department", "roles", "permissions", "attributes", "agent",
      "agent_version_id", "agent_capability_allowed", "capability", "action", "resource", "context",
      "risk", "effect", "matched_policy_ids"] := rfl

lemma plain_safeInput (written : Written left) : Plain (safeInput engine left effect policyIds) := by
  have ids : policyIds.map (fun id => Json.str id.str) = (policyIds.map Uuid.str).map Json.str := by
    rw [List.map_map]
    rfl
  have distinct : ((safeFields engine left effect policyIds).map Prod.fst).Nodup := by
    rw [safeFields_keys]
    decide
  refine ⟨distinct, ?_⟩
  refine ⟨trivial, plain_optionalStr _, plain_optionalStr _, plainValues_strs _, plainValues_strs _,
    plain_redact (.obj _) written.attributes, trivial, plain_optionalStr _, ?_, trivial, trivial,
    plain_redact (.obj _) written.resource, plain_redact (.obj _) written.context, trivial, trivial, ?_,
    trivial⟩
  · cases left.agentCapabilityAllowed <;> exact trivial
  change PlainValues (policyIds.map fun id => Json.str id.str)
  rw [ids]
  exact plainValues_strs _

lemma sameRequest_of_fingerprinted (leftWritten : Written left) (rightWritten : Written right)
    (eq : fingerprinted engine left effect policyIds = fingerprinted engine right other otherIds) :
    SameRequest engine left right := by
  have sorted := dumpsAscii_injective (plain_safeInput leftWritten) (plain_safeInput rightWritten)
    (encode_injective eq)
  have members : sortMembers (safeFields engine left effect policyIds) =
      sortMembers (safeFields engine right other otherIds) :=
    sortMembers_eq_of_sortKeys (safeFields_keys.trans safeFields_keys.symm)
      (by rw [safeFields_keys]; decide) sorted
  simp only [safeFields, safeInput, principalFingerprint, Json.fields?, Option.getD_some,
    List.cons_append, List.nil_append, sortMembers, List.cons.injEq, Prod.mk.injEq, true_and,
    sortKeys_optionalStr] at members
  obtain ⟨id, departmentId, department, roles, permissions, attributes, agentName, agentVersionId,
    allowed, capability, action, resource, context, -⟩ := members
  have names {left right : List String}
      (eq : sortKeys (.arr (sortedNames left)) = sortKeys (.arr (sortedNames right))) :
      sortedNames left = sortedNames right := by
    have values := Json.arr.inj eq
    rw [sortedNames, sortedNames, sortValues_strs, sortValues_strs] at values
    exact values
  have ids := Option.map_injective Uuid.str_injective
  refine ⟨⟨Uuid.str_injective (Json.str.inj id), ids (optionalStr_injective departmentId),
    optionalStr_injective department, mem_of_sortedNames (names roles),
    mem_of_sortedNames (names permissions), attributes⟩, Json.str.inj agentName,
    ids (optionalStr_injective agentVersionId), ?_, Uuid.str_injective (Json.str.inj capability),
    Json.str.inj action, resource, context⟩
  cases leftAllowed : left.agentCapabilityAllowed with
  | none =>
    cases rightAllowed : right.agentCapabilityAllowed with
    | none => rfl
    | some answer =>
      rw [leftAllowed, rightAllowed] at allowed
      cases allowed
  | some answer =>
    cases rightAllowed : right.agentCapabilityAllowed with
    | none =>
      rw [leftAllowed, rightAllowed] at allowed
      cases allowed
    | some other =>
      rw [leftAllowed, rightAllowed] at allowed
      exact congrArg some (Json.bool.inj allowed)

end

end Obsion.Security
