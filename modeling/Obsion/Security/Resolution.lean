import Obsion.Security.EntryPoints

/-! # Safety of the resolution

The three entry points resolve to the same kind of effect: it depends on which policies match and
not on their order, and nothing that is added to the policies takes a refusal back. -/

namespace Obsion.Security

lemma strength_injective : Function.Injective DecisionEffect.strength := by
  rintro left right eq
  cases left <;> cases right <;> first | rfl | cases eq

lemma strength_le_deny (effect : DecisionEffect) : effect.strength ≤ DecisionEffect.deny.strength := by
  cases effect <;> decide

variable {effect : DecisionEffect} {policies : List Policy}

lemma deny_of_strength_le (least : DecisionEffect.deny.strength ≤ effect.strength) : effect = .deny :=
  strength_injective (Nat.le_antisymm (strength_le_deny effect) least)

def Strongest (found : List Policy) (effect : DecisionEffect) : Prop :=
  (∃ policy ∈ found, policy.effect = effect) ∧
    ∀ policy ∈ found, policy.effect.strength ≤ effect.strength

lemma Strongest.unique {found others : List Policy} {other : DecisionEffect}
    (strongest : Strongest found effect) (strongest' : Strongest others other)
    (eq : ∀ policy, policy ∈ found ↔ policy ∈ others) : effect = other := by
  obtain ⟨⟨policy, inside, rfl⟩, most⟩ := strongest
  obtain ⟨⟨policy', inside', rfl⟩, most'⟩ := strongest'
  exact strength_injective (Nat.le_antisymm (most' policy ((eq policy).1 inside))
    (most policy' ((eq policy').2 inside')))

lemma strongest_of_argmax {found : List Policy} {strongest : Policy}
    (most : found.argmax (fun policy => policy.effect.strength) = some strongest) :
    Strongest found strongest.effect :=
  ⟨⟨strongest, List.argmax_mem (Option.mem_def.2 most), rfl⟩,
    fun _ inside => List.le_of_mem_argmax (f := fun policy => policy.effect.strength) inside
      (Option.mem_def.2 most)⟩

lemma Strongest.deny_iff {found : List Policy} (strongest : Strongest found effect) :
    effect = .deny ↔ ∃ policy ∈ found, policy.effect = .deny := by
  constructor
  · rintro rfl
    exact strongest.1
  rintro ⟨policy, inside, denies⟩
  have most := strongest.2 policy inside
  rw [denies] at most
  exact deny_of_strength_le most

section

variable {principal : Principal} {action : String} {found others : List Policy}
  {otherwise otherwise' : Resolution}

lemma resolveFound_cases (principal : Principal) (action : String) (found : List Policy)
    (otherwise : Resolution) : (principal.can action = false ∧
        (resolveFound principal action found otherwise).effect = .deny) ∨
      (principal.can action = true ∧ found = [] ∧ resolveFound principal action found otherwise = otherwise) ∨
      (principal.can action = true ∧
        Strongest found (resolveFound principal action found otherwise).effect) := by
  rw [resolveFound]
  cases most : found.argmax fun policy => policy.effect.strength with
  | none =>
    rw [List.argmax_eq_none] at most
    cases granted : principal.can action with
    | false => exact .inl ⟨rfl, rfl⟩
    | true => exact .inr (Or.inl ⟨rfl, most, rfl⟩)
  | some strongest =>
    cases granted : principal.can action with
    | false =>
      refine .inl ⟨rfl, ?_⟩
      dsimp only
      split
      · rfl
      next kept =>
        by_contra other
        exact kept ⟨other, rfl⟩
    | true =>
      refine .inr (Or.inr ⟨rfl, ?_⟩)
      dsimp only
      rw [if_neg fun refused => Bool.false_ne_true refused.2]
      exact strongest_of_argmax most

lemma resolveFound_ungranted (missing : principal.can action = false) :
    (resolveFound principal action found otherwise).effect = .deny := by
  rcases resolveFound_cases principal action found otherwise with
    ⟨-, denied⟩ | ⟨granted, -⟩ | ⟨granted, -⟩
  · exact denied
  · exact absurd (missing.symm.trans granted) Bool.false_ne_true
  · exact absurd (missing.symm.trans granted) Bool.false_ne_true

lemma resolveFound_effect_congr (eq : ∀ policy, policy ∈ found ↔ policy ∈ others)
    (default_ : otherwise.effect = otherwise'.effect) :
    (resolveFound principal action found otherwise).effect
      = (resolveFound principal action others otherwise').effect := by
  have empty : found = [] ↔ others = [] := by
    rw [List.eq_nil_iff_forall_not_mem, List.eq_nil_iff_forall_not_mem]
    exact forall_congr' fun policy => not_congr (eq policy)
  rcases resolveFound_cases principal action found otherwise with
    ⟨missing, denied⟩ | ⟨granted, none_, kept⟩ | ⟨granted, strongest⟩
  · exact denied.trans (resolveFound_ungranted missing).symm
  · rcases resolveFound_cases principal action others otherwise' with
      ⟨missing, -⟩ | ⟨-, -, kept'⟩ | ⟨-, ⟨policy, inside, -⟩, -⟩
    · exact absurd (missing.symm.trans granted) Bool.false_ne_true
    · rw [kept, kept']
      exact default_
    · rw [empty.1 none_] at inside
      cases inside
  · rcases resolveFound_cases principal action others otherwise' with
      ⟨missing, -⟩ | ⟨-, none', -⟩ | ⟨-, strongest'⟩
    · exact absurd (missing.symm.trans granted) Bool.false_ne_true
    · obtain ⟨policy, inside, -⟩ := strongest.1
      rw [empty.2 none'] at inside
      cases inside
    · exact strongest.unique strongest' eq

lemma resolveFound_deny_iff (default_ : otherwise.effect ≠ .deny) :
    (resolveFound principal action found otherwise).effect = .deny ↔
      principal.can action = false ∨ ∃ policy ∈ found, policy.effect = .deny := by
  rcases resolveFound_cases principal action found otherwise with
    ⟨missing, denied⟩ | ⟨granted, none_, kept⟩ | ⟨granted, strongest⟩
  · exact iff_of_true denied (Or.inl missing)
  · rw [kept, none_]
    refine iff_of_false default_ ?_
    rintro (missing | ⟨policy, inside, -⟩)
    · exact absurd (missing.symm.trans granted) Bool.false_ne_true
    · exact List.not_mem_nil inside
  · rw [strongest.deny_iff, granted]
    exact ⟨Or.inr, fun either => either.resolve_left Bool.noConfusion⟩

end

lemma capabilityDefault_effect_ne (riskLevel : RiskLevel) : (capabilityDefault riskLevel).effect ≠ .deny := by
  rw [capabilityDefault]
  split <;> exact DecisionEffect.noConfusion

lemma resourceDefault_effect (riskLevel : RiskLevel) :
    (resourceDefault riskLevel).effect = (capabilityDefault riskLevel).effect := by
  rw [resourceDefault, capabilityDefault]
  split <;> rfl

/-! ## Entry points -/

/-- What an entry point makes of a fixed request. -/
structure Entry where
  organizationId : Uuid
  /-- The resolution of what the query returned. -/
  resolution : List Policy → Resolution
  /-- The decision on the table of the policies. -/
  decision : List Policy → Decision
  applies : Policy → Bool
  granted : Bool
  /-- The agent, the resource or the approval of the request is refused. -/
  refused : Prop
  /-- The request is outside of what the entry point may decide. -/
  beyond : Prop

structure Safe (entry : Entry) : Prop where
  /-- Whatever order the policies come back in, the effect is that of the decision. -/
  ordered : ∀ policies returned, returned.Perm (enabledPolicies policies entry.organizationId) →
    (entry.resolution returned).effect = (entry.decision policies).effect
  denying : ∀ policies, ∀ policy ∈ policies, policy.organizationId = entry.organizationId → policy.enabled →
    entry.applies policy → policy.effect = .deny → (entry.decision policies).effect = .deny
  ungranted : ∀ policies, entry.granted = false → (entry.decision policies).effect = .deny
  refusing : ∀ policies, entry.refused → (entry.decision policies).effect = .deny
  bounded : ∀ policies, entry.beyond → (entry.decision policies).effect = .deny
  /-- No policy that is added takes a refusal back, whatever its cause. -/
  kept : ∀ policies more, policies ⊆ more → (entry.decision policies).effect = .deny →
    (entry.decision more).effect = .deny

lemma mem_enabledPolicies {organizationId : Uuid} {policy : Policy} :
    policy ∈ enabledPolicies policies organizationId ↔
      policy ∈ policies ∧ policy.organizationId = organizationId ∧ policy.enabled = true := by
  rw [enabledPolicies, List.mem_insertionSort, List.mem_filter, decide_eq_true_iff]

lemma mem_filter_congr {α : Type} {found others : List α} (keep : α → Bool)
    (eq : ∀ entry, entry ∈ found ↔ entry ∈ others) (entry : α) :
    entry ∈ found.filter keep ↔ entry ∈ others.filter keep := by
  rw [List.mem_filter, List.mem_filter, eq]

lemma guarded_deny_iff {refused rest more : Prop} [Decidable refused] {shut otherwise : Resolution}
    (denied : shut.effect = .deny) (iff : ¬refused → (otherwise.effect = .deny ↔ rest ∨ more)) :
    (if refused then shut else otherwise).effect = .deny ↔ (refused ∨ rest) ∨ more := by
  split
  next holds => exact iff_of_true denied (.inl (.inl holds))
  next free => rw [iff free, or_iff_right free]

lemma exists_filter {α : Type} {P : α → Prop} (keep : α → Bool) (found : List α) :
    (∃ entry ∈ found.filter keep, P entry) ↔ ∃ entry ∈ found, keep entry = true ∧ P entry := by
  constructor
  · rintro ⟨entry, inside, holds⟩
    exact ⟨entry, List.mem_of_mem_filter inside, List.of_mem_filter inside, holds⟩
  rintro ⟨entry, inside, kept, holds⟩
  exact ⟨entry, List.mem_filter.2 ⟨inside, kept⟩, holds⟩

lemma filter_ne_nil {P : Policy → Prop} [DecidablePred P] (found : List Policy) :
    (found.filter fun policy => P policy) ≠ [] ↔ ∃ policy ∈ found, P policy := by
  rw [Ne, List.filter_eq_nil_iff]
  simp only [decide_eq_true_iff, not_forall, not_not, exists_prop]

lemma effect_of_denying (found denying : List Policy) :
    (if denying ≠ [] then (⟨.deny, [], denying.map reasonOf, denying.map Policy.id⟩ : Resolution)
      else ⟨.allow, [], "governed_action_approved" :: found.map reasonOf, found.map Policy.id⟩).effect
      = if denying ≠ [] then .deny else .allow := by
  split <;> rfl

/-- How an entry point reads the policies: its effect is fixed by their members, and its refusals
are those of the request and of the policies that apply. -/
structure Reads (entry : Entry) (closed : Prop) : Prop where
  queried : ∀ policies, (entry.decision policies).effect
    = (entry.resolution (enabledPolicies policies entry.organizationId)).effect
  members : ∀ found others, (∀ policy, policy ∈ found ↔ policy ∈ others) →
    (entry.resolution found).effect = (entry.resolution others).effect
  denies : ∀ found, (entry.resolution found).effect = .deny ↔
    closed ∨ ∃ policy ∈ found, entry.applies policy = true ∧ policy.effect = .deny
  ungranted : entry.granted = false → closed
  refusing : entry.refused → closed
  bounded : entry.beyond → closed

lemma Reads.safe {entry : Entry} {closed : Prop} (reads : Reads entry closed) : Safe entry := by
  have shut : closed → ∀ policies, (entry.decision policies).effect = .deny := by
    intro closed policies
    rw [reads.queried, reads.denies]
    exact .inl closed
  refine ⟨?_, ?_, fun policies missing => shut (reads.ungranted missing) policies,
    fun policies refused => shut (reads.refusing refused) policies,
    fun policies beyond => shut (reads.bounded beyond) policies, ?_⟩
  · intro policies returned order
    rw [reads.queried]
    exact reads.members returned _ fun policy => order.mem_iff
  · intro policies policy inside owned enabled applies denies
    rw [reads.queried, reads.denies]
    exact .inr ⟨policy, mem_enabledPolicies.2 ⟨inside, owned, enabled⟩, applies, denies⟩
  · intro policies more added denied
    rw [reads.queried, reads.denies] at denied ⊢
    refine denied.imp_right ?_
    rintro ⟨policy, inside, denies⟩
    obtain ⟨stored, owned⟩ := mem_enabledPolicies.1 inside
    exact ⟨policy, mem_enabledPolicies.2 ⟨added stored, owned⟩, denies⟩

section

variable (engine : Engine) (id : Uuid) (now : Time)

def capabilityEntry (request : PolicyInput) : Entry where
  organizationId := request.principal.organizationId
  resolution := fun returned => resolveReturned engine.repr returned request
  decision := fun policies => (evaluate engine policies request id now).1
  applies := matchesCapability engine.repr request
  granted := request.principal.can request.action
  refused := request.agentCapabilityAllowed = some false
  beyond := request.capability.sideEffect ≠ .none ∨ 3 ≤ request.capability.riskLevel.ordinal

def resourceEntry (request : ResourcePolicyInput) : Entry where
  organizationId := request.principal.organizationId
  resolution := fun returned => resolveResource engine.repr returned request
  decision := fun policies => (evaluateResource engine policies request id now).1
  applies := matchesResource engine.repr request
  granted := request.principal.can request.action
  refused := request.resourceAccessAllowed = some false
  beyond := 3 ≤ request.riskLevel.ordinal

def actionEntry (request : ActionPolicyInput) : Entry where
  organizationId := request.principal.organizationId
  resolution := fun returned => resolveAction engine.repr returned request
  decision := fun policies => (evaluateAction engine policies request id now).1
  applies := matchesAction engine.repr request
  granted := request.principal.can request.action
  refused := request.approvalValid = false
  beyond := environmentOf engine.repr request.context ∉ ["development", "staging"] ∨
    request.capability.riskLevel ≠ .l3 ∨ request.capability.sideEffect ≠ .idempotentWrite

end

section

variable {engine : Engine} {id : Uuid} {now : Time}

lemma capability_reads (request : PolicyInput) : Reads (capabilityEntry engine id now request)
      (request.agentCapabilityAllowed = some false ∨
        (request.capability.sideEffect ≠ .none ∨ 3 ≤ request.capability.riskLevel.ordinal) ∨
        request.principal.can request.action = false) where
  queried := fun policies => congrArg Resolution.effect (resolve_eq engine.repr policies request)
  members := by
    intro found others eq
    change (resolveReturned _ found _).effect = (resolveReturned _ others _).effect
    rw [resolveReturned, resolveReturned]
    split
    · rfl
    split
    · rfl
    exact resolveFound_effect_congr (mem_filter_congr _ eq) rfl
  denies := by
    intro found
    change (resolveReturned _ found _).effect = _ ↔ _
    rw [resolveReturned]
    refine guarded_deny_iff rfl fun _ => guarded_deny_iff rfl fun _ => ?_
    rw [resolveFound_deny_iff (capabilityDefault_effect_ne _)]
    exact or_congr_right (exists_filter _ found)
  ungranted := fun missing => Or.inr (Or.inr missing)
  refusing := Or.inl
  bounded := fun beyond => Or.inr (Or.inl beyond)

lemma resource_reads (request : ResourcePolicyInput) : Reads (resourceEntry engine id now request)
      (request.resourceAccessAllowed = some false ∨ 3 ≤ request.riskLevel.ordinal ∨
        request.principal.can request.action = false) where
  queried := fun _ => rfl
  members := by
    intro found others eq
    change (resolveResource _ found _).effect = (resolveResource _ others _).effect
    rw [resolveResource, resolveResource]
    by_cases beyond : 3 ≤ request.riskLevel.ordinal
    · simp only [if_pos beyond]
    simp only [if_neg beyond]
    split
    · rfl
    exact resolveFound_effect_congr (mem_filter_congr _ eq) rfl
  denies := by
    intro found
    change (resolveResource _ found _).effect = _ ↔ _
    rw [resolveResource]
    refine guarded_deny_iff rfl fun _ => guarded_deny_iff rfl fun within => ?_
    have default_ : (resourceDefault request.riskLevel).effect ≠ .deny := by
      rw [resourceDefault_effect]
      exact capabilityDefault_effect_ne _
    rw [if_neg within, resolveFound_deny_iff default_]
    exact or_congr_right (exists_filter _ found)
  ungranted := fun missing => Or.inr (Or.inr missing)
  refusing := Or.inl
  bounded := fun beyond => Or.inr (Or.inl beyond)

lemma action_reads (request : ActionPolicyInput) : Reads (actionEntry engine id now request)
      (environmentOf engine.repr request.context ∉ ["development", "staging"] ∨
        (request.capability.riskLevel ≠ .l3 ∨ request.capability.sideEffect ≠ .idempotentWrite) ∨
        request.approvalValid = false ∨
        (request.principal.can "action.execute" = false ∨ request.principal.can request.action = false)) where
  queried := fun _ => rfl
  members := by
    intro found others eq
    change (resolveAction _ found _).effect = (resolveAction _ others _).effect
    rw [resolveAction, resolveAction]
    dsimp only
    split
    · rfl
    split
    · rfl
    split
    · rfl
    split
    · rfl
    rw [effect_of_denying, effect_of_denying]
    refine if_congr ?_ rfl rfl
    rw [filter_ne_nil, filter_ne_nil]
    exact exists_congr fun policy => and_congr_left' (mem_filter_congr _ eq policy)
  denies := by
    intro found
    change (resolveAction _ found _).effect = _ ↔ _
    rw [resolveAction]
    simp only [Bool.not_eq_true']
    refine guarded_deny_iff rfl fun _ => guarded_deny_iff rfl fun _ => guarded_deny_iff rfl fun _ => ?_
    split
    next missing => exact iff_of_true rfl (.inl missing)
    next granted =>
      rw [effect_of_denying, or_iff_right granted, ← exists_filter, ← filter_ne_nil]
      split
      next denying => exact iff_of_true rfl denying
      next kept => exact iff_of_false DecisionEffect.noConfusion kept
  ungranted := fun missing => Or.inr (Or.inr (Or.inr (Or.inr missing)))
  refusing := fun refused => Or.inr (Or.inr (Or.inl refused))
  bounded := by
    rintro (outside | beyond)
    · exact .inl outside
    · exact .inr (Or.inl beyond)

end

/-- The two requests ask for the same of the same principal and agent. -/
structure Alike (request : PolicyInput) (other : ResourcePolicyInput) : Prop where
  principal : other.principal = request.principal
  action : other.action = request.action
  resource : other.resource = request.resource
  context : other.context = request.context
  riskLevel : other.riskLevel = request.capability.riskLevel
  agentName : other.agentName = request.agentName
  agentVersionId : other.agentVersionId = request.agentVersionId

lemma effects_agree {engine : Engine} {request : PolicyInput} {other : ResourcePolicyInput}
    {id id' : Uuid} {now now' : Time} (alike : Alike request other)
    (pure_ : request.capability.sideEffect = .none) (low : request.capability.riskLevel.ordinal ≤ 2)
    (agent : request.agentCapabilityAllowed ≠ some false)
    (access : other.resourceAccessAllowed ≠ some false) :
    (evaluate engine policies request id now).1.effect
      = (evaluateResource engine policies other id' now').1.effect := by
  have below : ¬3 ≤ request.capability.riskLevel.ordinal := by omega
  have inside : ¬(request.capability.sideEffect ≠ .none ∨ 3 ≤ request.capability.riskLevel.ordinal) :=
    not_or.2 ⟨not_not.2 pure_, below⟩
  have applies : matchesResource engine.repr other = matchesCapability engine.repr request := by
    funext policy
    rw [matchesResource, matchesCapability, alike.principal, alike.action, alike.resource, alike.context,
      alike.riskLevel, alike.agentName, alike.agentVersionId]
  change (resolve engine.repr policies request).effect = (resolveResource engine.repr _ other).effect
  rw [resolve_eq, resolveReturned, if_neg agent, if_neg inside, resolveResource, if_neg access, applies,
    alike.principal, alike.action, alike.riskLevel, if_neg below, if_neg below]
  exact resolveFound_effect_congr (fun _ => Iff.rfl) (resourceDefault_effect _).symm

/-- The three entry points resolve safely, and the first two agree on what both may allow. -/
theorem entry_points_safe (engine : Engine) (id : Uuid) (now : Time) :
    (∀ request, Safe (capabilityEntry engine id now request)) ∧
      (∀ request, Safe (resourceEntry engine id now request)) ∧
      (∀ request, Safe (actionEntry engine id now request)) ∧
      ∀ (policies : List Policy) (request : PolicyInput) (other : ResourcePolicyInput) (id' : Uuid)
        (now' : Time), Alike request other → request.capability.sideEffect = .none →
        request.capability.riskLevel.ordinal ≤ 2 → request.agentCapabilityAllowed ≠ some false →
        other.resourceAccessAllowed ≠ some false →
        (evaluate engine policies request id now).1.effect
          = (evaluateResource engine policies other id' now').1.effect :=
  ⟨fun request => (capability_reads request).safe, fun request => (resource_reads request).safe,
    fun request => (action_reads request).safe,
    fun _ _ _ _ _ alike pure_ low agent access => effects_agree alike pure_ low agent access⟩

/-- The read of a resource that asks what `sampleRequest` asks. -/
def sampleResource : ResourcePolicyInput :=
  ⟨samplePrincipal, "metrics.read", [], [], .l1, "memory", none, "agent", none, none, none⟩

theorem entry_points_safe_sample :
    (evaluate sampleEngine [sampleMask] sampleRequest (sampleId 6) 0).1.effect
        = (evaluateResource sampleEngine [sampleMask] sampleResource (sampleId 7) 0).1.effect ∧
      (evaluateResource sampleEngine [samplePolicy 8 .deny [], sampleMask] sampleResource (sampleId 7)
        0).1.effect = .deny := by
  obtain ⟨-, resources, -, agree⟩ := entry_points_safe sampleEngine (sampleId 7) 0
  refine ⟨?_, (resources sampleResource).denying _ _ List.mem_cons_self rfl rfl (by rfl) rfl⟩
  exact agree [sampleMask] sampleRequest sampleResource (sampleId 7) 0
    ⟨rfl, rfl, rfl, rfl, rfl, rfl, rfl⟩ rfl (by decide) nofun nofun

end Obsion.Security
