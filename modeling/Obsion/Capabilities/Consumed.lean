import Obsion.Capabilities.Approvals

/-! # Approvals are used once

An execution under an `ASK` decision that is committed used an approval of its own, given
for a request that agrees with it up to redaction. -/

namespace Obsion.Capabilities.Approvals

open Obsion.Lib Obsion.Security

/-- The execution used the approval, which was given for a request with its fingerprint. -/
structure Uses (world : World) (execution : Execution) (approval : Approval) : Prop where
  stored : approval ∈ world.approvals
  approvalId : execution.approvalId = some approval.id
  approved : approval.status = .approved
  used : approval.resumeTokenUsedAt.isSome = true
  fingerprint : ∃ mine ∈ world.decisions, ∃ theirs ∈ world.decisions, mine.id = execution.decisionId ∧
    theirs.id = approval.policyDecisionId ∧ theirs.inputFingerprint = mine.inputFingerprint

def Asks (world : World) (execution : Execution) : Prop :=
  ∃ decision ∈ world.decisions, decision.id = execution.decisionId ∧ decision.effect = .ask

def committedIds (executions : List Execution) : List Uuid :=
  (executions.filter Execution.committed).filterMap Execution.approvalId

structure Sound (engine : Engine) (world : World) : Prop where
  approvalIds : (world.approvals.map Approval.id).Nodup
  requestIds : (world.requests.map Prod.fst).Nodup
  written : ∀ request ∈ world.requests, Written request.2
  decisions : ∀ decision ∈ world.decisions, ∃ input effect policyIds,
    (decision.id, input) ∈ world.requests ∧
      decision.inputFingerprint = engine.sha256 (fingerprinted engine input effect policyIds)
  executed : ∀ execution ∈ world.executions, execution.decisionId ∈ world.requests.map Prod.fst
  uses : ∀ execution ∈ world.executions, execution.committed = true →
    ∀ id, execution.approvalId = some id → ∃ approval, Uses world execution approval
  asks : ∀ execution ∈ world.executions, execution.committed = true → Asks world execution →
    ∃ id, execution.approvalId = some id
  single : (committedIds world.executions).Nodup

/-! ## The rows of approvals -/

structure Retains (before after : List Approval) : Prop where
  ids : ∀ approval ∈ before, approval.status = .approved →
    ∃ other ∈ after, other.id = approval.id ∧ other.status = .approved ∧
      other.policyDecisionId = approval.policyDecisionId ∧
      (approval.resumeTokenUsedAt.isSome = true → other.resumeTokenUsedAt.isSome = true)

lemma Retains.refl (approvals : List Approval) : Retains approvals approvals :=
  ⟨fun approval mem approved => ⟨approval, mem, rfl, approved, rfl, id⟩⟩

lemma retains_append (approvals more : List Approval) : Retains approvals (approvals ++ more) :=
  ⟨fun approval mem approved =>
    ⟨approval, List.mem_append_left _ mem, rfl, approved, rfl, id⟩⟩

lemma useApproval_ids (now : Time) (id : Uuid) (approvals : List Approval) :
    (useApproval now id approvals).map Approval.id = approvals.map Approval.id := by
  rw [useApproval, List.map_map]
  refine List.map_congr_left fun approval _ => ?_
  rw [Function.comp_apply]
  split
  · rfl
  rfl

lemma retains_useApproval (now : Time) (id : Uuid) (approvals : List Approval) :
    Retains approvals (useApproval now id approvals) := by
  refine ⟨fun approval mem approved => ⟨_, List.mem_map_of_mem mem, ?_⟩⟩
  split
  · exact ⟨rfl, approved, rfl, fun _ => rfl⟩
  exact ⟨rfl, approved, rfl, fun used => used⟩

lemma eq_of_id {approvals : List Approval} (distinct : (approvals.map Approval.id).Nodup)
    {left right : Approval} (leftIn : left ∈ approvals) (rightIn : right ∈ approvals)
    (eq : left.id = right.id) : left = right :=
  List.inj_on_of_nodup_map distinct leftIn rightIn eq

section

variable {engine : Engine} {request : GatewayRequest} {around : Surroundings} {decision : Decision}
  {found : Option Approval} {approvals : List Approval}

inductive Left (request : GatewayRequest) (around : Surroundings) (decision : Decision)
    (found : Option Approval) (approvals : List Approval) (ending : Ending) : Prop
  | alone (same : ending.approvals = approvals)
      (plain : ∀ used, ending.executed = some used → used = none ∧ decision.effect ≠ .ask)
  | used (approval : Approval) (stored : found = some approval)
      (unused : approval.resumeTokenUsedAt = none)
      (same : ending.approvals = useApproval around.now approval.id approvals)
      (only : ∀ used, ending.executed = some used → used = some approval.id)
  | created (same : ending.approvals = approvals ++ [createApproval request around])
      (none_ : ending.executed = none)

lemma execute_spec (used : Option Uuid) : (execute around approvals used).approvals = approvals ∧
      ∀ other, (execute around approvals used).executed = some other → other = used := by
  unfold execute
  dsimp only
  repeat' split
  all_goals exact ⟨rfl, by rintro other ⟨⟩ <;> rfl⟩

lemma usable_some {approval : Approval} (found_ : usable found = some approval) :
    found = some approval ∧ approval.resumeTokenUsedAt = none := by
  rw [usable, Option.filter_eq_some_iff] at found_
  exact ⟨found_.1, Option.isNone_iff_eq_none.1 found_.2⟩

lemma proceed_left : Left request around decision found approvals
    (proceed request around decision found approvals) := by
  unfold proceed
  dsimp only
  split
  · exact .alone rfl nofun
  split
  · exact .alone rfl nofun
  split
  · exact .alone rfl nofun
  split
  · split
    · next approval usable_ =>
      obtain ⟨stored, unused⟩ := usable_some usable_
      obtain ⟨eq, only⟩ : _ ∧ _ := execute_spec (some approval.id)
      exact .used approval stored unused eq only
    · exact .created rfl rfl
  · next notAsk =>
    obtain ⟨eq, only⟩ : _ ∧ _ := execute_spec none
    exact .alone eq fun used executed => ⟨only used executed, notAsk⟩

end

structure Extends (engine : Engine) (before after : World) (id : Uuid) (input : PolicyInput) : Prop where
  requests : after.requests = before.requests ++ [(id, input)]
  decisions : ∃ more, after.decisions = before.decisions ++ more ∧ ∀ decision ∈ more,
    decision.id = id ∧ ∃ effect policyIds,
      decision.inputFingerprint = engine.sha256 (fingerprinted engine input effect policyIds)
  retains : Retains before.approvals after.approvals
  approvalIds : (after.approvals.map Approval.id).Nodup
  executions : after.executions = before.executions ∨
    ∃ execution, after.executions = before.executions ++ [execution] ∧ execution.decisionId = id ∧
      (execution.committed = true → (∀ used, execution.approvalId = some used →
          used ∉ committedIds before.executions ∧ ∃ approval, Uses after execution approval) ∧
        (Asks after execution → ∃ used, execution.approvalId = some used))

lemma committedIds_append (executions : List Execution) (execution : Execution) :
    committedIds (executions ++ [execution]) = committedIds executions ++
        if execution.committed then execution.approvalId.toList else [] := by
  unfold committedIds
  rw [List.filter_append, List.filterMap_append]
  cases execution with
  | mk decisionId approvalId committed =>
    cases committed with
    | true => cases approvalId <;> rfl
    | false => rfl

section

variable {engine : Engine} {before after : World} {id : Uuid} {input : PolicyInput}

lemma Uses.extend {execution : Execution} {approval : Approval} (uses : Uses before execution approval)
    (retains : Retains before.approvals after.approvals)
    (kept : ∀ decision ∈ before.decisions, decision ∈ after.decisions) :
    ∃ other, Uses after execution other := by
  obtain ⟨other, stored, eq, approved, decision, used⟩ := retains.ids approval uses.stored uses.approved
  obtain ⟨mine, mineIn, theirs, theirsIn, mineId, theirsId, equal⟩ := uses.fingerprint
  exact ⟨other, stored, by rw [eq]; exact uses.approvalId, approved, used uses.used, mine, kept mine mineIn,
    theirs, kept theirs theirsIn, mineId, theirsId.trans decision.symm, equal⟩

lemma Sound.extend (sound : Sound engine before) (fresh : id ∉ before.requests.map Prod.fst)
    (written : Written input) (extends_ : Extends engine before after id input) : Sound engine after := by
  obtain ⟨more, decisions, moreAre⟩ := extends_.decisions
  have kept : ∀ decision ∈ before.decisions, decision ∈ after.decisions := by
    intro decision mem
    rw [decisions]
    exact List.mem_append_left more mem
  have listed : ∀ request ∈ before.requests, request ∈ after.requests := by
    intro request mem
    rw [extends_.requests]
    exact List.mem_append_left _ mem
  have added : (id, input) ∈ after.requests := by
    rw [extends_.requests]
    exact List.mem_append_right _ List.mem_cons_self
  have knownIds : ∀ key ∈ before.requests.map Prod.fst, key ∈ after.requests.map Prod.fst := by
    intro key mem
    obtain ⟨request, stored, rfl⟩ := List.mem_map.1 mem
    exact List.mem_map_of_mem (listed request stored)
  have usesOld : ∀ execution ∈ before.executions, execution.committed = true →
      ∀ used, execution.approvalId = some used → ∃ approval, Uses after execution approval := by
    intro execution mem committed used eq
    obtain ⟨approval, uses⟩ := sound.uses execution mem committed used eq
    exact uses.extend extends_.retains kept
  have asksOld : ∀ execution ∈ before.executions, execution.committed = true → Asks after execution →
      ∃ used, execution.approvalId = some used := by
    rintro execution mem committed ⟨decision, stored, eq, ask⟩
    rw [decisions] at stored
    rcases List.mem_append.1 stored with old | new
    · exact sound.asks execution mem committed ⟨decision, old, eq, ask⟩
    exfalso
    apply fresh
    rw [← (moreAre decision new).1, eq]
    exact sound.executed execution mem
  refine ⟨extends_.approvalIds, ?_, ?_, ?_, ?_, ?_, ?_, ?_⟩
  · rw [extends_.requests, List.map_append]
    exact List.Nodup.append sound.requestIds (List.nodup_singleton id) (List.disjoint_singleton.2 fresh)
  · intro request mem
    rw [extends_.requests] at mem
    rcases List.mem_append.1 mem with old | new
    · exact sound.written request old
    cases List.mem_singleton.1 new
    exact written
  · intro decision mem
    rw [decisions] at mem
    rcases List.mem_append.1 mem with old | new
    · obtain ⟨asked, effect, policyIds, stored, eq⟩ := sound.decisions decision old
      exact ⟨asked, effect, policyIds, listed _ stored, eq⟩
    obtain ⟨rfl, effect, policyIds, eq⟩ := moreAre decision new
    exact ⟨input, effect, policyIds, added, eq⟩
  · intro execution mem
    rcases extends_.executions with eq | ⟨new, eq, newId, -⟩
    · rw [eq] at mem
      exact knownIds _ (sound.executed execution mem)
    rw [eq] at mem
    rcases List.mem_append.1 mem with old | last
    · exact knownIds _ (sound.executed execution old)
    cases List.mem_singleton.1 last
    rw [newId]
    exact List.mem_map_of_mem added
  · intro execution mem
    rcases extends_.executions with eq | ⟨new, eq, -, newIs⟩
    · rw [eq] at mem
      exact usesOld execution mem
    rw [eq] at mem
    rcases List.mem_append.1 mem with old | last
    · exact usesOld execution old
    cases List.mem_singleton.1 last
    exact fun committed used approval => ((newIs committed).1 used approval).2
  · intro execution mem
    rcases extends_.executions with eq | ⟨new, eq, -, newIs⟩
    · rw [eq] at mem
      exact asksOld execution mem
    rw [eq] at mem
    rcases List.mem_append.1 mem with old | last
    · exact asksOld execution old
    cases List.mem_singleton.1 last
    exact fun committed => (newIs committed).2
  · rcases extends_.executions with eq | ⟨new, eq, -, newIs⟩
    · rw [eq]
      exact sound.single
    rw [eq, committedIds_append]
    split
    · next committed =>
      cases used : new.approvalId with
      | none =>
        rw [Option.toList_none, List.append_nil]
        exact sound.single
      | some taken =>
        rw [Option.toList_some]
        exact List.Nodup.append sound.single (List.nodup_singleton taken)
          (List.disjoint_singleton.2 ((newIs committed).1 taken used).1)
    · rw [List.append_nil]
      exact sound.single

lemma Sound.setApprovals (sound : Sound engine before) {approvals : List Approval}
    (retains : Retains before.approvals approvals)
    (ids : approvals.map Approval.id = before.approvals.map Approval.id) :
    Sound engine { before with approvals } where
  approvalIds := ids ▸ sound.approvalIds
  requestIds := sound.requestIds
  written := sound.written
  decisions := sound.decisions
  executed := sound.executed
  uses execution mem committed used eq := by
    obtain ⟨approval, uses⟩ := sound.uses execution mem committed used eq
    have kept : ∀ decision ∈ before.decisions, decision ∈ ({ before with approvals } : World).decisions :=
      fun _ stored => stored
    exact uses.extend retains kept
  asks := sound.asks
  single := sound.single

end

/-! ## The steps keep the invariant -/

section

variable {engine : Engine} {world : World}

variable {verdict : Verdict} {approval : Approval}

lemma decideRow_spec {decided : Approval} (run : decideRow verdict approval = .ok decided) :
    approval.status = .pending ∧ decided.id = approval.id := by
  unfold decideRow at run
  split at run
  · cases run
  next pending =>
  refine ⟨not_not.1 pending, ?_⟩
  split at run
  · cases run
  split at run
  · cases run
    rfl
  split at run
  · cases run
  cases run
  rfl

lemma sound_decide {after : World} (sound : Sound engine world)
    (run : decide verdict world = .ok after) : Sound engine after := by
  unfold decide at run
  split at run
  · cases run
  split at run
  · cases run
  next approval found =>
  obtain ⟨decided, row, rfl⟩ := of_map_ok run
  obtain ⟨pending, eq⟩ := decideRow_spec row
  have stored := List.mem_of_find?_eq_some found
  refine sound.setApprovals ⟨fun other mem approved => ⟨other, ?_, rfl, approved, rfl, fun used => used⟩⟩ ?_
  · rw [List.mem_map]
    refine ⟨other, mem, if_neg ?_⟩
    intro sameId
    rw [eq_of_id sound.approvalIds mem stored sameId, pending] at approved
    cases approved
  · rw [List.map_map]
    refine List.map_congr_left fun other _ => ?_
    rw [Function.comp_apply]
    split
    · next sameId => rw [eq, sameId]
    rfl

lemma mem_approvalsFor {request : GatewayRequest} {mark : String}
    (mem : approval ∈ approvalsFor world request mark) :
    approval ∈ world.approvals ∧ approval.status = .approved ∧
      ∃ decision ∈ world.decisions, decision.id = approval.policyDecisionId ∧
        decision.inputFingerprint = mark := by
  obtain ⟨stored, selected⟩ := List.mem_filter.1 mem
  simp only [decide_eq_true_eq] at selected
  obtain ⟨-, -, -, approved, joined⟩ := selected
  obtain ⟨decision, decisionIn, eq⟩ := List.any_eq_true.1 joined
  exact ⟨stored, approved, decision, decisionIn, decide_eq_true_eq.mp eq⟩

lemma First.mem {rows : List Approval} (first : First rows (some approval)) :
    approval ∈ rows := by
  cases first with
  | latest _ mem _ => exact mem

section

variable {request : GatewayRequest} {around : Surroundings} {found : Option Approval}

def decisionRow (engine : Engine) (request : GatewayRequest) (around : Surroundings) : PolicyDecision :=
  (evaluate engine around.policies (policyInput request around) around.decisionId around.now).2

def selected (engine : Engine) (world : World) (request : GatewayRequest) (around : Surroundings) :
    List Approval :=
  approvalsFor world request (decisionRow engine request around).inputFingerprint

def endingOf (engine : Engine) (request : GatewayRequest) (around : Surroundings)
    (found : Option Approval) (world : World) : Ending :=
  proceed request around
    (evaluate engine around.policies (policyInput request around) around.decisionId around.now).1
    found world.approvals

section
variable (sound : Sound engine world)
include sound

lemma extends_rolledBack (rolledBack : around.commits = false) :
    Extends engine world (invoke engine request around found world).2 around.decisionId
      (policyInput request around) := by
  refine ⟨rfl, ⟨[], ?_, nofun⟩, ?_, ?_, ?_⟩
  · simp only [invoke, rolledBack, Bool.false_eq_true, if_false, List.append_nil]
  · simp only [invoke, rolledBack, Bool.false_eq_true, if_false]
    exact Retains.refl _
  · simp only [invoke, rolledBack, Bool.false_eq_true, if_false]
    exact sound.approvalIds
  · cases executed : (endingOf engine request around found world).executed with
    | none =>
      refine .inl ?_
      change world.executions ++ executionsOf around (endingOf engine request around found world) = _
      rw [executionsOf, executed, List.append_nil]
    | some used =>
      refine .inr ⟨⟨around.decisionId, used, around.commits⟩, ?_, rfl, ?_⟩
      · change world.executions ++ executionsOf around (endingOf engine request around found world) = _
        rw [executionsOf, executed]
      intro committed
      rw [rolledBack] at committed
      cases committed

lemma notMem_committedIds {approval : Approval} (stored : approval ∈ world.approvals)
    (unused : approval.resumeTokenUsedAt = none) :
    approval.id ∉ committedIds world.executions := by
  intro mem
  obtain ⟨execution, listed, eq⟩ := List.mem_filterMap.1 mem
  obtain ⟨inside, committed⟩ := List.mem_filter.1 listed
  obtain ⟨other, uses⟩ := sound.uses execution inside committed approval.id eq
  have ids : other.id = approval.id := by
    have both := uses.approvalId
    rw [eq] at both
    exact (Option.some.inj both).symm
  have one := eq_of_id sound.approvalIds uses.stored stored ids
  have used := uses.used
  rw [one, unused] at used
  cases used

lemma ask_of_asks (fresh : FreshIds world around) {after : World} {execution : Execution}
    (sameId : execution.decisionId = around.decisionId)
    (decisions : after.decisions = world.decisions ++ [decisionRow engine request around])
    (asks : Asks after execution) : (decisionRow engine request around).effect = .ask := by
  obtain ⟨decision, stored, ids, ask⟩ := asks
  rw [decisions] at stored
  rcases List.mem_append.1 stored with old | new
  · exfalso
    obtain ⟨asked, _, _, listed, -⟩ := sound.decisions decision old
    apply fresh.decision
    rw [← sameId, ← ids]
    exact List.mem_map_of_mem listed
  · cases List.mem_singleton.1 new
    exact ask

lemma extends_committed (fresh : FreshIds world around)
    (first : First (selected engine world request around) found) (commits : around.commits = true) :
    Extends engine world (invoke engine request around found world).2 around.decisionId
      (policyInput request around) := by
  have decisions : (invoke engine request around found world).2.decisions =
      world.decisions ++ [decisionRow engine request around] := by
    simp only [invoke, commits, if_true, decisionRow]
  have approvals : (invoke engine request around found world).2.approvals =
      (endingOf engine request around found world).approvals := by
    simp only [invoke, commits, if_true, endingOf]
  have executions : (invoke engine request around found world).2.executions =
      world.executions ++ executionsOf around (endingOf engine request around found world) := rfl
  have rows : ∀ decision ∈ [decisionRow engine request around], decision.id = around.decisionId ∧
      ∃ effect policyIds, decision.inputFingerprint =
        engine.sha256 (fingerprinted engine (policyInput request around) effect policyIds) := by
    intro decision mem
    cases List.mem_singleton.1 mem
    exact ⟨rfl, _, _, rfl⟩
  have ways : Left request around
      (evaluate engine around.policies (policyInput request around) around.decisionId around.now).1
      found world.approvals (endingOf engine request around found world) := proceed_left
  cases ways with
  | alone eq plain =>
    refine ⟨rfl, ⟨_, decisions, rows⟩, ?_, ?_, ?_⟩
    · rw [approvals, eq]
      exact Retains.refl _
    · rw [approvals, eq]
      exact sound.approvalIds
    · cases executed : (endingOf engine request around found world).executed with
      | none => exact .inl (by rw [executions, executionsOf, executed, List.append_nil])
      | some used =>
        obtain ⟨rfl, notAsk⟩ := plain used executed
        refine .inr ⟨⟨around.decisionId, none, around.commits⟩, ?_, rfl, fun _ => ⟨nofun, fun asks => ?_⟩⟩
        · rw [executions, executionsOf, executed]
        exact absurd (ask_of_asks sound fresh rfl decisions asks) notAsk
  | used approval stored unused eq only =>
    rw [stored] at first
    obtain ⟨listed, approved, theirs, theirsIn, theirsId, equal⟩ := mem_approvalsFor first.mem
    refine ⟨rfl, ⟨_, decisions, rows⟩, ?_, ?_, ?_⟩
    · rw [approvals, eq]
      exact retains_useApproval _ _ _
    · rw [approvals, eq, useApproval_ids]
      exact sound.approvalIds
    · cases executed : (endingOf engine request around found world).executed with
      | none => exact .inl (by rw [executions, executionsOf, executed, List.append_nil])
      | some used =>
        obtain rfl := only used executed
        refine .inr ⟨⟨around.decisionId, some approval.id, around.commits⟩, ?_, rfl,
          fun _ => ⟨?_, fun _ => ⟨_, rfl⟩⟩⟩
        · rw [executions, executionsOf, executed]
        rintro used ⟨⟩
        refine ⟨notMem_committedIds sound listed unused,
          { approval with resumeTokenUsedAt := some around.now }, ?_, rfl, approved, rfl,
          decisionRow engine request around, ?_, theirs, ?_, rfl, theirsId, equal⟩
        · rw [approvals, eq, useApproval, List.mem_map]
          exact ⟨approval, listed, if_pos rfl⟩
        · rw [decisions]
          exact List.mem_append_right _ List.mem_cons_self
        · rw [decisions]
          exact List.mem_append_left _ theirsIn
  | created eq none_ =>
    refine ⟨rfl, ⟨_, decisions, rows⟩, ?_, ?_, Or.inl ?_⟩
    · rw [approvals, eq]
      exact retains_append _ _
    · rw [approvals, eq, List.map_append]
      exact List.Nodup.append sound.approvalIds (List.nodup_singleton _)
        (List.disjoint_singleton.2 fresh.approval)
    · rw [executions, executionsOf, none_, List.append_nil]

lemma sound_invoke (fresh : FreshIds world around) (written : Written (policyInput request around))
    (first : First (selected engine world request around) found) :
    Sound engine (invoke engine request around found world).2 := by
  refine sound.extend fresh.decision written ?_
  cases commits : around.commits with
  | true => exact extends_committed sound fresh first commits
  | false => exact extends_rolledBack sound commits

end

end

end

lemma sound_step {engine : Engine} {before after : World} {action : Action}
    (sound : Sound engine before) (step : Step engine before action after) : Sound engine after := by
  cases step with
  | invoke fresh written first => exact sound_invoke sound fresh written first
  | decide decided => exact sound_decide sound decided

lemma sound_empty {engine : Engine} {world : World} (empty : Empty world) : Sound engine world := by
  obtain ⟨decisions, approvals, requests, executions⟩ := empty
  refine ⟨?_, ?_, ?_, ?_, ?_, ?_, ?_, ?_⟩
  · rw [approvals]
    exact List.nodup_nil
  · rw [requests]
    exact List.nodup_nil
  · rw [requests]
    exact nofun
  · rw [decisions]
    exact nofun
  · rw [executions]
    exact nofun
  · rw [executions]
    exact nofun
  · rw [executions]
    exact nofun
  · rw [executions]
    exact List.nodup_nil

/-- The texts of the requests that were decided have fingerprints of their own. -/
def CollisionFree (engine : Engine) (world : World) : Prop :=
  ∀ left ∈ world.requests, ∀ right ∈ world.requests, ∀ effect other policyIds otherIds,
    engine.sha256 (fingerprinted engine left.2 effect policyIds) =
      engine.sha256 (fingerprinted engine right.2 other otherIds) →
    fingerprinted engine left.2 effect policyIds = fingerprinted engine right.2 other otherIds

/-- The execution used an approval that no other committed execution used, and that was given for
a request which agrees with the executed one up to redaction. -/
structure BoundTo (engine : Engine) (world : World) (execution : Execution) (approval : Approval) : Prop where
  uses : Uses world execution approval
  alone : ∀ other ∈ world.executions, other.committed = true → other.approvalId = some approval.id →
    other = execution
  same : ∃ asked executed, (approval.policyDecisionId, asked) ∈ world.requests ∧
    (execution.decisionId, executed) ∈ world.requests ∧ SameRequest engine executed asked

lemma eq_of_committedIds {executions : List Execution} (single : (committedIds executions).Nodup)
    {left right : Execution} (leftIn : left ∈ executions) (rightIn : right ∈ executions)
    (leftDone : left.committed = true) (rightDone : right.committed = true) {id : Uuid}
    (leftId : left.approvalId = some id) (rightId : right.approvalId = some id) : left = right := by
  induction executions with
  | nil => cases leftIn
  | cons first rest ih =>
    have ids (execution : Execution) (mem : execution ∈ rest) (done : execution.committed = true)
        (eq : execution.approvalId = some id) : id ∈ committedIds rest :=
      List.mem_filterMap.2 ⟨execution, List.mem_filter.2 ⟨mem, done⟩, eq⟩
    have head (execution : Execution) (done : execution.committed = true)
        (eq : execution.approvalId = some id) (is : execution = first) : id ∉ committedIds rest := by
      subst is
      rw [committedIds, List.filter_cons, if_pos done, List.filterMap_cons, eq] at single
      exact (List.nodup_cons.1 single).1
    have tail : (committedIds rest).Nodup := by
      refine single.sublist ?_
      exact ((List.sublist_cons_self first rest).filter _).filterMap _
    rcases List.mem_cons.1 leftIn with leftFirst | leftRest
    · rcases List.mem_cons.1 rightIn with rightFirst | rightRest
      · rw [leftFirst, rightFirst]
      exact absurd (ids right rightRest rightDone rightId) (head left leftDone leftId leftFirst)
    · rcases List.mem_cons.1 rightIn with rightFirst | rightRest
      · exact absurd (ids left leftRest leftDone leftId) (head right rightDone rightId rightFirst)
      exact ih tail leftRest rightRest

theorem approvals_bound (engine : Engine) {start world : World} {moves : List (Move World Action)}
    (empty : Empty start) (path : Path (approvalSystem engine) start moves world)
    (collisionFree : CollisionFree engine world) :
    ∀ execution ∈ world.executions, execution.committed = true → Asks world execution →
      ∃ approval, BoundTo engine world execution approval := by
  have step : ∀ before action after, Sound engine before →
      (approvalSystem engine).step before action after → Sound engine after :=
    fun _ _ _ sound performed => sound_step sound performed
  have sound := path.preserved step (sound_empty empty)
  intro execution member committed asks
  obtain ⟨used, same⟩ := sound.asks execution member committed asks
  obtain ⟨approval, uses⟩ := sound.uses execution member committed used same
  refine ⟨approval, uses, fun other inside done otherId =>
    eq_of_committedIds sound.single inside member done committed otherId uses.approvalId, ?_⟩
  obtain ⟨mine, mineIn, theirs, theirsIn, mineId, theirsId, equal⟩ := uses.fingerprint
  obtain ⟨executed, effect, policyIds, executedIn, mineMark⟩ := sound.decisions mine mineIn
  obtain ⟨asked, other, otherIds, askedIn, theirsMark⟩ := sound.decisions theirs theirsIn
  refine ⟨asked, executed, theirsId ▸ askedIn, mineId ▸ executedIn, ?_⟩
  have marks := equal.symm
  rw [mineMark, theirsMark] at marks
  exact sameRequest_of_fingerprinted (sound.written _ executedIn) (sound.written _ askedIn)
    (collisionFree _ executedIn _ askedIn _ _ _ _ marks)

/-! ## One approval for two secrets -/

lemma First.head {rows : List Approval} (few : rows.length ≤ 1) : First rows rows.head? := by
  cases rows with
  | nil => exact .empty rfl
  | cons approval rest =>
    have none_ : rest = [] := List.length_eq_zero_iff.1 (Nat.le_zero.1 (Nat.le_of_succ_le_succ few))
    subst none_
    refine .latest approval List.mem_cons_self fun other mem => ?_
    rw [List.mem_singleton.1 mem]

def bytesText (bytes : Bytes) : String := String.ofList (bytes.map fun byte => Char.ofNat byte.toNat)

def sampleEngine : Engine := ⟨fun _ => "", redactText Char.isAlphanum, bytesText⟩

def sampleRequester : Security.Principal := samplePrincipal

def sampleApprover : Security.Principal :=
  { samplePrincipal with id := sampleId 9, permissions := ["approval.decide"] }

def sampleAsked (name : String) : GatewayRequest :=
  ⟨samplePrincipal, [("secret_name", .str name)], "production", "agent", sampleId 7, none, none, []⟩

def sampleAround (digit : Fin 16) (commits : Bool) : Surroundings where
  version := ⟨sampleId 3, .l1, .none⟩
  permissionAction := "metrics.read"
  agentCapabilityAllowed := none
  policies := [samplePolicy 5 .ask []]
  decisionId := sampleId digit
  approvalId := sampleId digit
  now := digit.val
  granted := true
  valid := true
  rate := .allowed
  installed := true
  resolved := true
  failure := none
  commits := commits

/-- The row of a request, which is the same but for its identifier and time. -/
def sampleDecision (name : String) (digit : Fin 16) (commits : Bool) : PolicyDecision :=
  decisionRow sampleEngine (sampleAsked name) (sampleAround digit commits)

def sampleInvoked (name : String) (digit : Fin 16) (commits : Bool) (world : World) : World :=
  (invoke sampleEngine (sampleAsked name) (sampleAround digit commits)
    (selected sampleEngine world (sampleAsked name) (sampleAround digit commits)).head? world).2

def sampleVerdict : Verdict := ⟨sampleApprover, sampleId 1, true, "granted", 2, true⟩

def sampleApproval : Approval :=
  { createApproval (sampleAsked "reporting") (sampleAround 1 true) with
    status := .approved, decidedBy := some (sampleId 9), decisionReason := some "granted"
    decidedAt := some 2 }

def sampleGranted : World where
  decisions := [sampleDecision "reporting" 1 true]
  approvals := [sampleApproval]
  requests := [(sampleId 1, policyInput (sampleAsked "reporting") (sampleAround 1 true))]
  executions := []

def sampleExecuted (name : String) : World where
  decisions := [sampleDecision "reporting" 1 true, sampleDecision name 4 true]
  approvals := [{ sampleApproval with resumeTokenUsedAt := some 4 }]
  requests := [(sampleId 1, policyInput (sampleAsked "reporting") (sampleAround 1 true)),
    (sampleId 3, policyInput (sampleAsked name) (sampleAround 3 false)),
    (sampleId 4, policyInput (sampleAsked name) (sampleAround 4 true))]
  executions := [⟨sampleId 3, some (sampleId 1), false⟩, ⟨sampleId 4, some (sampleId 1), true⟩]

section
variable (name : String)
include name

lemma sampleAsked_erased :
    redactFields sampleEngine.redactText [("secret_name", .str name)] = [("secret_name", .str "[REDACTED]")] := by
  have sensitive : sensitiveKey "secret_name" = true := by decide +kernel
  rw [redactFields, if_pos sensitive, redactFields]

lemma sampleAsked_matching (digit : Fin 16) (commits : Bool) :
    matching sampleEngine.repr (sampleAround digit commits).policies
      (policyInput (sampleAsked name) (sampleAround digit commits)) = [samplePolicy 5 .ask []] := by
  have unconditional (resource : Fields) :
      policyMatches sampleEngine.repr (samplePolicy 5 .ask []) samplePrincipal "metrics.read" resource
        [("environment", .str "production")] "agent" none .l1 =
      policyMatches sampleEngine.repr (samplePolicy 5 .ask []) samplePrincipal "metrics.read" []
        [("environment", .str "production")] "agent" none .l1 := rfl
  have matched : policyMatches sampleEngine.repr (samplePolicy 5 .ask []) samplePrincipal
      "metrics.read" [] [("environment", .str "production")] "agent" none .l1 = true := by decide +kernel
  have enabled : enabledPolicies (sampleAround digit commits).policies (sampleId 2) = [samplePolicy 5 .ask []] := by
    change enabledPolicies [samplePolicy 5 .ask []] (sampleId 2) = _
    rfl
  change (enabledPolicies (sampleAround digit commits).policies (sampleId 2)).filter (fun policy =>
    policyMatches sampleEngine.repr policy samplePrincipal "metrics.read" [("secret_name", .str name)]
      [("environment", .str "production")] "agent" none .l1) = _
  rw [enabled]
  refine List.filter_eq_self.2 fun policy mem => ?_
  rw [List.mem_singleton.1 mem]
  exact (unconditional _).trans matched

lemma sampleAsked_resolved (digit : Fin 16) (commits : Bool) :
    (resolve sampleEngine.repr (sampleAround digit commits).policies
        (policyInput (sampleAsked name) (sampleAround digit commits))).effect = .ask ∧
      (resolve sampleEngine.repr (sampleAround digit commits).policies
        (policyInput (sampleAsked name) (sampleAround digit commits))).policyIds = [sampleId 5] := by
  rw [resolve]
  dsimp only
  rw [sampleAsked_matching]
  constructor
  · rfl
  rfl

lemma sampleAsked_fingerprint (digit : Fin 16) (commits : Bool) (effect : DecisionEffect)
    (policyIds : List Uuid) :
    fingerprint sampleEngine (policyInput (sampleAsked name) (sampleAround digit commits)) effect policyIds =
      fingerprint sampleEngine (policyInput (sampleAsked "reporting") (sampleAround 1 true)) effect policyIds := by
  have resource (name : String) (digit : Fin 16) (commits : Bool) :
      redactFields sampleEngine.redactText
        (policyInput (sampleAsked name) (sampleAround digit commits)).resource =
          [("secret_name", .str "[REDACTED]")] := sampleAsked_erased name
  simp only [fingerprint, safeInput, resource]
  rfl

lemma sampleDecision_asks (digit : Fin 16) (commits : Bool) :
    (sampleDecision name digit commits).effect = .ask :=
  (sampleAsked_resolved name digit commits).1

lemma sampleDecision_fingerprint (digit : Fin 16) (commits : Bool) :
    (sampleDecision name digit commits).inputFingerprint =
      fingerprint sampleEngine (policyInput (sampleAsked name) (sampleAround digit commits))
        (resolve sampleEngine.repr (sampleAround digit commits).policies
          (policyInput (sampleAsked name) (sampleAround digit commits))).effect
        (resolve sampleEngine.repr (sampleAround digit commits).policies
          (policyInput (sampleAsked name) (sampleAround digit commits))).policyIds := rfl

lemma sampleDecision_fingerprint_eq (digit : Fin 16) (commits : Bool) :
    (sampleDecision name digit commits).inputFingerprint =
      (sampleDecision "reporting" 1 true).inputFingerprint := by
  rw [sampleDecision_fingerprint, sampleDecision_fingerprint, (sampleAsked_resolved name digit commits).1,
    (sampleAsked_resolved name digit commits).2, (sampleAsked_resolved "reporting" 1 true).1,
    (sampleAsked_resolved "reporting" 1 true).2]
  exact sampleAsked_fingerprint name digit commits _ _

lemma sampleApproval_selected (digit : Fin 16) (commits : Bool) (world : World)
    (row : world.approvals = [sampleApproval])
    (decisions : world.decisions = [sampleDecision "reporting" 1 true]) :
    selected sampleEngine world (sampleAsked name) (sampleAround digit commits) = [sampleApproval] := by
  rw [selected, approvalsFor, row]
  refine List.filter_eq_self.2 fun approval mem => ?_
  rw [List.mem_singleton.1 mem, decisions]
  refine decide_eq_true ⟨rfl, rfl, rfl, rfl, List.any_eq_true.2 ⟨_, List.mem_cons_self, ?_⟩⟩
  exact decide_eq_true ⟨rfl, (sampleDecision_fingerprint_eq name digit commits).symm⟩

lemma sampleInvoked_eq (digit : Fin 16) (commits : Bool) (world : World) (found : Option Approval)
    {ending : Ending}
    (selected_ : selected sampleEngine world (sampleAsked name) (sampleAround digit commits) = found.toList)
    (proceeds : ∀ decision : Decision, decision.effect = .ask →
      proceed (sampleAsked name) (sampleAround digit commits) decision found world.approvals = ending) :
    sampleInvoked name digit commits world =
      { decisions := if commits then world.decisions ++ [sampleDecision name digit commits] else world.decisions
        approvals := if commits then ending.approvals else world.approvals
        requests := world.requests ++
          [(sampleId digit, policyInput (sampleAsked name) (sampleAround digit commits))]
        executions := world.executions ++ executionsOf (sampleAround digit commits) ending } := by
  have head : found.toList.head? = found := by
    cases found with
    | none | some => rfl
  have asks := sampleAsked_resolved name digit commits
  rw [← proceeds (evaluate sampleEngine (sampleAround digit commits).policies
      (policyInput (sampleAsked name) (sampleAround digit commits)) (sampleId digit) digit.val).1 asks.1,
    sampleInvoked, selected_, head]
  rfl

lemma sampleApproval_used (digit : Fin 16) (commits : Bool) (decision : Decision)
    (asks : decision.effect = .ask) :
    proceed (sampleAsked name) (sampleAround digit commits) decision (some sampleApproval) [sampleApproval] =
      ⟨⟨.completed, sampleId digit, none, none⟩, useApproval digit.val (sampleId 1) [sampleApproval],
        some (some (sampleId 1))⟩ := by
  rw [proceed, asks]
  rfl

end

lemma sampleAsked_waits (decision : Decision) (asks : decision.effect = .ask) :
    proceed (sampleAsked "reporting") (sampleAround 1 true) decision none [] =
      ⟨⟨.waitingApproval, sampleId 1, some (sampleId 1), none⟩,
        [createApproval (sampleAsked "reporting") (sampleAround 1 true)], none⟩ := by
  rw [proceed, asks]
  rfl

def sampleRolledBack (name : String) : World :=
  { sampleGranted with
    requests := sampleGranted.requests ++
      [(sampleId 3, policyInput (sampleAsked name) (sampleAround 3 false))]
    executions := [⟨sampleId 3, some (sampleId 1), false⟩] }

lemma sampleAsked_written (name : String) (digit : Fin 16) (commits : Bool) :
    Written (policyInput (sampleAsked name) (sampleAround digit commits)) := by
  refine ⟨⟨List.nodup_nil, trivial⟩, ⟨List.nodup_singleton _, trivial, trivial⟩, ?_, trivial, trivial⟩
  exact List.nodup_singleton _

lemma sampleInvoked_step {name : String} {digit : Fin 16} {commits : Bool} {world : World}
    (fresh : FreshIds world (sampleAround digit commits))
    (few : (selected sampleEngine world (sampleAsked name) (sampleAround digit commits)).length ≤ 1) :
    Step sampleEngine world (.invoke (sampleAsked name) (sampleAround digit commits))
      (sampleInvoked name digit commits world) :=
  .invoke fresh (sampleAsked_written name digit commits) (First.head few)

lemma sampleExecuted_reachable (name : String) :
    ∃ moves, Path (approvalSystem sampleEngine) ⟨[], [], [], []⟩ moves (sampleExecuted name) := by
  have asked : sampleInvoked "reporting" 1 true ⟨[], [], [], []⟩ =
      ⟨[sampleDecision "reporting" 1 true], [createApproval (sampleAsked "reporting") (sampleAround 1 true)],
        sampleGranted.requests, []⟩ :=
    sampleInvoked_eq "reporting" 1 true ⟨[], [], [], []⟩ none rfl sampleAsked_waits
  have granted : decide sampleVerdict ⟨[sampleDecision "reporting" 1 true],
      [createApproval (sampleAsked "reporting") (sampleAround 1 true)], sampleGranted.requests, []⟩ =
        .ok sampleGranted := by
    rfl
  have rolledBack : sampleInvoked name 3 false sampleGranted = sampleRolledBack name :=
    sampleInvoked_eq name 3 false sampleGranted sampleApproval (sampleApproval_selected name 3 false _ rfl rfl)
      (sampleApproval_used name 3 false)
  have executed : sampleInvoked name 4 true (sampleRolledBack name) = sampleExecuted name :=
    sampleInvoked_eq name 4 true (sampleRolledBack name) sampleApproval (sampleApproval_selected name 4 true _ rfl rfl)
      (sampleApproval_used name 4 true)
  have first : Step sampleEngine ⟨[], [], [], []⟩ (.invoke (sampleAsked "reporting") (sampleAround 1 true)) _ :=
    sampleInvoked_step ⟨List.not_mem_nil, List.not_mem_nil⟩ (Nat.zero_le 1)
  rw [asked] at first
  have third : Step sampleEngine sampleGranted (.invoke (sampleAsked name) (sampleAround 3 false))
      (sampleRolledBack name) := by
    rw [← rolledBack]
    refine sampleInvoked_step ⟨?_, ?_⟩ (congrArg List.length
      (sampleApproval_selected name 3 false sampleGranted rfl rfl)).le
    · change sampleId 3 ∉ [sampleId 1]
      decide
    change sampleId 3 ∉ [sampleId 1]
    decide
  have fourth : Step sampleEngine (sampleRolledBack name) (.invoke (sampleAsked name) (sampleAround 4 true))
      (sampleExecuted name) := by
    rw [← executed]
    refine sampleInvoked_step ⟨?_, ?_⟩ (congrArg List.length
      (sampleApproval_selected name 4 true (sampleRolledBack name) rfl rfl)).le
    · change sampleId 4 ∉ [sampleId 1, sampleId 3]
      decide
    change sampleId 4 ∉ [sampleId 1]
    decide
  exact ⟨_, Path.cons _ first (Path.cons _ (.decide granted) (Path.cons _ third (Path.cons _ fourth (Path.nil _))))⟩

lemma bytesText_injective : Function.Injective bytesText := by
  intro left right eq
  have chars := String.ofList_injective eq
  refine List.map_injective_iff.2 (fun first second equal => ?_) chars
  have numbers : first.toNat = second.toNat := by
    rw [← toNat_ofNat_toNat first, ← toNat_ofNat_toNat second, equal]
  exact UInt8.toNat_inj.1 numbers

lemma sampleExecuted_asks (name : String) :
    Asks (sampleExecuted name) ⟨sampleId 4, some (sampleId 1), true⟩ :=
  ⟨sampleDecision name 4 true, List.mem_cons_of_mem _ List.mem_cons_self, rfl, sampleDecision_asks name 4 true⟩

theorem approvals_bound_sample : ∃ execution ∈ (sampleExecuted "reporting").executions,
    execution.committed = true ∧ ∃ approval, BoundTo sampleEngine (sampleExecuted "reporting") execution approval := by
  obtain ⟨moves, path⟩ := sampleExecuted_reachable "reporting"
  have member : (⟨sampleId 4, some (sampleId 1), true⟩ : Execution) ∈ (sampleExecuted "reporting").executions :=
    List.mem_cons_of_mem _ List.mem_cons_self
  have collisionFree : CollisionFree sampleEngine (sampleExecuted "reporting") :=
    fun _ _ _ _ _ _ _ _ same => bytesText_injective same
  exact ⟨_, member, rfl, approvals_bound sampleEngine ⟨rfl, rfl, rfl, rfl⟩ path collisionFree _ member rfl
    (sampleExecuted_asks "reporting")⟩

/-- The approval that was given to read one secret lets another one be read, twice. -/
theorem redacted_secret_shares_approval :
    Reachable (approvalSystem sampleEngine) (sampleExecuted "billing") ∧
      ∃ approval ∈ (sampleExecuted "billing").approvals,
        ∃ execution ∈ (sampleExecuted "billing").executions,
          execution.committed = true ∧ Asks (sampleExecuted "billing") execution ∧
          execution.approvalId = some approval.id ∧
          (∃ asked executed, (approval.policyDecisionId, asked) ∈ (sampleExecuted "billing").requests ∧
            (execution.decisionId, executed) ∈ (sampleExecuted "billing").requests ∧
            asked.resource = [("secret_name", .str "reporting")] ∧
            executed.resource = [("secret_name", .str "billing")]) ∧
          ∃ other ∈ (sampleExecuted "billing").executions, other ≠ execution ∧
            other.approvalId = some approval.id := by
  obtain ⟨moves, path⟩ := sampleExecuted_reachable "billing"
  refine ⟨⟨_, moves, ⟨rfl, rfl, rfl, rfl⟩, path⟩, _, List.mem_cons_self,
    ⟨sampleId 4, some (sampleId 1), true⟩, List.mem_cons_of_mem _ List.mem_cons_self, rfl,
    sampleExecuted_asks "billing", rfl, ⟨policyInput (sampleAsked "reporting") (sampleAround 1 true),
      policyInput (sampleAsked "billing") (sampleAround 4 true), List.mem_cons_self, ?_, rfl, rfl⟩,
    ⟨sampleId 3, some (sampleId 1), false⟩, List.mem_cons_self, by decide, rfl⟩
  exact List.mem_cons_of_mem _ (List.mem_cons_of_mem _ List.mem_cons_self)

end Obsion.Capabilities.Approvals
