import Obsion.Harness.Graph

/-! # How one transaction moves the steps

`StepMove` lists what a transaction may do to one row of a step, and `Moved` says
that it does one of these to every row, and adds fresh rows.  What a claim needs
of the history of a step follows from it by cases. -/

namespace Obsion.Harness

open Obsion.Lib

def coreKinds : List StepKind := [.verify, .reflect, .respond]

def preludeKinds : List StepKind := [.observe, .understand, .plan]

/-- At most a core step differs, and not in what makes it that step. -/
structure CoreOnly (before after : RunStep) : Prop where
  id : after.id = before.id
  kind : after.kind = before.kind
  retryCount : after.retryCount = before.retryCount
  maxRetries : after.maxRetries = before.maxRetries
  others : before.kind ∉ coreKinds → after = before

lemma CoreOnly.refl (step : RunStep) : CoreOnly step step :=
  ⟨rfl, rfl, rfl, rfl, fun _ => rfl⟩

lemma CoreOnly.trans {first second third : RunStep} (left : CoreOnly first second)
    (right : CoreOnly second third) : CoreOnly first third where
  id := right.id.trans left.id
  kind := right.kind.trans left.kind
  retryCount := right.retryCount.trans left.retryCount
  maxRetries := right.maxRetries.trans left.maxRetries
  others := by
    intro other
    rw [right.others (by rwa [left.kind]), left.others other]

/-- The retry of a failed step, and the restoring of a skipped one. -/
def RunStep.again (step : RunStep) : RunStep :=
  { step with
    retryCount := if step.status = .failed then step.retryCount + 1 else step.retryCount
    status := .pending, errorCode := none, outputRef := none }

inductive StepMove (settles : Option Nat) (step : RunStep) : RunStep → Prop
  | core (after : RunStep) (only : CoreOnly step after) : StepMove settles step after
  | cancelled (active : step.status ∈ activeStepStatuses) :
      StepMove settles step { step with status := .cancelled }
  | skipped (active : step.status ∈ activeStepStatuses) : StepMove settles step
        { step with status := .skipped, errorCode := some "dependency_failed" }
  | started (active : step.status ∈ activeStepStatuses) (kind : step.kind = .capability) :
      StepMove settles step { step with status := .running }
  | recorded (same : settles = some step.id) (outcome : StepOutcome)
      (ended : outcome.status = .completed ∨ outcome.status = .failed) :
      StepMove settles step (outcome.record step)
  | waits (same : settles = some step.id) (capabilityVersionId : Option Nat) :
      StepMove settles step { step with status := .waitingApproval, capabilityVersionId }
  | retried (again : retryable step = true ∨ step.status = .skipped) :
      StepMove settles step step.again

lemma StepMove.kept (settles : Option Nat) (step : RunStep) : StepMove settles step step :=
  StepMove.core step (CoreOnly.refl step)

variable {settles : Option Nat} {retry : List Nat}

lemma StepMove.identity {step after : RunStep} (move : StepMove settles step after) :
    after.id = step.id ∧ after.kind = step.kind := by
  cases move with
  | core after only => exact ⟨only.id, only.kind⟩
  | _ => exact ⟨rfl, rfl⟩

lemma StepMove.completed {step after : RunStep} (move : StepMove settles step after)
    (completed : step.status = .completed) (other : step.kind ∉ coreKinds)
    (unsettled : settles ≠ some step.id) : after = step := by
  cases move with
  | core after only => exact only.others other
  | cancelled active | skipped active | started active =>
    simp [completed, activeStepStatuses] at active
  | recorded eq | waits eq => exact absurd eq unsettled
  | retried again => simp [retryable, completed] at again

structure Fresh (step : RunStep) : Prop where
  retryCount : step.retryCount = 0
  status : step.kind ∉ coreKinds → step.kind = .capability ∧ step.status = .pending ∨
    step.kind ∈ preludeKinds ∧ step.status = .completed

lemma Fresh.core {step after : RunStep} (fresh : Fresh step) (only : CoreOnly step after) :
    Fresh after where
  retryCount := only.retryCount.trans fresh.retryCount
  status := by
    intro other
    rw [only.kind] at other
    rw [only.others other]
    exact fresh.status other

def Moved (Move : RunStep → RunStep → Prop) (before after : List RunStep) : Prop :=
  ∃ (change : RunStep → RunStep) (added : List RunStep),
    after.Perm (before.map change ++ added) ∧ (∀ step ∈ before, Move step (change step)) ∧
      ∀ step ∈ added, Fresh step

section
variable {Move : RunStep → RunStep → Prop} {before after : List RunStep}

lemma Moved.step (moved : Moved Move before after) {step : RunStep} (mem : step ∈ before) :
    ∃ next ∈ after, Move step next := by
  obtain ⟨change, added, perm, moves, _⟩ := moved
  have changed : change step ∈ before.map change := List.mem_map_of_mem mem
  exact ⟨change step, perm.symm.subset (List.mem_append_left added changed), moves step mem⟩

lemma Moved.origin (moved : Moved Move before after) {next : RunStep} (mem : next ∈ after) :
    (∃ step ∈ before, Move step next) ∨ Fresh next := by
  obtain ⟨change, added, perm, moves, fresh⟩ := moved
  rcases List.mem_append.1 (perm.subset mem) with old | new
  · obtain ⟨step, stepMember, rfl⟩ := List.mem_map.1 old
    exact .inl ⟨step, stepMember, moves step stepMember⟩
  exact .inr (fresh next new)

lemma Moved.of_map {change : RunStep → RunStep} (eq : after = before.map change)
    (moves : ∀ step ∈ before, Move step (change step)) : Moved Move before after := by
  refine ⟨change, [], ?_, moves, ?_⟩
  · rw [eq, List.append_nil]
  intro step mem
  cases mem

lemma Moved.refl (kept : ∀ step ∈ before, Move step step) : Moved Move before before :=
  Moved.of_map (List.map_id before).symm kept

lemma Moved.imp {Weaker : RunStep → RunStep → Prop} (moved : Moved Move before after)
    (weaker : ∀ step ∈ before, ∀ next, Move step next → Weaker step next) :
    Moved Weaker before after := by
  obtain ⟨change, added, perm, moves, fresh⟩ := moved
  exact ⟨change, added, perm, fun step mem => weaker step mem _ (moves step mem), fresh⟩

end

lemma Moved.trans {first second third : List RunStep} (left : Moved CoreOnly first second)
    (right : Moved CoreOnly second third) : Moved CoreOnly first third := by
  obtain ⟨earlier, added, perm, moves, fresh⟩ := left
  obtain ⟨later, addedLater, permLater, movesLater, freshLater⟩ := right
  have inSecond : ∀ step ∈ first, earlier step ∈ second := by
    intro step mem
    exact perm.symm.subset (List.mem_append_left added (List.mem_map_of_mem mem))
  refine ⟨later ∘ earlier, added.map later ++ addedLater, ?_, ?_, ?_⟩
  · have mapped := (perm.map later).append_right addedLater
    rw [List.map_append, List.map_map, List.append_assoc] at mapped
    exact permLater.trans mapped
  · intro step mem
    exact (moves step mem).trans (movesLater _ (inSecond step mem))
  · intro step mem
    rcases List.mem_append.1 mem with old | new
    · obtain ⟨origin, originMember, rfl⟩ := List.mem_map.1 old
      have inSecond := perm.symm.subset (List.mem_append_right (first.map earlier) originMember)
      exact (fresh origin originMember).core (movesLater origin inSecond)
    · exact freshLater step new

lemma Moved.of_core {before after : List RunStep} (moved : Moved CoreOnly before after) :
    Moved (StepMove settles) before after :=
  moved.imp fun _ _ next only => StepMove.core next only

/-! ## Core steps -/

lemma Charted.nodup {rows : RunRows} (charted : Charted rows) :
    (rows.steps.map (·.ordinal)).Nodup ∧ (rows.steps.map (·.id)).Nodup := by
  cases charted with
  | planned plan capabilities verify reflect respond outlined =>
    obtain ⟨ordinals, ids⟩ := outlined.shapes_nodup
    exact ⟨nodup_ordinals_of_shapes ordinals, nodup_ids_of_shapes ids⟩
  | unplanned plan steps =>
    have ordinals : ((shapes rows.steps).map (·.ordinal)).Nodup := by
      rcases steps with eq | eq
      all_goals
        rw [eq]
        decide
    have ids : ((shapes rows.steps).map (·.id)).Nodup := by
      rcases steps with eq | eq
      all_goals
        rw [eq]
        decide
    exact ⟨nodup_ordinals_of_shapes ordinals, nodup_ids_of_shapes ids⟩

/-- The step object that a helper was given is the row of a core step. -/
def CoreObject (found : Option RunStep) (steps : List RunStep) : Prop :=
  ∀ object, found = some object → ∃ step ∈ steps, step.id = object.id ∧ step.kind ∈ coreKinds

lemma coreObject_last {kind : StepKind} (core : kind ∈ coreKinds) (steps : List RunStep) :
    CoreObject (lastOfKind kind steps) steps := by
  intro object found
  obtain ⟨mem, eq⟩ := lastOfKind_some found
  exact ⟨object, mem, rfl, eq ▸ core⟩

variable {found : Option RunStep} {change : RunStep → RunStep} {ordinal : Nat} {world : World}

lemma CoreObject.moved {before after : List RunStep} (object : CoreObject found before)
    (moved : Moved CoreOnly before after) :
    CoreObject found after := by
  intro step eq
  obtain ⟨origin, mem, id, kind⟩ := object step eq
  obtain ⟨next, nextMember, only⟩ := moved.step mem
  exact ⟨next, nextMember, only.id.trans id, only.kind ▸ kind⟩

variable {steps : List RunStep} {rows' : RunRows} {stepId : Nat} {settings : Settings}

lemma updateStep_nodup {id : Nat} (keeps : ∀ step, (change step).id = step.id)
    (nodup : (steps.map (·.id)).Nodup) :
    ((updateStep id change steps).map (·.id)).Nodup := by
  have eq : (updateStep id change steps).map (·.id) = steps.map (·.id) := by
    simp only [updateStep, List.map_map]
    apply List.map_congr_left
    intro step _
    simp only [Function.comp_apply]
    split
    · exact keeps step
    rfl
  rw [eq]
  exact nodup

lemma updateStep_moved {object : RunStep} (nodup : (steps.map (·.id)).Nodup)
    (isCore : CoreObject (some object) steps)
    (only : ∀ step, step.kind ∈ coreKinds → CoreOnly step (change step)) :
    Moved CoreOnly steps (updateStep object.id change steps) := by
  obtain ⟨row, rowMember, id, kind⟩ := isCore object rfl
  refine Moved.of_map rfl ?_
  intro step mem
  split
  · next eq =>
    have isRow : step = row := eq_of_id nodup mem rowMember (eq.trans id.symm)
    exact only step (isRow ▸ kind)
  · exact CoreOnly.refl step

lemma CoreChange.moved {change : Run → RunStep → Run × RunStep} (core : CoreChange change)
    {rows : RunRows} (charted : Charted rows) (isCore : CoreObject found rows.steps) :
    Moved CoreOnly rows.steps (onCoreStep found change rows).steps := by
  cases found with
  | none => exact Moved.refl fun step _ => CoreOnly.refl step
  | some object =>
    apply updateStep_moved charted.nodup.2 isCore
    intro step kind
    have shape := core.shape rows.run step
    exact ⟨congrArg StepShape.id shape, congrArg StepShape.kind shape,
      core.retryCount rows.run step, congrArg StepShape.maxRetries shape,
      fun other => absurd kind other⟩

lemma Moved.insert {added : List RunStep} (fresh : ∀ step ∈ added, Fresh step) :
    Moved CoreOnly steps (orderByOrdinal (steps ++ added)) := by
  refine ⟨id, added, ?_, fun step _ => CoreOnly.refl step, fresh⟩
  rw [List.map_id]
  exact orderByOrdinal_perm _

lemma shiftCoreSteps_moved {verifyStep respondStep : RunStep} {reflectStep : Option RunStep}
    (added : Nat) (newOrdinals : List Nat) (nodup : (steps.map (·.id)).Nodup)
    (verify : CoreObject (some verifyStep) steps) (reflect : CoreObject reflectStep steps)
    (respond : CoreObject (some respondStep) steps) : Moved CoreOnly steps
      (shiftCoreSteps verifyStep respondStep reflectStep added newOrdinals steps) := by
  have shifts : ∀ (ordinal : Nat) (dependsOn : RunStep → List Nat) (step : RunStep),
      step.kind ∈ coreKinds → CoreOnly step { step with ordinal, dependsOn := dependsOn step } :=
    fun ordinal dependsOn step kind => ⟨rfl, rfl, rfl, rfl, fun other => absurd kind other⟩
  have verified := updateStep_moved nodup verify
    (shifts (verifyStep.ordinal + added) fun step =>
      (step.dependsOn ++ newOrdinals).eraseDups)
  have verifiedIds : ((updateStep verifyStep.id (fun step =>
      { step with
        ordinal := verifyStep.ordinal + added
        dependsOn := (step.dependsOn ++ newOrdinals).eraseDups }) steps).map (·.id)).Nodup :=
    updateStep_nodup (fun _ => rfl) nodup
  cases reflectStep with
  | none =>
    exact verified.trans (updateStep_moved verifiedIds (respond.moved verified)
      (shifts (respondStep.ordinal + added) fun _ => [verifyStep.ordinal + added]))
  | some reflectStep =>
    have reflected := verified.trans (updateStep_moved verifiedIds (reflect.moved verified)
      (shifts (reflectStep.ordinal + added) fun _ => [verifyStep.ordinal + added]))
    exact reflected.trans (updateStep_moved (updateStep_nodup (fun _ => rfl) verifiedIds)
      (respond.moved reflected)
      (shifts (respondStep.ordinal + added) fun _ => [reflectStep.ordinal + added]))

section
variable {rows : RunRows} (charted : Charted rows)
include charted

lemma completeReflectStep_moved {found : Option RunStep} (decision : Decision)
    (isCore : CoreObject found rows.steps) :
    Moved CoreOnly rows.steps (completeReflectStep found decision rows).steps := by
  have started := startCoreStep_change.moved charted isCore
  have startedCharted := charted.keep (startCoreStep_change.kept found rows)
  exact started.trans ((completeCoreStep_change _).moved startedCharted (isCore.moved started))

lemma verifiedRows_moved : Moved CoreOnly rows.steps (verifiedRows rows).steps := by
  have isCore : CoreObject (lastOfKind .verify rows.steps) rows.steps :=
    coreObject_last (by decide) rows.steps
  have started := startCoreStep_change.moved charted isCore
  have startedCharted := charted.keep
    (startCoreStep_change.kept (lastOfKind .verify rows.steps) rows)
  exact started.trans ((completeCoreStep_change _).moved startedCharted (isCore.moved started))

variable {now : Time} {review : Review}

lemma reviewed_moved {settings : Settings} {middle : RunRows}
    (reviewed : Reviewed settings now review rows middle) :
    Moved CoreOnly rows.steps middle.steps := by
  have verified := verifiedRows_moved charted
  cases reviewed with
  | verified => exact verified
  | recorded asked =>
    have isCore : CoreObject (lastOfKind .reflect rows.steps) rows.steps :=
      coreObject_last (by decide) rows.steps
    exact verified.trans (startCoreStep_change.moved (charted.keep (verifiedRows_kept rows))
      (isCore.moved verified))

variable {rows' : RunRows}

lemma appended_moved {contracts : List NamedContract} {missing : List String} {reason : String}
    {verifyStep respondStep : RunStep}
    (appended : Appended contracts missing reason rows rows' verifyStep respondStep) :
    Moved CoreOnly rows.steps rows'.steps := by
  have verify : CoreObject (some verifyStep) rows.steps :=
    appended.verify ▸ coreObject_last (by decide) rows.steps
  have respond : CoreObject (some respondStep) rows.steps :=
    appended.respond ▸ coreObject_last (by decide) rows.steps
  have reflect : CoreObject (lastOfKind .reflect rows.steps) rows.steps :=
    coreObject_last (by decide) rows.steps
  rw [appended.steps_eq]
  refine (shiftCoreSteps_moved contracts.length _ charted.nodup.2 verify reflect respond).trans
    (Moved.insert ?_)
  intro step mem
  obtain ⟨index, inside, rfl⟩ := List.mem_mapIdx.1 mem
  exact ⟨rfl, fun _ => Or.inl ⟨rfl, rfl⟩⟩

lemma publish_moved {reflectStep respondStep : Option RunStep} {decision : Decision}
    {answerArtifactId : String} (reflect : CoreObject reflectStep rows.steps)
    (respond : CoreObject respondStep rows.steps)
    (run : publish reflectStep respondStep decision answerArtifactId rows = .ok rows') :
    Moved CoreOnly rows.steps rows'.steps := by
  have reflected := completeReflectStep_moved charted decision reflect
  have reflectedCharted := charted.keep (completeReflectStep_kept reflectStep decision rows)
  have responding := reflected.trans
    (startCoreStep_change.moved reflectedCharted (respond.moved reflected))
  have respondingCharted := reflectedCharted.keep (startCoreStep_change.kept respondStep _)
  obtain ⟨_, rfl⟩ := publish_ok run
  refine responding.trans ((completeCoreStep_change _).moved ?_ (respond.moved responding))
  exact respondingCharted.keep ⟨rfl, rfl, rfl⟩

lemma responded_moved {settings : Settings} {evidence : List String} {response : Response}
    (responded : Responded settings now evidence review rows rows' response) :
    Moved CoreOnly rows.steps rows'.steps ∨
      rows' = cancel rows ∧ isTerminal rows.run.status = false := by
  have verify : CoreObject (lastOfKind .verify rows.steps) rows.steps :=
    coreObject_last (by decide) rows.steps
  have reflect : CoreObject (lastOfKind .reflect rows.steps) rows.steps :=
    coreObject_last (by decide) rows.steps
  have respond : CoreObject (lastOfKind .respond rows.steps) rows.steps :=
    coreObject_last (by decide) rows.steps
  cases responded with
  | idle terminal => exact .inl (Moved.refl fun step _ => CoreOnly.refl step)
  | cancelled open_ requested => exact .inr ⟨rfl, open_⟩
  | published open_ middle after reviewed decision run =>
    have moved := reviewed_moved charted reviewed
    exact .inl (moved.trans (publish_moved (charted.review reviewed) (reflect.moved moved)
      (respond.moved moved) run))
  | gap requested middle replanned reviewed grounded chosen uninvestigated run =>
    obtain ⟨_, _, verifyStep, respondStep, appended⟩ := applyGapReplan_appended run
    have middleCharted := charted.review reviewed
    have moved := (reviewed_moved charted reviewed).trans (appended_moved middleCharted appended)
    exact .inl (moved.trans (reopenCoreStep_change.moved (middleCharted.append appended)
      (verify.moved moved)))
  | investigated requested contract replanned asked grounded access proposed run =>
    obtain ⟨verifyStep, respondStep, appended⟩ := appendCapabilityReplan_appended run
    have middleCharted := charted.review (Reviewed.recorded asked)
    have redrawn := middleCharted.append appended
    have moved := (reviewed_moved charted (Reviewed.recorded asked)).trans
      (appended_moved middleCharted appended)
    have completed := moved.trans (completeReflectStep_moved redrawn .replan (reflect.moved moved))
    have completedCharted := redrawn.keep
      (completeReflectStep_kept (lastOfKind .reflect rows.steps) .replan replanned)
    have reopened := completed.trans
      (reopenCoreStep_change.moved completedCharted (verify.moved completed))
    have reopenedCharted := completedCharted.keep
      (reopenCoreStep_change.kept (lastOfKind .verify rows.steps) _)
    exact .inl (reopened.trans
      (reopenCoreStep_change.moved reopenedCharted (reflect.moved reopened)))

end

lemma cancelActiveRunSteps_moved (settles : Option Nat) (steps : List RunStep) :
    Moved (StepMove settles) steps (cancelActiveRunSteps steps) := by
  refine Moved.of_map rfl ?_
  intro step _
  split
  · next active => exact StepMove.cancelled active
  exact StepMove.kept settles step

lemma cancel_moved (settles : Option Nat) (rows : RunRows) :
    Moved (StepMove settles) rows.steps (cancel rows).steps := by
  simp only [cancel]
  repeat' split
  all_goals first
    | exact cancelActiveRunSteps_moved settles rows.steps
    | exact Moved.refl fun step _ => StepMove.kept settles step

lemma passed_moved {now : Time} {rows : RunRows} {wave : Wave} (charted : Charted rows)
    (passed : Passed now rows rows' wave) :
    Moved (StepMove settles) rows.steps rows'.steps := by
  cases passed with
  | stopped | done => exact Moved.refl fun step _ => StepMove.kept settles step
  | cancelled open_ requested => exact cancel_moved settles rows
  | skipped open_ blocked =>
    refine Moved.of_map rfl ?_
    intro step mem
    split
    · next inside =>
      obtain ⟨other, otherBlocked, eq⟩ := List.mem_map.1 inside
      obtain ⟨otherMember, active, _⟩ := mem_blocked otherBlocked
      have isOther : other = step := eq_of_ordinal charted.nodup.1 otherMember mem eq
      exact StepMove.skipped (isOther ▸ active)
    · exact StepMove.kept settles step
  | invoked open_ active ready budget =>
    refine Moved.of_map rfl ?_
    intro step mem
    split
    · next inside =>
      obtain ⟨other, otherReady, eq⟩ := List.mem_map.1 inside
      obtain ⟨otherMember, otherActive, kind⟩ := mem_ready otherReady
      have isOther : other = step := eq_of_id charted.nodup.2 otherMember mem eq
      exact StepMove.started (isOther ▸ otherActive) (isOther ▸ kind)
    · exact StepMove.kept settles step

lemma settleStep_moved {answer : GatewayAnswer} {rows : RunRows}
    (run : settleStep stepId answer rows = .ok rows') :
    Moved (StepMove (some stepId)) rows.steps rows'.steps := by
  cases settleStep_settled run with
  | kept => exact Moved.refl fun step _ => StepMove.kept (some stepId) step
  | cancelled => exact cancel_moved (some stepId) rows
  | recorded outcome ended open_ =>
    refine Moved.of_map rfl ?_
    intro step _
    split
    · next eq => exact StepMove.recorded (congrArg some eq.symm) outcome ended
    exact StepMove.kept (some stepId) step
  | waiting version active =>
    refine Moved.of_map rfl ?_
    intro step _
    split
    · next eq => exact StepMove.waits (congrArg some eq.symm) version
    exact StepMove.kept (some stepId) step

lemma mem_restorePass {completed : List Nat} (mem : ordinal ∈ restorePass completed steps retry) :
    ordinal ∈ retry ∨ ∃ step ∈ steps, step.ordinal = ordinal ∧ step.status = .skipped := by
  induction steps generalizing retry with
  | nil => exact .inl mem
  | cons step rest ih =>
    simp only [restorePass] at mem
    rcases ih mem with old | ⟨other, otherMember, found⟩
    · split at old
      · next restored =>
        rcases List.mem_append.1 old with old | new
        · exact .inl old
        simp only [List.mem_singleton] at new
        simp only [restorable, Bool.and_eq_true, decide_eq_true_eq] at restored
        exact .inr ⟨step, List.mem_cons_self, new.symm, restored.1.1.1.1⟩
      · exact .inl old
    · exact .inr ⟨other, List.mem_cons_of_mem _ otherMember, found⟩

lemma mem_restoreSkipped {completed : List Nat} {passes : Nat}
    (mem : ordinal ∈ restoreSkipped completed steps passes retry) :
    ordinal ∈ retry ∨ ∃ step ∈ steps, step.ordinal = ordinal ∧ step.status = .skipped := by
  induction passes generalizing retry with
  | zero => exact .inl mem
  | succ passes ih =>
    simp only [restoreSkipped] at mem
    split at mem
    · exact .inl mem
    rcases ih mem with old | found
    · exact mem_restorePass old
    exact .inr found

lemma retried_moved {rows : RunRows} (charted : Charted rows)
    (retried : Retried settings rows rows' retry) :
    Moved (StepMove settles) rows.steps rows'.steps := by
  refine Moved.of_map retried.steps_eq ?_
  intro step mem
  unfold retryStep
  split
  · exact StepMove.kept settles step
  next inside =>
  rw [Decidable.not_not, retried.closed] at inside
  refine StepMove.retried ?_
  rcases mem_restoreSkipped inside with failed | ⟨other, otherMember, eq, skipped⟩
  · obtain ⟨other, otherMember, eq⟩ := List.mem_map.1 failed
    obtain ⟨otherMember, again⟩ := List.mem_filter.1 (List.mem_filter.1 otherMember).1
    have isOther : other = step := eq_of_ordinal charted.nodup.1 otherMember mem eq
    exact .inl (isOther ▸ again)
  · have isOther : other = step := eq_of_ordinal charted.nodup.1 otherMember mem eq
    exact .inr (isOther ▸ skipped)

lemma insertSteps_moved {drafts : List RunStep} (fresh : ∀ draft ∈ drafts, Fresh draft) :
    Moved CoreOnly steps (insertSteps steps drafts) := by
  apply Moved.insert
  intro step mem
  obtain ⟨index, inside, rfl⟩ := List.mem_mapIdx.1 mem
  have draft := fresh drafts[index] (List.getElem_mem inside)
  exact ⟨draft.retryCount, draft.status⟩

lemma prepared_moved {rows : RunRows} (prepared : Prepared rows rows') :
    Moved (StepMove settles) rows.steps rows'.steps := by
  have ensured : ∀ includePlan,
      Moved CoreOnly rows.steps (ensurePreparationSteps includePlan rows).steps := by
    intro includePlan
    apply insertSteps_moved
    intro draft mem
    have drafted := List.mem_of_mem_take (List.mem_filter.1 mem).1
    simp only [preparationDrafts, List.mem_cons, List.not_mem_nil, or_false] at drafted
    rcases drafted with rfl | rfl | rfl
    all_goals exact ⟨rfl, fun _ => Or.inr ⟨by decide, rfl⟩⟩
  cases prepared with
  | kept rows' idle =>
    rcases idle with rfl | rfl
    · exact Moved.refl fun step _ => StepMove.kept settles step
    exact cancel_moved settles rows
  | asked clarification rows' open_ unplanned running steps run_eq =>
    rw [steps]
    exact (ensured false).of_core
  | planned plan availableCapabilities rows' open_ unplanned steps run_eq =>
    rw [steps]
    refine ((ensured true).trans (insertSteps_moved ?_)).of_core
    intro draft mem
    rcases List.mem_append.1 mem with capability | core
    · obtain ⟨index, inside, rfl⟩ := List.mem_mapIdx.1 capability
      exact ⟨rfl, fun _ => Or.inl ⟨rfl, rfl⟩⟩
    simp only [coreSteps, List.mem_cons, List.not_mem_nil, or_false] at core
    rcases core with rfl | rfl | rfl
    all_goals exact ⟨rfl, fun other => absurd (by simp [coreKinds]) other⟩

lemma RowsStep.moved {action : Action} {flag : Bool} (charted : Charted world.rows)
    (step : RowsStep settings world action rows' flag) :
    Moved (StepMove (world.settles action)) world.rows.steps rows'.steps := by
  have kept : ∀ settles, Moved (StepMove settles) world.rows.steps world.rows.steps :=
    fun settles => Moved.refl fun step _ => StepMove.kept settles step
  cases step with
  | same | requested => exact kept _
  | claimed workerId claimed run =>
    rw [(claim_touched run).steps]
    exact kept _
  | prepared index preparation attachments rows' run => exact prepared_moved (prepare_prepared run)
  | passed index rows' wave run => exact passed_moved charted (executeSteps_passed run)
  | settled index jobIndex stepId answer rows' eq run =>
    rw [eq]
    exact settleStep_moved run
  | retried index rows' retry retried => exact retried_moved charted retried
  | filled index question missing rows' run =>
    obtain ⟨_, _, verifyStep, respondStep, appended⟩ := applyGapReplan_appended run
    exact (appended_moved charted appended).of_core
  | responded index review rows' response run =>
    rcases responded_moved charted (respond_responded run) with moved | ⟨rfl, _⟩
    · exact moved.of_core
    exact cancel_moved _ world.rows
  | cancelled => exact cancel_moved _ world.rows
  | failed index code =>
    rw [(fail_touched code world.rows).steps]
    exact kept _
  | decided principal access approvalId approve approvals rows' run =>
    rw [(decide_touched run).steps]
    exact kept _
  | answered access clarificationId rows' run =>
    rw [(answer_touched run).steps]
    exact kept _
  | stopped =>
    unfold cancelRun
    split
    · exact kept _
    exact cancelActiveRunSteps_moved _ world.rows.steps

lemma perform_moved {world' : World} {timed : Timed} (charted : Charted world.rows)
    (run : perform settings world timed = some world') :
    Moved (StepMove (world.settles timed.action)) world.rows.steps world'.rows.steps := by
  obtain ⟨flag, step, _⟩ := perform_rows run
  have ticked : Charted (world.tick timed.elapsed).rows := charted
  have moved := step.moved ticked
  have settles : (world.tick timed.elapsed).settles timed.action = world.settles timed.action := by
    cases timed.action <;> rfl
  rwa [settles] at moved

end Obsion.Harness
