import Obsion.Harness.Replans

/-! # The core steps in `_respond`

Where the row of a core step stands while `_respond` starts, completes and reopens
the step objects it found, and which of them it starts. -/

namespace Obsion.Harness

open Obsion.Lib

def RunRows.row? (rows : RunRows) (id : Nat) : Option RunStep :=
  rows.steps.find? fun step => step.id == id

def rowOf (found : Option RunStep) (rows : RunRows) : Option RunStep :=
  found.bind fun object => rows.row? object.id

def Apart (found other : Option RunStep) : Prop :=
  ∀ object, found = some object → ∀ second, other = some second → object.id ≠ second.id

variable {rows rows' : RunRows} {step verifyStep respondStep : RunStep}
  {change : Run → RunStep → Run × RunStep} {found : Option RunStep} {settings : Settings}
  {now : Time} {review : Review} {contracts : List NamedContract} {missing : List String}
  {reason : String}

variable {id : Nat} {other : Option RunStep} {kind : StepKind} {evidence : List String}
  {response : Response}

lemma row_id (located : rows.row? id = some step) : step ∈ rows.steps ∧ step.id = id := by
  refine ⟨List.mem_of_find?_eq_some located, ?_⟩
  have eq := List.find?_some located
  simpa using eq

lemma row_of_mem (nodup : (rows.steps.map (·.id)).Nodup) (mem : step ∈ rows.steps) :
    rows.row? step.id = some step := by
  cases located : rows.row? step.id with
  | none =>
    have absent := List.find?_eq_none.1 located step mem
    simp at absent
  | some row =>
    obtain ⟨rowMember, eq⟩ := row_id located
    rw [eq_of_id nodup rowMember mem eq]

lemma row_onCoreStep (core : CoreChange change) (object : RunStep) (rows : RunRows) (id : Nat) :
    (onCoreStep (some object) change rows).row? id
      = (rows.row? id).map fun step =>
          if step.id = object.id then (change rows.run step).2 else step := by
  have kept : ∀ step : RunStep,
      (if step.id = object.id then (change rows.run step).2 else step).id = step.id := by
    intro step
    split
    · have shape := core.shape rows.run step
      exact congrArg StepShape.id shape
    rfl
  simp only [RunRows.row?, onCoreStep, updateStep, List.find?_map]
  congr 2
  funext step
  simp only [Function.comp_apply, kept]

lemma rowOf_same (core : CoreChange change) (found : Option RunStep) (rows : RunRows) :
    rowOf found (onCoreStep found change rows)
      = (rowOf found rows).map fun step => (change rows.run step).2 := by
  cases found with
  | none => rfl
  | some object =>
    simp only [rowOf, Option.bind_some]
    rw [row_onCoreStep core]
    cases located : rows.row? object.id with
    | none => rfl
    | some step => rw [Option.map_some, Option.map_some, if_pos (row_id located).2]

lemma rowOf_other (core : CoreChange change) (apart : Apart found other) (rows : RunRows) :
    rowOf found (onCoreStep other change rows) = rowOf found rows := by
  cases found with
  | none => rfl
  | some object =>
    cases other with
    | none => rfl
    | some second =>
      simp only [rowOf, Option.bind_some]
      rw [row_onCoreStep core]
      cases located : rows.row? object.id with
      | none => rfl
      | some step =>
        have different : step.id ≠ second.id := by
          rw [(row_id located).2]
          exact apart object rfl second rfl
        rw [Option.map_some, if_neg different]

lemma lastOfKind_row (charted : Charted rows) (kind : StepKind) :
    rowOf (lastOfKind kind rows.steps) rows = lastOfKind kind rows.steps := by
  cases located : lastOfKind kind rows.steps with
  | none => rfl
  | some object => exact row_of_mem charted.nodup.2 (lastOfKind_some located).1

lemma lastOfKind_apart (charted : Charted rows) {other : StepKind} (different : kind ≠ other) :
    Apart (lastOfKind kind rows.steps) (lastOfKind other rows.steps) := by
  intro object located second secondLocated eq
  obtain ⟨mem, isKind⟩ := lastOfKind_some located
  obtain ⟨secondMember, isOther⟩ := lastOfKind_some secondLocated
  have equal : object = second := eq_of_id charted.nodup.2 mem secondMember eq
  rw [equal, isOther] at isKind
  exact different isKind.symm

/-! ## Starts -/

/-- The start of the step in this row, where `_start_core_step` counts one. -/
def startIds (found : Option RunStep) : List Nat :=
  match found with
  | none => []
  | some step => if step.status ∈ [StepStatus.pending, .waitingApproval] then [step.id] else []

def Run.addStarts (run : Run) (ids : List Nat) : Run :=
  { run with stepCount := run.stepCount + ids.length, starts := ids ++ run.starts }

def RunStep.finished (outputRef : Option String) (step : RunStep) : RunStep :=
  if step.status ∈ activeStepStatuses then { step with status := .completed, outputRef } else step

lemma start_run (found : Option RunStep) (rows : RunRows) :
    (onCoreStep found startCoreStep rows).run = rows.run.addStarts (startIds (rowOf found rows)) := by
  cases found with
  | none => rfl
  | some object =>
    have unfolded : (onCoreStep (some object) startCoreStep rows).run
        = match rows.row? object.id with
          | none => rows.run
          | some step => (startCoreStep rows.run step).1 := rfl
    rw [unfolded]
    simp only [rowOf, Option.bind_some]
    cases located : rows.row? object.id with
    | none => rfl
    | some step =>
      cases status : step.status
      all_goals
        simp only [startCoreStep, startIds, status]
        rfl

lemma complete_run (found : Option RunStep) (outputRef : Option String) (rows : RunRows) :
    (onCoreStep found (completeCoreStep outputRef) rows).run = rows.run := by
  cases found with
  | none => rfl
  | some object =>
    simp only [onCoreStep]
    split
    · rfl
    next step _ =>
    unfold completeCoreStep
    repeat' split
    all_goals rfl

lemma reopen_run (quiet : ∀ step, rowOf found rows = some step → step.status ≠ .running) :
    (onCoreStep found reopenCoreStep rows).run = rows.run := by
  cases found with
  | none => rfl
  | some object =>
    simp only [onCoreStep]
    split
    · rfl
    next step located =>
    have still := quiet step located
    unfold reopenCoreStep
    rw [if_neg still]
    split <;> rfl

lemma finished_step (outputRef : Option String) (run later : Run) (step : RunStep) :
    (completeCoreStep outputRef later (startCoreStep run step).2).2 = step.finished outputRef := by
  cases status : step.status
  all_goals
    simp [startCoreStep, completeCoreStep, RunStep.finished, status, activeStepStatuses]

lemma finished_status (outputRef : Option String) (step : RunStep) : (step.finished outputRef).status
      = if step.status ∈ activeStepStatuses then .completed else step.status := by
  unfold RunStep.finished
  split <;> rfl

lemma finished_quiet (outputRef : Option String) (step : RunStep) :
    (step.finished outputRef).status ≠ .running := by
  rw [finished_status]
  split
  · decide
  next inactive =>
  intro running
  rw [running] at inactive
  exact inactive (by decide)

lemma rowOf_finish (found : Option RunStep) (outputRef : Option String) (rows : RunRows) :
    rowOf found (onCoreStep found (completeCoreStep outputRef)
        (onCoreStep found startCoreStep rows)) = (rowOf found rows).map (·.finished outputRef) := by
  rw [rowOf_same (completeCoreStep_change outputRef), rowOf_same startCoreStep_change, Option.map_map]
  congr 1
  funext step
  exact finished_step outputRef _ _ step

lemma rowOf_finish_other (apart : Apart found other) (outputRef : Option String) (rows : RunRows) :
    rowOf found (onCoreStep other (completeCoreStep outputRef)
        (onCoreStep other startCoreStep rows)) = rowOf found rows := by
  rw [rowOf_other (completeCoreStep_change outputRef) apart, rowOf_other startCoreStep_change apart]

lemma finish_run (found : Option RunStep) (outputRef : Option String) (rows : RunRows) :
    (onCoreStep found (completeCoreStep outputRef) (onCoreStep found startCoreStep rows)).run
      = rows.run.addStarts (startIds (rowOf found rows)) := by
  rw [complete_run, start_run]

def reviewedRows (settings : Settings) (now : Time) (review : Review) (rows : RunRows) : RunRows :=
  if investigates settings now review (verifiedRows rows) then
    recordedRows (lastOfKind .reflect rows.steps) (verifiedRows rows)
  else verifiedRows rows

lemma reviewedRows_reviewed (settings : Settings) (now : Time) (review : Review)
    (rows : RunRows) : Reviewed settings now review rows (reviewedRows settings now review rows) := by
  unfold reviewedRows
  split
  · next asked => exact Reviewed.recorded asked
  exact Reviewed.verified

/-- The decision that `_respond` goes on with where no investigation was appended. -/
def decisionOf (settings : Settings) (now : Time) (evidence : List String) (review : Review)
    (rows : RunRows) : Decision :=
  if investigates settings now review (verifiedRows rows) ∧ review.contract.isSome ∧
      review.accessCurrent = false then .withhold
  else if review.sourcesCurrent then
    reflectDecision review
      (evidenceFreeResponseAllowed rows.run.planOrEmpty && evidence.isEmpty)
  else .withhold

def investigatedRows (rows replanned : RunRows) : RunRows :=
  onCoreStep (lastOfKind .reflect rows.steps) reopenCoreStep
    (onCoreStep (lastOfKind .verify rows.steps) reopenCoreStep
      (completeReflectStep (lastOfKind .reflect rows.steps) .replan replanned))

/-- The ways `_respond` commits where it reaches its decision. -/
inductive Concluded (settings : Settings) (now : Time) (evidence : List String) (review : Review)
    (rows : RunRows) : RunRows → Response → Prop
  | investigated (contract : CapabilityInput) (replanned : RunRows)
      (asked : investigates settings now review (verifiedRows rows) = true)
      (access : review.accessCurrent = true) (proposed : review.contract = some contract)
      (run : appendCapabilityReplan [investigationContract contract] ["DOCUMENT"]
        "knowledge_investigation" (reviewedRows settings now review rows) = .ok (some replanned)) :
      Concluded settings now evidence review rows (investigatedRows rows replanned)
        (.returned true)
  | gap (replanned : RunRows) (uninvestigated : Uninvestigated settings now review rows)
      (chosen : decisionOf settings now evidence review rows = .replan)
      (run : applyGapReplan settings review.question review.missingEvidence
        "critic_verification_failed" (reviewedRows settings now review rows)
          = .ok (some replanned)) :
      Concluded settings now evidence review rows
        (onCoreStep (lastOfKind .verify rows.steps) reopenCoreStep replanned) (.returned true)
  | published (decision : Decision) (rows' : RunRows)
      (unappended : investigates settings now review (verifiedRows rows) = true →
        ∀ contract, review.contract = some contract → review.accessCurrent = true →
          appendCapabilityReplan [investigationContract contract] ["DOCUMENT"]
            "knowledge_investigation" (reviewedRows settings now review rows) = .ok none)
      (ungapped : decisionOf settings now evidence review rows = .replan →
        applyGapReplan settings review.question review.missingEvidence
          "critic_verification_failed" (reviewedRows settings now review rows) = .ok none)
      (run : publish (lastOfKind .reflect rows.steps) (lastOfKind .respond rows.steps) decision
        review.answerArtifactId (reviewedRows settings now review rows) = .ok rows') :
      Concluded settings now evidence review rows rows' (.published review.answerArtifactId)

lemma conclude_concluded (unappended : investigates settings now review (verifiedRows rows) = true →
      ∀ contract, review.contract = some contract → review.accessCurrent = true →
        appendCapabilityReplan [investigationContract contract] ["DOCUMENT"]
          "knowledge_investigation" (reviewedRows settings now review rows) = .ok none)
    (run : conclude settings review (lastOfKind .verify rows.steps)
      (lastOfKind .reflect rows.steps) (lastOfKind .respond rows.steps)
      (decisionOf settings now evidence review rows) (reviewedRows settings now review rows)
        = .ok (rows', response)) : Concluded settings now evidence review rows rows' response := by
  have finished : ∀ decision, (decisionOf settings now evidence review rows = .replan →
        applyGapReplan settings review.question review.missingEvidence
          "critic_verification_failed" (reviewedRows settings now review rows) = .ok none) →
      (publish (lastOfKind .reflect rows.steps) (lastOfKind .respond rows.steps) decision
          review.answerArtifactId (reviewedRows settings now review rows)).map
        (fun published => (published, Response.published review.answerArtifactId))
          = .ok (rows', response) →
      Concluded settings now evidence review rows rows' response := by
    intro decision ungapped mapped
    obtain ⟨after, published, eq⟩ := of_map_ok mapped
    simp only [Prod.mk.injEq] at eq
    obtain ⟨rfl, rfl⟩ := eq
    exact Concluded.published decision after unappended ungapped published
  unfold conclude at run
  simp only at run
  split at run
  · next replans =>
    split at run
    · cases run
    · next replanned applied =>
      cases run
      refine Concluded.gap replanned ?_ replans applied
      intro asked contract proposed
      have access : review.accessCurrent = true := by
        by_contra denied
        rw [Bool.not_eq_true] at denied
        have withheld : decisionOf settings now evidence review rows = .withhold :=
          if_pos ⟨asked, by rw [proposed]; rfl, denied⟩
        rw [withheld] at replans
        cases replans
      have recorded : reviewedRows settings now review rows
          = recordedRows (lastOfKind .reflect rows.steps) (verifiedRows rows) := if_pos asked
      rw [← recorded]
      exact ⟨access, unappended asked contract proposed access⟩
    · next applied => exact finished .withhold (fun _ => applied) run
  · next decided => exact finished _ (fun replans => absurd replans decided) run

lemma respond_concluded (open_ : isTerminal rows.run.status = false)
    (requested : rows.run.cancellationRequestedAt.isSome = false)
    (run : respond settings now evidence review rows = .ok (rows', response)) :
    Concluded settings now evidence review rows rows' response := by
  unfold respond at run
  rw [if_neg (by rw [open_]; exact Bool.false_ne_true),
    if_neg (by rw [requested]; exact Bool.false_ne_true)] at run
  simp only at run
  split at run
  · cases run
  split at run
  · next asked =>
    have asked : investigates settings now review (verifiedRows rows) = true := asked
    have recorded : reviewedRows settings now review rows
        = recordedRows (lastOfKind .reflect rows.steps) (verifiedRows rows) := if_pos asked
    split at run
    · cases run
    · next replanned investigated =>
      cases run
      unfold investigate at investigated
      simp only at investigated
      split at investigated
      · cases investigated
      next contract proposed =>
      split at investigated
      · cases investigated
      next access =>
      rw [Bool.not_eq_true, Bool.not_eq_false'] at access
      split at investigated
      · cases investigated
      · cases investigated
      · next appended =>
        cases investigated
        refine Concluded.investigated contract _ asked access proposed ?_
        rw [recorded]
        exact appended
    · next middle decision investigated =>
      have eq : middle = reviewedRows settings now review rows ∧
          decision = decisionOf settings now evidence review rows ∧
          ∀ contract, review.contract = some contract → review.accessCurrent = true →
            appendCapabilityReplan [investigationContract contract] ["DOCUMENT"]
              "knowledge_investigation" (reviewedRows settings now review rows)
                = .ok none := by
        rw [recorded]
        unfold investigate at investigated
        simp only at investigated
        split at investigated
        · next unproposed =>
          cases investigated
          refine ⟨rfl, ?_, ?_⟩
          · exact (if_neg (by simp [unproposed])).symm
          intro contract proposed
          rw [unproposed] at proposed
          cases proposed
        next contract proposed =>
        split at investigated
        · next denied =>
          cases investigated
          rw [Bool.not_eq_true'] at denied
          refine ⟨rfl, ?_, ?_⟩
          · exact (if_pos ⟨asked, by rw [proposed]; rfl, denied⟩).symm
          intro other _ access
          rw [denied] at access
          cases access
        next access =>
        rw [Bool.not_eq_true, Bool.not_eq_false'] at access
        split at investigated
        · cases investigated
        · next unappended =>
          cases investigated
          refine ⟨rfl, ?_, ?_⟩
          · exact (if_neg (by simp [access])).symm
          intro other otherProposed _
          rw [proposed] at otherProposed
          cases otherProposed
          exact unappended
        · cases investigated
      obtain ⟨rfl, rfl, unappended⟩ := eq
      exact conclude_concluded (fun _ => unappended) run
  · next unasked =>
    have unasked : ¬ investigates settings now review (verifiedRows rows) = true := unasked
    have eq : reviewedRows settings now review rows = verifiedRows rows := if_neg unasked
    have decided : decisionOf settings now evidence review rows
        = if review.sourcesCurrent then
            reflectDecision review
              (evidenceFreeResponseAllowed rows.run.planOrEmpty && evidence.isEmpty)
          else .withhold := if_neg fun asked => unasked asked.1
    rw [← decided] at run
    apply conclude_concluded (fun asked => absurd asked unasked)
    rw [eq]
    exact run

lemma reviewed_row_verify (charted : Charted rows) :
    rowOf (lastOfKind .verify rows.steps) (reviewedRows settings now review rows)
      = (lastOfKind .verify rows.steps).map (·.finished (some "critic.completed")) := by
  have verified : rowOf (lastOfKind .verify rows.steps) (verifiedRows rows)
      = (lastOfKind .verify rows.steps).map (·.finished (some "critic.completed")) := by
    rw [verifiedRows, rowOf_finish, lastOfKind_row charted]
  unfold reviewedRows
  split
  · rw [← verified]
    exact rowOf_other startCoreStep_change (lastOfKind_apart charted (by decide)) _
  exact verified

lemma verified_row (charted : Charted rows) (other : kind ≠ .verify) :
    rowOf (lastOfKind kind rows.steps) (verifiedRows rows) = lastOfKind kind rows.steps := by
  rw [verifiedRows, rowOf_finish_other (lastOfKind_apart charted other), lastOfKind_row charted]

lemma reviewed_row_reflect (charted : Charted rows) :
    rowOf (lastOfKind .reflect rows.steps) (reviewedRows settings now review rows)
      = if investigates settings now review (verifiedRows rows) then
          (lastOfKind .reflect rows.steps).map fun step =>
            (startCoreStep (verifiedRows rows).run step).2 else lastOfKind .reflect rows.steps := by
  have verified := verified_row charted (by decide : StepKind.reflect ≠ .verify)
  unfold reviewedRows
  split
  · have started := rowOf_same startCoreStep_change (lastOfKind .reflect rows.steps)
      (verifiedRows rows)
    rw [verified] at started
    exact started
  · exact verified

lemma reviewed_row_respond (charted : Charted rows) :
    rowOf (lastOfKind .respond rows.steps) (reviewedRows settings now review rows)
      = lastOfKind .respond rows.steps := by
  have verified := verified_row charted (by decide : StepKind.respond ≠ .verify)
  unfold reviewedRows
  split
  · have started := rowOf_other startCoreStep_change
      (lastOfKind_apart charted (by decide : StepKind.respond ≠ .reflect)) (verifiedRows rows)
    rw [verified] at started
    exact started
  · exact verified

def Standing (before after : List RunStep) : Prop :=
  ∀ step ∈ before, ∃ next ∈ after, next.id = step.id ∧ next.status = step.status

lemma Standing.trans {first second third : List RunStep} (left : Standing first second)
    (right : Standing second third) : Standing first third := by
  intro step mem
  obtain ⟨next, nextMember, nextId, nextStatus⟩ := left step mem
  obtain ⟨last, lastMember, lastId, lastStatus⟩ := right next nextMember
  exact ⟨last, lastMember, lastId.trans nextId, lastStatus.trans nextStatus⟩

lemma updateStep_standing {change : RunStep → RunStep} {steps : List RunStep}
    (keeps : ∀ step, (change step).id = step.id ∧ (change step).status = step.status) :
    Standing steps (updateStep id change steps) := by
  intro step mem
  refine ⟨_, mem_updateStep.2 ⟨step, mem, rfl⟩, ?_⟩
  split
  · exact keeps step
  exact ⟨rfl, rfl⟩

lemma shiftCoreSteps_standing (verifyStep respondStep : RunStep)
    (reflectStep : Option RunStep) (added : Nat) (newOrdinals : List Nat) (steps : List RunStep) :
    Standing steps (shiftCoreSteps verifyStep respondStep reflectStep added newOrdinals steps) := by
  have keeps : ∀ (ordinal : Nat) (depends : RunStep → List Nat) (step : RunStep),
      ({ step with ordinal, dependsOn := depends step } : RunStep).id = step.id ∧
        ({ step with ordinal, dependsOn := depends step } : RunStep).status = step.status :=
    fun _ _ _ => ⟨rfl, rfl⟩
  cases reflectStep with
  | none => exact (updateStep_standing (keeps _ _)).trans (updateStep_standing (keeps _ _))
  | some reflectStep =>
    exact ((updateStep_standing (keeps _ _)).trans (updateStep_standing (keeps _ _))).trans
      (updateStep_standing (keeps _ _))

lemma Appended.standing
    (appended : Appended contracts missing reason rows rows' verifyStep respondStep) :
    Standing rows.steps rows'.steps := by
  have shifted := shiftCoreSteps_standing verifyStep respondStep
    (lastOfKind .reflect rows.steps) contracts.length
    ((replanSteps rows.steps verifyStep.ordinal contracts).map (·.ordinal)) rows.steps
  rw [appended.steps_eq]
  refine shifted.trans ?_
  intro step mem
  exact ⟨step, mem_orderByOrdinal.2 (List.mem_append_left _ mem), rfl, rfl⟩

lemma Appended.rowOf_status (charted : Charted rows)
    (appended : Appended contracts missing reason rows rows' verifyStep respondStep)
    (located : rowOf found rows = some step) :
    ∃ next, rowOf found rows' = some next ∧ next.id = step.id ∧ next.status = step.status := by
  obtain ⟨object, rfl, row⟩ := Option.bind_eq_some_iff.1 located
  obtain ⟨mem, id⟩ := row_id row
  obtain ⟨next, nextMember, nextId, nextStatus⟩ := appended.standing step mem
  refine ⟨next, ?_, nextId, nextStatus⟩
  have nextRow := row_of_mem (charted.append appended).nodup.2 nextMember
  rw [nextId, id] at nextRow
  exact nextRow

lemma Appended.status_of (charted : Charted rows)
    (appended : Appended contracts missing reason rows rows' verifyStep respondStep)
    {change : RunStep → RunStep} (row : rowOf found rows = found.map change)
    (located : rowOf found rows' = some step) :
    ∃ object, found = some object ∧ step.status = (change object).status := by
  cases found with
  | none => cases located
  | some object =>
    obtain ⟨next, nextRow, _, status⟩ := appended.rowOf_status charted row
    rw [located] at nextRow
    cases nextRow
    exact ⟨object, rfl, status⟩

end Obsion.Harness
