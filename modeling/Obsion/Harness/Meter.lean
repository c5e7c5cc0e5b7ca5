import Obsion.Harness.Core
import Obsion.Harness.Terminates

/-! # The step budget

`step_count` is the number of preparation steps and of starts that were not undone.
`_execute_steps` checks it against `max_steps` before it starts a wave; `_prepare`
and `_respond` do not check it at all. -/

namespace Obsion.Harness

open Obsion.Lib

structure Spends (ids : List Nat) (before after : Run) : Prop where
  stepCount : after.stepCount = before.stepCount + ids.length
  starts : after.starts = ids ++ before.starts

lemma Spends.refl (run : Run) : Spends [] run run := ⟨rfl, rfl⟩

variable {ids : List Nat} {answerArtifactId : String} {middle : RunRows} {preparation : Preparation}

lemma Spends.trans {first second third : Run} {more : List Nat} (left : Spends ids first second)
    (right : Spends more second third) :
    Spends (more ++ ids) first third := by
  refine ⟨?_, ?_⟩
  · rw [right.stepCount, left.stepCount, List.length_append]
    omega
  rw [right.starts, left.starts, List.append_assoc]

lemma Run.addStarts_spends (run : Run) (ids : List Nat) : Spends ids run (run.addStarts ids) :=
  ⟨rfl, rfl⟩

def respondAppended (settings : Settings) (now : Time) (evidence : List String) (review : Review)
    (rows : RunRows) : List NamedContract :=
  if evidence.isEmpty then [] else respondAppends settings now review rows

/-- The core steps `_respond` starts: VERIFY always, RESPOND where it publishes, and
REFLECT where it publishes or asks for an investigation. -/
def respondStarts (settings : Settings) (now : Time) (evidence : List String) (review : Review)
    (rows : RunRows) : List Nat :=
  let publishes := (respondAppended settings now evidence review rows).isEmpty
  let investigated := investigates settings now review (verifiedRows rows)
  (if publishes then startIds (lastOfKind .respond rows.steps) else []) ++
    (if publishes || investigated then startIds (lastOfKind .reflect rows.steps) else []) ++
      startIds (lastOfKind .verify rows.steps)

lemma startIds_started (run : Run) (found : Option RunStep) :
    startIds (found.map fun step => (startCoreStep run step).2) = [] := by
  cases found with
  | none => rfl
  | some step => cases status : step.status <;> simp [startIds, startCoreStep, status]

variable {settings : Settings} {now : Time} {review : Review} {rows rows' : RunRows}
  {reflectStep respondStep : Option RunStep} {decision : Decision} {contracts : List NamedContract}
  {missing evidence : List String} {reason question : String} {response : Response}
  {world world' : World} {action : Action}

lemma reviewed_spends (charted : Charted rows) : Spends
      ((if investigates settings now review (verifiedRows rows) then
          startIds (lastOfKind .reflect rows.steps) else []) ++
        startIds (lastOfKind .verify rows.steps))
      rows.run (reviewedRows settings now review rows).run := by
  have verified : (verifiedRows rows).run
      = rows.run.addStarts (startIds (lastOfKind .verify rows.steps)) := by
    rw [verifiedRows, finish_run, lastOfKind_row charted]
  have spends : Spends (startIds (lastOfKind .verify rows.steps)) rows.run
      (verifiedRows rows).run := by
    rw [verified]
    exact Run.addStarts_spends _ _
  unfold reviewedRows
  split
  · have row := verified_row charted (by decide : StepKind.reflect ≠ .verify)
    have started := start_run (lastOfKind .reflect rows.steps) (verifiedRows rows)
    rw [row] at started
    refine spends.trans ⟨?_, ?_⟩
    · simp only [recordedRows, started, Run.addStarts]
    simp only [recordedRows, started, Run.addStarts]
  · exact spends

lemma publish_spends (apart : Apart respondStep reflectStep)
    (run : publish reflectStep respondStep decision answerArtifactId rows = .ok rows') :
    Spends (startIds (rowOf respondStep rows) ++ startIds (rowOf reflectStep rows))
      rows.run rows'.run := by
  have reflected : (completeReflectStep reflectStep decision rows).run
      = rows.run.addStarts (startIds (rowOf reflectStep rows)) := finish_run _ _ _
  have row : rowOf respondStep (completeReflectStep reflectStep decision rows)
      = rowOf respondStep rows := rowOf_finish_other apart _ _
  have responding := start_run respondStep (completeReflectStep reflectStep decision rows)
  rw [row, reflected] at responding
  obtain ⟨_, rfl⟩ := publish_ok run
  rw [complete_run, RunRows.closed, responding]
  exact (Run.addStarts_spends rows.run _).trans ⟨rfl, rfl⟩

lemma Appended.spends {verifyStep respondStep : RunStep}
    (appended : Appended contracts missing reason rows rows' verifyStep respondStep) :
    Spends [] rows.run rows'.run := by
  rw [appended.run_eq]
  exact ⟨rfl, rfl⟩

/-! ### What `_respond` appends -/

lemma appendable_ne_nil (some_room : appendable contracts rows ≠ []) :
    appendable contracts rows = contracts ∧ contracts ≠ [] ∧ rows.run.status = .running ∧
      rows.steps.length + contracts.length ≤ rows.run.maxSteps := by
  unfold appendable at some_room ⊢
  split at some_room
  · next room => exact ⟨if_pos room, some_room, room.1, room.2⟩
  exact absurd rfl some_room

lemma appendCapabilityReplan_room
    (unappended : appendCapabilityReplan contracts missing reason rows = .ok none)
    (planned : rows.run.plan.isSome = true) (charted : Charted rows) :
    appendable contracts rows = [] := by
  obtain ⟨verify, respond⟩ := charted.core_found planned
  by_contra some_room
  obtain ⟨_, some_contract, _, room⟩ := appendable_ne_nil some_room
  rcases appendCapabilityReplan_none unappended verify respond with empty | full
  · exact some_contract empty
  omega

lemma appendable_noted (noted : Noted settings rows middle)
    (status : middle.run.status = rows.run.status) (contracts : List NamedContract) :
    appendable contracts middle = appendable contracts rows := by
  unfold appendable
  rw [noted.length, noted.maxSteps, status]

lemma gapContracts_unplanned (unplanned : rows.run.plan = none) :
    gapContracts settings question missing rows = [] := by
  have none_selected : ∀ attempted, selectGapCapabilities missing [] attempted = [] := by
    intro attempted
    unfold selectGapCapabilities
    induction missing with
    | nil => rfl
    | cons first rest ih =>
      have skipped : ((evidenceGapCapabilities first).find? fun capability =>
          capability ∈ ([] : List String) && capability ∉ attempted &&
            capability ∉ ([] : List (String × String)).map (·.2)) = none := by
        simp
      simp only [List.foldl_cons, skipped]
      exact ih
  unfold gapContracts
  simp only [Run.planOrEmpty, unplanned]
  exact congrArg (List.map _) (none_selected _)

lemma applyGapReplan_room
    (unapplied : applyGapReplan settings question missing reason rows = .ok none)
    (charted : Charted rows) : gapAppends settings question missing rows = [] := by
  unfold applyGapReplan at unapplied
  unfold gapAppends
  split at unapplied
  · next none_missing => rw [none_missing, Bool.true_or, if_pos rfl]
  next some_missing =>
  split at unapplied
  · next spent => rw [decide_eq_true spent, Bool.or_true, if_pos rfl]
  next attempts =>
  rw [if_neg (by simp [some_missing, attempts])]
  simp only at unapplied
  split at unapplied
  · next empty =>
    rw [List.isEmpty_iff] at empty
    rw [empty]
    unfold appendable
    split <;> rfl
  · next some_contract =>
    cases planned : rows.run.plan with
    | none =>
      rw [gapContracts_unplanned planned] at some_contract
      exact absurd rfl some_contract
    | some plan =>
      exact appendCapabilityReplan_room unapplied (by rw [planned]; rfl) charted

lemma gapAppends_noted (noted : Noted settings rows middle)
    (status : middle.run.status = rows.run.status) (question : String) (missing : List String) :
    gapAppends settings question missing middle = gapAppends settings question missing rows := by
  have replans : middle.run.planOrEmpty.criticReplans = rows.run.planOrEmpty.criticReplans := by
    rw [Plan.criticReplans, Plan.criticReplans, noted.planOrEmpty.2.1]
  unfold gapAppends
  rw [gapContracts_noted noted, appendable_noted noted status, replans]

lemma decisionOf_replan (grounded : evidence ≠ [])
    (undenied : investigates settings now review (verifiedRows rows) = true →
      review.contract.isSome = true → review.accessCurrent = true)
    (current : review.sourcesCurrent = true) (unverified : review.verified = false)
    (some_missing : review.missingEvidence ≠ []) :
    decisionOf settings now evidence review rows = .replan := by
  unfold decisionOf
  rw [if_neg, if_pos current]
  · unfold reflectDecision
    have factual : evidence.isEmpty = false := by
      rw [List.isEmpty_eq_false_iff]
      exact grounded
    have missing : review.missingEvidence.isEmpty = false := by
      rw [List.isEmpty_eq_false_iff]
      exact some_missing
    simp [unverified, factual, missing]
  · rintro ⟨asked, proposed, denied⟩
    rw [undenied asked proposed] at denied
    cases denied

lemma gapAppends_missing (some_gap : gapAppends settings question missing rows ≠ []) :
    missing ≠ [] := by
  intro empty
  apply some_gap
  unfold gapAppends
  rw [empty, List.isEmpty_nil, Bool.true_or, if_pos rfl]

lemma published_appended (charted : Charted rows)
    (unappended : investigates settings now review (verifiedRows rows) = true →
      ∀ contract, review.contract = some contract → review.accessCurrent = true →
        appendCapabilityReplan [investigationContract contract] ["DOCUMENT"]
          "knowledge_investigation" (reviewedRows settings now review rows) = .ok none)
    (ungapped : decisionOf settings now evidence review rows = .replan →
      applyGapReplan settings review.question review.missingEvidence
        "critic_verification_failed" (reviewedRows settings now review rows) = .ok none) :
    respondAppended settings now evidence review rows = [] := by
  have reviewed := reviewedRows_reviewed settings now review rows
  have noted := reviewed.noted
  have middleCharted := charted.review reviewed
  unfold respondAppended
  split
  · rfl
  next grounded =>
  rw [List.isEmpty_iff] at grounded
  have gaps : (investigates settings now review (verifiedRows rows) = true →
      review.contract.isSome = true → review.accessCurrent = true) →
      (if review.sourcesCurrent && !review.verified then
        gapAppends settings review.question review.missingEvidence rows else []) = [] := by
    intro undenied
    split
    · next unverified =>
      simp only [Bool.and_eq_true, Bool.not_eq_true'] at unverified
      by_contra some_gap
      have replans := decisionOf_replan grounded undenied unverified.1 unverified.2
        (gapAppends_missing some_gap)
      have empty := applyGapReplan_room (ungapped replans) middleCharted
      rw [gapAppends_noted noted (reviewed_status reviewed)] at empty
      exact some_gap empty
    · rfl
  unfold respondAppends
  simp only
  split
  · next asked =>
    split
    · next unproposed =>
      apply gaps
      intro _ proposed
      rw [unproposed] at proposed
      cases proposed
    · next contract proposed =>
      split
      · next access =>
        have full := appendCapabilityReplan_room (unappended asked contract proposed access)
          (noted.planned (by
            rw [← (verifiedRows_kept rows).plan]
            exact planned_of_investigates asked)) middleCharted
        rwa [appendable_noted noted (reviewed_status reviewed)] at full
      · rfl
  · next unasked => exact gaps fun asked => absurd asked unasked

lemma respond_grounded (open_ : isTerminal rows.run.status = false)
    (requested : rows.run.cancellationRequestedAt.isSome = false)
    (run : respond settings now evidence review rows = .ok (rows', response)) :
    evidence = [] → evidenceFreeResponseAllowed rows.run.planOrEmpty = true := by
  rintro rfl
  unfold respond at run
  rw [if_neg (by rw [open_]; exact Bool.false_ne_true),
    if_neg (by rw [requested]; exact Bool.false_ne_true)] at run
  simp only at run
  split at run
  · cases run
  next grounded => simpa using grounded

lemma decisionOf_chosen (chosen : decisionOf settings now evidence review rows = .replan) :
    review.sourcesCurrent = true ∧ review.verified = false ∧
      (evidenceFreeResponseAllowed rows.run.planOrEmpty && evidence.isEmpty) = false := by
  unfold decisionOf at chosen
  split at chosen
  · cases chosen
  split at chosen
  · next current => exact ⟨current, reflectDecision_replan chosen⟩
  cases chosen

lemma replanned_appended {replanned : Bool} (charted : Charted rows)
    (grounded : evidence = [] → evidenceFreeResponseAllowed rows.run.planOrEmpty = true)
    (concluded : Concluded settings now evidence review rows rows' (.returned replanned)) :
    respondAppended settings now evidence review rows ≠ [] := by
  have reviewed := reviewedRows_reviewed settings now review rows
  cases concluded with
  | investigated contract replanned asked access proposed run =>
    obtain ⟨verifyStep, respondStep, appended⟩ := appendCapabilityReplan_appended run
    have factual : evidence ≠ [] := by
      intro empty
      have allowed := grounded empty
      have route : (verifiedRows rows).run.planOrEmpty.route = "KNOWLEDGE" := by
        simp only [investigates, Bool.and_eq_true, decide_eq_true_eq] at asked
        exact asked.1.1.1.1.1.1.1.1
      rw [(verifiedRows_kept rows).planOrEmpty] at route
      simp [evidenceFreeResponseAllowed, route] at allowed
    have recorded : reviewedRows settings now review rows
        = recordedRows (lastOfKind .reflect rows.steps) (verifiedRows rows) := if_pos asked
    rw [recorded] at appended
    rw [respondAppended, if_neg (by simpa using factual),
      respondAppends_investigated asked access proposed appended]
    exact List.cons_ne_nil _ _
  | gap replanned uninvestigated chosen run =>
    obtain ⟨bound, some_missing, verifyStep, respondStep, appended⟩ :=
      applyGapReplan_appended run
    obtain ⟨current, unverified, unfree⟩ := decisionOf_chosen chosen
    have factual : evidence ≠ [] := by
      intro empty
      rw [grounded empty, empty] at unfree
      cases unfree
    have eq := gapAppends_eq reviewed.noted (reviewed_status reviewed) bound some_missing appended
    rw [respondAppended, if_neg (by simpa using factual),
      respondAppends_gap charted ⟨current, unverified⟩ uninvestigated, eq]
    exact appended.some_contract

lemma respond_spends (charted : Charted rows)
    (grounded : evidence = [] → evidenceFreeResponseAllowed rows.run.planOrEmpty = true)
    (concluded : Concluded settings now evidence review rows rows' response) :
    Spends (respondStarts settings now evidence review rows) rows.run rows'.run := by
  have reviewed := reviewedRows_reviewed settings now review rows
  have spends : Spends _ rows.run (reviewedRows settings now review rows).run :=
    reviewed_spends charted
  have middleCharted := charted.review reviewed
  have verifyRow : rowOf (lastOfKind .verify rows.steps) (reviewedRows settings now review rows)
      = (lastOfKind .verify rows.steps).map (·.finished (some "critic.completed")) :=
    reviewed_row_verify charted
  unfold respondStarts
  simp only
  cases concluded with
  | investigated contract replanned asked access proposed run =>
    obtain ⟨verifyStep, respondStep, appended⟩ := appendCapabilityReplan_appended run
    have filled := replanned_appended charted grounded
      (Concluded.investigated contract replanned asked access proposed run)
    have reflectRow : rowOf (lastOfKind .reflect rows.steps) (reviewedRows settings now review rows)
          = (lastOfKind .reflect rows.steps).map fun step =>
            (startCoreStep (verifiedRows rows).run step).2 := by
      rw [reviewed_row_reflect charted, if_pos asked]
    have unstarted : startIds (rowOf (lastOfKind .reflect rows.steps) replanned) = [] := by
      cases located : rowOf (lastOfKind .reflect rows.steps) replanned with
      | none => rfl
      | some step =>
        obtain ⟨object, _, status⟩ := appended.status_of middleCharted reflectRow located
        have started := startIds_started (verifiedRows rows).run (some object)
        simp only [Option.map_some, startIds, ← status] at started ⊢
        split
        · next waits =>
          rw [if_pos waits] at started
          cases started
        · rfl
    have completed : (completeReflectStep (lastOfKind .reflect rows.steps) .replan
        replanned).run = replanned.run.addStarts [] := by
      rw [← unstarted]
      exact finish_run _ _ _
    have verifyQuiet : ∀ step, rowOf (lastOfKind .verify rows.steps)
        (completeReflectStep (lastOfKind .reflect rows.steps) .replan replanned) = some step →
        step.status ≠ .running := by
      intro step located
      have other : rowOf (lastOfKind .verify rows.steps)
          (completeReflectStep (lastOfKind .reflect rows.steps) .replan replanned)
            = rowOf (lastOfKind .verify rows.steps) replanned :=
        rowOf_finish_other (lastOfKind_apart charted (by decide)) _ _
      rw [other] at located
      obtain ⟨object, _, status⟩ := appended.status_of middleCharted verifyRow located
      rw [status]
      exact finished_quiet _ object
    have reflectQuiet : ∀ step, rowOf (lastOfKind .reflect rows.steps)
        (onCoreStep (lastOfKind .verify rows.steps) reopenCoreStep
          (completeReflectStep (lastOfKind .reflect rows.steps) .replan replanned))
            = some step → step.status ≠ .running := by
      intro step located
      rw [rowOf_other reopenCoreStep_change (lastOfKind_apart charted (by decide)),
        completeReflectStep, rowOf_finish] at located
      obtain ⟨object, _, rfl⟩ := Option.map_eq_some_iff.1 located
      exact finished_quiet _ object
    rw [investigatedRows, reopen_run reflectQuiet, reopen_run verifyQuiet,
      List.isEmpty_eq_false_iff.2 filled, Bool.false_or, if_neg Bool.false_ne_true,
      List.nil_append]
    have reflected : Spends [] replanned.run
        (completeReflectStep (lastOfKind .reflect rows.steps) .replan replanned).run := by
      rw [completed]
      exact ⟨rfl, rfl⟩
    exact (spends.trans appended.spends).trans reflected
  | gap replanned uninvestigated chosen run =>
    obtain ⟨_, _, verifyStep, respondStep, appended⟩ := applyGapReplan_appended run
    have filled := replanned_appended charted grounded
      (Concluded.gap replanned uninvestigated chosen run)
    have quiet : ∀ step, rowOf (lastOfKind .verify rows.steps) replanned = some step →
        step.status ≠ .running := by
      intro step located
      obtain ⟨object, _, status⟩ := appended.status_of middleCharted verifyRow located
      rw [status]
      exact finished_quiet _ object
    rw [reopen_run quiet, List.isEmpty_eq_false_iff.2 filled, Bool.false_or, if_neg
      Bool.false_ne_true, List.nil_append]
    exact spends.trans appended.spends
  | published decision rows' unappended ungapped run =>
    have empty := published_appended charted unappended ungapped
    have published := publish_spends (lastOfKind_apart charted (by decide)) run
    rw [reviewed_row_respond charted, reviewed_row_reflect charted] at published
    have total := spends.trans published
    simp only [empty, List.isEmpty_nil, Bool.true_or, if_true]
    by_cases asked : investigates settings now review (verifiedRows rows) = true
    · rw [if_pos asked, if_pos asked, startIds_started, List.append_nil] at total
      rw [List.append_assoc]
      exact total
    · rw [if_neg asked, if_neg asked, List.nil_append] at total
      exact total

/-! ## The other transactions -/

lemma cancel_spends (rows : RunRows) : Spends [] rows.run (cancel rows).run := by
  simp only [cancel]
  split
  · exact Spends.refl rows.run
  exact ⟨rfl, rfl⟩

lemma Touched.spends (touched : Touched rows rows') : Spends [] rows.run rows'.run :=
  ⟨touched.stepCount, touched.starts⟩

lemma cancelRun_spends (now : Time) (rows : RunRows) : Spends [] rows.run (cancelRun now rows).run := by
  unfold cancelRun
  split
  · exact Spends.refl rows.run
  exact ⟨rfl, rfl⟩

lemma settleStep_spends {stepId : Nat} {answer : GatewayAnswer}
    (run : settleStep stepId answer rows = .ok rows') : Spends [] rows.run rows'.run := by
  cases settleStep_settled run with
  | kept | recorded => exact Spends.refl rows.run
  | cancelled => exact cancel_spends rows
  | waiting version active => exact ⟨rfl, rfl⟩

lemma Retried.spends {retry : List Nat} (retried : Retried settings rows rows' retry) :
    Spends [] rows.run rows'.run := by
  rw [retried.run_eq]
  exact ⟨rfl, rfl⟩

lemma Passed.spends {wave : Wave} (passed : Passed now rows rows' wave) :
    ∃ ids, Spends ids rows.run rows'.run ∧
      (ids = [] ∨ rows.run.stepCount + ids.length ≤ rows.run.maxSteps ∧
        (nextWave rows.steps).ready ≠ []) := by
  cases passed with
  | stopped | skipped | done => exact ⟨[], Spends.refl rows.run, Or.inl rfl⟩
  | cancelled open_ requested => exact ⟨[], cancel_spends rows, Or.inl rfl⟩
  | invoked open_ active ready budget =>
    refine ⟨(nextWave rows.steps).ready.map (·.id), ⟨?_, rfl⟩, Or.inr ⟨?_, ready⟩⟩
    · simp
    rw [List.length_map]
    exact budget

def preparationCount (steps : List RunStep) : Nat :=
  steps.countP fun step => step.kind ∈ preludeKinds

lemma preparationCount_shapes (steps : List RunStep) :
    preparationCount steps = (shapes steps).countP fun shape => shape.kind ∈ preludeKinds := by
  unfold preparationCount shapes
  rw [List.countP_map]
  rfl

lemma preparationCount_planned (charted : Charted rows) (planned : rows.run.plan.isSome = true) :
    preparationCount rows.steps = 3 := by
  obtain ⟨capabilities, verify, reflect, respond, outlined⟩ := charted.outlined planned
  obtain ⟨prelude, split, kinds⟩ := outlined.split
  obtain ⟨verifyKind, reflectKind, respondKind⟩ := outlined.coreKinds
  have early : (prelude.countP fun shape => shape.kind ∈ preludeKinds) = 3 := by
    have counted : (prelude.countP fun shape => shape.kind ∈ preludeKinds)
        = (prelude.map (·.kind)).countP fun kind => kind ∈ preludeKinds := by
      rw [List.countP_map]
      rfl
    rw [counted, kinds]
    rfl
  have middle : (capabilities.countP fun shape => shape.kind ∈ preludeKinds) = 0 := by
    rw [List.countP_eq_zero]
    intro shape mem
    rw [outlined.capabilityKinds shape mem]
    decide
  rw [preparationCount_shapes, split, List.countP_append, List.countP_append, early, middle]
  simp [verifyKind, reflectKind, respondKind, preludeKinds]

section
variable (running : rows.run.status = .running) (error : ObsionError)
include running error

lemma appendCapabilityReplan_running :
    appendCapabilityReplan contracts missing reason rows ≠ .error error := by
  intro failed
  unfold appendCapabilityReplan at failed
  rw [running] at failed
  split at failed
  · split at failed
    · cases failed
    cases failed
  · cases failed

lemma applyGapReplan_running :
    applyGapReplan settings question missing reason rows ≠ .error error := by
  intro failed
  unfold applyGapReplan at failed
  split at failed
  · cases failed
  split at failed
  · cases failed
  simp only at failed
  split at failed
  · cases failed
  exact appendCapabilityReplan_running running error failed

lemma publish_running :
    publish reflectStep respondStep decision answerArtifactId rows ≠ .error error := by
  intro failed
  have status : (onCoreStep respondStep startCoreStep
      (completeReflectStep reflectStep decision rows)).run.status = .running := by
    rw [startCoreStep_change.status, completeReflectStep_status, running]
  unfold publish at failed
  simp only at failed
  rw [status] at failed
  cases failed

lemma conclude_running {verifyStep : Option RunStep} :
    conclude settings review verifyStep reflectStep respondStep decision rows ≠ .error error := by
  intro failed
  have finished : ∀ decision,
      (publish reflectStep respondStep decision review.answerArtifactId rows).map
        (fun published => (published, Response.published review.answerArtifactId))
          ≠ .error error := by
    intro decision mapped
    cases published : publish reflectStep respondStep decision review.answerArtifactId rows with
    | error other => exact publish_running running other published
    | ok after =>
      rw [published] at mapped
      cases mapped
  unfold conclude at failed
  simp only at failed
  split at failed
  · split at failed
    · next other applied => exact applyGapReplan_running running other applied
    · cases failed
    · exact finished .withhold failed
  · exact finished decision failed

end

structure Responds (evidence : List String) (rows : RunRows) : Prop where
  running : rows.run.status = .running
  unrequested : rows.run.cancellationRequestedAt = none
  grounded : evidence = [] → evidenceFreeResponseAllowed rows.run.planOrEmpty = true

lemma Responds.open_ (responds : Responds evidence rows) : isTerminal rows.run.status = false := by
  rw [responds.running]
  rfl

lemma respond_commits (responds : Responds evidence rows) :
    ∃ rows' response, respond settings now evidence review rows = .ok (rows', response) := by
  cases run : respond settings now evidence review rows with
  | ok committed => exact ⟨committed.1, committed.2, rfl⟩
  | error error =>
    exfalso
    have verified : (verifiedRows rows).run.status = .running :=
      (verifiedRows_status rows).trans responds.running
    unfold respond at run
    rw [if_neg (by rw [responds.open_]; exact Bool.false_ne_true),
      if_neg (by rw [responds.unrequested]; exact Bool.false_ne_true)] at run
    simp only at run
    split at run
    · next empty =>
      simp only [Bool.and_eq_true, List.isEmpty_iff, Bool.not_eq_true'] at empty
      rw [responds.grounded empty.1, empty.1] at empty
      cases empty.2
    have recorded : (recordedRows (lastOfKind .reflect rows.steps)
        (verifiedRows rows)).run.status = .running :=
      (startCoreStep_change.status (lastOfKind .reflect rows.steps) _).trans verified
    split at run
    · split at run
      · next other investigated =>
        unfold investigate at investigated
        simp only at investigated
        split at investigated
        · cases investigated
        split at investigated
        · cases investigated
        split at investigated
        · next failed => exact appendCapabilityReplan_running recorded _ failed
        · cases investigated
        · cases investigated
      · cases run
      · next middle decision investigated =>
        have eq : middle = recordedRows (lastOfKind .reflect rows.steps)
            (verifiedRows rows) := by
          unfold investigate at investigated
          simp only at investigated
          repeat' split at investigated
          all_goals cases investigated
          all_goals rfl
        rw [← eq] at recorded
        exact conclude_running recorded error run
    · exact conclude_running verified error run

lemma Concluded.running (concluded : Concluded settings now evidence review rows rows' response) :
    rows.run.status = .running := by
  have status := reviewed_status (reviewedRows_reviewed settings now review rows)
  rw [← status]
  cases concluded with
  | investigated contract replanned asked access proposed run =>
    obtain ⟨verifyStep, respondStep, appended⟩ := appendCapabilityReplan_appended run
    exact appended.running
  | gap replanned uninvestigated chosen run =>
    obtain ⟨_, _, verifyStep, respondStep, appended⟩ := applyGapReplan_appended run
    exact appended.running
  | published decision rows' unappended ungapped run => exact (publish_status run).1

def Preparation.isClarify : Preparation → Bool
  | .clarify _ => true
  | .plan _ _ => false

def Prepares (preparation : Preparation) (rows : RunRows) : Prop :=
  isTerminal rows.run.status = false ∧ rows.run.plan = none ∧ rows.run.cancellationRequestedAt = none ∧
    (preparation.isClarify = true → rows.run.status = .running)

lemma RowsStep.noted_of_unplanned {flag : Bool} (charted : Charted world.rows)
    (step : RowsStep settings world action rows' flag) (unplanned : world.rows.run.plan = none)
    (unprepared : ∀ index preparation attachments,
      action ≠ .prepare index preparation attachments) : Noted settings world.rows rows' := by
  have absent : ∀ kind, kind ∉ [StepKind.observe, .understand] →
      ∀ step ∈ world.rows.steps, step.kind ≠ kind := by
    intro kind late step mem eq
    have planned := charted.planned_of_mem mem (eq ▸ late)
    rw [unplanned] at planned
    cases planned
  have unappended : ∀ {contracts missing reason middle replanned} {verifyStep respondStep : RunStep},
      Charted middle → middle.run.plan = none →
      Appended contracts missing reason middle replanned verifyStep respondStep → False := by
    intro contracts missing reason middle replanned verifyStep respondStep middleCharted none
      appended
    obtain ⟨mem, kind⟩ := lastOfKind_some appended.verify
    have planned := middleCharted.planned_of_mem mem (by rw [kind]; decide)
    rw [none] at planned
    cases planned
  cases step with
  | same => exact (Kept.refl _).noted
  | claimed workerId claimed run => exact (claim_touched run).kept.noted
  | prepared index preparation attachments => exact absurd rfl (unprepared _ _ _)
  | passed index rows' wave run => exact (executeSteps_passed run).kept.noted
  | settled index jobIndex stepId answer rows' eq run => exact (settleStep_kept run).noted
  | retried index rows' retry retried =>
    obtain ⟨step, mem, failed, _⟩ := retried.failure
    simp only [retryable, Bool.and_eq_true, decide_eq_true_eq] at failed
    exact absurd failed.1.1.1.1 (absent _ (by decide) step mem)
  | filled index question missing rows' run =>
    obtain ⟨_, _, verifyStep, respondStep, appended⟩ := applyGapReplan_appended run
    exact (unappended charted unplanned appended).elim
  | responded index review rows' response run =>
    have unasked : ∀ review, ¬ investigates settings world.now review
        (verifiedRows world.rows) = true := by
      intro review asked
      have planned := planned_of_investigates asked
      rw [(verifiedRows_kept world.rows).plan, unplanned] at planned
      cases planned
    cases respond_responded run with
    | idle terminal => exact (Kept.refl _).noted
    | cancelled open_ requested => exact (cancel_kept _).noted
    | published open_ middle after reviewed decision published =>
      exact reviewed.noted.keep (publish_kept published)
    | gap requested middle replanned reviewed grounded chosen uninvestigated applied =>
      obtain ⟨_, _, verifyStep, respondStep, appended⟩ := applyGapReplan_appended applied
      cases reviewed with
      | recorded asked => exact absurd asked (unasked _)
      | verified =>
        exact (unappended (charted.keep (verifiedRows_kept _))
          ((verifiedRows_kept _).plan.trans unplanned) appended).elim
    | investigated requested contract replanned asked => exact absurd asked (unasked _)
  | cancelled => exact (cancel_kept _).noted
  | failed index code => exact (fail_touched code _).kept.noted
  | decided principal access approvalId approve approvals rows' run => exact (decide_touched run).kept.noted
  | answered access clarificationId rows' run => exact (answer_touched run).kept.noted
  | stopped => exact (cancelRun_kept world.now _).noted
  | requested service => exact Kept.noted ⟨rfl, rfl, rfl⟩

inductive MoveStarts (settings : Settings) (world : World) : Action → List Nat → Prop
  | idle (action : Action) (idle : ∀ index review, action = .respond index review →
      ¬ Responds world.evidence world.rows) : MoveStarts settings world action []
  | wave (index : Nat) (ids : List Nat) (ready : (nextWave world.rows.steps).ready ≠ [])
      (budget : world.rows.run.stepCount + ids.length ≤ world.rows.run.maxSteps) :
      MoveStarts settings world (.executeSteps index) ids
  | answer (index : Nat) (review : Review) (responds : Responds world.evidence world.rows) :
      MoveStarts settings world (.respond index review)
        (respondStarts settings world.now world.evidence review world.rows)

lemma respond_moveStarts {index : Nat} {execution : Execution} (charted : Charted world.rows) :
    ∃ ids, MoveStarts settings world (.respond index review) ids ∧
      Spends ids world.rows.run (world.respond settings index execution review).rows.run := by
  by_cases responds : Responds world.evidence world.rows
  · obtain ⟨rows', response, run⟩ : ∃ rows' response,
        Harness.respond settings world.now world.evidence review world.rows
          = .ok (rows', response) := respond_commits responds
    have spends := respond_spends charted responds.grounded (respond_concluded responds.open_
      (by rw [responds.unrequested]; rfl) run)
    have rows : (world.respond settings index execution review).rows = rows' := by
      unfold World.respond
      rw [run]
      cases response with
      | returned replanned => cases replanned <;> rfl
      | published answerArtifactId => rfl
    rw [rows]
    exact ⟨_, MoveStarts.answer index review responds, spends⟩
  · have idle : MoveStarts settings world (.respond index review) [] := by
      apply MoveStarts.idle
      intro _ _ _ again
      exact responds again
    refine ⟨[], idle, ?_⟩
    have still : ∀ rows' response, Harness.respond settings world.now world.evidence review world.rows
          = .ok (rows', response) → Spends [] world.rows.run rows'.run := by
      intro rows' response run
      cases terminal : isTerminal world.rows.run.status with
      | true =>
        unfold respond at run
        rw [if_pos terminal] at run
        cases run
        exact Spends.refl _
      | false =>
        cases requested : world.rows.run.cancellationRequestedAt with
        | some time =>
          unfold respond at run
          rw [if_neg (by rw [terminal]; exact Bool.false_ne_true),
            if_pos (by rw [requested]; rfl)] at run
          cases run
          exact cancel_spends _
        | none =>
          have concluded := respond_concluded terminal (by rw [requested]; rfl) run
          exact absurd ⟨concluded.running, requested,
            respond_grounded terminal (by rw [requested]; rfl) run⟩ responds
    unfold World.respond
    split
    · exact Spends.refl _
    · next rows' run => exact still rows' _ run
    · next rows' run => exact still rows' _ run
    · next rows' answerArtifactId run => exact still rows' _ run

lemma act_moveStarts (charted : Charted world.rows)
    (run : act settings world action = some world') (unprepared : ∀ index preparation attachments,
      action ≠ .prepare index preparation attachments) :
    ∃ ids, MoveStarts settings world action ids ∧ Spends ids world.rows.run world'.rows.run := by
  by_cases answers : ∃ index review, action = .respond index review
  · obtain ⟨index, review, rfl⟩ := answers
    obtain ⟨execution, _, rfl⟩ := Option.map_eq_some_iff.1 run
    exact respond_moveStarts charted
  · have idle : MoveStarts settings world action [] := by
      apply MoveStarts.idle
      intro index review eq
      exact absurd ⟨index, review, eq⟩ answers
    obtain ⟨flag, step, _⟩ := act_rows run
    generalize world'.rows = after at step ⊢
    cases step with
    | same => exact ⟨[], idle, Spends.refl _⟩
    | claimed workerId claimed taken => exact ⟨[], idle, (claim_touched taken).spends⟩
    | prepared index preparation attachments => exact absurd rfl (unprepared _ _ _)
    | passed index rows' wave taken =>
      obtain ⟨ids, spends, empty | ⟨budget, ready⟩⟩ := (executeSteps_passed taken).spends
      · exact ⟨[], idle, empty ▸ spends⟩
      exact ⟨ids, MoveStarts.wave index ids ready budget, spends⟩
    | settled index jobIndex stepId answer rows' eq taken =>
      exact ⟨[], idle, settleStep_spends taken⟩
    | retried index rows' retry retried => exact ⟨[], idle, retried.spends⟩
    | filled index question missing rows' taken =>
      obtain ⟨_, _, verifyStep, respondStep, appended⟩ := applyGapReplan_appended taken
      exact ⟨[], idle, appended.spends⟩
    | responded index review rows' response taken => exact absurd ⟨index, review, rfl⟩ answers
    | cancelled => exact ⟨[], idle, cancel_spends _⟩
    | failed index code => exact ⟨[], idle, (fail_touched code _).spends⟩
    | decided principal access approvalId approve approvals rows' taken =>
      exact ⟨[], idle, (decide_touched taken).spends⟩
    | answered access clarificationId rows' taken => exact ⟨[], idle, (answer_touched taken).spends⟩
    | stopped => exact ⟨[], idle, cancelRun_spends world.now _⟩
    | requested service => exact ⟨[], idle, ⟨rfl, rfl⟩⟩

structure Metered (rows : RunRows) : Prop where
  counted : rows.run.stepCount = preparationCount rows.steps + rows.run.starts.length
  unstarted : rows.run.plan = none → rows.run.starts = []

def preparationStarts : Preparation → Nat
  | .clarify _ => 2
  | .plan _ _ => 3

lemma MoveStarts.unplanned (starts : MoveStarts settings world action ids) (sound : Sound world)
    (unplanned : world.rows.run.plan = none) : ids = [] := by
  have absent : ∀ kind, kind ∉ [StepKind.observe, .understand] →
      ∀ step ∈ world.rows.steps, step.kind ≠ kind := by
    intro kind late step mem eq
    have planned := sound.charted.planned_of_mem mem (eq ▸ late)
    rw [unplanned] at planned
    cases planned
  cases starts with
  | idle => rfl
  | wave index ids ready budget =>
    obtain ⟨step, mem⟩ := List.exists_mem_of_ne_nil _ ready
    obtain ⟨isStep, _, kind⟩ := mem_ready mem
    exact absurd kind (absent _ (by decide) step isStep)
  | answer index review responds =>
    have missing : ∀ kind, kind ∉ [StepKind.observe, .understand] →
        startIds (lastOfKind kind world.rows.steps) = [] := by
      intro kind late
      rw [lastOfKind_none.2 (absent kind late)]
      rfl
    unfold respondStarts
    rw [missing .respond (by decide), missing .reflect (by decide), missing .verify (by decide)]
    simp

lemma preparationCount_unplanned (charted : Charted rows) (unplanned : rows.run.plan = none) :
    preparationCount rows.steps ≤ 2 := by
  cases charted with
  | planned some =>
    rw [unplanned] at some
    cases some
  | unplanned none steps =>
    rw [preparationCount_shapes]
    rcases steps with empty | clarified
    · rw [empty]
      decide
    rw [clarified]
    decide

lemma Prepared.metered (charted : Charted rows) (metered : Metered rows)
    (prepared : Prepared rows rows') : Metered rows' := by
  have redrawn := charted.prepare prepared
  have counted := metered.counted
  cases prepared with
  | kept rows' idle =>
    rcases idle with rfl | rfl
    · exact metered
    have spends := cancel_spends rows
    have kept := cancel_kept rows
    refine ⟨?_, ?_⟩
    · rw [preparationCount_shapes, kept.steps, ← preparationCount_shapes, spends.stepCount,
        spends.starts]
      exact counted
    · intro unplanned
      rw [spends.starts]
      exact metered.unstarted (kept.plan.symm.trans unplanned)
  | asked clarification rows' open_ unplanned running steps run_eq =>
    have none_started := metered.unstarted unplanned
    have few := preparationCount_unplanned charted unplanned
    have shapes_eq : shapes rows'.steps = clarifiedShapes := by
      rw [steps]
      cases charted with
      | planned some =>
        rw [unplanned] at some
        cases some
      | unplanned none early =>
        have eq := ensurePreparationSteps_shapes false early
        rwa [if_neg Bool.false_ne_true] at eq
    have two : preparationCount rows'.steps = 2 := by
      rw [preparationCount_shapes, shapes_eq]
      decide
    have starts : rows'.run.starts = rows.run.starts := by
      rw [run_eq]
      rfl
    have stepCount : rows'.run.stepCount = max rows.run.stepCount 2 := by
      rw [run_eq]
      rfl
    rw [none_started, List.length_nil] at counted
    refine ⟨?_, fun _ => starts.trans none_started⟩
    rw [stepCount, starts, none_started, two, List.length_nil]
    omega
  | planned plan availableCapabilities rows' open_ unplanned steps run_eq =>
    have none_started := metered.unstarted unplanned
    have few := preparationCount_unplanned charted unplanned
    have three : preparationCount rows'.steps = 3 :=
      preparationCount_planned redrawn (by rw [run_eq]; rfl)
    have starts : rows'.run.starts = rows.run.starts := by
      rw [run_eq]
      rfl
    have stepCount : rows'.run.stepCount = max rows.run.stepCount 3 := by
      rw [run_eq]
      rfl
    rw [none_started, List.length_nil] at counted
    refine ⟨?_, fun _ => starts.trans none_started⟩
    rw [stepCount, starts, none_started, three, List.length_nil]
    omega

lemma act_metered (sound : Sound world) (metered : Metered world.rows)
    (run : act settings world action = some world') : Metered world'.rows := by
  by_cases prepares : ∃ index preparation attachments, action = .prepare index preparation attachments
  · obtain ⟨index, preparation, attachments, rfl⟩ := prepares
    obtain ⟨execution, _, rfl⟩ := Option.map_eq_some_iff.1 run
    split
    · exact metered
    next rows prepared => exact (prepare_prepared prepared).metered sound.charted metered
  · have unprepared : ∀ index preparation attachments,
        action ≠ .prepare index preparation attachments := by
      intro index preparation attachments eq
      exact prepares ⟨index, preparation, attachments, eq⟩
    obtain ⟨ids, starts, spends⟩ := act_moveStarts sound.charted run unprepared
    obtain ⟨flag, step, _⟩ := act_rows run
    have redrawn := sound.charted.step step
    have counted := metered.counted
    cases plan : world.rows.run.plan with
    | some plan =>
      have planned : world.rows.run.plan.isSome = true := by rw [plan]; rfl
      have after := (step.drawn sound.charted).ceiling planned
      refine ⟨?_, ?_⟩
      · rw [preparationCount_planned redrawn after.1, spends.stepCount, spends.starts,
          List.length_append]
        rw [preparationCount_planned sound.charted planned] at counted
        omega
      · intro unplanned
        rw [unplanned] at after
        cases after.1
    | none =>
      have noted := step.noted_of_unplanned sound.charted plan unprepared
      have none_new := starts.unplanned sound plan
      rw [none_new] at spends
      refine ⟨?_, ?_⟩
      · rw [preparationCount_shapes, noted.steps, ← preparationCount_shapes, spends.stepCount,
          spends.starts]
        exact counted
      · intro _
        rw [spends.starts]
        exact metered.unstarted plan

/-! ## The condition -/

/-- The move leaves `step_count` within `max_steps`: a preparation and an answer start
no more steps than the budget still has. -/
def LeavesRoom (settings : Settings) (move : Move World Timed) : Prop :=
  let world := move.before.tick move.action.elapsed
  match move.action.action with
  | .prepare _ preparation _ =>
    Prepares preparation world.rows → preparationStarts preparation ≤ world.rows.run.maxSteps
  | .respond _ review =>
    Responds world.evidence world.rows → world.rows.run.stepCount
        + (respondStarts settings world.now world.evidence review world.rows).length
          ≤ world.rows.run.maxSteps
  | _ => True

instance (preparation : Preparation) (rows : RunRows) : Decidable (Prepares preparation rows) :=
  decidable_of_iff
    (isTerminal rows.run.status = false ∧ rows.run.plan.isNone = true ∧
      rows.run.cancellationRequestedAt = none ∧
      (preparation.isClarify = true → rows.run.status = .running))
    (by rw [Option.isNone_iff_eq_none]; rfl)

instance (evidence : List String) (rows : RunRows) : Decidable (Responds evidence rows) :=
  decidable_of_iff
    (rows.run.status = .running ∧ rows.run.cancellationRequestedAt = none ∧
      (evidence = [] → evidenceFreeResponseAllowed rows.run.planOrEmpty = true))
    ⟨fun parts => ⟨parts.1, parts.2.1, parts.2.2⟩,
      fun responds => ⟨responds.running, responds.unrequested, responds.grounded⟩⟩

instance (settings : Settings) (move : Move World Timed) : Decidable (LeavesRoom settings move) := by
  unfold LeavesRoom
  cases move.action.action <;> infer_instance

def WithinBudget (world : World) : Prop := world.rows.run.stepCount ≤ world.rows.run.maxSteps

lemma prepare_counts (prepares : Prepares preparation rows) :
    ∃ rows', prepare preparation rows = .ok rows' ∧
      rows'.run.stepCount = max rows.run.stepCount (preparationStarts preparation) ∧
        rows'.run.maxSteps = rows.run.maxSteps := by
  obtain ⟨open_, unplanned, unrequested, clarifies⟩ := prepares
  unfold prepare
  rw [if_neg (by simp [open_, unplanned]), if_neg (by simp [unrequested])]
  cases preparation with
  | plan plan availableCapabilities => exact ⟨_, rfl, rfl, rfl⟩
  | clarify clarification =>
    simp only
    rw [clarifies rfl]
    exact ⟨_, rfl, rfl, rfl⟩

lemma prepare_idle (idle : ¬ Prepares preparation rows) (run : prepare preparation rows = .ok rows') :
    rows'.run.stepCount = rows.run.stepCount ∧ rows'.run.maxSteps = rows.run.maxSteps := by
  unfold prepare at run
  split at run
  · cases run
    exact ⟨rfl, rfl⟩
  next active =>
  simp only [Bool.or_eq_true, not_or, Bool.not_eq_true, Option.isSome_eq_false_iff,
    Option.isNone_iff_eq_none] at active
  split at run
  · cases run
    exact ⟨(cancel_spends rows).stepCount, (cancel_kept rows).maxSteps⟩
  next unrequested =>
  simp only [Bool.not_eq_true, Option.isSome_eq_false_iff, Option.isNone_iff_eq_none] at unrequested
  split at run
  · next clarification =>
    split at run
    · cases run
    next allowed =>
    have running := running_of_allowed (validateRunTransition_ok allowed) (by simp)
    exact absurd ⟨active.1, active.2, unrequested, fun _ => running⟩ idle
  · next plan availableCapabilities =>
    refine absurd ⟨active.1, active.2, unrequested, ?_⟩ idle
    intro clarifies
    cases clarifies

lemma act_maxSteps (charted : Charted world.rows) (run : act settings world action = some world') :
    world'.rows.run.maxSteps = world.rows.run.maxSteps := by
  by_cases prepares : ∃ index preparation attachments, action = .prepare index preparation attachments
  · obtain ⟨index, preparation, attachments, rfl⟩ := prepares
    obtain ⟨execution, _, rfl⟩ := Option.map_eq_some_iff.1 run
    split
    · rfl
    next rows' prepared =>
    by_cases writes : Prepares preparation world.rows
    · obtain ⟨after, eq, _, maxSteps⟩ := prepare_counts writes
      rw [prepared] at eq
      cases eq
      exact maxSteps
    · exact (prepare_idle writes prepared).2
  · obtain ⟨flag, step, _⟩ := act_rows run
    cases plan : world.rows.run.plan with
    | none =>
      have noted := step.noted_of_unplanned charted plan fun index preparation attachments eq =>
        prepares ⟨index, preparation, attachments, eq⟩
      exact noted.maxSteps
    | some planned =>
      cases step.drawn charted with
      | noted _ noted => exact noted.maxSteps
      | planned _ _ _ unplanned =>
        rw [plan] at unplanned
        cases unplanned
      | clarified _ unplanned =>
        rw [plan] at unplanned
        cases unplanned
      | retried _ retry retried => exact retried.counters.1
      | appended middle replanned _ missing reason verifyStep respondStep noted _ why appended
          kept =>
          rw [kept.maxSteps, appended.counters.1, noted.maxSteps]

lemma perform_budget {timed : Timed} (charted : Charted world.rows)
    (run : perform settings world timed = some world') (within : WithinBudget world) :
    WithinBudget world' ↔ LeavesRoom settings ⟨world, timed, world'⟩ := by
  obtain ⟨elapsed, action⟩ := timed
  have ticked : Charted (world.tick elapsed).rows := charted
  have tickedWithin : (world.tick elapsed).rows.run.stepCount
      ≤ (world.tick elapsed).rows.run.maxSteps := within
  have maxSteps := act_maxSteps ticked run
  unfold WithinBudget
  by_cases prepares : ∃ index preparation attachments, action = .prepare index preparation attachments
  · obtain ⟨index, preparation, attachments, rfl⟩ := prepares
    obtain ⟨execution, _, eq⟩ := Option.map_eq_some_iff.1 run
    simp only [LeavesRoom]
    by_cases writes : Prepares preparation (world.tick elapsed).rows
    · obtain ⟨rows', prepared, stepCount, _⟩ := prepare_counts writes
      simp only [prepared] at eq
      have rows : world'.rows = rows' := by rw [← eq]; rfl
      rw [maxSteps, rows, stepCount]
      constructor
      · intro room _
        omega
      intro room
      have enough := room writes
      omega
    · have still : world'.rows.run.stepCount = (world.tick elapsed).rows.run.stepCount := by
        rw [← eq]
        split
        · rfl
        next rows' prepared => exact (prepare_idle writes prepared).1
      rw [maxSteps, still]
      exact ⟨fun _ written => absurd written writes, fun _ => tickedWithin⟩
  · have unprepared : ∀ index preparation attachments,
        action ≠ .prepare index preparation attachments := by
      intro index preparation attachments eq
      exact prepares ⟨index, preparation, attachments, eq⟩
    obtain ⟨ids, starts, spends⟩ := act_moveStarts ticked run unprepared
    rw [maxSteps, spends.stepCount]
    cases starts with
    | idle action unanswered =>
      rw [List.length_nil, Nat.add_zero]
      refine ⟨fun _ => ?_, fun _ => tickedWithin⟩
      cases action with
      | respond index review =>
        intro responds
        exact absurd responds (unanswered index review rfl)
      | prepare index preparation attachments => exact absurd rfl (unprepared _ _ _)
      | _ => trivial
    | wave index ids ready budget => exact ⟨fun _ => trivial, fun _ => budget⟩
    | answer index review responds =>
      exact ⟨fun room _ => room, fun room => room responds⟩

lemma created_metered (initial : Created world) : Metered world.rows ∧ WithinBudget world := by
  obtain ⟨maxSteps, timeoutSeconds, createdBy, modelProfileId, now, rfl⟩ := initial
  exact ⟨⟨rfl, fun _ => rfl⟩, Nat.zero_le _⟩

/-- In every run: `step_count` stays within `max_steps` in every state exactly where
each preparation and each answer leaves room for what it starts; and it is always the
number of preparation steps and of the starts that were not undone. -/
theorem harness_metered {settings : Settings} {start world : World}
    {moves : List (Move World Timed)} (initial : Created start)
    (path : Path (harness settings) start moves world) :
    ((∀ move ∈ moves, WithinBudget move.after) ↔ ∀ move ∈ moves, LeavesRoom settings move) ∧
      world.rows.run.stepCount
        = preparationCount world.rows.steps + world.rows.run.starts.length := by
  obtain ⟨metered, within⟩ := created_metered initial
  have sound : Sound start := by
    obtain ⟨maxSteps, timeoutSeconds, createdBy, modelProfileId, now, rfl⟩ := initial
    exact created_sound
  have invariant : (fun state => Sound state ∧ Metered state.rows) world := by
    apply path.preserved
    · intro before timed after holds step
      have ticked : Sound (before.tick timed.elapsed) :=
        ⟨holds.1.charted, holds.1.prelude, holds.1.invoking⟩
      exact ⟨holds.1.step step, act_metered ticked holds.2 step⟩
    · exact ⟨sound, metered⟩
  refine ⟨path.forall_iff (fun world => Charted world.rows ∧ WithinBudget world)
    (fun before timed after holds step => ?_) ⟨sound.charted, within⟩, invariant.2.counted⟩
  have budget := perform_budget holds.1 step holds.2
  exact ⟨budget, fun room => ⟨perform_charted holds.1 step, budget.2 room⟩⟩

def sampleReview : Review :=
  { sourcesCurrent := true, verified := true, missingEvidence := [], investigationReason := none
    contract := none, accessCurrent := true, question := "why do orders fail"
    answerArtifactId := "answer-1" }

def answeredActions : List Action :=
  sampleActions ++ retriedActions ++
    [.gateway 0 0 ⟨none, 7, .completed "evidence-2"⟩, .settle 0 0, .executeSteps 0,
     .replanTransient 0, .replanMissing 0 "why do orders fail" [], .respond 0 sampleReview]

/-- Eight steps fit in the budget of eight; with one of them retried the answer starts a
ninth. -/
theorem harness_exceeds :
    ∃ world, Reachable (harness sampleSettings) world ∧ world.rows.run.status = .completed ∧
      world.rows.run.stepCount = 9 ∧ ¬ WithinBudget world := by
  obtain ⟨moves, world, run, status, stepCount, maxSteps⟩ :
      ∃ (moves : List (Move World Timed)) (world : World),
        replay (perform sampleSettings) (created 8 600 sampleUser none 0)
          (answeredActions.map (Timed.mk 0)) = some (moves, world) ∧
        world.rows.run.status = .completed ∧ world.rows.run.stepCount = 9 ∧
        world.rows.run.maxSteps = 8 :=
    ⟨_, _, rfl, rfl, rfl, rfl⟩
  refine ⟨world, (Path.of_replay run).reachable ⟨8, 600, sampleUser, none, 0, rfl⟩, status,
    stepCount, ?_⟩
  unfold WithinBudget
  rw [stepCount, maxSteps]
  decide

theorem harness_metered_answer : ∃ (moves : List (Move World Timed)) (world : World),
      Path (harness sampleSettings) (created 9 600 sampleUser none 0) moves world ∧
        (∀ move ∈ moves, WithinBudget move.after) ∧ world.rows.run.status = .completed ∧
        world.rows.run.stepCount
          = preparationCount world.rows.steps + world.rows.run.starts.length := by
  obtain ⟨moves, world, run, status, roomy⟩ : ∃ (moves : List (Move World Timed)) (world : World),
        replay (perform sampleSettings) (created 9 600 sampleUser none 0)
          (answeredActions.map (Timed.mk 0)) = some (moves, world) ∧
        world.rows.run.status = .completed ∧
        (moves.all fun move => LeavesRoom sampleSettings move) = true :=
    ⟨_, _, rfl, rfl, rfl⟩
  have path : Path (harness sampleSettings) (created 9 600 sampleUser none 0) moves world :=
    Path.of_replay run
  have metered := harness_metered ⟨9, 600, sampleUser, none, 0, rfl⟩ path
  have room : ∀ move ∈ moves, LeavesRoom sampleSettings move := by
    intro move member
    exact of_decide_eq_true (List.all_eq_true.1 roomy move member)
  exact ⟨moves, world, path, metered.1.2 room, status, metered.2⟩

end Obsion.Harness
