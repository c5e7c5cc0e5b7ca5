import Obsion.Harness.Frames

/-! # The step graph

`Outlined` is the shape of the steps of a planned Run: the three preparation
steps, the capability steps, and VERIFY, REFLECT and RESPOND behind them, with
ordinals from one and every dependency on an earlier ordinal.  `_prepare` draws
it, `_append_capability_replan` redraws it with more capability steps, and every
other transaction keeps it. -/

namespace Obsion.Harness

open Obsion.Lib

structure Outlined (steps capabilities : List StepShape) (verify reflect respond : StepShape) :
    Prop where
  split : ∃ prelude, steps = prelude ++ capabilities ++ [verify, reflect, respond] ∧
    prelude.map (·.kind) = [.observe, .understand, .plan]
  capabilityKinds : ∀ step ∈ capabilities, step.kind = .capability
  retries : ∀ step ∈ capabilities, step.maxRetries = 1
  coreKinds : verify.kind = .verify ∧ reflect.kind = .reflect ∧ respond.kind = .respond
  ordinals : steps.map (·.ordinal) = List.range' 1 steps.length
  ids : (steps.map (·.id)).Perm (List.range steps.length)
  backward : ∀ step ∈ steps, ∀ dependency ∈ step.dependsOn, 1 ≤ dependency ∧ dependency < step.ordinal
  verifies : ∀ step ∈ capabilities, step.ordinal ∈ verify.dependsOn

/-- The preparation steps of a Run that waits for a clarification. -/
def clarifiedShapes : List StepShape :=
  [⟨0, 1, .observe, [], none, 0⟩, ⟨1, 2, .understand, [1], none, 0⟩]

def preparedShapes : List StepShape := clarifiedShapes ++ [⟨2, 3, .plan, [2], none, 0⟩]

inductive Charted (rows : RunRows) : Prop
  | unplanned (plan : rows.run.plan = none)
      (steps : shapes rows.steps = [] ∨ shapes rows.steps = clarifiedShapes)
  | planned (plan : rows.run.plan.isSome = true) (capabilities : List StepShape)
      (verify reflect respond : StepShape)
      (outlined : Outlined (shapes rows.steps) capabilities verify reflect respond)

lemma Charted.keep {before after : RunRows} (charted : Charted before)
    (kept : Kept before after) : Charted after := by
  cases charted with
  | unplanned plan steps => exact Charted.unplanned (kept.plan.trans plan) (kept.steps ▸ steps)
  | planned plan capabilities verify reflect respond outlined =>
    exact Charted.planned (by rw [kept.plan, plan]) capabilities verify reflect respond
      (kept.steps ▸ outlined)

variable {capabilities : List StepShape} {verify reflect : StepShape} {steps front : List RunStep}
  {left right verifyStep reflectStep respondStep verifyCore reflectCore respondCore : RunStep}
  {rows' : RunRows} {contracts : List NamedContract} {missing : List String} {reason : String}
  {settings : Settings} {now : Time} {world : World}

lemma Outlined.shapes_nodup {steps : List StepShape} {respond : StepShape}
    (outlined : Outlined steps capabilities verify reflect respond) :
    (steps.map (·.ordinal)).Nodup ∧ (steps.map (·.id)).Nodup := by
  constructor
  · rw [outlined.ordinals]
    exact List.nodup_range'
  exact outlined.ids.nodup_iff.2 List.nodup_range

lemma shapes_ordinals (steps : List RunStep) :
    (shapes steps).map (·.ordinal) = steps.map (·.ordinal) := by
  simp [shapes, RunStep.shape, Function.comp_def]

lemma shapes_ids (steps : List RunStep) : (shapes steps).map (·.id) = steps.map (·.id) := by
  simp [shapes, RunStep.shape, Function.comp_def]

lemma nodup_ordinals_of_shapes (nodup : ((shapes steps).map (·.ordinal)).Nodup) :
    (steps.map (·.ordinal)).Nodup :=
  shapes_ordinals steps ▸ nodup

lemma nodup_ids_of_shapes (nodup : ((shapes steps).map (·.id)).Nodup) : (steps.map (·.id)).Nodup :=
  shapes_ids steps ▸ nodup

lemma eq_of_ordinal (nodup : (steps.map (·.ordinal)).Nodup) (leftMember : left ∈ steps)
    (rightMember : right ∈ steps) (eq : left.ordinal = right.ordinal) : left = right :=
  List.inj_on_of_nodup_map nodup leftMember rightMember eq

lemma eq_of_id (nodup : (steps.map (·.id)).Nodup) (leftMember : left ∈ steps)
    (rightMember : right ∈ steps) (eq : left.id = right.id) : left = right :=
  List.inj_on_of_nodup_map nodup leftMember rightMember eq

/-- With distinct ordinals, `status_by_ordinal` is the status of the step. -/
lemma statusByOrdinal_of_mem (nodup : (steps.map (·.ordinal)).Nodup) {step : RunStep}
    (mem : step ∈ steps) : statusByOrdinal steps step.ordinal = some step.status := by
  unfold statusByOrdinal
  cases found : steps.reverse.find? fun other => other.ordinal == step.ordinal with
  | none =>
    have absent := List.find?_eq_none.1 found step (List.mem_reverse.2 mem)
    simp at absent
  | some other =>
    have otherMember := List.mem_reverse.1 (List.mem_of_find?_eq_some found)
    have eq := List.find?_some found
    simp only [beq_iff_eq] at eq
    rw [eq_of_ordinal nodup otherMember mem eq]
    rfl

lemma Outlined.steps_split {respond : StepShape}
    (outlined : Outlined (shapes steps) capabilities verify reflect respond) :
    ∃ front verifyStep reflectStep respondStep,
      steps = front ++ [verifyStep, reflectStep, respondStep] ∧
        verifyStep.shape = verify ∧ reflectStep.shape = reflect ∧ respondStep.shape = respond ∧
        (∃ prelude, shapes front = prelude ++ capabilities ∧
          prelude.map (·.kind) = [.observe, .understand, .plan]) ∧
        front.map (·.ordinal) = List.range' 1 front.length ∧
        verify.ordinal = front.length + 1 ∧ reflect.ordinal = front.length + 2 ∧
        respond.ordinal = front.length + 3 := by
  obtain ⟨prelude, split, kinds⟩ := outlined.split
  obtain ⟨front, tail, rfl, frontShapes, tailShapes⟩ := List.map_eq_append_iff.1 split
  obtain ⟨verifyStep, rest, rfl, verifyShape, restShapes⟩ := List.map_eq_cons_iff.1 tailShapes
  obtain ⟨reflectStep, rest, rfl, reflectShape, restShapes⟩ := List.map_eq_cons_iff.1 restShapes
  obtain ⟨respondStep, rest, rfl, respondShape, restShapes⟩ := List.map_eq_cons_iff.1 restShapes
  obtain rfl := List.map_eq_nil_iff.1 restShapes
  have ordinals : (front ++ [verifyStep, reflectStep, respondStep]).map (·.ordinal)
      = List.range' 1 (front.length + 3) := by
    simpa [shapes, RunStep.shape, Function.comp_def] using outlined.ordinals
  rw [List.map_append, List.range'_1_concat, List.range'_1_concat, List.range'_1_concat,
    List.append_assoc, List.append_assoc] at ordinals
  obtain ⟨frontOrdinals, tailOrdinals⟩ := List.append_inj ordinals (by simp)
  simp only [List.map_cons, List.map_nil, List.cons_append, List.nil_append, List.cons.injEq,
    and_true] at tailOrdinals
  refine ⟨front, verifyStep, reflectStep, respondStep, rfl, verifyShape, reflectShape,
    respondShape, ⟨prelude, frontShapes, kinds⟩, frontOrdinals, ?_⟩
  rw [← verifyShape, ← reflectShape, ← respondShape]
  simp only [RunStep.shape]
  omega

lemma map_mapIdx {α β γ : Type} (change : Nat → α → β) (view : β → γ) (values : List α) :
    (values.mapIdx change).map view = values.mapIdx fun index value => view (change index value) := by
  apply List.ext_getElem
  · simp
  · intro index inLeft inRight
    simp

lemma orderByOrdinal_eq {target : List RunStep} (perm : steps.Perm target)
    (sorted : (target.map (·.ordinal)).Pairwise (· < ·)) : orderByOrdinal steps = target := by
  have increasing : target.Pairwise fun left right => left.ordinal < right.ordinal :=
    List.pairwise_map.1 sorted
  have nodup : (target.map (·.ordinal)).Nodup := sorted.imp fun less => Nat.ne_of_lt less
  have unique : ∀ left right, left ∈ orderByOrdinal steps → right ∈ target →
      left.ordinal ≤ right.ordinal → right.ordinal ≤ left.ordinal → left = right := by
    intro left right leftMember rightMember below above
    have leftTarget := ((orderByOrdinal_perm steps).trans perm).subset leftMember
    exact eq_of_ordinal nodup leftTarget rightMember (Nat.le_antisymm below above)
  refine List.Perm.eq_of_pairwise unique ?_ ?_ ?_
  · have total : Std.Total fun left right : RunStep => left.ordinal ≤ right.ordinal :=
      ⟨fun left right => Nat.le_total left.ordinal right.ordinal⟩
    have transitive : IsTrans RunStep fun left right => left.ordinal ≤ right.ordinal :=
      ⟨fun _ _ _ => Nat.le_trans⟩
    exact List.pairwise_insertionSort _ steps
  · exact increasing.imp Nat.le_of_lt
  · exact (orderByOrdinal_perm steps).trans perm

lemma insertSteps_eq {drafts : List RunStep}
    (sorted : ((steps ++ drafts).map (·.ordinal)).Pairwise (· < ·)) : insertSteps steps drafts
      = steps ++ drafts.mapIdx fun offset draft => { draft with id := steps.length + offset } := by
  apply orderByOrdinal_eq (List.Perm.refl _)
  have eq : (drafts.mapIdx fun offset draft => { draft with id := steps.length + offset }).map
      (·.ordinal) = drafts.map (·.ordinal) := by
    apply List.ext_getElem
    · simp
    · intro index inLeft inRight
      simp
  rwa [List.map_append, eq, ← List.map_append]

/-! ## `_prepare` -/

inductive Prepared (rows : RunRows) : RunRows → Prop
  | kept (rows' : RunRows) (idle : rows' = rows ∨ rows' = cancel rows) : Prepared rows rows'
  | asked (clarification : Clarification) (rows' : RunRows)
      (open_ : isTerminal rows.run.status = false) (unplanned : rows.run.plan = none)
      (running : rows.run.status = .running)
      (steps : rows'.steps = (ensurePreparationSteps false rows).steps)
      (run_eq : rows'.run = { (ensurePreparationSteps false rows).run with
          status := .waitingUser, clarification := some clarification, deadlineAt := none
          leaseOwner := none, leaseExpiresAt := none }) : Prepared rows rows'
  | planned (plan : ExecutionPlan) (availableCapabilities : List String) (rows' : RunRows)
      (open_ : isTerminal rows.run.status = false) (unplanned : rows.run.plan = none)
      (steps : rows'.steps = insertSteps (ensurePreparationSteps true rows).steps
        (capabilitySteps plan.steps ++ coreSteps plan.steps.length))
      (run_eq : rows'.run = { (ensurePreparationSteps true rows).run with
          plan := some
            { route := plan.route, steps := plan.steps, requiredEvidence := plan.requiredEvidence
              availableCapabilities } }) : Prepared rows rows'

variable {rows : RunRows}

lemma prepare_prepared {preparation : Preparation} (run : prepare preparation rows = .ok rows') :
    Prepared rows rows' := by
  unfold prepare at run
  split at run
  · cases run
    exact Prepared.kept _ (Or.inl rfl)
  next active =>
  simp only [Bool.or_eq_true, not_or, Bool.not_eq_true, Option.isSome_eq_false_iff,
    Option.isNone_iff_eq_none] at active
  split at run
  · cases run
    exact Prepared.kept _ (Or.inr rfl)
  split at run
  · next clarification =>
    split at run
    · cases run
    next allowed =>
    cases run
    have running := running_of_allowed (validateRunTransition_ok allowed) (by simp)
    exact Prepared.asked clarification _ active.1 active.2 running rfl rfl
  · next plan availableCapabilities =>
    cases run
    exact Prepared.planned plan availableCapabilities _ active.1 active.2 rfl rfl

lemma steps_of_clarifiedShapes (eq : shapes steps = clarifiedShapes) :
    steps.map (·.ordinal) = [1, 2] ∧ steps.length = 2 := by
  constructor
  · have ordinals := congrArg (List.map (·.ordinal)) eq
    simpa [shapes, clarifiedShapes, RunStep.shape, Function.comp_def] using ordinals
  have lengths := congrArg List.length eq
  simpa [clarifiedShapes] using lengths

lemma ensurePreparationSteps_shapes (includePlan : Bool)
    (steps : shapes rows.steps = [] ∨ shapes rows.steps = clarifiedShapes) :
    shapes (ensurePreparationSteps includePlan rows).steps
      = if includePlan then preparedShapes else clarifiedShapes := by
  rcases steps with empty | clarified
  · have none : rows.steps = [] := List.map_eq_nil_iff.1 empty
    simp only [ensurePreparationSteps, none]
    cases includePlan <;> rfl
  · obtain ⟨ordinals, length⟩ := steps_of_clarifiedShapes clarified
    cases includePlan with
    | false =>
      have drafts : ((preparationDrafts.take 2).filter fun draft =>
          draft.ordinal ∉ rows.steps.map (·.ordinal)) = [] := by
        rw [ordinals]
        rfl
      simp only [ensurePreparationSteps, Bool.false_eq_true, if_false, drafts]
      rw [insertSteps_eq (by rw [List.append_nil, ordinals]; decide)]
      simpa [shapes] using clarified
    | true =>
      have drafts : ((preparationDrafts.take 3).filter fun draft =>
          draft.ordinal ∉ rows.steps.map (·.ordinal))
            = [{ id := 0, ordinal := 3, name := "Create governed execution plan", kind := .plan,
                 status := .completed, dependsOn := [2] }] := by
        rw [ordinals]
        rfl
      simp only [ensurePreparationSteps, if_true, drafts]
      rw [insertSteps_eq (by rw [List.map_append, ordinals]; decide)]
      simp only [shapes, List.map_append, preparedShapes, List.mapIdx_cons, List.mapIdx_nil, length]
      rw [← shapes, clarified]
      rfl

def capabilityShapes (planned : List PlannedStep) : List StepShape :=
  planned.mapIdx fun index step =>
    ⟨3 + index, index + 4, .capability,
      if step.dependsOn.isEmpty then [3] else step.dependsOn.map (· + 3),
      some step.toCapabilityInput, 1⟩

def verifyShape (planned : Nat) : StepShape :=
  ⟨planned + 3, planned + 4, .verify, if planned = 0 then [3] else List.range' 4 planned, none, 0⟩

def reflectShape (planned : Nat) : StepShape :=
  ⟨planned + 4, planned + 5, .reflect, [planned + 4], none, 0⟩

def respondShape (planned : Nat) : StepShape :=
  ⟨planned + 5, planned + 6, .respond, [planned + 5], none, 0⟩

def plannedShapes (planned : List PlannedStep) : List StepShape :=
  preparedShapes ++ capabilityShapes planned ++
    [verifyShape planned.length, reflectShape planned.length, respondShape planned.length]

section
variable (planned : List PlannedStep)
include planned

@[simp] lemma length_capabilityShapes :
    (capabilityShapes planned).length = planned.length := List.length_mapIdx

@[simp] lemma length_plannedShapes :
    (plannedShapes planned).length = planned.length + 6 := by
  simp [plannedShapes, preparedShapes, clarifiedShapes]

lemma capabilityShapes_ordinals :
    (capabilityShapes planned).map (·.ordinal) = List.range' 4 planned.length := by
  apply List.ext_getElem
  · simp
  · intro index inLeft inRight
    simp [capabilityShapes]
    omega

lemma capabilityShapes_ids :
    (capabilityShapes planned).map (·.id) = List.range' 3 planned.length := by
  apply List.ext_getElem
  · simp
  · intro index inLeft inRight
    simp [capabilityShapes]

lemma plannedShapes_ordinals :
    (plannedShapes planned).map (·.ordinal) = List.range' 1 (planned.length + 6) := by
  have split : List.range' 1 (planned.length + 6) = [1, 2, 3] ++ List.range' 4 planned.length
        ++ [planned.length + 4, planned.length + 5, planned.length + 6] := by
    rw [show planned.length + 6 = 3 + planned.length + 3 by omega, ← List.range'_append_1,
      ← List.range'_append_1]
    simp [List.range'_succ, List.range'_zero]
    omega
  rw [split, plannedShapes, List.map_append, List.map_append, capabilityShapes_ordinals]
  rfl

lemma plannedShapes_ids :
    (plannedShapes planned).map (·.id) = List.range (planned.length + 6) := by
  have split : List.range (planned.length + 6) = [0, 1, 2] ++ List.range' 3 planned.length
        ++ [planned.length + 3, planned.length + 4, planned.length + 5] := by
    rw [List.range_eq_range', show planned.length + 6 = 3 + planned.length + 3 by omega,
      ← List.range'_append_1, ← List.range'_append_1]
    simp [List.range'_succ, List.range'_zero]
    omega
  rw [split, plannedShapes, List.map_append, List.map_append, capabilityShapes_ids]
  rfl

end

lemma plannedShapes_outlined {planned : List PlannedStep} (backward : Backward planned) :
    Outlined (plannedShapes planned) (capabilityShapes planned) (verifyShape planned.length)
      (reflectShape planned.length) (respondShape planned.length) where
  split := ⟨preparedShapes, rfl, rfl⟩
  capabilityKinds := by
    intro step mem
    obtain ⟨index, inside, rfl⟩ := List.mem_mapIdx.1 mem
    rfl
  retries := by
    intro step mem
    obtain ⟨index, inside, rfl⟩ := List.mem_mapIdx.1 mem
    rfl
  coreKinds := ⟨rfl, rfl, rfl⟩
  ordinals := by rw [plannedShapes_ordinals, length_plannedShapes]
  ids := by rw [plannedShapes_ids, length_plannedShapes]
  backward := by
    intro step mem dependency depends
    simp only [plannedShapes, List.mem_append] at mem
    rcases mem with (prelude | capability) | core
    · simp only [preparedShapes, clarifiedShapes, List.cons_append, List.nil_append,
        List.mem_cons, List.not_mem_nil, or_false] at prelude
      rcases prelude with rfl | rfl | rfl
      all_goals
        simp at depends
      all_goals
        subst depends
        exact ⟨by decide, by decide⟩
    · obtain ⟨index, inside, rfl⟩ := List.mem_mapIdx.1 capability
      simp only at depends
      split at depends
      · simp only [List.mem_singleton] at depends
        subst depends
        exact ⟨by decide, by simp⟩
      · obtain ⟨earlier, earlierMember, rfl⟩ := List.mem_map.1 depends
        have bounds := backward index planned[index] (List.getElem?_eq_getElem inside) earlier
          earlierMember
        exact ⟨by omega, by simp only; omega⟩
    · simp only [List.mem_cons, List.not_mem_nil, or_false] at core
      rcases core with rfl | rfl | rfl
      · simp only [verifyShape] at depends ⊢
        split at depends
        · simp only [List.mem_singleton] at depends
          omega
        rw [List.mem_range'_1] at depends
        omega
      · simp only [reflectShape, List.mem_singleton] at depends ⊢
        omega
      · simp only [respondShape, List.mem_singleton] at depends ⊢
        omega
  verifies := by
    intro step mem
    have ordinal : step.ordinal ∈ (capabilityShapes planned).map (·.ordinal) :=
      List.mem_map_of_mem mem
    rw [capabilityShapes_ordinals] at ordinal
    have some_step : planned.length ≠ 0 := by
      intro empty
      rw [List.length_eq_zero_iff.1 empty] at mem
      cases mem
    simpa only [verifyShape, if_neg some_step] using ordinal

lemma shapes_insertPlanned (planned : List PlannedStep) (prepared : shapes steps = preparedShapes) :
    shapes (insertSteps steps (capabilitySteps planned ++ coreSteps planned.length))
      = plannedShapes planned := by
  have length : steps.length = 3 := by
    rw [← length_shapes, prepared]
    rfl
  have ordinals : (steps ++ (capabilitySteps planned ++ coreSteps planned.length)).map (·.ordinal)
      = List.range' 1 (planned.length + 6) := by
    rw [← plannedShapes_ordinals, plannedShapes, ← prepared, List.append_assoc]
    simp only [List.map_append, shapes, List.map_map]
    congr 2
    rw [capabilitySteps, capabilityShapes, map_mapIdx, map_mapIdx]
  rw [insertSteps_eq (by rw [ordinals]; exact List.pairwise_lt_range')]
  rw [shapes, List.map_append, ← shapes, prepared, plannedShapes, List.append_assoc]
  congr 1
  rw [List.mapIdx_append, List.map_append]
  congr 1
  · rw [capabilitySteps, capabilityShapes, List.mapIdx_mapIdx, map_mapIdx, length]
    rfl
  · have count : (capabilitySteps planned).length = planned.length := by simp [capabilitySteps]
    simp only [coreSteps, List.mapIdx_cons, List.mapIdx_nil, List.map_cons, List.map_nil, length,
      count, RunStep.shape, verifyShape, reflectShape, respondShape]
    simp only [List.cons.injEq, StepShape.mk.injEq, and_true]
    omega

lemma Charted.prepare (charted : Charted rows) (prepared : Prepared rows rows') : Charted rows' := by
  cases prepared with
  | kept rows' idle =>
    rcases idle with rfl | rfl
    · exact charted
    exact charted.keep (cancel_kept rows)
  | asked clarification rows' open_ unplanned running steps run_eq =>
    cases charted with
    | unplanned plan shapes =>
      refine Charted.unplanned (by rw [run_eq]; exact plan) (Or.inr ?_)
      rw [steps, ensurePreparationSteps_shapes false shapes]
      rfl
    | planned plan capabilities verify reflect respond outlined =>
      rw [unplanned] at plan
      cases plan
  | planned plan availableCapabilities rows' open_ unplanned steps run_eq =>
    cases charted with
    | unplanned none shapes =>
      have outlined := plannedShapes_outlined plan.backward
      have eq := ensurePreparationSteps_shapes true shapes
      rw [if_pos rfl] at eq
      rw [← shapes_insertPlanned plan.steps eq, ← steps] at outlined
      exact Charted.planned (by rw [run_eq]; rfl) _ _ _ _ outlined
    | planned some capabilities verify reflect respond outlined =>
      rw [unplanned] at some
      cases some

/-! ## `_append_capability_replan` -/

lemma updateStep_append (id : Nat) (change : RunStep → RunStep) (left right : List RunStep) :
    updateStep id change (left ++ right) = updateStep id change left ++ updateStep id change right :=
  List.map_append

lemma updateStep_absent {id : Nat} {change : RunStep → RunStep}
    (absent : ∀ step ∈ steps, step.id ≠ id) : updateStep id change steps = steps := by
  unfold updateStep
  conv_rhs => rw [← List.map_id steps]
  apply List.map_congr_left
  intro step mem
  exact if_neg (absent step mem)

def addedShapes (count ordinal dependency : Nat) (contracts : List NamedContract) : List StepShape :=
  contracts.mapIdx fun offset contract =>
    ⟨count + offset, ordinal + offset, .capability, [dependency], some contract.contract, 1⟩

lemma shapes_replanSteps (steps : List RunStep) (ordinal : Nat) (contracts : List NamedContract) :
    shapes (replanSteps steps ordinal contracts)
      = addedShapes steps.length ordinal (lastCompletedCapability steps) contracts := by
  rw [shapes, replanSteps, addedShapes, map_mapIdx]
  rfl

lemma replanSteps_ordinals (steps : List RunStep) (ordinal : Nat) (contracts : List NamedContract) :
    (replanSteps steps ordinal contracts).map (·.ordinal)
      = List.range' ordinal contracts.length := by
  apply List.ext_getElem
  · simp [replanSteps]
  · intro index inLeft inRight
    simp [replanSteps]

lemma replanSteps_ids (steps : List RunStep) (ordinal : Nat) (contracts : List NamedContract) :
    (replanSteps steps ordinal contracts).map (·.id)
      = List.range' steps.length contracts.length := by
  apply List.ext_getElem
  · simp [replanSteps]
  · intro index inLeft inRight
    simp [replanSteps]

/-- `max(completed_caps, default=3)` is the ordinal of a capability step, or 3. -/
lemma lastCompletedCapability_cases (steps : List RunStep) : lastCompletedCapability steps = 3 ∨
      ∃ step ∈ steps, step.kind = .capability ∧ step.status = .completed ∧
        step.ordinal = lastCompletedCapability steps := by
  unfold lastCompletedCapability
  simp only
  split
  · exact .inl rfl
  next ordinal found =>
  obtain ⟨step, mem, eq⟩ := List.mem_map.1 (List.max?_mem found)
  simp only [List.mem_filter, Bool.and_eq_true, decide_eq_true_eq] at mem
  exact .inr ⟨step, mem.1, mem.2.1, mem.2.2, eq⟩

/-- The three core steps at the end of the rows. -/
structure CoreSteps (steps front : List RunStep) (verifyStep reflectStep respondStep : RunStep) :
    Prop where
  split : steps = front ++ [verifyStep, reflectStep, respondStep]
  kinds : verifyStep.kind = .verify ∧ reflectStep.kind = .reflect ∧ respondStep.kind = .respond
  front : ∀ step ∈ front, step.kind ∈ [StepKind.observe, .understand, .plan, .capability]
  ids : (steps.map (·.id)).Nodup

section
variable (core : CoreSteps steps front verifyStep reflectStep respondStep)
include core

lemma CoreSteps.lastOfKind :
    lastOfKind .verify steps = some verifyStep ∧ lastOfKind .reflect steps = some reflectStep ∧
      lastOfKind .respond steps = some respondStep := by
  obtain ⟨verifyKind, reflectKind, respondKind⟩ := core.kinds
  rw [core.split]
  simp [Harness.lastOfKind, verifyKind, reflectKind, respondKind]

lemma CoreSteps.distinct :
    (∀ step ∈ front, step.id ≠ verifyStep.id ∧ step.id ≠ reflectStep.id ∧ step.id ≠ respondStep.id) ∧
      verifyStep.id ≠ reflectStep.id ∧ verifyStep.id ≠ respondStep.id ∧
      reflectStep.id ≠ respondStep.id := by
  have nodup := core.ids
  rw [core.split, List.map_append, List.nodup_append] at nodup
  obtain ⟨_, tail, apart⟩ := nodup
  simp only [List.map_cons, List.map_nil, List.nodup_cons, List.mem_cons, List.not_mem_nil,
    or_false, not_or, not_false_eq_true, List.nodup_nil, and_true] at tail
  refine ⟨?_, tail.1.1, tail.1.2, tail.2⟩
  intro step mem
  have ids := apart step.id (List.mem_map_of_mem mem)
  simp only [List.map_cons, List.map_nil, List.mem_cons, List.not_mem_nil, or_false] at ids
  exact ⟨ids _ (Or.inl rfl), ids _ (Or.inr (Or.inl rfl)), ids _ (Or.inr (Or.inr rfl))⟩

lemma CoreSteps.updateStep (change : RunStep → RunStep) : Harness.updateStep verifyStep.id change steps
        = front ++ [change verifyStep, reflectStep, respondStep] ∧
      Harness.updateStep reflectStep.id change steps
        = front ++ [verifyStep, change reflectStep, respondStep] ∧
      Harness.updateStep respondStep.id change steps
        = front ++ [verifyStep, reflectStep, change respondStep] := by
  obtain ⟨apart, verifyReflect, verifyRespond, reflectRespond⟩ := core.distinct
  rw [core.split]
  refine ⟨?_, ?_, ?_⟩
  · rw [updateStep_append, updateStep_absent fun step mem => (apart step mem).1]
    simp [Harness.updateStep, verifyReflect.symm, verifyRespond.symm]
  · rw [updateStep_append, updateStep_absent fun step mem => (apart step mem).2.1]
    simp [Harness.updateStep, verifyReflect, reflectRespond.symm]
  · rw [updateStep_append, updateStep_absent fun step mem => (apart step mem).2.2]
    simp [Harness.updateStep, verifyRespond, reflectRespond]

lemma CoreSteps.replace {verifyNew reflectNew respondNew : RunStep}
    (verifySame : verifyNew.id = verifyStep.id ∧ verifyNew.kind = verifyStep.kind)
    (reflectSame : reflectNew.id = reflectStep.id ∧ reflectNew.kind = reflectStep.kind)
    (respondSame : respondNew.id = respondStep.id ∧ respondNew.kind = respondStep.kind) :
    CoreSteps (front ++ [verifyNew, reflectNew, respondNew]) front verifyNew reflectNew
      respondNew where
  split := rfl
  kinds := by
    rw [verifySame.2, reflectSame.2, respondSame.2]
    exact core.kinds
  front := core.front
  ids := by
    have nodup := core.ids
    rw [core.split] at nodup
    simpa [verifySame.1, reflectSame.1, respondSame.1] using nodup

end

lemma Outlined.coreSteps {respond : StepShape}
    (outlined : Outlined (shapes steps) capabilities verify reflect respond) :
    ∃ front verifyStep reflectStep respondStep,
      CoreSteps steps front verifyStep reflectStep respondStep ∧
        verifyStep.shape = verify ∧ reflectStep.shape = reflect ∧ respondStep.shape = respond ∧
        (∃ prelude, shapes front = prelude ++ capabilities ∧
          prelude.map (·.kind) = [.observe, .understand, .plan]) ∧
        front.map (·.ordinal) = List.range' 1 front.length ∧
        verify.ordinal = front.length + 1 ∧ reflect.ordinal = front.length + 2 ∧
        respond.ordinal = front.length + 3 := by
  obtain ⟨front, verifyStep, reflectStep, respondStep, split, verifyShape, reflectShape,
    respondShape, ⟨prelude, frontShapes, kinds⟩, ordinals, positions⟩ := outlined.steps_split
  refine ⟨front, verifyStep, reflectStep, respondStep, ⟨split, ?_, ?_, ?_⟩, verifyShape,
    reflectShape, respondShape, ⟨prelude, frontShapes, kinds⟩, ordinals, positions⟩
  · have core := outlined.coreKinds
    rw [← verifyShape, ← reflectShape, ← respondShape] at core
    exact core
  · intro step mem
    have shape : step.shape ∈ prelude ++ capabilities := frontShapes ▸ mem_shapes mem
    rcases List.mem_append.1 shape with inPrelude | inCapabilities
    · have kind : step.kind ∈ prelude.map (·.kind) := List.mem_map_of_mem inPrelude
      rw [kinds] at kind
      simp only [List.mem_cons, List.not_mem_nil, or_false] at kind ⊢
      tauto
    · have kind : step.kind = .capability := outlined.capabilityKinds _ inCapabilities
      simp [kind]
  · exact nodup_ids_of_shapes outlined.shapes_nodup.2

/-- VERIFY behind `added` new steps that it also depends on. -/
def shiftedVerify (verifyStep : RunStep) (newOrdinals : List Nat) (added : Nat) : RunStep :=
  { verifyStep with
    ordinal := verifyStep.ordinal + added
    dependsOn := (verifyStep.dependsOn ++ newOrdinals).eraseDups }

/-- A core step behind `added` new steps, after the core step before it. -/
def shiftedCore (step previous : RunStep) (added : Nat) : RunStep :=
  { step with ordinal := step.ordinal + added, dependsOn := [previous.ordinal + added] }

lemma CoreSteps.shiftCoreSteps (core : CoreSteps steps front verifyStep reflectStep respondStep)
    (added : Nat) (newOrdinals : List Nat) :
    Harness.shiftCoreSteps verifyStep respondStep (some reflectStep) added newOrdinals steps
      = front ++ [shiftedVerify verifyStep newOrdinals added,
          shiftedCore reflectStep verifyStep added, shiftedCore respondStep reflectStep added] := by
  have verified : CoreSteps
      (front ++ [shiftedVerify verifyStep newOrdinals added, reflectStep, respondStep]) front
      (shiftedVerify verifyStep newOrdinals added) reflectStep respondStep :=
    core.replace ⟨rfl, rfl⟩ ⟨rfl, rfl⟩ ⟨rfl, rfl⟩
  have reflected : CoreSteps (front ++ [shiftedVerify verifyStep newOrdinals added,
        shiftedCore reflectStep verifyStep added, respondStep]) front
      (shiftedVerify verifyStep newOrdinals added) (shiftedCore reflectStep verifyStep added)
      respondStep :=
    verified.replace ⟨rfl, rfl⟩ ⟨rfl, rfl⟩ ⟨rfl, rfl⟩
  simp only [Harness.shiftCoreSteps]
  rw [(core.updateStep _).1]
  have second := (verified.updateStep fun step =>
    { step with
      ordinal := reflectStep.ordinal + added, dependsOn := [verifyStep.ordinal + added] }).2.1
  have third := (reflected.updateStep fun step =>
    { step with
      ordinal := respondStep.ordinal + added, dependsOn := [reflectStep.ordinal + added] }).2.2
  exact (congrArg (Harness.updateStep respondStep.id _) second).trans third

lemma shifted_ordinals (contracts : List NamedContract) (newOrdinals : List Nat)
    (ordinals : front.map (·.ordinal) = List.range' 1 front.length)
    (positions : verifyCore.ordinal = front.length + 1 ∧ reflectCore.ordinal = front.length + 2 ∧
      respondCore.ordinal = front.length + 3) :
    (front ++ replanSteps rows.steps verifyCore.ordinal contracts ++
      [shiftedVerify verifyCore newOrdinals contracts.length,
        shiftedCore reflectCore verifyCore contracts.length,
        shiftedCore respondCore reflectCore contracts.length]).map (·.ordinal)
      = List.range' 1 (front.length + contracts.length + 3) := by
  rw [List.range'_1_concat, List.range'_1_concat, List.range'_1_concat, ← List.range'_append_1,
    List.map_append, List.map_append, ordinals, replanSteps_ordinals, positions.1]
  simp only [List.map_cons, List.map_nil, shiftedVerify, shiftedCore, List.append_assoc,
    List.cons_append, List.nil_append]
  rw [Nat.add_comm 1 front.length]
  congr 2
  simp only [List.cons.injEq, and_true]
  omega

lemma Appended.steps_split
    (appended : Appended contracts missing reason rows rows' verifyStep respondStep)
    (core : CoreSteps rows.steps front verifyCore reflectCore respondCore)
    (ordinals : front.map (·.ordinal) = List.range' 1 front.length)
    (positions : verifyCore.ordinal = front.length + 1 ∧ reflectCore.ordinal = front.length + 2 ∧
      respondCore.ordinal = front.length + 3) :
    rows'.steps = front ++ replanSteps rows.steps verifyCore.ordinal contracts ++
      [shiftedVerify verifyCore (List.range' verifyCore.ordinal contracts.length) contracts.length,
        shiftedCore reflectCore verifyCore contracts.length,
        shiftedCore respondCore reflectCore contracts.length] := by
  obtain ⟨verifyLast, reflectLast, respondLast⟩ := core.lastOfKind
  have verifySame : verifyStep = verifyCore := Option.some.inj (appended.verify.symm.trans verifyLast)
  have respondSame : respondStep = respondCore :=
    Option.some.inj (appended.respond.symm.trans respondLast)
  rw [appended.steps_eq, verifySame, respondSame, reflectLast, core.shiftCoreSteps,
    replanSteps_ordinals]
  apply orderByOrdinal_eq
  · rw [List.append_assoc, List.append_assoc]
    exact List.perm_append_comm.append_left front
  · rw [shifted_ordinals contracts _ ordinals positions]
    exact List.pairwise_lt_range'

lemma length_of_prelude {prelude : List StepShape}
    (kinds : prelude.map (·.kind) = [.observe, .understand, .plan]) : prelude.length = 3 := by
  have lengths := congrArg List.length kinds
  simpa using lengths

lemma Outlined.capability_ordinals {steps : List StepShape} {respond : StepShape}
    (outlined : Outlined steps capabilities verify reflect respond) :
    capabilities.map (·.ordinal) = List.range' 4 capabilities.length := by
  obtain ⟨prelude, split, kinds⟩ := outlined.split
  have preludeLength := length_of_prelude kinds
  have ordinals := outlined.ordinals
  have length : steps.length = 3 + capabilities.length + 3 := by
    rw [split]
    simp only [List.length_append, preludeLength, List.length_cons, List.length_nil]
  rw [length, ← List.range'_append_1, ← List.range'_append_1, split, List.map_append,
    List.map_append] at ordinals
  have front := (List.append_inj ordinals (by simp [preludeLength])).1
  exact (List.append_inj front (by simp [preludeLength])).2

lemma Outlined.capability_bounds {respond : StepShape}
    (outlined : Outlined (shapes steps) capabilities verify reflect respond) {step : RunStep}
    (mem : step ∈ steps) (kind : step.kind = .capability) :
    step.shape ∈ capabilities ∧ 4 ≤ step.ordinal ∧ step.ordinal < verify.ordinal := by
  obtain ⟨prelude, split, kinds⟩ := outlined.split
  obtain ⟨verifyKind, reflectKind, respondKind⟩ := outlined.coreKinds
  have inCapabilities : step.shape ∈ capabilities := by
    have shape := mem_shapes mem
    rw [split] at shape
    have shapeKind : step.shape.kind = .capability := kind
    rcases List.mem_append.1 shape with front | core
    · rcases List.mem_append.1 front with inPrelude | inside
      · have preludeKind : StepKind.capability ∈ prelude.map (·.kind) :=
          shapeKind ▸ List.mem_map_of_mem inPrelude
        rw [kinds] at preludeKind
        simp at preludeKind
      · exact inside
    · simp only [List.mem_cons, List.not_mem_nil, or_false] at core
      rcases core with eq | eq | eq
      all_goals
        rw [eq] at shapeKind
        simp_all
  have ordinal : step.shape.ordinal ∈ capabilities.map (·.ordinal) :=
    List.mem_map_of_mem inCapabilities
  rw [outlined.capability_ordinals, List.mem_range'_1] at ordinal
  obtain ⟨front, _, _, _, _, _, _, _, ⟨_, frontShapes, frontKinds⟩, _, positions⟩ :=
    outlined.coreSteps
  have frontLength : front.length = 3 + capabilities.length := by
    rw [← length_shapes, frontShapes, List.length_append, length_of_prelude frontKinds]
  have eq : step.shape.ordinal = step.ordinal := rfl
  exact ⟨inCapabilities, by omega, by omega⟩

lemma Outlined.append {respond : StepShape}
    (outlined : Outlined (shapes rows.steps) capabilities verify reflect respond)
    (appended : Appended contracts missing reason rows rows' verifyStep respondStep) :
    ∃ verify' reflect' respond', Outlined (shapes rows'.steps)
        (capabilities ++ addedShapes rows.steps.length verify.ordinal
          (lastCompletedCapability rows.steps) contracts) verify' reflect' respond' := by
  obtain ⟨front, verifyCore, reflectCore, respondCore, core, verifyShape, reflectShape,
    respondShape, ⟨prelude, frontShapes, kinds⟩, ordinals, positions⟩ := outlined.coreSteps
  have verifyOrdinal : verifyCore.ordinal = verify.ordinal := by rw [← verifyShape]; rfl
  have reflectOrdinal : reflectCore.ordinal = reflect.ordinal := by rw [← reflectShape]; rfl
  have respondOrdinal : respondCore.ordinal = respond.ordinal := by rw [← respondShape]; rfl
  have corePositions : verifyCore.ordinal = front.length + 1 ∧
      reflectCore.ordinal = front.length + 2 ∧ respondCore.ordinal = front.length + 3 := by
    rw [verifyOrdinal, reflectOrdinal, respondOrdinal]
    exact positions
  have split := appended.steps_split core ordinals corePositions
  have length : rows.steps.length = front.length + 3 := by rw [core.split]; simp
  have preludeLength := length_of_prelude kinds
  have frontLength : front.length = 3 + capabilities.length := by
    rw [← length_shapes, frontShapes, List.length_append, preludeLength]
  have dependency : 1 ≤ lastCompletedCapability rows.steps ∧
      lastCompletedCapability rows.steps < verifyCore.ordinal := by
    rcases lastCompletedCapability_cases rows.steps with default | ⟨step, mem, kind, _, eq⟩
    · rw [default]
      omega
    have bounds := outlined.capability_bounds mem kind
    omega
  have newShapes : shapes rows'.steps = prelude ++
      (capabilities ++ addedShapes rows.steps.length verify.ordinal
        (lastCompletedCapability rows.steps) contracts) ++
      [(shiftedVerify verifyCore (List.range' verifyCore.ordinal contracts.length)
          contracts.length).shape,
        (shiftedCore reflectCore verifyCore contracts.length).shape,
        (shiftedCore respondCore reflectCore contracts.length).shape] := by
    rw [split, shapes, List.map_append, List.map_append, ← shapes, frontShapes, ← shapes,
      shapes_replanSteps, verifyOrdinal]
    simp
  have oldSplit : shapes rows.steps = prelude ++ capabilities ++ [verify, reflect, respond] := by
    rw [core.split, shapes, List.map_append, ← shapes, frontShapes, ← verifyShape, ← reflectShape,
      ← respondShape]
    rfl
  have newLength : rows'.steps.length = front.length + contracts.length + 3 := by
    rw [split]
    simp only [List.length_append, replanSteps, List.length_mapIdx, List.length_cons, List.length_nil]
  have newOrdinals : (shapes rows'.steps).map (·.ordinal)
      = List.range' 1 (shapes rows'.steps).length := by
    rw [shapes_ordinals, split, shifted_ordinals contracts _ ordinals corePositions, ← split,
      length_shapes, newLength]
  have newIds : ((shapes rows'.steps).map (·.id)).Perm
      (List.range (shapes rows'.steps).length) := by
    have oldIds := outlined.ids
    rw [shapes_ids, length_shapes] at oldIds ⊢
    have counted : List.range (rows.steps.length + contracts.length)
        = List.range rows.steps.length ++ List.range' rows.steps.length contracts.length := by
      rw [List.range_eq_range', List.range_eq_range', ← List.range'_append_1, Nat.zero_add]
    have moved : (rows'.steps.map (·.id)).Perm
        (rows.steps.map (·.id) ++ List.range' rows.steps.length contracts.length) := by
      have old : rows.steps.map (·.id) = front.map (·.id) ++
          [verifyCore.id, reflectCore.id, respondCore.id] := by
        rw [core.split, List.map_append]
        rfl
      rw [split, old, List.map_append, List.map_append, replanSteps_ids, List.append_assoc,
        List.append_assoc]
      exact List.perm_append_comm.append_left _
    rw [newLength, show front.length + contracts.length + 3
      = rows.steps.length + contracts.length by omega, counted]
    exact moved.trans (oldIds.append_right _)
  refine ⟨(shiftedVerify verifyCore (List.range' verifyCore.ordinal contracts.length)
      contracts.length).shape, (shiftedCore reflectCore verifyCore contracts.length).shape,
    (shiftedCore respondCore reflectCore contracts.length).shape,
    { split := ⟨prelude, newShapes, kinds⟩, capabilityKinds := ?_, retries := ?_
      coreKinds := core.kinds, ordinals := newOrdinals, ids := newIds, backward := ?_
      verifies := ?_ }⟩
  · intro step mem
    rcases List.mem_append.1 mem with old | new
    · exact outlined.capabilityKinds step old
    obtain ⟨index, inside, rfl⟩ := List.mem_mapIdx.1 new
    rfl
  · intro step mem
    rcases List.mem_append.1 mem with old | new
    · exact outlined.retries step old
    obtain ⟨index, inside, rfl⟩ := List.mem_mapIdx.1 new
    rfl
  · rw [newShapes]
    intro step mem earlier depends
    simp only [List.mem_append, List.mem_cons, List.not_mem_nil, or_false] at mem
    rcases mem with (inPrelude | inCapabilities | added) | rfl | rfl | rfl
    · exact outlined.backward step (by rw [oldSplit]; simp [inPrelude]) earlier depends
    · exact outlined.backward step (by rw [oldSplit]; simp [inCapabilities]) earlier depends
    · obtain ⟨index, inside, rfl⟩ := List.mem_mapIdx.1 added
      simp only [List.mem_singleton] at depends ⊢
      omega
    · simp only [RunStep.shape, shiftedVerify, List.mem_eraseDups, List.mem_append,
        List.mem_range'_1] at depends ⊢
      rcases depends with old | new
      · have bounds := outlined.backward verify (by rw [oldSplit]; simp) earlier
          (by rw [← verifyShape]; exact old)
        omega
      · omega
    · simp only [RunStep.shape, shiftedCore, List.mem_singleton] at depends ⊢
      omega
    · simp only [RunStep.shape, shiftedCore, List.mem_singleton] at depends ⊢
      omega
  · intro step mem
    simp only [RunStep.shape, shiftedVerify, List.mem_eraseDups, List.mem_append]
    rcases List.mem_append.1 mem with old | new
    · have depends := outlined.verifies step old
      rw [← verifyShape] at depends
      exact .inl depends
    · obtain ⟨index, inside, rfl⟩ := List.mem_mapIdx.1 new
      rw [List.mem_range'_1]
      simp only
      omega

lemma Charted.planned_of_mem (charted : Charted rows) {step : RunStep} (mem : step ∈ rows.steps)
    (kind : step.kind ∉ [StepKind.observe, .understand]) :
    rows.run.plan.isSome = true := by
  cases charted with
  | planned plan capabilities verify reflect respond outlined => exact plan
  | unplanned plan steps =>
    have shape := mem_shapes mem
    have stepKind : step.shape.kind = step.kind := rfl
    rcases steps with empty | clarified
    · rw [empty] at shape
      cases shape
    rw [clarified] at shape
    simp only [clarifiedShapes, List.mem_cons, List.not_mem_nil, or_false] at shape
    rw [← stepKind] at kind
    rcases shape with eq | eq
    all_goals
      rw [eq] at kind
      simp at kind

lemma Charted.outlined (charted : Charted rows) (planned : rows.run.plan.isSome = true) :
    ∃ capabilities verify reflect respond,
      Outlined (shapes rows.steps) capabilities verify reflect respond := by
  cases charted with
  | planned plan capabilities verify reflect respond outlined =>
    exact ⟨capabilities, verify, reflect, respond, outlined⟩
  | unplanned plan steps =>
    rw [plan] at planned
    cases planned

lemma Charted.append (charted : Charted rows)
    (appended : Appended contracts missing reason rows rows' verifyStep respondStep) :
    Charted rows' := by
  obtain ⟨mem, kind⟩ := lastOfKind_some appended.verify
  have planned := charted.planned_of_mem mem (by rw [kind]; decide)
  obtain ⟨capabilities, verify, reflect, respond, outlined⟩ := charted.outlined planned
  obtain ⟨verify', reflect', respond', redrawn⟩ := outlined.append appended
  exact Charted.planned (by rw [appended.run_eq]; rfl) _ verify' reflect' respond' redrawn

lemma Charted.retry {retry : List Nat} (charted : Charted rows)
    (retried : Retried settings rows rows' retry) : Charted rows' := by
  obtain ⟨step, mem, failed, _⟩ := retried.failure
  have kind : step.kind = .capability := by
    simp only [retryable, Bool.and_eq_true, decide_eq_true_eq] at failed
    exact failed.1.1.1.1
  have planned := charted.planned_of_mem mem (by rw [kind]; decide)
  obtain ⟨capabilities, verify, reflect, respond, outlined⟩ := charted.outlined planned
  refine Charted.planned (by rw [retried.run_eq]; rfl) capabilities verify reflect respond ?_
  rw [retried.steps_eq, shapes_map]
  · exact outlined
  · intro step _
    unfold retryStep
    split <;> rfl

lemma planned_of_investigates {review : Review}
    (asked : investigates settings now review rows = true) : rows.run.plan.isSome = true := by
  cases plan : rows.run.plan with
  | some plan => rfl
  | none => simp [investigates, Run.planOrEmpty, plan, Plan.empty] at asked

lemma recordedRows_shapes (reflectStep : Option RunStep) (rows : RunRows) :
    shapes (recordedRows reflectStep rows).steps = shapes rows.steps :=
  (startCoreStep_change.kept reflectStep rows).steps

lemma Charted.review {review : Review} {middle : RunRows} (charted : Charted rows)
    (reviewed : Reviewed settings now review rows middle) : Charted middle := by
  have verified := charted.keep (verifiedRows_kept rows)
  cases reviewed with
  | verified => exact verified
  | recorded asked =>
    obtain ⟨capabilities, verify, reflect, respond, outlined⟩ :=
      verified.outlined (planned_of_investigates asked)
    rw [← recordedRows_shapes (Harness.lastOfKind .reflect rows.steps)] at outlined
    exact Charted.planned rfl capabilities verify reflect respond outlined

lemma Charted.respond {evidence : List String} {review : Review} {response : Response}
    (charted : Charted rows)
    (responded : Responded settings now evidence review rows rows' response) : Charted rows' := by
  cases responded with
  | idle terminal => exact charted
  | cancelled open_ requested => exact charted.keep (cancel_kept rows)
  | published open_ middle after reviewed decision run =>
    exact (charted.review reviewed).keep (publish_kept run)
  | gap requested middle replanned reviewed grounded chosen uninvestigated run =>
    obtain ⟨_, _, verifyStep, respondStep, appended⟩ := applyGapReplan_appended run
    exact ((charted.review reviewed).append appended).keep (reopenCoreStep_change.kept _ _)
  | investigated requested contract replanned asked grounded access proposed run =>
    obtain ⟨verifyStep, respondStep, appended⟩ := appendCapabilityReplan_appended run
    have redrawn := (charted.review (Reviewed.recorded asked)).append appended
    have completed := redrawn.keep
      (completeReflectStep_kept (Harness.lastOfKind .reflect rows.steps) .replan replanned)
    exact (completed.keep (reopenCoreStep_change.kept _ _)).keep (reopenCoreStep_change.kept _ _)

lemma Charted.step {action : Action} {flag : Bool} (charted : Charted world.rows)
    (step : RowsStep settings world action rows' flag) : Charted rows' := by
  cases step with
  | same => exact charted
  | claimed workerId claimed run => exact charted.keep (claim_touched run).kept
  | prepared index preparation attachments rows' run =>
    exact charted.prepare (prepare_prepared run)
  | passed index rows' wave run => exact charted.keep (executeSteps_passed run).kept
  | settled index jobIndex stepId answer rows' eq run =>
    exact charted.keep (settleStep_kept run)
  | retried index rows' retry retried => exact charted.retry retried
  | filled index question missing rows' run =>
    obtain ⟨_, _, verifyStep, respondStep, appended⟩ := applyGapReplan_appended run
    exact charted.append appended
  | responded index review rows' response run => exact charted.respond (respond_responded run)
  | cancelled => exact charted.keep (cancel_kept world.rows)
  | failed index code => exact charted.keep (fail_touched code world.rows).kept
  | decided principal access approvalId approve approvals rows' run =>
    exact charted.keep (decide_touched run).kept
  | answered access clarificationId rows' run => exact charted.keep (answer_touched run).kept
  | stopped => exact charted.keep (cancelRun_kept world.now world.rows)
  | requested service => exact charted.keep ⟨rfl, rfl, rfl⟩

lemma perform_charted {world' : World} {timed : Timed} (charted : Charted world.rows)
    (run : perform settings world timed = some world') : Charted world'.rows := by
  obtain ⟨flag, step, _⟩ := perform_rows run
  have ticked : Charted (world.tick timed.elapsed).rows := charted
  exact ticked.step step

end Obsion.Harness
