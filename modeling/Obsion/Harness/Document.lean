import Obsion.Harness.Replans

/-! # The plan document and the executable steps

`_prepare` writes the plan JSON and the capability steps from the same planner
steps.  `_append_capability_replan` writes an entry that depends on the entry
before it, and a step that depends on the last completed capability step: the two
name one graph only where a replan appends one step behind a completed one. -/

namespace Obsion.Harness

open Obsion.Lib

/-- `[value + 3 for value in depends_on] or [3]` -/
def PlannedStep.stepDependencies (entry : PlannedStep) : List Nat :=
  if entry.dependsOn.isEmpty then [3] else entry.dependsOn.map (· + 3)

/-- The plan has one entry for each capability step, in order, and an entry says what
its step calls and waits for. -/
structure Documented (plan : Plan) (steps : List RunStep) : Prop where
  entries : plan.steps.length = (steps.filter fun step => step.kind = .capability).length
  described : ∀ index entry, plan.steps[index]? = some entry →
    ∃ step ∈ steps, step.ordinal = index + 4 ∧ step.kind = .capability ∧
      step.inputPayload = some entry.toCapabilityInput ∧ step.dependsOn = entry.stepDependencies

def Entered (plan : Plan) (capabilities : List StepShape) : Prop :=
  capabilities.map (·.inputPayload) = plan.steps.map fun entry => some entry.toCapabilityInput

def Linked (plan : Plan) (capabilities : List StepShape) : Prop :=
  capabilities.map (·.dependsOn) = plan.steps.map PlannedStep.stepDependencies

variable {plan : Plan} {capabilities : List StepShape} {steps : List RunStep}
  {verify reflect respond : StepShape} {contracts : List NamedContract} {rows rows' : RunRows}

lemma Entered.length (entered : Entered plan capabilities) :
    plan.steps.length = capabilities.length := by
  have lengths := congrArg List.length entered
  simpa using lengths.symm

lemma Outlined.capability_count
    (outlined : Outlined (shapes steps) capabilities verify reflect respond) :
    (steps.filter fun step => step.kind = .capability).length = capabilities.length := by
  have counted : (steps.filter fun step => step.kind = .capability).length
      = ((shapes steps).filter fun step => step.kind = .capability).length := by
    simp only [shapes, List.filter_map, List.length_map]
    rfl
  obtain ⟨prelude, split, kinds⟩ := outlined.split
  obtain ⟨verifyKind, reflectKind, respondKind⟩ := outlined.coreKinds
  have noPrelude : prelude.filter (fun step => step.kind = .capability) = [] := by
    apply List.filter_eq_nil_iff.2
    intro step mem capability
    have kind : step.kind ∈ prelude.map (·.kind) := List.mem_map_of_mem mem
    rw [kinds, of_decide_eq_true capability] at kind
    simp at kind
  have allCapabilities : capabilities.filter (fun step => step.kind = .capability) = capabilities := by
    apply List.filter_eq_self.2
    intro step mem
    exact decide_eq_true (outlined.capabilityKinds step mem)
  rw [counted, split, List.filter_append, List.filter_append, noPrelude, allCapabilities]
  simp [verifyKind, reflectKind, respondKind]

lemma Outlined.documented (outlined : Outlined (shapes steps) capabilities verify reflect respond)
    (entered : Entered plan capabilities) (linked : Linked plan capabilities) :
    Documented plan steps := by
  refine ⟨by rw [outlined.capability_count, entered.length], ?_⟩
  intro index entry located
  obtain ⟨inside, eq⟩ := List.getElem?_eq_some_iff.1 located
  have inCapabilities : index < capabilities.length := entered.length ▸ inside
  obtain ⟨prelude, split, _⟩ := outlined.split
  have inShapes : capabilities[index] ∈ shapes steps := by
    rw [split]
    simp
  obtain ⟨step, mem, shape⟩ := List.mem_map.1 inShapes
  have ordinals := congrArg (fun values : List Nat => values[index]?) outlined.capability_ordinals
  have inputs := congrArg (fun values : List (Option CapabilityInput) => values[index]?) entered
  have dependencies := congrArg (fun values : List (List Nat) => values[index]?) linked
  simp only [List.getElem?_map, List.getElem?_eq_getElem inCapabilities, ← shape, Option.map_some,
    located, List.getElem?_range' inCapabilities, Option.some.injEq] at ordinals inputs dependencies
  have kind : step.shape.kind = .capability := by
    rw [shape]
    exact outlined.capabilityKinds _ (List.getElem_mem inCapabilities)
  refine ⟨step, mem, ?_, kind, inputs, dependencies⟩
  have ordinal : step.shape.ordinal = step.ordinal := rfl
  omega

lemma planned_entered (plan : Plan) :
    Entered plan (capabilityShapes plan.steps) ∧ Linked plan (capabilityShapes plan.steps) := by
  unfold Entered Linked
  rw [capabilityShapes, map_mapIdx, map_mapIdx]
  constructor
  · apply List.ext_getElem
    · simp
    · intro index inLeft inRight
      simp
  · apply List.ext_getElem
    · simp
    · intro index inLeft inRight
      simp [PlannedStep.stepDependencies]

lemma Entered.append (entered : Entered plan capabilities) (contracts : List NamedContract)
    (missing : List String) (reason : String) (ordinals : List Nat) (count ordinal dependency : Nat) :
    Entered (replanPlan plan contracts missing reason ordinals)
      (capabilities ++ addedShapes count ordinal dependency contracts) := by
  unfold Entered at entered ⊢
  simp only [replanPlan, List.map_append]
  rw [entered, addedShapes, map_mapIdx, map_mapIdx]

/-- The new entries depend on what the new steps depend on just where there is one, and
it waits for the capability step that the plan names before it. -/
lemma Linked.append_iff (linked : Linked plan capabilities) (some_contract : contracts ≠ [])
    (missing : List String) (reason : String) (ordinals : List Nat) (count ordinal dependency : Nat) :
    Linked (replanPlan plan contracts missing reason ordinals)
        (capabilities ++ addedShapes count ordinal dependency contracts) ↔
      contracts.length = 1 ∧ dependency = plan.steps.length + 3 := by
  have stepDependencies : ∀ offset (contract : NamedContract), PlannedStep.stepDependencies
        { contract.contract with
          name := contract.name
          dependsOn := if plan.steps.length + offset = 0 then []
            else [plan.steps.length + offset] } = [plan.steps.length + offset + 3] := by
    intro offset contract
    unfold PlannedStep.stepDependencies
    by_cases first : plan.steps.length + offset = 0
    · rw [first]
      rfl
    simp only [if_neg first]
    rfl
  unfold Linked at linked ⊢
  simp only [replanPlan, List.map_append, linked, List.append_cancel_left_eq]
  rw [addedShapes, map_mapIdx, map_mapIdx]
  simp only [stepDependencies]
  constructor
  · intro eq
    have positions : ∀ offset, offset < contracts.length →
        dependency = plan.steps.length + offset + 3 := by
      intro offset inside
      have found := congrArg (fun values : List (List Nat) => values[offset]?) eq
      simpa [List.getElem?_mapIdx, List.getElem?_eq_getElem inside] using found
    have filled : 0 < contracts.length := List.length_pos_iff.2 some_contract
    have firstPosition := positions 0 filled
    constructor
    · by_contra several
      have secondPosition := positions 1 (by omega)
      omega
    · omega
  · rintro ⟨single, eq⟩
    obtain ⟨contract, rfl⟩ := List.length_eq_one_iff.1 single
    simp [eq]

def LastCompleted (steps : List RunStep) : Prop :=
  ∀ step ∈ steps, step.kind = .capability →
    (∀ other ∈ steps, other.kind = .capability → other.ordinal ≤ step.ordinal) →
      step.status = .completed

section
variable (outlined : Outlined (shapes steps) capabilities verify reflect respond)
include outlined

lemma Outlined.last_capability (some_capability : capabilities ≠ []) :
    ∃ step ∈ steps, step.kind = .capability ∧ step.ordinal = capabilities.length + 3 := by
  have filled : 0 < capabilities.length := List.length_pos_iff.2 some_capability
  have ordinal : capabilities.length + 3 ∈ capabilities.map (·.ordinal) := by
    rw [outlined.capability_ordinals, List.mem_range'_1]
    omega
  obtain ⟨shape, shapeMember, eq⟩ := List.mem_map.1 ordinal
  obtain ⟨prelude, split, _⟩ := outlined.split
  have inShapes : shape ∈ shapes steps := by
    rw [split]
    simp [shapeMember]
  obtain ⟨step, mem, stepShape⟩ := List.mem_map.1 inShapes
  refine ⟨step, mem, ?_, ?_⟩
  · have kind := outlined.capabilityKinds shape shapeMember
    rw [← stepShape] at kind
    exact kind
  · rw [← eq, ← stepShape]
    rfl

lemma Outlined.capability_ordinal_le {step : RunStep} (mem : step ∈ steps)
    (kind : step.kind = .capability) :
    capabilities ≠ [] ∧ step.ordinal ≤ capabilities.length + 3 := by
  have inside := (outlined.capability_bounds mem kind).1
  have ordinal : step.ordinal ∈ capabilities.map (·.ordinal) := List.mem_map_of_mem inside
  rw [outlined.capability_ordinals, List.mem_range'_1] at ordinal
  exact ⟨List.ne_nil_of_mem inside, by omega⟩

lemma Outlined.lastCompleted_iff :
    lastCompletedCapability steps = capabilities.length + 3 ↔ LastCompleted steps := by
  have nodup := nodup_ordinals_of_shapes outlined.shapes_nodup.1
  constructor
  · intro eq step mem kind last
    obtain ⟨some_capability, _⟩ := outlined.capability_ordinal_le mem kind
    have filled : 0 < capabilities.length := List.length_pos_iff.2 some_capability
    rcases lastCompletedCapability_cases steps with default | ⟨other, otherMember, otherKind,
      completed, otherSame⟩
    · omega
    have below := (outlined.capability_ordinal_le mem kind).2
    have above := last other otherMember otherKind
    have isOther : step = other := eq_of_ordinal nodup mem otherMember (by omega)
    rw [isOther]
    exact completed
  · intro last
    by_cases empty : capabilities = []
    · rcases lastCompletedCapability_cases steps with default | ⟨other, otherMember, otherKind, _⟩
      · rw [default, empty]
        rfl
      exact absurd empty (outlined.capability_ordinal_le otherMember otherKind).1
    · obtain ⟨step, mem, kind, ordinal⟩ := outlined.last_capability empty
      have isLast : ∀ other ∈ steps, other.kind = .capability → other.ordinal ≤ step.ordinal := by
        intro other otherMember otherKind
        have bound := (outlined.capability_ordinal_le otherMember otherKind).2
        omega
      have completed := last step mem kind isLast
      have candidate : step.ordinal ∈ (steps.filter fun step =>
          step.kind = .capability && step.status = .completed).map (·.ordinal) := by
        apply List.mem_map_of_mem
        simp [mem, kind, completed]
      have upper : ∀ ordinal ∈ (steps.filter fun step =>
          step.kind = .capability && step.status = .completed).map (·.ordinal),
          ordinal ≤ step.ordinal := by
        intro found inside
        obtain ⟨other, otherMember, rfl⟩ := List.mem_map.1 inside
        simp only [List.mem_filter, Bool.and_eq_true, decide_eq_true_eq] at otherMember
        exact isLast other otherMember.1 otherMember.2.1
      have greatest := List.max?_eq_some_iff.2 ⟨candidate, upper⟩
      unfold lastCompletedCapability
      simp only [greatest]
      exact ordinal

end

/-! ## Runs -/

lemma LastCompleted.core {before after : List RunStep} (last : LastCompleted before)
    (moved : Moved CoreOnly before after) (nodup : (after.map (·.id)).Nodup)
    (eq : shapes after = shapes before) : LastCompleted after := by
  have unchanged : ∀ step ∈ after, step.kind = .capability → step ∈ before := by
    intro step mem kind
    have shape : step.shape ∈ shapes before := eq ▸ mem_shapes mem
    obtain ⟨old, oldMember, oldShape⟩ := List.mem_map.1 shape
    have oldKind : old.kind = .capability := (congrArg StepShape.kind oldShape).trans kind
    obtain ⟨next, nextMember, only⟩ := moved.step oldMember
    have kept : next = old := only.others (by rw [oldKind]; decide)
    have isNext : step = next := eq_of_id nodup mem nextMember
      ((congrArg StepShape.id oldShape).symm.trans only.id.symm)
    rw [isNext, kept]
    exact oldMember
  intro step mem kind greatest
  refine last step (unchanged step mem kind) kind ?_
  intro other otherMember otherKind
  obtain ⟨next, nextMember, only⟩ := moved.step otherMember
  have kept : next = other := only.others (by rw [otherKind]; decide)
  exact greatest other (kept ▸ nextMember) otherKind

/-- One step is appended, behind a completed capability step or as the first. -/
def Narrow (contracts : List NamedContract) (steps : List RunStep) : Prop :=
  contracts.length = 1 ∧ LastCompleted steps

/-- The action of a move appends no capability steps, or does so narrowly. -/
def AppendsNarrowly (settings : Settings) (move : Move World Timed) : Prop :=
  let contracts := (move.before.tick move.action.elapsed).appends settings move.action.action
  contracts = [] ∨ Narrow contracts move.before.rows.steps

instance (steps : List RunStep) : Decidable (LastCompleted steps) := by
  unfold LastCompleted
  infer_instance

instance (settings : Settings) (move : Move World Timed) :
    Decidable (AppendsNarrowly settings move) := by
  unfold AppendsNarrowly Narrow
  infer_instance

/-- A planned Run whose entries call what its capability steps call. -/
def Described (rows : RunRows) : Prop :=
  ∀ plan, rows.run.plan = some plan → ∃ capabilities verify reflect respond,
      Outlined (shapes rows.steps) capabilities verify reflect respond ∧
        Entered plan capabilities ∧ Linked plan capabilities

lemma Noted.described {settings : Settings} (described : Described rows)
    (noted : Noted settings rows rows') : Described rows' := by
  intro plan planned
  rw [noted.steps]
  rcases noted.plan with eq | ⟨earlier, before, _, after⟩
  · exact described plan (eq.symm.trans planned)
  rw [after] at planned
  cases planned
  exact described earlier before

lemma Described.append {missing : List String} {reason : String}
    {verifyStep respondStep : RunStep} (charted : Charted rows) (described : Described rows)
    (appended : Appended contracts missing reason rows rows' verifyStep respondStep)
    (narrow : Narrow contracts rows.steps) : Described rows' := by
  obtain ⟨mem, kind⟩ := lastOfKind_some appended.verify
  obtain ⟨plan, planned⟩ :=
    Option.isSome_iff_exists.1 (charted.planned_of_mem mem (by rw [kind]; decide))
  obtain ⟨capabilities, verify, reflect, respond, outlined, entered, linked⟩ :=
    described plan planned
  obtain ⟨verify', reflect', respond', redrawn⟩ := outlined.append appended
  intro next eq
  rw [appended.run_eq, Run.planOrEmpty, planned] at eq
  cases eq
  refine ⟨_, verify', reflect', respond', redrawn, entered.append contracts missing reason _ _ _ _, ?_⟩
  apply (linked.append_iff appended.some_contract missing reason _ _ _ _).2
  rw [entered.length]
  exact ⟨narrow.1, outlined.lastCompleted_iff.2 narrow.2⟩

lemma Drawn.described {settings : Settings} {flag : Bool} (charted : Charted rows)
    (described : Described rows) (drawn : Drawn settings rows contracts rows' flag)
    (allowed : contracts = [] ∨ Narrow contracts rows.steps) : Described rows' := by
  cases drawn with
  | noted rows' noted => exact noted.described described
  | clarified rows' unplanned plan_eq =>
    intro plan planned
    rw [plan_eq] at planned
    cases planned
  | planned executionPlan available rows' unplanned steps plan_eq =>
    intro plan planned
    rw [plan_eq] at planned
    cases planned
    rw [steps]
    exact ⟨_, _, _, _, plannedShapes_outlined executionPlan.backward, planned_entered _⟩
  | retried rows' retry retried =>
    obtain ⟨step, mem, failed, _⟩ := retried.failure
    have kind : step.kind = .capability := by
      simp only [retryable, Bool.and_eq_true, decide_eq_true_eq] at failed
      exact failed.1.1.1.1
    obtain ⟨plan, planned⟩ :=
      Option.isSome_iff_exists.1 (charted.planned_of_mem mem (by rw [kind]; decide))
    have eq : shapes rows'.steps = shapes rows.steps := by
      rw [retried.steps_eq]
      apply shapes_map
      intro step _
      unfold retryStep
      split <;> rfl
    intro next nextPlan
    rw [retried.run_eq, Run.planOrEmpty, planned] at nextPlan
    cases nextPlan
    rw [eq]
    exact described plan planned
  | appended middle replanned rows' missing reason verifyStep respondStep noted moved why appended
      kept =>
      have narrow : Narrow contracts rows.steps :=
        allowed.resolve_left appended.some_contract
      have middleDescribed := noted.described described
      have middleCharted := noted.charted charted
      have middleNarrow : Narrow contracts middle.steps :=
        ⟨narrow.1, narrow.2.core moved middleCharted.nodup.2 noted.steps⟩
      have redrawn := Described.append middleCharted middleDescribed appended middleNarrow
      have unchanged : Noted settings replanned rows' := kept.noted
      exact unchanged.described redrawn

def operationAvailable : List String :=
  ["log.search", "log.aggregate", "metric.query", "metric.compare"]

def operationPlan : ExecutionPlan :=
  Planner.create sampleSettings { sampleIncident with route := "OPERATION" } none
    (some operationAvailable)

/-- A worker that completes the two steps of an operation plan and then finds that
`missing` is not substantiated. -/
def operationActions (missing : List String) : List Action :=
  [.claim "worker-1", .record 0, .prepare 0 (.plan operationPlan operationAvailable) [],
   .executeSteps 0, .gateway 0 0 ⟨none, 7, .completed "evidence-1"⟩, .settle 0 0,
   .executeSteps 0, .gateway 0 0 ⟨none, 7, .completed "evidence-2"⟩, .settle 0 0,
   .executeSteps 0, .replanTransient 0, .replanMissing 0 "why do orders fail" missing]

end Obsion.Harness
