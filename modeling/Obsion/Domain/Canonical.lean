import Obsion.Base.Unordered
import Obsion.Domain.Stored

/-! # Canonical payloads

The canonical text under the fingerprint of a contract determines every other field of it. -/

namespace Obsion.Domain

open Codec Loads

/-! ## The parts are read in any order -/

lemma unordered_optionalText : optionalText.Unordered := unordered_text.optional

lemma unordered_optionalInt : optionalInt.Unordered := unordered_int.optional

lemma unordered_sourceKind : sourceKind.Unordered := unordered_literal

lemma unordered_sourceScopeMode : sourceScopeMode.Unordered := unordered_literal

lemma unordered_objectKind : objectKind.Unordered := unordered_literal

lemma unordered_accuracyMode : accuracyMode.Unordered := unordered_literal

lemma unordered_deliverableKind : deliverableKind.Unordered := unordered_literal

lemma unordered_deliverableFormat : deliverableFormat.Unordered := unordered_literal

lemma unordered_taskDomain : taskDomain.Unordered := unordered_literal

lemma unordered_requirementLevel : requirementLevel.Unordered := unordered_literal

lemma unordered_changedField : changedField.Unordered := unordered_literal

lemma unordered_invalidatedOutput : invalidatedOutput.Unordered := unordered_literal

lemma unordered_isTrue : isTrue.Unordered := by
  intro value _
  cases value <;> rfl

lemma TaskSourceReference.unordered : TaskSourceReference.codec.Unordered :=
  unordered_model rfl fun fields plain => by
    simp only [required_sorted unordered_sourceKind plain, required_sorted unordered_text plain,
      withDefault_sorted unordered_optionalInt plain]

lemma TaskSourceScope.unordered : TaskSourceScope.codec.Unordered :=
  unordered_model rfl fun fields plain => by
    simp only [required_sorted unordered_sourceScopeMode plain, withDefault_sorted TaskSourceReference.unordered.list plain,
      withDefault_sorted unordered_bool plain]

lemma TaskObject.unordered : TaskObject.codec.Unordered :=
  unordered_model rfl fun fields plain => by
    simp only [required_sorted unordered_objectKind plain, required_sorted unordered_text plain,
      withDefault_sorted unordered_optionalText plain]

lemma TaskTimeWindow.unordered : TaskTimeWindow.codec.Unordered :=
  unordered_model rfl fun fields plain => by
    simp only [required_sorted unordered_text plain]

lemma TaskAccuracy.unordered : TaskAccuracy.codec.Unordered :=
  unordered_model rfl fun fields plain => by
    simp only [required_sorted unordered_accuracyMode plain, required_sorted unordered_bool plain,
      withDefault_sorted unordered_bool plain]

lemma TaskDeliverable.unordered : TaskDeliverable.codec.Unordered :=
  unordered_model rfl fun fields plain => by
    simp only [required_sorted unordered_deliverableKind plain, withDefault_sorted unordered_deliverableFormat plain]

lemma TaskAuthority.unordered : TaskAuthority.codec.Unordered :=
  unordered_model rfl fun fields plain => by
    simp only [required_sorted unordered_text plain, withDefault_sorted unordered_isTrue plain]

lemma TaskBudget.unordered : TaskBudget.codec.Unordered :=
  unordered_model rfl fun fields plain => by
    simp only [required_sorted unordered_text plain, required_sorted unordered_int plain]

lemma DimensionRequirement.unordered : DimensionRequirement.codec.Unordered :=
  unordered_model rfl fun fields plain => by
    simp only [required_sorted unordered_text plain, required_sorted unordered_taskDomain plain, required_sorted unordered_requirementLevel plain,
      withDefault_sorted unordered_optionalText plain, required_sorted unordered_text.list plain]

/-! ## Their dumps are plain -/

lemma plain_list {α : Type} {codec : Codec α} {values : List α} (each : ∀ value ∈ values, codec.PlainDump value) :
    codec.list.PlainDump values := by
  change PlainValues (values.map codec.dump)
  induction values with
  | nil => exact trivial
  | cons value rest ih =>
    exact ⟨each value List.mem_cons_self, ih fun other inside => each other (List.mem_cons_of_mem _ inside)⟩

lemma plain_optional {α : Type} {codec : Codec α} {filled : ∀ value, codec.dump value ≠ .null}
    {value : Option α} (each : ∀ inner ∈ value, codec.PlainDump inner) : (codec.optional filled).PlainDump value := by
  cases value with
  | none => exact trivial
  | some inner => exact each inner rfl

lemma plain_text (value : String) : Codec.text.PlainDump value := trivial

lemma plain_int {value : Int} (printable : isPrintable value = true) : Codec.int.PlainDump value := by
  rw [isPrintable, decide_eq_true_iff] at printable
  exact printable

lemma plain_literal {α : Type} {all : List α} {str : α → String}
    {found : ∀ value, all.find? (fun other => str other = str value) = some value} (value : α) :
    (Codec.literal all str found).PlainDump value := trivial

lemma TaskSourceReference.plain {reference : TaskSourceReference}
    (printable : ∀ version ∈ reference.version, isPrintable version = true) :
    TaskSourceReference.codec.PlainDump reference := by
  have version : optionalInt.PlainDump reference.version :=
    plain_optional fun version inside => plain_int (printable version inside)
  exact ⟨by simp, trivial, trivial, version, trivial⟩

lemma TaskSourceScope.plain {scope : TaskSourceScope}
    (printable : ∀ reference ∈ scope.references, ∀ version ∈ reference.version, isPrintable version = true) :
    TaskSourceScope.codec.PlainDump scope := by
  have references : (Codec.list TaskSourceReference.codec).PlainDump scope.references :=
    plain_list fun reference inside => TaskSourceReference.plain (printable reference inside)
  exact ⟨by simp, trivial, references, trivial, trivial⟩

lemma TaskObject.plain (object : TaskObject) : TaskObject.codec.PlainDump object := by
  have label : optionalText.PlainDump object.label := plain_optional fun text _ => plain_text text
  exact ⟨by simp, trivial, trivial, label, trivial⟩

lemma TaskTimeWindow.plain (window : TaskTimeWindow) : TaskTimeWindow.codec.PlainDump window :=
  ⟨by simp, trivial, trivial, trivial, trivial⟩

lemma TaskAccuracy.plain (accuracy : TaskAccuracy) : TaskAccuracy.codec.PlainDump accuracy :=
  ⟨by simp, trivial, trivial, trivial, trivial, trivial⟩

lemma TaskDeliverable.plain (deliverable : TaskDeliverable) : TaskDeliverable.codec.PlainDump deliverable :=
  ⟨by simp, trivial, trivial, trivial⟩

lemma TaskAuthority.plain (authority : TaskAuthority) : TaskAuthority.codec.PlainDump authority :=
  ⟨by simp, trivial, trivial, trivial, trivial, trivial, trivial, trivial, trivial⟩

lemma DimensionRequirement.plain (requirement : DimensionRequirement) :
    DimensionRequirement.codec.PlainDump requirement := by
  have asOf : optionalText.PlainDump requirement.asOf := plain_optional fun text _ => plain_text text
  have kinds : (Codec.list .text).PlainDump requirement.acceptableEvidenceKinds :=
    plain_list fun text _ => plain_text text
  exact ⟨by simp, trivial, trivial, trivial, trivial, asOf, trivial, trivial, kinds, trivial⟩

lemma member_eq {α : Type} {codec : Codec α} (unordered : codec.Unordered) {left right : Fields}
    (leftPlain : Plain (.obj left)) (rightPlain : Plain (.obj right))
    (eq : sortedFields left = sortedFields right) (key : String) {value other : α}
    (inLeft : left.get? key = some (codec.dump value)) (inRight : right.get? key = some (codec.dump other)) :
    value = other := by
  have read : required codec (sortedFields left) key = required codec left key :=
    required_sorted unordered leftPlain
  rw [eq, required_sorted unordered rightPlain, required, required, inLeft, inRight, Option.bind_some,
    Option.bind_some, codec.read_dump, codec.read_dump] at read
  exact (Option.some.inj read).symm

lemma TaskContract.payload_plain {contract : TaskContract}
    (printable : ∀ number ∈ contract.numbers, isPrintable number = true) : Plain (.obj contract.payload) := by
  have revision : Codec.int.PlainDump contract.revision := plain_int (printable _ (by simp [numbers]))
  have scope : TaskSourceScope.codec.PlainDump contract.sourceScope :=
    TaskSourceScope.plain fun reference inside version pinned => printable version
      (List.mem_append_right _ (List.mem_filterMap.2 ⟨reference, inside, pinned⟩))
  have objects : (Codec.list TaskObject.codec).PlainDump contract.objects :=
    plain_list fun object _ => TaskObject.plain object
  have parent : optionalText.PlainDump contract.parentFingerprint := plain_optional fun text _ => plain_text text
  have window : (Codec.optional TaskTimeWindow.codec fun _ eq => by cases eq).PlainDump contract.timeWindow :=
    plain_optional fun window _ => TaskTimeWindow.plain window
  have deliverables : (Codec.list TaskDeliverable.codec).PlainDump contract.deliverables :=
    plain_list fun deliverable _ => TaskDeliverable.plain deliverable
  have texts : ∀ values : List String, (Codec.list .text).PlainDump values := fun values =>
    plain_list fun text _ => plain_text text
  have budget : TaskBudget.codec.PlainDump contract.budget := by
    have steps : Codec.int.PlainDump contract.budget.maxSteps := plain_int (printable _ (by simp [numbers]))
    have timeout : Codec.int.PlainDump contract.budget.timeoutSeconds :=
      plain_int (printable _ (by simp [numbers]))
    have input : Codec.int.PlainDump contract.budget.maxInputTokens := plain_int (printable _ (by simp [numbers]))
    have output : Codec.int.PlainDump contract.budget.maxOutputTokens := plain_int (printable _ (by simp [numbers]))
    exact ⟨by simp, steps, timeout, input, output, trivial, trivial⟩
  have dimensions : (Codec.list DimensionRequirement.codec).PlainDump contract.dimensions :=
    plain_list fun requirement _ => DimensionRequirement.plain requirement
  have changed : (Codec.list changedField).PlainDump contract.changedFields :=
    plain_list fun field _ => plain_literal field
  have outputs : (Codec.list invalidatedOutput).PlainDump contract.invalidatedOutputs :=
    plain_list fun output _ => plain_literal output
  have one : Codec.int.PlainDump 1 := plain_int (by decide)
  exact ⟨by simp [payload], one, revision, parent, trivial, scope, objects, window,
    TaskAccuracy.plain contract.accuracy, deliverables, texts _, texts _, TaskAuthority.plain contract.authority,
    budget, texts _, dimensions, changed, outputs, trivial⟩

lemma TaskContract.payload_injective {left right : TaskContract}
    (leftPrints : ∀ number ∈ left.numbers, isPrintable number = true)
    (rightPrints : ∀ number ∈ right.numbers, isPrintable number = true)
    (eq : (Json.obj left.payload).dumps = (Json.obj right.payload).dumps) :
    left = { right with fingerprint := left.fingerprint } := by
  have leftPlain := left.payload_plain leftPrints
  have rightPlain := right.payload_plain rightPrints
  have sorted : sortedFields left.payload = sortedFields right.payload :=
    Json.obj.inj (Loads.dumps_injective leftPlain rightPlain eq)
  -- One field after the other is read back from its key.
  have revision := member_eq unordered_int leftPlain rightPlain sorted "revision" rfl rfl
  have parent := member_eq unordered_optionalText leftPlain rightPlain sorted "parent_fingerprint" rfl rfl
  have goal := member_eq unordered_text leftPlain rightPlain sorted "goal" rfl rfl
  have scope := member_eq TaskSourceScope.unordered leftPlain rightPlain sorted "source_scope" rfl rfl
  have objects := member_eq TaskObject.unordered.list leftPlain rightPlain sorted "objects" rfl rfl
  have windows : (Codec.optional TaskTimeWindow.codec fun _ eq => by cases eq).Unordered := TaskTimeWindow.unordered.optional
  have window := member_eq windows leftPlain rightPlain sorted "time_window" rfl rfl
  have accuracy := member_eq TaskAccuracy.unordered leftPlain rightPlain sorted "accuracy" rfl rfl
  have deliverables := member_eq TaskDeliverable.unordered.list leftPlain rightPlain sorted "deliverables" rfl rfl
  have constraints := member_eq unordered_text.list leftPlain rightPlain sorted "constraints" rfl rfl
  have environments := member_eq unordered_text.list leftPlain rightPlain sorted "allowed_environments" rfl rfl
  have authority := member_eq TaskAuthority.unordered leftPlain rightPlain sorted "authority" rfl rfl
  have budget := member_eq TaskBudget.unordered leftPlain rightPlain sorted "budget" rfl rfl
  have criteria := member_eq unordered_text.list leftPlain rightPlain sorted "success_criteria" rfl rfl
  have dimensions := member_eq DimensionRequirement.unordered.list leftPlain rightPlain sorted "dimensions" rfl rfl
  have changed := member_eq unordered_changedField.list leftPlain rightPlain sorted "changed_fields" rfl rfl
  have outputs := member_eq unordered_invalidatedOutput.list leftPlain rightPlain sorted "invalidated_outputs" rfl rfl
  cases left
  cases right
  simp only [TaskContract.mk.injEq, true_and]
  exact ⟨revision, parent, goal, scope, objects, window, accuracy, deliverables, constraints, environments, authority,
    budget, criteria, dimensions, changed, outputs⟩

end Obsion.Domain
