import Obsion.Domain.RunIntent
import Obsion.Lib.Keeps

/-! # Settled texts

Which contracts and intents a second normalisation leaves as they are: those whose texts it leaves,
and whose normalised texts still fit. -/

namespace Obsion.Domain

open Lib

variable {lib : Library}

def stable (lib : Library) (text : String) : Bool := normalText lib (normalText lib text) = normalText lib text

def stableJson (lib : Library) (value : Json) : Bool :=
  value.all fun inner => match inner with
    | .str text => stable lib text
    | _ => true

mutual

lemma normalJson_normalJson : (value : Json) →
    normalJson lib (normalJson lib value) = normalJson lib value ↔ stableJson lib value = true
  | .null | .bool _ | .int _ | .float _ => iff_of_true rfl rfl
  | .str text => by
      rw [normalJson, normalJson, Json.str.injEq, stableJson, Json.all]
      exact decide_eq_true_iff.symm
  | .arr values => by
      rw [normalJson, normalJson, Json.arr.injEq, normalValues_normalValues values, stableJson, Json.all,
        Bool.true_and]
  | .obj fields => by
      rw [normalJson, normalJson, Json.obj.injEq, normalMembers_normalMembers fields, stableJson, Json.all,
        Bool.true_and]

lemma normalValues_normalValues : (values : List Json) →
    normalValues lib (normalValues lib values) = normalValues lib values ↔
      allValues (fun inner => match inner with
        | .str text => stable lib text
        | _ => true) values = true
  | [] => iff_of_true rfl rfl
  | value :: rest => by
      rw [normalValues, normalValues, List.cons.injEq, normalJson_normalJson value,
        normalValues_normalValues rest, allValues, Bool.and_eq_true]
      exact Iff.rfl

lemma normalMembers_normalMembers : (fields : List (String × Json)) →
    normalMembers lib (normalMembers lib fields) = normalMembers lib fields ↔
      allMembers (fun inner => match inner with
        | .str text => stable lib text
        | _ => true) fields = true
  | [] => iff_of_true rfl rfl
  | (key, value) :: rest => by
      rw [normalMembers, normalMembers, List.cons.injEq, Prod.mk.injEq, normalJson_normalJson value,
        normalMembers_normalMembers rest, allMembers, Bool.and_eq_true, eq_self_iff_true, true_and]
      exact Iff.rfl

end

/-- A text whose normal form has a length between the bounds and is stable. -/
abbrev KeepsText (lib : Library) (least most : Nat) (text : String) : Prop :=
  Keeps (between least most) (normalText lib) text

lemma TaskSourceReference.keeps_iff {reference : TaskSourceReference} (fits : reference.bounded = true) :
    Keeps TaskSourceReference.bounded (TaskSourceReference.normal lib) reference ↔
      KeepsText lib 1 500 reference.identifier := by
  simp only [TaskSourceReference.bounded, Bool.and_eq_true] at fits
  simp only [KeepsText, Keeps, TaskSourceReference.bounded, TaskSourceReference.normal, Bool.and_eq_true, fits.2,
    and_true, true_and, TaskSourceReference.mk.injEq]

def TaskObject.Settled (lib : Library) (object : TaskObject) : Prop :=
  KeepsText lib 1 500 object.identifier ∧ ∀ label ∈ object.label, KeepsText lib 0 500 label

lemma TaskObject.keeps_iff {object : TaskObject} :
    Keeps TaskObject.bounded (TaskObject.normal lib) object ↔ object.Settled lib := by
  rw [TaskObject.Settled, ← keeps_option]
  simp only [KeepsText, Keeps, TaskObject.bounded, TaskObject.normal, Bool.and_eq_true, TaskObject.mk.injEq,
    true_and, atMost]
  exact and_and_and_comm

def DimensionRequirement.Settled (lib : Library) (requirement : DimensionRequirement) : Prop :=
  KeepsText lib 1 1000 requirement.expectedScope ∧ (∀ text ∈ requirement.asOf, KeepsText lib 0 160 text) ∧
    KeepsText lib 1 160 requirement.precision ∧ KeepsText lib 1 1000 requirement.validationRule ∧
    ∀ kind ∈ requirement.acceptableEvidenceKinds,
      evidenceKind lib (evidenceKind lib kind) = evidenceKind lib kind

lemma DimensionRequirement.keeps_iff {requirement : DimensionRequirement} (fits : requirement.bounded = true) :
    Keeps DimensionRequirement.bounded (DimensionRequirement.normal lib) requirement ↔
      requirement.Settled lib := by
  rw [DimensionRequirement.Settled, ← keeps_option, ← map_map_eq_iff]
  simp only [DimensionRequirement.bounded, Bool.and_eq_true] at fits
  simp only [KeepsText, Keeps, DimensionRequirement.bounded, DimensionRequirement.normal, Bool.and_eq_true,
    DimensionRequirement.mk.injEq, true_and, atMost, List.length_map, fits.1.2, fits.2, fits.1.1.1.1.1.1, and_true]
  exact iff_of_eq (by ac_rfl)

lemma TaskSourceScope.keeps_iff {scope : TaskSourceScope} (fits : scope.bounded = true) :
    Keeps TaskSourceScope.bounded (TaskSourceScope.normal lib) scope ↔
      ∀ reference ∈ scope.references, KeepsText lib 1 500 reference.identifier := by
  simp only [TaskSourceScope.bounded, Bool.and_eq_true, List.all_eq_true] at fits
  rw [← forall₂_congr fun reference inside => TaskSourceReference.keeps_iff (fits.2 reference inside), ← keeps_list]
  simp only [Keeps, TaskSourceScope.bounded, TaskSourceScope.normal, Bool.and_eq_true, List.length_map, fits.1,
    true_and, TaskSourceScope.mk.injEq, and_true]

def TaskContract.Settled (lib : Library) (contract : TaskContract) : Prop :=
  KeepsText lib 1 100000 contract.goal ∧
    (∀ reference ∈ contract.sourceScope.references, KeepsText lib 1 500 reference.identifier) ∧
    (∀ object ∈ contract.objects, object.Settled lib) ∧ (∀ text ∈ contract.constraints, stable lib text) ∧
    (∀ text ∈ contract.allowedEnvironments, stable lib text) ∧
    (∀ text ∈ contract.successCriteria, stable lib text) ∧
    ∀ requirement ∈ contract.dimensions, requirement.Settled lib

lemma stable_texts {texts : List String} :
    (texts.map (normalText lib)).map (normalText lib) = texts.map (normalText lib) ↔
      ∀ text ∈ texts, stable lib text := by
  rw [map_map_eq_iff]
  exact forall₂_congr fun _ _ => decide_eq_true_iff.symm

lemma TaskContract.keeps_iff {contract : TaskContract} (fits : contract.bounded = true) :
    Keeps TaskContract.bounded (TaskContract.normal lib) contract ↔ contract.Settled lib := by
  simp only [TaskContract.bounded, Bool.and_eq_true, List.all_eq_true, decide_eq_true_eq] at fits
  obtain ⟨⟨⟨⟨⟨⟨⟨⟨⟨⟨⟨⟨⟨⟨⟨⟨⟨⟨⟨⟨⟨revision, fingerprint⟩, parent⟩, goal⟩, scope⟩, objects⟩, eachObject⟩, window⟩,
    deliverable⟩, deliverables⟩, constraints⟩, environment⟩, environments⟩, authority⟩, budget⟩, criterion⟩,
    criteria⟩, dimension⟩, dimensions⟩, eachDimension⟩, changed⟩, invalidated⟩ := fits
  rw [TaskContract.Settled, ← TaskSourceScope.keeps_iff scope,
    ← forall₂_congr fun (object : TaskObject) (_ : object ∈ contract.objects) => TaskObject.keeps_iff,
    ← forall₂_congr fun requirement inside => DimensionRequirement.keeps_iff (eachDimension requirement inside),
    ← keeps_list, ← keeps_list, ← stable_texts, ← stable_texts, ← stable_texts]
  simp only [KeepsText, Keeps, TaskContract.bounded, TaskContract.normal, Bool.and_eq_true, TaskContract.mk.injEq,
    decide_eq_true_eq, List.length_map, true_and, and_true, revision, fingerprint, parent, objects, window, deliverable,
    deliverables, constraints, environment, environments, authority, budget, criterion, criteria, dimension,
    dimensions, changed, invalidated]
  exact iff_of_eq (by ac_rfl)

/-! ## Intents -/

def stableId (lib : Library) (text : String) : Bool := safeId lib (safeId lib text) = safeId lib text

/-- An identifier whose normal form has a length between the bounds and stays. -/
abbrev KeepsName (lib : Library) (least most : Nat) (text : String) : Prop :=
  Keeps (between least most) (identifier lib) text

/-- A date whose canonical form is a date and stays. -/
abbrev KeepsTime (lib : Library) (text : String) : Prop := Keeps (isTimestamp lib) (timestamp lib) text

def ClarificationOption.Settled (lib : Library) (option : ClarificationOption) : Prop :=
  KeepsText lib 1 240 option.label ∧ stableJson lib option.canonicalValue

lemma ClarificationOption.keeps_iff {option : ClarificationOption} (fits : option.bounded = true) :
    Keeps ClarificationOption.bounded (ClarificationOption.normal lib) option ↔ option.Settled lib := by
  simp only [ClarificationOption.bounded, Bool.and_eq_true] at fits
  rw [ClarificationOption.Settled, ← normalJson_normalJson]
  simp only [KeepsText, Keeps, ClarificationOption.bounded, ClarificationOption.normal, Bool.and_eq_true, fits.1.1,
    fits.2, true_and, and_true, ClarificationOption.mk.injEq]
  exact and_assoc.symm

def ClarificationField.Settled (lib : Library) (field : ClarificationField) : Prop :=
  stableId lib field.slot ∧ stableId lib field.reasonCode ∧ KeepsText lib 1 1000 field.prompt ∧
    ∀ option ∈ field.options, option.Settled lib

lemma ClarificationField.keeps_iff {field : ClarificationField} (fits : field.bounded = true) :
    Keeps ClarificationField.bounded (ClarificationField.normal lib) field ↔ field.Settled lib := by
  simp only [ClarificationField.bounded, Bool.and_eq_true, List.all_eq_true] at fits
  rw [ClarificationField.Settled, stableId, decide_eq_true_iff, stableId, decide_eq_true_iff,
    ← forall₂_congr fun option inside => ClarificationOption.keeps_iff (fits.2 option inside), ← keeps_list]
  simp only [KeepsText, Keeps, ClarificationField.bounded, ClarificationField.normal, Bool.and_eq_true, fits.1.2,
    List.length_map, true_and, and_true, ClarificationField.mk.injEq]
  exact iff_of_eq (by ac_rfl)

def StoredClarificationAnswer.Settled (lib : Library) (answer : StoredClarificationAnswer) : Prop :=
  stableId lib answer.slot ∧ stableJson lib answer.value

lemma StoredClarificationAnswer.keeps_iff {answer : StoredClarificationAnswer} (fits : answer.bounded = true) :
    Keeps StoredClarificationAnswer.bounded (StoredClarificationAnswer.normal lib) answer ↔
      answer.Settled lib := by
  simp only [StoredClarificationAnswer.bounded, Bool.and_eq_true] at fits
  rw [StoredClarificationAnswer.Settled, stableId, decide_eq_true_iff, ← normalJson_normalJson]
  simp only [Keeps, StoredClarificationAnswer.bounded, StoredClarificationAnswer.normal, Bool.and_eq_true,
    fits.1, fits.2, true_and, and_true, StoredClarificationAnswer.mk.injEq]

def ClarificationRequest.Settled (lib : Library) (request : ClarificationRequest) : Prop :=
  KeepsText lib 1 2000 request.question ∧ (∀ field ∈ request.fields, field.Settled lib) ∧
    KeepsTime lib request.requestedAt ∧ KeepsTime lib request.expiresAt ∧
    (∀ answer ∈ request.answers, answer.Settled lib) ∧ (∀ time ∈ request.answeredAt, KeepsTime lib time) ∧
    ∀ time ∈ request.closedAt, KeepsTime lib time

lemma ClarificationRequest.keeps_iff {request : ClarificationRequest} (fits : request.bounded lib = true) :
    Keeps (ClarificationRequest.bounded lib) (ClarificationRequest.normal lib) request ↔ request.Settled lib := by
  simp only [ClarificationRequest.bounded, Bool.and_eq_true, List.all_eq_true, decide_eq_true_eq] at fits
  obtain ⟨⟨⟨⟨⟨⟨⟨⟨⟨⟨⟨⟨⟨⟨⟨⟨⟨id, revision⟩, round⟩, rounds⟩, -⟩, field⟩, fields⟩, eachField⟩, -⟩, -⟩, gap⟩,
    fingerprint⟩, answers⟩, eachAnswer⟩, answeredBy⟩, -⟩, response⟩, -⟩ := fits
  rw [ClarificationRequest.Settled,
    ← forall₂_congr fun field inside => ClarificationField.keeps_iff (eachField field inside),
    ← forall₂_congr fun answer inside => StoredClarificationAnswer.keeps_iff (eachAnswer answer inside),
    ← keeps_list, ← keeps_list, ← keeps_option, ← keeps_option]
  simp only [KeepsText, KeepsTime, Keeps, ClarificationRequest.bounded, ClarificationRequest.normal,
    Bool.and_eq_true, decide_eq_true_eq, List.length_map, true_and, and_true, ClarificationRequest.mk.injEq, id,
    revision, round, rounds, field, fields, gap, fingerprint, answers, answeredBy, response]
  -- the same conditions, field by field and check by check
  exact iff_of_eq (by ac_rfl)

lemma ClarificationState.keeps_iff {state : ClarificationState} (fits : state.bounded lib = true) :
    Keeps (ClarificationState.bounded lib) (ClarificationState.normal lib) state ↔
      ∀ request ∈ state.requests, request.Settled lib := by
  simp only [ClarificationState.bounded, Bool.and_eq_true, List.all_eq_true] at fits
  rw [← forall₂_congr fun request inside => ClarificationRequest.keeps_iff (fits.1.2 request inside), ← keeps_list]
  simp only [Keeps, ClarificationState.bounded, ClarificationState.normal, Bool.and_eq_true, List.length_map,
    fits.1.1, fits.2, true_and, and_true, ClarificationState.mk.injEq]

def ResolvedSlot.Settled (lib : Library) (slot : ResolvedSlot) : Prop :=
  stableId lib slot.slot ∧ stableJson lib slot.value

lemma ResolvedSlot.keeps_iff {slot : ResolvedSlot} (fits : slot.bounded = true) :
    Keeps ResolvedSlot.bounded (ResolvedSlot.normal lib) slot ↔ slot.Settled lib := by
  simp only [ResolvedSlot.bounded, Bool.and_eq_true, decide_eq_true_eq] at fits
  rw [ResolvedSlot.Settled, stableId, decide_eq_true_iff, ← normalJson_normalJson]
  simp only [Keeps, ResolvedSlot.bounded, ResolvedSlot.normal, Bool.and_eq_true, decide_eq_true_eq, fits.1.1.1,
    fits.1.1.2, fits.1.2, fits.2, true_and, and_true, ResolvedSlot.mk.injEq]

/-- Each text of the intent keeps: its normal form fits and is the normal form of itself. -/
def RunIntent.Settled (lib : Library) (intent : RunIntent) : Prop :=
  KeepsName lib 1 80 intent.domain ∧ KeepsName lib 1 80 intent.route ∧ KeepsName lib 1 120 intent.intent ∧
    KeepsText lib 1 100000 intent.question ∧ Keeps isRisk (identifier lib) intent.risk ∧
    (∀ agent ∈ intent.agent, KeepsName lib 0 160 agent) ∧ (∀ skill ∈ intent.skill, KeepsName lib 0 160 skill) ∧
    (∀ slot ∈ intent.resolvedSlots, slot.Settled lib) ∧
    (∀ contract ∈ intent.taskContract, contract.Settled lib) ∧
    ∀ request ∈ intent.clarification.requests, request.Settled lib

lemma RunIntent.keeps_iff {intent : RunIntent} (fits : intent.bounded lib = true) :
    Keeps (RunIntent.bounded lib) (RunIntent.normal lib) intent ↔ intent.Settled lib := by
  simp only [RunIntent.bounded, atMost, Bool.and_eq_true, List.all_eq_true, decide_eq_true_eq] at fits
  obtain ⟨⟨⟨⟨⟨⟨⟨⟨⟨⟨⟨⟨⟨⟨⟨⟨⟨⟨revision, admission⟩, -⟩, -⟩, -⟩, -⟩, metrics⟩, dimensions⟩, comparison⟩, -⟩, -⟩, -⟩,
    version⟩, checksum⟩, reason⟩, slots⟩, eachSlot⟩, contract⟩, clarification⟩ := fits
  have contracts : (∀ contract ∈ intent.taskContract, contract.Settled lib) ↔
      ∀ contract ∈ intent.taskContract, Keeps TaskContract.bounded (TaskContract.normal lib) contract := by
    refine forall₂_congr fun stored inside => ?_
    rw [inside] at contract
    exact (TaskContract.keeps_iff contract).symm
  rw [RunIntent.Settled, contracts, ← ClarificationState.keeps_iff clarification,
    ← forall₂_congr fun slot inside => ResolvedSlot.keeps_iff (eachSlot slot inside), ← keeps_list,
    ← keeps_option, ← keeps_option, ← keeps_option]
  simp only [KeepsText, KeepsName, Keeps, RunIntent.bounded, RunIntent.normal, Bool.and_eq_true, decide_eq_true_eq,
    List.length_map, true_and, and_true, RunIntent.mk.injEq, revision, admission, metrics, dimensions, comparison,
    version, checksum, reason, slots, atMost]
  -- the same conditions, field by field and check by check
  exact iff_of_eq (by ac_rfl)

end Obsion.Domain
