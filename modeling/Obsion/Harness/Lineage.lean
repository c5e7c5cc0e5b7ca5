import Obsion.Domain.Canonical
import Obsion.Domain.Closure
import Obsion.Harness.Contracts
import Obsion.Security.Evaluate

/-! # The lineage of task contracts

What a contract says about the one before it, where no two of the texts that were fingerprinted
have one digest. -/

namespace Obsion.Harness.Contracts

open Domain

variable {lib : Texts} {registry : List (String × Factory)}

def canonicalText (contract : TaskContract) : String := (Json.obj contract.payload).dumps

variable {draft contract previous current : TaskContract} {input : BuildInput}

lemma createTaskContract_ok (made : createTaskContract lib.toLibrary draft = some contract) :
    contract = { draft.normal lib.toLibrary with
        fingerprint := taskContractFingerprint lib.toLibrary draft.payload } ∧
      contract.consistent lib.toLibrary = true ∧
      lib.sha256 (canonicalText draft) = lib.sha256 (canonicalText (draft.normal lib.toLibrary)) := by
  unfold createTaskContract TaskContract.validate at made
  split at made
  next checks =>
    cases made
    simp only [TaskContract.valid, Bool.and_eq_true, decide_eq_true_eq] at checks
    exact ⟨rfl, checks.2.1, checks.2.2⟩
  next => cases made

lemma consistent_printable (consistent : contract.consistent lib.toLibrary = true) :
    ∀ number ∈ contract.numbers, isPrintable number = true := by
  simp only [TaskContract.consistent, Bool.and_eq_true, List.all_eq_true] at consistent
  exact consistent.2

lemma normal_numbers (contract : TaskContract) : (contract.normal lib.toLibrary).numbers = contract.numbers := by
  have versions : TaskSourceReference.version ∘ TaskSourceReference.normal lib.toLibrary
      = TaskSourceReference.version := by
    funext reference
    rw [Function.comp_apply, TaskSourceReference.normal]
  simp only [TaskContract.numbers, TaskContract.normal, TaskSourceScope.normal, List.filterMap_map, versions]

lemma numbers_fingerprint (contract : TaskContract) (fingerprint : String) :
    ({ contract with fingerprint := fingerprint } : TaskContract).numbers = contract.numbers := rfl

variable {fingerprint : String} {output : InvalidatedOutput}

lemma eq_of_fingerprints {normal : TaskContract}
    (made : contract = { normal with fingerprint := fingerprint })
    (eq : normal = { draft with fingerprint := normal.fingerprint }) :
    contract = { draft with fingerprint := contract.fingerprint } := by
  subst made
  rw [eq]

lemma contract_eq_draft (made : createTaskContract lib.toLibrary draft = some contract)
    (free : lib.sha256 (canonicalText draft) = lib.sha256 (canonicalText (draft.normal lib.toLibrary)) →
      canonicalText draft = canonicalText (draft.normal lib.toLibrary)) :
    contract = { draft with fingerprint := contract.fingerprint } := by
  obtain ⟨filled, consistent, digests⟩ := createTaskContract_ok made
  have printable : ∀ number ∈ draft.numbers, isPrintable number = true := by
    intro number inside
    refine consistent_printable consistent number ?_
    rw [filled, numbers_fingerprint, normal_numbers]
    exact inside
  have normal : ∀ number ∈ (draft.normal lib.toLibrary).numbers, isPrintable number = true := by
    rw [normal_numbers]
    exact printable
  exact eq_of_fingerprints filled (TaskContract.payload_injective normal printable (free digests).symm)

/-! ## Builds -/

/-- The payload that a build fingerprints, unless nothing has changed. -/
def created (lib : Texts) (registry : List (String × Factory)) (input : BuildInput)
    (previous : Option TaskContract) : Option TaskContract :=
  match payload lib registry input, previous with
  | none, _ => none
  | some current, none => some current
  | some current, some contract =>
    if changedFields contract current = [] then none else some (revised contract current)

/-- Each build has the contract of the last one as `previous`. -/
def buildSystem (lib : Texts) (registry : List (String × Factory)) :
    Lib.System (Option TaskContract) BuildInput where
  init := fun state => state = none
  step := fun before input after => (build lib registry input before).isSome ∧ after = build lib registry input before

/-- The texts that the builds of a run fingerprint: those of the payloads and of their normal
forms. -/
def hashed (lib : Texts) (registry : List (String × Factory))
    (moves : List (Lib.Move (Option TaskContract) BuildInput)) : Set String :=
  {text | ∃ move ∈ moves, ∃ draft, created lib registry move.action move.before = some draft ∧
    (text = canonicalText draft ∨ text = canonicalText (draft.normal lib.toLibrary))}

/-- What a contract has to do with the one before it. -/
structure Lineage (previous current contract : TaskContract) : Prop where
  /-- The contract stays exactly where no contracted field has changed. -/
  stays : contract = previous ↔ ∀ field, differs previous current field = false
  next : contract ≠ previous → contract.revision = previous.revision + 1 ∧
    contract.parentFingerprint = some previous.fingerprint ∧ contract.changedFields ≠ [] ∧
    ∀ field, field ∈ contract.changedFields ↔ differs previous contract field = true

lemma mem_changedFields {field : ChangedField} :
    field ∈ changedFields previous current ↔ differs previous current field = true := by
  rw [changedFields, List.mem_filter]
  refine and_iff_right ?_
  cases field <;> decide

lemma changedFields_eq_nil :
    changedFields previous current = [] ↔ ∀ field, differs previous current field = false := by
  rw [List.eq_nil_iff_forall_not_mem]
  exact forall_congr' fun field => (not_congr mem_changedFields).trans (Bool.not_eq_true _).to_iff

lemma differs_congr {other : TaskContract} (eq : other = { current with
      revision := other.revision, fingerprint := other.fingerprint
      parentFingerprint := other.parentFingerprint, changedFields := other.changedFields
      invalidatedOutputs := other.invalidatedOutputs }) (field : ChangedField) :
    differs previous other field = differs previous current field := by
  rw [eq]
  cases field <;> rfl

lemma differs_self (contract : TaskContract) (field : ChangedField) : differs contract contract field = false := by
  cases field <;> exact decide_eq_false fun apart => apart rfl

lemma differs_flip (previous current : TaskContract) (field : ChangedField) :
    differs previous current field = differs current previous field := by
  cases field <;> exact decide_eq_decide.2 ne_comm

lemma payload_first (found : payload lib registry input = some current) :
    current.revision = 1 ∧ current.parentFingerprint = none ∧ current.changedFields = [] := by
  unfold payload at found
  simp only [Option.bind_eq_bind, Option.bind_eq_some_iff] at found
  obtain ⟨_, -, _, -, _, -, _, -, _, -, _, -, _, -, made⟩ := found
  cases made
  exact ⟨rfl, rfl, rfl⟩

lemma created_first (found : payload lib registry input = some current) :
    created lib registry input none = some current := by
  unfold created
  rw [found]

lemma created_next {old : TaskContract} (found : payload lib registry input = some current)
    (changed : changedFields old current ≠ []) :
    created lib registry input (some old) = some (revised old current) := by
  unfold created
  rw [found]
  exact if_neg changed

lemma build_cases {previous : Option TaskContract}
    (built : build lib registry input previous = some contract) :
    ∃ current, payload lib registry input = some current ∧
      ((previous = some contract ∧ changedFields contract current = []) ∨
        (previous = none ∧ created lib registry input previous = some current ∧
          createTaskContract lib.toLibrary current = some contract) ∨
        ∃ old, previous = some old ∧ changedFields old current ≠ [] ∧
          created lib registry input previous = some (revised old current) ∧
          createTaskContract lib.toLibrary (revised old current) = some contract) := by
  unfold build at built
  cases found : payload lib registry input with
  | none =>
    rw [found] at built
    cases built
  | some current =>
    rw [found] at built
    refine ⟨current, rfl, ?_⟩
    cases previous with
    | none => exact .inr (Or.inl ⟨rfl, created_first found, built⟩)
    | some old =>
      dsimp only at built
      split at built
      next eq =>
        cases built
        exact .inl ⟨rfl, eq⟩
      next changed =>
        exact .inr (Or.inr ⟨old, rfl, changed, created_next found changed, built⟩)

def Free (lib : Texts) (draft : TaskContract) : Prop :=
  lib.sha256 (canonicalText draft) = lib.sha256 (canonicalText (draft.normal lib.toLibrary)) →
    canonicalText draft = canonicalText (draft.normal lib.toLibrary)

lemma free_of_injOn {moves : List (Lib.Move (Option TaskContract) BuildInput)}
    (injective : Set.InjOn lib.sha256 (hashed lib registry moves))
    {move : Lib.Move (Option TaskContract) BuildInput} (mem : move ∈ moves)
    (made : created lib registry move.action move.before = some draft) : Free lib draft := fun eq =>
  injective ⟨move, mem, draft, made, Or.inl rfl⟩ ⟨move, mem, draft, made, Or.inr rfl⟩ eq

lemma unchanged_of_draft (eq : contract = { draft with fingerprint := contract.fingerprint })
    (made : draft = { current with
      revision := draft.revision, fingerprint := draft.fingerprint
      parentFingerprint := draft.parentFingerprint, changedFields := draft.changedFields
      invalidatedOutputs := draft.invalidatedOutputs })
    (previous : TaskContract) (field : ChangedField) :
    differs previous contract field = differs previous current field := by
  rw [eq, ← differs_congr made field]
  cases field <;> rfl

lemma revised_eq (old current : TaskContract) : revised old current = { current with
    revision := (revised old current).revision, fingerprint := (revised old current).fingerprint
    parentFingerprint := (revised old current).parentFingerprint
    changedFields := (revised old current).changedFields
    invalidatedOutputs := (revised old current).invalidatedOutputs } := rfl

lemma first_eq (current : TaskContract) : current = { current with
    revision := current.revision, fingerprint := current.fingerprint
    parentFingerprint := current.parentFingerprint, changedFields := current.changedFields
    invalidatedOutputs := current.invalidatedOutputs } := rfl

lemma rebuild (found : payload lib registry input = some current)
    (eq : ∀ previous field, differs previous contract field = differs previous current field) :
    build lib registry input (some contract) = some contract := by
  have unchanged : changedFields contract current = [] := by
    refine changedFields_eq_nil.2 fun field => ?_
    rw [differs_flip, eq, differs_self]
  unfold build
  rw [found]
  exact if_pos unchanged

lemma lineage_of_build {previous : Option TaskContract}
    (built : build lib registry input previous = some contract)
    (free : ∀ draft, created lib registry input previous = some draft → Free lib draft) :
    ∃ current, payload lib registry input = some current ∧
      (∀ old, previous = some old → Lineage old current contract) ∧
      (previous = none → contract.revision = 1 ∧ contract.parentFingerprint = none ∧ contract.changedFields = []) ∧
      build lib registry input (some contract) = some contract := by
  obtain ⟨current, found, kept | first | next⟩ := build_cases built
  · obtain ⟨rfl, unchanged⟩ := kept
    refine ⟨current, found, fun old eq => ?_, nofun, built⟩
    cases eq
    exact ⟨iff_of_true rfl (changedFields_eq_nil.1 unchanged), fun apart => absurd rfl apart⟩
  · obtain ⟨rfl, drafted, made⟩ := first
    have eq := contract_eq_draft made (free current drafted)
    have again := rebuild found (unchanged_of_draft eq (first_eq current))
    refine ⟨current, found, fun old absent => ?_, fun _ => ?_, again⟩
    · cases absent
    have facts := payload_first found
    rw [eq]
    exact facts
  · obtain ⟨old, rfl, changed, drafted, made⟩ := next
    have eq := contract_eq_draft made (free _ drafted)
    have alike := unchanged_of_draft eq (revised_eq old current)
    refine ⟨current, found, fun previous known => ?_, nofun, rebuild found alike⟩
    cases known
    have revision : contract.revision = old.revision + 1 := by
      rw [eq]
      rfl
    have named : contract.changedFields = changedFields old current := by
      rw [eq]
      rfl
    refine ⟨iff_of_false (fun equal => ?_) fun none_ => changed (changedFields_eq_nil.2 none_), fun _ => ?_⟩
    · rw [equal] at revision
      omega
    refine ⟨revision, by rw [eq]; rfl, named ▸ changed, fun field => ?_⟩
    rw [named, mem_changedFields, alike]

/-- A payload within the limits of the contract, that passes its validators and whose texts are
their own normal forms. -/
structure Admissible (lib : Texts) (draft : TaskContract) : Prop where
  bounded : ∀ fingerprint, isDigest fingerprint = true →
    ({ draft with fingerprint := fingerprint } : TaskContract).bounded = true
  consistent : draft.consistent lib.toLibrary = true
  settled : draft.normal lib.toLibrary = draft

lemma consistent_fingerprint (contract : TaskContract) (fingerprint : String) :
    ({ contract with fingerprint := fingerprint } : TaskContract).consistent lib.toLibrary
      = contract.consistent lib.toLibrary := rfl

lemma payload_fingerprint (contract : TaskContract) (fingerprint : String) :
    ({ contract with fingerprint := fingerprint } : TaskContract).payload = contract.payload := rfl

lemma normal_fingerprint (contract : TaskContract) (fingerprint : String) :
    ({ contract with fingerprint := fingerprint } : TaskContract).normal lib.toLibrary
      = { contract.normal lib.toLibrary with fingerprint := fingerprint } := by
  rw [TaskContract.normal, TaskContract.normal]

lemma valid_fingerprint (consistent : contract.consistent lib.toLibrary = true) :
    ({ contract with fingerprint := taskContractFingerprint lib.toLibrary contract.payload } : TaskContract).valid
      lib.toLibrary = true := by
  rw [TaskContract.valid, consistent_fingerprint, payload_fingerprint, consistent]
  exact decide_eq_true rfl

lemma Admissible.created (admissible : Admissible lib draft)
    (digests : ∀ text, isDigest (lib.sha256 text) = true) :
    (createTaskContract lib.toLibrary draft).isSome := by
  have bounded := admissible.bounded (taskContractFingerprint lib.toLibrary draft.payload) (digests _)
  have valid := valid_fingerprint admissible.consistent
  rw [← admissible.settled, ← normal_fingerprint, admissible.settled] at valid
  unfold createTaskContract TaskContract.validate
  rw [bounded, valid]
  rfl

lemma build_isSome {previous : Option TaskContract}
    (digests : ∀ text, isDigest (lib.sha256 text) = true)
    (found : payload lib registry input = some current)
    (admissible : ∀ draft, created lib registry input previous = some draft → Admissible lib draft) :
    (build lib registry input previous).isSome := by
  unfold build
  rw [found]
  cases previous with
  | none => exact (admissible current (created_first found)).created digests
  | some old =>
    dsimp only
    split
    next => rfl
    next changed =>
      exact (admissible _ (created_next found changed)).created digests

/-- In every run of builds whose fingerprinted texts do not collide: a build returns the contract
before it exactly where no contracted field has changed, and else the next revision, which names that
contract and the fields in which it differs; and the same inputs build the same contract again.
A build with admissible parts returns a contract. -/
theorem task_contract_lineage (lib : Texts) (registry : List (String × Factory)) :
    (∀ start moves final, Lib.Path (buildSystem lib registry) start moves final →
      Set.InjOn lib.sha256 (hashed lib registry moves) → ∀ move ∈ moves, ∃ current contract,
        payload lib registry move.action = some current ∧ move.after = some contract ∧
        (∀ previous, move.before = some previous → Lineage previous current contract) ∧
        (move.before = none →
          contract.revision = 1 ∧ contract.parentFingerprint = none ∧ contract.changedFields = []) ∧
        build lib registry move.action (some contract) = some contract) ∧
      ((∀ text, isDigest (lib.sha256 text) = true) → ∀ input previous current,
        payload lib registry input = some current →
        (∀ draft, created lib registry input previous = some draft → Admissible lib draft) →
        (build lib registry input previous).isSome) := by
  refine ⟨fun start moves final path injective move member => ?_,
    fun digests input previous current found admissible => build_isSome digests found admissible⟩
  obtain ⟨returned, after⟩ := path.step_of_mem member
  obtain ⟨contract, built⟩ := Option.isSome_iff_exists.1 returned
  obtain ⟨current, found, lineage, first, again⟩ :=
    lineage_of_build built fun draft made => free_of_injOn injective member made
  exact ⟨current, contract, found, after.trans built, lineage, first, again⟩

/-- The digests of the two texts that are hashed before the payload is. -/
def sampleTexts : Texts where
  toLibrary := { sampleLibrary with
    sha256 := fun text =>
      if text = "[]" then "4f53cda18c2baa0c0354bb5f9a3ecbe5ed12ab4d8e11ba873c2f11161202b945"
      else "6cb3814143316d4771b1a7dd993ce83caba2008e7f142df64e8288323c4b6040" }
  repr := fun _ => ""

def blankIntent : RunIntent :=
  { sampleIntent with
    route := "KNOWLEDGE"
    resolvedSlots := [⟨"task_constraints", .arr [.str ""], .input, "request", 100,
      "6cb3814143316d4771b1a7dd993ce83caba2008e7f142df64e8288323c4b6040"⟩] }

def blankInput : BuildInput :=
  ⟨blankIntent.normal sampleTexts.toLibrary, { Security.samplePrincipal with roles := [], permissions := [] }, [],
    8, 60, 1000, 1000, "1"⟩

lemma payload_constraints (found : payload lib registry input = some current) :
    current.constraints = constraints lib input.intent := by
  unfold payload at found
  simp only [Option.bind_eq_bind, Option.bind_eq_some_iff] at found
  obtain ⟨_, -, _, -, _, -, _, -, _, -, _, -, _, -, made⟩ := found
  cases made
  rfl

lemma build_of_blank {text : String} (inside : text ∈ constraints lib input.intent)
    (blank : normalText lib.toLibrary text = "") : build lib registry input none = none := by
  cases built : build lib registry input none with
  | none => rfl
  | some contract =>
    obtain ⟨current, found, ⟨absent, -⟩ | ⟨-, -, made⟩ | ⟨_, absent, -⟩⟩ := build_cases built
    · cases absent
    · obtain ⟨filled, consistent, -⟩ := createTaskContract_ok made
      have texts : validTexts contract.constraints = true := by
        simp only [TaskContract.consistent, Bool.and_eq_true] at consistent
        exact consistent.1.1.1.1.1.1.1.1.1.2
      have kept : contract.constraints = current.constraints.map (normalText lib.toLibrary) := by
        rw [filled, TaskContract.normal]
      rw [kept, payload_constraints found, validTexts, Bool.and_eq_true, List.all_eq_true] at texts
      have fits := texts.1 _ (List.mem_map_of_mem inside)
      rw [blank] at fits
      cases fits
    · cases absent

theorem blank_constraint_refused :
    blankIntent.validate sampleTexts.toLibrary = some (blankIntent.normal sampleTexts.toLibrary) ∧
      build sampleTexts (builtins sampleTexts) blankInput none = none := by
  have accepts : (blankIntent.bounded sampleTexts.toLibrary &&
      (blankIntent.normal sampleTexts.toLibrary).valid sampleTexts.toLibrary) = true := by decide +kernel
  have inside : "" ∈ constraints sampleTexts blankInput.intent := by decide +kernel
  have blank : normalText sampleTexts.toLibrary "" = "" := by decide +kernel
  exact ⟨if_pos accepts, build_of_blank inside blank⟩

def sampleRegistry : List (String × Factory) :=
  [("GENERAL", fun _ _ => some [⟨"general.reply", .knowledge, .optional_, "reply", none, "text", "reply", ["NOTE"]⟩])]

def sampleInput : BuildInput :=
  ⟨{ sampleIntent with route := "GENERAL" },
    { Security.samplePrincipal with roles := [], permissions := [] }, [], 8, 60, 1000, 1000, "1"⟩

def sampleDraft : TaskContract where
  revision := 1
  fingerprint := ""
  parentFingerprint := none
  goal := "How many orders?"
  sourceScope := ⟨.noExternalSource, [], false⟩
  objects := []
  timeWindow := none
  accuracy := ⟨.nonFactual, false, false, false⟩
  deliverables := [⟨.answer, .auto⟩]
  constraints := constraints sampleTexts sampleInput.intent
  allowedEnvironments := ["no-external-execution"]
  authority := ⟨(Security.sampleId 1).str, (Security.sampleId 2).str,
    "4f53cda18c2baa0c0354bb5f9a3ecbe5ed12ab4d8e11ba873c2f11161202b945",
    "4f53cda18c2baa0c0354bb5f9a3ecbe5ed12ab4d8e11ba873c2f11161202b945"⟩
  budget := ⟨8, 60, 1000, 1000, "1"⟩
  successCriteria := ["The response remains inside the non-factual conversation scope."]
  dimensions := [⟨"general.reply", .knowledge, .optional_, "reply", none, "text", "reply", ["NOTE"]⟩]
  changedFields := []
  invalidatedOutputs := []

lemma sampleDraft_facts : payload sampleTexts sampleRegistry sampleInput = some sampleDraft ∧
    sampleDraft.normal sampleTexts.toLibrary = sampleDraft ∧
      sampleDraft.consistent sampleTexts.toLibrary = true ∧
        ({ sampleDraft with fingerprint := sampleTexts.sha256 "" } : TaskContract).bounded = true := by
  decide +kernel

lemma payload_sample : payload sampleTexts sampleRegistry sampleInput = some sampleDraft :=
  sampleDraft_facts.1

lemma sampleDraft_settled : sampleDraft.normal sampleTexts.toLibrary = sampleDraft :=
  sampleDraft_facts.2.1

lemma sample_digests (text : String) : isDigest (sampleTexts.sha256 text) = true := by
  change isDigest (if text = "[]" then _ else _) = true
  split <;> decide +kernel

lemma bounded_fingerprint (draft : TaskContract) {other : String}
    (digest : isDigest fingerprint = true) (digest' : isDigest other = true) :
    ({ draft with fingerprint := fingerprint } : TaskContract).bounded =
      ({ draft with fingerprint := other } : TaskContract).bounded := by
  simp only [TaskContract.bounded, digest, digest']

lemma sampleDraft_admissible : Admissible sampleTexts sampleDraft where
  bounded := by
    intro fingerprint digest
    exact (bounded_fingerprint sampleDraft digest (sample_digests "")).trans sampleDraft_facts.2.2.2
  consistent := sampleDraft_facts.2.2.1
  settled := sampleDraft_settled

/-- A first build and the same build after it. -/
theorem task_contract_lineage_sample : ∃ contract,
    build sampleTexts sampleRegistry sampleInput none = some contract ∧ contract.revision = 1 ∧
      build sampleTexts sampleRegistry sampleInput (some contract) = some contract := by
  obtain ⟨runs, builds⟩ := task_contract_lineage sampleTexts sampleRegistry
  have drafted : created sampleTexts sampleRegistry sampleInput none = some sampleDraft :=
    created_first payload_sample
  have returned := builds sample_digests sampleInput none sampleDraft payload_sample fun draft made => by
    rw [drafted] at made
    exact Option.some.inj made ▸ sampleDraft_admissible
  obtain ⟨contract, built⟩ := Option.isSome_iff_exists.1 returned
  have path : Lib.Path (buildSystem sampleTexts sampleRegistry) none [⟨none, sampleInput, some contract⟩]
      (some contract) := .cons sampleInput ⟨returned, built.symm⟩ (.nil _)
  have one : ∀ text ∈ hashed sampleTexts sampleRegistry [⟨none, sampleInput, some contract⟩],
      text = canonicalText sampleDraft := by
    rintro text ⟨move, member, draft, made, same⟩
    cases List.mem_singleton.1 member
    obtain rfl := Option.some.inj (drafted.symm.trans made)
    rwa [sampleDraft_settled, or_self] at same
  have injective : Set.InjOn sampleTexts.sha256 (hashed sampleTexts sampleRegistry _) :=
    fun text inside other found _ => (one text inside).trans (one other found).symm
  obtain ⟨_, other, -, after, -, first, again⟩ := runs _ _ _ path injective _ List.mem_cons_self
  cases after
  exact ⟨contract, built, (first rfl).1, again⟩

/-! ## What a change invalidates -/

variable {old : TaskContract}

def Remeasured (previous current : TaskContract) : Prop :=
  {name | name ∈ metricNames previous} ≠ {name | name ∈ metricNames current} ∨
    previous.timeWindow ≠ current.timeWindow

def taskContractInvalidates (contract : Option TaskContract) (output : InvalidatedOutput) : Bool :=
  contract.any fun contract => contract.invalidatedOutputs.contains output

def semanticHistoryInvalidated (contract : Option TaskContract) : Bool :=
  taskContractInvalidates contract .dataQuery || taskContractInvalidates contract .statistics

variable {changed more : List ChangedField}

lemma any_mono {fields : List ChangedField} (within : changed ⊆ more) (found : fields.any changed.contains = true) :
    fields.any more.contains = true := by
  simp only [List.any_eq_true, List.contains_iff_mem] at found ⊢
  obtain ⟨field, mem, inside⟩ := found
  exact ⟨field, mem, within inside⟩

lemma invalidations_mono (within : changed ⊆ more) :
    invalidations previous current changed ⊆ invalidations previous current more := by
  intro output mem
  have kept : ∀ fields : List ChangedField, fields.any changed.contains = true → fields.any more.contains = true :=
    fun _ => any_mono within
  simp only [invalidations, List.mem_filter] at mem ⊢
  refine ⟨mem.1, ?_⟩
  cases output <;> simp only [Bool.or_eq_true] at mem ⊢ <;> grind

lemma sameMembers_iff {left right : List String} :
    sameMembers left right = true ↔ {name | name ∈ left} = {name | name ∈ right} := by
  simp only [sameMembers, Bool.and_eq_true, List.all_eq_true, decide_eq_true_eq, Set.ext_iff, Set.mem_ofPred_eq,
    iff_iff_implies_and_implies, forall_and]

lemma timeWindow_changed : .timeWindow ∈ changedFields previous current ↔ previous.timeWindow ≠ current.timeWindow := by
  rw [mem_changedFields]
  exact decide_eq_true_iff

lemma remeasured_iff : ([ChangedField.timeWindow].any (changedFields previous current).contains
    || !sameMembers (metricNames previous) (metricNames current)) = true ↔ Remeasured previous current := by
  rw [Bool.or_eq_true, List.any_cons, List.any_nil, Bool.or_false, List.contains_iff_mem, timeWindow_changed,
    Bool.not_eq_true', ← Bool.not_eq_true, sameMembers_iff, Remeasured, or_comm]

lemma mem_query (query : output = .dataQuery ∨ output = .statistics) :
    output ∈ invalidations previous current (changedFields previous current) ↔ Remeasured previous current := by
  rw [← remeasured_iff]
  obtain rfl | rfl := query <;> exact List.mem_filter.trans (and_iff_right (by decide))

lemma mem_review (review : output ≠ .dataQuery ∧ output ≠ .statistics)
    (apart : previous.objects ≠ current.objects ∨ previous.sourceScope ≠ current.sourceScope) :
    output ∈ invalidations previous current (changedFields previous current) := by
  have touched : ([.sourceScope, .objects, .authority, .dimensions, .goal, .accuracy, .constraints,
      .successCriteria] : List ChangedField).any (changedFields previous current).contains = true := by
    rw [List.any_eq_true]
    obtain objects | scope := apart
    · exact ⟨.objects, by decide, List.contains_iff_mem.2 (mem_changedFields.2 (decide_eq_true objects))⟩
    exact ⟨.sourceScope, by decide, List.contains_iff_mem.2 (mem_changedFields.2 (decide_eq_true scope))⟩
  refine List.mem_filter.2 ⟨by cases output <;> decide, ?_⟩
  cases output <;> simp_all

lemma revised_of_build (built : build lib registry input (some old) = some contract)
    (free : ∀ draft, created lib registry input (some old) = some draft → Free lib draft) :
    contract = old ∨ ∃ current, contract = { revised old current with fingerprint := contract.fingerprint } := by
  obtain ⟨current, -, ⟨kept, -⟩ | ⟨absent, -⟩ | ⟨_, eq, -, drafted, made⟩⟩ := build_cases built
  · exact .inl (Option.some.inj kept).symm
  · cases absent
  · cases eq
    exact .inr ⟨current, contract_eq_draft made (free _ drafted)⟩

lemma remeasured_congr (eq : contract = { revised old current with fingerprint := contract.fingerprint }) :
    Remeasured old contract ↔ Remeasured old current := by
  rw [eq]
  rfl

/-- What a build invalidates.  A change of the metrics or of the time window invalidates queries and
statistics, and no other change does; a change of the objects or of the sources invalidates the
rest.  More changed fields invalidate more. -/
theorem invalidation_of_queries (lib : Texts) (registry : List (String × Factory)) (input : BuildInput)
    (previous contract : TaskContract) (built : build lib registry input (some previous) = some contract)
    (free : ∀ draft, created lib registry input (some previous) = some draft → Free lib draft) :
    (Remeasured previous contract →
      .dataQuery ∈ contract.invalidatedOutputs ∧ .statistics ∈ contract.invalidatedOutputs) ∧
    (contract ≠ previous → ∀ output, (output = .dataQuery ∨ output = .statistics →
        (output ∈ contract.invalidatedOutputs ↔ Remeasured previous contract)) ∧
      (output ≠ .dataQuery ∧ output ≠ .statistics →
        previous.objects ≠ contract.objects ∨ previous.sourceScope ≠ contract.sourceScope →
        output ∈ contract.invalidatedOutputs)) ∧
    (contract ≠ previous →
      (semanticHistoryInvalidated (some contract) = true ↔ Remeasured previous contract)) ∧
    ∀ (current : TaskContract) (changed more : List ChangedField), changed ⊆ more →
      invalidations previous current changed ⊆ invalidations previous current more := by
  have mono : ∀ (current : TaskContract) (changed more : List ChangedField), changed ⊆ more →
      invalidations previous current changed ⊆ invalidations previous current more :=
    fun _ _ _ within => invalidations_mono within
  obtain rfl | ⟨current, same⟩ := revised_of_build built free
  · refine ⟨fun apart => ?_, fun apart => absurd rfl apart, fun apart => absurd rfl apart, mono⟩
    obtain metrics | window := apart
    · exact absurd rfl metrics
    exact absurd rfl window
  · have outputs : contract.invalidatedOutputs = invalidations previous current (changedFields previous current) := by
      rw [same]
      rfl
    have query : ∀ {output : InvalidatedOutput}, output = .dataQuery ∨ output = .statistics →
        (output ∈ contract.invalidatedOutputs ↔ Remeasured previous contract) := by
      intro output named
      rw [outputs, mem_query named, remeasured_congr same]
    refine ⟨fun apart => ⟨(query (Or.inl rfl)).2 apart, (query (Or.inr rfl)).2 apart⟩,
      fun _ output => ⟨query, fun review apart => ?_⟩, fun _ => ?_, mono⟩
    · rw [outputs]
      refine mem_review review ?_
      rw [same] at apart
      exact apart
    · rw [semanticHistoryInvalidated, Bool.or_eq_true]
      exact (or_congr (List.contains_iff_mem.trans (query (Or.inl rfl)))
        (List.contains_iff_mem.trans (query (Or.inr rfl)))).trans (or_self_iff)

/-! ## Sources and dimensions that change -/

/-- `sampleInput` with an attachment and a dimension. -/
def scopedInput : BuildInput :=
  { sampleInput with
    intent := { sampleInput.intent with dimensions := [[("id", .str "region")]] }
    attachmentRefs := [[("type", .str "artifact"), ("artifact_id", .str (Security.sampleId 1).str)]] }

def scopedDraft : TaskContract :=
  { sampleDraft with
    sourceScope := ⟨.exactAttachments, [⟨.attachment, (Security.sampleId 1).str, none⟩], false⟩
    objects := [⟨.attachment, (Security.sampleId 1).str, none⟩, ⟨.dimension, "region", none⟩] }

/-- The revision of a contract of `sampleDraft` with that fingerprint. -/
def scopedRevision (fingerprint : String) : TaskContract :=
  { scopedDraft with
    revision := 2, parentFingerprint := some fingerprint
    changedFields := [.sourceScope, .objects]
    invalidatedOutputs := [.plan, .evidenceReview, .claims, .artifacts] }

lemma scopedDraft_facts : (payload sampleTexts sampleRegistry scopedInput = some scopedDraft ∧
      changedFields sampleDraft scopedDraft = [.sourceScope, .objects]) ∧
    (scopedDraft.sourceScope.normal sampleTexts.toLibrary = scopedDraft.sourceScope ∧
      scopedDraft.objects.map (TaskObject.normal sampleTexts.toLibrary) = scopedDraft.objects) ∧
    (scopedDraft.sourceScope.bounded && scopedDraft.objects.length ≤ 200
      && scopedDraft.objects.all TaskObject.bounded) = true ∧
    (scopedDraft.sourceScope.valid && scopedDraft.objects.all TaskObject.valid
      && Decidable.decide (scopedDraft.objects.map fun item => (item.kind, item.identifier)).Nodup
      && (scopedRevision "").numbers.all isPrintable) = true := by
  decide +kernel

lemma payload_scoped : payload sampleTexts sampleRegistry scopedInput = some scopedDraft :=
  scopedDraft_facts.1.1

lemma changedFields_scoped (fingerprint : String) :
    changedFields { sampleDraft with fingerprint := fingerprint } scopedDraft = [.sourceScope, .objects] :=
  scopedDraft_facts.1.2

lemma revised_scoped (fingerprint : String) :
    revised { sampleDraft with fingerprint := fingerprint } scopedDraft = scopedRevision fingerprint := by
  rw [revised, changedFields_scoped]
  rfl

lemma scopedRevision_settled (fingerprint : String) :
    (scopedRevision fingerprint).normal sampleTexts.toLibrary = scopedRevision fingerprint := by
  obtain ⟨scope, objects⟩ := scopedDraft_facts.2.1
  have parts : (scopedRevision fingerprint).normal sampleTexts.toLibrary =
      { sampleDraft.normal sampleTexts.toLibrary with
        revision := 2, parentFingerprint := some fingerprint
        sourceScope := scopedDraft.sourceScope.normal sampleTexts.toLibrary
        objects := scopedDraft.objects.map (TaskObject.normal sampleTexts.toLibrary)
        changedFields := [.sourceScope, .objects]
        invalidatedOutputs := [.plan, .evidenceReview, .claims, .artifacts] } := by
    rw [TaskContract.normal, TaskContract.normal]
    rfl
  rw [parts, scope, objects, sampleDraft_settled]
  rfl

lemma scopedRevision_admissible (digest : isDigest fingerprint = true) :
    Admissible sampleTexts (scopedRevision fingerprint) where
  bounded := by
    intro other own
    have fits := scopedDraft_facts.2.2.1
    have rest := sampleDraft_admissible.bounded other own
    simp only [TaskContract.bounded, Bool.and_eq_true] at fits rest ⊢
    grind [scopedRevision, scopedDraft]
  consistent := by
    have fits := scopedDraft_facts.2.2.2
    have rest := sampleDraft_facts.2.2.1
    have numbers : (scopedRevision fingerprint).numbers = (scopedRevision "").numbers := rfl
    simp only [TaskContract.consistent, Bool.and_eq_true] at fits rest ⊢
    rw [numbers]
    grind [scopedRevision, scopedDraft]
  settled := scopedRevision_settled fingerprint

lemma build_first (found : payload lib registry input = some current) :
    build lib registry input none = createTaskContract lib.toLibrary current := by
  unfold build
  rw [found]

lemma build_next (found : payload lib registry input = some current) (changed : changedFields old current ≠ []) :
    build lib registry input (some old) = createTaskContract lib.toLibrary (revised old current) := by
  unfold build
  rw [found]
  exact if_neg changed

lemma Admissible.exists_created (admissible : Admissible sampleTexts draft) : ∃ contract,
    createTaskContract sampleTexts.toLibrary draft = some contract ∧
      contract = { draft with fingerprint := contract.fingerprint } ∧ isDigest contract.fingerprint = true := by
  obtain ⟨contract, made⟩ := Option.isSome_iff_exists.1 (admissible.created sample_digests)
  have named := contract_eq_draft made fun _ => by rw [admissible.settled]
  have hashed : contract.fingerprint = taskContractFingerprint sampleTexts.toLibrary draft.payload := by
    rw [(createTaskContract_ok made).1]
  refine ⟨contract, made, named, ?_⟩
  rw [hashed, taskContractFingerprint]
  exact sample_digests _

/-- A first contract of `sampleInput`, and the revision of it for `scopedInput`. -/
lemma scoped_builds : ∃ first second,
    build sampleTexts sampleRegistry sampleInput none = some first ∧
      build sampleTexts sampleRegistry scopedInput (some first) = some second ∧
      (∀ draft, created sampleTexts sampleRegistry scopedInput (some first) = some draft → Free sampleTexts draft) ∧
      first ≠ second ∧ first.objects = [] ∧ first.sourceScope = sampleDraft.sourceScope ∧
      second.objects = scopedDraft.objects ∧ second.sourceScope = scopedDraft.sourceScope ∧
      second.invalidatedOutputs = [.plan, .evidenceReview, .claims, .artifacts] := by
  obtain ⟨first, made, named, digest⟩ := sampleDraft_admissible.exists_created
  obtain ⟨second, remade, renamed, -⟩ := (scopedRevision_admissible digest).exists_created
  have changed : changedFields first scopedDraft ≠ [] := by
    rw [named, changedFields_scoped]
    exact List.cons_ne_nil _ _
  have draft : revised first scopedDraft = scopedRevision first.fingerprint := by
    rw [named]
    exact revised_scoped _
  have before : first.objects = [] ∧ first.sourceScope = sampleDraft.sourceScope := by
    rw [named]
    exact ⟨rfl, rfl⟩
  have after : second.objects = scopedDraft.objects ∧ second.sourceScope = scopedDraft.sourceScope ∧
      second.invalidatedOutputs = [.plan, .evidenceReview, .claims, .artifacts] := by
    rw [renamed]
    exact ⟨rfl, rfl, rfl⟩
  refine ⟨first, second, (build_first payload_sample).trans made, ?_, fun other drafted _ => ?_, fun eq => ?_,
    before.1, before.2, after⟩
  · rw [build_next payload_scoped changed, draft]
    exact remade
  · rw [created_next payload_scoped changed, draft] at drafted
    cases drafted
    rw [scopedRevision_settled]
  · rw [← eq, before.1] at after
    cases after.1

/-- A revision with another source and another dimension leaves the data query as it is. -/
theorem scope_keeps_query : ∃ first second,
    build sampleTexts sampleRegistry sampleInput none = some first ∧
      build sampleTexts sampleRegistry scopedInput (some first) = some second ∧
      first.objects.filter (fun item => item.kind = .dimension) ≠
        second.objects.filter (fun item => item.kind = .dimension) ∧
      first.sourceScope ≠ second.sourceScope ∧ .dataQuery ∉ second.invalidatedOutputs := by
  obtain ⟨first, second, built, rebuilt, -, -, objects, scope, objects', scope', outputs⟩ := scoped_builds
  refine ⟨first, second, built, rebuilt, ?_, ?_, ?_⟩
  · rw [objects, objects']
    decide
  · rw [scope, scope']
    decide
  · rw [outputs]
    decide

/-- The claims of that revision are reviewed again. -/
theorem scope_invalidates_claims : ∃ first second,
    build sampleTexts sampleRegistry scopedInput (some first) = some second ∧
      .claims ∈ second.invalidatedOutputs := by
  obtain ⟨first, second, -, rebuilt, free, apart, objects, -, objects', -⟩ := scoped_builds
  have facts := invalidation_of_queries sampleTexts sampleRegistry scopedInput first second rebuilt free
  refine ⟨first, second, rebuilt, (facts.2.1 apart.symm .claims).2 (by decide) (Or.inl ?_)⟩
  rw [objects, objects']
  decide

end Obsion.Harness.Contracts
