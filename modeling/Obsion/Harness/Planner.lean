import Obsion.Harness.Runtime

/-! # The planner

`Planner.create`.  The steps of each route are a function of their own, with the
lemma that they depend on earlier steps only beside it; an `ExecutionPlan` carries
that fact. -/

namespace Obsion.Harness

structure SelectedDocument where
  documentId : String
  version : Int

/-- The fields of `understanding` that the planner reads. -/
structure Understanding where
  route : String
  question : String
  timeRange : Json
  organizationSearchAllowed : Bool
  selectedDocuments : List SelectedDocument
  repository : Option Json
  service : Option Json
  metrics : Option Json

structure CompiledDataQuery where
  sql : Json
  parameters : Json
  parameterTypes : Json
  columnMasks : Option Json
  lineage : Fields
  metric : Json
  dimensions : Json
  validation : Json
  environment : String

def canSelect (available : Option (List String)) (capability : String) : Bool :=
  match available with
  | none => true
  | some available => capability ∈ available

lemma Backward.nil : Backward [] := by
  intro index step found
  simp at found

variable {steps : List PlannedStep}

lemma Backward.concat {step : PlannedStep} (backward : Backward steps)
    (earlier : ∀ dependency ∈ step.dependsOn, 1 ≤ dependency ∧ dependency ≤ steps.length) :
    Backward (steps ++ [step]) := by
  intro index found located dependency mem
  by_cases inside : index < steps.length
  · rw [List.getElem?_append_left inside] at located
    exact backward index found located dependency mem
  have last := (List.getElem?_eq_some_iff.1 located).1
  simp only [List.length_append, List.length_singleton] at last
  have position : index = steps.length := by omega
  rw [position, List.getElem?_concat_length] at located
  cases located
  have bounds := earlier dependency mem
  omega

lemma Backward.of_free (free : ∀ step ∈ steps, step.dependsOn = []) : Backward steps := by
  intro index step located dependency mem
  rw [free step (List.mem_of_getElem? located)] at mem
  cases mem

section
variable (settings : Settings) (understanding : Understanding) (available : Option (List String))

def resourceSteps : List PlannedStep :=
  if canSelect available "data.query" then
    [{ name := "Request governed production data access", capability := "data.query"
       payload :=
         [("request", .str understanding.question), ("purpose", .str "direct_resource_access")]
       resource :=
         [("environment", .str "production"), ("resource_type", .str "database"),
           ("access", .str "read")]
       environment := "production", dependsOn := [] }]
  else []

def documentSteps : List PlannedStep :=
  (understanding.selectedDocuments.filter fun _ => canSelect available "document.read").map
    fun document =>
      { name := "Read selected authorized document", capability := "document.read"
        payload :=
          [("operation", .str "document.read"), ("document_id", .str document.documentId),
            ("version", .int document.version), ("offset", .int 0), ("limit", .int 4)]
        resource := [("index", .str "organization"), ("document_id", .str document.documentId)]
        environment := "development", dependsOn := [] }

def knowledgeSteps : List PlannedStep :=
  if canSelect available "knowledge.search" then
    [{ name := "Search authorized enterprise knowledge", capability := "knowledge.search"
       payload := [("query", .str understanding.question), ("limit", .int 8)]
       resource := [("index", .str "organization")], environment := "development"
       dependsOn := [] }]
  else []

def dataSteps (compiled : CompiledDataQuery) : List PlannedStep :=
  if canSelect available "data.query" then
    [{ name := "Execute governed read-only query", capability := "data.query"
       payload :=
         [("sql", compiled.sql), ("parameters", compiled.parameters),
           ("parameter_types", compiled.parameterTypes),
           ("column_masks", compiled.columnMasks.getD (.obj []))]
       resource :=
         Fields.set (Fields.set (Fields.set compiled.lineage "metric" compiled.metric)
           "dimensions" compiled.dimensions) "validation" compiled.validation
       environment := compiled.environment, dependsOn := [] }]
  else []

lemma resourceSteps_backward : Backward (resourceSteps understanding available) := by
  apply Backward.of_free
  intro step mem
  unfold resourceSteps at mem
  split at mem
  · rw [List.mem_singleton.1 mem]
  cases mem

lemma documentSteps_backward : Backward (documentSteps understanding available) := by
  apply Backward.of_free
  intro step mem
  obtain ⟨document, _, rfl⟩ := List.mem_map.1 mem
  rfl

lemma knowledgeSteps_backward : Backward (knowledgeSteps understanding available) := by
  apply Backward.of_free
  intro step mem
  unfold knowledgeSteps at mem
  split at mem
  · rw [List.mem_singleton.1 mem]
  cases mem

lemma dataSteps_backward (compiled : CompiledDataQuery) :
    Backward (dataSteps available compiled) := by
  apply Backward.of_free
  intro step mem
  unfold dataSteps at mem
  split at mem
  · rw [List.mem_singleton.1 mem]
  cases mem

def repositoryText : Json := .str (textOr settings understanding.repository "*")

def symbolStep : PlannedStep :=
  { name := "Resolve authorized source symbols", capability := "code.symbol"
    payload :=
      [("operation", .str "code.symbol"), ("query", .str understanding.question),
        ("repository", repositoryText settings understanding)]
    resource := [("index", .str "organization"), ("scope", .str "authorized-code-graph")]
    environment := "development", dependsOn := [] }

def codeGraphStep (name capability : String) (dependsOn : List Nat) : PlannedStep :=
  { name
    capability
    payload :=
      [("operation", .str capability), ("symbol", .str understanding.question),
        ("repository", repositoryText settings understanding)]
    resource := [("index", .str "organization"), ("scope", .str "authorized-code-graph")]
    environment := "development"
    dependsOn }

def codeSearchStep : PlannedStep :=
  { name := "Search source code", capability := "code.search"
    payload :=
      [("operation", .str "code.search"), ("repository", repositoryText settings understanding),
        ("query", .str understanding.question)]
    resource := [("scope", .str "authorized-repositories")], environment := "production"
    dependsOn := [] }

/-- A step of the code graph after the steps found so far, where there are any. -/
def traceStep (name capability : String) (dependsOn : List Nat) (steps : List PlannedStep) :
    List PlannedStep :=
  if canSelect available capability && !steps.isEmpty then
    steps ++ [codeGraphStep settings understanding name capability dependsOn]
  else steps

def engineeringSteps : List PlannedStep :=
  let symbols :=
    if canSelect available "code.symbol" then [symbolStep settings understanding] else []
  let references :=
    traceStep settings understanding available "Find symbol references" "code.reference" [1] symbols
  let callers :=
    traceStep settings understanding available "Traverse callers" "code.callers"
      [references.length] references
  if callers.isEmpty && canSelect available "code.search" then
    callers ++ [codeSearchStep settings understanding]
  else callers

def supportSteps : List PlannedStep :=
  let tickets : List PlannedStep :=
    if understanding.organizationSearchAllowed && canSelect available "ticket.search" then
      [{ name := "Search authorized support tickets", capability := "ticket.search"
         payload :=
           [("operation", .str "ticket.search"), ("query", .str understanding.question),
             ("limit", .int 8)]
         resource := [("index", .str "organization"), ("source", .str "ticket")]
         environment := "development", dependsOn := [] }]
    else []
  if understanding.organizationSearchAllowed && canSelect available "knowledge.search" then
    tickets ++
      [{ name := "Search authorized support knowledge", capability := "knowledge.search"
         payload := [("query", .str understanding.question), ("limit", .int 8)]
         resource := [("index", .str "organization")], environment := "development"
         dependsOn := if tickets.isEmpty then [] else [tickets.length] }]
  else tickets

lemma traceStep_backward (name capability : String) {dependency : Nat}
    {steps : List PlannedStep} (backward : Backward steps)
    (earlier : 1 ≤ steps.length → 1 ≤ dependency ∧ dependency ≤ steps.length) :
    Backward (traceStep settings understanding available name capability [dependency] steps) := by
  unfold traceStep
  split
  · next selected =>
    simp only [Bool.and_eq_true, Bool.not_eq_true', List.isEmpty_eq_false_iff] at selected
    refine backward.concat ?_
    intro other mem
    rw [codeGraphStep, List.mem_singleton] at mem
    rw [mem]
    exact earlier (List.length_pos_iff.2 selected.2)
  · exact backward

lemma engineeringSteps_backward : Backward (engineeringSteps settings understanding available) := by
  have symbols : Backward
      (if canSelect available "code.symbol" then [symbolStep settings understanding] else []) := by
    split
    · exact Backward.concat Backward.nil (by simp [symbolStep])
    exact Backward.nil
  have references := traceStep_backward settings understanding available "Find symbol references"
    "code.reference" symbols fun filled => ⟨Nat.le_refl 1, filled⟩
  have callers := traceStep_backward settings understanding available "Traverse callers"
    "code.callers" references fun filled => ⟨filled, Nat.le_refl _⟩
  have searched : ∀ steps : List PlannedStep, Backward steps →
      Backward (if steps.isEmpty && canSelect available "code.search" then
        steps ++ [codeSearchStep settings understanding] else steps) := by
    intro steps backward
    split
    · exact backward.concat (by simp [codeSearchStep])
    exact backward
  exact searched _ callers

lemma supportSteps_backward : Backward (supportSteps understanding available) := by
  unfold supportSteps
  simp only
  split
  · split
    · refine Backward.concat (Backward.concat Backward.nil (by simp)) ?_
      simp
    exact Backward.concat Backward.nil (by simp)
  · split
    · exact Backward.concat Backward.nil (by simp)
    exact Backward.nil

/-! ## OPERATION and INCIDENT -/

structure PlannedCapability where
  name : String
  capability : String
  evidenceType : String
  dependsOn : List Nat := []

def operationCapabilities : List PlannedCapability :=
  [⟨"Inspect Kubernetes workload status", "k8s.status", "TOOL", []⟩,
   ⟨"List authorized deployments", "deployment.list", "DEPLOYMENT", []⟩,
   ⟨"Read effective configuration", "config.get", "CONFIG", []⟩,
   ⟨"Compare configuration", "config.diff", "CONFIG", []⟩,
   ⟨"Search authorized operational logs", "log.search", "LOG", []⟩,
   ⟨"Query metric baseline", "metric.query", "METRIC", []⟩]

def incidentCapabilities : List PlannedCapability :=
  [⟨"Query metric baseline", "metric.query", "METRIC", []⟩,
   ⟨"Compare metric periods", "metric.compare", "METRIC", [1]⟩,
   ⟨"Locate metric anomaly", "metric.anomaly", "METRIC", [2]⟩,
   ⟨"Drill down dimensions", "metric.dimension", "METRIC", [3]⟩,
   ⟨"Correlate deployments", "deployment.list", "DEPLOYMENT", [4]⟩,
   ⟨"Aggregate error logs", "log.aggregate", "LOG", [5]⟩,
   ⟨"Search production logs", "log.search", "LOG", [6]⟩,
   ⟨"Search representative traces", "trace.search", "TRACE", [7]⟩,
   ⟨"Compare configuration", "config.diff", "CONFIG", [7]⟩,
   ⟨"Inspect Kubernetes workload status", "k8s.status", "TOOL", [7]⟩,
   ⟨"Inspect deployed code change", "git.diff", "GIT", [7]⟩]

/-- The payload that the operation and the incident steps share. -/
def operationPayload (capability : String) : Fields :=
  let payload : Fields :=
    [("operation", .str capability), ("query", .str understanding.question),
      ("service", .str (textOr settings understanding.service "*")),
      ("time_range", understanding.timeRange), ("environment", .str "production")]
  match understanding.timeRange with
  | .obj range =>
    let started :=
      match Fields.get? range "start" with
      | some (.str start) => Fields.set payload "start_time" (.str start)
      | _ => payload
    match Fields.get? range "end" with
    | some (.str stop) => Fields.set started "end_time" (.str stop)
    | _ => started
  | _ => payload

def operationPass (steps : List PlannedStep) (planned : PlannedCapability) : List PlannedStep :=
  if canSelect available planned.capability then
    steps ++
      [{ name := planned.name, capability := planned.capability
         payload := operationPayload settings understanding planned.capability
         resource :=
           [("environment", .str "production"), ("evidence_type", .str planned.evidenceType)]
         environment := "production", dependsOn := if steps.isEmpty then [] else [steps.length] }]
  else steps

def operationSteps : List PlannedStep :=
  operationCapabilities.foldl (operationPass settings understanding available) []

/-- `dict.fromkeys(step.resource["evidence_type"] for step in operation_steps)` -/
def operationEvidence : List String :=
  ((operationCapabilities.filter fun planned =>
    canSelect available planned.capability).map (·.evidenceType)).eraseDups

def metricName : Option String :=
  match understanding.metrics with
  | some (.arr (.obj metric :: _)) =>
    match (Fields.get? metric "name").filter (·.truthy) <|> Fields.get? metric "id" with
    | some (.str name) => if name = "" then none else some name
    | _ => none
  | _ => none

/-- The ordinals of the selected steps by their index in the table. -/
abbrev OrdinalMap := List (Nat × Nat)

def dependencyOrdinals (ordinalMap : OrdinalMap) (dependsOn : List Nat) : List Nat :=
  (dependsOn.filterMap fun dependency =>
    match ordinalMap.find? fun entry => entry.1 == dependency with
    | some entry => some entry.2
    | none => ((ordinalMap.filter fun entry => entry.1 < dependency).map (·.2)).max?).eraseDups

def incidentPass (state : List PlannedStep × OrdinalMap) (item : Nat × PlannedCapability) :
    List PlannedStep × OrdinalMap :=
  let planned := item.2
  if canSelect available planned.capability then
    let ordinalMap := state.2 ++ [(item.1, state.1.length + 1)]
    let operation := operationPayload settings understanding planned.capability
    let measured :=
      match metricName understanding with
      | some name => Fields.set operation "metric" (.str name)
      | none => operation
    let repository :=
      planned.capability ∈ ["git.diff", "git.history", "git.commit", "code.search"]
    let resource : Fields :=
      [("environment", .str "production"), ("evidence_type", .str planned.evidenceType)]
    (state.1 ++
      [{ name := planned.name, capability := planned.capability
         payload :=
           if repository then
             Fields.set measured "repository" (repositoryText settings understanding)
           else measured
         resource :=
           if repository then resource ++ [("repository", repositoryText settings understanding)]
           else resource
         environment := "production"
         dependsOn := dependencyOrdinals ordinalMap planned.dependsOn }],
      ordinalMap)
  else state

def incidentSteps : List PlannedStep :=
  ((incidentCapabilities.mapIdx fun index planned => (index + 1, planned)).foldl
    (incidentPass settings understanding available) ([], [])).1

lemma operationSteps_backward : Backward (operationSteps settings understanding available) := by
  unfold operationSteps
  generalize operationCapabilities = capabilities
  suffices passes : ∀ steps, Backward steps →
      Backward (capabilities.foldl (operationPass settings understanding available) steps) from
    passes [] Backward.nil
  intro steps backward
  induction capabilities generalizing steps with
  | nil => exact backward
  | cons planned rest ih =>
    apply ih
    unfold operationPass
    split
    · refine backward.concat ?_
      intro dependency mem
      cases steps with
      | nil => simp at mem
      | cons first others =>
        simp only [List.isEmpty_cons, Bool.false_eq_true, if_false, List.mem_singleton] at mem
        rw [mem]
        simp
    · exact backward

/-- The ordinals of the map are ordinals of the selected steps. -/
def Mapped (state : List PlannedStep × OrdinalMap) : Prop :=
  ∀ entry ∈ state.2, 1 ≤ entry.2 ∧ entry.2 ≤ state.1.length

lemma dependencyOrdinals_bounds {ordinalMap : OrdinalMap} {dependsOn : List Nat}
    {bound index : Nat}
    (mapped : ∀ entry ∈ ordinalMap, entry.1 < index → 1 ≤ entry.2 ∧ entry.2 ≤ bound)
    (earlier : ∀ dependency ∈ dependsOn, dependency < index) {ordinal : Nat}
    (mem : ordinal ∈ dependencyOrdinals ordinalMap dependsOn) : 1 ≤ ordinal ∧ ordinal ≤ bound := by
  obtain ⟨dependency, depends, found⟩ :=
    List.mem_filterMap.1 (List.mem_eraseDups.1 mem)
  have before := earlier dependency depends
  split at found
  · next entry located =>
    cases found
    have eq := List.find?_some located
    simp only [beq_iff_eq] at eq
    exact mapped entry (List.mem_of_find?_eq_some located) (eq ▸ before)
  · obtain ⟨entry, entryMember, rfl⟩ := List.mem_map.1 (List.max?_mem found)
    obtain ⟨entryMember, prior⟩ := List.mem_filter.1 entryMember
    have less := of_decide_eq_true prior
    exact mapped entry entryMember (by omega)

lemma incidentPass_backward {state : List PlannedStep × OrdinalMap}
    {item : Nat × PlannedCapability} (backward : Backward state.1) (mapped : Mapped state)
    (earlier : ∀ dependency ∈ item.2.dependsOn, dependency < item.1) :
    Backward (incidentPass settings understanding available state item).1 ∧
      Mapped (incidentPass settings understanding available state item) := by
  unfold incidentPass
  simp only
  split
  · constructor
    · refine backward.concat ?_
      intro ordinal mem
      refine dependencyOrdinals_bounds ?_ earlier mem
      intro entry entryMember less
      rcases List.mem_append.1 entryMember with old | new
      · exact mapped entry old
      rw [List.mem_singleton.1 new] at less
      simp at less
    · intro entry entryMember
      simp only [List.length_append, List.length_singleton]
      rcases List.mem_append.1 entryMember with old | new
      · have bounds := mapped entry old
        omega
      rw [List.mem_singleton.1 new]
      simp only
      omega
  · exact ⟨backward, mapped⟩

lemma incidentSteps_backward : Backward (incidentSteps settings understanding available) := by
  have earlier : ∀ item ∈ incidentCapabilities.mapIdx fun index planned => (index + 1, planned),
      ∀ dependency ∈ item.2.dependsOn, dependency < item.1 := by
    decide
  unfold incidentSteps
  generalize (incidentCapabilities.mapIdx fun index planned => (index + 1, planned)) = items
    at earlier ⊢
  suffices passes : ∀ state : List PlannedStep × OrdinalMap, Backward state.1 → Mapped state →
      Backward (items.foldl (incidentPass settings understanding available) state).1 from
    passes ([], []) Backward.nil fun entry mem => by cases mem
  intro state backward mapped
  induction items generalizing state with
  | nil => exact backward
  | cons item rest ih =>
    obtain ⟨passed, passedMapped⟩ := incidentPass_backward settings understanding available
      backward mapped (earlier item List.mem_cons_self)
    exact ih (fun other mem => earlier other (List.mem_cons_of_mem _ mem)) _ passed passedMapped

end

namespace Planner

/-- `create`; the texts of `verification` are left out. -/
def create (settings : Settings) (understanding : Understanding)
    (compiledDataQuery : Option CompiledDataQuery) (available : Option (List String)) :
    ExecutionPlan :=
  let route := understanding.route
  let unplanned (requiredEvidence : List String) : ExecutionPlan :=
    { route, steps := [], requiredEvidence, backward := Backward.nil }
  if route ∈ ["CONVERSATION", "GENERAL"] then unplanned []
  else if route = "RESOURCE_ACCESS" then
    { route
      steps := resourceSteps understanding available, requiredEvidence := ["DATA"]
      backward := resourceSteps_backward understanding available }
  else if route = "KNOWLEDGE" then
    if !understanding.selectedDocuments.isEmpty then
      { route
        steps := documentSteps understanding available, requiredEvidence := ["DOCUMENT"]
        backward := documentSteps_backward understanding available }
    else if !understanding.organizationSearchAllowed then unplanned ["DOCUMENT"]
    else
      { route
        steps := knowledgeSteps understanding available, requiredEvidence := ["DOCUMENT"]
        backward := knowledgeSteps_backward understanding available }
  else
    match if route ∈ ["DATA", "ANALYTICS"] then compiledDataQuery else none with
    | some compiled =>
      { route
        steps := dataSteps available compiled, requiredEvidence := ["DATA"]
        backward := dataSteps_backward available compiled }
    | none =>
      if route = "ENGINEERING" then
        { route
          steps := engineeringSteps settings understanding available, requiredEvidence := ["CODE"]
          backward := engineeringSteps_backward settings understanding available }
      else if route = "SUPPORT" then
        { route
          steps := supportSteps understanding available, requiredEvidence := ["DOCUMENT"]
          backward := supportSteps_backward understanding available }
      else if route = "OPERATION" then
        { route
          steps := operationSteps settings understanding available
          requiredEvidence := operationEvidence available
          backward := operationSteps_backward settings understanding available }
      else if route ≠ "INCIDENT" then unplanned []
      else
        { route
          steps := incidentSteps settings understanding available
          requiredEvidence := ["METRIC", "DEPLOYMENT", "LOG"]
          backward := incidentSteps_backward settings understanding available }

end Planner

end Obsion.Harness
