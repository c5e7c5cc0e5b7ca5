import Obsion.AppServer.Mutate

/-! # What a handler leaves behind

A handler only appends writes, and none of its branches depends on the ledger.  `Ends` says
which writes it leaves with a value and which with an error of the domain.  An error leaves
the records of the source access checks, or the expiry that it reports, unless it was raised
after the first write of the operation: by an event append, by the capture of a
conversation, or by the projection of a cancelled Run. -/

namespace Obsion.AppServer

open Obsion.Lib
open Obsion.Events (EventDraft)
open Obsion.Harness (RunStatus isTerminal validateRunTransition allowedRunTransitions)
open Obsion.Threads (Thread Turn archived resumed forkTitle forkPoint nextOrdinal)

def Entry.plus (entry : Entry) (writes : List Write) : Entry :=
  { entry with effects := entry.effects ++ writes }

@[simp] lemma Entry.plus_nil (entry : Entry) : entry.plus [] = entry := by
  simp [Entry.plus]

@[simp] lemma Entry.plus_plus (entry : Entry) (first second : List Write) :
    (entry.plus first).plus second = entry.plus (first ++ second) := by
  simp [Entry.plus]

/-- The script appends writes and nothing else: `ok` holds of those before a value, `failed`
of those before an error of the domain. -/
def Ends {α : Type} (script : Body α) (ok : α → List Write → Prop) (failed : List Write → Prop) :
    Prop :=
  ∀ entry, ∃ writes,
    (∃ value, script.run entry = (.ok value, entry.plus writes) ∧ ok value writes) ∨
    ∃ error, script.run entry = (.error (.refused error), entry.plus writes) ∧ failed writes

section
variable {α β : Type} {ok ok' : α → List Write → Prop} {failed failed' : List Write → Prop}

lemma Ends.pure {value : α} (holds : ok value []) : Ends (pure value) ok failed := by
  intro entry
  refine ⟨[], Or.inl ⟨value, ?_, holds⟩⟩
  rw [Entry.plus_nil]
  rfl

lemma Ends.refuse {error : ObsionError} (holds : failed []) :
    Ends (refuse error : Body α) ok failed := by
  intro entry
  refine ⟨[], Or.inr ⟨error, ?_, holds⟩⟩
  rw [Entry.plus_nil]
  rfl

lemma Ends.allow {outcome : Except ObsionError α} (value : ∀ found, outcome = .ok found → ok found [])
    (error : ∀ reason, outcome = .error reason → failed []) : Ends (allow outcome) ok failed := by
  cases outcome with
  | ok found => exact Ends.pure (value found rfl)
  | error reason => exact Ends.refuse (error reason rfl)

lemma Ends.found {resource : String} {row : Option α}
    (value : ∀ found, row = some found → ok found []) (missing : failed []) :
    Ends (found resource row) ok failed := by
  cases row with
  | none => exact Ends.refuse missing
  | some row => exact Ends.pure (value row rfl)

lemma Ends.write {ok : Unit → List Write → Prop} {statement : Write} (holds : ok () [statement]) :
    Ends (write statement) ok failed := by
  intro entry
  exact ⟨[statement], Or.inl ⟨(), rfl, holds⟩⟩

lemma Ends.mono {script : Body α} (ends : Ends script ok failed)
    (value : ∀ found writes, ok found writes → ok' found writes)
    (error : ∀ writes, failed writes → failed' writes) : Ends script ok' failed' := by
  intro entry
  obtain ⟨writes, ⟨found, run, holds⟩ | ⟨reason, run, holds⟩⟩ := ends entry
  · exact ⟨writes, Or.inl ⟨found, run, value found writes holds⟩⟩
  exact ⟨writes, Or.inr ⟨reason, run, error writes holds⟩⟩

lemma Ends.bind {script : Body α} {next : α → Body β} {last : β → List Write → Prop}
    (first : Ends script ok failed) (second : ∀ value writes, ok value writes →
      Ends (next value) (fun result more => last result (writes ++ more))
        (fun more => failed (writes ++ more))) :
    Ends (script >>= next) last failed := by
  intro entry
  obtain ⟨writes, ⟨value, run, holds⟩ | ⟨error, run, holds⟩⟩ := first entry
  · obtain ⟨more, ⟨result, rest, done⟩ | ⟨error, rest, done⟩⟩ :=
      second value writes holds (entry.plus writes)
    · refine ⟨writes ++ more, Or.inl ⟨result, ?_, done⟩⟩
      rw [Script.run_bind, run, ← Entry.plus_plus]
      exact rest
    · refine ⟨writes ++ more, Or.inr ⟨error, ?_, done⟩⟩
      rw [Script.run_bind, run, ← Entry.plus_plus]
      exact rest
  · refine ⟨writes, Or.inr ⟨error, ?_, holds⟩⟩
    rw [Script.run_bind, run]

end

/-! ## Three kinds of scripts -/

def IsAccess (statement : Write) : Prop := ∃ record, statement = .access record

def AccessOnly (writes : List Write) : Prop := ∀ statement ∈ writes, IsAccess statement

lemma accessOnly_nil : AccessOnly [] := by
  intro statement mem
  cases mem

lemma AccessOnly.append {first second : List Write} (left : AccessOnly first)
    (right : AccessOnly second) : AccessOnly (first ++ second) := by
  intro statement mem
  rcases List.mem_append.1 mem with mem | mem
  · exact left statement mem
  exact right statement mem

def Checks {α : Type} (script : Body α) : Prop := Ends script (fun _ => AccessOnly) AccessOnly

def Finishes {α : Type} (late : Prop) (script : Body α) : Prop :=
  Ends script (fun _ _ => True) fun _ => late

/-- A refusal of the script leaves what `Left` allows, if the call is not `late`. -/
def Careful {α : Type} (late : Prop) (Left : List Write → Prop) (script : Body α) : Prop :=
  Ends script (fun _ _ => True) fun writes => late ∨ Left writes

section
variable {α β : Type} {script : Body α} {next : α → Body β} {late : Prop} {Left : List Write → Prop}

lemma Checks.pure {value : α} : Checks (Pure.pure value : Body α) := Ends.pure accessOnly_nil

variable {error : ObsionError} {resource : String}

lemma Checks.refuse : Checks (refuse error : Body α) :=
  Ends.refuse accessOnly_nil

lemma Checks.allow {outcome : Except ObsionError α} : Checks (allow outcome) :=
  Ends.allow (fun _ _ => accessOnly_nil) fun _ _ => accessOnly_nil

lemma Checks.found {row : Option α} : Checks (found resource row) :=
  Ends.found (fun _ _ => accessOnly_nil) accessOnly_nil

lemma Checks.bind (first : Checks script) (second : ∀ value, Checks (next value)) :
    Checks (script >>= next) := by
  refine Ends.bind first ?_
  intro value writes only
  exact (second value).mono (fun _ _ more => only.append more) fun _ more => only.append more

lemma Finishes.pure {value : α} : Finishes late (Pure.pure value : Body α) := Ends.pure trivial

lemma Finishes.write {statement : Write} : Finishes late (write statement) := Ends.write trivial

lemma Finishes.bind (first : Finishes late script) (second : ∀ value, Finishes late (next value)) :
    Finishes late (script >>= next) := by
  refine Ends.bind first ?_
  intro value writes _
  exact (second value).mono (fun _ _ _ => trivial) fun _ is_late => is_late

lemma Finishes.careful (finishes : Finishes late script) : Careful late Left script :=
  finishes.mono (fun _ _ _ => trivial) fun _ is_late => Or.inl is_late

lemma Checks.careful (checks : Checks script) : Careful late AccessOnly script :=
  checks.mono (fun _ _ _ => trivial) fun _ only => Or.inr only

lemma Checks.careful_keeping (checks : Checks script) :
    Ends script (fun _ => AccessOnly) fun writes => late ∨ AccessOnly writes :=
  checks.mono (fun _ _ only => only) fun _ only => Or.inr only

lemma Checks.bind_careful (first : Checks script)
    (second : ∀ value, Careful late AccessOnly (next value)) : Careful late AccessOnly (script >>= next) := by
  refine Ends.bind first.careful_keeping ?_
  rintro value writes only
  refine (second value).mono (fun _ _ _ => trivial) ?_
  rintro more (is_late | left)
  · exact .inl is_late
  · exact .inr (only.append left)

lemma Careful.refuse (holds : Left []) :
    Careful late Left (refuse error : Body α) := Ends.refuse (Or.inr holds)

lemma Careful.found {row : Option α} {next : α → Body β} (missing : Left [])
    (second : ∀ value, row = some value → Careful late Left (next value)) :
    Careful late Left (AppServer.found resource row >>= next) := by
  have first : Ends (AppServer.found resource row) (fun value writes => row = some value ∧ writes = [])
      (fun writes => late ∨ Left writes) :=
    Ends.found (fun value eq => ⟨eq, rfl⟩) (Or.inr missing)
  refine Ends.bind first ?_
  rintro value writes ⟨eq, rfl⟩
  exact second value eq

end

/-! ## Services -/

lemma checks_writeAccess (records : List AuditRecord) : Checks (writeAccess records) := by
  induction records with
  | nil => exact Checks.pure
  | cons record rest ih =>
    have first : Checks (write (.access record)) := by
      refine Ends.write ?_
      intro statement mem
      exact ⟨record, List.mem_singleton.1 mem⟩
    exact first.bind fun _ => ih

lemma checks_check (guard : GuardOutcome) : Checks (check guard) :=
  (checks_writeAccess guard.records).bind fun _ => Checks.allow

section
variable {late : Prop}

lemma finishes_writeAccess (records : List AuditRecord) : Finishes late (writeAccess records) := by
  induction records with
  | nil => exact Finishes.pure
  | cons record rest ih => exact Finishes.write.bind fun _ => ih

lemma finishes_allow {α : Type} {value : α} : Finishes late (allow (.ok value)) := Finishes.pure

lemma finishes_check {guard : GuardOutcome}
    (refuses : ∀ error, guard.allowed = .error error → late) : Finishes late (check guard) := by
  refine (finishes_writeAccess guard.records).bind fun _ => ?_
  exact Ends.allow (fun _ _ => trivial) refuses

def Accepts (late : Prop) (context : Context) : Prop :=
  ∀ draft error, context.store draft = .error error → late

lemma finishes_append {context : Context} (accepts : Accepts late context) (draft : EventDraft) :
    Finishes late (append context.store draft) := by
  have stored : Finishes late (allow (context.store draft)) :=
    Ends.allow (fun _ _ => trivial) (accepts draft)
  exact stored.bind fun _ => Finishes.write

end

lemma checks_requireRunContent (access : RunAccess) : Checks (requireRunContent access) := by
  refine Checks.found.bind fun run => (checks_check access.content).bind fun allowed => ?_
  split
  · exact Checks.pure
  exact Checks.refuse

variable {current target : RunStatus}

lemma validate_of_mem (allowed : target ∈ allowedRunTransitions current) :
    validateRunTransition current target = .ok () := if_pos allowed

lemma finishes_transition {late : Prop} (allowed : target ∈ allowedRunTransitions current) :
    Finishes late (allow (validateRunTransition current target)) := by
  rw [validate_of_mem allowed]
  exact finishes_allow

section
variable {views : Views} {context : Context} {late : Prop}

section
variable (accepts : Accepts late context)
include accepts

lemma careful_createThread (args : CreateThread) :
    Careful late AccessOnly (createThread views context args) := by
  refine Checks.allow.bind_careful fun _ => Finishes.careful ?_
  refine Finishes.write.bind fun _ => (finishes_append accepts _).bind fun _ => ?_
  exact Finishes.write.bind fun _ => Finishes.pure

lemma careful_archiveThread (args : MoveThread) :
    Careful late AccessOnly (archiveThread views context args) := by
  refine Checks.found.bind_careful fun thread => ?_
  split
  · exact Finishes.pure.careful
  split
  · exact Checks.refuse.careful
  refine Finishes.careful (Finishes.write.bind fun _ => ?_)
  refine (finishes_append accepts _).bind fun _ => ?_
  exact Finishes.write.bind fun _ => Finishes.pure

lemma careful_resumeThread (args : MoveThread) :
    Careful late AccessOnly (resumeThread views context args) := by
  refine Checks.found.bind_careful fun thread => ?_
  split
  · exact Finishes.pure.careful
  refine Finishes.careful (Finishes.write.bind fun _ => ?_)
  refine (finishes_append accepts _).bind fun _ => ?_
  exact Finishes.write.bind fun _ => Finishes.pure

lemma finishes_archiveParent (parent : Thread) (forkId : Uuid) :
    Finishes late (archiveParent context parent forkId) := by
  unfold archiveParent
  split
  · refine Finishes.write.bind fun _ => (finishes_append accepts _).bind fun _ => ?_
    exact Finishes.write
  exact Finishes.pure

lemma careful_forkThread (args : ForkThread) :
    Careful late AccessOnly (forkThread views context args) := by
  refine Checks.found.bind_careful fun parent => Checks.allow.bind_careful fun turns => ?_
  dsimp only
  split
  · exact Checks.refuse.careful
  refine Finishes.careful (Finishes.write.bind fun _ => ?_)
  refine (finishes_archiveParent accepts parent args.id).bind fun _ => ?_
  refine (finishes_append accepts _).bind fun _ => ?_
  exact Finishes.write.bind fun _ => Finishes.pure

end

lemma checks_validateAttachments (attachments : List Attachment) :
    Checks (validateAttachments attachments) := by
  induction attachments with
  | nil => exact Checks.pure
  | cons reference rest ih =>
    unfold validateAttachments
    split
    · exact Checks.refuse
    split
    · exact Checks.refuse
    refine Checks.found.bind fun artifact => ?_
    cases artifact with
    | none => exact ih
    | some access => exact (checks_requireRunContent access).bind fun _ => ih

lemma checks_turnChecks (args : CreateTurn) : Checks (turnChecks args) := by
  refine Checks.found.bind fun thread => ?_
  split
  · exact Checks.refuse
  refine Checks.allow.bind fun turns => ?_
  split
  · exact Checks.refuse
  split
  · exact Checks.refuse
  refine Checks.allow.bind fun _ => ?_
  split
  · exact Checks.refuse
  exact (checks_validateAttachments args.attachments).bind fun _ => Checks.pure

/-- The capture of the prior turns raises, after the turn and its Run are inserted. -/
def CaptureFails (env : Capture) : Prop :=
  env.workspaceFound = false ∨
    ∃ guard error, some guard ∈ env.candidates ∧ guard.allowed = .error error

lemma finishes_selectCandidates (candidates : List (Option GuardOutcome))
    (refuses : ∀ guard error, some guard ∈ candidates → guard.allowed = .error error → late) :
    Finishes late (selectCandidates candidates) := by
  induction candidates with
  | nil => exact Finishes.pure
  | cons candidate rest ih =>
    have others := ih fun guard error mem =>
      refuses guard error (List.mem_cons_of_mem _ mem)
    cases candidate with
    | none => exact others.bind fun _ => Finishes.pure
    | some guard =>
      have here := fun error => refuses guard error List.mem_cons_self
      refine (finishes_check here).bind fun _ => ?_
      exact others.bind fun _ => Finishes.pure

lemma finishes_capture {env : Capture} (fails : CaptureFails env → late) (turns : List Turn)
    (runId : Uuid) : Finishes late (capture env turns runId) := by
  unfold capture
  split
  · exact Finishes.pure
  split
  · next missing =>
    refine Ends.refuse (fails (Or.inl ?_))
    simpa using missing
  · have refuses : ∀ guard error, some guard ∈ env.candidates → guard.allowed = .error error → late :=
      fun guard error mem refused => fails (Or.inr ⟨guard, error, mem, refused⟩)
    refine (finishes_selectCandidates env.candidates refuses).bind fun count => ?_
    exact Finishes.write.bind fun _ => Finishes.pure

lemma careful_createTurn (accepts : Accepts late context) {args : CreateTurn}
    (fails : CaptureFails args.capture → late) : Careful late AccessOnly (createTurn views context args) := by
  refine (checks_turnChecks args).bind_careful ?_
  rintro ⟨thread, turns⟩
  refine Finishes.careful (Finishes.write.bind fun _ => Finishes.write.bind fun _ => ?_)
  refine (finishes_capture fails turns args.runId).bind fun count => ?_
  exact ((finishes_append accepts _).bind fun _ => finishes_append accepts _).bind fun _ => Finishes.pure

lemma careful_cancelTransaction (accepts : Accepts late context) (args : CancelRun) :
    Careful late AccessOnly (cancelTransaction context args) := by
  refine Checks.found.bind_careful fun run => ?_
  split
  · exact Finishes.pure.careful
  next open_ =>
  have allowed := (Harness.allowed_of_not_terminal (eq_false_of_ne_true open_)).2
  refine Finishes.careful (Finishes.write.bind fun _ => ?_)
  refine (finishes_transition allowed).bind fun _ => ?_
  refine Finishes.write.bind fun _ => Finishes.write.bind fun _ => ?_
  refine (finishes_append accepts _).bind fun _ => (finishes_append accepts _).bind fun _ => ?_
  exact Finishes.write.bind fun _ => Finishes.pure

lemma Careful.bind_finishes {α β : Type} {script : Body α} {next : α → Body β}
    {Left : List Write → Prop} (first : Careful late Left script)
    (second : ∀ value, Finishes late (next value)) : Careful late Left (script >>= next) := by
  refine Ends.bind first ?_
  intro value writes _
  exact (second value).mono (fun _ _ _ => trivial) fun _ is_late => Or.inl is_late

lemma careful_cancelRun (accepts : Accepts late context) {args : CancelRun}
    (refuses : ∀ error, args.projection.allowed = .error error → late) :
    Careful late AccessOnly (cancelRun views context args) := by
  refine (careful_cancelTransaction accepts args).bind_finishes fun run => ?_
  exact ((finishes_check refuses).bind fun _ => Finishes.pure).bind fun _ => Finishes.pure

lemma careful_replayRun (accepts : Accepts late context) (args : ReplayRun) :
    Careful late AccessOnly (replayRun views context args) := by
  refine (checks_requireRunContent args.access).bind_careful fun source => ?_
  split
  · exact Checks.refuse.careful
  refine Finishes.careful (Finishes.write.bind fun _ => ?_)
  refine (finishes_append accepts _).bind fun _ => ?_
  exact Finishes.write.bind fun _ => Finishes.pure

/-! ## Expiries -/

def clarificationExpiry (context : Context) (run : Run) (intent : ClarificationIntent)
    (active : ActiveClarification) : List Write :=
  [.putRun (expiredRun run intent.closed context.now),
    .event (runDraft context "clarification.expired" .system none run.id
      [("clarification_id", .str active.id.str)]),
    .event (runDraft context "run.failed" .system none run.id
      [("error_code", .str "clarification_expired")]),
    systemAudit "run.clarification.expire" "run" run.id "EXPIRED"
      [("clarification_id", .str active.id.str)]]

def approvalExpiry (context : Context) (approval : Approval) (run : Run) : List Write :=
  [.putApproval (expiredApproval approval context.now),
    .event (runDraft context "approval.expired" .system none run.id
      [("approval_id", .str approval.id.str)]),
    systemAudit "approval.expire" "approval" approval.id ApprovalStatus.expired.value []]

inductive Recorded (context : Context) : Mutation → List Write → Prop
  | access {mutation : Mutation} {writes : List Write} (only : AccessOnly writes) :
      Recorded context mutation writes
  | clarification {args : AnswerClarification} {run : Run} {intent : ClarificationIntent}
      {active : ActiveClarification} (located : args.access.run = some run)
      (waiting : run.status = .waitingUser) (parsed : args.intent = some (some intent))
      (asked : intent.active = some active) (same : active.id = args.clarificationId)
      (expired : active.expiresAt ≤ context.now) :
      Recorded context (.answerClarification args) (clarificationExpiry context run intent active)
  | approval {args : DecideApproval} {run : Run} {approval : Approval}
      (located : args.access.run = some run) (asked : args.approval = some approval)
      (pending : approval.status = .pending) (expired : approval.expiresAt ≤ context.now) :
      Recorded context (.decideApproval args) (approvalExpiry context approval run)

variable {mutation : Mutation} {writes : List Write} {run : Run}

lemma recorded_nil : Recorded context mutation [] := .access accessOnly_nil

lemma Careful.recorded {α : Type} {script : Body α} (careful : Careful late AccessOnly script) :
    Careful late (Recorded context mutation) script :=
  careful.mono (fun _ _ _ => trivial) fun _ left => left.imp_right .access

def Leaves (late : Prop) (script : Body Unit) (writes : List Write) : Prop :=
  Ends script (fun _ made => made = writes) fun _ => late

lemma leaves_write (statement : Write) : Leaves late (write statement) [statement] := Ends.write rfl

lemma leaves_append (accepts : Accepts late context) (draft : EventDraft) :
    Leaves late (append context.store draft) [.event draft] := by
  have stored : Ends (allow (context.store draft)) (fun _ made => made = []) fun _ => late :=
    Ends.allow (fun _ _ => rfl) (accepts draft)
  refine stored.bind ?_
  rintro _ _ rfl
  exact Ends.write rfl

lemma Leaves.bind {first : Body Unit} {next : Unit → Body Unit} {more : List Write}
    (left : Leaves late first writes) (right : Leaves late (next ()) more) :
    Leaves late (first >>= next) (writes ++ more) := by
  refine Ends.bind left ?_
  rintro _ _ rfl
  exact right.mono (fun _ _ eq => eq ▸ rfl) fun _ is_late => is_late

lemma leaves_expireClarification (accepts : Accepts late context)
    (waiting : run.status = .waitingUser) (intent : ClarificationIntent)
    (active : ActiveClarification) :
    Leaves late (expireClarification context run intent active)
      (clarificationExpiry context run intent active) := by
  have allowed : RunStatus.failed ∈ allowedRunTransitions run.status := by
    rw [waiting]
    decide
  have leaves : Leaves late (allow (validateRunTransition run.status .failed)) [] := by
    rw [validate_of_mem allowed]
    exact Ends.pure rfl
  refine leaves.bind ((leaves_write _).bind ?_)
  exact (leaves_append accepts _).bind ((leaves_append accepts _).bind (leaves_write _))

lemma Leaves.bind_refuse {α : Type} {script : Body Unit} {error : ObsionError}
    {Left : List Write → Prop} (leaves : Leaves late script writes) (holds : Left writes) :
    Careful late Left (script >>= fun _ => (refuse error : Body α)) := by
  refine Ends.bind (leaves.mono (fun _ _ eq => eq) fun _ is_late => Or.inl is_late) ?_
  rintro _ _ rfl
  refine Ends.refuse (Or.inr ?_)
  rwa [List.append_nil]

lemma careful_answerOpen (accepts : Accepts late context) (args : AnswerClarification)
    (waiting : run.status = .waitingUser) (intent : ClarificationIntent) :
    Careful late AccessOnly (answerOpen views context args run intent) := by
  have allowed : RunStatus.running ∈ allowedRunTransitions run.status := by
    rw [waiting]
    decide
  unfold answerOpen
  split
  · exact Checks.refuse.careful
  refine Checks.allow.bind_careful fun answer => Finishes.careful ?_
  refine (finishes_transition allowed).bind fun _ => Finishes.write.bind fun _ => ?_
  refine (finishes_append accepts _).bind fun _ => ?_
  exact Finishes.write.bind fun _ => Finishes.pure

lemma careful_answerClarification (accepts : Accepts late context) (args : AnswerClarification) :
    Careful late (Recorded context (.answerClarification args)) (answerClarification views context args) := by
  refine Careful.found recorded_nil fun run located => ?_
  split
  · exact Careful.refuse recorded_nil
  next waiting =>
  replace waiting := not_not.1 waiting
  split
  · exact Careful.refuse recorded_nil
  · exact Careful.refuse recorded_nil
  · next intent parsed =>
    split
    · exact Careful.refuse recorded_nil
    next active asked =>
    split
    · exact Careful.refuse recorded_nil
    next eq =>
    replace eq := not_not.1 eq
    split
    · next expired =>
      refine (leaves_expireClarification accepts waiting intent active).bind_refuse ?_
      exact .clarification located waiting parsed asked eq expired
    · exact (careful_answerOpen accepts args waiting intent).recorded

lemma finishes_moveRun (args : DecideApproval) (run : Run) :
    Finishes late (moveRun context args run) := by
  unfold moveRun
  split
  · exact Finishes.pure
  next open_ =>
  split
  · split
    · next waiting =>
      have allowed : RunStatus.running ∈ allowedRunTransitions run.status := by
        rw [waiting]
        decide
      exact (finishes_transition allowed).bind fun _ => Finishes.write
    · exact Finishes.pure
  · have allowed := (Harness.allowed_of_not_terminal (eq_false_of_ne_true open_)).1
    exact (finishes_transition allowed).bind fun _ => Finishes.write

lemma careful_decidePending (accepts : Accepts late context) (args : DecideApproval) (approval : Approval)
    (run : Run) : Careful late AccessOnly (decidePending views context args approval run) := by
  refine Checks.allow.bind_careful fun _ => Finishes.careful (Finishes.write.bind fun _ => ?_)
  refine (finishes_moveRun args run).bind fun _ => ?_
  refine (finishes_append accepts _).bind fun _ => ?_
  exact Finishes.write.bind fun _ => Finishes.pure

lemma careful_decideApproval (accepts : Accepts late context) (args : DecideApproval) :
    Careful late (Recorded context (.decideApproval args)) (decideApproval views context args) := by
  unfold decideApproval
  split
  · exact Careful.refuse recorded_nil
  refine Careful.found recorded_nil fun approval asked => ?_
  split
  · exact Careful.refuse recorded_nil
  next pending =>
  replace pending := not_not.1 pending
  refine Careful.found recorded_nil fun run located => ?_
  split
  · next expired =>
    have leaves : Leaves late (expireApproval context approval run) (approvalExpiry context approval run) :=
      (leaves_write _).bind ((leaves_append accepts _).bind (leaves_write _))
    refine leaves.bind_refuse ?_
    exact .approval located asked pending expired
  · exact (careful_decidePending accepts args approval run).recorded

def FailsLate (context : Context) (mutation : Mutation) : Prop :=
  (∃ draft error, context.store draft = .error error) ∨ match mutation with
    | .createTurn args => CaptureFails args.capture
    | .cancelRun args => ∃ error, args.projection.allowed = .error error
    | _ => False

lemma handler_careful (views : Views) (context : Context) (mutation : Mutation) :
    Careful (FailsLate context mutation) (Recorded context mutation)
      (handler views context mutation) := by
  have accepts : Accepts (FailsLate context mutation) context :=
    fun draft error rejected => Or.inl ⟨draft, error, rejected⟩
  cases mutation with
  | createThread args => exact (careful_createThread accepts args).recorded
  | archiveThread args => exact (careful_archiveThread accepts args).recorded
  | resumeThread args => exact (careful_resumeThread accepts args).recorded
  | forkThread args => exact (careful_forkThread accepts args).recorded
  | createTurn args => exact (careful_createTurn accepts Or.inr).recorded
  | cancelRun args =>
    exact (careful_cancelRun accepts fun error refused => Or.inr ⟨error, refused⟩).recorded
  | replayRun args => exact (careful_replayRun accepts args).recorded
  | answerClarification args => exact careful_answerClarification accepts args
  | decideApproval args => exact careful_decideApproval accepts args

end

end Obsion.AppServer
