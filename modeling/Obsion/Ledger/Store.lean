import Obsion.Base.Json
import Obsion.Base.Orm

/-! # The operator invocation store

`OperatorInvocationStore` over the row of one key (organization, principal,
request id), together with the CHECK constraint and the trigger that guard the
table.  Every statement that changes the row holds its lock to the end of the
transaction, so a transaction is a function of the row; only a rejected insert
releases nothing and may find another row when it locks one. -/

namespace Obsion.Ledger

inductive OperatorInvocationStatus
  | inProgress
  | completed
  | failed
  | unknown
  deriving DecidableEq, Repr

structure Key where
  organizationId : Uuid
  principalId : Uuid
  requestId : Uuid
  deriving DecidableEq, Repr

structure OperatorCapabilityInvocation where
  id : Uuid
  key : Key
  capabilityName : String
  capabilityVersionId : Uuid
  connectorId : Uuid
  policyDecisionId : Uuid
  inputFingerprint : String
  status : OperatorInvocationStatus
  result : Option Fields
  errorCode : Option String
  errorMessage : Option String
  leaseExpiresAt : Time
  createdAt : Time
  completedAt : Option Time
  expiresAt : Time

inductive LedgerError
  | obsion (error : ObsionError)
  | database

def claimLost : LedgerError :=
  .obsion (conflictError "idempotency_claim_lost"
    "The operator invocation idempotency claim could not be resolved")

/-- CHECK `completion_consistent` -/
def CompletionConsistent (row : OperatorCapabilityInvocation) : Prop :=
  match row.status with
  | .inProgress => row.result.isNone ∧ row.errorCode.isNone ∧ row.completedAt.isNone
  | .completed => row.result.isSome ∧ row.errorCode.isNone ∧ row.completedAt.isSome
  | .failed => row.result.isSome ∧ row.errorCode.isSome ∧ row.completedAt.isSome
  | .unknown => row.result.isNone ∧ row.errorCode.isSome ∧ row.completedAt.isSome

instance (row : OperatorCapabilityInvocation) : Decidable (CompletionConsistent row) :=
  match status : row.status with
  | .inProgress => decidable_of_iff
      (row.result.isNone ∧ row.errorCode.isNone ∧ row.completedAt.isNone)
      (by simp only [CompletionConsistent, status])
  | .completed => decidable_of_iff
      (row.result.isSome ∧ row.errorCode.isNone ∧ row.completedAt.isSome)
      (by simp only [CompletionConsistent, status])
  | .failed => decidable_of_iff
      (row.result.isSome ∧ row.errorCode.isSome ∧ row.completedAt.isSome)
      (by simp only [CompletionConsistent, status])
  | .unknown => decidable_of_iff
      (row.result.isNone ∧ row.errorCode.isSome ∧ row.completedAt.isSome)
      (by simp only [CompletionConsistent, status])

/-- The UPDATE branch of `obsion_guard_operator_capability_invocation_mutation`. -/
def MutationAllowed (old new : OperatorCapabilityInvocation) : Prop :=
  old.id = new.id ∧ old.key = new.key ∧ old.capabilityName = new.capabilityName ∧
    old.capabilityVersionId = new.capabilityVersionId ∧ old.connectorId = new.connectorId ∧
    old.policyDecisionId = new.policyDecisionId ∧ old.inputFingerprint = new.inputFingerprint ∧
    old.createdAt = new.createdAt ∧ old.expiresAt = new.expiresAt ∧
    old.status = .inProgress ∧ new.status ≠ .inProgress

instance (old new : OperatorCapabilityInvocation) : Decidable (MutationAllowed old new) :=
  inferInstanceAs (Decidable (_ ∧ _))

/-- An UPDATE of the stored row, past the trigger and the constraint. -/
def update (old new : OperatorCapabilityInvocation) :
    Except LedgerError OperatorCapabilityInvocation :=
  if MutationAllowed old new ∧ CompletionConsistent new then .ok new else .error .database

/-! ## `claim` -/

structure ClaimArgs where
  newId : Uuid
  capabilityName : String
  capabilityVersionId : Uuid
  connectorId : Uuid
  policyDecisionId : Uuid
  fingerprint : String
  leaseSeconds : Nat
  retentionHours : Nat
  now : Time
  /-- The insert met a row that another transaction may since have changed. -/
  insertConflicted : Bool

inductive ClaimState
  | new
  | replay
  | inProgress
  | unknown
  deriving DecidableEq, Repr

structure OperatorInvocationClaim where
  record : OperatorCapabilityInvocation
  state : ClaimState
  replayedResult : Option Fields := none

def newRecord (key : Key) (args : ClaimArgs) : OperatorCapabilityInvocation :=
  { id := args.newId, key := key, capabilityName := args.capabilityName
    capabilityVersionId := args.capabilityVersionId, connectorId := args.connectorId
    policyDecisionId := args.policyDecisionId, inputFingerprint := args.fingerprint
    status := .inProgress, result := none, errorCode := none, errorMessage := none
    leaseExpiresAt := args.now + seconds (max 1 args.leaseSeconds), createdAt := args.now
    completedAt := none, expiresAt := args.now + seconds (3600 * max 1 args.retentionHours) }

def retired (now : Time) (row : OperatorCapabilityInvocation) : Bool :=
  decide (row.expiresAt ≤ now)
    && (row.status == .completed || row.status == .failed || row.status == .unknown)

def loseLease (now : Time) (existing : OperatorCapabilityInvocation) :
    OperatorCapabilityInvocation :=
  { existing with
    status := .unknown, errorCode := some "operator_invocation_outcome_unknown"
    errorMessage := some "The previous operator Capability attempt lost its completion boundary"
    completedAt := some now }

def claimExisting (args : ClaimArgs) (existing : OperatorCapabilityInvocation) :
    Except LedgerError (OperatorCapabilityInvocation × OperatorInvocationClaim) :=
  if existing.capabilityName ≠ args.capabilityName
      ∨ existing.inputFingerprint ≠ args.fingerprint then
    .error (.obsion (conflictError "idempotency_key_reused"
      "The request ID is already bound to another operator Capability input"))
  else
    match existing.status with
    | .unknown => .ok (existing, ⟨existing, .unknown, none⟩)
    | .inProgress =>
      if existing.leaseExpiresAt ≤ args.now then
        match update existing (loseLease args.now existing) with
        | .error error => .error error
        | .ok lost => .ok (lost, ⟨lost, .unknown, none⟩)
      else .ok (existing, ⟨existing, .inProgress, none⟩)
    | _ =>
      match existing.result with
      | none => .error (.obsion (conflictError "idempotency_claim_lost"
          "The terminal operator invocation result is unavailable"))
      | some result => .ok (existing, ⟨existing, .replay, some result⟩)

def deletes (args : ClaimArgs) (row : Option OperatorCapabilityInvocation) : Bool :=
  !args.insertConflicted && row.any (retired args.now)

def selected (args : ClaimArgs) (row : Option OperatorCapabilityInvocation) :
    Option OperatorCapabilityInvocation :=
  if deletes args row then none else row

def claim (key : Key) (args : ClaimArgs) (row : Option OperatorCapabilityInvocation) :
    Except LedgerError (OperatorCapabilityInvocation × OperatorInvocationClaim) :=
  match selected args row with
  | some existing => claimExisting args existing
  | none =>
    if args.insertConflicted then .error claimLost
    else .ok (newRecord key args, ⟨newRecord key args, .new, none⟩)

structure Completion where
  result : Fields
  succeeded : Bool
  errorCode : Option String
  errorMessage : Option String
  now : Time

/-- The UPDATE of `complete` and of the error columns set beside it, computed from
the object in the identity map. -/
def completeRow (cached : OperatorCapabilityInvocation) (completion : Completion)
    (stored : OperatorCapabilityInvocation) : OperatorCapabilityInvocation :=
  { stored with
    status := if completion.succeeded then .completed else .failed
    result := some completion.result, completedAt := some completion.now
    errorCode := column cached.errorCode completion.errorCode stored.errorCode
    errorMessage := column cached.errorMessage completion.errorMessage stored.errorMessage }

/-- `cached` is the object that the session keeps from the claim: a SELECT FOR UPDATE
locks the row and does not refresh it. -/
def complete (cached : OperatorCapabilityInvocation) (completion : Completion)
    (row : Option OperatorCapabilityInvocation) :
    Except LedgerError OperatorCapabilityInvocation :=
  match row with
  | none => .error claimLost
  | some stored =>
    if stored.id ≠ cached.id then .error claimLost
    else if cached.status ≠ .inProgress then
      .error (.obsion (conflictError "idempotency_already_completed"
        "The operator invocation outcome is immutable"))
    else update stored (completeRow cached completion stored)

/-- `mark_unknown` runs after a rollback, which expired the cached object. -/
def markUnknown (invocationId : Uuid) (now : Time) (stored : OperatorCapabilityInvocation) :
    Except LedgerError OperatorCapabilityInvocation :=
  if stored.id ≠ invocationId ∨ stored.status ≠ .inProgress then .ok stored
  else update stored
    { stored with
      status := .unknown, errorCode := some "operator_invocation_outcome_unknown"
      errorMessage := some "The operator Capability completion boundary was interrupted"
      completedAt := some now }

section
variable {old new after : OperatorCapabilityInvocation}

lemma update_cases (run : update old new = .ok after) :
    after = new ∧ MutationAllowed old new ∧ CompletionConsistent new := by
  unfold update at run
  split at run
  · next allowed =>
    cases run
    exact ⟨rfl, allowed⟩
  · cases run

variable {invocationId : Uuid} {now : Time}

lemma markUnknown_terminal (terminal : old.status ≠ .inProgress) :
    markUnknown invocationId now old = .ok old :=
  if_pos (Or.inr terminal)

lemma complete_cases {cached : OperatorCapabilityInvocation} {completion : Completion}
    {row : Option OperatorCapabilityInvocation} (run : complete cached completion row = .ok after) :
    ∃ stored, row = some stored ∧ stored.id = cached.id ∧ stored.status = .inProgress ∧
      after = completeRow cached completion stored ∧ CompletionConsistent after := by
  unfold complete at run
  split at run
  · cases run
  next stored =>
  split at run
  · cases run
  next eq =>
  split at run
  · cases run
  obtain ⟨rfl, allowed, consistent⟩ := update_cases run
  exact ⟨stored, rfl, not_not.1 eq, allowed.2.2.2.2.2.2.2.2.2.1, rfl, consistent⟩

lemma markUnknown_cases (run : markUnknown invocationId now old = .ok after) :
    after = old ∨ old.status = .inProgress ∧ after.id = old.id ∧ after.status = .unknown ∧
      CompletionConsistent after := by
  unfold markUnknown at run
  split at run
  · exact .inl (Except.ok.inj run).symm
  obtain ⟨rfl, allowed, consistent⟩ := update_cases run
  exact .inr ⟨allowed.2.2.2.2.2.2.2.2.2.1, rfl, rfl, consistent⟩

lemma claimExisting_cases {args : ClaimArgs} {answer : OperatorInvocationClaim}
    (run : claimExisting args old = .ok (after, answer)) :
    answer.record = after ∧ old.capabilityName = args.capabilityName ∧
      old.inputFingerprint = args.fingerprint ∧
      ((after = old ∧ answer.state = .unknown) ∨ (after = old ∧ answer.state = .inProgress) ∨
        (after = old ∧ answer.state = .replay ∧ (old.status = .completed ∨ old.status = .failed) ∧
          ∃ stored, old.result = some stored ∧ answer.replayedResult = some stored) ∨
        (answer.state = .unknown ∧ old.status = .inProgress ∧ after.id = old.id ∧
          after.status = .unknown ∧ CompletionConsistent after)) := by
  unfold claimExisting at run
  split at run
  · cases run
  next eq =>
  push Not at eq
  cases status : old.status with
  | unknown =>
    rw [status] at run
    cases run
    exact ⟨rfl, eq.1, eq.2, Or.inl ⟨rfl, rfl⟩⟩
  | inProgress =>
    rw [status] at run
    simp only at run
    split at run
    · split at run
      · cases run
      next lost changed =>
      cases run
      obtain ⟨rfl, -, consistent⟩ := update_cases changed
      exact ⟨rfl, eq.1, eq.2, Or.inr (Or.inr (Or.inr ⟨rfl, rfl, rfl, rfl, consistent⟩))⟩
    · cases run
      exact ⟨rfl, eq.1, eq.2, Or.inr (Or.inl ⟨rfl, rfl⟩)⟩
  | completed =>
    rw [status] at run
    simp only at run
    split at run
    · cases run
    next result stored =>
    cases run
    exact ⟨rfl, eq.1, eq.2, Or.inr (Or.inr (Or.inl ⟨rfl, rfl, Or.inl rfl, result, stored, rfl⟩))⟩
  | failed =>
    rw [status] at run
    simp only at run
    split at run
    · cases run
    next result stored =>
    cases run
    exact ⟨rfl, eq.1, eq.2, Or.inr (Or.inr (Or.inl ⟨rfl, rfl, Or.inr rfl, result, stored, rfl⟩))⟩

end

end Obsion.Ledger
