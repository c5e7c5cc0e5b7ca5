import Obsion.Actions.Worker
import Obsion.Lib.Transition

/-! # One action among people and workers

Every transaction on the action locks its row first.  `locked` is the tick whose
`_invoke` holds the lock while the provider is called; all other transactions on the
action wait until it is free.  A transaction may be rolled back or its worker may
crash at any point: what it wrote is lost then, the call that it made is not. -/

namespace Obsion.Actions

open Obsion.Lib

inductive Phase
  | claimed
  | checked (call : Call) (checkedAt : Time)
  | posting (call : Call) (checkedAt : Time)
  | failing (failure : Failure)

structure Job where
  token : Uuid
  phase : Phase

structure World where
  now : Time
  rows : Option Rows
  locked : Option Uuid
  jobs : Table Job.token

inductive Action
  | elapse (duration : Nat)
  | create (id : Uuid) (principal : Principal) (access : Except ObsionError Unit)
      (request : CreateActionRequest)
  | preflight (principal : Principal) (access : Except ObsionError Unit) (resolved : Resolved)
      (approvalId : Uuid) (reason : String) (ttlMinutes : Nat)
  | decide_ (principal : Principal) (access : Except ObsionError Unit) (approvalId : Uuid)
      (approve : Bool) (reason : String)
  | requestRollback (principal : Principal) (access : Except ObsionError Unit)
      (approvalId : Uuid) (reason : String) (ttlMinutes : Nat)
  | cancel (principal : Principal) (access : Except ObsionError Unit)
  | expire (approvalId : Uuid)
  | claim (token : Uuid) (worker : String) (leaseSeconds : Nat)
  | begin_ (token : Uuid) (env : InvokeEnv) (elapsed : Nat)
  | post (token : Uuid)
  | answer (token : Uuid) (outcome : Except Failure Fields)
  | abort (token : Uuid) (failure : Failure)
  | fail (token : Uuid)
  | crash (token : Uuid)

def World.endJob (world : World) (token : Uuid) : World :=
  { world with
    jobs := world.jobs.delete fun job => job.token = token
    locked := if world.locked = some token then none else world.locked }

def World.moveJob (world : World) (token : Uuid) (phase : Phase) : World :=
  { world with jobs := world.jobs.put ⟨token, phase⟩ }

/-- A transaction of a person: it waits for the lock, and an error rolls it back. -/
def World.commit (world : World) (transaction : Rows → Except ObsionError Rows) : Option World :=
  if world.locked.isSome then none
  else world.rows.bind fun rows =>
    (transaction rows).toOption.map fun rows => { world with rows := some rows }

def codeOf (error : ObsionError) : Failure := ⟨error.code, error.message⟩

def perform (digest : PlanSpec → String) (world : World) : Action → Option World
  | .elapse duration => some { world with now := world.now + duration }
  | .create id principal access request =>
    if world.rows.isSome then some world
    else (create id principal access request).toOption.map fun rows =>
      { world with rows := some rows }
  | .preflight principal access resolved approvalId reason ttlMinutes =>
    world.commit
      (preflight digest world.now principal access resolved approvalId reason ttlMinutes)
  | .decide_ principal access approvalId approve reason =>
    world.commit (decideApproval world.now principal access approvalId approve reason)
  | .requestRollback principal access approvalId reason ttlMinutes =>
    world.commit (requestRollback world.now principal access approvalId reason ttlMinutes)
  | .cancel principal access => world.commit (cancel world.now principal access)
  | .expire approvalId =>
    if world.locked.isSome then none
    else world.rows.bind fun rows =>
      (expireApproval world.now approvalId rows).map fun rows => { world with rows := some rows }
  | .claim token worker leaseSeconds =>
    if world.locked.isSome || (world.jobs.get? token).isSome then none
    else world.rows.bind fun rows =>
      (claimAction world.now worker leaseSeconds rows).map fun rows =>
        { world with rows := some rows, jobs := world.jobs.put ⟨token, .claimed⟩ }
  | .begin_ token env elapsed =>
    if world.locked.isSome then none
    else world.rows.bind fun rows => (world.jobs.get? token).bind fun job =>
      match job.phase with
      | .claimed =>
        let checkedAt := world.now + elapsed
        some (match begin_ world.now checkedAt env rows with
          | .ignored => world.endJob token
          | .committed rows => { world.endJob token with now := checkedAt, rows := some rows }
          | .raised error => world.moveJob token (.failing (codeOf error))
          | .call call =>
            { world.moveJob token (.checked call checkedAt) with
              now := checkedAt, locked := some token })
      | _ => none
  | .post token =>
    (world.jobs.get? token).bind fun job =>
      match job.phase with
      | .checked call checkedAt => some (world.moveJob token (.posting call checkedAt))
      | _ => none
  | .answer token outcome =>
    world.rows.bind fun rows => (world.jobs.get? token).bind fun job =>
      match job.phase with
      | .posting call _ => some { world.endJob token with rows := some (settle call outcome rows) }
      | _ => none
  | .abort token failure =>
    (world.jobs.get? token).bind fun job =>
      match job.phase with
      | .checked _ _ | .posting _ _ =>
        some { world.moveJob token (.failing failure) with locked := none }
      | _ => none
  | .fail token =>
    if world.locked.isSome then none
    else world.rows.bind fun rows => (world.jobs.get? token).bind fun job =>
      match job.phase with
      | .failing failure =>
        some { world.endJob token with rows := some (failAfterException failure rows) }
      | _ => none
  | .crash token => (world.jobs.get? token).map fun job => world.endJob job.token

def Blank (world : World) : Prop :=
  world.rows = none ∧ world.locked = none ∧ world.jobs = .empty

def lifecycle (digest : PlanSpec → String) : System World Action :=
  System.ofPartial Blank (perform digest)

end Obsion.Actions
