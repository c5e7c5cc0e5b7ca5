import Obsion.Ledger.Operator

/-! # Idempotency of the operator ledger

`Sound` holds in every reachable world: the row of a period comes from its only
committed NEW claim, a terminal row holds exactly what was recorded, and the
executor of a claim starts at most once.  A claim whose transaction is rolled back
may have returned NEW before, and an executor may start after the retention
deletion of its record; `ledger_countsLoose` is the run that shows both. -/

namespace Obsion.Ledger

open Obsion.Lib

/-- What a stored row satisfies beside the result that was recorded. -/
structure RowSound (recorded : Option GatewayResult) (row : OperatorCapabilityInvocation) : Prop where
  consistent : CompletionConsistent row
  silent : row.status = .inProgress → row.errorMessage = none
  stored : row.status = .completed ∨ row.status = .failed → ∃ result, recorded = some result ∧
    row.result = some (operatorResultRecord result) ∧ row.errorCode = result.errorCode ∧
    row.errorMessage = result.errorMessage

def Unwritten (record : OperatorCapabilityInvocation) : Prop :=
  record.errorCode = none ∧ record.errorMessage = none

section
variable {row after : OperatorCapabilityInvocation} {recorded : Option GatewayResult}

lemma RowSound.of_unknown (consistent : CompletionConsistent row)
    (unknown : row.status = .unknown) : RowSound recorded row := by
  refine ⟨consistent, ?_, ?_⟩
  · intro inProgress
    rw [unknown] at inProgress
    cases inProgress
  · rintro (completed | failed)
    · rw [unknown] at completed
      cases completed
    · rw [unknown] at failed
      cases failed

lemma newRecord_sound (key : Key) (args : ClaimArgs) : RowSound recorded (newRecord key args) := by
  refine ⟨⟨rfl, rfl, rfl⟩, fun _ => rfl, ?_⟩
  rintro (completed | failed)
  · cases completed
  · cases failed

lemma newRecord_unwritten (key : Key) (args : ClaimArgs) : Unwritten (newRecord key args) :=
  ⟨rfl, rfl⟩

/-- An IN_PROGRESS row has no error, so the UPDATE of a completion leaves in the error
columns what the result says. -/
lemma complete_sound {cached : OperatorCapabilityInvocation} {result : GatewayResult} {now : Time}
    (unwritten : Unwritten cached) (sound : RowSound recorded row)
    (run : complete cached (completion result now) (some row) = .ok after) :
    RowSound (some result) after ∧ after.id = row.id := by
  obtain ⟨stored, eq, _, inProgress, rfl, consistent⟩ := complete_cases run
  cases eq
  have noCode : row.errorCode = none := by
    have open_ := sound.consistent
    simp only [CompletionConsistent, inProgress] at open_
    exact Option.isNone_iff_eq_none.1 open_.2.1
  have noMessage : row.errorMessage = none := sound.silent inProgress
  have code : (completeRow cached (completion result now) row).errorCode = result.errorCode := by
    simp only [completeRow, unwritten.1, noCode, column_current]
    rfl
  have message :
      (completeRow cached (completion result now) row).errorMessage = result.errorMessage := by
    simp only [completeRow, unwritten.2, noMessage, column_current]
    rfl
  refine ⟨⟨consistent, ?_, fun _ => ⟨result, rfl, rfl, code, message⟩⟩, rfl⟩
  intro status
  simp only [completeRow] at status
  split at status <;> cases status

end

/-- The outcomes of a first transaction that commits, as far as the row is concerned. -/
inductive FirstStep (retentionHours : Nat) (key : Key) (args : InvokeArgs)
    (row : Option OperatorCapabilityInvocation) :
    Option OperatorCapabilityInvocation → Reply → Prop
  | executed (unclaimed : selected (claimArgs retentionHours args) row = none) :
      FirstStep retentionHours key args row
        (some (newRecord key (claimArgs retentionHours args)))
        (.execute (newRecord key (claimArgs retentionHours args)))
  | limited (completed : OperatorCapabilityInvocation) (result : GatewayResult)
      (unclaimed : selected (claimArgs retentionHours args) row = none)
      (sound : RowSound (some result) completed) (id : completed.id = args.newId) :
      FirstStep retentionHours key args row (some completed) (.limited result)
  | replayed (old : OperatorCapabilityInvocation) (stored : Fields) (result : GatewayResult)
      (locked : selected (claimArgs retentionHours args) row = some old)
      (terminal : old.status = .completed ∨ old.status = .failed)
      (kept : old.result = some stored)
      (decoded : operatorResultFromRecord stored old args.prepared.decisionId = some result) :
      FirstStep retentionHours key args row (some old) (.replay result)
  | pending (old : OperatorCapabilityInvocation) (result : GatewayResult)
      (locked : selected (claimArgs retentionHours args) row = some old) :
      FirstStep retentionHours key args row (some old) (.pending result)
  | expired (old after : OperatorCapabilityInvocation) (result : GatewayResult)
      (locked : selected (claimArgs retentionHours args) row = some old)
      (inProgress : old.status = .inProgress) (id : after.id = old.id)
      (unknown : after.status = .unknown) (consistent : CompletionConsistent after) :
      FirstStep retentionHours key args row (some after) (.pending result)
  | rejected (result : GatewayResult)
      (kept : deletes (claimArgs retentionHours args) row = false) :
      FirstStep retentionHours key args row row (.conflict result)

section
variable {retentionHours : Nat} {key : Key} {args : InvokeArgs}
  {row next : Option OperatorCapabilityInvocation} {reply : Reply}

variable {record old : OperatorCapabilityInvocation} {claimed : ClaimArgs}

lemma limitNew_cases {after : OperatorCapabilityInvocation} (unwritten : Unwritten record)
    (sound : RowSound none record) (run : limitNew args record = .ok (after, reply)) :
    (after = record ∧ reply = .execute record) ∨
      ∃ result, reply = .limited result ∧ RowSound (some result) after ∧ after.id = record.id := by
  unfold limitNew at run
  split at run
  · cases run
    exact .inl ⟨rfl, rfl⟩
  next result _ =>
  obtain ⟨completed, done, eq⟩ := of_map_ok run
  obtain ⟨rfl, rfl⟩ := Prod.mk.inj eq
  obtain ⟨kept, id⟩ := complete_sound unwritten sound done
  exact .inr ⟨result, rfl, kept, id⟩

lemma replyTo_cases {after : OperatorCapabilityInvocation} {answer : OperatorInvocationClaim}
    (notNew : answer.state ≠ .new) (run : replyTo args record answer = .ok (after, reply)) :
    after = record ∧ ((answer.state = .replay ∧ ∃ result, reply = .replay result ∧
          operatorResultFromRecord (answer.replayedResult.getD []) answer.record
            args.prepared.decisionId = some result) ∨
        (answer.state ≠ .replay ∧ ∃ result, reply = .pending result)) := by
  unfold replyTo at run
  split at run
  · next new => exact absurd new notNew
  · next replay =>
    split at run
    · cases run
    next result decoded =>
    cases run
    exact ⟨rfl, Or.inl ⟨replay, result, rfl, decoded⟩⟩
  · next inProgress =>
    cases run
    exact ⟨rfl, Or.inr ⟨by rw [inProgress]; decide, _, rfl⟩⟩
  · next unknown =>
    cases run
    exact ⟨rfl, Or.inr ⟨by rw [unknown]; decide, _, rfl⟩⟩

lemma claim_error_kept {error : LedgerError}
    (run : claim key (claimArgs retentionHours args) row = .error error) :
    deletes (claimArgs retentionHours args) row = false := by
  by_contra deleted
  rw [Bool.not_eq_false] at deleted
  have conflicted : (claimArgs retentionHours args).insertConflicted = false := by
    simp only [deletes, Bool.and_eq_true, Bool.not_eq_true'] at deleted
    exact deleted.1
  simp only [claim, selected, deleted, if_true, conflicted, Bool.false_eq_true, if_false] at run
  cases run

lemma firstTransaction_cases
    (run : firstTransaction retentionHours key args row = .ok (next, reply)) :
    FirstStep retentionHours key args row next reply := by
  unfold firstTransaction at run
  split at run
  · next record answer claimed =>
    obtain ⟨⟨after, found⟩, replied, eq⟩ := of_map_ok run
    obtain ⟨rfl, rfl⟩ := Prod.mk.inj eq
    unfold claim at claimed
    split at claimed
    · next old locked =>
      obtain ⟨known, -, -, outcome⟩ := claimExisting_cases claimed
      rcases outcome with ⟨rfl, unknown⟩ | ⟨rfl, inProgress⟩ | ⟨rfl, replay, terminal, fields, found, kept⟩ |
        ⟨unknown, inProgress, id, status, consistent⟩
      · obtain ⟨rfl, answered⟩ := replyTo_cases (by rw [unknown]; decide) replied
        rcases answered with ⟨replay, -⟩ | ⟨-, result, rfl⟩
        · rw [unknown] at replay
          cases replay
        exact FirstStep.pending _ result locked
      · obtain ⟨rfl, answered⟩ := replyTo_cases (by rw [inProgress]; decide) replied
        rcases answered with ⟨replay, -⟩ | ⟨-, result, rfl⟩
        · rw [inProgress] at replay
          cases replay
        exact FirstStep.pending _ result locked
      · obtain ⟨rfl, answered⟩ := replyTo_cases (by rw [replay]; decide) replied
        rcases answered with ⟨-, result, rfl, decoded⟩ | ⟨other, -⟩
        · rw [kept, known] at decoded
          exact FirstStep.replayed _ fields result locked terminal found decoded
        exact absurd replay other
      · obtain ⟨rfl, answered⟩ := replyTo_cases (by rw [unknown]; decide) replied
        rcases answered with ⟨replay, -⟩ | ⟨-, result, rfl⟩
        · rw [unknown] at replay
          cases replay
        exact FirstStep.expired _ _ result locked inProgress id status consistent
    · next unclaimed =>
      split at claimed
      · cases claimed
      cases claimed
      rcases limitNew_cases (newRecord_unwritten _ _) (newRecord_sound _ _) replied with
        ⟨rfl, rfl⟩ | ⟨result, rfl, sound, id⟩
      · exact FirstStep.executed unclaimed
      exact FirstStep.limited _ result unclaimed sound id
  · next error refused =>
    cases run
    exact FirstStep.rejected _ (claim_error_kept refused)
  · cases run

lemma selected_some (locked : selected claimed row = some old) :
    row = some old ∧ deletes claimed row = false := by
  unfold selected at locked
  split at locked
  · cases locked
  next kept => exact ⟨locked, by simpa using kept⟩

lemma selected_kept (stored : row = some old) (undeleted : deletes claimed row = false) :
    selected claimed row = some old := by
  unfold selected
  rw [undeleted]
  exact stored

lemma selected_none (unclaimed : selected claimed row = none) :
    deletes claimed row = true ∨ row = none := by
  unfold selected at unclaimed
  split at unclaimed
  · next deleted => exact .inl deleted
  exact .inr unclaimed

end

structure Sound (world : World) : Prop where
  row : ∀ row, world.row = some row → RowSound world.period.recorded row
  claimed : world.period.committedNew = if world.row.isSome then 1 else 0
  cached : ∀ call ∈ world.calls, Unwritten call.record ∧ call.record.id ∈ world.issued
  unstarted : ∀ call ∈ world.calls, call.phase = .claimed → call.record.id ∉ world.started
  startedOnce : world.started.Nodup
  startedIssued : ∀ id ∈ world.started, id ∈ world.issued
  issuedOnce : world.issued.Nodup

lemma sound_fresh : Sound fresh where
  row := fun _ stored => nomatch stored
  claimed := rfl
  cached := fun _ mem => absurd mem List.not_mem_nil
  unstarted := fun _ mem => absurd mem List.not_mem_nil
  startedOnce := List.nodup_nil
  startedIssued := fun _ mem => absurd mem List.not_mem_nil
  issuedOnce := List.nodup_nil

lemma Sound.of_counters {world : World} (sound : Sound world) {period : Period}
    (committed : period.committedNew = world.period.committedNew)
    (recorded : period.recorded = world.period.recorded) :
    Sound { world with period := period } where
  row := by
    intro row stored
    simp only [recorded]
    exact sound.row row stored
  claimed := by
    simp only [committed]
    exact sound.claimed
  cached := sound.cached
  unstarted := sound.unstarted
  startedOnce := sound.startedOnce
  startedIssued := sound.startedIssued
  issuedOnce := sound.issuedOnce

lemma Sound.of_calls {world : World} (sound : Sound world) {calls : List Call}
    (cached : ∀ call ∈ calls, Unwritten call.record ∧ call.record.id ∈ world.issued)
    (unstarted : ∀ call ∈ calls, call.phase = .claimed → call.record.id ∉ world.started) :
    Sound { world with calls := calls } where
  row := sound.row
  claimed := sound.claimed
  cached := cached
  unstarted := unstarted
  startedOnce := sound.startedOnce
  startedIssued := sound.startedIssued
  issuedOnce := sound.issuedOnce

lemma Sound.of_row {world : World} (sound : Sound world)
    {row after : OperatorCapabilityInvocation} {recorded : Option GatewayResult}
    (stored : world.row = some row) (kept : RowSound recorded after) :
    Sound { world with row := some after, period := { world.period with recorded := recorded } } where
  row := by
    intro found eq
    cases eq
    exact kept
  claimed := by
    have claimed := sound.claimed
    rw [stored] at claimed
    exact claimed
  cached := sound.cached
  unstarted := sound.unstarted
  startedOnce := sound.startedOnce
  startedIssued := sound.startedIssued
  issuedOnce := sound.issuedOnce

section
variable {world : World} {id : Uuid} {call : Call}

lemma mem_of_find (found : world.find id = some call) : call ∈ world.calls ∧ call.record.id = id := by
  refine ⟨List.mem_of_find?_eq_some found, ?_⟩
  have matched := List.find?_some found
  simpa using matched

lemma mem_of_drop (mem : call ∈ world.drop id) : call ∈ world.calls ∧ call.record.id ≠ id := by
  obtain ⟨kept, other⟩ := List.mem_filter.1 mem
  exact ⟨kept, by simpa using other⟩

lemma Sound.drop (sound : Sound world) (id : Uuid) : Sound { world with calls := world.drop id } :=
  sound.of_calls (fun call mem => sound.cached call (mem_of_drop mem).1)
    fun call mem => sound.unstarted call (mem_of_drop mem).1

/-- A call that moves on to another phase than `claimed`. -/
lemma Sound.advance (sound : Sound world) (found : world.find id = some call) {phase : Phase}
    (later : phase ≠ .claimed) :
    Sound { world with calls := { call with phase := phase } :: world.drop id } := by
  apply sound.of_calls
  · intro other mem
    rcases List.mem_cons.1 mem with rfl | kept
    · exact sound.cached call (mem_of_find found).1
    exact sound.cached other (mem_of_drop kept).1
  · intro other mem claimed
    rcases List.mem_cons.1 mem with rfl | kept
    · exact absurd claimed later
    exact sound.unstarted other (mem_of_drop kept).1 claimed

end

section
variable {retentionHours : Nat} {key : Key} {world : World}

lemma countNew_recorded (new : Bool) (period : Period) :
    (countNew new period).committedNew = period.committedNew ∧
      (countNew new period).recorded = period.recorded := by
  unfold countNew
  split
  · exact ⟨rfl, rfl⟩
  exact ⟨rfl, rfl⟩

section
variable (sound : Sound world)
include sound

lemma Sound.claim_new {args : InvokeArgs} (unused : args.newId ∉ world.issued)
    {row : OperatorCapabilityInvocation} {calls : List Call} {period : Period}
    (first : period.committedNew = 1) (kept : RowSound period.recorded row)
    (cached : ∀ call ∈ calls, call ∈ world.calls ∨
      Unwritten call.record ∧ call.record.id = args.newId) : Sound { world with
      row := some row, calls := calls, period := period
      issued := args.newId :: world.issued } where
  row := by
    intro found eq
    cases eq
    exact kept
  claimed := first
  cached := by
    intro call mem
    rcases cached call mem with old | ⟨unwritten, id⟩
    · exact ⟨(sound.cached call old).1, List.mem_cons_of_mem _ (sound.cached call old).2⟩
    exact ⟨unwritten, by rw [id]; exact List.mem_cons_self⟩
  unstarted := by
    intro call mem claimed
    rcases cached call mem with old | ⟨-, id⟩
    · exact sound.unstarted call old claimed
    intro started
    rw [id] at started
    exact unused (sound.startedIssued _ started)
  startedOnce := sound.startedOnce
  startedIssued := fun id mem => List.mem_cons_of_mem _ (sound.startedIssued id mem)
  issuedOnce := List.nodup_cons.2 ⟨unused, sound.issuedOnce⟩

lemma Sound.unclaimed {args : InvokeArgs}
    (none_ : selected (claimArgs retentionHours args) world.row = none) :
    (if deletes (claimArgs retentionHours args) world.row then world.period.next
      else world.period).committedNew = 0 := by
  split
  · rfl
  next kept =>
  rcases selected_none none_ with deleted | absent
  · exact absurd deleted kept
  have claimed := sound.claimed
  rw [absent] at claimed
  exact claimed

lemma invoke_sound {args : InvokeArgs} (unused : args.newId ∉ world.issued) (ending : Ending) :
    Sound (invoke retentionHours key world args ending) := by
  have counted : ∀ new, Sound { world with period := countNew new world.period } := fun new =>
    sound.of_counters (countNew_recorded new world.period).1 (countNew_recorded new world.period).2
  unfold invoke
  simp only
  split
  · next row reply run =>
    have step := firstTransaction_cases run
    cases step with
    | executed unclaimed =>
      have first := sound.unclaimed unclaimed
      refine sound.claim_new unused ?_ (newRecord_sound _ _) ?_
      · simp only [(countNew_recorded _ _).1, first]
      intro call mem
      rcases List.mem_cons.1 mem with rfl | old
      · exact .inr ⟨newRecord_unwritten _ _, rfl⟩
      exact .inl old
    | limited completed result unclaimed kept id =>
      have first := sound.unclaimed unclaimed
      refine sound.claim_new unused ?_ kept fun call mem => Or.inl mem
      simp only [(countNew_recorded _ _).1, first]
    | replayed _ _ _ locked | pending _ _ locked =>
      obtain ⟨eq, undeleted⟩ := selected_some locked
      simp only [undeleted, Bool.false_eq_true, if_false, settle]
      rw [← eq]
      exact counted _
    | expired old after result locked inProgress id unknown consistent =>
      obtain ⟨eq, undeleted⟩ := selected_some locked
      simp only [undeleted, Bool.false_eq_true, if_false, settle]
      exact (counted _).of_row eq (RowSound.of_unknown consistent unknown)
    | rejected result undeleted =>
      simp only [undeleted, Bool.false_eq_true, if_false, settle]
      exact counted _
  · exact counted _

lemma start_sound {id : Uuid} {call : Call} (found : world.find id = some call)
    (claimed : call.phase = .claimed) : Sound { world with
      calls := { call with phase := .started } :: world.drop id
      period := { world.period with starts := world.period.starts + 1 }
      started := id :: world.started } := by
  obtain ⟨mem, eq⟩ := mem_of_find found
  have unstarted : id ∉ world.started := eq ▸ sound.unstarted call mem claimed
  have advanced := sound.advance found (show Phase.started ≠ .claimed by decide)
  exact
    { row := sound.row, claimed := sound.claimed, cached := advanced.cached
      unstarted := by
        intro other kept open_ started
        rcases List.mem_cons.1 started with again | before
        · rcases List.mem_cons.1 kept with rfl | dropped
          · cases open_
          exact (mem_of_drop dropped).2 again
        · exact advanced.unstarted other kept open_ before
      startedOnce := List.nodup_cons.2 ⟨unstarted, sound.startedOnce⟩
      startedIssued := by
        intro other started
        rcases List.mem_cons.1 started with rfl | before
        · exact eq ▸ (sound.cached call mem).2
        exact sound.startedIssued other before
      issuedOnce := sound.issuedOnce }

lemma finish_sound {id : Uuid} {call : Call} (found : world.find id = some call)
    (outcome : ConnectorOutcome) (now : Time) (ending : Ending) :
    Sound (finish world call outcome now ending) := by
  obtain ⟨mem, eq⟩ := mem_of_find found
  unfold finish
  simp only
  split
  · next after done =>
    cases stored : world.row with
    | none =>
      rw [stored] at done
      cases done
    | some row =>
      rw [stored] at done
      have kept := complete_sound (sound.cached call mem).1 (sound.row row stored) done
      exact (sound.drop call.record.id).of_row stored kept.1
  · rw [eq]
    exact sound.advance found (by decide)

lemma markUnknown_sound {id : Uuid} {now : Time} {row after : OperatorCapabilityInvocation}
    (stored : world.row = some row) (run : markUnknown id now row = .ok after) :
    Sound { world with row := some after, calls := world.drop id } := by
  have kept : RowSound world.period.recorded after := by
    rcases markUnknown_cases run with rfl | ⟨-, -, unknown, consistent⟩
    · exact sound.row _ stored
    exact RowSound.of_unknown consistent unknown
  exact (sound.drop id).of_row stored kept

lemma perform_sound {action : Action} {next : World}
    (step : perform retentionHours key world action = some next) : Sound next := by
  cases action with
  | invoke args ending =>
    simp only [perform] at step
    split at step
    · cases step
    next unused =>
    cases step
    exact invoke_sound sound unused ending
  | start id =>
    simp only [perform] at step
    split at step
    · cases step
    next call found =>
    split at step
    · next claimed =>
      cases step
      exact start_sound sound found claimed
    · cases step
  | finish id outcome now ending =>
    simp only [perform] at step
    split at step
    · cases step
    next call found =>
    split at step
    · cases step
      exact finish_sound sound found outcome now ending
    cases step
  | interrupt id =>
    obtain ⟨call, found, rfl⟩ := Option.map_eq_some_iff.1 step
    exact sound.advance found (by decide)
  | markUnknown id now =>
    simp only [perform] at step
    split at step
    · cases step
    split at step
    · split at step
      · cases step
        exact sound.drop id
      next stored existing =>
      split at step
      · cases step
        exact sound.drop id
      next row marked =>
      cases step
      exact markUnknown_sound sound existing marked
    · cases step
  | crash id =>
    cases step
    exact sound.drop id

end

lemma reachable_sound (reached : Reachable (ledger retentionHours key) world) : Sound world := by
  refine reached.holds ?_ ?_
  · intro start initial
    have eq : start = fresh := initial
    rw [eq]
    exact sound_fresh
  · intro before action after sound step
    exact perform_sound sound step

end

/-! ## A terminal row stays as it is until its retention deletion -/

section
variable {retentionHours : Nat} {key : Key} {world next : World}

/-- A later period, or the same one with the same terminal row. -/
def Kept (number : Nat) (row : OperatorCapabilityInvocation) (world : World) : Prop :=
  number < world.period.number ∨ world.row = some row ∧ world.period.number = number

lemma countNew_number (new : Bool) (period : Period) :
    (countNew new period).number = period.number := by
  unfold countNew
  split <;> rfl

lemma settle_number (period : Period) (args : InvokeArgs)
    (row : Option OperatorCapabilityInvocation) (reply : Reply) :
    (settle world period args row reply).period.number = period.number := by
  cases reply <;> rfl

lemma settle_row (period : Period) (args : InvokeArgs)
    (row : Option OperatorCapabilityInvocation) (reply : Reply) :
    (settle world period args row reply).row = row := by
  cases reply <;> rfl

lemma invoke_kept {row : OperatorCapabilityInvocation} (stored : world.row = some row)
    (terminal : row.status ≠ .inProgress) (args : InvokeArgs) (ending : Ending) :
    Kept world.period.number row (invoke retentionHours key world args ending) := by
  unfold invoke
  simp only
  split
  · next after reply run =>
    by_cases deleted : deletes (claimArgs retentionHours args) world.row = true
    · left
      simp only [settle_number, countNew_number, deleted, if_true, Period.next]
      exact Nat.lt_succ_self _
    · right
      simp only [settle_row, settle_number, countNew_number, deleted, Bool.false_eq_true, if_false,
        and_true]
      have locked : selected (claimArgs retentionHours args) world.row = some row :=
        selected_kept stored (by simpa using deleted)
      cases firstTransaction_cases run with
      | executed unclaimed | limited _ _ unclaimed =>
        rw [locked] at unclaimed
        cases unclaimed
      | replayed _ _ _ eq | pending _ _ eq => exact eq.symm.trans locked
      | expired old after result eq inProgress id unknown consistent =>
        obtain rfl := Option.some.inj (eq.symm.trans locked)
        exact absurd inProgress terminal
      | rejected result undeleted => exact stored
  · exact .inr ⟨stored, countNew_number _ _⟩

lemma invoke_number (args : InvokeArgs) (ending : Ending) :
    world.period.number ≤ (invoke retentionHours key world args ending).period.number := by
  unfold invoke
  simp only
  split
  · simp only [settle_number, countNew_number]
    split
    · exact Nat.le_succ _
    exact le_refl _
  · simp only [countNew_number, le_refl]

lemma finish_kept {row : OperatorCapabilityInvocation} (stored : world.row = some row)
    (terminal : row.status ≠ .inProgress) (call : Call) (outcome : ConnectorOutcome) (now : Time)
    (ending : Ending) : Kept world.period.number row (finish world call outcome now ending) := by
  unfold finish
  simp only
  split
  · next after done =>
    obtain ⟨found, eq, -, inProgress, -⟩ := complete_cases done
    rw [stored] at eq
    cases eq
    exact absurd inProgress terminal
  · exact .inr ⟨stored, rfl⟩

variable {action : Action}

lemma perform_number (step : perform retentionHours key world action = some next) :
    world.period.number ≤ next.period.number := by
  cases action with
  | invoke args ending =>
    simp only [perform] at step
    split at step
    · cases step
    cases step
    exact invoke_number args ending
  | start id =>
    simp only [perform] at step
    split at step
    · cases step
    split at step
    · cases step
      exact le_refl _
    cases step
  | finish id outcome now ending =>
    simp only [perform] at step
    split at step
    · cases step
    split at step
    · cases step
      unfold finish
      simp only
      split <;> exact Nat.le_refl _
    cases step
  | interrupt id =>
    obtain ⟨call, found, rfl⟩ := Option.map_eq_some_iff.1 step
    exact le_refl _
  | markUnknown id now =>
    simp only [perform] at step
    split at step
    · cases step
    split at step
    · split at step
      · cases step
        exact le_refl _
      split at step
      · cases step
        exact le_refl _
      cases step
      exact le_refl _
    · cases step
  | crash id =>
    cases step
    exact le_refl _

lemma perform_kept {row : OperatorCapabilityInvocation} (stored : world.row = some row)
    (terminal : row.status ≠ .inProgress)
    (step : perform retentionHours key world action = some next) :
    Kept world.period.number row next := by
  cases action with
  | invoke args ending =>
    simp only [perform] at step
    split at step
    · cases step
    cases step
    exact invoke_kept stored terminal args ending
  | start id =>
    simp only [perform] at step
    split at step
    · cases step
    split at step
    · cases step
      exact .inr ⟨stored, rfl⟩
    cases step
  | finish id outcome now ending =>
    simp only [perform] at step
    split at step
    · cases step
    split at step
    · cases step
      exact finish_kept stored terminal _ outcome now ending
    cases step
  | interrupt id =>
    obtain ⟨call, found, rfl⟩ := Option.map_eq_some_iff.1 step
    exact .inr ⟨stored, rfl⟩
  | markUnknown id now =>
    simp only [perform, stored, markUnknown_terminal terminal] at step
    split at step
    · cases step
    split at step
    · cases step
      exact .inr ⟨rfl, rfl⟩
    cases step
  | crash id =>
    cases step
    exact .inr ⟨stored, rfl⟩

lemma path_kept {row : OperatorCapabilityInvocation} {moves : List (Move World Action)}
    (path : Path (ledger retentionHours key) world moves next) (stored : world.row = some row)
    (terminal : row.status ≠ .inProgress) : Kept world.period.number row next := by
  have start : Kept world.period.number row world := Or.inr ⟨stored, rfl⟩
  refine path.preserved ?_ start
  intro before action after kept step
  rcases kept with later | ⟨eq, number⟩
  · exact .inl (lt_of_lt_of_le later (perform_number step))
  rw [← number]
  exact perform_kept eq terminal step

end

/-- The idempotency of one key, in every reachable world. -/
theorem ledger_idempotent (retentionHours : Nat) (key : Key) {world : World}
    (reached : Reachable (ledger retentionHours key) world) :
    (world.period.committedNew ≤ 1 ∧ world.issued.Nodup ∧ world.started.Nodup ∧
      ∀ id ∈ world.started, id ∈ world.issued) ∧
    (∀ row, world.row = some row → row.status ≠ .inProgress → ∀ moves last,
      Path (ledger retentionHours key) world moves last →
      last.period.number = world.period.number → last.row = some row) ∧
    (∀ args next result,
      firstTransaction retentionHours key args world.row = .ok (next, .replay result) →
      ∃ original, world.period.recorded = some original ∧
        result = { original with policyDecisionId := args.prepared.decisionId }) ∧
    (∀ args row, world.row = some row → deletes (claimArgs retentionHours args) world.row = false →
      row.capabilityName ≠ args.capabilityName ∨ row.inputFingerprint ≠ args.fingerprint →
      firstTransaction retentionHours key args world.row
        = .ok (world.row, .conflict (conflictResult args.prepared
            (conflictError "idempotency_key_reused"
              "The request ID is already bound to another operator Capability input")))) := by
  have sound := reachable_sound reached
  refine ⟨⟨?_, sound.issuedOnce, sound.startedOnce, sound.startedIssued⟩, ?_, ?_, ?_⟩
  · rw [sound.claimed]
    split <;> omega
  · intro row stored terminal moves last path number
    rcases path_kept path stored terminal with later | ⟨same, -⟩
    · omega
    exact same
  · intro args next result run
    cases firstTransaction_cases run with
    | replayed old stored result locked terminal kept decoded =>
      obtain ⟨original, recorded, encoded, code, message⟩ :=
        (sound.row old (selected_some locked).1).stored terminal
      rw [kept] at encoded
      cases encoded
      rw [operatorResultFromRecord_record original old _ code message] at decoded
      exact ⟨original, recorded, (Option.some.inj decoded).symm⟩
  · intro args row stored undeleted differs
    have locked : selected (claimArgs retentionHours args) world.row = some row :=
      selected_kept stored undeleted
    have refused : claimExisting (claimArgs retentionHours args) row
        = .error (.obsion (conflictError "idempotency_key_reused"
            "The request ID is already bound to another operator Capability input")) :=
      if_pos differs
    simp only [firstTransaction, claim, locked, refused]

def sampleId (digit : Fin 16) : Uuid := .repeating digit

def sampleKey : Key := ⟨sampleId 0, sampleId 1, sampleId 2⟩

def samplePrepared : OperatorPreparedInvocation := ⟨sampleId 3, 30, sampleId 4, sampleId 5⟩

def sampleInvoke (newId : Uuid) (now : Time) : InvokeArgs :=
  { capabilityName := "knowledge.sync"
    fingerprint := "73475cb40a568e8da8a045ced110137e159f890ac4da883b6b17dc651b3a8049"
    prepared := samplePrepared, newId := newId, now := now, insertConflicted := false
    rate := .allowed }

def sampleActions : List Action :=
  [.invoke (sampleInvoke (sampleId 6) 0) .commits, .start (sampleId 6),
    .finish (sampleId 6) (.output [("synced", .int 3)]) (seconds 1) .commits]

theorem ledger_idempotent_replay : ∃ world original, Reachable (ledger 24 sampleKey) world ∧
      world.period.recorded = some original ∧
      firstTransaction 24 sampleKey (sampleInvoke (sampleId 7) (seconds 2)) world.row
        = .ok (world.row, .replay { original with policyDecisionId := sampleId 5 }) := by
  obtain ⟨moves, world, run, next, result, replayed, kept⟩ : ∃ moves world,
      replay (perform 24 sampleKey) fresh sampleActions = some (moves, world) ∧ ∃ next result,
          firstTransaction 24 sampleKey (sampleInvoke (sampleId 7) (seconds 2)) world.row
            = .ok (next, .replay result) ∧ next = world.row :=
    ⟨_, _, rfl, _, _, rfl, rfl⟩
  have reached : Reachable (ledger 24 sampleKey) world := ⟨fresh, moves, rfl, Path.of_replay run⟩
  obtain ⟨original, recorded, same⟩ :=
    (ledger_idempotent 24 sampleKey reached).2.2.1 _ _ _ replayed
  refine ⟨world, original, reached, recorded, ?_⟩
  rw [replayed, kept, same]
  rfl

/-- The first claim returns NEW and its transaction is rolled back. -/
def lostClaim : List Action :=
  [.invoke (sampleInvoke (sampleId 6) 0) .rollsBack, .invoke (sampleInvoke (sampleId 7) 1) .commits]

/-- The call that holds the first claim starts its executor after the lease expired
and the retention deletion made room for another claim. -/
def lateStart : List Action :=
  [.invoke (sampleInvoke (sampleId 6) 0) .commits,
    .invoke (sampleInvoke (sampleId 7) (seconds 60)) .commits,
    .invoke (sampleInvoke (sampleId 8) (seconds 86400)) .commits,
    .start (sampleId 8), .start (sampleId 6)]

theorem ledger_countsLoose :
    (¬ ∀ world, Reachable (ledger 24 sampleKey) world → world.period.returnedNew ≤ 1) ∧
      ¬ ∀ world, Reachable (ledger 24 sampleKey) world → world.period.starts ≤ 1 := by
  constructor
  · intro claim
    obtain ⟨moves, world, run, twice⟩ : ∃ moves world,
        replay (perform 24 sampleKey) fresh lostClaim = some (moves, world) ∧
          world.period.returnedNew = 2 :=
      ⟨_, _, rfl, rfl⟩
    have once := claim world ⟨fresh, moves, rfl, Path.of_replay run⟩
    omega
  · intro claim
    obtain ⟨moves, world, run, twice⟩ : ∃ moves world,
        replay (perform 24 sampleKey) fresh lateStart = some (moves, world) ∧ world.period.starts = 2 :=
      ⟨_, _, rfl, rfl⟩
    have once := claim world ⟨fresh, moves, rfl, Path.of_replay run⟩
    omega

end Obsion.Ledger
