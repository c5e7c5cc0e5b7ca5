import Obsion.Harness.Run
import Obsion.Lib.Tail
import Obsion.Lib.Transition

/-! # The committed events of Runs

What readers of a Run see: its status and its events, which are committed in the order of
their numbers.  A transaction appends events and may move the status.  The one that ends
the Run appends its terminal event last, if it appends one at all: a rejected approval
and a cancelled automation end a Run without. -/

namespace Obsion.Streams

open Obsion.Lib
open Obsion.Harness (RunStatus isTerminal)

structure Event where
  runSequence : Nat
  name : String
  deriving DecidableEq, Repr

def isTerminalEvent (name : String) : Bool :=
  name ∈ ["run.completed", "run.failed", "run.cancelled"]

structure RunLog where
  status : RunStatus
  events : List Event
  /-- The number of the last event once the transaction that ended the Run has committed. -/
  closedAt : Option Nat

abbrev Runs := Uuid → Option RunLog

structure Change where
  names : List String
  status : RunStatus

def Change.ends (change : Change) (log : RunLog) : Bool :=
  !isTerminal log.status && isTerminal change.status

/-- No transition leaves a terminal status, and only the end of a Run has a terminal event. -/
def Change.valid (change : Change) (log : RunLog) : Bool :=
  if isTerminal log.status then
    decide (change.status = log.status) && change.names.all fun name => !isTerminalEvent name
  else if isTerminal change.status then
    change.names.dropLast.all fun name => !isTerminalEvent name
  else change.names.all fun name => !isTerminalEvent name

def numberFrom : Nat → List String → List Event
  | _, [] => []
  | first, name :: rest => ⟨first, name⟩ :: numberFrom (first + 1) rest

def RunLog.apply (log : RunLog) (change : Change) : RunLog where
  status := change.status
  events := log.events ++ numberFrom (log.events.length + 1) change.names
  closedAt :=
    if change.ends log then some (log.events.length + change.names.length) else log.closedAt

inductive RunAction
  | create (runId : Uuid)
  | commit (runId : Uuid) (change : Change)

def performRuns (runs : Runs) : RunAction → Option Runs
  | .create runId =>
    match runs runId with
    | none => some (Function.update runs runId (some ⟨.pending, [], none⟩))
    | some _ => none
  | .commit runId change =>
    match runs runId with
    | some log =>
      if change.valid log then some (Function.update runs runId (some (log.apply change)))
      else none
    | none => none

def RunAction.ends (runs : Runs) (runId : Uuid) : RunAction → Bool
  | .create _ => false
  | .commit committed change => decide (committed = runId) && (runs runId).any change.ends

def listRun (events : List Event) (afterSequence limit : Nat) : List Event :=
  page Event.runSequence afterSequence limit events

lemma length_numberFrom (first : Nat) (names : List String) :
    (numberFrom first names).length = names.length := by
  induction names generalizing first with
  | nil => rfl
  | cons name rest ih => simp [numberFrom, ih]

lemma consecutive_numberFrom (first : Nat) (names : List String) :
    Consecutive Event.runSequence first (numberFrom first names) := by
  induction names generalizing first with
  | nil => exact Consecutive.nil
  | cons name rest ih => exact consecutive_cons.2 ⟨rfl, ih (first + 1)⟩

variable {first reached : Nat} {names : List String} {event : Event} {runId : Uuid}

lemma mem_numberFrom (mem : event ∈ numberFrom first names) : event.name ∈ names := by
  induction names generalizing first with
  | nil => cases mem
  | cons name rest ih =>
    rcases List.mem_cons.1 mem with rfl | later
    · exact List.mem_cons_self
    exact List.mem_cons_of_mem _ (ih later)

lemma terminal_last (quiet : ∀ name ∈ names.dropLast, isTerminalEvent name = false)
    (mem : event ∈ numberFrom first names) (terminal : isTerminalEvent event.name = true) :
    event.runSequence + 1 = first + names.length := by
  induction names generalizing first with
  | nil => cases mem
  | cons name rest ih =>
    rcases List.mem_cons.1 mem with rfl | later
    · cases rest with
      | nil => rfl
      | cons second others =>
        have silent := quiet name (by simp)
        rw [silent] at terminal
        cases terminal
    · cases rest with
      | nil => cases later
      | cons second others =>
        have found := ih (fun other inside => quiet other (by simp [inside])) later
        simp only [List.length_cons] at found ⊢
        omega

structure LogOk (log : RunLog) : Prop where
  numbered : Consecutive Event.runSequence 1 log.events
  ended : isTerminal log.status = log.closedAt.isSome
  closed : ∀ mark, log.closedAt = some mark → mark ≤ log.events.length
  terminal : ∀ event ∈ log.events, isTerminalEvent event.name = true →
    log.closedAt = some event.runSequence

/-- The events stay, and so does the end of the Run. -/
structure Extends (later earlier : RunLog) : Prop where
  events : ∀ event ∈ earlier.events, event ∈ later.events
  closed : ∀ mark, earlier.closedAt = some mark → later.closedAt = some mark

lemma Extends.refl (log : RunLog) : Extends log log := ⟨fun _ mem => mem, fun _ eq => eq⟩

variable {log : RunLog} {change : Change}

lemma Change.quiet (valid : change.valid log = true) (open_ : change.ends log = false) :
    (isTerminal log.status = true → change.status = log.status) ∧
      ∀ name ∈ change.names, isTerminalEvent name = false := by
  unfold Change.valid at valid
  split at valid
  · rw [Bool.and_eq_true, List.all_eq_true] at valid
    refine ⟨fun _ => of_decide_eq_true valid.1, fun name mem => ?_⟩
    simpa using valid.2 name mem
  · next active =>
    have running : isTerminal log.status = false := eq_false_of_ne_true active
    refine ⟨fun terminal => absurd terminal active, fun name mem => ?_⟩
    split at valid
    · next stops =>
      simp [Change.ends, running, stops] at open_
    simpa using List.all_eq_true.1 valid name mem

lemma LogOk.apply (ok : LogOk log) (valid : change.valid log = true) :
    LogOk (log.apply change) ∧ Extends (log.apply change) log := by
  have numbered : Consecutive Event.runSequence 1 (log.apply change).events := by
    refine ok.numbered.append ?_
    rw [Nat.add_comm]
    exact consecutive_numberFrom _ _
  have length : (log.apply change).events.length = log.events.length + change.names.length := by
    simp [RunLog.apply, length_numberFrom]
  have kept : ∀ event ∈ log.events, event ∈ (log.apply change).events :=
    fun event mem => List.mem_append_left _ mem
  cases stops : change.ends log with
  | true =>
    obtain ⟨active, terminal⟩ : isTerminal log.status = false ∧ isTerminal change.status = true := by
      simpa [Change.ends] using stops
    have unclosed : log.closedAt = none := by
      have marked := ok.ended
      rw [active] at marked
      exact Option.isSome_eq_false_iff.1 marked.symm |> Option.isNone_iff_eq_none.1
    have closed : (log.apply change).closedAt
        = some (log.events.length + change.names.length) := if_pos stops
    refine ⟨⟨numbered, ?_, ?_, ?_⟩, kept, ?_⟩
    · rw [closed]
      exact terminal
    · intro mark eq
      rw [closed] at eq
      cases eq
      exact length.symm.le
    · intro event mem named
      rcases List.mem_append.1 mem with older | newer
      · rw [ok.terminal event older named] at unclosed
        cases unclosed
      unfold Change.valid at valid
      rw [if_neg (by simp [active]), if_pos terminal, List.all_eq_true] at valid
      have last := terminal_last (fun name inside => by simpa using valid name inside) newer named
      rw [closed]
      congr 1
      omega
    · intro mark eq
      rw [unclosed] at eq
      cases eq
  | false =>
    obtain ⟨stays, quiet⟩ := Change.quiet valid stops
    have closed : (log.apply change).closedAt = log.closedAt := by
      simp [RunLog.apply, stops]
    refine ⟨⟨numbered, ?_, ?_, ?_⟩, kept, fun mark eq => closed.trans eq⟩
    · rw [closed, ← ok.ended]
      change isTerminal change.status = isTerminal log.status
      cases terminal : isTerminal log.status with
      | true => rw [stays terminal, terminal]
      | false => simpa [Change.ends, terminal] using stops
    · intro mark eq
      rw [closed] at eq
      exact (ok.closed mark eq).trans (by omega)
    · intro event mem named
      rcases List.mem_append.1 mem with older | newer
      · exact closed.trans (ok.terminal event older named)
      have silent := quiet event.name (mem_numberFrom newer)
      rw [silent] at named
      cases named

def RunsOk (runs : Runs) : Prop := ∀ runId log, runs runId = some log → LogOk log

def Grows (before after : Runs) : Prop :=
  ∀ runId log, before runId = some log → ∃ later, after runId = some later ∧ Extends later log

variable {before after : Runs} {action : RunAction}

lemma runsOk_perform (ok : RunsOk before) (step : performRuns before action = some after) :
    RunsOk after ∧ Grows before after := by
  cases action with
  | create runId =>
    simp only [performRuns] at step
    split at step
    · next absent =>
      cases step
      constructor
      · intro other log found
        by_cases eq : other = runId
        · subst eq
          rw [Function.update_self] at found
          cases found
          exact ⟨rfl, rfl, (fun _ impossible => by cases impossible), fun _ mem => by cases mem⟩
        · rw [Function.update_of_ne eq] at found
          exact ok other log found
      · intro other log found
        have apart : other ≠ runId := by
          rintro rfl
          rw [found] at absent
          cases absent
        exact ⟨log, by rwa [Function.update_of_ne apart], Extends.refl log⟩
    · cases step
  | commit runId change =>
    simp only [performRuns] at step
    split at step
    · next log stored =>
      split at step
      · next valid =>
        cases step
        obtain ⟨applied, extends_⟩ := (ok runId log stored).apply valid
        constructor
        · intro other found located
          by_cases eq : other = runId
          · subst eq
            rw [Function.update_self] at located
            exact Option.some.inj located ▸ applied
          · rw [Function.update_of_ne eq] at located
            exact ok other found located
        · intro other found located
          by_cases eq : other = runId
          · subst eq
            obtain rfl := Option.some.inj (stored.symm.trans located)
            exact ⟨_, Function.update_self .., extends_⟩
          · exact ⟨found, by rwa [Function.update_of_ne eq], Extends.refl found⟩
      · cases step
    · cases step

lemma closedAt_kept (step : performRuns before action = some after)
    (open_ : action.ends before runId = false) {later : RunLog} (found : after runId = some later) :
    later.closedAt = none ∨ ∃ log, before runId = some log ∧ later.closedAt = log.closedAt := by
  cases action with
  | create created =>
    simp only [performRuns] at step
    split at step
    · cases step
      by_cases eq : runId = created
      · subst eq
        rw [Function.update_self] at found
        cases found
        exact .inl rfl
      · rw [Function.update_of_ne eq] at found
        exact .inr ⟨later, found, rfl⟩
    · cases step
  | commit committed change =>
    simp only [performRuns] at step
    split at step
    · next log stored =>
      split at step
      · cases step
        by_cases eq : runId = committed
        · subst eq
          rw [Function.update_self] at found
          cases found
          refine .inr ⟨log, stored, ?_⟩
          have stays : change.ends log = false := by
            simpa [RunAction.ends, stored] using open_
          simp [RunLog.apply, stays]
        · rw [Function.update_of_ne eq] at found
          exact .inr ⟨later, found, rfl⟩
      · cases step
    · cases step

/-- Every event up to the end of the Run is numbered at most `reached`. -/
structure Complete (runs : Runs) (runId : Uuid) (reached : Nat) : Prop where
  ended : ∃ log mark, runs runId = some log ∧ isTerminal log.status = true ∧
    log.closedAt = some mark ∧ mark ≤ reached
  terminal : ∀ log, runs runId = some log → ∀ event ∈ log.events,
    isTerminalEvent event.name = true → event.runSequence ≤ reached

lemma complete_of_closed (ok : RunsOk before) {mark : Nat} {log : RunLog}
    (found : before runId = some log) (closed : log.closedAt = some mark) (within : mark ≤ reached) :
    Complete before runId reached where
  ended := by
    refine ⟨log, mark, found, ?_, closed, within⟩
    rw [(ok runId log found).ended, closed]
    rfl
  terminal := by
    intro other located event mem named
    obtain rfl := Option.some.inj (found.symm.trans located)
    have eq := (ok runId log found).terminal event mem named
    rw [closed] at eq
    cases eq
    exact within

lemma Complete.grows (complete : Complete before runId reached) (okAfter : RunsOk after)
    (grows : Grows before after) : Complete after runId reached := by
  obtain ⟨log, mark, found, -, closed, within⟩ := complete.ended
  obtain ⟨later, located, extends_⟩ := grows runId log found
  exact complete_of_closed okAfter located (extends_.closed mark closed) within

end Obsion.Streams
