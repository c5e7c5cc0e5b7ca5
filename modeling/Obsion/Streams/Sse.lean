import Obsion.Streams.Log

/-! # `stream_run_events`

The generators of the server-sent event streams, one for each client.  A generator reads a
page of events, yields them, and reads the status of the Run after a page without events.
These are separate queries, so Runs go on between them. -/

namespace Obsion.Streams

open Obsion.Lib
open Obsion.Harness (RunStatus isTerminal)

inductive Phase
  /-- The top of the loop. -/
  | polling
  /-- The events of a page that are not yielded yet, and the local `terminal`. -/
  | yielding (events : List Event) (terminal : Bool)
  /-- After a page without events, before the status is read. -/
  | checkingStatus
  /-- The generator has returned, because the Run is terminal or for another reason. -/
  | returned (terminal : Bool)
  deriving DecidableEq, Repr

structure Generator where
  runId : Uuid
  /-- `max(after, last_event_id or 0)` -/
  start : Nat
  cursor : Nat
  phase : Phase
  /-- The numbers of the events that were yielded. -/
  delivered : List Nat

def newGenerator (runId : Uuid) (after : Nat) (lastEventId : Option Nat) : Generator where
  runId := runId
  start := max after (lastEventId.getD 0)
  cursor := max after (lastEventId.getD 0)
  phase := .polling
  delivered := []

inductive GeneratorAction
  /-- The client is gone: the next check of it returns, and a yield raises. -/
  | disconnect
  /-- The page is read, unless the access to the Run is refused. -/
  | readPage (denied : Bool)
  | yieldEvent
  | readStatus

def readPage (runs : Runs) (generator : Generator) : Phase :=
  match runs generator.runId with
  | none => .returned false
  | some log =>
    match listRun log.events generator.cursor 200 with
    | [] => .checkingStatus
    | events => .yielding events false

def readStatus (runs : Runs) (generator : Generator) : Phase :=
  match runs generator.runId with
  | none => .polling
  | some log => if isTerminal log.status then .returned true else .polling

def afterYield (rest : List Event) (terminal : Bool) : Phase :=
  match rest with
  | [] => if terminal then .returned true else .polling
  | _ => .yielding rest terminal

def yieldEvent (generator : Generator) (event : Event) (rest : List Event) (terminal : Bool) :
    Generator :=
  { generator with
    cursor := max generator.cursor event.runSequence
    phase := afterYield rest (terminal || isTerminalEvent event.name)
    delivered := generator.delivered ++ [event.runSequence] }

def performGenerator (runs : Runs) (generator : Generator) : GeneratorAction → Option Generator
  | .disconnect =>
    match generator.phase with
    | .returned _ => none
    | _ => some { generator with phase := .returned false }
  | .readPage denied =>
    match generator.phase with
    | .polling =>
      if denied then some { generator with phase := .returned false }
      else some { generator with phase := readPage runs generator }
    | _ => none
  | .yieldEvent =>
    match generator.phase with
    | .yielding (event :: rest) terminal => some (yieldEvent generator event rest terminal)
    | _ => none
  | .readStatus =>
    match generator.phase with
    | .checkingStatus => some { generator with phase := readStatus runs generator }
    | _ => none

structure SseWorld where
  runs : Runs
  generators : List Generator

inductive SseAction
  | run (action : RunAction)
  | open_ (runId : Uuid) (after : Nat) (lastEventId : Option Nat)
  | generator (number : Nat) (action : GeneratorAction)

def performSse (world : SseWorld) : SseAction → Option SseWorld
  | .run action => (performRuns world.runs action).map fun runs => { world with runs := runs }
  | .open_ runId after lastEventId =>
    some { world with generators := world.generators ++ [newGenerator runId after lastEventId] }
  | .generator number action =>
    (world.generators[number]?).bind fun generator =>
      (performGenerator world.runs generator action).map fun next =>
        { world with generators := world.generators.set number next }

def sse : System SseWorld SseAction :=
  System.ofPartial (fun world => world.runs = (fun _ => none) ∧ world.generators = []) performSse

/-- No transaction ends a Run while a stream of it is between a page without events and the
read of the status. -/
def Calm (move : Move SseWorld SseAction) : Prop :=
  ∀ action, move.action = .run action → ∀ generator ∈ move.before.generators,
    generator.phase = .checkingStatus → action.ends move.before.runs generator.runId = false

def PhaseOk (runs : Runs) (runId : Uuid) (cursor : Nat) : Phase → Prop
  | .polling => True
  | .yielding events terminal =>
    ∃ log, runs runId = some log ∧ Consecutive Event.runSequence (cursor + 1) events ∧
      (∀ event ∈ events, event ∈ log.events) ∧
      (terminal = true → ∃ mark, log.closedAt = some mark ∧ mark ≤ cursor)
  | .checkingStatus =>
    ∀ log mark, runs runId = some log → log.closedAt = some mark → mark ≤ cursor
  | .returned terminal => terminal = true → Complete runs runId cursor

structure GeneratorOk (runs : Runs) (generator : Generator) : Prop where
  start : generator.start ≤ generator.cursor
  delivered : generator.delivered
    = List.range' (generator.start + 1) (generator.cursor - generator.start)
  phase : PhaseOk runs generator.runId generator.cursor generator.phase

variable {runs after : Runs} {generator next : Generator}

lemma newGenerator_ok (runId : Uuid) (position : Nat) (lastEventId : Option Nat) :
    GeneratorOk runs (newGenerator runId position lastEventId) where
  start := Nat.le_refl _
  delivered := by simp [newGenerator]
  phase := trivial

lemma range'_push {start cursor : Nat} (within : start ≤ cursor) :
    List.range' (start + 1) (cursor - start) ++ [cursor + 1]
      = List.range' (start + 1) (cursor + 1 - start) := by
  have more : cursor + 1 - start = (cursor - start) + 1 := by omega
  have last : start + 1 + (cursor - start) = cursor + 1 := by omega
  rw [more, List.range'_concat, Nat.one_mul, last]

lemma readPage_ok (ok : RunsOk runs) :
    PhaseOk runs generator.runId generator.cursor (readPage runs generator) := by
  unfold readPage
  split
  · intro impossible
    cases impossible
  next log found =>
  have numbered := (ok _ log found).numbered
  split
  · next empty =>
    intro other mark located closed
    obtain rfl := Option.some.inj (found.symm.trans located)
    have reached : log.events.length ≤ generator.cursor + (listRun log.events generator.cursor 200).length :=
      page_reaches numbered (by
        change (listRun log.events generator.cursor 200).length < 200
        rw [empty]
        decide)
    rw [empty] at reached
    exact ((ok _ log found).closed mark closed).trans reached
  · refine ⟨log, found, numbered.page, ?_, fun impossible => by cases impossible⟩
    exact fun event mem => mem_of_page numbered mem

lemma readStatus_ok (ok : RunsOk runs)
    (checked : PhaseOk runs generator.runId generator.cursor .checkingStatus) :
    PhaseOk runs generator.runId generator.cursor (readStatus runs generator) := by
  unfold readStatus
  split
  · trivial
  next log found =>
  split
  · next terminal =>
    intro _
    have marked : log.closedAt.isSome = true := (ok _ log found).ended ▸ terminal
    obtain ⟨mark, closed⟩ := Option.isSome_iff_exists.1 marked
    exact complete_of_closed ok found closed (checked log mark found closed)
  · trivial

lemma yieldEvent_ok (ok : RunsOk runs) (sound : GeneratorOk runs generator) {event : Event}
    {rest : List Event} {terminal : Bool} (phase : generator.phase = .yielding (event :: rest) terminal) :
    GeneratorOk runs (yieldEvent generator event rest terminal) := by
  have pending := sound.phase
  rw [phase] at pending
  obtain ⟨log, found, numbered, members, closed⟩ := pending
  obtain ⟨here, others⟩ := consecutive_cons.1 numbered
  have cursor : max generator.cursor event.runSequence = generator.cursor + 1 := by omega
  have within := sound.start
  -- The events up to the terminal one are numbered up to the new cursor.
  have ended : (terminal || isTerminalEvent event.name) = true →
      ∃ mark, log.closedAt = some mark ∧ mark ≤ generator.cursor + 1 := by
    intro stops
    rcases Bool.or_eq_true _ _ |>.mp stops with earlier | named
    · obtain ⟨mark, eq, reached⟩ := closed earlier
      exact ⟨mark, eq, by omega⟩
    exact ⟨event.runSequence,
      (ok _ log found).terminal event (members event List.mem_cons_self) named, by omega⟩
  constructor
  · change generator.start ≤ max generator.cursor event.runSequence
    omega
  · change generator.delivered ++ [event.runSequence]
      = List.range' (generator.start + 1) (max generator.cursor event.runSequence - generator.start)
    rw [sound.delivered, cursor, here]
    exact range'_push within
  · change PhaseOk runs generator.runId (max generator.cursor event.runSequence) (afterYield rest _)
    rw [cursor]
    unfold afterYield
    split
    · split
      · next stops =>
        intro _
        obtain ⟨mark, eq, reached⟩ := ended stops
        exact complete_of_closed ok found eq reached
      · trivial
    · exact ⟨log, found, others, fun other mem => members other (List.mem_cons_of_mem _ mem), ended⟩

lemma performGenerator_ok (ok : RunsOk runs) (sound : GeneratorOk runs generator)
    {action : GeneratorAction} (step : performGenerator runs generator action = some next) :
    GeneratorOk runs next := by
  cases action with
  | disconnect =>
    simp only [performGenerator] at step
    split at step
    · cases step
    cases step
    exact ⟨sound.start, sound.delivered, fun impossible => by cases impossible⟩
  | readPage denied =>
    simp only [performGenerator] at step
    split at step
    · split at step
      · cases step
        exact ⟨sound.start, sound.delivered, fun impossible => by cases impossible⟩
      cases step
      exact ⟨sound.start, sound.delivered, readPage_ok ok⟩
    · cases step
  | yieldEvent =>
    simp only [performGenerator] at step
    split at step
    · next event rest terminal phase =>
      cases step
      exact yieldEvent_ok ok sound phase
    · cases step
  | readStatus =>
    simp only [performGenerator] at step
    split at step
    · next phase =>
      cases step
      have checked := sound.phase
      rw [phase] at checked
      exact ⟨sound.start, sound.delivered, readStatus_ok ok checked⟩
    · cases step

lemma GeneratorOk.run (okAfter : RunsOk after) (grows : Grows runs after)
    (sound : GeneratorOk runs generator)
    (calm : generator.phase = .checkingStatus → ∀ later mark, after generator.runId = some later →
      later.closedAt = some mark → ∃ log, runs generator.runId = some log ∧ log.closedAt = some mark) :
    GeneratorOk after generator := by
  refine ⟨sound.start, sound.delivered, ?_⟩
  have held := sound.phase
  cases phase : generator.phase with
  | polling => trivial
  | yielding events terminal =>
    rw [phase] at held
    obtain ⟨log, found, numbered, members, closed⟩ := held
    obtain ⟨later, located, extends_⟩ := grows _ log found
    refine ⟨later, located, numbered, fun event mem => extends_.events event (members event mem), ?_⟩
    intro stops
    obtain ⟨mark, eq, reached⟩ := closed stops
    exact ⟨mark, extends_.closed mark eq, reached⟩
  | checkingStatus =>
    rw [phase] at held
    intro later mark located closed
    obtain ⟨log, found, eq⟩ := calm phase later mark located closed
    exact held log mark found eq
  | returned terminal =>
    rw [phase] at held
    intro stops
    exact (held stops).grows okAfter grows

structure SseOk (world : SseWorld) : Prop where
  runs : RunsOk world.runs
  generators : ∀ generator ∈ world.generators, GeneratorOk world.runs generator

lemma performSse_ok {before later : SseWorld} {action : SseAction} (ok : SseOk before)
    (step : performSse before action = some later) (calm : Calm ⟨before, action, later⟩) :
    SseOk later := by
  cases action with
  | run action =>
    obtain ⟨committed, performed, rfl⟩ := Option.map_eq_some_iff.1 step
    obtain ⟨okAfter, grows⟩ := runsOk_perform ok.runs performed
    refine ⟨okAfter, fun generator mem => ?_⟩
    refine (ok.generators generator mem).run okAfter grows fun checking found mark located closed => ?_
    have quiet := calm action rfl generator mem checking
    rcases closedAt_kept performed quiet located with unclosed | ⟨log, stored, eq⟩
    · rw [closed] at unclosed
      cases unclosed
    exact ⟨log, stored, eq.symm.trans closed⟩
  | open_ runId position lastEventId =>
    cases step
    refine ⟨ok.runs, fun generator mem => ?_⟩
    rcases List.mem_append.1 mem with older | added
    · exact ok.generators generator older
    obtain rfl := List.mem_singleton.1 added
    exact newGenerator_ok runId position lastEventId
  | generator number action =>
    obtain ⟨found, stored, rest⟩ := Option.bind_eq_some_iff.1 step
    obtain ⟨moved, performed, rfl⟩ := Option.map_eq_some_iff.1 rest
    have sound := ok.generators found (List.mem_of_getElem? stored)
    refine ⟨ok.runs, fun generator mem => ?_⟩
    rcases List.mem_or_eq_of_mem_set mem with older | rfl
    · exact ok.generators generator older
    exact performGenerator_ok ok.runs sound performed

end Obsion.Streams
