import Obsion.Streams.WebSocket

/-! # Gapless and complete event streams

What a client receives, over server-sent events and over a WebSocket, in every interleaving
with the transactions of the Runs. -/

namespace Obsion.Streams

open Obsion.Lib

/-- A WebSocket subscription reads the status before the events, so its completion misses
nothing.  A server-sent stream reads the status last, so the Run must not end in between. -/
theorem event_streams_gapless (maxSubscriptions : Nat) :
    (∀ start last moves, Path sse start moves last → sse.init start → (∀ move ∈ moves, Calm move) →
      ∀ generator ∈ last.generators,
        generator.delivered = List.range' (generator.start + 1) generator.delivered.length ∧
          (generator.phase = .returned true →
            Complete last.runs generator.runId (generator.start + generator.delivered.length))) ∧
    ∀ start last moves, Path (webSocket maxSubscriptions) start moves last →
      (webSocket maxSubscriptions).init start →
      ∀ subscription ∈ last.subscriptions, subscription.delivered
          = List.range' (subscription.start + 1) subscription.delivered.length ∧
        ∀ reported, subscription.completed = some reported →
          reported = subscription.start + subscription.delivered.length ∧
            Complete last.runs subscription.runId reported := by
  constructor
  · rintro start last moves path ⟨noRuns, noGenerators⟩ calm generator member
    have initially : SseOk start := by
      refine ⟨fun runId log found => ?_, fun generator inside => ?_⟩
      · rw [noRuns] at found
        cases found
      rw [noGenerators] at inside
      cases inside
    have ok : SseOk last := by
      refine path.preservedWhere ?_ calm initially
      intro before action after holds step allowed
      exact performSse_ok holds step allowed
    have sound := ok.generators generator member
    have count : generator.delivered.length = generator.cursor - generator.start := by
      rw [sound.delivered, List.length_range']
    have reached : generator.start + generator.delivered.length = generator.cursor := by
      have within := sound.start
      omega
    refine ⟨?_, fun ended => ?_⟩
    · rw [count]
      exact sound.delivered
    have complete := sound.phase
    rw [ended] at complete
    rw [reached]
    exact complete rfl
  · rintro start last moves path ⟨noRuns, noSubscriptions, -, waiting⟩ subscription member
    have initially : ConnectionOk start := by
      refine ⟨fun runId log found => ?_, fun number subscription stored => ?_, ?_⟩
      · rw [noRuns] at found
        cases found
      · rw [noSubscriptions] at stored
        cases stored
      · rw [waiting]
        trivial
    have ok : ConnectionOk last := by
      refine path.preserved ?_ initially
      intro before action after holds step
      exact performConnection_ok holds step
    obtain ⟨number, stored⟩ := List.mem_iff_getElem?.1 member
    have sound := ok.subscriptions number subscription stored
    refine ⟨sound.delivered, fun reported same => ?_⟩
    obtain ⟨last, complete, -⟩ := sound.completed reported same
    exact ⟨last, complete⟩

def sampleRun : Uuid := .repeating 1

def emptySse : SseWorld := ⟨fun _ => none, []⟩

/-- A stream from the start of a Run, up to a page without events. -/
def sampleStream : List SseAction :=
  [.run (.create sampleRun), .run (.commit sampleRun ⟨["turn.created", "run.created"], .pending⟩),
    .open_ sampleRun 0 none,
    .generator 0 (.readPage false),
    .generator 0 .yieldEvent,
    .generator 0 .yieldEvent,
    .generator 0 (.readPage false)]

def sampleEnd : RunAction := .commit sampleRun ⟨["run.failed"], .failed⟩

/-- The Run fails between the page without events and the read of the status: the stream
ends, and `run.failed` was not delivered. -/
theorem stream_misses_terminal_event :
    ∃ moves last generator log, Path sse emptySse moves last ∧ sse.init emptySse ∧
      generator ∈ last.generators ∧ generator.phase = .returned true ∧
      generator.delivered = [1, 2] ∧ last.runs sampleRun = some log ∧
      log.events.map Event.name = ["turn.created", "run.created", "run.failed"] ∧
      ¬ Complete last.runs generator.runId (generator.start + generator.delivered.length) := by
  obtain ⟨moves, last, run, generators, found⟩ : ∃ moves last,
      replay performSse emptySse (sampleStream ++ [.run sampleEnd, .generator 0 .readStatus])
        = some (moves, last) ∧
      last.generators = [⟨sampleRun, 0, 2, .returned true, [1, 2]⟩] ∧
      last.runs sampleRun
        = some ⟨.failed, [⟨1, "turn.created"⟩, ⟨2, "run.created"⟩, ⟨3, "run.failed"⟩], some 3⟩ :=
    ⟨_, _, rfl, rfl, rfl⟩
  refine ⟨moves, last, _, _, Path.of_replay run, ⟨rfl, rfl⟩, generators ▸ List.mem_cons_self, rfl, rfl,
    found, rfl, fun complete => ?_⟩
  have late := complete.terminal _ found ⟨3, "run.failed"⟩ (by simp) rfl
  exact absurd late (by decide)

def sampleCalm : List SseAction :=
  sampleStream.dropLast ++ [.run sampleEnd, .generator 0 (.readPage false), .generator 0 .yieldEvent]

/-- No generator is between its page and its read of the status. -/
def unattended (move : Move SseWorld SseAction) : Bool :=
  match move.action with
  | .run _ => move.before.generators.all fun generator => decide (generator.phase ≠ .checkingStatus)
  | _ => true

lemma calm_of_unattended {moves : List (Move SseWorld SseAction)}
    (checked : moves.all unattended = true) : ∀ move ∈ moves, Calm move := by
  intro move mem action acts generator inside checking
  have quiet := List.all_eq_true.1 checked move mem
  simp only [unattended, acts, List.all_eq_true] at quiet
  exact absurd checking (of_decide_eq_true (quiet generator inside))

theorem event_streams_gapless_sample :
    ∃ moves last generator, Path sse emptySse moves last ∧ generator ∈ last.generators ∧
      generator.phase = .returned true ∧ generator.delivered = [1, 2, 3] ∧
      Complete last.runs generator.runId 3 := by
  obtain ⟨moves, last, run, checked, generators⟩ : ∃ moves last,
      replay performSse emptySse sampleCalm = some (moves, last) ∧ moves.all unattended = true ∧
      last.generators = [⟨sampleRun, 0, 3, .returned true, [1, 2, 3]⟩] :=
    ⟨_, _, rfl, rfl, rfl⟩
  have path : Path sse emptySse moves last := Path.of_replay run
  have member : (⟨sampleRun, 0, 3, .returned true, [1, 2, 3]⟩ : Generator) ∈ last.generators :=
    generators ▸ List.mem_cons_self
  have gapless := (event_streams_gapless 1).1 emptySse last moves path ⟨rfl, rfl⟩
    (calm_of_unattended checked) _ member
  exact ⟨moves, last, _, path, member, rfl, rfl, gapless.2 rfl⟩

end Obsion.Streams
