import Obsion.Streams.Sse

/-! # `AppServerConnection._poll_subscriptions`

One connection: its reader, which subscribes and unsubscribes, and its poller.  The two
tasks take turns where they await.  A subscription object lives on after it has left the
dictionary, as the poller may still hold it; `registered` says that it is in there. -/

namespace Obsion.Streams

open Obsion.Lib
open Obsion.Harness (RunStatus isTerminal)

structure RunSubscription where
  runId : Uuid
  start : Nat
  cursor : Nat
  registered : Bool
  /-- The numbers of the events that were sent for it. -/
  delivered : List Nat
  /-- The `after_sequence` of `run.subscription.completed`. -/
  completed : Option Nat

/-- The result of `run_event_batch` that a visit works on. -/
structure Batch where
  number : Nat
  status : RunStatus
  size : Nat

def Batch.final (batch : Batch) : Bool := isTerminal batch.status && decide (batch.size < 200)

inductive Poller
  | waiting
  /-- The subscriptions of the round that are not visited yet. -/
  | round (pending : List Nat)
  /-- Between the two reads of `run_event_batch`. -/
  | statusRead (number : Nat) (status : RunStatus) (pending : List Nat)
  | sending (batch : Batch) (events : List Event) (pending : List Nat)
  /-- The event was sent, and the cursor has not moved yet. -/
  | sent (batch : Batch) (sequence : Nat) (events : List Event) (pending : List Nat)
  /-- The completion was sent. -/
  | completing (number : Nat) (pending : List Nat)
  /-- The error was sent. -/
  | failing (number : Nat) (pending : List Nat)
  | stopped

structure Connection where
  runs : Runs
  /-- All subscriptions that the connection ever had. -/
  subscriptions : List RunSubscription
  /-- The reader has answered an unsubscribe and not removed the subscription yet. -/
  leaving : Option Nat
  poller : Poller

def Connection.registered (connection : Connection) (number : Nat) : Bool :=
  (connection.subscriptions[number]?).any RunSubscription.registered

def Connection.values (connection : Connection) : List Nat :=
  (List.range connection.subscriptions.length).filter connection.registered

def Connection.update (connection : Connection) (number : Nat)
    (change : RunSubscription → RunSubscription) (poller : Poller) : Connection :=
  { connection with
    subscriptions := connection.subscriptions.modify number change, poller := poller }

def RunSubscription.unregister (subscription : RunSubscription) : RunSubscription :=
  { subscription with registered := false }

inductive ReaderAction
  | subscribe (runId : Uuid) (afterSequence : Nat)
  | answerUnsubscribe (number : Nat)
  | removeSubscription
  /-- The connection ends; the poller is cancelled. -/
  | disconnect

inductive PollerAction
  | wake
  /-- `require_run_access` reads the status, or refuses. -/
  | visit (denied : Bool)
  /-- The check of the source content, and `list_run`. -/
  | readEvents (denied : Bool)
  | send
  | moveCursor
  /-- The end of the loop over the events. -/
  | finish
  | remove
  | endRound
  /-- An exception other than an error of the domain. -/
  | stop

def newSubscription (runId : Uuid) (afterSequence : Nat) : RunSubscription where
  runId := runId
  start := afterSequence
  cursor := afterSequence
  registered := true
  delivered := []
  completed := none

def performReader (maxSubscriptions : Nat) (connection : Connection) :
    ReaderAction → Option Connection
  | .subscribe runId afterSequence =>
    if connection.leaving.isNone ∧ connection.values.length < maxSubscriptions then
      some { connection with
        subscriptions := connection.subscriptions ++ [newSubscription runId afterSequence] }
    else none
  | .answerUnsubscribe number =>
    if connection.leaving.isNone ∧ connection.registered number then
      some { connection with leaving := some number }
    else none
  | .removeSubscription =>
    connection.leaving.map fun number =>
      { connection with
        subscriptions := connection.subscriptions.modify number RunSubscription.unregister
        leaving := none }
  | .disconnect =>
    some { connection with
      subscriptions := connection.subscriptions.map RunSubscription.unregister
      poller := .stopped }

def visit (connection : Connection) (number : Nat) (pending : List Nat) (denied : Bool) : Poller :=
  match connection.subscriptions[number]? with
  | none => .round pending
  | some subscription =>
    if !subscription.registered then .round pending
    else if denied then .failing number pending
    else match connection.runs subscription.runId with
      | none => .failing number pending
      | some log => .statusRead number log.status pending

def readEvents (connection : Connection) (number : Nat) (status : RunStatus) (pending : List Nat)
    (denied : Bool) : Poller :=
  match connection.subscriptions[number]? with
  | none => .failing number pending
  | some subscription =>
    match connection.runs subscription.runId with
    | none => .failing number pending
    | some log =>
      let events := listRun log.events subscription.cursor 200
      if denied then .failing number pending
      else .sending ⟨number, status, events.length⟩ events pending

def deliver (sequence : Nat) (subscription : RunSubscription) : RunSubscription :=
  { subscription with delivered := subscription.delivered ++ [sequence] }

def moveTo (sequence : Nat) (subscription : RunSubscription) : RunSubscription :=
  { subscription with cursor := sequence }

def complete (subscription : RunSubscription) : RunSubscription :=
  { subscription with completed := some subscription.cursor }

def performPoller (connection : Connection) : PollerAction → Option Connection
  | .wake =>
    match connection.poller with
    | .waiting => some { connection with poller := .round connection.values }
    | _ => none
  | .visit denied =>
    match connection.poller with
    | .round (number :: pending) =>
      some { connection with poller := visit connection number pending denied }
    | _ => none
  | .readEvents denied =>
    match connection.poller with
    | .statusRead number status pending =>
      some { connection with poller := readEvents connection number status pending denied }
    | _ => none
  | .send =>
    match connection.poller with
    | .sending batch (event :: rest) pending =>
      if connection.registered batch.number then
        some (connection.update batch.number (deliver event.runSequence)
          (.sent batch event.runSequence rest pending))
      else none
    | _ => none
  | .moveCursor =>
    match connection.poller with
    | .sent batch sequence rest pending =>
      some (connection.update batch.number (moveTo sequence) (.sending batch rest pending))
    | _ => none
  | .finish =>
    match connection.poller with
    | .sending batch events pending =>
      if !connection.registered batch.number then
        some { connection with poller := .round pending }
      else if !events.isEmpty then none
      else if batch.final then
        some (connection.update batch.number complete (.completing batch.number pending))
      else some { connection with poller := .round pending }
    | _ => none
  | .remove =>
    match connection.poller with
    | .completing number pending =>
      some (connection.update number RunSubscription.unregister (.round pending))
    | .failing number pending =>
      some (connection.update number RunSubscription.unregister (.round pending))
    | _ => none
  | .endRound =>
    match connection.poller with
    | .round [] => some { connection with poller := .waiting }
    | _ => none
  | .stop => some { connection with poller := .stopped }

inductive ConnectionAction
  | run (action : RunAction)
  | reader (action : ReaderAction)
  | poller (action : PollerAction)

def performConnection (maxSubscriptions : Nat) (connection : Connection) :
    ConnectionAction → Option Connection
  | .run action => (performRuns connection.runs action).map fun runs => { connection with runs := runs }
  | .reader action => performReader maxSubscriptions connection action
  | .poller action => performPoller connection action

def webSocket (maxSubscriptions : Nat) : System Connection ConnectionAction :=
  System.ofPartial
    (fun connection => connection.runs = (fun _ => none) ∧ connection.subscriptions = [] ∧
      connection.leaving = none ∧ connection.poller = .waiting)
    (performConnection maxSubscriptions)

/-! ## What every step keeps -/

/-- The number that was sent last: the cursor, or the event on its way. -/
def Poller.position (poller : Poller) (number cursor : Nat) : Nat :=
  match poller with
  | .sent batch sequence _ _ => if batch.number = number then sequence else cursor
  | _ => cursor

def Poller.closing (poller : Poller) (number : Nat) : Prop :=
  match poller with
  | .completing completed _ => completed = number
  | .stopped => True
  | _ => False

def Poller.about : Poller → Option Nat
  | .statusRead number _ _ => some number
  | .sending batch _ _ => some batch.number
  | .sent batch _ _ _ => some batch.number
  | .completing number _ => some number
  | .failing number _ => some number
  | _ => none

structure SubscriptionOk (runs : Runs) (poller : Poller) (number : Nat)
    (subscription : RunSubscription) : Prop where
  delivered : subscription.delivered
    = List.range' (subscription.start + 1) subscription.delivered.length
  reached : poller ≠ .stopped →
    subscription.start + subscription.delivered.length = poller.position number subscription.cursor
  completed : ∀ reported, subscription.completed = some reported →
    reported = subscription.start + subscription.delivered.length ∧
      Complete runs subscription.runId reported ∧
      (subscription.registered = true → poller.closing number)

/-- The events to come after `position` end the Run, if the batch is the last one. -/
structure BatchOk (runs : Runs) (runId : Uuid) (batch : Batch) (position : Nat) (events : List Event) :
    Prop where
  numbered : Consecutive Event.runSequence (position + 1) events
  final : batch.final = true →
    ∃ log mark, runs runId = some log ∧ log.closedAt = some mark ∧ mark ≤ position + events.length

def PollerOk (runs : Runs) (subscriptions : List RunSubscription) : Poller → Prop
  | .statusRead number status _ =>
    ∃ subscription, subscriptions[number]? = some subscription ∧ subscription.completed = none ∧
      (isTerminal status = true →
        ∃ log mark, runs subscription.runId = some log ∧ log.closedAt = some mark)
  | .sending batch events _ =>
    ∃ subscription, subscriptions[batch.number]? = some subscription ∧
      subscription.completed = none ∧
      BatchOk runs subscription.runId batch subscription.cursor events
  | .sent batch sequence events _ =>
    ∃ subscription, subscriptions[batch.number]? = some subscription ∧
      subscription.completed = none ∧ sequence = subscription.cursor + 1 ∧
      BatchOk runs subscription.runId batch sequence events
  | _ => True

structure ConnectionOk (connection : Connection) : Prop where
  runs : RunsOk connection.runs
  subscriptions : ∀ number subscription, connection.subscriptions[number]? = some subscription →
    SubscriptionOk connection.runs connection.poller number subscription
  poller : PollerOk connection.runs connection.subscriptions connection.poller

variable {runs after : Runs} {connection next : Connection} {poller other : Poller} {number : Nat}
  {subscription : RunSubscription}

lemma position_apart (apart : poller.about ≠ some number) (cursor : Nat) :
    poller.position number cursor = cursor := by
  cases poller with
  | sent batch sequence events pending =>
    exact if_neg fun eq => apart (congrArg some eq)
  | _ => rfl

lemma not_closing_apart (apart : poller.about ≠ some number) (running : poller ≠ .stopped) :
    ¬ poller.closing number := by
  cases poller with
  | completing completed pending => exact fun eq => apart (congrArg some eq)
  | stopped => exact absurd rfl running
  | _ => exact id

/-- No subscription is ahead of its cursor or on its way out. -/
def Poller.quiet : Poller → Prop
  | .sent .. | .completing .. | .stopped => False
  | _ => True

lemma Poller.quiet.spec (quiet : poller.quiet) : poller ≠ .stopped ∧
    (∀ number cursor, poller.position number cursor = cursor) ∧ ∀ number, ¬ poller.closing number := by
  cases poller with
  | sent | completing | stopped => exact absurd quiet id
  | _ => exact ⟨nofun, fun _ _ => rfl, fun _ => id⟩

section
variable (sound : SubscriptionOk runs poller number subscription)
include sound

lemma SubscriptionOk.apart (before : poller.about ≠ some number) (later : other.about ≠ some number)
    (running : poller ≠ .stopped) : SubscriptionOk runs other number subscription := by
  refine ⟨sound.delivered, fun _ => ?_, fun reported eq => ?_⟩
  · rw [sound.reached running, position_apart before, position_apart later]
  obtain ⟨last, complete, closing⟩ := sound.completed reported eq
  refine ⟨last, complete, fun registered => ?_⟩
  exact absurd (closing registered) (not_closing_apart before running)

lemma SubscriptionOk.run (okAfter : RunsOk after) (grows : Grows runs after) :
    SubscriptionOk after poller number subscription := by
  refine ⟨sound.delivered, sound.reached, fun reported eq => ?_⟩
  obtain ⟨last, complete, closing⟩ := sound.completed reported eq
  exact ⟨last, complete.grows okAfter grows, closing⟩

lemma SubscriptionOk.unregister :
    SubscriptionOk runs poller number subscription.unregister := by
  refine ⟨sound.delivered, sound.reached, fun reported eq => ?_⟩
  obtain ⟨last, complete, -⟩ := sound.completed reported eq
  exact ⟨last, complete, fun impossible => by cases impossible⟩

lemma SubscriptionOk.remove (settled : ∀ number cursor, poller.position number cursor = cursor)
    (running : poller ≠ .stopped) (pending : List Nat) :
    SubscriptionOk runs (.round pending) number subscription.unregister := by
  refine ⟨sound.delivered, fun _ => ?_, fun reported eq => ?_⟩
  · exact (sound.reached running).trans (settled number subscription.cursor)
  obtain ⟨last, complete, -⟩ := sound.completed reported eq
  exact ⟨last, complete, fun impossible => by cases impossible⟩

lemma SubscriptionOk.stop :
    SubscriptionOk runs .stopped number subscription := by
  refine ⟨sound.delivered, fun running => absurd rfl running, fun reported eq => ?_⟩
  obtain ⟨last, complete, -⟩ := sound.completed reported eq
  exact ⟨last, complete, fun _ => trivial⟩

end

variable {batch : Batch} {subscriptions : List RunSubscription} {pending : List Nat}
  {maxSubscriptions : Nat}

lemma BatchOk.run {runId : Uuid} {position : Nat} {events : List Event}
    (sound : BatchOk runs runId batch position events) (grows : Grows runs after) :
    BatchOk after runId batch position events := by
  refine ⟨sound.numbered, fun final => ?_⟩
  obtain ⟨log, mark, found, closed, within⟩ := sound.final final
  obtain ⟨later, located, extends_⟩ := grows runId log found
  exact ⟨later, mark, located, extends_.closed mark closed, within⟩

lemma PollerOk.run (sound : PollerOk runs subscriptions poller) (grows : Grows runs after) :
    PollerOk after subscriptions poller := by
  cases poller with
  | statusRead number status pending =>
    obtain ⟨subscription, stored, fresh, ended⟩ := sound
    refine ⟨subscription, stored, fresh, fun terminal => ?_⟩
    obtain ⟨log, mark, found, closed⟩ := ended terminal
    obtain ⟨later, located, extends_⟩ := grows _ log found
    exact ⟨later, mark, located, extends_.closed mark closed⟩
  | sending batch events pending =>
    obtain ⟨subscription, stored, fresh, batchOk⟩ := sound
    exact ⟨subscription, stored, fresh, batchOk.run grows⟩
  | sent batch sequence events pending =>
    obtain ⟨subscription, stored, fresh, eq, batchOk⟩ := sound
    exact ⟨subscription, stored, fresh, eq, batchOk.run grows⟩
  | _ => trivial

lemma PollerOk.rows {others : List RunSubscription} (sound : PollerOk runs subscriptions poller)
    (kept : ∀ (number : Nat) (subscription : RunSubscription),
      subscriptions[number]? = some subscription →
      others[number]? = some subscription ∨ others[number]? = some subscription.unregister) :
    PollerOk runs others poller := by
  have found : ∀ (number : Nat) (subscription : RunSubscription),
      subscriptions[number]? = some subscription →
      ∃ row : RunSubscription, others[number]? = some row ∧ row.completed = subscription.completed ∧
        row.runId = subscription.runId ∧ row.cursor = subscription.cursor := by
    intro number subscription stored
    rcases kept number subscription stored with eq | eq
    · exact ⟨_, eq, rfl, rfl, rfl⟩
    exact ⟨_, eq, rfl, rfl, rfl⟩
  cases poller with
  | statusRead number status pending =>
    obtain ⟨subscription, stored, fresh, ended⟩ := sound
    obtain ⟨row, located, completed, runId, -⟩ := found number subscription stored
    exact ⟨row, located, completed.trans fresh, runId ▸ ended⟩
  | sending batch events pending =>
    obtain ⟨subscription, stored, fresh, batchOk⟩ := sound
    obtain ⟨row, located, completed, runId, cursor⟩ := found batch.number subscription stored
    exact ⟨row, located, completed.trans fresh, runId ▸ cursor ▸ batchOk⟩
  | sent batch sequence events pending =>
    obtain ⟨subscription, stored, fresh, eq, batchOk⟩ := sound
    obtain ⟨row, located, completed, runId, cursor⟩ := found batch.number subscription stored
    exact ⟨row, located, completed.trans fresh, cursor ▸ eq, runId ▸ batchOk⟩
  | _ => trivial

lemma getElem?_modify_of {Row : Type} {rows : List Row} {number other : Nat} {change : Row → Row}
    {found : Row} (located : (rows.modify number change)[other]? = some found) :
    (other ≠ number ∧ rows[other]? = some found) ∨
      ∃ row, other = number ∧ rows[other]? = some row ∧ found = change row := by
  rw [List.getElem?_modify] at located
  obtain ⟨row, stored, changed⟩ := Option.map_eq_some_iff.1 located
  by_cases eq : number = other
  · rw [if_pos eq] at changed
    exact .inr ⟨row, eq.symm, stored, changed.symm⟩
  rw [if_neg eq] at changed
  exact .inl ⟨Ne.symm eq, stored.trans (congrArg some changed)⟩

lemma ConnectionOk.move (ok : ConnectionOk connection) (quiet : connection.poller.quiet)
    (later : ∀ number cursor, other.position number cursor = cursor)
    (sound : PollerOk connection.runs connection.subscriptions other) :
    ConnectionOk { connection with poller := other } := by
  obtain ⟨running, settled, open_⟩ := quiet.spec
  refine ⟨ok.runs, fun number subscription stored => ?_, sound⟩
  have held := ok.subscriptions number subscription stored
  refine ⟨held.delivered, fun _ => ?_, fun reported eq => ?_⟩
  · rw [held.reached running, settled, later]
  obtain ⟨last, complete, closing⟩ := held.completed reported eq
  exact ⟨last, complete, fun registered => absurd (closing registered) (open_ number)⟩

lemma ConnectionOk.update (ok : ConnectionOk connection) {change : RunSubscription → RunSubscription}
    (about : connection.poller.about = some number)
    (later : other.about = some number ∨ other.about = none)
    (here : ∀ subscription, connection.subscriptions[number]? = some subscription →
      SubscriptionOk connection.runs other number (change subscription))
    (sound : PollerOk connection.runs (connection.subscriptions.modify number change) other) :
    ConnectionOk (connection.update number change other) := by
  have running : connection.poller ≠ .stopped := by
    intro stopped
    rw [stopped] at about
    cases about
  refine ⟨ok.runs, fun found row located => ?_, sound⟩
  rcases getElem?_modify_of located with ⟨apart, stored⟩ | ⟨subscription, eq, stored, changed⟩
  · refine (ok.subscriptions found row stored).apart ?_ ?_ running
    · rw [about]
      exact fun eq => apart (Option.some.inj eq).symm
    change other.about ≠ some found
    rcases later with eq | gone
    · rw [eq]
      exact fun found => apart (Option.some.inj found).symm
    rw [gone]
    exact fun impossible => by cases impossible
  · subst eq
    rw [changed]
    exact here subscription stored

lemma visit_ok (ok : RunsOk connection.runs)
    (open_ : ∀ subscription, connection.subscriptions[number]? = some subscription →
      subscription.registered = true → subscription.completed = none) (pending : List Nat)
    (denied : Bool) :
    PollerOk connection.runs connection.subscriptions (visit connection number pending denied) ∧
      ∀ other cursor, (visit connection number pending denied).position other cursor = cursor := by
  unfold visit
  split
  · exact ⟨trivial, fun _ _ => rfl⟩
  next subscription stored =>
  split
  · exact ⟨trivial, fun _ _ => rfl⟩
  next registered =>
  split
  · exact ⟨trivial, fun _ _ => rfl⟩
  split
  · exact ⟨trivial, fun _ _ => rfl⟩
  next log found =>
  refine ⟨⟨subscription, stored, open_ subscription stored (by simpa using registered), ?_⟩,
    fun _ _ => rfl⟩
  intro terminal
  have marked : log.closedAt.isSome = true := (ok _ log found).ended ▸ terminal
  obtain ⟨mark, closed⟩ := Option.isSome_iff_exists.1 marked
  exact ⟨log, mark, found, closed⟩

lemma readEvents_ok (ok : RunsOk connection.runs) {status : RunStatus}
    (before : PollerOk connection.runs connection.subscriptions (.statusRead number status pending))
    (denied : Bool) : PollerOk connection.runs connection.subscriptions
        (readEvents connection number status pending denied) ∧ ∀ other cursor,
        (readEvents connection number status pending denied).position other cursor = cursor := by
  obtain ⟨subscription, stored, fresh, ended⟩ := before
  unfold readEvents
  rw [stored]
  dsimp only
  split
  · exact ⟨trivial, fun _ _ => rfl⟩
  next log found =>
  have sound := ok _ log found
  split
  · exact ⟨trivial, fun _ _ => rfl⟩
  refine ⟨⟨subscription, stored, fresh, sound.numbered.page, fun final => ?_⟩, fun _ _ => rfl⟩
  obtain ⟨terminal, short⟩ := Bool.and_eq_true _ _ |>.mp final
  obtain ⟨earlier, mark, located, closed⟩ := ended terminal
  obtain rfl := Option.some.inj (found.symm.trans located)
  refine ⟨log, mark, found, closed, (sound.closed mark closed).trans ?_⟩
  exact page_reaches sound.numbered (of_decide_eq_true short)

lemma deliver_ok {event : Event} {rest : List Event} (fresh : subscription.completed = none)
    (batchOk : BatchOk runs subscription.runId batch subscription.cursor (event :: rest))
    (held : SubscriptionOk runs (.sending batch (event :: rest) pending) batch.number subscription) :
    SubscriptionOk runs (.sent batch event.runSequence rest pending) batch.number
        (deliver event.runSequence subscription) ∧ event.runSequence = subscription.cursor + 1 ∧
      BatchOk runs subscription.runId batch event.runSequence rest := by
  obtain ⟨here, others⟩ := consecutive_cons.1 batchOk.numbered
  have reached : subscription.start + subscription.delivered.length = subscription.cursor :=
    held.reached (by simp)
  refine ⟨⟨?_, fun _ => ?_, fun reported eq => ?_⟩, here, ?_, fun final => ?_⟩
  · have last : subscription.start + 1 + subscription.delivered.length = event.runSequence := by omega
    change subscription.delivered ++ [event.runSequence] = _
    rw [deliver, List.length_append, List.length_singleton, List.range'_concat, Nat.one_mul, last,
      ← held.delivered]
  · have position : (Poller.sent batch event.runSequence rest pending).position batch.number
        (deliver event.runSequence subscription).cursor = event.runSequence := if_pos rfl
    rw [position, deliver, List.length_append, List.length_singleton]
    change subscription.start + _ = _
    omega
  · change subscription.completed = some reported at eq
    rw [fresh] at eq
    cases eq
  · rw [here]
    exact others
  · obtain ⟨log, mark, found, closed, within⟩ := batchOk.final final
    rw [List.length_cons] at within
    exact ⟨log, mark, found, closed, by omega⟩

lemma performPoller_ok (ok : ConnectionOk connection) {action : PollerAction}
    (step : performPoller connection action = some next) : ConnectionOk next := by
  have poller := ok.poller
  cases action with
  | wake =>
    simp only [performPoller] at step
    split at step
    · next waiting =>
      cases step
      exact ok.move (by rw [waiting]; trivial) (fun _ _ => rfl) trivial
    · cases step
  | visit denied =>
    simp only [performPoller] at step
    split at step
    · next number pending phase =>
      cases step
      -- A completed subscription has left the dictionary by now.
      have open_ : ∀ subscription, connection.subscriptions[number]? = some subscription →
          subscription.registered = true → subscription.completed = none := by
        intro subscription stored registered
        cases completed : subscription.completed with
        | none => rfl
        | some reported =>
          have closing :=
            ((ok.subscriptions number subscription stored).completed reported completed).2.2
          rw [phase] at closing
          exact absurd (closing registered) id
      obtain ⟨sound, later⟩ := visit_ok ok.runs open_ pending denied
      exact ok.move (by rw [phase]; trivial) later sound
    · cases step
  | readEvents denied =>
    simp only [performPoller] at step
    split at step
    · next number status pending phase =>
      cases step
      rw [phase] at poller
      obtain ⟨sound, later⟩ := readEvents_ok ok.runs poller denied
      exact ok.move (by rw [phase]; trivial) later sound
    · cases step
  | send =>
    simp only [performPoller] at step
    split at step
    · next batch event rest pending phase =>
      split at step
      · cases step
        rw [phase] at poller
        obtain ⟨subscription, stored, fresh, batchOk⟩ := poller
        have held := ok.subscriptions batch.number subscription stored
        rw [phase] at held
        obtain ⟨delivered, here, others⟩ := deliver_ok fresh batchOk held
        refine ok.update (by rw [phase]; rfl) (Or.inl rfl) ?_ ?_
        · intro found located
          obtain rfl := Option.some.inj (stored.symm.trans located)
          exact delivered
        · refine ⟨deliver event.runSequence subscription, ?_, fresh, here, others⟩
          rw [List.getElem?_modify_eq, stored]
          rfl
      · cases step
    · cases step
  | moveCursor =>
    simp only [performPoller] at step
    split at step
    · next batch sequence rest pending phase =>
      cases step
      rw [phase] at poller
      obtain ⟨subscription, stored, fresh, eq, batchOk⟩ := poller
      have held := ok.subscriptions batch.number subscription stored
      rw [phase] at held
      have reached : subscription.start + subscription.delivered.length = sequence := by
        rw [held.reached (by simp)]
        exact if_pos rfl
      refine ok.update (by rw [phase]; rfl) (Or.inl rfl) ?_ ?_
      · intro found located
        obtain rfl := Option.some.inj (stored.symm.trans located)
        refine ⟨held.delivered, fun _ => reached, fun reported completed => ?_⟩
        change subscription.completed = some reported at completed
        rw [fresh] at completed
        cases completed
      · refine ⟨moveTo sequence subscription, ?_, fresh, batchOk⟩
        rw [List.getElem?_modify_eq, stored]
        rfl
    · cases step
  | finish =>
    simp only [performPoller] at step
    split at step
    · next batch events pending phase =>
      have leaves : ConnectionOk { connection with poller := .round pending } := by
        exact ok.move (by rw [phase]; trivial) (fun _ _ => rfl) trivial
      split at step
      · cases step
        exact leaves
      split at step
      · cases step
      next done =>
      split at step
      · next final =>
        cases step
        obtain rfl : events = [] := by simpa using done
        rw [phase] at poller
        obtain ⟨subscription, stored, fresh, batchOk⟩ := poller
        have held := ok.subscriptions batch.number subscription stored
        rw [phase] at held
        have reached : subscription.start + subscription.delivered.length = subscription.cursor :=
          held.reached (by simp)
        obtain ⟨log, mark, found, closed, within⟩ := batchOk.final final
        refine ok.update (by rw [phase]; rfl) (Or.inl rfl) ?_ trivial
        intro row located
        obtain rfl := Option.some.inj (stored.symm.trans located)
        refine ⟨held.delivered, fun _ => reached, ?_⟩
        intro reported eq
        cases eq
        exact ⟨reached.symm, complete_of_closed ok.runs found closed within, fun _ => rfl⟩
      · cases step
        exact leaves
    · cases step
  | remove =>
    simp only [performPoller] at step
    split at step
    · next number pending phase =>
      cases step
      refine ok.update (by rw [phase]; rfl) (Or.inr rfl) (fun subscription stored => ?_) trivial
      have held := ok.subscriptions number subscription stored
      rw [phase] at held
      exact held.remove (fun _ _ => rfl) (by simp) pending
    · next number pending phase =>
      cases step
      refine ok.update (by rw [phase]; rfl) (Or.inr rfl) (fun subscription stored => ?_) trivial
      have held := ok.subscriptions number subscription stored
      rw [phase] at held
      exact held.remove (fun _ _ => rfl) (by simp) pending
    · cases step
  | endRound =>
    simp only [performPoller] at step
    split at step
    · next phase =>
      cases step
      exact ok.move (by rw [phase]; trivial) (fun _ _ => rfl) trivial
    · cases step
  | stop =>
    cases step
    exact ⟨ok.runs, fun number subscription stored => (ok.subscriptions number subscription stored).stop,
      trivial⟩

lemma position_new (sound : PollerOk runs subscriptions poller) (cursor : Nat) :
    poller.position subscriptions.length cursor = cursor := by
  cases poller with
  | sent batch sequence events pending =>
    obtain ⟨subscription, stored, -⟩ := sound
    have inside := (List.getElem?_eq_some_iff.1 stored).1
    exact if_neg (by omega)
  | _ => rfl

lemma ConnectionOk.subscribe (ok : ConnectionOk connection) (runId : Uuid) (afterSequence : Nat) :
    ConnectionOk { connection with
      subscriptions := connection.subscriptions ++ [newSubscription runId afterSequence] } := by
  refine ⟨ok.runs, fun number subscription stored => ?_, ?_⟩
  · rcases Nat.lt_trichotomy number connection.subscriptions.length with earlier | eq | later
    · rw [List.getElem?_append_left earlier] at stored
      exact ok.subscriptions number subscription stored
    · subst eq
      rw [List.getElem?_concat_length] at stored
      cases stored
      refine ⟨rfl, fun _ => ?_, fun _ impossible => by cases impossible⟩
      exact (position_new ok.poller afterSequence).symm
    · rw [List.getElem?_eq_none (by simpa using later)] at stored
      cases stored
  · refine ok.poller.rows fun number subscription stored => Or.inl ?_
    rw [List.getElem?_append_left (List.getElem?_eq_some_iff.1 stored).1]
    exact stored

lemma performReader_ok (ok : ConnectionOk connection) {action : ReaderAction}
    (step : performReader maxSubscriptions connection action = some next) :
    ConnectionOk next := by
  cases action with
  | subscribe runId afterSequence =>
    simp only [performReader] at step
    split at step
    · cases step
      exact ok.subscribe runId afterSequence
    cases step
  | answerUnsubscribe number =>
    simp only [performReader] at step
    split at step
    · cases step
      exact ⟨ok.runs, ok.subscriptions, ok.poller⟩
    cases step
  | removeSubscription =>
    obtain ⟨number, -, rfl⟩ := Option.map_eq_some_iff.1 step
    refine ⟨ok.runs, fun found row located => ?_, ok.poller.rows fun found row stored => ?_⟩
    · rcases getElem?_modify_of located with ⟨-, stored⟩ | ⟨subscription, -, stored, rfl⟩
      · exact ok.subscriptions found row stored
      exact (ok.subscriptions found subscription stored).unregister
    · change (connection.subscriptions.modify number _)[found]? = _
        ∨ (connection.subscriptions.modify number _)[found]? = _
      rw [List.getElem?_modify, stored]
      by_cases eq : number = found
      · exact .inr (by simp [eq])
      exact .inl (by simp [eq])
  | disconnect =>
    cases step
    refine ⟨ok.runs, fun found row located => ?_, trivial⟩
    rw [List.getElem?_map] at located
    obtain ⟨subscription, stored, rfl⟩ := Option.map_eq_some_iff.1 located
    exact (ok.subscriptions found subscription stored).unregister.stop

lemma performConnection_ok (ok : ConnectionOk connection) {action : ConnectionAction}
    (step : performConnection maxSubscriptions connection action = some next) :
    ConnectionOk next := by
  cases action with
  | run action =>
    obtain ⟨committed, performed, rfl⟩ := Option.map_eq_some_iff.1 step
    obtain ⟨okAfter, grows⟩ := runsOk_perform ok.runs performed
    exact ⟨okAfter, fun number subscription stored =>
      (ok.subscriptions number subscription stored).run okAfter grows, ok.poller.run grows⟩
  | reader action => exact performReader_ok ok step
  | poller action => exact performPoller_ok ok step

end Obsion.Streams
