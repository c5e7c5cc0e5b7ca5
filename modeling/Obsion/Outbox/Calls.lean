import Obsion.Outbox.AtMostOnce

/-! # Calls of the Outbox service, one after another

Both theorems rest on `prepareQueue_enqueueable`: a re-preparation that fails leaves
its row where `enqueue_next` takes it up again.  So a row can be queued after its
last attempt, and the oldest row that stays BLOCKED is taken up at every call. -/

namespace Obsion.Outbox

open Obsion.Lib

/-- Every check of `_prepare_queue` passes. -/
def EnqueueArgs.deliverable (args : EnqueueArgs) : Bool :=
  args.answer.isSome && (args.conversationType != "group" || args.groupDelivery.isSome)
    && args.ready && args.capabilityVersionId.isSome

def enqueueNext (settings : Settings) (args : EnqueueArgs) (row : Option DingTalkRobotOutbox) :
    Option DingTalkRobotOutbox :=
  if enqueueable row then some (prepareQueue settings args (row.getD (newOutbox settings args)))
  else row

section
variable {settings : Settings} {args : EnqueueArgs}

lemma prepareQueue_attempts (row : DingTalkRobotOutbox) :
    (prepareQueue settings args row).attemptCount = row.attemptCount := by
  unfold prepareQueue queueIfReady
  repeat' split
  all_goals rfl

lemma prepareQueue_enqueueable (row : DingTalkRobotOutbox) :
    enqueueable (some (prepareQueue settings args row)) = !args.deliverable := by
  have ready : ∀ group text classification,
      enqueueable (some (queueIfReady settings args group text classification row))
        = !(args.ready && args.capabilityVersionId.isSome) := by
    intro group text classification
    unfold queueIfReady
    split
    · next passed =>
      rw [passed]
      rfl
    next failed =>
    rw [Bool.not_eq_true] at failed
    rw [failed]
    rfl
  unfold prepareQueue EnqueueArgs.deliverable
  cases args.answer with
  | none => rfl
  | some answer =>
    by_cases group : args.conversationType = "group"
    · cases args.groupDelivery with
      | none =>
        simp only [group, if_true]
        rfl
      | some delivery => simp [group, ready]
    · have other : (args.conversationType != "group") = true := bne_iff_ne.2 group
      simp [group, other, ready]

end

/-! ## The attempts of one row -/

structure Delivery where
  row : Option DingTalkRobotOutbox
  /-- Ghost: the claims that were made, newest first. -/
  claims : List OutboxClaim

inductive Call
  | enqueueNext (args : EnqueueArgs)
  | claimNext (now : Time)
  | dispatch (claim : OutboxClaim) (args : DispatchArgs)
  | expireClaims (now : Time)

/-- The row after the transaction of a dispatch; an exception rolls it back. -/
def dispatched (settings : Settings) (claim : OutboxClaim) (args : DispatchArgs)
    (row : DingTalkRobotOutbox) : DingTalkRobotOutbox :=
  match (dispatch settings args claim row).outcome with
  | .ok next => next
  | .error _ => row

def call (settings : Settings) (delivery : Delivery) : Call → Delivery
  | .enqueueNext args => { delivery with row := enqueueNext settings args delivery.row }
  | .claimNext now =>
    match delivery.row with
    | none => delivery
    | some row =>
      if claimable now row then
        let claimed := claimNext settings now row
        ⟨some claimed.1, claimed.2 :: delivery.claims⟩
      else delivery
  | .dispatch claim args =>
    { delivery with row := delivery.row.map (dispatched settings claim args) }
  | .expireClaims now => { delivery with row := delivery.row.map (expireClaims now) }

def calls (settings : Settings) : System Delivery Call :=
  System.ofPartial (· = ⟨none, []⟩) fun delivery next => some (call settings delivery next)

/-- A row that is taken up when its message can be delivered has an attempt left. -/
def AttemptLeft (settings : Settings) (move : Move Delivery Call) : Prop :=
  match move.action with
  | .enqueueNext args => args.deliverable = true → ∀ row, move.before.row = some row →
      enqueueable (some row) = true → row.attemptCount < settings.maxAttempts
  | _ => True

structure Bounded (settings : Settings) (row : DingTalkRobotOutbox) : Prop where
  attempts : row.attemptCount ≤ settings.maxAttempts
  queued : row.status = .queued → row.attemptCount < settings.maxAttempts

def InBounds (settings : Settings) (delivery : Delivery) : Prop :=
  ∀ row, delivery.row = some row → Bounded settings row

/-- Every claim but the newest carries a token below the one of the row. -/
structure Fenced (delivery : Delivery) : Prop where
  held : ∀ claim ∈ delivery.claims, ∃ row, delivery.row = some row ∧
    claim.fencingToken ≤ row.fencingToken
  raised : (delivery.claims.map OutboxClaim.fencingToken).Pairwise (· > ·)

section
variable {settings : Settings} {delivery : Delivery} {row : DingTalkRobotOutbox}

lemma Bounded.closed (bounded : Bounded settings row) {next : DingTalkRobotOutbox}
    (attempts : next.attemptCount = row.attemptCount) (status : next.status ≠ .queued) :
    Bounded settings next :=
  ⟨attempts ▸ bounded.attempts, fun queued => absurd queued status⟩

lemma recordSend_bounded (bounded : Bounded settings row) (now : Time)
    (result : DingTalkRobotOutboxResult) : Bounded settings (recordSend settings now result row) := by
  unfold recordSend
  simp only
  split
  · exact bounded.closed rfl (by nofun)
  · exact bounded.closed rfl (by nofun)
  · exact bounded.closed rfl (by nofun)
  split
  · exact bounded.closed rfl (by nofun)
  next left =>
  exact ⟨bounded.attempts, fun _ => Nat.lt_of_not_le left⟩

lemma dispatched_bounded (bounded : Bounded settings row) (claim : OutboxClaim)
    (args : DispatchArgs) : Bounded settings (dispatched settings claim args row) := by
  unfold dispatched
  split
  · next next committed =>
    unfold dispatch at committed
    split at committed
    · cases committed
      exact bounded
    split at committed
    · split at committed
      · cases committed
      cases committed
      exact bounded.closed rfl (by nofun)
    · cases committed
    split at committed
    · cases committed
    · cases committed
      exact bounded.closed rfl (by nofun)
    obtain ⟨result, -, rfl⟩ := of_map_ok committed
    exact recordSend_bounded bounded args.now result
  · exact bounded

lemma expireClaims_bounded (bounded : Bounded settings row) (now : Time) :
    Bounded settings (expireClaims now row) := by
  unfold expireClaims
  split
  · exact bounded.closed rfl (by nofun)
  exact bounded

lemma enqueueNext_bounded (positive : 1 ≤ settings.maxAttempts) {args : EnqueueArgs}
    (bounded : InBounds settings delivery) (left : args.deliverable = true →
      ∀ row, delivery.row = some row → enqueueable (some row) = true →
        row.attemptCount < settings.maxAttempts)
    (written : enqueueNext settings args delivery.row = some row) : Bounded settings row := by
  unfold enqueueNext at written
  generalize stored : delivery.row = seen at written left
  split at written
  · next eligible =>
    cases written
    have start : (seen.getD (newOutbox settings args)).attemptCount ≤ settings.maxAttempts ∧
        (args.deliverable = true →
          (seen.getD (newOutbox settings args)).attemptCount < settings.maxAttempts) := by
      cases seen with
      | none => exact ⟨Nat.zero_le _, fun _ => positive⟩
      | some row =>
        exact ⟨(bounded row stored).attempts, fun delivers => left delivers row rfl eligible⟩
    refine ⟨by rw [prepareQueue_attempts]; exact start.1, fun queued => ?_⟩
    rw [prepareQueue_attempts]
    apply start.2
    have taken := @prepareQueue_enqueueable settings args (seen.getD (newOutbox settings args))
    rw [enqueueable, queued, show (DingTalkOutboxStatus.queued == .blocked) = false from rfl] at taken
    simpa using taken.symm
  · exact bounded row (stored.trans written)

lemma call_bounded (positive : 1 ≤ settings.maxAttempts) (bounded : InBounds settings delivery)
    {next : Call} (left : AttemptLeft settings ⟨delivery, next, call settings delivery next⟩) :
    InBounds settings (call settings delivery next) := by
  intro row stored
  cases next with
  | enqueueNext args => exact enqueueNext_bounded positive bounded left stored
  | claimNext now =>
    simp only [call] at stored
    split at stored
    · exact bounded row stored
    next before found =>
    split at stored
    · next selected =>
      cases stored
      have room := (bounded before found).queued (claimable_queued selected)
      exact ⟨room, by nofun⟩
    · exact bounded row stored
  | dispatch claim args =>
    obtain ⟨before, found, rfl⟩ := Option.map_eq_some_iff.1 stored
    exact dispatched_bounded (bounded before found) claim args
  | expireClaims now =>
    obtain ⟨before, found, rfl⟩ := Option.map_eq_some_iff.1 stored
    exact expireClaims_bounded (bounded before found) now

lemma Fenced.update (fenced : Fenced delivery) {next : Option DingTalkRobotOutbox}
    (token : ∀ row, delivery.row = some row →
      ∃ found, next = some found ∧ found.fencingToken = row.fencingToken) :
    Fenced { delivery with row := next } := by
  refine ⟨fun claim made => ?_, fenced.raised⟩
  obtain ⟨row, stored, bound⟩ := fenced.held claim made
  obtain ⟨found, written, eq⟩ := token row stored
  exact ⟨found, written, eq ▸ bound⟩

lemma call_fenced (fenced : Fenced delivery) (next : Call) :
    Fenced (call settings delivery next) := by
  cases next with
  | enqueueNext args =>
    refine fenced.update fun row stored => ?_
    rw [stored]
    unfold enqueueNext
    split
    · exact ⟨_, rfl, (prepareQueue_spec args row).1⟩
    · exact ⟨row, rfl, rfl⟩
  | claimNext now =>
    simp only [call]
    split
    · exact fenced
    next row stored =>
    split
    · have below : ∀ claim ∈ delivery.claims, claim.fencingToken ≤ row.fencingToken := by
        intro claim made
        obtain ⟨found, eq, bound⟩ := fenced.held claim made
        rw [stored] at eq
        cases eq
        exact bound
      refine ⟨fun claim made => ⟨_, rfl, ?_⟩, List.pairwise_cons.2 ⟨?_, fenced.raised⟩⟩
      · rcases List.mem_cons.1 made with rfl | older
        · exact le_refl _
        · exact Nat.le_succ_of_le (below claim older)
      · intro token mem
        obtain ⟨claim, older, rfl⟩ := List.mem_map.1 mem
        exact Nat.lt_succ_of_le (below claim older)
    · exact fenced
  | dispatch claim args =>
    refine fenced.update fun row stored => ⟨_, by rw [stored]; rfl, ?_⟩
    unfold dispatched
    split
    · next committed => exact dispatch_token committed
    · rfl
  | expireClaims now =>
    exact fenced.update fun row stored => ⟨_, by rw [stored]; rfl, (expireClaims_kept now).token⟩

lemma Fenced.stale (fenced : Fenced delivery) {claim : OutboxClaim}
    (older : claim ∈ delivery.claims.tail) (stored : delivery.row = some row)
    (args : DispatchArgs) : dispatch settings args claim row = ⟨false, .ok row⟩ := by
  cases made : delivery.claims with
  | nil =>
    rw [made] at older
    cases older
  | cons newest rest =>
    rw [made] at older
    obtain ⟨found, eq, bound⟩ := fenced.held newest (made ▸ List.mem_cons_self)
    rw [stored] at eq
    cases eq
    have raised := fenced.raised
    rw [made, List.map_cons, List.pairwise_cons] at raised
    have below := raised.1 claim.fencingToken (List.mem_map_of_mem older)
    exact dispatch_stale (Or.inr (by omega))

end

/-- The tokens rise with every claim and an older claim changes nothing in every run;
the attempts stay bounded in the runs that never queue a row after its last one. -/
theorem calls_bounded (settings : Settings) (positive : 1 ≤ settings.maxAttempts) :
    (∀ delivery, Reachable (calls settings) delivery →
      (delivery.claims.map OutboxClaim.fencingToken).Pairwise (· > ·) ∧
        ∀ claim ∈ delivery.claims.tail, ∀ args row, delivery.row = some row →
          dispatch settings args claim row = ⟨false, .ok row⟩) ∧
      ∀ delivery, ReachableWhere (calls settings) (AttemptLeft settings) delivery →
        ∀ row, delivery.row = some row → row.attemptCount ≤ settings.maxAttempts := by
  constructor
  · intro delivery reached
    have fenced : Fenced delivery := by
      refine reached.holds ?_ ?_
      · rintro start rfl
        exact ⟨nofun, List.Pairwise.nil⟩
      · intro before next after holds step
        cases step
        exact call_fenced holds next
    exact ⟨fenced.raised, fun claim older args row stored => fenced.stale older stored args⟩
  · intro delivery reached row stored
    have bounded : InBounds settings delivery := by
      refine reached.holds ?_ ?_
      · intro start initial row stored
        rw [show start = ⟨none, []⟩ from initial] at stored
        cases stored
      · intro before next after holds step left
        rw [← Option.some.inj step]
        rw [← Option.some.inj step] at left
        exact call_bounded positive holds left
    exact (bounded row stored).attempts

theorem calls_bounded_sample : 1 ≤ sampleSettings.maxAttempts ∧
    ∀ delivery, ReachableWhere (calls sampleSettings) (AttemptLeft sampleSettings) delivery →
      ∀ row, delivery.row = some row → row.attemptCount ≤ sampleSettings.maxAttempts :=
  ⟨by decide, (calls_bounded sampleSettings (by decide)).2⟩

/-- With one attempt allowed: it is claimed, then its preconditions change; it is
queued again and claimed a second time. -/
theorem calls_unbounded :
    ¬ ∀ delivery, Reachable (calls { sampleSettings with maxAttempts := 1 }) delivery →
      ∀ row, delivery.row = some row → row.attemptCount ≤ 1 := by
  intro bounded
  obtain ⟨moves, delivery, row, run, stored, attempts⟩ : ∃ moves delivery row,
      replay (fun delivery next => some (call { sampleSettings with maxAttempts := 1 } delivery next))
        ⟨none, []⟩
        [.enqueueNext (sampleEnqueue true 0), .claimNext 0,
          .dispatch ⟨sampleId 1, 1⟩ { sampleDispatch 0 with inputs := .ok none },
          .enqueueNext (sampleEnqueue true 1), .claimNext 1] = some (moves, delivery) ∧
        delivery.row = some row ∧ row.attemptCount = 2 :=
    ⟨_, _, _, rfl, rfl, rfl⟩
  have bound := bounded delivery ⟨_, moves, rfl, Path.of_replay run⟩ row stored
  omega

/-! ## Many messages -/

/-- An Inbox message joined with its completed Run. -/
structure Message where
  completedAt : Time
  createdAt : Time
  args : EnqueueArgs

def Message.order (message : Message) : Time ×ₗ Time :=
  toLex (message.completedAt, message.createdAt)

section
variable {Key : Type} (settings : Settings) (messages : Key → Message)

/-- The first row of `ORDER BY` with `LIMIT 1`; which of two equal rows is open. -/
def Selected (rows : Key → Option DingTalkRobotOutbox) (chosen : Key) : Prop :=
  enqueueable (rows chosen) = true ∧ ∀ other, enqueueable (rows other) = true →
    (messages chosen).order ≤ (messages other).order

variable [DecidableEq Key]

/-- Calls of `enqueue_next` with no other change; only the new id and the clock vary. -/
def enqueuing : System (Key → Option DingTalkRobotOutbox) Unit where
  init _ := True
  step rows _ after :=
    after = rows ∧ (∀ message, enqueueable (rows message) = false) ∨
      ∃ chosen newId now, Selected messages rows chosen ∧
        after = Function.update rows chosen (enqueueNext settings
          { (messages chosen).args with newId := newId, now := now } (rows chosen))

variable [Fintype Key]

def pending (rows : Key → Option DingTalkRobotOutbox) : Finset Key :=
  Finset.univ.filter fun message => enqueueable (rows message) = true

/-- After as many calls as there were pending messages, each has a row. -/
def Materialised (rows : Key → Option DingTalkRobotOutbox) : Prop :=
  ∀ moves after, Path (enqueuing settings messages) rows moves after →
    moves.length = (pending rows).card → ∀ message, rows message = none → after message ≠ none

variable {settings messages} {rows after : Key → Option DingTalkRobotOutbox} {waiting failing : Key}

omit [Fintype Key] [DecidableEq Key] in
lemma enqueueNext_enqueueable {args : EnqueueArgs} {row : Option DingTalkRobotOutbox}
    (eligible : enqueueable row = true) :
    enqueueable (enqueueNext settings args row) = !args.deliverable := by
  unfold enqueueNext
  rw [if_pos eligible]
  exact prepareQueue_enqueueable _

/-- No other message that fails again comes before this one, or equals it. -/
def Ahead (messages : Key → Message) (rows : Key → Option DingTalkRobotOutbox) (waiting : Key) :
    Prop :=
  ∀ failing, failing ≠ waiting → enqueueable (rows failing) = true →
    (messages failing).args.deliverable = false → (messages waiting).order < (messages failing).order

/-- A call that leaves a message ahead of the failing ones waiting settles another. -/
lemma enqueuing_settles (waits : rows waiting = none) (ahead : Ahead messages rows waiting)
    (call : (enqueuing settings messages).step rows () after) (still : after waiting = none) :
    Ahead messages after waiting ∧ (pending after).card < (pending rows).card := by
  rcases call with ⟨-, idle⟩ | ⟨chosen, newId, now, ⟨eligible, first⟩, rfl⟩
  · have eligible := idle waiting
    rw [waits] at eligible
    cases eligible
  have other : chosen ≠ waiting := by
    rintro rfl
    rw [Function.update_self] at still
    unfold enqueueNext at still
    rw [if_pos eligible] at still
    cases still
  have delivers : (messages chosen).args.deliverable = true := by
    by_contra fails
    have before := ahead chosen other eligible (Bool.not_eq_true _ ▸ fails)
    exact absurd (first waiting (by rw [waits]; rfl)) (not_le_of_gt before)
  have settled : enqueueable (enqueueNext settings
      { (messages chosen).args with newId := newId, now := now } (rows chosen)) = false := by
    rw [enqueueNext_enqueueable eligible]
    exact congrArg not delivers
  have subset : ∀ message, enqueueable (Function.update rows chosen (enqueueNext settings
      { (messages chosen).args with newId := newId, now := now } (rows chosen)) message) = true →
        message ≠ chosen ∧ enqueueable (rows message) = true := by
    intro message selected
    by_cases eq : message = chosen
    · rw [eq, Function.update_self, settled] at selected
      cases selected
    · rw [Function.update_of_ne eq] at selected
      exact ⟨eq, selected⟩
  refine ⟨fun failing distinct selected => ahead failing distinct (subset failing selected).2,
    Finset.card_lt_card (Finset.ssubset_iff_of_subset ?_ |>.2 ⟨chosen, ?_, ?_⟩)⟩
  · intro message mem
    simp only [pending, Finset.mem_filter, Finset.mem_univ, true_and] at mem ⊢
    exact (subset message mem).2
  · simpa [pending] using eligible
  · intro mem
    simp only [pending, Finset.mem_filter, Finset.mem_univ, true_and] at mem
    exact (subset chosen mem).1 rfl

omit [Fintype Key] in
lemma enqueuing_kept (call : (enqueuing settings messages).step rows () after)
    (written : rows waiting ≠ none) : after waiting ≠ none := by
  rcases call with ⟨rfl, -⟩ | ⟨chosen, newId, now, ⟨eligible, -⟩, rfl⟩
  · exact written
  by_cases eq : waiting = chosen
  · rw [eq, Function.update_self]
    unfold enqueueNext
    rw [if_pos eligible]
    nofun
  · rwa [Function.update_of_ne eq]

lemma calls_settle {moves : List (Move (Key → Option DingTalkRobotOutbox) Unit)}
    (path : Path (enqueuing settings messages) rows moves after)
    (ahead : rows waiting = none → Ahead messages rows waiting) (still : after waiting = none) :
    rows waiting = none ∧ (pending after).card + moves.length ≤ (pending rows).card := by
  induction path with
  | nil rows => exact ⟨still, le_refl _⟩
  | @cons before next last moves action step rest ih =>
    have waits : before waiting = none := by
      by_contra written
      have kept : next waiting ≠ none := enqueuing_kept step written
      exact kept (ih (fun waits => absurd waits kept) still).1
    have later : next waiting = none → Ahead messages next waiting ∧
        (pending next).card < (pending before).card :=
      enqueuing_settles waits (ahead waits) step
    obtain ⟨waits', bound⟩ := ih (fun waits => (later waits).1) still
    have fewer := (later waits').2
    exact ⟨waits, by simp only [List.length_cons]; omega⟩

/-- A message that fails again and comes first can be taken up for ever. -/
lemma calls_starve (waits : rows waiting = none) (other : failing ≠ waiting)
    (eligible : enqueueable (rows failing) = true)
    (fails : (messages failing).args.deliverable = false)
    (first : (messages failing).order ≤ (messages waiting).order) (count : Nat) :
    ∃ moves after, Path (enqueuing settings messages) rows moves after ∧ moves.length = count ∧
      after waiting = none := by
  induction count generalizing rows with
  | zero => exact ⟨[], rows, Path.nil rows, rfl, waits⟩
  | succ count ih =>
    obtain ⟨chosen, mem, least⟩ := ((pending rows).erase waiting).exists_min_image
      (fun message => (messages message).order) ⟨failing, by simpa [pending, other] using eligible⟩
    simp only [pending, Finset.mem_erase, Finset.mem_filter, Finset.mem_univ, true_and] at mem least
    have selected : Selected messages rows chosen := by
      refine ⟨mem.2, fun message pends => ?_⟩
      by_cases eq : message = waiting
      · exact eq ▸ (least failing ⟨other, eligible⟩).trans first
      · exact least message ⟨eq, pends⟩
    have blocked : enqueueable (Function.update rows chosen
        (enqueueNext settings (messages chosen).args (rows chosen)) failing) = true := by
      by_cases eq : failing = chosen
      · rw [← eq, Function.update_self, enqueueNext_enqueueable eligible, fails]
        rfl
      · rwa [Function.update_of_ne eq]
    obtain ⟨moves, after, path, length, still⟩ :=
      ih (by rw [Function.update_of_ne (Ne.symm mem.1)]; exact waits) blocked
    exact ⟨_, after, Path.cons () (Or.inr ⟨chosen, _, _, selected, rfl⟩) path,
      congrArg (· + 1) length, still⟩

end

end Obsion.Outbox
