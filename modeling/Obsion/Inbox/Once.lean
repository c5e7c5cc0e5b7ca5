import Obsion.Inbox.Admission

/-! # Duplicate deliveries and repeated processing

What every run of the inbox guarantees, with any workers, duplicates, retries and
rollbacks at any statement. -/

namespace Obsion.Inbox

open Obsion.Lib
open Obsion.Lib.Script (returns_bind returns_pure)

variable {settings : Settings}

lemma ConversationType.value_injective : Function.Injective ConversationType.value := by
  intro left right eq
  cases left <;> cases right
  · rfl
  · simp [ConversationType.value] at eq
  · simp [ConversationType.value] at eq
  · rfl

lemma canonical_injective : Function.Injective TrustedImInbound.canonical := by
  intro left right eq
  unfold TrustedImInbound.canonical at eq
  have fields := dumpsStrings_injective (by rfl) eq
  simp only [List.cons.injEq, Prod.mk.injEq, true_and, and_true] at fields
  obtain ⟨conversation, kind, sender, text, event⟩ := fields
  cases left
  cases right
  simp only [TrustedImInbound.mk.injEq]
  exact ⟨event, sender, conversation, ConversationType.value_injective kind, text⟩

def Collides (settings : Settings) (left right : String) : Prop :=
  left ≠ right ∧ settings.sha256 left = settings.sha256 right

lemma fingerprint_apart {left right : TrustedImInbound} (apart : left ≠ right)
    (free : ¬ Collides settings left.canonical right.canonical) :
    fingerprint settings left ≠ fingerprint settings right := by
  intro eq
  exact free ⟨fun equal => apart (canonical_injective equal), eq⟩

/-- An event of the inbox has at most one turn and one run. -/
structure OneTask (scope : Scope) : Prop where
  turns : ∀ left ∈ scope.turns, ∀ right ∈ scope.turns,
    left.contextRef.inboxId = right.contextRef.inboxId → left = right
  runs : ∀ left ∈ scope.runs, ∀ right ∈ scope.runs, left.turnId = right.turnId → left = right
  belongs : ∀ run ∈ scope.runs, ∃ turn ∈ scope.turns, run.turnId = turn.id

structure Exact (settings : Settings) (move : Move World (SessionAction Call)) : Prop where
  /-- A delivery of a stored event changes nothing; other contents are rejected. -/
  repeated : ∀ number call data answer args stored original, move.action = .commit number →
    move.before.session number = some ⟨call, data, .returns (some answer)⟩ →
    call.request = .receive args → stored ∈ (move.before.committed call.installationId).inbox →
    stored.vendorEventId = args.message.vendorEventId → Records settings original stored →
    move.after.committed = move.before.committed ∧
      (args.message = original → receiveMessage answer = .ok stored) ∧
      (args.message ≠ original → ¬ Collides settings original.canonical args.message.canonical →
        receiveMessage answer = .error
          (conflictError "idempotency_key_reused" "Vendor event content does not match"))
  /-- Nothing that a message was admitted with ever changes. -/
  kept : ∀ installationId, ∀ row ∈ (move.before.committed installationId).inbox,
    ∃ later ∈ (move.after.committed installationId).inbox, later.admission = row.admission
  /-- A message is admitted from a delivery, for the active binding of its sender. -/
  admitted : ∀ installationId, ∀ row ∈ (move.after.committed installationId).inbox,
    (∀ older ∈ (move.before.committed installationId).inbox, older.id ≠ row.id) →
    ∃ number call data answer args, move.action = .commit number ∧
      move.before.session number = some ⟨call, data, .returns answer⟩ ∧
      call.request = .receive args ∧ Records settings args.message row ∧
      ∃ binding ∈ (move.before.committed installationId).bindings, Bound binding row
  /-- A turn is created for the binding and the subject that its message records. -/
  acts : ∀ installationId, ∀ turn ∈ (move.after.committed installationId).turns,
    turn ∉ (move.before.committed installationId).turns →
    ∃ stored ∈ (move.before.committed installationId).inbox,
      ∃ binding ∈ (move.before.committed installationId).bindings,
        turn.contextRef.inboxId = stored.id ∧ Bound binding stored ∧
          turn.createdBy = stored.subjectUserId

variable {scope after : Scope} {request : Request}

lemma Change.kept_admission (change : Change settings request scope after) {row : ImInboxMessage}
    (mem : row ∈ scope.inbox) : ∃ later ∈ after.inbox, later.admission = row.admission := by
  cases change with
  | kept inbox turns runs => exact ⟨row, inbox ▸ mem, rfl⟩
  | admitted args added binding _ known bound records received fresh inbox turns runs =>
    exact ⟨row, (mem_of_rows inbox).2 (Or.inl mem), rfl⟩
  | processed stored binding turn run now storedIn pending known bound creator origin task freshTurn
      freshRun inbox turns runs =>
      by_cases eq : row.id = stored.id
      · obtain rfl := Table.eq_of_key mem storedIn eq
        exact ⟨_, (inbox _).2 (Or.inl rfl), rfl⟩
      exact ⟨row, (inbox row).2 (Or.inr ⟨mem, eq⟩), rfl⟩

lemma Change.new_row (change : Change settings request scope after) {row : ImInboxMessage}
    (mem : row ∈ after.inbox) (new : ∀ older ∈ scope.inbox, older.id ≠ row.id) :
    ∃ args, request = .receive args ∧ Records settings args.message row ∧
      ∃ binding ∈ scope.bindings, Bound binding row := by
  cases change with
  | kept inbox turns runs => exact absurd rfl (new row (inbox ▸ mem))
  | admitted args added binding byReceive known bound records received fresh inbox turns runs =>
    rcases (mem_of_rows inbox).1 mem with older | rfl
    · exact absurd rfl (new row older)
    exact ⟨args, byReceive, records, binding, known, bound⟩
  | processed stored binding turn run now storedIn pending known bound creator origin task freshTurn
      freshRun inbox turns runs =>
      rcases (inbox row).1 mem with rfl | ⟨older, -⟩
      · exact absurd rfl (new stored storedIn)
      exact absurd rfl (new row older)

lemma Change.new_turn (change : Change settings request scope after) {turn : Turn}
    (mem : turn ∈ after.turns) (new : turn ∉ scope.turns) :
    ∃ stored ∈ scope.inbox, ∃ binding ∈ scope.bindings, turn.contextRef.inboxId = stored.id ∧
      Bound binding stored ∧ turn.createdBy = stored.subjectUserId := by
  cases change with
  | kept inbox turns runs => exact absurd (turns ▸ mem) new
  | admitted args added binding byReceive known bound records received fresh inbox turns runs =>
    exact absurd (turns ▸ mem) new
  | processed stored binding created run now storedIn pending known bound creator origin task freshTurn
      freshRun inbox turns runs =>
      rcases (mem_of_rows turns).1 mem with older | rfl
      · exact absurd older new
      exact ⟨stored, storedIn, binding, known, origin, bound, creator⟩

lemma repeated_delivery (sound : Sound settings scope) {args : ReceiveArgs} {answer : Answer}
    {stored : ImInboxMessage} {original : TrustedImInbound}
    (run : (script settings (.receive args)).Returns scope (some answer) after)
    (mem : stored ∈ scope.inbox) (event : stored.vendorEventId = args.message.vendorEventId)
    (records : Records settings original stored) :
    after = scope ∧ (args.message = original → receiveMessage answer = .ok stored) ∧
      (args.message ≠ original → ¬ Collides settings original.canonical args.message.canonical →
        receiveMessage answer = .error
          (conflictError "idempotency_key_reused" "Vendor event content does not match")) := by
  obtain ⟨found, _, first, last⟩ := returns_bind.1 run
  obtain ⟨eq, rfl⟩ := returns_pure.1 last
  cases eq
  rcases receive_returns first with ⟨other, otherIn, otherEvent, answered, kept⟩ | ⟨absent, -⟩
  · obtain rfl := sound.events other otherIn stored mem (otherEvent.trans event.symm)
    refine ⟨kept, ?_, ?_⟩
    · rintro rfl
      have accepted : decide (other.fingerprint ≠ fingerprint settings args.message) = false :=
        decide_eq_false (not_not.2 records.fingerprint)
      rw [answered, accepted]
      rfl
    · intro apart free
      have refused : decide (other.fingerprint ≠ fingerprint settings args.message) = true := by
        rw [records.fingerprint]
        exact decide_eq_true (fingerprint_apart (Ne.symm apart) free)
      rw [answered, refused]
      rfl
  · exact absurd event (absent stored mem)

lemma exact_of_serial {before after : World} {action : SessionAction Call}
    (sound : ∀ installationId, Sound settings (before.committed installationId))
    (serial : (inboxService settings).Serial before action after) :
    Exact settings ⟨before, action, after⟩ := by
  cases serial with
  | idle quiet eq =>
    constructor
    · intro number call data answer args stored original commits
      exact absurd commits (quiet number)
    · intro installationId row mem
      exact ⟨row, eq ▸ mem, rfl⟩
    · intro installationId row mem new
      rw [eq] at mem
      exact absurd rfl (new row mem)
    · intro installationId turn mem new
      rw [eq] at mem
      exact absurd mem new
  | committed number call value data commits held runs eq =>
    have change := script_returns runs
    -- Only the data of the locked installation are written.
    have elsewhere : ∀ installationId, installationId ≠ call.installationId →
        after.committed installationId = before.committed installationId := by
      intro installationId apart
      rw [eq]
      exact Function.update_of_ne apart data before.committed
    have here : after.committed call.installationId = data := by
      rw [eq]
      exact Function.update_self _ data before.committed
    constructor
    · intro other otherCall otherData answer args stored original otherCommits otherHeld receives
        mem event records
      obtain rfl := SessionAction.commit.inj (commits.symm.trans otherCommits)
      rw [held] at otherHeld
      cases otherHeld
      change (script settings call.request).Returns _ _ _ at runs
      rw [receives] at runs
      obtain ⟨unchanged, accepts, rejects⟩ :=
        repeated_delivery (sound call.installationId) runs mem event records
      refine ⟨?_, accepts, rejects⟩
      rw [eq, unchanged]
      exact Function.update_eq_self _ before.committed
    · intro installationId row mem
      by_cases locked : installationId = call.installationId
      · subst locked
        rw [here]
        exact change.kept_admission mem
      · exact ⟨row, by rw [elsewhere _ locked]; exact mem, rfl⟩
    · intro installationId row mem new
      by_cases locked : installationId = call.installationId
      · subst locked
        rw [here] at mem
        obtain ⟨args, receives, records, bound⟩ := change.new_row mem new
        exact ⟨number, call, data, value, args, commits, held, receives, records, bound⟩
      · rw [elsewhere _ locked] at mem
        exact absurd rfl (new row mem)
    · intro installationId turn mem new
      by_cases locked : installationId = call.installationId
      · subst locked
        rw [here] at mem
        exact change.new_turn mem new
      · rw [elsewhere _ locked] at mem
        exact absurd mem new

lemma path_sound {start last : World} {moves : List (Move World (SessionAction Call))}
    (path : Path (inbox settings) start moves last) (initial : (inbox settings).init start)
    (installationId : Uuid) : Sound settings (last.committed installationId) := by
  let Holds : Uuid → Scope → Prop := fun _ scope => Sound settings scope
  have held : Holds installationId (last.committed installationId) := by
    refine Service.holds_of_path ?_ ?_ path initial installationId
    · intro committed blank installationId
      exact sound_blank (blank installationId)
    intro call data value next sound runs
    exact sound.change (script_returns runs)
  exact held

/-- Exactly-once admission, in every interleaving of deliveries and processing. -/
theorem inbox_exactly_once (settings : Settings) {start last : World}
    {moves : List (Move World (SessionAction Call))}
    (path : Path (inbox settings) start moves last) (initial : (inbox settings).init start) :
    (∀ installationId, OneTask (last.committed installationId)) ∧
    (∀ installationId, ∀ row ∈ (last.committed installationId).inbox, row.status = .processed →
      ∃ turn run, Task (last.committed installationId) row turn run) ∧
    ∀ move ∈ moves, Exact settings move := by
  refine ⟨?_, ?_, ?_⟩
  · intro installationId
    have sound := path_sound path initial installationId
    refine ⟨fun left leftIn right rightIn => sound.turn_once leftIn rightIn,
      fun left leftIn right rightIn => sound.run_once leftIn rightIn, ?_⟩
    intro run member
    obtain ⟨row, -, turn, -, task⟩ := sound.runs run member
    exact ⟨turn, task.turnIn, task.task⟩
  · intro installationId row member processed
    exact (path_sound path initial installationId).processed row member processed
  · intro move member
    have serial := Service.serial_of_path path initial move member
    obtain ⟨earlier, later, rfl⟩ := List.append_of_mem member
    obtain ⟨first, -, -⟩ := path.split_move
    exact exact_of_serial (path_sound first initial) serial

def sampleId (digit : Fin 16) : Uuid := .repeating digit

def sampleSettings : Settings where
  sha256 text :=
    if text.length = 120 then "aa08344dab504dbe1ef173295f9c84c0a2001144a1598ff2dbd5971de8fe7c31"
    else if text.length = 126 then
      "218596553faa9c45cbc9a98f09af5c99f97e765bde4ebb5e55936de78e1da3bd"
    else "da82b1bac854312e2acbc8d4826cb32dbe3c610e3e722186d3cf8b05d2d2aa0e"
  redactText text := text

def sampleActor : Principal := ⟨sampleId 1, sampleId 2, ["*"]⟩

def sampleMessage (text : String) : TrustedImInbound :=
  ⟨"event-1", "sender-1", "room-1", .direct, text⟩

def sampleStart : World where
  committed _ :=
    { installation := some ⟨sampleId 0, sampleId 2, some (sampleId 1), some .active⟩
      bindings := .empty, inbox := .empty, conversations := .empty, turns := .empty
      runs := .empty }
  sessions := []

def sampleBind : BindArgs :=
  ⟨sampleActor, "sender-1", sampleId 3, .ok (), fun _ => .ok [], sampleId 4⟩

def sampleReceive (text : String) (newId : Uuid) : ReceiveArgs :=
  ⟨sampleActor, sampleMessage text, ⟨.ok (), true⟩, fun _ => .ok [], newId⟩

def sampleProcess (turnId runId : Uuid) : ProcessArgs :=
  { actor := sampleActor, inboxId := sampleId 5, checks := ⟨.ok (), true⟩
    directory := fun _ => .ok []
    authorizeSubject := .ok ()
    conversation :=
      { audience := .error (delegateDenied "This group has no active audience authorization")
        workspace := fun _ => none
        threadActive := fun _ => none
        createWorkspace := .ok (sampleId 6), createThread := fun _ => .ok (sampleId 7) }
    turnChecks := .ok (), turnId := turnId, runId := runId, now := 0 }

def whole (number statements : Nat) (request : Request) : List (SessionAction Call) :=
  .begin_ ⟨sampleId 0, request⟩ ::
    (List.replicate statements (.statement number) ++ [.commit number])

/-- A delivery, a processing that is lost after its rows are written, one that commits, and
two more deliveries of the event. -/
def sampleActions : List (SessionAction Call) :=
  whole 0 3 (.bindSender sampleBind) ++ whole 1 4 (.receive (sampleReceive "hello" (sampleId 5))) ++
    .begin_ ⟨sampleId 0, .process (sampleProcess (sampleId 8) (sampleId 9))⟩ ::
      List.replicate 8 (.statement 2) ++ .rollback 2 ::
        whole 3 9 (.process (sampleProcess (sampleId 10) (sampleId 11))) ++
    whole 4 2 (.receive (sampleReceive "hello" (sampleId 12))) ++
    whole 5 2 (.receive (sampleReceive "hello again" (sampleId 13)))

theorem inbox_exactly_once_sample :
    ∃ moves last, Path (inbox sampleSettings) sampleStart moves last ∧
      (∃ row ∈ (last.committed (sampleId 0)).inbox, row.status = .processed) ∧
      (∀ installationId, OneTask (last.committed installationId)) ∧
      ∀ move ∈ moves, Exact sampleSettings move := by
  obtain ⟨moves, last, run, processed⟩ : ∃ moves last,
      replay (inboxService sampleSettings).perform sampleStart sampleActions = some (moves, last) ∧
        ∃ row ∈ (last.committed (sampleId 0)).inbox, row.status = .processed := by
    refine ⟨_, _, rfl, ?_⟩
    exact ⟨_, List.mem_cons_self, rfl⟩
  have path : Path (inbox sampleSettings) sampleStart moves last := Path.of_replay run
  have initial : (inbox sampleSettings).init sampleStart :=
    ⟨fun _ => ⟨rfl, rfl, rfl, rfl, rfl⟩, rfl⟩
  obtain ⟨once, -, exact_⟩ := inbox_exactly_once sampleSettings path initial
  exact ⟨moves, last, path, processed, once, exact_⟩

end Obsion.Inbox
