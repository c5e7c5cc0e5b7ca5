import Obsion.Inbox.Service

/-! # Exactly-once admission

`Change` says once what a committed call can do to the rows of an installation, and
`Sound` is what every change keeps: a message is what its first delivery admitted, and it
is PROCESSED exactly when its turn and its run exist.  The lock of the installation makes
every interleaving serial, so both speak of whole transactions. -/

namespace Obsion.Inbox

open Obsion.Lib
open Obsion.Lib.Script (returns_bind returns_pure returns_select returns_update returns_ofExcept
  not_returns_raises)

variable {settings : Settings} {scope after : Scope}

structure Records (settings : Settings) (message : TrustedImInbound) (row : ImInboxMessage) :
    Prop where
  vendorEventId : row.vendorEventId = message.vendorEventId
  fingerprint : row.fingerprint = fingerprint settings message
  senderId : row.senderId = message.senderId
  conversationId : row.conversationId = message.conversationId
  conversationType : row.conversationType = message.conversationType
  text : row.text = settings.redactText message.text

structure Bound (binding : ImInstallationBinding) (row : ImInboxMessage) : Prop where
  active : binding.active = true
  sender : binding.senderId = row.senderId
  id : binding.id = row.bindingId
  subject : binding.userId = row.subjectUserId

def ImInboxMessage.admission (row : ImInboxMessage) : ImInboxMessage :=
  { row with status := .received, turnId := none, runId := none, processedAt := none }

inductive Change (settings : Settings) (request : Request) (before after : Scope) : Prop
  | kept (inbox : after.inbox = before.inbox) (turns : after.turns = before.turns)
      (runs : after.runs = before.runs)
  | admitted (args : ReceiveArgs) (row : ImInboxMessage) (binding : ImInstallationBinding)
      (byReceive : request = .receive args) (known : binding ∈ before.bindings)
      (bound : Bound binding row) (records : Records settings args.message row) (received : row.status = .received)
      (fresh : ∀ other ∈ before.inbox, other.id ≠ row.id ∧ other.vendorEventId ≠ row.vendorEventId)
      (inbox : after.inbox.rows = before.inbox.rows ++ [row]) (turns : after.turns = before.turns)
      (runs : after.runs = before.runs)
  | processed (stored : ImInboxMessage) (binding : ImInstallationBinding) (turn : Turn) (run : Run)
      (now : Time) (member : stored ∈ before.inbox) (pending : stored.status ≠ .processed)
      (known : binding ∈ before.bindings) (bound : Bound binding stored)
      (creator : turn.createdBy = stored.subjectUserId) (origin : turn.contextRef.inboxId = stored.id)
      (task : run.turnId = turn.id)
      (freshTurn : ∀ other ∈ before.turns, other.id ≠ turn.id)
      (freshRun : ∀ other ∈ before.runs, other.id ≠ run.id)
      (inbox : ∀ row, row ∈ after.inbox ↔
        row = processedMessage stored turn run now ∨ row ∈ before.inbox ∧ row.id ≠ stored.id)
      (turns : after.turns.rows = before.turns.rows ++ [turn])
      (runs : after.runs.rows = before.runs.rows ++ [run])

/-! ## One inversion lemma for each operation -/

section

lemma ok_of_orRefuse {α : Type} {error : ObsionError} {row : Option α} {found : α}
    (run : orRefuse error row = .ok found) : row = some found := by
  cases row with
  | none => cases run
  | some row => exact congrArg some (Except.ok.inj run)

lemma ok_of_orDatabase {α : Type} {table : Option α} {found : α}
    (run : orDatabase table = .ok found) : table = some found := by
  cases table with
  | none => cases run
  | some table => exact congrArg some (Except.ok.inj run)

lemma allow_returns {α : Type} {outcome : Except ObsionError α} {value : α}
    (run : (allow outcome).Returns scope value after) : outcome = .ok value ∧ scope = after := by
  obtain ⟨mapped, eq⟩ := returns_ofExcept.1 run
  cases outcome with
  | error error => cases mapped
  | ok found => exact ⟨congrArg Except.ok (Except.ok.inj mapped), eq⟩

variable {installation : ImInstallation} {value : Unit}

variable {actor subject : Principal} {row inbox : ImInboxMessage} {answer : Answer}
  {threadId : Uuid} {args : ProcessArgs}

lemma lockInstallation_returns (run : (lockInstallation actor).Returns scope installation after) :
    scope = after :=
  (returns_select.1 run).2

lemma adapter_returns {checks : AdapterChecks}
    (run : (adapter checks actor installation).Returns scope () after) : scope = after := by
  unfold adapter at run
  split at run
  · exact absurd run not_returns_raises
  obtain ⟨_, middle, first, second⟩ := returns_bind.1 run
  obtain ⟨-, rfl⟩ := allow_returns first
  split at second
  · exact (returns_pure.1 second).2
  exact absurd second not_returns_raises

lemma activeBinding_returns {senderId : String} {binding : ImInstallationBinding}
    (run : (activeBinding senderId).Returns scope binding after) :
    scope = after ∧ binding ∈ scope.bindings ∧ binding.senderId = senderId ∧ binding.active = true := by
  obtain ⟨found, eq⟩ := returns_select.1 run
  have located := ok_of_orRefuse found
  have holds := List.find?_some located
  simp only [Bool.and_eq_true, decide_eq_true_eq] at holds
  exact ⟨eq, List.mem_of_find?_eq_some located, holds⟩

lemma insertMessage_returns (run : (insertMessage row).Returns scope value after) :
    (∀ other ∈ scope.inbox, other.id ≠ row.id ∧ other.vendorEventId ≠ row.vendorEventId) ∧
      ∃ inbox : Table ImInboxMessage.id, inbox.rows = scope.inbox.rows ++ [row] ∧
        after = { scope with inbox := inbox } := by
  have written := returns_update.1 run
  split at written
  · cases written
  next unused =>
  obtain ⟨inbox, inserted, rfl⟩ := of_map_ok written
  obtain ⟨fresh, grown⟩ := Table.insert?_spec (ok_of_orDatabase inserted)
  refine ⟨?_, inbox, grown, rfl⟩
  intro other mem
  refine ⟨fresh other mem, ?_⟩
  intro eq
  exact unused (List.any_eq_true.2 ⟨other, mem, decide_eq_true eq⟩)

lemma receive_returns {args : ReceiveArgs}
    (run : (receive settings args).Returns scope answer after) :
    (∃ stored ∈ scope.inbox, stored.vendorEventId = args.message.vendorEventId ∧
      answer = (stored, decide (stored.fingerprint ≠ fingerprint settings args.message)) ∧
      after = scope) ∨ ((∀ other ∈ scope.inbox, other.vendorEventId ≠ args.message.vendorEventId) ∧
      Change settings (.receive args) scope after) := by
  obtain ⟨installation, _, first, run⟩ := returns_bind.1 run
  obtain rfl := lockInstallation_returns first
  obtain ⟨_, _, second, run⟩ := returns_bind.1 run
  obtain rfl := adapter_returns second
  obtain ⟨existing, _, third, run⟩ := returns_bind.1 run
  obtain ⟨found, rfl⟩ := returns_select.1 third
  have located := Except.ok.inj found
  cases existing with
  | some stored =>
    obtain ⟨eq, kept⟩ := returns_pure.1 run
    have event := List.find?_some located
    exact .inl ⟨stored, List.mem_of_find?_eq_some located, of_decide_eq_true event, eq.symm,
      kept.symm⟩
  | none =>
    obtain ⟨binding, _, fourth, run⟩ := returns_bind.1 run
    obtain ⟨rfl, known, sender, active⟩ := activeBinding_returns fourth
    obtain ⟨subject, _, fifth, run⟩ := returns_bind.1 run
    obtain ⟨-, rfl⟩ := allow_returns fifth
    obtain ⟨_, _, sixth, run⟩ := returns_bind.1 run
    obtain ⟨fresh, inbox, grown, rfl⟩ := insertMessage_returns sixth
    obtain ⟨-, rfl⟩ := returns_pure.1 run
    refine .inr ⟨fun other mem => (fresh other mem).2, ?_⟩
    exact .admitted args _ binding rfl known ⟨active, sender, rfl, rfl⟩
      ⟨rfl, rfl, rfl, rfl, rfl, rfl⟩ rfl fresh grown rfl rfl

lemma orCreate_returns {found : Option Uuid} {create : Except Fault Uuid} {id : Uuid}
    (run : (orCreate found create).Returns scope id after) : scope = after := by
  cases found with
  | none => exact (returns_ofExcept.1 run).2
  | some id => exact (returns_pure.1 run).2

lemma conversationThread_returns {env : ConversationEnv}
    (run : (conversationThread settings env subject inbox).Returns scope threadId after) :
    ∃ conversations, after = { scope with conversations := conversations } := by
  obtain ⟨audience, _, first, run⟩ := returns_bind.1 run
  obtain ⟨-, rfl⟩ := allow_returns first
  cases audience with
  | some workspaceId =>
    obtain ⟨-, rfl⟩ := returns_ofExcept.1 run
    exact ⟨scope.conversations, rfl⟩
  | none =>
    obtain ⟨mapping, _, second, run⟩ := returns_bind.1 run
    obtain ⟨-, rfl⟩ := returns_select.1 second
    obtain ⟨context, _, third, run⟩ := returns_bind.1 run
    obtain ⟨-, rfl⟩ := allow_returns third
    obtain ⟨workspaceId, _, fourth, run⟩ := returns_bind.1 run
    obtain rfl := orCreate_returns fourth
    obtain ⟨created, _, fifth, run⟩ := returns_bind.1 run
    obtain rfl := orCreate_returns fifth
    obtain ⟨_, _, sixth, run⟩ := returns_bind.1 run
    have written := returns_update.1 sixth
    obtain ⟨-, rfl⟩ := returns_pure.1 run
    exact ⟨_, (Except.ok.inj written).symm⟩

lemma createTurn_returns {created : Turn × Run}
    (run : (createTurn args installation subject threadId inbox).Returns scope created after) :
    created.1.createdBy = subject.id ∧ created.1.contextRef.inboxId = inbox.id ∧
      created.2.turnId = created.1.id ∧ (∀ other ∈ scope.turns, other.id ≠ created.1.id) ∧
      (∀ other ∈ scope.runs, other.id ≠ created.2.id) ∧
      ∃ turns runs, turns.rows = scope.turns.rows ++ [created.1] ∧
        runs.rows = scope.runs.rows ++ [created.2] ∧
        after = { scope with turns := turns, runs := runs } := by
  obtain ⟨_, _, first, run⟩ := returns_bind.1 run
  have written := returns_update.1 first
  obtain ⟨turns, inserted, rfl⟩ := of_map_ok written
  obtain ⟨freshTurn, grownTurns⟩ := Table.insert?_spec (ok_of_orDatabase inserted)
  obtain ⟨_, _, second, run⟩ := returns_bind.1 run
  have written := returns_update.1 second
  obtain ⟨runs, inserted, rfl⟩ := of_map_ok written
  obtain ⟨freshRun, grownRuns⟩ := Table.insert?_spec (ok_of_orDatabase inserted)
  obtain ⟨_, _, third, run⟩ := returns_bind.1 run
  obtain ⟨-, rfl⟩ := returns_ofExcept.1 third
  obtain ⟨rfl, rfl⟩ := returns_pure.1 run
  exact ⟨rfl, rfl, rfl, freshTurn, freshRun, turns, runs, grownTurns, grownRuns, rfl⟩

lemma mem_put_put {table : Table ImInboxMessage.id} {first second : ImInboxMessage}
    (eq : first.id = second.id) :
    row ∈ (table.put first).put second ↔ row = second ∨ row ∈ table ∧ row.id ≠ second.id := by
  rw [Table.mem_put, Table.mem_put]
  constructor
  · rintro (rfl | ⟨rfl | ⟨mem, -⟩, apart⟩)
    · exact .inl rfl
    · exact absurd eq apart
    · exact .inr ⟨mem, apart⟩
  · rintro (rfl | ⟨mem, apart⟩)
    · exact .inl rfl
    · exact .inr ⟨Or.inr ⟨mem, eq ▸ apart⟩, apart⟩

lemma process_returns (run : (process settings args).Returns scope answer after) :
    Change settings (.process args) scope after := by
  obtain ⟨installation, _, first, run⟩ := returns_bind.1 run
  obtain rfl := lockInstallation_returns first
  obtain ⟨_, _, second, run⟩ := returns_bind.1 run
  obtain rfl := adapter_returns second
  obtain ⟨stored, _, third, run⟩ := returns_bind.1 run
  obtain ⟨found, rfl⟩ := returns_select.1 third
  obtain ⟨mem, located⟩ := Table.get?_eq_some.1 (ok_of_orRefuse found)
  obtain ⟨binding, _, fourth, run⟩ := returns_bind.1 run
  obtain ⟨rfl, known, sender, active⟩ := activeBinding_returns fourth
  split at run
  · exact absurd run not_returns_raises
  next unchanged =>
  obtain ⟨sameBinding, sameSubject⟩ : binding.id = stored.bindingId ∧
      binding.userId = stored.subjectUserId := by
    simpa only [not_or, not_not] using unchanged
  have bound : Bound binding stored := ⟨active, sender, sameBinding, sameSubject⟩
  obtain ⟨subject, _, fifth, run⟩ := returns_bind.1 run
  obtain ⟨loaded, rfl⟩ := allow_returns fifth
  obtain ⟨_, _, sixth, run⟩ := returns_bind.1 run
  obtain ⟨-, rfl⟩ := allow_returns sixth
  split at run
  · obtain ⟨-, rfl⟩ := returns_pure.1 run
    exact .kept rfl rfl rfl
  next pending =>
  obtain ⟨_, _, seventh, run⟩ := returns_bind.1 run
  have started := returns_update.1 seventh
  cases started
  obtain ⟨threadId, _, eighth, run⟩ := returns_bind.1 run
  obtain ⟨conversations, rfl⟩ := conversationThread_returns eighth
  obtain ⟨created, _, ninth, run⟩ := returns_bind.1 run
  obtain ⟨creator, origin, task, freshTurn, freshRun, turns, runs, grownTurns, grownRuns, rfl⟩ :=
    createTurn_returns ninth
  obtain ⟨_, _, tenth, run⟩ := returns_bind.1 run
  have finished := returns_update.1 tenth
  cases finished
  obtain ⟨-, rfl⟩ := returns_pure.1 run
  obtain ⟨permissions, -, rfl⟩ := of_map_ok loaded
  exact .processed stored binding created.1 created.2 args.now mem pending known bound
    (creator.trans sameSubject) origin task freshTurn freshRun
    (fun row => mem_put_put rfl) grownTurns grownRuns

lemma bindSender_returns {args : BindArgs} (run : (bindSender args).Returns scope value after) :
    Change settings (.bindSender args) scope after := by
  obtain ⟨installation, _, first, run⟩ := returns_bind.1 run
  obtain rfl := lockInstallation_returns first
  obtain ⟨_, _, second, run⟩ := returns_bind.1 run
  obtain ⟨-, rfl⟩ := allow_returns second
  split at run
  · exact absurd run not_returns_raises
  obtain ⟨_, _, third, run⟩ := returns_bind.1 run
  obtain ⟨-, rfl⟩ := allow_returns third
  obtain ⟨binding, _, fourth, run⟩ := returns_bind.1 run
  obtain ⟨-, rfl⟩ := returns_select.1 fourth
  cases binding with
  | none =>
    have written := returns_update.1 run
    obtain ⟨bindings, -, rfl⟩ := of_map_ok written
    exact .kept rfl rfl rfl
  | some binding =>
    have written := returns_update.1 run
    cases written
    exact .kept rfl rfl rfl

lemma revokeBinding_returns {args : RevokeArgs} {bindingId : Uuid}
    (run : (revokeBinding args bindingId).Returns scope value after) :
    Change settings (.revokeBinding args bindingId) scope after := by
  obtain ⟨installation, _, first, run⟩ := returns_bind.1 run
  obtain rfl := lockInstallation_returns first
  obtain ⟨_, _, second, run⟩ := returns_bind.1 run
  obtain ⟨-, rfl⟩ := allow_returns second
  obtain ⟨binding, _, third, run⟩ := returns_bind.1 run
  obtain ⟨-, rfl⟩ := returns_select.1 third
  have written := returns_update.1 run
  cases written
  exact .kept rfl rfl rfl

lemma script_returns {request : Request} {value : Option Answer}
    (run : (script settings request).Returns scope value after) :
    Change settings request scope after := by
  cases request with
  | receive args =>
    obtain ⟨answer, _, first, run⟩ := returns_bind.1 run
    obtain ⟨-, rfl⟩ := returns_pure.1 run
    rcases receive_returns first with ⟨stored, -, -, -, rfl⟩ | ⟨-, change⟩
    · exact .kept rfl rfl rfl
    exact change
  | process args =>
    obtain ⟨answer, _, first, run⟩ := returns_bind.1 run
    obtain ⟨-, rfl⟩ := returns_pure.1 run
    exact process_returns first
  | bindSender args =>
    obtain ⟨_, _, first, run⟩ := returns_bind.1 run
    obtain ⟨-, rfl⟩ := returns_pure.1 run
    exact bindSender_returns first
  | revokeBinding args bindingId =>
    obtain ⟨_, _, first, run⟩ := returns_bind.1 run
    obtain ⟨-, rfl⟩ := returns_pure.1 run
    exact revokeBinding_returns first
  | administer installation =>
    obtain ⟨_, _, first, run⟩ := returns_bind.1 run
    obtain ⟨-, rfl⟩ := returns_pure.1 run
    have written := returns_update.1 first
    cases written
    exact .kept rfl rfl rfl

end

/-- The turn and the run that a message references, created for it and its subject. -/
structure Task (scope : Scope) (row : ImInboxMessage) (turn : Turn) (run : Run) : Prop where
  turnIn : turn ∈ scope.turns
  runIn : run ∈ scope.runs
  turnId : row.turnId = some turn.id
  runId : row.runId = some run.id
  task : run.turnId = turn.id
  origin : turn.contextRef.inboxId = row.id
  creator : turn.createdBy = row.subjectUserId

structure Sound (settings : Settings) (scope : Scope) : Prop where
  records : ∀ row ∈ scope.inbox, ∃ message, Records settings message row
  events : ∀ row ∈ scope.inbox, ∀ other ∈ scope.inbox, row.vendorEventId = other.vendorEventId →
    row = other
  processed : ∀ row ∈ scope.inbox, row.status = .processed → ∃ turn run, Task scope row turn run
  turns : ∀ turn ∈ scope.turns, ∃ row ∈ scope.inbox, ∃ run, row.status = .processed ∧
    Task scope row turn run
  runs : ∀ run ∈ scope.runs, ∃ row ∈ scope.inbox, ∃ turn, row.status = .processed ∧
    Task scope row turn run

lemma sound_blank (blank : Blank scope) : Sound settings scope := by
  obtain ⟨-, inbox, -, turns, runs⟩ := blank
  constructor
  · intro row mem
    rw [inbox] at mem
    exact absurd mem (Table.notMem_empty row)
  · intro row mem
    rw [inbox] at mem
    exact absurd mem (Table.notMem_empty row)
  · intro row mem
    rw [inbox] at mem
    exact absurd mem (Table.notMem_empty row)
  · intro turn mem
    rw [turns] at mem
    exact absurd mem (Table.notMem_empty turn)
  · intro run mem
    rw [runs] at mem
    exact absurd mem (Table.notMem_empty run)

variable {row stored : ImInboxMessage} {turn : Turn} {run : Run} {message : TrustedImInbound}

lemma Task.grow (task : Task scope row turn run)
    (turns : ∀ other ∈ scope.turns, other ∈ after.turns)
    (runs : ∀ other ∈ scope.runs, other ∈ after.runs) : Task after row turn run :=
  { task with turnIn := turns turn task.turnIn, runIn := runs run task.runIn }

lemma mem_of_rows {Key Row : Type} {key : Row → Key} {table grown : Table key} {added row : Row}
    (rows : grown.rows = table.rows ++ [added]) : row ∈ grown ↔ row ∈ table ∨ row = added := by
  rw [Table.mem_iff, rows, List.mem_append, List.mem_singleton]
  rfl

lemma Sound.admit (sound : Sound settings scope) (records : Records settings message row)
    (received : row.status = .received)
    (fresh : ∀ other ∈ scope.inbox, other.id ≠ row.id ∧ other.vendorEventId ≠ row.vendorEventId)
    (inbox : after.inbox.rows = scope.inbox.rows ++ [row]) (turns : after.turns = scope.turns)
    (runs : after.runs = scope.runs) : Sound settings after := by
  have task : ∀ {stored turn run}, Task scope stored turn run → Task after stored turn run := by
    intro stored turn run task
    exact task.grow (fun _ mem => turns ▸ mem) (fun _ mem => runs ▸ mem)
  constructor
  · intro stored mem
    rcases (mem_of_rows inbox).1 mem with older | rfl
    · exact sound.records stored older
    exact ⟨message, records⟩
  · intro stored mem other otherIn eq
    rcases (mem_of_rows inbox).1 mem with older | rfl
    · rcases (mem_of_rows inbox).1 otherIn with alsoOlder | rfl
      · exact sound.events stored older other alsoOlder eq
      exact absurd eq (fresh stored older).2
    · rcases (mem_of_rows inbox).1 otherIn with older | rfl
      · exact absurd eq.symm (fresh other older).2
      rfl
  · intro stored mem processed
    rcases (mem_of_rows inbox).1 mem with older | rfl
    · obtain ⟨turn, run, holds⟩ := sound.processed stored older processed
      exact ⟨turn, run, task holds⟩
    rw [received] at processed
    cases processed
  · intro turn mem
    rw [turns] at mem
    obtain ⟨stored, older, run, processed, holds⟩ := sound.turns turn mem
    exact ⟨stored, (mem_of_rows inbox).2 (Or.inl older), run, processed, task holds⟩
  · intro run mem
    rw [runs] at mem
    obtain ⟨stored, older, turn, processed, holds⟩ := sound.runs run mem
    exact ⟨stored, (mem_of_rows inbox).2 (Or.inl older), turn, processed, task holds⟩

lemma Records.processed (records : Records settings message stored) (turn : Turn) (run : Run)
    (now : Time) :
    Records settings message (processedMessage stored turn run now) :=
  ⟨records.vendorEventId, records.fingerprint, records.senderId, records.conversationId,
    records.conversationType, records.text⟩

lemma Sound.process (sound : Sound settings scope) {now : Time} (mem : stored ∈ scope.inbox)
    (pending : stored.status ≠ .processed) (creator : turn.createdBy = stored.subjectUserId)
    (origin : turn.contextRef.inboxId = stored.id) (created : run.turnId = turn.id)
    (inbox : ∀ row, row ∈ after.inbox ↔
      row = processedMessage stored turn run now ∨ row ∈ scope.inbox ∧ row.id ≠ stored.id)
    (turns : after.turns.rows = scope.turns.rows ++ [turn])
    (runs : after.runs.rows = scope.runs.rows ++ [run]) : Sound settings after := by
  have task : ∀ {row turn run}, Task scope row turn run → Task after row turn run := by
    intro row turn run task
    exact task.grow (fun _ inTurns => (mem_of_rows turns).2 (Or.inl inTurns))
      (fun _ inRuns => (mem_of_rows runs).2 (Or.inl inRuns))
  have new : Task after (processedMessage stored turn run now) turn run :=
    ⟨(mem_of_rows turns).2 (Or.inr rfl), (mem_of_rows runs).2 (Or.inr rfl), rfl, rfl, created,
      origin, creator⟩
  have written : processedMessage stored turn run now ∈ after.inbox := (inbox _).2 (Or.inl rfl)
  -- A processed message of the past is not the one that is processed now.
  have apart : ∀ row ∈ scope.inbox, row.status = .processed → row ∈ after.inbox := by
    intro row older processed
    refine (inbox row).2 (Or.inr ⟨older, ?_⟩)
    intro eq
    exact pending (Table.eq_of_key older mem eq ▸ processed)
  constructor
  · intro row rowIn
    rcases (inbox row).1 rowIn with rfl | ⟨older, -⟩
    · obtain ⟨message, records⟩ := sound.records stored mem
      exact ⟨message, records.processed turn run now⟩
    exact sound.records row older
  · intro row rowIn other otherIn eq
    rcases (inbox row).1 rowIn with rfl | ⟨older, rowApart⟩
    · rcases (inbox other).1 otherIn with rfl | ⟨older, otherApart⟩
      · rfl
      exact absurd (sound.events stored mem other older eq ▸ rfl) otherApart
    · rcases (inbox other).1 otherIn with rfl | ⟨alsoOlder, -⟩
      · exact absurd (sound.events row older stored mem eq ▸ rfl) rowApart
      exact sound.events row older other alsoOlder eq
  · intro row rowIn processed
    rcases (inbox row).1 rowIn with rfl | ⟨older, -⟩
    · exact ⟨turn, run, new⟩
    obtain ⟨oldTurn, oldRun, holds⟩ := sound.processed row older processed
    exact ⟨oldTurn, oldRun, task holds⟩
  · intro found foundIn
    rcases (mem_of_rows turns).1 foundIn with older | rfl
    · obtain ⟨row, rowIn, oldRun, processed, holds⟩ := sound.turns found older
      exact ⟨row, apart row rowIn processed, oldRun, processed, task holds⟩
    exact ⟨_, written, run, rfl, new⟩
  · intro found foundIn
    rcases (mem_of_rows runs).1 foundIn with older | rfl
    · obtain ⟨row, rowIn, oldTurn, processed, holds⟩ := sound.runs found older
      exact ⟨row, apart row rowIn processed, oldTurn, processed, task holds⟩
    exact ⟨_, written, turn, rfl, new⟩

lemma Sound.change (sound : Sound settings scope) {request : Request}
    (change : Change settings request scope after) : Sound settings after := by
  cases change with
  | kept inbox turns runs =>
    have task : ∀ {row turn run}, Task scope row turn run → Task after row turn run := by
      intro row turn run task
      exact task.grow (fun _ mem => turns ▸ mem) (fun _ mem => runs ▸ mem)
    constructor
    · rw [inbox]
      exact sound.records
    · rw [inbox]
      exact sound.events
    · intro row mem processed
      obtain ⟨turn, run, holds⟩ := sound.processed row (inbox ▸ mem) processed
      exact ⟨turn, run, task holds⟩
    · intro turn mem
      obtain ⟨row, rowIn, run, processed, holds⟩ := sound.turns turn (turns ▸ mem)
      exact ⟨row, inbox ▸ rowIn, run, processed, task holds⟩
    · intro run mem
      obtain ⟨row, rowIn, turn, processed, holds⟩ := sound.runs run (runs ▸ mem)
      exact ⟨row, inbox ▸ rowIn, turn, processed, task holds⟩
  | admitted args row binding _ known bound records received fresh inbox turns runs =>
    exact sound.admit records received fresh inbox turns runs
  | processed stored binding turn run now mem pending known bound creator origin task freshTurn
      freshRun inbox turns runs =>
      exact sound.process mem pending creator origin task inbox turns runs

lemma Sound.turn_once (sound : Sound settings scope) {left right : Turn}
    (leftIn : left ∈ scope.turns) (rightIn : right ∈ scope.turns)
    (eq : left.contextRef.inboxId = right.contextRef.inboxId) : left = right := by
  obtain ⟨row, rowIn, run, -, task⟩ := sound.turns left leftIn
  obtain ⟨other, otherIn, otherRun, -, otherTask⟩ := sound.turns right rightIn
  obtain rfl : row = other := by
    refine Table.eq_of_key rowIn otherIn ?_
    rw [← task.origin, ← otherTask.origin, eq]
  refine Table.eq_of_key leftIn rightIn ?_
  exact Option.some.inj (task.turnId.symm.trans otherTask.turnId)

lemma Sound.run_once (sound : Sound settings scope) {left right : Run}
    (leftIn : left ∈ scope.runs) (rightIn : right ∈ scope.runs)
    (eq : left.turnId = right.turnId) : left = right := by
  obtain ⟨row, rowIn, turn, -, task⟩ := sound.runs left leftIn
  obtain ⟨other, otherIn, otherTurn, -, otherTask⟩ := sound.runs right rightIn
  obtain rfl : turn = otherTurn := by
    refine Table.eq_of_key task.turnIn otherTask.turnIn ?_
    rw [← task.task, ← otherTask.task, eq]
  obtain rfl : row = other := by
    refine Table.eq_of_key rowIn otherIn ?_
    rw [← task.origin, ← otherTask.origin]
  refine Table.eq_of_key leftIn rightIn ?_
  exact Option.some.inj (task.runId.symm.trans otherTask.runId)

end Obsion.Inbox
