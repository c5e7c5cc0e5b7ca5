import Obsion.AppServer.Atomic

/-! # Repeated and concurrent mutations

Among the calls with one key the first commit runs its handler.  Every later commit has its
method and params, writes nothing, and answers what the first one recorded; the delivery
shows the Run of that answer as far as the caller may read it by then. -/

namespace Obsion.AppServer

open Obsion.Lib
open Obsion.Lib.Script (returns_bind returns_pure returns_execute returns_update)

variable {settings : Settings}

def completed (record : AppServerRequest) (call : Call) (outcome : Outcome) : AppServerRequest :=
  { record with response := some outcome, completedAt := some call.completedAt }

/-- The retention window of the record is open when the call claims its key. -/
def Retained (call : Call) (entry : Entry) : Prop :=
  ∀ row, entry.row = some row → retired call.context.now row = false

def SameOperation (settings : Settings) (call : Call) (row : AppServerRequest) : Prop :=
  row.method = call.mutation.method ∧ row.paramsFingerprint = paramsFingerprint settings call.params

inductive Effect (settings : Settings) (call : Call) (outcome : Outcome) (before after : Entry) : Prop
  | first (result : Except ObsionError Json) (writes : List Write) (fresh : before.row = none)
      (answer : outcome = outcomeOf settings call result)
      (effects : after = ⟨some (completed (newRecord settings call) call outcome),
        before.effects ++ writes⟩)
      (left : ∀ error, result = .error error →
        FailsLate call.context call.mutation ∨ Recorded call.context call.mutation writes)
  | replayed (row : AppServerRequest) (stored : before.row = some row)
      (operation : SameOperation settings call row) (response : row.response = some outcome)
      (same : after = before)

variable {call : Call} {entry after : Entry} {outcome : Outcome} {method : Method}

lemma run_deleteRetired (retained : Retained call entry) :
    (deleteRetired call.context.now).run entry = (.ok (), entry) := by
  have kept : entry.row.filter (fun row => !retired call.context.now row) = entry.row := by
    cases stored : entry.row with
    | none => rfl
    | some row =>
      rw [Option.filter_some, retained row stored]
      rfl
  have whole : (deleteRetired call.context.now).run entry
      = (.ok (), { entry with row := entry.row.filter fun row => !retired call.context.now row }) := rfl
  rw [whole, kept]

lemma claim_returns {middle : Entry} {found : Option Outcome} (retained : Retained call entry)
    (run : (claim settings call).Returns entry found middle) :
    (found = none ∧ entry.row = none ∧ middle = { entry with row := some (newRecord settings call) }) ∨
      ∃ row outcome, entry.row = some row ∧ claimExisting settings call row = .ok outcome ∧
        found = some outcome ∧ middle = entry := by
  obtain ⟨_, kept, first, second⟩ := returns_bind.1 run
  rw [Script.Returns, run_deleteRetired retained] at first
  obtain rfl := congrArg Prod.snd first
  have acted := returns_execute.1 second
  dsimp only at acted
  split at acted
  · next absent =>
    cases acted
    exact .inl ⟨rfl, absent, rfl⟩
  · next row stored =>
    refine .inr ⟨row, ?_⟩
    cases claimed : claimExisting settings call row with
    | error fault =>
      rw [claimed] at acted
      cases acted
    | ok outcome =>
      rw [claimed] at acted
      cases acted
      exact ⟨outcome, stored, rfl, rfl, rfl⟩

variable {row : AppServerRequest} {before : Entry} {fingerprint : String}
  {move : Move World (SessionAction Call)}

lemma claimExisting_ok (claimed : claimExisting settings call row = .ok outcome) :
    SameOperation settings call row ∧ row.response = some outcome := by
  unfold claimExisting at claimed
  split at claimed
  · cases claimed
  next eq =>
  obtain ⟨method, fingerprint⟩ := not_or.1 eq
  split at claimed
  · cases claimed
  next response stored =>
  cases claimed
  exact ⟨⟨not_not.1 method, not_not.1 fingerprint⟩, stored⟩

lemma complete_returns {record : AppServerRequest} {effects : List Write}
    (open_ : record.response = none)
    (run : (complete call outcome).Returns ⟨some record, effects⟩ () after) :
    after = ⟨some (completed record call outcome), effects⟩ := by
  have written := returns_update.1 run
  dsimp only at written
  rw [open_] at written
  cases written
  rfl

lemma mutate_returns (retained : Retained call entry)
    (run : (mutate settings call).Returns entry outcome after) :
    Effect settings call outcome entry after := by
  obtain ⟨found, middle, claimed, rest⟩ := returns_bind.1 run
  rcases claim_returns retained claimed with ⟨rfl, fresh, rfl⟩ | ⟨row, answer, stored, existing, rfl, rfl⟩
  · obtain ⟨result, worked, handled, last⟩ := returns_bind.1 rest
    obtain ⟨_, left, finished, answered⟩ := returns_bind.1 last
    obtain ⟨rfl, rfl⟩ := returns_pure.1 answered
    rw [Script.Returns, Script.run_rescue] at handled
    obtain ⟨writes, ⟨value, ran, -⟩ | ⟨error, ran, allowed⟩⟩ :=
      handler_careful settings.views call.context call.mutation
        { entry with row := some (newRecord settings call) }
    · rw [ran] at handled
      cases handled
      have done := complete_returns rfl finished
      exact .first (.ok value) writes fresh rfl done fun error impossible => by cases impossible
    · rw [ran] at handled
      cases handled
      have done := complete_returns rfl finished
      exact .first (.error error) writes fresh rfl done fun _ _ => allowed
  · obtain ⟨rfl, rfl⟩ := returns_pure.1 rest
    obtain ⟨operation, response⟩ := claimExisting_ok existing
    exact .replayed row stored operation response rfl

lemma mutate_reused (retained : Retained call entry) (stored : entry.row = some row)
    (other : ¬ SameOperation settings call row) :
    (mutate settings call).run entry = (.error (.refused keyReused), entry) := by
  have refused : claimExisting settings call row = .error (.refused keyReused) := by
    refine if_pos ?_
    by_contra eq
    obtain ⟨method, fingerprint⟩ := not_or.1 eq
    exact other ⟨not_not.1 method, not_not.1 fingerprint⟩
  unfold mutate claim
  rw [Script.run_bind, Script.run_bind, run_deleteRetired retained]
  dsimp only
  rw [Script.run_execute, stored]
  dsimp only
  rw [refused]
  rfl

/-- The move commits the call, and the call answers the outcome. -/
def Commits (move : Move World (SessionAction Call)) (call : Call) (outcome : Outcome) : Prop :=
  ∃ number data, move.action = .commit number ∧
    move.before.session number = some ⟨call, data, .returns outcome⟩

def Unexpired (move : Move World (SessionAction Call)) : Prop :=
  ∀ call outcome, Commits move call outcome → Retained call (move.before.committed call.key)

def Bound (method : Method) (fingerprint : String) (outcome : Outcome) (entry : Entry) : Prop :=
  ∃ row, entry.row = some row ∧ row.method = method ∧ row.paramsFingerprint = fingerprint ∧
    row.response = some outcome

lemma Effect.bound (effect : Effect settings call outcome before after) :
    Bound call.mutation.method (paramsFingerprint settings call.params) outcome after := by
  cases effect with
  | first result writes fresh answer effects left =>
    subst effects
    exact ⟨_, rfl, rfl, rfl, rfl⟩
  | replayed row stored operation response eq =>
    subst eq
    exact ⟨row, stored, operation.1, operation.2, response⟩

lemma Effect.of_bound {recorded : Outcome} (effect : Effect settings call recorded before after)
    (bound : Bound method fingerprint outcome before) :
    after = before ∧ recorded = outcome ∧ call.mutation.method = method ∧
      paramsFingerprint settings call.params = fingerprint := by
  obtain ⟨row, held, sameMethod, sameFingerprint, answered⟩ := bound
  cases effect with
  | first result writes fresh answer effects left =>
    rw [held] at fresh
    cases fresh
  | replayed found stored operation response eq =>
    obtain rfl := Option.some.inj (held.symm.trans stored)
    refine ⟨eq, Option.some.inj (response.symm.trans answered), ?_, ?_⟩
    · exact operation.1.symm.trans sameMethod
    exact operation.2.symm.trans sameFingerprint

lemma effect_of_commits (serial : (appServer settings).Serial move.before move.action move.after)
    (unexpired : Unexpired move) (commits : Commits move call outcome) :
    Effect settings call outcome (move.before.committed call.key) (move.after.committed call.key) ∧
      ∀ key, key ≠ call.key → move.after.committed key = move.before.committed key := by
  have retained := unexpired call outcome commits
  obtain ⟨number, data, acts, located⟩ := commits
  cases serial with
  | idle quiet eq => exact absurd acts (quiet number)
  | committed other otherCall value written otherActs held runs eq =>
    obtain rfl := SessionAction.commit.inj (otherActs.symm.trans acts)
    rw [located] at held
    cases held
    rw [eq]
    constructor
    · have here : Function.update move.before.committed call.key data call.key = data :=
        Function.update_self _ data move.before.committed
      exact here.symm ▸ mutate_returns retained runs
    · intro key apart
      exact Function.update_of_ne apart data move.before.committed

lemma bound_kept {key : Key}
    (serial : (appServer settings).Serial move.before move.action move.after)
    (unexpired : Unexpired move)
    (bound : Bound method fingerprint outcome (move.before.committed key)) :
    Bound method fingerprint outcome (move.after.committed key) := by
  cases kind : serial with
  | idle quiet eq =>
    rw [eq]
    exact bound
  | committed number call value data commits held runs eq =>
    obtain ⟨effect, elsewhere⟩ :=
      effect_of_commits serial unexpired ⟨number, data, commits, held⟩
    by_cases here : key = call.key
    · subst here
      rw [(effect.of_bound bound).1]
      exact bound
    · rw [elsewhere key here]
      exact bound

def Outcome.delivered : Outcome → Delivery
  | .result value => .result value
  | .error value => .recordedError value

lemma deliver_delivered {projection : Projection} (outcome : Outcome)
    (readable : method.projects = false ∨ projection.runFound = true ∧ projection.guard = .ok true) :
    deliver projection method outcome = outcome.delivered := by
  cases outcome with
  | error value => rfl
  | result value =>
    unfold deliver projectContent
    rcases readable with plain | ⟨found, allowed⟩
    · rw [plain]
      rfl
    rw [found, allowed]
    cases method.projects <;> rfl

lemma bound_of_commits {start reached : World}
    {earlier between : List (Move World (SessionAction Call))}
    {first : Move World (SessionAction Call)}
    (path : Path (mutations settings) start (earlier ++ first :: between) reached)
    (serial : ∀ move ∈ earlier ++ first :: between,
      (appServer settings).Serial move.before move.action move.after)
    (unexpired : ∀ move ∈ earlier ++ first :: between, Unexpired move)
    (commits : Commits first call outcome) :
    Bound call.mutation.method (paramsFingerprint settings call.params) outcome
      (reached.committed call.key) := by
  have mem : first ∈ earlier ++ first :: between := List.mem_append_right _ List.mem_cons_self
  obtain ⟨-, -, rest⟩ := path.split_move
  have bound := (effect_of_commits (serial first mem) (unexpired first mem) commits).1.bound
  let Holds : World → Prop := fun world =>
    Bound call.mutation.method (paramsFingerprint settings call.params) outcome
      (world.committed call.key)
  let Ordered : Move World (SessionAction Call) → Prop := fun move =>
    (appServer settings).Serial move.before move.action move.after ∧ Unexpired move
  have ordered : ∀ move ∈ between, Ordered move := by
    intro move inside
    have whole := List.mem_append_right earlier (List.mem_cons_of_mem first inside)
    exact ⟨serial move whole, unexpired move whole⟩
  have held : Holds reached := by
    refine rest.preservedWhere ?_ ordered bound
    rintro before action after holds _ ⟨serial, unexpired⟩
    exact bound_kept serial unexpired holds
  exact held

/-- Exactly-once and atomic mutations, in every interleaving of calls and lost calls. -/
theorem mutations_exactly_once (settings : Settings) {start last : World}
    {moves : List (Move World (SessionAction Call))} (path : Path (mutations settings) start moves last)
    (initial : (mutations settings).init start) (unexpired : ∀ move ∈ moves, Unexpired move) :
    (∀ earlier first between second later, moves = (earlier ++ first :: between) ++ second :: later →
      ∀ call outcome again recorded, Commits first call outcome → Commits second again recorded →
        again.key = call.key →
        second.after.committed = second.before.committed ∧ recorded = outcome ∧
          again.mutation.method = call.mutation.method ∧
          paramsFingerprint settings again.params = paramsFingerprint settings call.params ∧
          ∀ projection, again.mutation.method.projects = false
              ∨ projection.runFound = true ∧ projection.guard = .ok true →
            deliver projection again.mutation.method recorded = outcome.delivered) ∧
    (∀ earlier first between, moves = earlier ++ first :: between →
      ∀ call outcome again, Commits first call outcome → again.key = call.key →
        Retained again (last.committed call.key) →
        again.mutation.method ≠ call.mutation.method
          ∨ paramsFingerprint settings again.params ≠ paramsFingerprint settings call.params →
        (mutate settings again).run (last.committed call.key)
          = (.error (.refused keyReused), last.committed call.key)) ∧
    (∀ move ∈ moves, (∀ number, move.action ≠ .commit number) →
      move.after.committed = move.before.committed) ∧
    ∀ move ∈ moves, ∀ call outcome, Commits move call outcome →
      Effect settings call outcome (move.before.committed call.key) (move.after.committed call.key) ∧
        ∀ key, key ≠ call.key → move.after.committed key = move.before.committed key := by
  have serial := Service.serial_of_path path initial
  refine ⟨?_, ?_, ?_, ?_⟩
  · rintro earlier first between second later rfl call outcome again recorded commits repeats key
    have member : second ∈ (earlier ++ first :: between) ++ second :: later :=
      List.mem_append_right _ List.mem_cons_self
    obtain ⟨prior, -, -⟩ := path.split_move
    have bound := bound_of_commits prior (fun move inside => serial move (List.mem_append_left _ inside))
      (fun move inside => unexpired move (List.mem_append_left _ inside)) commits
    obtain ⟨effect, elsewhere⟩ :=
      effect_of_commits (serial second member) (unexpired second member) repeats
    rw [← key] at bound
    obtain ⟨same, answer, method, fingerprint⟩ := effect.of_bound bound
    refine ⟨?_, answer, method, fingerprint, ?_⟩
    · funext other
      by_cases here : other = again.key
      · rw [here]
        exact same
      exact elsewhere other here
    · intro projection readable
      rw [answer]
      exact deliver_delivered outcome readable
  · rintro earlier first between rfl call outcome again commits key retained other
    obtain ⟨row, stored, method, fingerprint, -⟩ := bound_of_commits path serial unexpired commits
    refine mutate_reused retained stored ?_
    rintro ⟨sameMethod, sameFingerprint⟩
    rcases other with apart | apart
    · exact apart (sameMethod.symm.trans method)
    exact apart (sameFingerprint.symm.trans fingerprint)
  · intro move member quiet
    cases serial move member with
    | idle _ same => exact same
    | committed number call value data commits => exact absurd commits (quiet number)
  · intro move member call outcome commits
    exact effect_of_commits (serial move member) (unexpired move member) commits

/-! ### A cancelled Run -/

def sampleId (digit : Fin 16) : Uuid := .repeating digit

def sampleSettings : Settings where
  sha256 text :=
    if text = "\x7b\"run_id\":\"44444444-4444-4444-4444-444444444444\"\x7d" then
      "077158fa379f4d0239fac029fdf349fbb7d5cef6618e5e111f67bb9feebbf27e"
    else "da82b1bac854312e2acbc8d4826cb32dbe3c610e3e722186d3cf8b05d2d2aa0e"
  retentionHours := 24
  views :=
    { thread := fun thread => .obj [("id", .str thread.id.str)]
      turn := fun turn => .obj [("id", .str turn.id.str)]
      run := fun run => [("id", .str run.id.str), ("status", .str run.status.str)]
      approval := fun approval => .obj [("id", .str approval.id.str)] }
  applicationErrorCode _ := -32000
  statusCode _ := 404
  details _ := []

def sampleRun : Run where
  id := sampleId 4
  turnId := sampleId 5
  status := .pending

/-- `run.cancel` of a pending Run, with the outcome of the guard of its projection. -/
def sampleCancel (projection : GuardOutcome) : Call where
  context :=
    { principal := ⟨sampleId 1, sampleId 2, []⟩, now := 0, correlationId := sampleId 3
      store := fun _ => .ok () }
  clientRequestId := "request-1"
  correlationId := sampleId 3
  params := .obj [("run_id", .str (sampleId 4).str)]
  mutation := .cancelRun ⟨⟨some sampleRun, ⟨[], .ok true⟩⟩, 0, projection⟩
  newId := sampleId 6
  completedAt := 0

def sampleStart : World where
  committed _ := ⟨none, []⟩
  sessions := []

def whole (number statements : Nat) (call : Call) : List (SessionAction Call) :=
  .begin_ call :: (List.replicate statements (.statement number) ++ [.commit number])

def sampleView (status : String) : Json :=
  .obj [("id", .str (sampleId 4).str), ("status", .str status)]

def unknownPrincipal : ObsionError :=
  authorizationError "unknown_principal" "The run owner is not provisioned"

def insideWindow (move : Move World (SessionAction Call)) : Bool :=
  match move.action with
  | .commit number =>
    match move.before.session number with
    | some session =>
      (move.before.committed session.call.key).row.all fun row =>
        !retired session.call.context.now row
    | none => true
  | _ => true

lemma unexpired_of_inside {moves : List (Move World (SessionAction Call))}
    (inside : moves.all insideWindow = true) : ∀ move ∈ moves, Unexpired move := by
  rintro move mem call outcome ⟨number, data, acts, held⟩ row stored
  have checked := List.all_eq_true.1 inside move mem
  simpa [insideWindow, acts, held, stored] using checked

def sampleCall : Call := sampleCancel ⟨[], .ok true⟩

def sampleActions : List (SessionAction Call) := whole 0 9 sampleCall ++ whole 1 2 sampleCall

/-- A Run is cancelled once, and the second call with the id answers the same. -/
theorem mutations_exactly_once_sample :
    ∃ moves last first second, Path (mutations sampleSettings) sampleStart moves last ∧
      first ∈ moves ∧ second ∈ moves ∧ Commits first sampleCall (.result (sampleView "CANCELLED")) ∧
      Effect sampleSettings sampleCall (.result (sampleView "CANCELLED"))
        (first.before.committed sampleCall.key) (first.after.committed sampleCall.key) ∧
      Commits second sampleCall (.result (sampleView "CANCELLED")) ∧
      second.after.committed = second.before.committed := by
  obtain ⟨moves, last, first, second, run, inside, split, commits, repeats⟩ :
      ∃ moves last first second,
        replay (appServer sampleSettings).perform sampleStart sampleActions = some (moves, last) ∧
        moves.all insideWindow = true ∧
        moves = (moves.take 10 ++ first :: (moves.drop 11).take 3) ++ second :: [] ∧
        Commits first sampleCall (.result (sampleView "CANCELLED")) ∧
        Commits second sampleCall (.result (sampleView "CANCELLED")) :=
    ⟨_, _, _, _, rfl, rfl, rfl, ⟨0, _, rfl, rfl⟩, ⟨1, _, rfl, rfl⟩⟩
  have path : Path (mutations sampleSettings) sampleStart moves last := Path.of_replay run
  obtain ⟨once, -, -, effects⟩ := mutations_exactly_once sampleSettings path
    ⟨fun _ => ⟨rfl, rfl⟩, rfl⟩ (unexpired_of_inside inside)
  have firstIn : first ∈ moves := split ▸ by simp
  have secondIn : second ∈ moves := split ▸ by simp
  refine ⟨moves, last, first, second, path, firstIn, secondIn, commits, ?_, repeats, ?_⟩
  · exact (effects first firstIn sampleCall _ commits).1
  exact (once _ first _ second _ split sampleCall _ sampleCall _ commits repeats rfl).1

/-- The second call of this run is delivered after the caller lost the access to the Run: it
is not answered what was recorded.  A cancellation whose projection raises is recorded as an
error, and the Run stays cancelled. -/
theorem recorded_result_withdrawn : (∃ moves last first second,
      Path (mutations sampleSettings) sampleStart moves last ∧
        moves = (moves.take 10 ++ first :: (moves.drop 11).take 3) ++ second :: [] ∧
        Commits first sampleCall (.result (sampleView "CANCELLED")) ∧
        Commits second sampleCall (.result (sampleView "CANCELLED")) ∧
        deliver ⟨false, .ok true⟩ .runCancel (.result (sampleView "CANCELLED"))
          = .refused (notFoundError "Run")) ∧
    ∃ moves last move, Path (mutations sampleSettings) sampleStart moves last ∧ move ∈ moves ∧
        Commits move (sampleCancel ⟨[], .error unknownPrincipal⟩)
          (.error (domainError sampleSettings unknownPrincipal (sampleId 3))) ∧
        Write.putRun (cancelledRun sampleRun 0) ∈ (last.committed sampleCall.key).effects := by
  constructor
  · obtain ⟨moves, last, first, second, run, split, commits, repeats⟩ : ∃ moves last first second,
          replay (appServer sampleSettings).perform sampleStart sampleActions = some (moves, last) ∧
          moves = (moves.take 10 ++ first :: (moves.drop 11).take 3) ++ second :: [] ∧
          Commits first sampleCall (.result (sampleView "CANCELLED")) ∧
          Commits second sampleCall (.result (sampleView "CANCELLED")) :=
      ⟨_, _, _, _, rfl, rfl, ⟨0, _, rfl, rfl⟩, ⟨1, _, rfl, rfl⟩⟩
    exact ⟨moves, last, first, second, Path.of_replay run, split, commits, repeats, rfl⟩
  · obtain ⟨moves, last, move, run, split, commits, cancelled⟩ : ∃ moves last move,
          replay (appServer sampleSettings).perform sampleStart
            (whole 0 9 (sampleCancel ⟨[], .error unknownPrincipal⟩)) = some (moves, last) ∧
          moves = moves.take 10 ++ [move] ∧
          Commits move (sampleCancel ⟨[], .error unknownPrincipal⟩)
            (.error (domainError sampleSettings unknownPrincipal (sampleId 3))) ∧
          (last.committed sampleCall.key).effects[1]? = some (.putRun (cancelledRun sampleRun 0)) :=
      ⟨_, _, _, rfl, rfl, ⟨0, _, rfl, rfl⟩, rfl⟩
    exact ⟨moves, last, move, Path.of_replay run, split ▸ by simp, commits,
      List.mem_of_getElem? cancelled⟩

end Obsion.AppServer
