import Obsion.Actions.Once

/-! # Who decides

An approval records as its requester the creator of the action.  `decide` compares the
person who decides with that column, not with the caller whose request created the
approval. -/

namespace Obsion.Actions

open Obsion.Lib

section
variable {digest : PlanSpec → String} {world world' : World} {action : Action} {rows rows' : Rows}

def inserted (move : Move World Action) (approvalId : Uuid) : Bool :=
  (move.after.rows.bind fun rows => rows.approvals.get? approvalId).isSome &&
    (move.before.rows.bind fun rows => rows.approvals.get? approvalId).isNone

def requested (move : Move World Action) : Option (Uuid × Principal) :=
  match move.action with
  | .preflight principal _ _ approvalId _ _ | .requestRollback principal _ approvalId _ _ =>
    if inserted move approvalId then some (approvalId, principal) else none
  | _ => none

def approved (move : Move World Action) : Option (Uuid × Principal) :=
  match move.action with
  | .decide_ principal _ approvalId true _ => some (approvalId, principal)
  | _ => none

def creates (move : Move World Action) : Option Principal :=
  match move.action, move.before.rows with
  | .create _ principal _ _, none => some principal
  | _, _ => none

/-- Who grants an approval has neither requested it nor created the action. -/
def Independent (moves : List (Move World Action)) : Prop :=
  ∀ earlier move later approvalId approver, moves = earlier ++ move :: later →
    approved move = some (approvalId, approver) →
    (∀ call ∈ earlier, ∀ caller, requested call = some (approvalId, caller) →
      caller.id ≠ approver.id) ∧
    ∀ first ∈ earlier, ∀ creator, creates first = some creator → creator.id ≠ approver.id

/-- The plan is sealed, or the rollback requested, by the creator of the action. -/
def AskedByCreator (move : Move World Action) : Prop :=
  ∀ rows, move.before.rows = some rows → match move.action with
    | .preflight principal _ resolved _ _ _ =>
      ∀ spec, planSpec resolved rows.request = .ok spec → principal.id = rows.request.requestedBy
    | .requestRollback principal _ _ _ _ => principal.id = rows.request.requestedBy
    | _ => True

lemma not_inserted {before after : Rows} {approvalId : Uuid} (present : world.rows = some before)
    (eq : after.approvals = before.approvals) :
    ¬ inserted ⟨world, action, { world with rows := some after }⟩ approvalId = true := by
  simp only [inserted, present, Option.bind_some, eq]
  cases before.approvals.get? approvalId <;> exact Bool.false_ne_true

lemma requested_creator (run : perform digest world action = some world')
    (asked : AskedByCreator ⟨world, action, world'⟩) {approvalId : Uuid} {caller : Principal}
    (call : requested ⟨world, action, world'⟩ = some (approvalId, caller)) :
    ∃ rows, world.rows = some rows ∧ caller.id = rows.request.requestedBy := by
  unfold requested at call
  split at call
  · next principal access resolved wanted reason ttlMinutes byPreflight =>
    split at call
    · next fresh =>
      cases call
      cases byPreflight
      obtain ⟨_, rows, rows', before, ok, rfl⟩ := commit_some run
      refine ⟨rows, before, ?_⟩
      obtain ⟨_, _, ⟨failure, rfl⟩ | ⟨spec, approvals, valid, _⟩⟩ := preflight_ok ok
      · exact absurd fresh (not_inserted before rfl)
      exact asked rows before spec valid
    · cases call
  · next principal access wanted reason ttlMinutes byRequest =>
    split at call
    · cases call
      cases byRequest
      obtain ⟨_, rows, rows', before, _, rfl⟩ := commit_some run
      exact ⟨rows, before, asked rows before⟩
    · cases call
  · cases call

lemma write_requestedBy (write : Write digest world action rows rows')
    (recorded : ∀ approval ∈ rows.approvals, approval.requestedBy = rows.request.requestedBy) :
    ∀ approval ∈ rows'.approvals, approval.requestedBy = rows'.request.requestedBy := by
  rw [(write_same write).requestedBy]
  have replaced : ∀ {former next : ActionApproval}, former ∈ rows.approvals →
      next.requestedBy = former.requestedBy → ∀ approval ∈ rows.approvals.put next,
      approval.requestedBy = rows.request.requestedBy := by
    intro former next formerIn eq approval mem
    rcases Table.mem_put.1 mem with rfl | ⟨old, _⟩
    · exact eq.trans (recorded former formerIn)
    exact recorded approval old
  have grown : ∀ {now : Time} {id : Uuid} {purpose : Purpose} {reason : String} {ttlMinutes : Nat}
      {planChecksum : String} {approvals : Table ActionApproval.id},
      Inserted now rows id purpose reason ttlMinutes planChecksum approvals →
      ∀ approval ∈ approvals, approval.requestedBy = rows.request.requestedBy := by
    intro now id purpose reason ttlMinutes planChecksum approvals new approval mem
    rw [Table.mem_iff, (Table.insert?_spec new.run).2, List.mem_append, List.mem_singleton] at mem
    rcases mem with old | rfl
    · exact recorded approval old
    rfl
  cases write with
  | «sealed» principal access resolved approvalId reason ttlMinutes spec approvals byPreflight
      unsealed openStatus inserted => exact grown inserted
  | requested principal access approvalId reason ttlMinutes planChecksum approvals byRequest plan
      rollbackable inserted => exact grown inserted
  | decided principal access approvalId approve reason approval byDecision decides =>
    exact replaced (Table.get?_eq_some.1 decides.stored).1 rfl
  | expired approvalId approval stored pending =>
    exact replaced (Table.get?_eq_some.1 stored).1 rfl
  | cancelled byCancel cancellable =>
    intro approval
      (mem : approval ∈ rows.approvals.update (withdrawn world.now) (id_withdrawn world.now))
    obtain ⟨former, formerIn, rfl⟩ := Table.mem_update.1 mem
    have kept : (withdrawn world.now former).requestedBy = former.requestedBy := by
      unfold withdrawn
      split <;> rfl
    exact kept.trans (recorded former formerIn)
  | settled token job call checkedAt outcome found phase => cases outcome <;> exact recorded
  | _ => exact recorded

lemma create_requestedBy {id : Uuid} {principal : Principal} {access : Except ObsionError Unit}
    {request : CreateActionRequest} (run : create id principal access request = .ok rows) :
    rows.request.requestedBy = principal.id ∧ rows.approvals = .empty := by
  obtain ⟨_, _, run⟩ := of_bind_ok run
  obtain ⟨_, _, run⟩ := of_bind_ok run
  simp only at run
  split at run
  · cases run
  cases run
  exact ⟨rfl, rfl⟩

/-- The rows and the moves agree on who created the action. -/
structure Attributed (moves : List (Move World Action)) (world : World) : Prop where
  recorded : ∀ rows, world.rows = some rows → ∀ approval ∈ rows.approvals,
    approval.requestedBy = rows.request.requestedBy
  /-- No move changes the creator of the row it found. -/
  lasting : ∀ move ∈ moves, ∀ former, move.before.rows = some former →
    ∃ rows, world.rows = some rows ∧ rows.request.requestedBy = former.request.requestedBy
  creator : ∀ move ∈ moves, ∀ creator, creates move = some creator →
    ∃ rows, world.rows = some rows ∧ rows.request.requestedBy = creator.id

lemma creates_some {move : Move World Action} {creator : Principal}
    (created : creates move = some creator) :
    move.before.rows = none ∧ ∃ id access request, move.action = .create id creator access request := by
  unfold creates at created
  split at created
  · next id principal access request byCreate absent =>
    cases created
    exact ⟨absent, id, access, request, byCreate⟩
  · cases created

lemma attributed_step {moves : List (Move World Action)} (attributed : Attributed moves world)
    (run : perform digest world action = some world') :
    Attributed (moves ++ [⟨world, action, world'⟩]) world' := by
  -- a row that was there has the same creator afterwards
  have kept : ∀ rows, world.rows = some rows → ∃ rows', world'.rows = some rows' ∧
      rows'.request.requestedBy = rows.request.requestedBy := by
    intro rows present
    cases perform_change run with
    | kept eq => exact ⟨rows, eq.trans present, rfl⟩
    | created id principal access request created absent run after =>
      rw [absent] at present
      cases present
    | wrote stored rows' before after write =>
      have equal := Option.some.inj (before.symm.trans present)
      subst equal
      exact ⟨rows', after, (write_same write).requestedBy⟩
  refine ⟨?_, ?_, ?_⟩
  · intro stored present
    cases perform_change run with
    | kept eq => exact attributed.recorded stored (eq ▸ present)
    | created id principal access request rows absent run after =>
      have equal := Option.some.inj (after.symm.trans present)
      subst equal
      rw [(create_requestedBy run).2]
      exact fun approval mem => absurd mem (Table.notMem_empty _)
    | wrote rows rows' before after write =>
      have equal := Option.some.inj (after.symm.trans present)
      subst equal
      exact write_requestedBy write (attributed.recorded rows before)
  · intro move mem former found
    rw [List.mem_append, List.mem_singleton] at mem
    rcases mem with old | rfl
    · obtain ⟨rows, present, eq⟩ := attributed.lasting move old former found
      obtain ⟨rows', after, eq'⟩ := kept rows present
      exact ⟨rows', after, eq'.trans eq⟩
    · exact kept former found
  · intro move mem creator created
    rw [List.mem_append, List.mem_singleton] at mem
    rcases mem with old | rfl
    · obtain ⟨rows, present, eq⟩ := attributed.creator move old creator created
      obtain ⟨rows', after, eq'⟩ := kept rows present
      exact ⟨rows', after, eq'.trans eq⟩
    · obtain ⟨absent, id, access, request, byCreate⟩ := creates_some created
      subst byCreate
      simp only [perform, show world.rows = none from absent, Option.isSome_none,
        Bool.false_eq_true, if_false] at run
      obtain ⟨rows, made, rfl⟩ := Option.map_eq_some_iff.1 run
      exact ⟨rows, rfl, (create_requestedBy (ok_of_toOption made)).1⟩

end

section
variable {digest : PlanSpec → String} {start world : World} {moves : List (Move World Action)}

lemma attributed_run (blank : Blank start) (path : Path (lifecycle digest) start moves world) :
    Attributed moves world := by
  refine path.tracked (fun _ _ _ _ attributed step => attributed_step attributed step) ?_
  refine ⟨fun rows present => ?_, fun _ mem => absurd mem List.not_mem_nil,
    fun _ mem => absurd mem List.not_mem_nil⟩
  rw [blank.1] at present
  cases present

lemma approved_by_other {move : Move World Action} {approvalId : Uuid} {approver : Principal}
    (attributed : Attributed moves move.before)
    (run : perform digest move.before move.action = some move.after)
    (granted : approved move = some (approvalId, approver)) :
    ∃ rows, move.before.rows = some rows ∧ rows.request.requestedBy ≠ approver.id := by
  unfold approved at granted
  split at granted
  · next principal access wanted reason byDecision =>
    cases granted
    rw [byDecision] at run
    obtain ⟨_, rows, _, before, ok, _⟩ := commit_some run
    obtain ⟨approval, decides, _⟩ := decideApproval_ok ok
    obtain ⟨mem, _⟩ := Table.get?_eq_some.1 decides.stored
    refine ⟨rows, before, ?_⟩
    rw [← attributed.recorded rows before approval mem]
    exact decides.independent
  · cases granted

/-- In every run whose approvals are requested by the creator, those who request and those
who grant are different. -/
theorem separation_of_duties (blank : Blank start)
    (path : Path (lifecycle digest) start moves world)
    (asked : ∀ move ∈ moves, AskedByCreator move) : Independent moves := by
  rintro earlier move later approvalId approver rfl granted
  obtain ⟨first, step, _⟩ := path.split_move
  have attributed := attributed_run blank first
  obtain ⟨rows, before, other⟩ := approved_by_other attributed step granted
  constructor
  · intro call member caller requests
    have callIn : call ∈ earlier ++ move :: later := List.mem_append_left _ member
    obtain ⟨former, found, same⟩ :=
      requested_creator (path.step_of_mem callIn) (asked call callIn) requests
    obtain ⟨rows', present, lasting⟩ := attributed.lasting call member former found
    have equal := Option.some.inj (before.symm.trans present)
    subst equal
    rw [same, ← lasting]
    exact other
  · intro creation member creator created
    obtain ⟨rows', present, same⟩ := attributed.creator creation member creator created
    have equal := Option.some.inj (before.symm.trans present)
    subst equal
    rw [← same]
    exact other

end

theorem separation_of_duties_ticket : ∃ moves world,
    Path (lifecycle sampleDigest) sampleStart moves world ∧ (∃ move ∈ moves, approved move ≠ none) ∧
    Independent moves := by
  obtain ⟨moves, world, move, granted, replayed, decision, known⟩ :
      ∃ (moves : List (Move World Action)) (world : World) (move : Move World Action)
        (granted : Uuid × Principal),
        replay (perform sampleDigest) sampleStart sampleApproved = some (moves, world) ∧
        (moves[2]? = some move ∧ approved move = some granted) ∧
        ∀ move ∈ moves, AskedByCreator move := by
    refine ⟨_, _, _, _, rfl, ⟨rfl, rfl⟩, ?_⟩
    intro move member rows present
    simp only [List.mem_cons, List.not_mem_nil, or_false] at member
    rcases member with rfl | rfl | rfl | rfl
    · cases present
    · cases present
      exact fun _ _ => rfl
    · trivial
    · trivial
  have path : Path (lifecycle sampleDigest) sampleStart moves world := Path.of_replay replayed
  refine ⟨moves, world, path, ⟨move, List.mem_of_getElem? decision.1, ?_⟩,
    separation_of_duties ⟨rfl, rfl, rfl⟩ path known⟩
  rw [decision.2]
  exact Option.some_ne_none _

/-- A colleague seals the plan of another person's action and grants the approval. -/
def sampleColleague : Principal :=
  ⟨sampleId 5, sampleOrganization, ["action.request", "action.approve"]⟩

def sampleSelfApproved : List Action :=
  [.create (sampleId 3) sampleCreator (.ok ()) sampleRequest,
    .preflight sampleColleague (.ok ()) (.ok (sampleReference, sampleReference)) (sampleId 4)
      "please" 5,
    .decide_ sampleColleague (.ok ()) (sampleId 4) true "fine"]

theorem caller_approves : ∃ moves world, Path (lifecycle sampleDigest) sampleStart moves world ∧
    ¬ Independent moves := by
  obtain ⟨moves, world, first, call, decision, replayed, all, requests, granted⟩ :
      ∃ (moves : List (Move World Action)) (world : World) (first call decision : Move World Action),
        replay (perform sampleDigest) sampleStart sampleSelfApproved = some (moves, world) ∧
        moves = [first, call, decision] ∧
        requested call = some (sampleId 4, sampleColleague) ∧
        approved decision = some (sampleId 4, sampleColleague) :=
    ⟨_, _, _, _, _, rfl, rfl, rfl, rfl⟩
  refine ⟨moves, world, Path.of_replay replayed, fun independent => ?_⟩
  have apart := (independent [first, call] decision [] _ _ all granted).1 call
    (List.mem_cons_of_mem _ List.mem_cons_self) sampleColleague requests
  exact apart rfl

end Obsion.Actions
