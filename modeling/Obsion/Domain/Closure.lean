import Obsion.Domain.Clarification
import Obsion.Lib.Transition

/-! # The states of a clarification

What the operations reach satisfies the validators again, though two of them return copies that no
model validates. -/

namespace Obsion.Domain

/-- The state of clarifications, as its validator leaves it. -/
structure ActiveShape (state : ClarificationState) : Prop where
  ids : (state.requests.map ClarificationRequest.id).Nodup
  rounds : state.requests.map ClarificationRequest.round
    = (List.range state.requests.length).map fun index => (index + 1 : Int)
  /-- Nothing is open, or the last request is, after requests that are answered. -/
  active : (state.activeId = none ∧ state.remainingExecutionSeconds = none ∧
        ∀ request ∈ state.requests, request.status ≠ .open_) ∨
      ∃ earlier last, state.requests = earlier ++ [last] ∧ last.status = .open_ ∧
        (∀ request ∈ earlier, request.status = .answered) ∧ state.activeId = some last.id ∧
        state.remainingExecutionSeconds.isSome

lemma eq_of_key {α β : Type} {key : α → β} {items : List α} (distinct : (items.map key).Nodup)
    {left right : α} (leftIn : left ∈ items) (rightIn : right ∈ items) (eq : key left = key right) :
    left = right :=
  List.inj_on_of_nodup_map distinct leftIn rightIn eq

variable {state : ClarificationState} {request active : ClarificationRequest}
  {intent after : RunIntent} {answeredBy : String} {answeredAt : Time}

lemma activeShape_of_valid (valid : state.activeValid = true) : ActiveShape state := by
  unfold ClarificationState.activeValid at valid
  simp only [Bool.and_eq_true, decide_eq_true_eq] at valid
  obtain ⟨⟨⟨ids, rounds⟩, few⟩, rest⟩ := valid
  refine ⟨ids, rounds, ?_⟩
  cases found : state.openRequests with
  | nil =>
    rw [found] at rest
    simp only [Bool.and_eq_true, Option.isNone_iff_eq_none] at rest
    refine .inl ⟨rest.1, rest.2, fun request inside opened => ?_⟩
    have listed : request ∈ state.openRequests := List.mem_filter.2 ⟨inside, decide_eq_true opened⟩
    rw [found] at listed
    exact List.not_mem_nil listed
  | cons first more =>
    rw [found] at rest few
    simp only [Bool.and_eq_true, decide_eq_true_eq, List.all_eq_true] at rest
    obtain ⟨⟨⟨named, ends⟩, remaining⟩, answered⟩ := rest
    have listed : first ∈ state.requests ∧ first.status = .open_ := by
      have mem : first ∈ state.openRequests := found ▸ List.mem_cons_self
      have both := List.mem_filter.1 mem
      exact ⟨both.1, of_decide_eq_true both.2⟩
    rw [named, Option.map_eq_some_iff] at ends
    obtain ⟨last, isLast, sameId⟩ := ends
    obtain ⟨earlier, split⟩ := List.getLast?_eq_some_iff.1 isLast
    have eq : last = first :=
      eq_of_key ids (List.mem_of_getLast? isLast) listed.1 sameId
    subst eq
    refine .inr ⟨earlier, last, split, listed.2, ?_, named, remaining⟩
    rw [split, List.dropLast_concat] at answered
    exact answered

lemma ActiveShape.activeRequest (shape : ActiveShape state) :
    (state.activeRequest = none ∧ ∀ request ∈ state.requests, request.status ≠ .open_) ∨
      ∃ earlier last, state.requests = earlier ++ [last] ∧ last.status = .open_ ∧
        (∀ request ∈ earlier, request.status = .answered) ∧ state.activeRequest = some last ∧
        state.activeId = some last.id := by
  rcases shape.active with ⟨named, -, closed⟩ | ⟨earlier, last, split, opened, answered, named, -⟩
  · refine .inl ⟨?_, closed⟩
    rw [ClarificationState.activeRequest, named]
  refine .inr ⟨earlier, last, split, opened, answered, ?_, named⟩
  rw [ClarificationState.activeRequest, named]
  have ids := shape.ids
  have mem : last ∈ state.requests := split ▸ List.mem_append_right _ List.mem_cons_self
  cases found : state.requests.find? fun item => item.id = last.id with
  | none =>
    have absent := List.find?_eq_none.1 found last mem
    exact absurd (decide_eq_true rfl) absent
  | some item =>
    have eq := List.find?_some found
    exact found.trans
      (congrArg some (eq_of_key ids (List.mem_of_find?_eq_some found) mem (of_decide_eq_true eq)))

lemma ActiveShape.open_iff (shape : ActiveShape state) (inside : request ∈ state.requests) :
    request.status = .open_ ↔ state.activeRequest = some request := by
  rcases shape.activeRequest with ⟨none_, closed⟩ | ⟨earlier, last, split, opened, answered, some_, -⟩
  · rw [none_]
    exact iff_of_false (closed request inside) nofun
  rw [some_]
  rw [split] at inside
  rcases List.mem_append.1 inside with before | final
  · have closed := answered request before
    refine iff_of_false (fun opens => ?_) fun eq => ?_
    · rw [closed] at opens
      cases opens
    rw [Option.some.inj eq, closed] at opened
    cases opened
  · cases List.mem_singleton.1 final
    exact iff_of_true opened rfl

lemma mem_of_activeRequest (found : state.activeRequest = some active) : active ∈ state.requests := by
  unfold ClarificationState.activeRequest at found
  split at found
  · cases found
  exact List.mem_of_find?_eq_some found

/-- The validators hold of the intent, its clarifications and each request; and no gap is asked
about twice. -/
structure Sound (lib : Library) (intent : RunIntent) : Prop where
  requests : ∀ request ∈ intent.clarification.requests, request.lifecycle lib = true
  active : intent.clarification.activeValid = true
  state : intent.stateValid = true
  rounds : intent.clarification.requests.length ≤ maxClarificationRounds
  gaps : (intent.clarification.requests.map ClarificationRequest.gapFingerprint).Nodup

variable {lib : Library}

lemma accepted_ok {α : Type} {found : Option α} {value : α} :
    accepted found = .ok value ↔ found = some value := by
  cases found with
  | none => exact iff_of_false nofun nofun
  | some stored => exact ⟨fun eq => congrArg some (Except.ok.inj eq), fun eq =>
    congrArg Except.ok (Option.some.inj eq)⟩

variable {requests : List ClarificationRequest} {raw : RunIntent}
  {question requestId clarificationId : String} {fields : List ClarificationField}
  {requestedAt expiresAt : Time} {remaining : Int} {submission : ClarificationAnswerSubmission}
  {applied : AppliedClarificationAnswer}

lemma make_eq_some {activeId : Option String} {remaining : Option Int}
    (made : ClarificationState.make activeId requests remaining = some state) :
    state = ⟨activeId, requests, remaining⟩ ∧ requests.length ≤ maxClarificationRounds ∧
      state.activeValid = true := by
  unfold ClarificationState.make at made
  dsimp only at made
  split at made
  next checks =>
    cases made
    simp only [Bool.and_eq_true, decide_eq_true_eq] at checks
    exact ⟨rfl, checks.1.1.2, checks.2⟩
  next => cases made

lemma request_validate {validated : ClarificationRequest}
    (valid : request.validate lib = some validated) :
    validated = request.normal lib ∧ validated.lifecycle lib = true := by
  unfold ClarificationRequest.validate at valid
  split at valid
  next checks =>
    cases valid
    rw [Bool.and_eq_true, ClarificationRequest.valid, Bool.and_eq_true] at checks
    exact ⟨rfl, checks.2.2⟩
  next => cases valid

lemma intent_validate (valid : raw.validate lib = some intent) :
    intent = raw.normal lib ∧ (∀ request ∈ intent.clarification.requests, request.lifecycle lib = true) ∧
      intent.clarification.activeValid = true ∧ intent.stateValid = true ∧
      intent.clarification.requests.length ≤ maxClarificationRounds := by
  unfold RunIntent.validate at valid
  split at valid
  next checks =>
    cases valid
    simp only [Bool.and_eq_true, RunIntent.bounded, ClarificationState.bounded, RunIntent.valid,
      ClarificationState.valid, decide_eq_true_eq, List.all_eq_true] at checks
    obtain ⟨⟨-, ⟨⟨⟨-, few⟩, -⟩, -⟩⟩, ⟨-, requests, active⟩, state⟩ := checks
    refine ⟨rfl, fun request inside => ?_, active, state, ?_⟩
    · have valid := requests request inside
      rw [ClarificationRequest.valid, Bool.and_eq_true] at valid
      exact valid.2
    · change (raw.clarification.requests.map _).length ≤ _
      rw [List.length_map]
      exact few
  next => cases valid

lemma sound_of_validate (valid : raw.validate lib = some intent)
    (fresh : intent.clarification.requests = []) : Sound lib intent := by
  obtain ⟨-, requests, active, state, few⟩ := intent_validate valid
  refine ⟨requests, active, state, few, ?_⟩
  rw [fresh]
  exact List.nodup_nil

lemma normal_gap (request : ClarificationRequest) :
    (request.normal lib).gapFingerprint = request.gapFingerprint := by
  rw [ClarificationRequest.normal]

lemma normal_gaps (intent : RunIntent) :
    (intent.normal lib).clarification.requests.map ClarificationRequest.gapFingerprint
      = intent.clarification.requests.map ClarificationRequest.gapFingerprint := by
  rw [RunIntent.normal, ClarificationState.normal, List.map_map]
  exact List.map_congr_left fun request _ => normal_gap request

lemma requestClarification_ok
    (ok : requestClarification lib intent question fields requestedAt expiresAt remaining requestId = .ok after) :
    ∃ request clarification, intent.clarification.activeRequest = none ∧
      (∀ item ∈ intent.clarification.requests, item.gapFingerprint ≠ fingerprintGap lib fields) ∧
      (draftRequest lib intent question fields requestedAt expiresAt requestId).validate lib = some request ∧
      ClarificationState.make (some request.id) (intent.clarification.requests ++ [request]) (some remaining)
        = some clarification ∧ after = { intent with
        preparationStage := .waitingUser, decision := some .clarify
        decisionReason := some "blocking_information_required"
        clarification := clarification } := by
  unfold requestClarification at ok
  split at ok
  · cases ok
  next idle =>
  split at ok
  · cases ok
  split at ok
  · cases ok
  next fresh =>
  obtain ⟨request, validated, ok⟩ := of_bind_ok ok
  obtain ⟨clarification, made, ok⟩ := of_bind_ok ok
  refine ⟨request, clarification, Option.not_isSome_iff_eq_none.1 idle, ?_, accepted_ok.1 validated,
    accepted_ok.1 made, (Except.ok.inj ok).symm⟩
  intro item inside eq
  exact fresh (List.any_eq_true.2 ⟨item, inside, decide_eq_true eq⟩)

lemma Sound.requestClarification (sound : Sound lib intent)
    (ok : requestClarification lib intent question fields requestedAt expiresAt remaining requestId = .ok after) :
    Sound lib after ∧ after.intentRevision = intent.intentRevision := by
  obtain ⟨request, clarification, -, fresh, validated, made, rfl⟩ := requestClarification_ok ok
  obtain ⟨rfl, few, valid⟩ := make_eq_some made
  obtain ⟨rfl, lifecycle⟩ := request_validate validated
  have shape := activeShape_of_valid valid
  refine ⟨⟨?_, valid, ?_, few, ?_⟩, rfl⟩
  · intro item inside
    rcases List.mem_append.1 inside with before | last
    · exact sound.requests item before
    cases List.mem_singleton.1 last
    exact lifecycle
  · have state := sound.state
    simp only [RunIntent.stateValid, Bool.and_eq_true] at state ⊢
    obtain ⟨⟨⟨⟨⟨slots, -⟩, -⟩, -⟩, pinned⟩, named⟩ := state
    have active := (shape.open_iff (List.mem_append_right _ List.mem_cons_self)).1 rfl
    rw [active]
    exact ⟨⟨⟨⟨⟨slots, by simp [draftRequest, ClarificationRequest.normal]⟩, rfl⟩, rfl⟩, pinned⟩, named⟩
  · rw [List.map_append]
    refine List.nodup_append'.2 ⟨sound.gaps, List.nodup_singleton _, ?_⟩
    refine List.disjoint_singleton.2 fun repeated => ?_
    obtain ⟨item, inside, eq⟩ := List.mem_map.1 repeated
    exact fresh item inside eq

lemma replaceRequest_gaps (ids : (requests.map ClarificationRequest.id).Nodup)
    (mem : active ∈ requests) (eq : request.gapFingerprint = active.gapFingerprint) :
    (replaceRequest requests active.id request).map ClarificationRequest.gapFingerprint
      = requests.map ClarificationRequest.gapFingerprint := by
  rw [replaceRequest, List.map_map]
  refine List.map_congr_left fun item inside => ?_
  rw [Function.comp_apply]
  split
  next named => rw [eq, eq_of_key ids inside mem named]
  next => rfl

lemma Sound.closeActiveClarification {status : RequestStatus} {closedAt : Time}
    (sound : Sound lib intent)
    (ok : closeActiveClarification lib intent status closedAt = .ok after) :
    Sound lib after ∧ after.intentRevision = intent.intentRevision := by
  unfold Domain.closeActiveClarification at ok
  split at ok
  · cases ok
    exact ⟨sound, rfl⟩
  next active found =>
  obtain ⟨closed, validated, ok⟩ := of_bind_ok ok
  obtain ⟨clarification, made, ok⟩ := of_bind_ok ok
  obtain rfl := (Except.ok.inj ok).symm
  obtain ⟨rfl, few, valid⟩ := make_eq_some (accepted_ok.1 made)
  obtain ⟨rfl, lifecycle⟩ := request_validate (accepted_ok.1 validated)
  have before := activeShape_of_valid sound.active
  have mem := mem_of_activeRequest found
  refine ⟨⟨?_, valid, ?_, few, ?_⟩, rfl⟩
  · intro item inside
    obtain ⟨old, stored, rfl⟩ := List.mem_map.1 inside
    split
    · exact lifecycle
    exact sound.requests old stored
  · have state := sound.state
    simp only [RunIntent.stateValid, Bool.and_eq_true] at state ⊢
    obtain ⟨⟨⟨⟨⟨slots, -⟩, -⟩, -⟩, pinned⟩, named⟩ := state
    exact ⟨⟨⟨⟨⟨slots, rfl⟩, rfl⟩, rfl⟩, pinned⟩, named⟩
  · change ((replaceRequest _ _ _).map ClarificationRequest.gapFingerprint).Nodup
    rw [replaceRequest_gaps before.ids mem (by rw [normal_gap])]
    exact sound.gaps

lemma applyClarificationAnswer_ok
    (ok : applyClarificationAnswer lib intent submission clarificationId answeredBy answeredAt = .ok applied) :
    ∃ active answers request clarification updated, ∃ resolved : List ResolvedSlot,
      intent.clarification.activeRequest = some active ∧
      answeredRequest lib active answers answeredBy answeredAt = .ok request ∧
      ClarificationState.make none (replaceRequest intent.clarification.requests active.id request) none
        = some clarification ∧ RunIntent.validate lib { intent with
        intentRevision := intent.intentRevision + 1, preparationStage := .contextResolved
        decision := none, decisionReason := none
        resolvedSlots := mergeSlots intent.resolvedSlots resolved
        clarification := clarification } = some updated ∧ applied.intent = updated := by
  unfold applyClarificationAnswer at ok
  split at ok
  · cases ok
  split at ok
  · cases ok
  next active found =>
  split at ok
  · cases ok
  split at ok
  · cases ok
  split at ok
  · cases ok
  obtain ⟨pairs, -, ok⟩ := of_bind_ok ok
  obtain ⟨request, answered, ok⟩ := of_bind_ok ok
  obtain ⟨clarification, made, ok⟩ := of_bind_ok ok
  obtain ⟨updated, validated, ok⟩ := of_bind_ok ok
  cases ok
  exact ⟨active, _, request, clarification, updated, _, found, answered, accepted_ok.1 made,
    accepted_ok.1 validated, rfl⟩

lemma answeredRequest_gap {answers : List StoredClarificationAnswer}
    (ok : answeredRequest lib active answers answeredBy answeredAt = .ok request) :
    request.gapFingerprint = active.gapFingerprint := by
  unfold answeredRequest at ok
  split at ok
  · cases ok
  rw [(request_validate (accepted_ok.1 ok)).1, normal_gap]

lemma normal_intentRevision (intent : RunIntent) :
    (intent.normal lib).intentRevision = intent.intentRevision := rfl

lemma Sound.applyClarificationAnswer (sound : Sound lib intent)
    (ok : applyClarificationAnswer lib intent submission clarificationId answeredBy answeredAt = .ok applied) :
    Sound lib applied.intent ∧ applied.intent.intentRevision = intent.intentRevision + 1 := by
  obtain ⟨active, answers, request, clarification, updated, resolved, found, answered, made, validated, rfl⟩ :=
    applyClarificationAnswer_ok ok
  obtain ⟨eq, requests, valid, state, few⟩ := intent_validate validated
  obtain ⟨rfl, -, -⟩ := make_eq_some made
  refine ⟨⟨requests, valid, state, few, ?_⟩, ?_⟩
  · rw [eq, normal_gaps]
    dsimp only
    rw [replaceRequest_gaps (activeShape_of_valid sound.active).ids (mem_of_activeRequest found)
      (answeredRequest_gap answered)]
    exact sound.gaps
  · rw [eq, normal_intentRevision]

/-! ## Runs -/

inductive ClarificationCall
  | ask (question : String) (fields : List ClarificationField) (requestedAt expiresAt : Time)
      (remaining : Int) (requestId : String)
  | answer (submission : ClarificationAnswerSubmission) (clarificationId answeredBy : String)
      (answeredAt : Time)
  | close (status : RequestStatus) (closedAt : Time)

def ClarificationCall.run (lib : Library) (intent : RunIntent) :
    ClarificationCall → Except ClarificationError RunIntent
  | .ask question fields requestedAt expiresAt remaining requestId =>
    requestClarification lib intent question fields requestedAt expiresAt remaining requestId
  | .answer submission clarificationId answeredBy answeredAt =>
    (applyClarificationAnswer lib intent submission clarificationId answeredBy answeredAt).map
      AppliedClarificationAnswer.intent
  | .close status closedAt => closeActiveClarification lib intent status closedAt

def ClarificationCall.isAnswer : ClarificationCall → Bool
  | .answer .. => true
  | .ask .. | .close .. => false

/-- From a validated intent without requests, any sequence of calls that succeed. -/
def clarificationSystem (lib : Library) : Lib.System RunIntent ClarificationCall where
  init := fun intent => (∃ raw : RunIntent, raw.validate lib = some intent) ∧
    intent.clarification.requests = []
  step := fun before call after => call.run lib before = .ok after

lemma Sound.step {before : RunIntent} {call : ClarificationCall} (sound : Sound lib before)
    (ran : call.run lib before = .ok after) : Sound lib after ∧
      after.intentRevision = before.intentRevision + if call.isAnswer then 1 else 0 := by
  cases call with
  | ask question fields requestedAt expiresAt remaining requestId =>
    obtain ⟨kept, eq⟩ := sound.requestClarification ran
    exact ⟨kept, eq.trans (Int.add_zero _).symm⟩
  | answer submission clarificationId answeredBy answeredAt =>
    obtain ⟨applied, ok, rfl⟩ := of_map_ok ran
    exact sound.applyClarificationAnswer ok
  | close status closedAt =>
    obtain ⟨kept, eq⟩ := sound.closeActiveClarification ran
    exact ⟨kept, eq.trans (Int.add_zero _).symm⟩

lemma sound_of_reachable (reached : Lib.Reachable (clarificationSystem lib) intent) :
    Sound lib intent :=
  reached.holds (fun _ ⟨⟨_, valid⟩, fresh⟩ => sound_of_validate valid fresh)
    fun _ _ _ sound ran => (sound.step ran).1

/-- What the validators come to: the rounds are numbered, at most the last request is open and is
the active one, and the intent waits exactly while a request for its revision is open. -/
structure WellFormed (lib : Library) (intent : RunIntent) : Prop where
  sound : Sound lib intent
  numbered : intent.clarification.requests.map ClarificationRequest.round
    = (List.range intent.clarification.requests.length).map fun index => (index + 1 : Int)
  opens : ∀ request ∈ intent.clarification.requests, request.status = .open_ →
    intent.clarification.requests.getLast? = some request ∧
      intent.clarification.activeId = some request.id
  single : (intent.clarification.requests.filter fun item => item.status = .open_).length ≤ 1
  waits : intent.preparationStage = .waitingUser ↔ ∃ request ∈ intent.clarification.requests,
    request.status = .open_ ∧ request.intentRevision = intent.intentRevision

lemma Sound.wellFormed (sound : Sound lib intent) : WellFormed lib intent := by
  have shape := activeShape_of_valid sound.active
  have only : ∀ request ∈ intent.clarification.requests, request.status = .open_ →
      intent.clarification.activeRequest = some request := fun request inside =>
    (shape.open_iff inside).1
  have state := sound.state
  simp only [RunIntent.stateValid, Bool.and_eq_true] at state
  obtain ⟨⟨⟨⟨⟨-, waiting⟩, -⟩, -⟩, -⟩, -⟩ := state
  refine ⟨sound, shape.rounds, fun request inside opened => ?_, ?_, ?_, ?_⟩
  · rcases shape.activeRequest with ⟨none_, -⟩ | ⟨earlier, last, split, -, -, some_, named⟩
    · rw [only request inside opened] at none_
      cases none_
    rw [only request inside opened] at some_
    cases some_
    exact ⟨by rw [split, List.getLast?_concat], named⟩
  · have valid := sound.active
    simp only [ClarificationState.activeValid, Bool.and_eq_true, decide_eq_true_eq] at valid
    exact valid.1.2
  · cases found : intent.clarification.activeRequest with
    | none =>
      rw [found] at waiting
      intro waits
      rw [waits] at waiting
      cases waiting
    | some active =>
      rw [found] at waiting
      simp only [Bool.and_eq_true, decide_eq_true_eq] at waiting
      have mem := mem_of_activeRequest found
      exact fun _ => ⟨active, mem, (shape.open_iff mem).2 found, waiting.2⟩
  · rintro ⟨request, inside, opened, -⟩
    rw [only request inside opened] at waiting
    simp only [Bool.and_eq_true, decide_eq_true_eq] at waiting
    exact waiting.1.1

/-- Whatever is asked, answered and closed, each intent on the way is well formed, and its revision
counts the answers. -/
theorem clarification_closed (lib : Library) :
    (∀ intent, Lib.Reachable (clarificationSystem lib) intent → WellFormed lib intent) ∧
      ∀ (before : RunIntent) (call : ClarificationCall) (after : RunIntent), Lib.Reachable (clarificationSystem lib) before →
        call.run lib before = .ok after →
        after.intentRevision = before.intentRevision + if call.isAnswer then 1 else 0 :=
  ⟨fun _ reached => (sound_of_reachable reached).wellFormed,
    fun _ _ _ reached ran => ((sound_of_reachable reached).step ran).2⟩

def sampleLibrary : Library where
  nfkc := id
  upper := upper
  isAlnum := Char.isAlphanum
  word := fun char => char.isAlphanum || char = '_'
  instant? := fun _ => none
  isoformat := fun _ => ""
  sha256 := fun text => toString text.length

def sampleIntent : RunIntent where
  intentRevision := 1
  preparationStage := .contextResolved
  admissionIntent := none
  domain := "data"
  route := "DATA"
  intent := "query"
  question := "How many orders?"
  metrics := []
  dimensions := []
  timeRange := []
  comparison := none
  needData := true
  needRootCause := false
  risk := "L1"
  agent := none
  skill := none
  skillVersion := none
  skillChecksumSha256 := none
  decision := none
  decisionReason := none
  resolvedSlots := []
  taskContract := none
  clarification := ⟨none, [], none⟩

lemma sampleIntent_valid : sampleIntent.validate sampleLibrary = some sampleIntent := by
  have accepts : (sampleIntent.bounded sampleLibrary && (sampleIntent.normal sampleLibrary).valid sampleLibrary)
      = true := by decide +kernel
  have eq : sampleIntent.normal sampleLibrary = sampleIntent := by
    rw [RunIntent.normal]
    have texts : normalText sampleLibrary sampleIntent.question = sampleIntent.question := by decide +kernel
    have names : [sampleIntent.domain, sampleIntent.route, sampleIntent.intent, sampleIntent.risk].map
        (identifier sampleLibrary) = [sampleIntent.domain, sampleIntent.route, sampleIntent.intent,
          sampleIntent.risk] := by decide +kernel
    simp only [List.map_cons, List.cons.injEq] at names
    rw [texts, names.1, names.2.1, names.2.2.1, names.2.2.2.1]
    rfl
  rw [RunIntent.validate, if_pos accepts, eq]

/-- Closing where nothing is open. -/
theorem clarification_closed_sample : WellFormed sampleLibrary sampleIntent ∧
    ∀ after, (ClarificationCall.close .expired 0).run sampleLibrary sampleIntent = .ok after →
      after.intentRevision = 1 := by
  obtain ⟨closed, revisions⟩ := clarification_closed sampleLibrary
  have start : (clarificationSystem sampleLibrary).init sampleIntent := ⟨⟨_, sampleIntent_valid⟩, rfl⟩
  have reached : Lib.Reachable (clarificationSystem sampleLibrary) sampleIntent := ⟨_, _, start, .nil _⟩
  exact ⟨closed _ reached, fun after ran => revisions _ _ _ reached ran⟩

end Obsion.Domain
