import Obsion.AppServer.Connection

/-! # What a frame is owed

The one message that answers a frame, the frames whose answer can be sent, and what the
parser and the coroutines of the connection do. -/

namespace Obsion.AppServer.Frames

open Obsion.Wide Obsion.Lib
open Obsion.Harness (RunStatus)

/-! ## What a frame is owed -/

structure Framed (body : Members) (method : Text) (params : Members) : Prop where
  version : get? body "jsonrpc" = some (.str (text "2.0"))
  calls : get? body "method" = some (.str method)
  named : method ≠ []
  short : method.length ≤ 120
  takes : get? body "params" = some (.obj params) ∨ get? body "params" = none ∧ params = []

structure WellFormed (body : Members) (method : Text) (params : Members) : Prop where
  framed : Framed body method params
  known : ∀ field ∈ body, field.1 ∈ allowed

def IsNotification (depth : Nat) (raw : List Char) : Prop :=
  ∃ body method params, loads depth raw = .ok (.obj body) ∧ get? body "id" = none ∧
    WellFormed body method params

def IsRequest (depth : Nat) (raw : List Char) (id : RequestId) (method : Text) (params : Members) : Prop :=
  ∃ body, loads depth raw = .ok (.obj body) ∧ get? body "id" = some id.value ∧ WellFormed body method params

def answerId (depth : Nat) (raw : List Char) : Value :=
  match loads depth raw with
  | .ok (.obj body) =>
    match get? body "id" with
    | some (.str value) => .str value
    | some (.int value) => .int value
    | _ => .null
  | _ => .null

def connectionMethods : List Text :=
  ["server.initialize", "server.ping", "run.subscribe", "run.unsubscribe"].map text

inductive Performs (host : Host) (arrival : Arrival) (subscriptions : List RunSubscription)
    (method : Text) (params : Members) : Value → Prop
  | ping (named : method = text "server.ping") (valid : host.emptyParams params = .ok ()) :
      Performs host arrival subscriptions method params
        (.obj (members [("server_time", str arrival.serverTime)]))
  | subscribe {wanted : RunSubscribeParams} {status : RunStatus} (named : method = text "run.subscribe")
      (valid : host.runSubscribeParams params = .ok wanted)
      (room : subscriptions.length < host.maxSubscriptions)
      (found : arrival.application.runStatus wanted.runId = .ok status) :
      Performs host arrival subscriptions method params
        (.obj (members (subscriptionResult ⟨arrival.subscriptionId, wanted.runId, wanted.afterSequence⟩ ++
          [("run_status", str status.str)])))
  | unsubscribe {subscriptionId : String} {subscription : RunSubscription}
      (named : method = text "run.unsubscribe")
      (valid : host.runUnsubscribeParams params = .ok subscriptionId)
      (found : subscriptions.find? (fun other => other.id.str = subscriptionId) = some subscription) :
      Performs host arrival subscriptions method params (.obj (members (subscriptionResult subscription)))
  | dispatched {result : Value} (forwarded : method ∉ connectionMethods)
      (done : invoke host arrival.application method params = .ok result) :
      Performs host arrival subscriptions method params result

/-- The frame is a request that has this result, and the result can be sent. -/
def Succeeds (host : Host) (arrival : Arrival) (subscriptions : List RunSubscription) (result : Value) :
    Prop :=
  ∃ id method params, IsRequest host.loadsDepth arrival.raw id method params ∧
    Performs host arrival subscriptions method params result ∧
    writes host.dumpsDepth (successResponse id result) = true

structure Answers (host : Host) (arrival : Arrival) (subscriptions : List RunSubscription)
    (body : Value) : Prop where
  notification : IsNotification host.loadsDepth arrival.raw →
    ∃ method params, body = notification method params
  response : ¬ IsNotification host.loadsDepth arrival.raw →
    (∃ result, Succeeds host arrival subscriptions result ∧
      body = .obj (members [("jsonrpc", str "2.0"), ("id", answerId host.loadsDepth arrival.raw),
        ("result", result)])) ∨
    ((¬ ∃ result, Succeeds host arrival subscriptions result) ∧
      ∃ error, body = errorMessage (answerId host.loadsDepth arrival.raw) error)

def Sendable (host : Host) : Raised → Prop
  | .validation issues => writes (host.dumpsDepth - 3) issues = true
  | .obsion error => encodes error.code = true ∧ encodes error.message = true ∧
      shortInt error.statusCode = true ∧ writes (host.dumpsDepth - 3) (.obj error.details) = true
  | _ => True

/-- What the connection itself reports of a request can be sent. -/
def Reportable (host : Host) (arrival : Arrival) (subscriptions : List RunSubscription) (method : Text)
    (params : Members) : Prop :=
  (method = text "server.ping" → ∀ issues, host.emptyParams params = .error issues →
    Sendable host (.validation issues)) ∧
  (method = text "run.subscribe" → ∀ issues, host.runSubscribeParams params = .error issues →
    Sendable host (.validation issues)) ∧
  (method = text "run.subscribe" → ∀ wanted, host.runSubscribeParams params = .ok wanted →
    subscriptions.length < host.maxSubscriptions →
    ∀ raised, arrival.application.runStatus wanted.runId = .error raised → Sendable host raised) ∧
  (method = text "run.unsubscribe" → ∀ issues, host.runUnsubscribeParams params = .error issues →
    Sendable host (.validation issues))

/-- The names that the answer to an object repeats can be sent. -/
structure Repeatable (host : Host) (arrival : Arrival) (subscriptions : List RunSubscription)
    (body : Members) : Prop where
  id : ∀ id : RequestId, get? body "id" = some id.value → writes 0 id.value = true
  unknown : ∀ method params, Framed body method params → (readId body).isSome = true →
    ∀ field ∈ body, field.1 ∉ allowed → encodes field.1 = true
  method : ∀ method params, get? body "id" = none → WellFormed body method params →
    method = text "server.ping" ∨ encodes method = true
  report : ∀ (id : RequestId) method params, get? body "id" = some id.value → WellFormed body method params →
    Reportable host arrival subscriptions method params

/-- `json.loads` raises nothing but `JSONDecodeError`, and what the answer repeats of the frame
and of the exceptions behind it can be sent. -/
inductive Clear (host : Host) (arrival : Arrival) (subscriptions : List RunSubscription) : Prop
  | undecoded (failed : loads host.loadsDepth arrival.raw = .error .decode)
  | scalar {value : Value} (found : loads host.loadsDepth arrival.raw = .ok value)
      (plain : ∀ body, value ≠ .obj body)
  | object {body : Members} (found : loads host.loadsDepth arrival.raw = .ok (.obj body))
      (repeatable : Repeatable host arrival subscriptions body)

/-! ## What can be sent -/

section

variable {depth : Nat}

@[simp] lemma writes_str (value : String) : writes depth (str value) = true := by
  rw [str, writes, encodes_text]

@[simp] lemma writesMembers_nil : writesMembers depth (members []) = true := rfl

@[simp] lemma writesMembers_cons (key : String) (value : Value) (rest : List (String × Value)) :
    writesMembers depth (members ((key, value) :: rest)) =
      (writes depth value && writesMembers depth (members rest)) := by
  change (encodes (text key) && writes depth value && writesMembers depth (members rest)) = _
  rw [encodes_text, Bool.true_and]

lemma writesValues_str (texts : List Text) :
    writesValues depth (texts.map Value.str) = texts.all encodes := by
  induction texts with
  | nil => rfl
  | cons first rest ih => rw [List.map_cons, writesValues, writes, ih, List.all_cons]

lemma writes_id (id : RequestId) : writes depth id.value = writes 0 id.value := by
  cases id with
  | str | int => rfl

def writesId (requestId : Option RequestId) : Bool := requestId.all fun id => writes 0 id.value

lemma writes_idValue (requestId : Option RequestId) :
    writes depth (idValue requestId) = writesId requestId := by
  cases requestId with
  | none => rfl
  | some id => exact writes_id id

lemma writes_obj (positive : 0 < depth) (fields : Members) :
    writes depth (.obj fields) = writesMembers (depth - 1) fields := by
  rw [writes, decide_eq_true positive, Bool.true_and]

lemma writes_errorMessage (positive : 0 < depth) (id error : Value) :
    writes depth (errorMessage id error) = (writes (depth - 1) id && writes (depth - 1) error) := by
  rw [errorMessage, writes_obj positive]
  simp

lemma writes_errorResponse (roomy : 8 ≤ depth) (requestId : Option RequestId) {code : Int}
    (short : shortInt code = true) (message : String) (data : Members) :
    writes depth (errorResponse requestId code message data) =
      (writesId requestId && (data.isEmpty || writesMembers (depth - 3) data)) := by
  obtain ⟨extra, rfl⟩ := Nat.exists_eq_add_of_le' roomy
  rw [errorResponse, writes_errorMessage (by omega), writes_idValue, writes_obj (by omega),
    writesMembers_append]
  cases data with
  | nil => simp [writes, short, writesMembers]
  | cons first rest => simp [writes, short]

lemma writes_domainErrorResponse (roomy : 8 ≤ depth) (id : RequestId) (error : ObsionError)
    (correlationId : Uuid) : writes depth (domainErrorResponse id error correlationId) =
      (writes 0 id.value && (encodes error.message && (encodes error.code && (shortInt error.statusCode &&
        writes (depth - 3) (.obj error.details))))) := by
  have code : shortInt (applicationErrorCode error.statusCode) = true := by
    unfold applicationErrorCode
    repeat' split
    all_goals decide
  obtain ⟨extra, rfl⟩ := Nat.exists_eq_add_of_le' roomy
  rw [domainErrorResponse, writes_errorMessage (by omega), writes_id, domainError,
    writes_obj (by omega)]
  simp [writes, code]

end

section

variable {host : Host} {connection : Connection} {body : Value}

def Connection.send (connection : Connection) (body : Value) : Connection :=
  { connection with sent := connection.sent ++ [body] }

lemma send_written (written : writes host.dumpsDepth body = true) :
    send host body connection = (.ok (), connection.send body) := by
  rw [Frames.send, if_pos written]
  rfl

lemma send_unwritten (unwritten : writes host.dumpsDepth body = false) :
    send host body connection = (.error .other, connection) := by
  rw [Frames.send, unwritten]
  rfl

variable {after : Connection} {raised : Raised}

lemma bind_ok {α β : Type} {run : Io α} {next : α → Io β} {result : α}
    (done : run connection = (.ok result, after)) : (run >>= next) connection = next result after := by
  simp only [bind, ExceptT.bind, ExceptT.mk, StateT.bind, done, ExceptT.bindCont]

lemma bind_error {α β : Type} {run : Io α} {next : α → Io β}
    (failed : run connection = (.error raised, after)) :
    (run >>= next) connection = (.error raised, after) := by
  simp only [bind, ExceptT.bind, ExceptT.mk, StateT.bind, failed, ExceptT.bindCont]
  rfl

lemma tryCatch_ok {α : Type} {run : Io α} {handler : Raised → Io α} {result : α}
    (done : run connection = (.ok result, after)) :
    (tryCatch run handler) connection = (.ok result, after) := by
  simp only [tryCatch, tryCatchThe, MonadExceptOf.tryCatch, ExceptT.tryCatch, ExceptT.mk, bind,
    StateT.bind, done]
  rfl

lemma tryCatch_error {α : Type} {run : Io α} {handler : Raised → Io α}
    (failed : run connection = (.error raised, after)) :
    (tryCatch run handler) connection = handler raised after := by
  simp only [tryCatch, tryCatchThe, MonadExceptOf.tryCatch, ExceptT.tryCatch, ExceptT.mk, bind,
    StateT.bind, failed]

end

section

variable {body : Members}

lemma mem_unknownFields {key : Text} :
    key ∈ unknownFields body ↔ ∃ field ∈ body, field.1 = key ∧ key ∉ allowed := by
  rw [unknownFields, (List.perm_insertionSort _ _).mem_iff, List.mem_filter, List.mem_map]
  constructor
  · rintro ⟨⟨field, inside, eq⟩, unknown⟩
    exact ⟨field, inside, eq, of_decide_eq_true unknown⟩
  rintro ⟨field, inside, eq, unknown⟩
  exact ⟨⟨field, inside, eq⟩, decide_eq_true unknown⟩

lemma unknownFields_eq_nil : unknownFields body = [] ↔ ∀ field ∈ body, field.1 ∈ allowed := by
  rw [List.eq_nil_iff_forall_not_mem]
  constructor
  · intro nothing field inside
    by_contra unknown
    exact nothing field.1 (mem_unknownFields.2 ⟨field, inside, rfl, unknown⟩)
  · intro known key found
    obtain ⟨field, inside, eq, unknown⟩ := mem_unknownFields.1 found
    exact unknown (eq ▸ known field inside)

lemma readVersion_iff : readVersion body = true ↔ get? body "jsonrpc" = some (.str (text "2.0")) := by
  unfold readVersion
  split
  · next version found =>
    rw [found]
    simp
  · next other =>
    constructor
    · intro wrong
      cases wrong
    intro found
    exact absurd found (other _)

lemma readMethod_iff {method : Text} : readMethod body = some method ↔
      get? body "method" = some (.str method) ∧ method ≠ [] ∧ method.length ≤ 120 := by
  unfold readMethod
  split
  · next value found =>
    rw [found]
    split
    · next refused =>
      constructor
      · intro wrong
        cases wrong
      rintro ⟨eq, named, short⟩
      cases eq
      rcases refused with empty | long
      · exact absurd empty named
      exact absurd short (Nat.not_le.2 long)
    · next fine =>
      rw [not_or, Nat.not_lt] at fine
      constructor
      · rintro eq
        cases eq
        exact ⟨rfl, fine.1, fine.2⟩
      · rintro ⟨eq, -, -⟩
        cases eq
        rfl
  · next other =>
    constructor
    · intro wrong
      cases wrong
    rintro ⟨found, -, -⟩
    exact absurd found (other _)

lemma readParams_iff {params : Members} : readParams body = some params ↔
      get? body "params" = some (.obj params) ∨ get? body "params" = none ∧ params = [] := by
  unfold readParams
  split
  · next found =>
    rw [found]
    constructor
    · intro eq
      cases eq
      exact .inr ⟨rfl, rfl⟩
    · rintro (wrong | ⟨-, rfl⟩)
      · cases wrong
      · rfl
  · next value found =>
    rw [found]
    constructor
    · intro eq
      cases eq
      exact .inl rfl
    · rintro (eq | ⟨wrong, -⟩)
      · cases eq
        rfl
      · cases wrong
  · next value notObject found =>
    rw [found]
    constructor
    · intro wrong
      cases wrong
    rintro (eq | ⟨wrong, -⟩)
    · cases eq
      exact absurd rfl (notObject _)
    · cases wrong

lemma framed_iff {method params : _} : Framed body method params ↔
    readVersion body = true ∧ readMethod body = some method ∧ readParams body = some params := by
  rw [readVersion_iff, readMethod_iff, readParams_iff]
  constructor
  · rintro ⟨version, calls, named, short, takes⟩
    exact ⟨version, ⟨calls, named, short⟩, takes⟩
  rintro ⟨version, ⟨calls, named, short⟩, takes⟩
  exact ⟨version, calls, named, short, takes⟩

lemma readId_eq_some {requestId : Option RequestId} :
    readId body = some requestId ↔ get? body "id" = requestId.map RequestId.value := by
  unfold readId
  split
  · next found =>
    rw [found]
    cases requestId with
    | none | some => simp
  · next value found =>
    rw [found]
    cases requestId with
    | none => simp
    | some id => cases id <;> simp [RequestId.value, eq_comm]
  · next value found =>
    rw [found]
    cases requestId with
    | none => simp
    | some id => cases id <;> simp [RequestId.value]
  · next value notText notInt found =>
    rw [found]
    constructor
    · intro wrong
      cases wrong
    intro eq
    cases requestId with
    | none => cases eq
    | some id =>
      cases id with
      | str value => exact absurd (Option.some.inj eq) (notText _)
      | int value => exact absurd (Option.some.inj eq) (notInt _)

lemma shortInt_invalidRequest : shortInt invalidRequest = true := by decide

lemma shortInt_invalidParams : shortInt invalidParams = true := by decide

inductive Parsed (body : Members) : Except ProtocolFailure JsonRpcRequest → Prop
  | anonymous {failure : ProtocolFailure} (refused : readId body = none)
      (short : shortInt failure.code = true) (unnamed : failure.requestId = none)
      (plain : failure.data = []) : Parsed body (.error failure)
  | malformed {failure : ProtocolFailure} (read : readId body = some failure.requestId)
      (short : shortInt failure.code = true) (bad : ∀ method params, ¬ Framed body method params)
      (plain : failure.data = []) : Parsed body (.error failure)
  | unknown {failure : ProtocolFailure} {method : Text} {params : Members}
      (read : readId body = some failure.requestId) (short : shortInt failure.code = true)
      (framed : Framed body method params) (more : unknownFields body ≠ [])
      (named : failure.data = members [("fields", .arr ((unknownFields body).map Value.str))]) :
      Parsed body (.error failure)
  | read {request : JsonRpcRequest} (read : readId body = some request.requestId)
      (formed : WellFormed body request.method request.params) : Parsed body (.ok request)

lemma readRequest_parsed : Parsed body (readRequest body) := by
  unfold readRequest
  split
  · next refused => exact .anonymous refused shortInt_invalidRequest rfl rfl
  next requestId found =>
  split
  · next version =>
    refine .malformed found shortInt_invalidRequest (fun method params framed => ?_) rfl
    have right := (framed_iff.1 framed).1
    rw [version] at right
    cases right
  · next version =>
    have right : readVersion body = true := by
      rw [Bool.not_eq_false] at version
      exact version
    split
    · next unnamed =>
      refine .malformed found shortInt_invalidRequest (fun method params framed => ?_) rfl
      have called := (framed_iff.1 framed).2.1
      rw [unnamed] at called
      cases called
    · next method called =>
      split
      · next refused =>
        refine .malformed found shortInt_invalidParams (fun method params framed => ?_) rfl
        have taken := (framed_iff.1 framed).2.2
        rw [refused] at taken
        cases taken
      · next params taken =>
        have framed : Framed body method params := framed_iff.2 ⟨right, called, taken⟩
        split
        · next more => exact .unknown found shortInt_invalidRequest framed more rfl
        next nothing =>
        exact .read found ⟨framed, unknownFields_eq_nil.1 (not_not.1 nothing)⟩

end

end Obsion.AppServer.Frames
