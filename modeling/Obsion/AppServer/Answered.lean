import Obsion.AppServer.Owed

/-! # Every frame is answered

A frame whose answer can be sent gets it, in the order of the frames, and any other frame
ends the connection. -/

namespace Obsion.AppServer.Frames

open Obsion.Wide Obsion.Lib
open Obsion.Harness (RunStatus)

/-! ## A request -/

section

variable {host : Host} {arrival : Arrival} {connection : Connection} {id : RequestId} {method : Text}
  {params : Members}

/-- How the `try` ends: with the result, with an error object of the dispatcher, or with an
exception. -/
inductive Tried (host : Host) (arrival : Arrival) (connection : Connection) (id : RequestId) (method : Text)
    (params : Members) : Except Raised Unit × Connection → Prop
  | success {result : Value} {subscriptions : List RunSubscription}
      (performs : Performs host arrival connection.subscriptions method params result)
      (written : writes host.dumpsDepth (successResponse id result) = true)
      (reportable : Reportable host arrival connection.subscriptions method params) :
      Tried host arrival connection id method params
        (.ok (), { connection.send (successResponse id result) with subscriptions })
  | refused {error : Value} (fails : ∀ result, ¬ Performs host arrival connection.subscriptions method params result)
      (written : writes host.dumpsDepth (errorMessage id.value error) = true)
      (reportable : Reportable host arrival connection.subscriptions method params) :
      Tried host arrival connection id method params (.ok (), connection.send (errorMessage id.value error))
  | raised {raised : Raised}
      (fails : ∀ result, Performs host arrival connection.subscriptions method params result →
        writes host.dumpsDepth (successResponse id result) = false)
      (reportable : Sendable host raised ↔ Reportable host arrival connection.subscriptions method params) :
      Tried host arrival connection id method params (.error raised, connection)

lemma validated_ok {α : Type} {result : Except Value α} {value : α} (valid : result = .ok value) :
    validated result connection = (.ok value, connection) := by
  rw [valid]
  rfl

lemma validated_error {α : Type} {result : Except Value α} {issues : Value} (invalid : result = .error issues) :
    validated result connection = (.error (.validation issues), connection) := by
  rw [invalid]
  rfl

lemma text_injective : Function.Injective text := fun _ _ eq =>
  String.toList_inj.1 (List.map_injective_iff.2 (fun _ _ equal => CodePoint.char.inj equal) eq)

variable {result : Value}

lemma tried_send {next : Unit → Io Unit} {subscriptions : List RunSubscription}
    (performs : Performs host arrival connection.subscriptions method params result)
    (only : ∀ another, Performs host arrival connection.subscriptions method params another → another = result)
    (reportable : Reportable host arrival connection.subscriptions method params)
    (then_ : next () (connection.send (successResponse id result)) =
      (.ok (), { connection.send (successResponse id result) with subscriptions })) :
    Tried host arrival connection id method params
      ((send host (successResponse id result) >>= next) connection) := by
  cases written : writes host.dumpsDepth (successResponse id result) with
  | true =>
    rw [bind_ok (send_written written), then_]
    exact .success performs written reportable
  | false =>
    rw [bind_error (send_unwritten written)]
    refine .raised (fun another also => ?_) (iff_of_true trivial reportable)
    rw [only another also, written]

lemma shortInt_conflict : shortInt 409 = true := by decide

lemma shortInt_maxSubscriptions : shortInt host.maxSubscriptions = true := by
  have short : ∀ number : Fin 257, shortInt (number.val : Int) = true := by decide +kernel
  exact short ⟨host.maxSubscriptions, Nat.lt_succ_of_le host.fewSubscriptions⟩

lemma tried_initialize (named : method = text "server.initialize") :
    Tried host arrival connection id method params (answer host arrival id method params connection) := by
  rw [answer, if_pos named]
  refine .raised (fun result performs => ?_) (iff_of_true ⟨encodes_text _, encodes_text _, shortInt_conflict, ?_⟩ ?_)
  · rw [named] at performs
    cases performs with
    | ping eq | subscribe eq | unsubscribe eq => exact absurd (text_injective eq) (by decide)
    | dispatched forwarded => exact absurd List.mem_cons_self forwarded
  · have room := host.roomy
    rw [conflictError, writes_obj (by omega), writesMembers_nil]
  · rw [named]
    refine ⟨fun eq => ?_, fun eq => ?_, fun eq => ?_, fun eq => ?_⟩
    all_goals exact absurd (text_injective eq) (by decide)

lemma reportable_ping : Reportable host arrival connection.subscriptions (text "server.ping") params ↔
    ∀ issues, host.emptyParams params = .error issues → Sendable host (.validation issues) := by
  constructor
  · intro reportable
    exact reportable.1 rfl
  intro ping
  refine ⟨fun _ => ping, fun eq => ?_, fun eq => ?_, fun eq => ?_⟩
  all_goals exact absurd (text_injective eq) (by decide)

lemma reportable_subscribe : Reportable host arrival connection.subscriptions (text "run.subscribe") params ↔
    (∀ issues, host.runSubscribeParams params = .error issues → Sendable host (.validation issues)) ∧
    ∀ wanted, host.runSubscribeParams params = .ok wanted →
      connection.subscriptions.length < host.maxSubscriptions →
      ∀ raised, arrival.application.runStatus wanted.runId = .error raised → Sendable host raised := by
  constructor
  · rintro ⟨-, invalid, refused, -⟩
    exact ⟨invalid rfl, refused rfl⟩
  rintro ⟨invalid, refused⟩
  refine ⟨fun eq => ?_, fun _ => invalid, fun _ => refused, fun eq => ?_⟩
  all_goals exact absurd (text_injective eq) (by decide)

lemma reportable_unsubscribe :
    Reportable host arrival connection.subscriptions (text "run.unsubscribe") params ↔
      ∀ issues, host.runUnsubscribeParams params = .error issues → Sendable host (.validation issues) := by
  constructor
  · intro reportable
    exact reportable.2.2.2 rfl
  intro unsubscribe
  refine ⟨fun eq => ?_, fun eq => ?_, fun eq => ?_, fun _ => unsubscribe⟩
  all_goals exact absurd (text_injective eq) (by decide)

lemma performs_ping
    (performs : Performs host arrival connection.subscriptions (text "server.ping") params result) :
    host.emptyParams params = .ok () ∧ result = .obj (members [("server_time", str arrival.serverTime)]) := by
  cases performs with
  | ping eq valid => exact ⟨valid, rfl⟩
  | subscribe eq | unsubscribe eq => exact absurd (text_injective eq) (by decide)
  | dispatched forwarded => exact absurd (by decide) forwarded

lemma performs_subscribe
    (performs : Performs host arrival connection.subscriptions (text "run.subscribe") params result) :
    ∃ wanted status, host.runSubscribeParams params = .ok wanted ∧
      connection.subscriptions.length < host.maxSubscriptions ∧
      arrival.application.runStatus wanted.runId = .ok status ∧
      result = .obj (members (subscriptionResult ⟨arrival.subscriptionId, wanted.runId, wanted.afterSequence⟩ ++
        [("run_status", str status.str)])) := by
  cases performs with
  | ping eq | unsubscribe eq => exact absurd (text_injective eq) (by decide)
  | subscribe eq valid room found => exact ⟨_, _, valid, room, found, rfl⟩
  | dispatched forwarded => exact absurd (by decide) forwarded

lemma performs_unsubscribe
    (performs : Performs host arrival connection.subscriptions (text "run.unsubscribe") params result) :
    ∃ subscriptionId subscription, host.runUnsubscribeParams params = .ok subscriptionId ∧
      connection.subscriptions.find? (fun other => other.id.str = subscriptionId) = some subscription ∧
      result = .obj (members (subscriptionResult subscription)) := by
  cases performs with
  | ping eq | subscribe eq => exact absurd (text_injective eq) (by decide)
  | unsubscribe eq valid found => exact ⟨_, _, valid, found, rfl⟩
  | dispatched forwarded => exact absurd (by decide) forwarded

lemma tried_ping (named : method = text "server.ping") :
    Tried host arrival connection id method params (answer host arrival id method params connection) := by
  subst named
  rw [answer, if_neg (fun eq => absurd (text_injective eq) (by decide)), if_pos rfl]
  cases valid : host.emptyParams params with
  | error issues =>
    rw [bind_error (validated_error rfl)]
    refine .raised (fun result performs => ?_) ?_
    · rw [(performs_ping performs).1] at valid
      cases valid
    rw [reportable_ping, valid]
    exact ⟨fun sendable _ eq => Except.error.inj eq ▸ sendable, fun all => all issues rfl⟩
  | ok value =>
    have reportable : Reportable host arrival connection.subscriptions (text "server.ping") params := by
      rw [reportable_ping, valid]
      exact fun _ => nofun
    rw [bind_ok (validated_ok rfl), ← bind_pure (send _ _)]
    exact tried_send (.ping rfl valid) (fun _ performs => (performs_ping performs).2) reportable rfl

lemma tried_subscribe (named : method = text "run.subscribe") :
    Tried host arrival connection id method params (answer host arrival id method params connection) := by
  subst named
  rw [answer, if_neg (fun eq => absurd (text_injective eq) (by decide)),
    if_neg (fun eq => absurd (text_injective eq) (by decide)), if_pos rfl, subscribe]
  cases valid : host.runSubscribeParams params with
  | error issues =>
    rw [bind_error (validated_error rfl)]
    refine .raised (fun result performs => ?_) ?_
    · obtain ⟨_, _, found, -⟩ := performs_subscribe performs
      rw [found] at valid
      cases valid
    · rw [reportable_subscribe, valid]
      exact ⟨fun sendable => ⟨fun _ eq => Except.error.inj eq ▸ sendable, fun _ eq => (by cases eq)⟩,
        fun all => all.1 issues rfl⟩
  | ok wanted =>
    rw [bind_ok (validated_ok rfl), bind_ok (show (get : Io Connection) connection = (.ok connection, connection) from rfl)]
    by_cases full : host.maxSubscriptions ≤ connection.subscriptions.length
    · rw [if_pos full]
      refine .raised (fun result performs => ?_)
        (iff_of_true ⟨encodes_text _, encodes_text _, shortInt_conflict, ?_⟩ ?_)
      · obtain ⟨_, _, -, room, -⟩ := performs_subscribe performs
        exact absurd room (Nat.not_lt.2 full)
      · have room := host.roomy
        rw [conflictError, writes_obj (by omega), writesMembers_cons, writes,
          shortInt_maxSubscriptions, writesMembers_nil]
        rfl
      · rw [reportable_subscribe, valid]
        exact ⟨fun _ eq => (by cases eq), fun _ _ room => absurd room (Nat.not_lt.2 full)⟩
    · rw [if_neg full]
      rw [Nat.not_le] at full
      cases status : arrival.application.runStatus wanted.runId with
      | error raised =>
        rw [bind_error (show ofExcept (.error raised) connection = _ from rfl)]
        refine .raised (fun result performs => ?_) ?_
        · obtain ⟨_, _, found, -, known, -⟩ := performs_subscribe performs
          rw [valid] at found
          cases found
          rw [status] at known
          cases known
        · rw [reportable_subscribe, valid]
          constructor
          · intro sendable
            refine ⟨fun _ eq => (by cases eq), fun other eq _ another failed => ?_⟩
            cases eq
            rw [status] at failed
            cases failed
            exact sendable
          · intro all
            exact all.2 wanted rfl full raised status
      | ok value =>
        have reportable : Reportable host arrival connection.subscriptions (text "run.subscribe") params := by
          rw [reportable_subscribe, valid]
          refine ⟨fun _ eq => (by cases eq), fun other eq _ another failed => ?_⟩
          cases eq
          rw [status] at failed
          cases failed
        rw [bind_ok (show ofExcept (.ok value) connection = (.ok value, connection) from rfl)]
        refine tried_send (.subscribe rfl valid full status) (fun result performs => ?_) reportable rfl
        obtain ⟨_, _, found, -, known, eq⟩ := performs_subscribe performs
        rw [valid] at found
        cases found
        rw [status] at known
        cases known
        exact eq

lemma notFound_sendable (resource id : String) : Sendable host (.obsion (notFoundError resource id)) := by
  have room := host.roomy
  have short : shortInt 404 = true := by decide
  refine ⟨encodes_text _, encodes_text _, short, ?_⟩
  rw [notFoundError, writes_obj (by omega)]
  simp

lemma tried_unsubscribe (named : method = text "run.unsubscribe") :
    Tried host arrival connection id method params (answer host arrival id method params connection) := by
  subst named
  rw [answer, if_neg (fun eq => absurd (text_injective eq) (by decide)),
    if_neg (fun eq => absurd (text_injective eq) (by decide)),
    if_neg (fun eq => absurd (text_injective eq) (by decide)), if_pos rfl, unsubscribe]
  cases valid : host.runUnsubscribeParams params with
  | error issues =>
    rw [bind_error (validated_error rfl)]
    refine .raised (fun result performs => ?_) ?_
    · obtain ⟨_, _, found, -⟩ := performs_unsubscribe performs
      rw [found] at valid
      cases valid
    · rw [reportable_unsubscribe, valid]
      exact ⟨fun sendable _ eq => Except.error.inj eq ▸ sendable, fun all => all issues rfl⟩
  | ok subscriptionId =>
    have reportable : Reportable host arrival connection.subscriptions (text "run.unsubscribe") params := by
      rw [reportable_unsubscribe, valid]
      exact fun _ => nofun
    rw [bind_ok (validated_ok rfl),
      bind_ok (show (get : Io Connection) connection = (.ok connection, connection) from rfl)]
    cases known : connection.subscriptions.find? fun other => other.id.str = subscriptionId with
    | none =>
      refine .raised (fun result performs => ?_) (iff_of_true (notFound_sendable _ _) reportable)
      obtain ⟨_, _, found, also, -⟩ := performs_unsubscribe performs
      rw [valid] at found
      cases found
      rw [known] at also
      cases also
    | some subscription =>
      refine tried_send (.unsubscribe rfl valid known) (fun result performs => ?_) reportable rfl
      obtain ⟨_, _, found, also, eq⟩ := performs_unsubscribe performs
      rw [valid] at found
      cases found
      rw [known] at also
      cases also
      exact eq

lemma ne_of_forwarded (forwarded : method ∉ connectionMethods) {name : String}
    (mem : name ∈ ["server.initialize", "server.ping", "run.subscribe", "run.unsubscribe"]) :
    method ≠ text name := by
  rintro rfl
  exact forwarded (List.mem_map_of_mem mem)

lemma reportable_dispatched (forwarded : method ∉ connectionMethods) :
    Reportable host arrival connection.subscriptions method params := by
  refine ⟨fun eq => ?_, fun eq => ?_, fun eq => ?_, fun eq => ?_⟩
  all_goals exact absurd eq (ne_of_forwarded forwarded (by decide))

lemma performs_dispatched (forwarded : method ∉ connectionMethods)
    (performs : Performs host arrival connection.subscriptions method params result) :
    invoke host arrival.application method params = .ok result := by
  cases performs with
  | ping eq | subscribe eq | unsubscribe eq => exact absurd (eq ▸ by decide) forwarded
  | dispatched _ done => exact done

lemma dispatch_cases (correlationId : Uuid) :
    (∃ result, invoke host arrival.application method params = .ok result ∧
        dispatch host arrival.application correlationId id method params = .ok (successResponse id result)) ∨
      ((∀ result, invoke host arrival.application method params ≠ .ok result) ∧
        ((∃ error, dispatch host arrival.application correlationId id method params =
            .ok (errorMessage id.value error)) ∨
          dispatch host arrival.application correlationId id method params = .error .other)) := by
  unfold dispatch
  cases invoke host arrival.application method params with
  | ok result => exact .inl ⟨result, rfl, rfl⟩
  | error raised =>
    refine .inr ⟨fun _ => nofun, ?_⟩
    cases raised with
    | other => exact .inr rfl
    | _ => exact .inl ⟨_, rfl⟩

lemma tried_dispatch (forwarded : method ∉ connectionMethods) :
    Tried host arrival connection id method params (answer host arrival id method params connection) := by
  have reportable : Reportable host arrival connection.subscriptions method params :=
    reportable_dispatched forwarded
  rw [answer, if_neg (ne_of_forwarded forwarded (by decide)), if_neg (ne_of_forwarded forwarded (by decide)),
    if_neg (ne_of_forwarded forwarded (by decide)), if_neg (ne_of_forwarded forwarded (by decide))]
  rcases dispatch_cases arrival.correlationId with ⟨result, done, eq⟩ | ⟨fails, ⟨error, eq⟩ | eq⟩
  · rw [eq, bind_ok (show ofExcept _ connection = (.ok _, connection) from rfl), ← bind_pure (send _ _)]
    refine tried_send (.dispatched forwarded done) (fun another performs => ?_) reportable rfl
    have also := performs_dispatched forwarded performs
    rw [done] at also
    exact (Except.ok.inj also).symm
  · have never (result : Value) : ¬ Performs host arrival connection.subscriptions method params result :=
      fun performs => fails result (performs_dispatched forwarded performs)
    rw [eq, bind_ok (show ofExcept _ connection = (.ok _, connection) from rfl)]
    cases written : writes host.dumpsDepth (errorMessage id.value error) with
    | true =>
      rw [send_written written]
      exact .refused never written reportable
    | false =>
      rw [send_unwritten written]
      exact .raised (fun result performs => absurd performs (never result)) (iff_of_true trivial reportable)
  · rw [eq, bind_error (show ofExcept _ connection = (.error .other, connection) from rfl)]
    exact .raised (fun result performs => absurd (performs_dispatched forwarded performs) (fails result))
      (iff_of_true trivial reportable)

lemma answer_tried :
    Tried host arrival connection id method params (answer host arrival id method params connection) := by
  by_cases forwarded : method ∉ connectionMethods
  · exact tried_dispatch forwarded
  rw [not_not] at forwarded
  rcases List.mem_map.1 forwarded with ⟨name, mem, eq⟩
  rcases List.mem_cons.1 mem with rfl | mem
  · exact tried_initialize eq.symm
  rcases List.mem_cons.1 mem with rfl | mem
  · exact tried_ping eq.symm
  rcases List.mem_cons.1 mem with rfl | mem
  · exact tried_subscribe eq.symm
  rw [List.mem_singleton.1 mem] at eq
  exact tried_unsubscribe eq.symm

def handled (arrival : Arrival) (id : RequestId) : Raised → Value
  | .validation issues => errorResponse id invalidParams "Invalid method params" (members [("issues", issues)])
  | .obsion error => domainErrorResponse id error arrival.correlationId
  | _ => errorResponse id internalError "Internal error"
      (members [("correlation_id", str arrival.correlationId.str)])

lemma recover_eq (raised : Raised) : recover host arrival id raised = send host (handled arrival id raised) := by
  cases raised with
  | validation | protocol | recorded | obsion | other => rfl

lemma handled_eq (raised : Raised) : ∃ error, handled arrival id raised = errorMessage id.value error := by
  cases raised with
  | validation | protocol | recorded | obsion | other => exact ⟨_, rfl⟩

lemma writes_handled (raised : Raised) :
    writes host.dumpsDepth (handled arrival id raised) = true ↔ writes 0 id.value = true ∧ Sendable host raised := by
  have internal : writes host.dumpsDepth (errorResponse id internalError "Internal error"
      (members [("correlation_id", str arrival.correlationId.str)])) = true ↔
        writes 0 id.value = true ∧ True := by
    have short : shortInt internalError = true := by decide
    rw [writes_errorResponse host.roomy id short, and_true]
    simp [writesId]
  cases raised with
  | validation issues =>
    have filled : (members [("issues", issues)]).isEmpty = false := rfl
    rw [handled, writes_errorResponse host.roomy id shortInt_invalidParams, filled]
    simp [writesId, Sendable]
  | obsion error =>
    rw [handled, writes_domainErrorResponse host.roomy]
    simp only [Bool.and_eq_true, Sendable]
    constructor
    · rintro ⟨written, message, code, status, details⟩
      exact ⟨written, code, message, status, details⟩
    rintro ⟨written, code, message, status, details⟩
    exact ⟨written, message, code, status, details⟩
  | protocol | recorded | other => exact internal

end

/-! ## A frame -/

section

variable {host : Host} {arrival : Arrival} {connection : Connection} {subscriptions : List RunSubscription}
  {body : Members} {requestId : Option RequestId}

lemma answerId_of_read (found : loads host.loadsDepth arrival.raw = .ok (.obj body))
    (read : readId body = some requestId) : answerId host.loadsDepth arrival.raw = idValue requestId := by
  have stored := readId_eq_some.1 read
  rw [answerId, found]
  dsimp only
  rw [stored]
  cases requestId with
  | none => rfl
  | some id =>
    cases id with
    | str value => rfl
    | int value => rfl

lemma answerId_of_refused (found : loads host.loadsDepth arrival.raw = .ok (.obj body))
    (refused : readId body = none) : answerId host.loadsDepth arrival.raw = .null := by
  rw [answerId, found]
  dsimp only
  have other (id : RequestId) : get? body "id" ≠ some id.value := by
    intro eq
    have read : readId body = some (some id) := readId_eq_some.2 eq
    rw [refused] at read
    cases read
  split
  · next value eq => exact absurd eq (other (.str value))
  · next value eq => exact absurd eq (other (.int value))
  · rfl

lemma framed_unique {method other : Text} {params more : Members} (left : Framed body method params)
    (right : Framed body other more) : method = other ∧ params = more := by
  obtain ⟨-, leftMethod, leftParams⟩ := framed_iff.1 left
  obtain ⟨-, rightMethod, rightParams⟩ := framed_iff.1 right
  rw [leftMethod] at rightMethod
  rw [leftParams] at rightParams
  exact ⟨Option.some.inj rightMethod, Option.some.inj rightParams⟩

/-- Neither a notification nor a request. -/
def Unheard (host : Host) (arrival : Arrival) : Prop :=
  ¬ IsNotification host.loadsDepth arrival.raw ∧
    ∀ id method params, ¬ IsRequest host.loadsDepth arrival.raw id method params

lemma unheard_of {host : Host} {arrival : Arrival}
    (unread : ∀ body, loads host.loadsDepth arrival.raw = .ok (.obj body) →
      ∀ method params, ¬ WellFormed body method params) : Unheard host arrival := by
  constructor
  · rintro ⟨body, method, params, found, -, formed⟩
    exact unread body found method params formed
  · rintro id method params ⟨body, found, -, formed⟩
    exact unread body found method params formed

variable {error : Value}

lemma answers_error (unheard : Unheard host arrival) :
    Answers host arrival subscriptions (errorMessage (answerId host.loadsDepth arrival.raw) error) := by
  refine ⟨fun is => absurd is unheard.1, fun _ => Or.inr ⟨?_, error, rfl⟩⟩
  rintro ⟨_, id, method, params, request, -⟩
  exact unheard.2 id method params request

def Settles (host : Host) (arrival : Arrival) (connection : Connection) : Prop :=
  (Clear host arrival connection.subscriptions ∧ ∃ body subscriptions,
      process host arrival connection = (.ok (), { connection.send body with subscriptions }) ∧
      Answers host arrival connection.subscriptions body) ∨
    (¬ Clear host arrival connection.subscriptions ∧ ∃ raised after,
      process host arrival connection = (.error raised, after))

lemma settles_failure (failure : ProtocolFailure)
    (parsed : parseRequest host.loadsDepth arrival.raw = .error (.failure failure))
    (id : answerId host.loadsDepth arrival.raw = idValue failure.requestId)
    (unheard : Unheard host arrival)
    (clear : Clear host arrival connection.subscriptions ↔ writes host.dumpsDepth
      (errorResponse failure.requestId failure.code failure.message failure.data) = true) :
    Settles host arrival connection := by
  cases written : writes host.dumpsDepth
      (errorResponse failure.requestId failure.code failure.message failure.data) with
  | true =>
    refine .inl ⟨clear.2 written,
      errorResponse failure.requestId failure.code failure.message failure.data,
      connection.subscriptions, ?_, ?_⟩
    · rw [process, parsed]
      exact send_written written
    rw [errorResponse, ← id]
    exact answers_error unheard
  | false =>
    refine .inr ⟨fun is => ?_, .other, connection, ?_⟩
    · rw [clear.1 is] at written
      cases written
    rw [process, parsed]
    exact send_unwritten written

section
variable (found : loads host.loadsDepth arrival.raw = .ok (.obj body))
include found

lemma clear_iff :
    Clear host arrival subscriptions ↔ Repeatable host arrival subscriptions body := by
  constructor
  · intro clear
    cases clear with
    | undecoded failed =>
      rw [found] at failed
      cases failed
    | scalar also plain =>
      rw [found] at also
      exact absurd (Except.ok.inj also).symm (plain body)
    | object also repeatable =>
      rw [found] at also
      cases also
      exact repeatable
  · exact .object found

lemma isNotification_iff :
    IsNotification host.loadsDepth arrival.raw ↔
      readId body = some none ∧ ∃ method params, WellFormed body method params := by
  rw [readId_eq_some]
  constructor
  · rintro ⟨other, method, params, eq, anonymous, formed⟩
    rw [found] at eq
    cases eq
    exact ⟨anonymous, method, params, formed⟩
  · rintro ⟨anonymous, method, params, formed⟩
    exact ⟨body, method, params, found, anonymous, formed⟩

lemma isRequest_iff {id : RequestId} {method : Text} {params : Members} :
    IsRequest host.loadsDepth arrival.raw id method params ↔
      readId body = some (some id) ∧ WellFormed body method params := by
  rw [readId_eq_some]
  constructor
  · rintro ⟨other, eq, named, formed⟩
    rw [found] at eq
    cases eq
    exact ⟨named, formed⟩
  · rintro ⟨named, formed⟩
    exact ⟨body, found, named, formed⟩

lemma clear_malformed (read : readId body = some requestId)
    (bad : ∀ method params, ¬ WellFormed body method params) {unknown : Prop}
    (unknown_ : unknown ↔ ∀ method params, Framed body method params →
      ∀ field ∈ body, field.1 ∉ allowed → encodes field.1 = true) :
    Clear host arrival subscriptions ↔ writesId requestId = true ∧ unknown := by
  rw [clear_iff found, unknown_]
  constructor
  · intro repeatable
    refine ⟨?_, fun method params framed => repeatable.unknown method params framed (by rw [read]; rfl)⟩
    cases requestId with
    | none => rfl
    | some id => exact repeatable.id id (readId_eq_some.1 read)
  · rintro ⟨id, names⟩
    refine ⟨fun other eq => ?_, fun method params framed _ => names method params framed,
      fun method params _ formed => absurd formed (bad method params),
      fun _ method params _ formed => absurd formed (bad method params)⟩
    have also : readId body = some (some other) := readId_eq_some.2 eq
    rw [read] at also
    cases also
    exact id

end

lemma settles_undecoded {error : Undecoded} (found : loads host.loadsDepth arrival.raw = .error error) :
    Settles host arrival connection := by
  have unheard : Unheard host arrival := unheard_of fun body eq => by
    rw [found] at eq
    cases eq
  have clear : Clear host arrival connection.subscriptions ↔ error = .decode := by
    constructor
    · intro clear
      cases clear with
      | undecoded failed =>
        rw [found] at failed
        exact Except.error.inj failed
      | scalar also | object also =>
        rw [found] at also
        cases also
    · rintro rfl
      exact .undecoded found
  by_cases decode : error = .decode
  · subst decode
    refine settles_failure ⟨parseError, "Parse error", none, []⟩ ?_ ?_ unheard ?_
    · rw [parseRequest, found]
    · rw [answerId, found]
      rfl
    · rw [writes_errorResponse host.roomy none (by decide)]
      exact iff_of_true (clear.2 rfl) rfl
  · refine .inr ⟨fun is => decode (clear.1 is), .other, connection, ?_⟩
    have parsed : parseRequest host.loadsDepth arrival.raw = .error (.undecoded error) := by
      rw [parseRequest, found]
      cases error with
      | decode => exact absurd rfl decode
      | value | recursion => rfl
    rw [process, parsed]
    rfl

lemma settles_scalar {value : Value} (found : loads host.loadsDepth arrival.raw = .ok value)
    (notObject : ∀ body, value ≠ .obj body) : Settles host arrival connection := by
  have unheard : Unheard host arrival := unheard_of fun body eq => by
    rw [found] at eq
    exact absurd (Except.ok.inj eq) (notObject body)
  refine settles_failure ⟨invalidRequest, "Request must be one JSON object", none, []⟩ ?_ ?_
    unheard ?_
  · rw [parseRequest, found]
    cases value with
    | obj body => exact absurd rfl (notObject body)
    | _ => rfl
  · rw [answerId, found]
    cases value with
    | obj body => exact absurd rfl (notObject body)
    | _ => rfl
  · rw [writes_errorResponse host.roomy none shortInt_invalidRequest]
    exact iff_of_true (.scalar found notObject) rfl

section
variable (found : loads host.loadsDepth arrival.raw = .ok (.obj body))
include found

lemma settles_refused {failure : ProtocolFailure} (refused : readRequest body = .error failure) :
    Settles host arrival connection := by
  have parsed : parseRequest host.loadsDepth arrival.raw = .error (.failure failure) := by
    rw [parseRequest, found]
    change (readRequest body).mapError ParseError.failure = _
    rw [refused]
    rfl
  have unheard (ill : ∀ method params, ¬ WellFormed body method params) : Unheard host arrival :=
    unheard_of fun other eq => by
      rw [found] at eq
      cases eq
      exact ill
  have fate : Parsed body (readRequest body) := readRequest_parsed
  rw [refused] at fate
  cases fate with
  | anonymous none_ short unnamed plain =>
    refine settles_failure failure parsed ?_ ⟨?_, ?_⟩ ?_
    · rw [answerId_of_refused found none_, unnamed]
      rfl
    · rw [isNotification_iff found, none_]
      rintro ⟨wrong, -⟩
      cases wrong
    · intro id method params
      rw [isRequest_iff found, none_]
      rintro ⟨wrong, -⟩
      cases wrong
    · rw [writes_errorResponse host.roomy _ short, unnamed, plain, clear_iff found]
      refine iff_of_true ⟨fun id eq => ?_, fun _ _ _ some_ => ?_, fun _ _ eq => ?_, fun id _ _ eq => ?_⟩ rfl
      · have read : readId body = some (some id) := readId_eq_some.2 eq
        rw [none_] at read
        cases read
      · rw [none_] at some_
        cases some_
      · have read : readId body = some none := readId_eq_some.2 eq
        rw [none_] at read
        cases read
      · have read : readId body = some (some id) := readId_eq_some.2 eq
        rw [none_] at read
        cases read
  | malformed read short bad plain =>
    have ill (method : Text) (params : Members) : ¬ WellFormed body method params :=
      fun formed => bad method params formed.framed
    refine settles_failure failure parsed (answerId_of_read found read) (unheard ill) ?_
    · have nothing : True ↔ ∀ method params, Framed body method params →
          ∀ field ∈ body, field.1 ∉ allowed → encodes field.1 = true :=
        iff_of_true trivial fun method params framed => absurd framed (bad method params)
      rw [clear_malformed found read ill nothing, writes_errorResponse host.roomy _ short, plain]
      simp
  | unknown read short framed more named =>
    have ill (method : Text) (params : Members) : ¬ WellFormed body method params :=
      fun formed => more (unknownFields_eq_nil.2 formed.known)
    refine settles_failure failure parsed (answerId_of_read found read) (unheard ill) ?_
    · have names : (unknownFields body).all encodes = true ↔ ∀ method params, Framed body method params →
          ∀ field ∈ body, field.1 ∉ allowed → encodes field.1 = true := by
        rw [List.all_eq_true]
        constructor
        · intro all _ _ _ field inside unknown
          exact all field.1 (mem_unknownFields.2 ⟨field, inside, rfl, unknown⟩)
        intro all key listed
        obtain ⟨field, inside, eq, unknown⟩ := mem_unknownFields.1 listed
        exact eq ▸ all _ _ framed field inside (eq ▸ unknown)
      have room := host.roomy
      have filled : (members [("fields", .arr ((unknownFields body).map Value.str))]).isEmpty = false := rfl
      rw [clear_malformed found read ill names, writes_errorResponse host.roomy _ short, named, filled,
        writesMembers_cons, writesMembers_nil, writes, writesValues_str, decide_eq_true (by omega)]
      simp

lemma clear_notification {method : Text} {params : Members} (anonymous : readId body = some none)
    (formed : WellFormed body method params) :
    Clear host arrival subscriptions ↔ method = text "server.ping" ∨ encodes method = true := by
  have missing := readId_eq_some.1 anonymous
  rw [clear_iff found]
  constructor
  · intro repeatable
    exact repeatable.method method params missing formed
  intro plain
  refine ⟨fun id eq => ?_, fun _ _ _ _ field inside unknown => absurd (formed.known field inside) unknown,
    fun other more _ also => ?_, fun id _ _ eq => ?_⟩
  · rw [missing] at eq
    cases eq
  · obtain ⟨rfl, rfl⟩ := framed_unique formed.framed also.framed
    exact plain
  · rw [missing] at eq
    cases eq

lemma clear_request {id : RequestId} {method : Text} {params : Members}
    (named : readId body = some (some id)) (formed : WellFormed body method params) :
    Clear host arrival subscriptions ↔
      writes 0 id.value = true ∧ Reportable host arrival subscriptions method params := by
  have stored := readId_eq_some.1 named
  rw [clear_iff found]
  constructor
  · intro repeatable
    exact ⟨repeatable.id id stored, repeatable.report id method params stored formed⟩
  rintro ⟨written, reportable⟩
  refine ⟨fun other eq => ?_, fun _ _ _ _ field inside unknown => absurd (formed.known field inside) unknown,
    fun _ _ eq => ?_, fun _ other more _ also => ?_⟩
  · have again : readId body = some (some other) := readId_eq_some.2 eq
    rw [named] at again
    cases again
    exact written
  · rw [stored] at eq
    cases eq
  · obtain ⟨rfl, rfl⟩ := framed_unique formed.framed also.framed
    exact reportable

lemma parseRequest_of_read {request : JsonRpcRequest} (read : readRequest body = .ok request) :
    parseRequest host.loadsDepth arrival.raw = .ok request := by
  rw [parseRequest, found]
  change (readRequest body).mapError ParseError.failure = _
  rw [read]
  rfl

end

lemma writes_notification (method : String) (params : Members) :
    writes host.dumpsDepth (notification method params) = writes (host.dumpsDepth - 1) (.obj params) := by
  have room := host.roomy
  rw [notification, writes_obj (by omega)]
  simp

lemma answers_notification (is : IsNotification host.loadsDepth arrival.raw) (method : String)
    (params : Members) : Answers host arrival subscriptions (notification method params) :=
  ⟨fun _ => ⟨method, params, rfl⟩, fun not => absurd is not⟩

lemma settles_notification (found : loads host.loadsDepth arrival.raw = .ok (.obj body))
    {method : Text} {params : Members} (read : readRequest body = .ok ⟨none, method, params⟩)
    (anonymous : readId body = some none) (formed : WellFormed body method params) :
    Settles host arrival connection := by
  have is : IsNotification host.loadsDepth arrival.raw :=
    (isNotification_iff found).2 ⟨anonymous, method, params, formed⟩
  have room := host.roomy
  rw [Settles, clear_notification found anonymous formed, process, parseRequest_of_read found read]
  dsimp only
  by_cases ping : method = text "server.ping"
  · rw [if_pos ping]
    refine .inl ⟨Or.inl ping, _, connection.subscriptions, send_written ?_, answers_notification is _ _⟩
    rw [writes_notification, writes_obj (by omega)]
    simp
  · rw [if_neg ping, or_iff_right ping]
    have sent : writes host.dumpsDepth (notification "server.warning"
        (members [("code", str "client_notification_ignored"), ("method", .str method)])) = encodes method := by
      rw [writes_notification, writes_obj (by omega)]
      simp [writes]
    cases plain : encodes method with
    | true =>
      rw [plain] at sent
      exact .inl ⟨rfl, _, connection.subscriptions, send_written sent, answers_notification is _ _⟩
    | false =>
      rw [plain] at sent
      exact .inr ⟨Bool.false_ne_true, _, _, send_unwritten sent⟩

lemma writes_id_of_success {id : RequestId} {result : Value}
    (written : writes host.dumpsDepth (successResponse id result) = true) : writes 0 id.value = true := by
  have room := host.roomy
  rw [successResponse, writes_obj (by omega), writesMembers_cons, writesMembers_cons, writes_id,
    Bool.and_eq_true, Bool.and_eq_true] at written
  exact written.2.1

lemma writes_id_of_error {id : RequestId}
    (written : writes host.dumpsDepth (errorMessage id.value error) = true) :
    writes 0 id.value = true := by
  have room := host.roomy
  rw [writes_errorMessage (by omega), writes_id, Bool.and_eq_true] at written
  exact written.1

lemma settles_request (found : loads host.loadsDepth arrival.raw = .ok (.obj body)) {id : RequestId}
    {method : Text} {params : Members} (read : readRequest body = .ok ⟨id, method, params⟩)
    (named : readId body = some (some id)) (formed : WellFormed body method params) :
    Settles host arrival connection := by
  have request : IsRequest host.loadsDepth arrival.raw id method params :=
    (isRequest_iff found).2 ⟨named, formed⟩
  have notNotification : ¬ IsNotification host.loadsDepth arrival.raw := by
    rw [isNotification_iff found, named]
    rintro ⟨wrong, -⟩
    cases wrong
  have unique {other : RequestId} {called : Text} {more : Members}
      (also : IsRequest host.loadsDepth arrival.raw other called more) :
      other = id ∧ called = method ∧ more = params := by
    obtain ⟨again, well⟩ := (isRequest_iff found).1 also
    rw [named] at again
    obtain ⟨rfl, rfl⟩ := framed_unique formed.framed well.framed
    exact ⟨(Option.some.inj (Option.some.inj again)).symm, rfl, rfl⟩
  have answered : answerId host.loadsDepth arrival.raw = id.value := answerId_of_read found named
  have fails (never : ∀ result, Performs host arrival connection.subscriptions method params result →
      writes host.dumpsDepth (successResponse id result) = false) :
      ¬ ∃ result, Succeeds host arrival connection.subscriptions result := by
    rintro ⟨result, other, called, more, also, performs, written⟩
    obtain ⟨rfl, rfl, rfl⟩ := unique also
    rw [never result performs] at written
    cases written
  have tried : Tried host arrival connection id method params
      (answer host arrival id method params connection) := answer_tried
  rw [Settles, clear_request found named formed, process, parseRequest_of_read found read]
  dsimp only
  generalize outcome : answer host arrival id method params connection = ended at tried
  cases tried with
  | success performs written reportable =>
    refine .inl ⟨⟨writes_id_of_success written, reportable⟩, _, _, tryCatch_ok outcome,
      fun is => absurd is notNotification, fun _ => Or.inl ⟨_, ⟨id, method, params, request, performs, written⟩, ?_⟩⟩
    rw [answered]
    rfl
  | refused never written reportable =>
    rename_i error
    refine .inl ⟨⟨writes_id_of_error written, reportable⟩, _, connection.subscriptions, tryCatch_ok outcome,
      fun is => absurd is notNotification, fun _ => Or.inr ⟨?_, error, ?_⟩⟩
    · exact fails fun result performs => absurd performs (never result)
    rw [answered]
  | raised never reportable =>
    rename_i raised
    rw [tryCatch_error outcome, recover_eq, ← reportable, ← writes_handled]
    cases written : writes host.dumpsDepth (handled arrival id raised) with
    | true =>
      obtain ⟨error, eq⟩ : ∃ error, handled arrival id raised = errorMessage id.value error := handled_eq raised
      refine .inl ⟨rfl, _, connection.subscriptions, send_written written,
        fun is => absurd is notNotification, fun _ => Or.inr ⟨fails never, error, ?_⟩⟩
      rw [answered, eq]
    | false => exact .inr ⟨Bool.false_ne_true, _, _, send_unwritten written⟩

lemma settles : Settles host arrival connection := by
  cases found : loads host.loadsDepth arrival.raw with
  | error error => exact settles_undecoded found
  | ok value =>
    cases value with
    | obj body =>
      have parsed : Parsed body (readRequest body) := readRequest_parsed
      generalize read : readRequest body = outcome at parsed
      cases parsed with
      | anonymous => exact settles_refused found read
      | malformed => exact settles_refused found read
      | unknown => exact settles_refused found read
      | read named formed =>
        rename_i request
        obtain ⟨requestId, method, params⟩ := request
        cases requestId with
        | none => exact settles_notification found read named formed
        | some id => exact settles_request found read named formed
    | _ => exact settles_scalar found fun _ => nofun

end

section

variable {host : Host} {start last : Connection} {moves : List (Move Connection Action)}

def frames (moves : List (Move Connection Action)) : List (Arrival × List RunSubscription) :=
  moves.filterMap fun move =>
    match move.action with
    | .frame arrival => some (arrival, move.before.subscriptions)
    | .poll _ => none

lemma open_of_path (path : Path (connectionSystem host) start moves last) (isOpen : last.open_ = true) :
    start.open_ = true := by
  cases path with
  | nil => exact isOpen
  | cons action first rest =>
    cases first with
    | frame before small => exact before
    | poll before known => exact before

lemma receive_of_settles (arrival : Arrival) {connection : Connection} (isOpen : connection.open_ = true) :
    (Clear host arrival connection.subscriptions ∧ (receive host arrival connection).open_ = true ∧
        ∃ body, (receive host arrival connection).sent = connection.sent ++ [body] ∧
          Answers host arrival connection.subscriptions body) ∨
      (¬ Clear host arrival connection.subscriptions ∧ (receive host arrival connection).open_ = false) := by
  have settled : Settles host arrival connection := settles
  rcases settled with ⟨clear, body, subscriptions, done, answers⟩ | ⟨unclear, raised, after, failed⟩
  · refine .inl ⟨clear, ?_, body, ?_, answers⟩
    · rw [receive, done]
      exact isOpen
    rw [receive, done]
    rfl
  · refine .inr ⟨unclear, ?_⟩
    rw [receive, failed]

lemma clear_of_open (path : Path (connectionSystem host) start moves last) (isOpen : last.open_ = true) :
    ∀ frame ∈ frames moves, Clear host frame.1 frame.2 := by
  induction path with
  | nil => exact fun _ => List.not_mem_nil.elim
  | cons action first rest ih =>
    have later := ih isOpen
    have still := open_of_path rest isOpen
    cases first with
    | poll before known => exact later
    | frame before small =>
      rename_i arrival
      intro frame mem
      rcases List.mem_cons.1 mem with rfl | mem
      · rcases receive_of_settles arrival before with ⟨clear, -⟩ | ⟨-, closed⟩
        · exact clear
        rw [closed] at still
        cases still
      · exact later frame mem

lemma answered_of_clear (path : Path (connectionSystem host) start moves last) (isOpen : start.open_ = true)
    (clear : ∀ frame ∈ frames moves, Clear host frame.1 frame.2) :
    last.open_ = true ∧ ∃ bodies, last.sent = start.sent ++ bodies ∧
      List.Forall₂ (fun frame body => Answers host frame.1 frame.2 body) (frames moves) bodies := by
  induction path with
  | nil state => exact ⟨isOpen, [], (List.append_nil _).symm, .nil⟩
  | cons action first rest ih =>
    cases first with
    | poll before known => exact ih before clear
    | frame before small =>
      rename_i arrival
      rcases receive_of_settles arrival before with
        ⟨-, still, body, sent, answers⟩ | ⟨unclear, -⟩
      · obtain ⟨open_, bodies, more, all⟩ := ih still fun frame mem => clear frame (List.mem_cons_of_mem _ mem)
        refine ⟨open_, body :: bodies, ?_, .cons answers all⟩
        rw [more, sent, List.append_assoc, List.singleton_append]
      · exact absurd (clear _ List.mem_cons_self) unclear

/-- The connection stays open, and every frame gets its one answer, in the order of the frames,
exactly where every frame is clear. -/
theorem every_frame_answered_iff (host : Host) {start last : Connection}
    {moves : List (Move Connection Action)} (initialized : Initialized start)
    (path : Path (connectionSystem host) start moves last) :
    (last.open_ = true ∧
        List.Forall₂ (fun frame body => Answers host frame.1 frame.2 body) (frames moves) last.sent) ↔
      ∀ frame ∈ frames moves, Clear host frame.1 frame.2 := by
  obtain ⟨-, nothing, isOpen⟩ := initialized
  constructor
  · rintro ⟨still, -⟩
    exact clear_of_open path still
  intro clear
  obtain ⟨still, bodies, sent, all⟩ := answered_of_clear path isOpen clear
  rw [nothing, List.nil_append] at sent
  rw [sent]
  exact ⟨still, all⟩

end

/-! ## Two pings -/

def sampleHost : Host where
  loadsDepth := 100
  dumpsDepth := 100
  roomy := by decide
  validate := fun _ _ => .error (.arr [])
  emptyParams := fun params => if params.isEmpty then .ok () else .error (.arr [])
  runSubscribeParams := fun _ => .error (.arr [])
  runUnsubscribeParams := fun _ => .error (.arr [])
  maxMessageBytes := 262144
  maxSubscriptions := 32
  fewSubscriptions := by decide

def samplePing (id : String) : Arrival where
  raw := ("\x7b\"jsonrpc\":\"2.0\",\"id\":" ++ id ++ ",\"method\":\"server.ping\"\x7d").toList
  application := ⟨fun _ => .error .other, fun _ _ => .error .other⟩
  correlationId := .repeating 1
  subscriptionId := .repeating 2
  serverTime := "2026-08-26T00:00:00+00:00"

def samplePingBody (id : RequestId) : Members :=
  members [("jsonrpc", str "2.0"), ("id", id.value), ("method", str "server.ping")]

def sampleConnection : Connection := ⟨[], [], true⟩

def readsPing (id : RequestId) : Except Undecoded Value → Bool
  | .ok (.obj [(first, .str version), (second, own), (third, .str method)]) =>
    decide (first = text "jsonrpc" ∧ version = text "2.0" ∧ second = text "id" ∧ third = text "method" ∧
      method = text "server.ping") && match id, own with
        | .str value, .str found => decide (found = value)
        | .int value, .int found => decide (found = value)
        | _, _ => false
  | _ => false

lemma eq_of_readsPing {id : RequestId} {found : Except Undecoded Value} (reads : readsPing id found = true) :
    found = .ok (.obj (samplePingBody id)) := by
  unfold readsPing at reads
  split at reads
  · obtain ⟨texts, same⟩ := Bool.and_eq_true_iff.1 reads
    obtain ⟨rfl, rfl, rfl, rfl, rfl⟩ := of_decide_eq_true texts
    split at same
    · rw [samplePingBody, RequestId.value, of_decide_eq_true same]
      rfl
    · rw [samplePingBody, RequestId.value, of_decide_eq_true same]
      rfl
    · cases same
  · cases reads

lemma loads_samplePing :
    loads sampleHost.loadsDepth (samplePing "1").raw = .ok (.obj (samplePingBody (.int 1))) :=
  eq_of_readsPing (by decide +kernel)

lemma loads_sampleSurrogate : loads sampleHost.loadsDepth (samplePing "\"\\ud800\"").raw =
    .ok (.obj (samplePingBody (.str [.surrogate 0]))) :=
  eq_of_readsPing (by decide +kernel)

lemma get?_members (fields : List (String × Value)) (key : String) :
    get? (members fields) key = (fields.find? fun field => field.1 = key).map Prod.snd := by
  rw [get?, members, List.find?_map, Option.map_map]
  have eq (field : String × Value) : (text field.1 = text key) = (field.1 = key) :=
    propext text_injective.eq_iff
  simp only [Function.comp_def, eq]

lemma samplePing_formed (id : RequestId) : readId (samplePingBody id) = some (some id) ∧
      WellFormed (samplePingBody id) (text "server.ping") [] := by
  have field (key : String) := get?_members
    [("jsonrpc", str "2.0"), ("id", id.value), ("method", str "server.ping")] key
  refine ⟨readId_eq_some.2 (field "id"), ⟨field "jsonrpc", field "method", by decide, by decide,
    Or.inr ⟨field "params", rfl⟩⟩, fun field mem => ?_⟩
  obtain ⟨entry, inside, rfl⟩ := List.mem_map.1 mem
  have names : ∀ entry ∈ [("jsonrpc", str "2.0"), ("id", id.value), ("method", str "server.ping")],
      entry.1 ∈ ["jsonrpc", "id", "method", "params"] := by simp
  exact List.mem_map_of_mem (names entry inside)

lemma samplePing_path (id : String) (small : ((samplePing id).raw.map Char.utf8Size).sum ≤ 262144) :
    Path (connectionSystem sampleHost) sampleConnection
      [⟨sampleConnection, .frame (samplePing id), receive sampleHost (samplePing id) sampleConnection⟩]
      (receive sampleHost (samplePing id) sampleConnection) :=
  .cons _ (.frame rfl small) (.nil _)

lemma samplePing_clear : Clear sampleHost (samplePing "1") sampleConnection.subscriptions := by
  obtain ⟨named, formed⟩ := samplePing_formed (.int 1)
  exact (clear_request loads_samplePing named formed).2
    ⟨by decide, reportable_ping.2 fun _ invalid => nomatch invalid⟩

lemma frames_samplePing (id : String) : frames [(⟨sampleConnection, .frame (samplePing id),
      receive sampleHost (samplePing id) sampleConnection⟩ : Move Connection Action)] =
      [(samplePing id, sampleConnection.subscriptions)] := rfl

theorem every_frame_answered_sample : ∃ (last : Connection) (body : Value), last.sent = [body] ∧
      Answers sampleHost (samplePing "1") sampleConnection.subscriptions body := by
  have small : ((samplePing "1").raw.map Char.utf8Size).sum ≤ 262144 := by decide +kernel
  have answered := every_frame_answered_iff sampleHost ⟨rfl, rfl, rfl⟩ (samplePing_path "1" small)
  rw [frames_samplePing] at answered
  have clear : ∀ frame ∈ [(samplePing "1", sampleConnection.subscriptions)], Clear sampleHost frame.1 frame.2 := by
    intro frame member
    rw [List.mem_singleton.1 member]
    exact samplePing_clear
  obtain ⟨-, all⟩ := answered.2 clear
  obtain ⟨body, rest, answers, nothing, same⟩ := List.forall₂_cons_left_iff.1 all
  rw [List.forall₂_nil_left_iff.1 nothing] at same
  exact ⟨_, body, same, answers⟩

/-- A ping with half of a surrogate pair as its id ends the connection, and is not answered. -/
theorem surrogate_id_ends_connection :
    ∃ last : Connection, Reachable (connectionSystem sampleHost) last ∧
      last = receive sampleHost (samplePing "\"\\ud800\"") sampleConnection ∧
      IsRequest sampleHost.loadsDepth (samplePing "\"\\ud800\"").raw (.str [.surrogate 0])
        (text "server.ping") [] ∧
      last.open_ = false := by
  obtain ⟨named, formed⟩ := samplePing_formed (.str [.surrogate 0])
  have path := samplePing_path "\"\\ud800\"" (by decide +kernel)
  refine ⟨_, ⟨_, _, ⟨rfl, rfl, rfl⟩, path⟩, rfl, (isRequest_iff loads_sampleSurrogate).2 ⟨named, formed⟩, ?_⟩
  have opened : sampleConnection.open_ = true := rfl
  rcases receive_of_settles (samplePing "\"\\ud800\"") opened with ⟨clear, -⟩ | ⟨-, closed⟩
  · have written := ((clear_request loads_sampleSurrogate named formed).1 clear).1
    cases written
  exact closed

end Obsion.AppServer.Frames
