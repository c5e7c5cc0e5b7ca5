import Obsion.Lib.Transition

/-! # Transactions that lock the data they work on

A script is the body of a transaction: its statements read the data, write them, or
raise.  In a service every call locks one key with its first statement and keeps the lock
until it commits or rolls back, and the statements of calls on different keys may
interleave in any order.  `Service.serial_of_path` is the result: each commit does to the data of
its key what the whole script does at once, and nothing else changes the data. -/

namespace Obsion.Lib

inductive Script (Data ε α : Type)
  | returns (value : α)
  | raises (error : ε)
  | statement (write : Data → Data) (next : Data → Script Data ε α)

namespace Script

variable {Data ε α β : Type}

def bind : Script Data ε α → (α → Script Data ε β) → Script Data ε β
  | .returns value, next => next value
  | .raises error, _ => .raises error
  | .statement write rest, next => .statement write fun data => (rest data).bind next

instance : Monad (Script Data ε) where
  pure := .returns
  bind := bind

def execute (act : Data → Except ε (α × Data)) : Script Data ε α :=
  .statement
    (fun data => match act data with
      | .ok found => found.2
      | .error _ => data)
    fun data => match act data with
      | .ok found => .returns found.1
      | .error error => .raises error

def select (read : Data → Except ε α) : Script Data ε α :=
  execute fun data => (read data).map fun value => (value, data)

def update (write : Data → Except ε Data) : Script Data ε Unit :=
  execute fun data => (write data).map fun next => ((), next)

def ofExcept : Except ε α → Script Data ε α
  | .ok value => .returns value
  | .error error => .raises error

/-- Catch some of the errors; the data stay as the script left them. -/
def rescue {δ : Type} (caught : ε → Option δ) : Script Data ε α → Script Data ε (Except δ α)
  | .returns value => .returns (.ok value)
  | .raises error =>
    match caught error with
    | some failure => .returns (.error failure)
    | none => .raises error
  | .statement write next => .statement write fun data => (next data).rescue caught

/-- The whole script at once: its result and the data it leaves. -/
def run : Script Data ε α → Data → Except ε α × Data
  | .returns value, data => (.ok value, data)
  | .raises error, data => (.error error, data)
  | .statement write next, data => (next data).run (write data)

/-- From `before` the script returns the value and leaves `after`. -/
def Returns (script : Script Data ε α) (before : Data) (value : α) (after : Data) : Prop :=
  script.run before = (.ok value, after)

variable {before after : Data} {value : α}

lemma returns_pure {found : α} :
    (pure found : Script Data ε α).Returns before value after ↔ found = value ∧ before = after := by
  change ((.ok found, before) : Except ε α × Data) = (.ok value, after) ↔ _
  simp

lemma not_returns_raises {error : ε} : ¬ (raises error : Script Data ε α).Returns before value after := by
  intro run
  cases congrArg Prod.fst run

lemma returns_bind {script : Script Data ε α} {next : α → Script Data ε β} {result : β} :
    (script >>= next).Returns before result after ↔
      ∃ value middle, script.Returns before value middle ∧ (next value).Returns middle result after := by
  change (script.bind next).run before = (.ok result, after) ↔ _
  induction script generalizing before with
  | returns found =>
    constructor
    · intro run
      exact ⟨found, before, rfl, run⟩
    rintro ⟨value, middle, first, second⟩
    obtain ⟨rfl, rfl⟩ := returns_pure.1 first
    exact second
  | raises error =>
    constructor
    · intro run
      cases congrArg Prod.fst run
    rintro ⟨value, middle, first, second⟩
    exact absurd first not_returns_raises
  | statement write rest ih => exact ih before

lemma run_bind (script : Script Data ε α) (next : α → Script Data ε β) (data : Data) :
    (script >>= next).run data = match script.run data with
      | (.ok value, middle) => (next value).run middle
      | (.error error, middle) => (.error error, middle) := by
  change (script.bind next).run data = _
  induction script generalizing data with
  | returns | raises => rfl
  | statement write rest ih => exact ih data (write data)

lemma run_rescue {δ : Type} (caught : ε → Option δ) (script : Script Data ε α) (data : Data) :
    (script.rescue caught).run data = match script.run data with
      | (.ok value, middle) => (.ok (.ok value), middle)
      | (.error error, middle) =>
        match caught error with
        | some failure => (.ok (.error failure), middle)
        | none => (.error error, middle) := by
  induction script generalizing data with
  | returns found => rfl
  | raises error =>
    simp only [rescue, run]
    cases caught error <;> rfl
  | statement write rest ih => exact ih data (write data)

lemma run_execute (act : Data → Except ε (α × Data)) (data : Data) :
    (execute act).run data = match act data with
      | .ok found => (.ok found.1, found.2)
      | .error error => (.error error, data) := by
  cases acted : act data with
  | ok | error => simp only [execute, run, acted]

lemma returns_execute {act : Data → Except ε (α × Data)} :
    (execute act).Returns before value after ↔ act before = .ok (value, after) := by
  cases acted : act before with
  | ok found =>
    have whole : (execute act).run before = (.ok found.1, found.2) := by
      simp only [execute, run, acted]
    rw [Returns, whole]
    obtain ⟨value, data⟩ := found
    simp
  | error error =>
    have whole : (execute act).run before = (.error error, before) := by
      simp only [execute, run, acted]
    rw [Returns, whole]
    simp

lemma returns_select {read : Data → Except ε α} :
    (select read).Returns before value after ↔ read before = .ok value ∧ before = after := by
  rw [select, returns_execute]
  cases read before with
  | ok | error => simp [Except.map]

lemma returns_update {write : Data → Except ε Data} {value : Unit} :
    (update write).Returns before value after ↔ write before = .ok after := by
  rw [update, returns_execute]
  cases write before with
  | ok | error => simp [Except.map]

lemma returns_ofExcept {outcome : Except ε α} :
    (ofExcept outcome).Returns before value after ↔ outcome = .ok value ∧ before = after := by
  cases outcome with
  | ok found =>
    rw [Except.ok.injEq]
    exact returns_pure
  | error error =>
    constructor
    · intro run
      exact absurd run not_returns_raises
    rintro ⟨eq, -⟩
    cases eq

end Script

/-! ## Concurrent sessions -/

/-- The calls of a service: the key that each one locks, and its transaction. -/
structure Service (Key Data Call ε α : Type) where
  key : Call → Key
  script : Call → Script Data ε α

/-- A transaction in progress: what it sees, and the statements that are left. -/
structure Session (Data Call ε α : Type) where
  call : Call
  data : Data
  rest : Script Data ε α

structure Shared (Key Data Call ε α : Type) where
  committed : Key → Data
  /-- Session `number` is at this position; `none` once it has ended. -/
  sessions : List (Option (Session Data Call ε α))

inductive SessionAction (Call : Type)
  | begin_ (call : Call)
  | statement (number : Nat)
  | commit (number : Nat)
  | rollback (number : Nat)

section
variable {Key Data Call ε α : Type} [DecidableEq Key]

def Shared.session (world : Shared Key Data Call ε α) (number : Nat) :
    Option (Session Data Call ε α) :=
  (world.sessions[number]?).join

namespace Service

variable (service : Service Key Data Call ε α)

def free (world : Shared Key Data Call ε α) (key : Key) : Bool :=
  world.sessions.all fun session => session.all fun open_ => decide (service.key open_.call ≠ key)

def advance (session : Session Data Call ε α) : Option (Session Data Call ε α) :=
  match session.rest with
  | .statement write next =>
    some { session with data := write session.data, rest := next session.data }
  | _ => none

def perform (world : Shared Key Data Call ε α) : SessionAction Call → Option (Shared Key Data Call ε α)
  | .begin_ call =>
    if service.free world (service.key call) then
      some { world with
        sessions := world.sessions ++
          [some ⟨call, world.committed (service.key call), service.script call⟩] }
    else none
  | .statement number =>
    ((world.session number).bind advance).map fun session =>
      { world with sessions := world.sessions.set number (some session) }
  | .commit number =>
    match world.session number with
    | some ⟨call, data, .returns _⟩ =>
      some { committed := Function.update world.committed (service.key call) data
             sessions := world.sessions.set number none }
    | _ => none
  | .rollback number =>
    (world.session number).map fun _ =>
      { world with sessions := world.sessions.set number none }

def system (init : (Key → Data) → Prop) : System (Shared Key Data Call ε α) (SessionAction Call) :=
  System.ofPartial (fun world => init world.committed ∧ world.sessions = []) service.perform

/-- No session sees anything but what its own statements made of the committed data. -/
structure Locked (world : Shared Key Data Call ε α) : Prop where
  exclusive : ∀ left right first second, world.session left = some first →
    world.session right = some second → service.key first.call = service.key second.call →
    left = right
  current : ∀ number session, world.session number = some session → session.rest.run session.data
      = (service.script session.call).run (world.committed (service.key session.call))

inductive Serial (before : Shared Key Data Call ε α) (action : SessionAction Call)
    (after : Shared Key Data Call ε α) : Prop
  | idle (quiet : ∀ number, action ≠ .commit number) (same : after.committed = before.committed)
  | committed (number : Nat) (call : Call) (value : α) (data : Data)
      (commits : action = .commit number)
      (held : before.session number = some ⟨call, data, .returns value⟩)
      (runs : (service.script call).Returns (before.committed (service.key call)) value data)
      (same : after.committed = Function.update before.committed (service.key call) data)

variable {service} {before after : Shared Key Data Call ε α} {action : SessionAction Call}

omit [DecidableEq Key] in
lemma session_set {world : Shared Key Data Call ε α} {committed : Key → Data} {number : Nat}
    {session : Option (Session Data Call ε α)} {found : Session Data Call ε α} {other : Nat}
    (held : (Shared.mk committed (world.sessions.set number session)).session other = some found) :
    (other = number ∧ session = some found) ∨ (other ≠ number ∧ world.session other = some found) := by
  simp only [Shared.session, List.getElem?_set] at held
  by_cases eq : number = other
  · rw [if_pos eq] at held
    split at held
    · exact .inl ⟨eq.symm, held⟩
    cases held
  · rw [if_neg eq] at held
    exact .inr ⟨Ne.symm eq, held⟩

omit [DecidableEq Key] in
lemma session_append {world : Shared Key Data Call ε α} {session found : Session Data Call ε α}
    {other : Nat}
    (held : (Shared.mk world.committed (world.sessions ++ [some session])).session other = some found) :
    (other = world.sessions.length ∧ session = found) ∨ world.session other = some found := by
  simp only [Shared.session] at held
  rcases Nat.lt_trichotomy other world.sessions.length with earlier | eq | later
  · rw [List.getElem?_append_left earlier] at held
    exact .inr held
  · subst eq
    rw [List.getElem?_concat_length] at held
    exact .inl ⟨rfl, Option.some.inj held⟩
  · rw [List.getElem?_eq_none (by simpa using later)] at held
    cases held

lemma free_apart {world : Shared Key Data Call ε α} {key : Key} (free : service.free world key = true)
    {number : Nat} {session : Session Data Call ε α} (held : world.session number = some session) :
    service.key session.call ≠ key := by
  have mem : some session ∈ world.sessions := by
    obtain ⟨found, stored, eq⟩ := Option.bind_eq_some_iff.1
      (show (world.sessions[number]?).bind id = some session from held)
    rw [id_eq] at eq
    exact eq ▸ List.mem_of_getElem? stored
  have apart := List.all_eq_true.1 free (some session) mem
  exact of_decide_eq_true apart

lemma advance_run {session next : Session Data Call ε α} (run : advance session = some next) :
    next.call = session.call ∧ next.rest.run next.data = session.rest.run session.data := by
  obtain ⟨call, data, rest⟩ := session
  cases rest with
  | returns | raises => cases run
  | statement write rest =>
    cases run
    exact ⟨rfl, rfl⟩

omit [DecidableEq Key] in
lemma Locked.drop (locked : service.Locked before) (number : Nat) :
    service.Locked { before with sessions := before.sessions.set number none } where
  exclusive := by
    intro left right first second leftHeld rightHeld eq
    rcases session_set leftHeld with ⟨-, gone⟩ | ⟨-, leftHeld⟩
    · cases gone
    rcases session_set rightHeld with ⟨-, gone⟩ | ⟨-, rightHeld⟩
    · cases gone
    exact locked.exclusive left right first second leftHeld rightHeld eq
  current := by
    intro other session held
    rcases session_set held with ⟨-, gone⟩ | ⟨-, held⟩
    · cases gone
    exact locked.current other session held

lemma Locked.begin_ (locked : service.Locked before) {call : Call}
    (free : service.free before (service.key call) = true) : service.Locked { before with
      sessions := before.sessions ++
        [some ⟨call, before.committed (service.key call), service.script call⟩] } where
  exclusive := by
    intro left right first second leftHeld rightHeld eq
    rcases session_append leftHeld with ⟨rfl, rfl⟩ | leftHeld
    · rcases session_append rightHeld with ⟨rfl, rfl⟩ | rightHeld
      · rfl
      exact absurd eq.symm (free_apart free rightHeld)
    · rcases session_append rightHeld with ⟨rfl, rfl⟩ | rightHeld
      · exact absurd eq (free_apart free leftHeld)
      exact locked.exclusive left right first second leftHeld rightHeld eq
  current := by
    intro other session held
    rcases session_append held with ⟨rfl, rfl⟩ | held
    · rfl
    exact locked.current other session held

omit [DecidableEq Key] in
lemma Locked.statement (locked : service.Locked before) {number : Nat}
    {session next : Session Data Call ε α} (held : before.session number = some session)
    (run : advance session = some next) :
    service.Locked { before with sessions := before.sessions.set number (some next) } := by
  obtain ⟨sameCall, sameRun⟩ := advance_run run
  have former : ∀ other found,
      (Shared.mk before.committed (before.sessions.set number (some next))).session other = some found →
      ∃ old, before.session other = some old ∧ old.call = found.call ∧
        old.rest.run old.data = found.rest.run found.data := by
    intro other found located
    rcases session_set located with ⟨rfl, eq⟩ | ⟨-, kept⟩
    · cases eq
      exact ⟨session, held, sameCall.symm, sameRun.symm⟩
    exact ⟨found, kept, rfl, rfl⟩
  constructor
  · intro left right first second leftHeld rightHeld eq
    obtain ⟨oldLeft, leftHeld, leftCall, -⟩ := former left first leftHeld
    obtain ⟨oldRight, rightHeld, rightCall, -⟩ := former right second rightHeld
    refine locked.exclusive left right oldLeft oldRight leftHeld rightHeld ?_
    rw [leftCall, rightCall]
    exact eq
  · intro other found located
    obtain ⟨old, oldHeld, sameCall, sameRun⟩ := former other found located
    rw [← sameRun, ← sameCall]
    exact locked.current other old oldHeld

lemma Locked.commit (locked : service.Locked before) {number : Nat}
    {session : Session Data Call ε α} (held : before.session number = some session) (data : Data) :
    service.Locked ⟨Function.update before.committed (service.key session.call) data,
      before.sessions.set number none⟩ where
  exclusive := (locked.drop number).exclusive
  current := by
    intro other found located
    rcases session_set located with ⟨-, gone⟩ | ⟨apart, kept⟩
    · cases gone
    -- The committing session holds the lock of its key alone.
    have otherKey : service.key found.call ≠ service.key session.call := by
      intro eq
      exact apart (locked.exclusive other number found session kept held eq)
    have eq := locked.current other found kept
    rwa [← Function.update_of_ne otherKey data before.committed] at eq

lemma Locked.perform (locked : service.Locked before) (step : service.perform before action = some after) :
    service.Locked after ∧ service.Serial before action after := by
  cases action with
  | begin_ call =>
    simp only [Service.perform] at step
    split at step
    · next free =>
      cases step
      exact ⟨locked.begin_ free, .idle (by simp) rfl⟩
    · cases step
  | statement number =>
    obtain ⟨next, advanced, rfl⟩ := Option.map_eq_some_iff.1 step
    obtain ⟨session, held, run⟩ := Option.bind_eq_some_iff.1 advanced
    exact ⟨locked.statement held run, .idle (by simp) rfl⟩
  | commit number =>
    simp only [Service.perform] at step
    split at step
    · next call data value held =>
      cases step
      have runs := locked.current number _ held
      exact ⟨locked.commit held data, .committed number call value data rfl held runs.symm rfl⟩
    · cases step
  | rollback number =>
    obtain ⟨session, held, rfl⟩ := Option.map_eq_some_iff.1 step
    exact ⟨locked.drop number, .idle (by simp) rfl⟩

variable {init : (Key → Data) → Prop}

lemma locked_start {start : Shared Key Data Call ε α} (initial : (service.system init).init start) :
    service.Locked start := by
  have empty : start.sessions = [] := initial.2
  have none_ : ∀ number, start.session number = none := by
    intro number
    simp [Shared.session, empty]
  constructor
  · intro left right first second held
    rw [none_ left] at held
    cases held
  · intro number session held
    rw [none_ number] at held
    cases held

lemma serial_of_path {start last : Shared Key Data Call ε α}
    {moves : List (Move (Shared Key Data Call ε α) (SessionAction Call))}
    (path : Path (service.system init) start moves last)
    (initial : (service.system init).init start) :
    ∀ move ∈ moves, service.Serial move.before move.action move.after := by
  intro move mem
  obtain ⟨earlier, later, rfl⟩ := List.append_of_mem mem
  obtain ⟨first, step, -⟩ := path.split_move
  have locked : service.Locked move.before :=
    first.preserved (fun before action after holds step => (holds.perform step).1) (locked_start initial)
  exact (locked.perform step).2

lemma holds_of_path {Holds : Key → Data → Prop}
    (initially : ∀ committed, init committed → ∀ key, Holds key (committed key))
    (preserved : ∀ call data value next, Holds (service.key call) data →
      (service.script call).Returns data value next → Holds (service.key call) next)
    {start last : Shared Key Data Call ε α}
    {moves : List (Move (Shared Key Data Call ε α) (SessionAction Call))}
    (path : Path (service.system init) start moves last)
    (initial : (service.system init).init start) (key : Key) : Holds key (last.committed key) := by
  let Both : Shared Key Data Call ε α → Prop := fun world =>
    service.Locked world ∧ ∀ key, Holds key (world.committed key)
  have first : Both start := ⟨locked_start initial, initially _ initial.1⟩
  have both : Both last := by
    refine path.preserved ?_ first
    rintro before action after ⟨locked, holds⟩ step
    obtain ⟨kept, serial⟩ := locked.perform step
    refine ⟨kept, ?_⟩
    cases serial with
    | idle quiet eq =>
      rw [eq]
      exact holds
    | committed number call value data _ _ runs eq =>
      intro key
      rw [eq]
      by_cases here : key = service.key call
      · subst here
        rw [Function.update_self]
        exact preserved call _ value data (holds _) runs
      · rw [Function.update_of_ne here]
        exact holds key
  exact both.2 key

end Service

end

end Obsion.Lib
