import Mathlib.Data.Finset.Sort
import Mathlib.Tactic

/-! # Recovery of the Inbox

`run_inbox_worker` of the adapter, whose `stop` stays unset: one step is a poll, a `process` call,
or the end of a batch or of a round.  Events are their ids. -/

namespace Obsion.Im.Inbox

/-- The arguments that `run_inbox_worker` accepts. -/
structure Settings where
  limit : Nat
  maxEvents : Nat
  limit_range : 1 ≤ limit ∧ limit ≤ 20
  maxEvents_pos : 0 < maxEvents

structure WorkerResult where
  processed : Nat := 0
  failed : Nat := 0
  pollsFailed : Nat := 0

/-- Before a poll, among the items of a batch, or between two rounds. -/
inductive Point
  | poll
  | batch (items : List Nat) (full : Bool)
  | wait

structure Worker where
  received : Finset Nat
  after : Option Nat := none
  attempted : Nat := 0
  point : Point := .wait
  result : WorkerResult := {}

/-- What happens around one step: the new events, whether `pending` returns, whether the event
becomes PROCESSED, and whether the response of `process` arrives. -/
structure Outcome where
  arrived : Finset Nat := ∅
  polled : Bool := true
  processed : Bool := true
  answered : Bool := true

def past (events : Finset Nat) (after : Option Nat) : Finset Nat :=
  events.filter fun event => ∀ cursor ∈ after, cursor < event

def pending (received : Finset Nat) (limit : Nat) (after : Option Nat) : List Nat :=
  ((past received after).sort (· ≤ ·)).take limit

/-- The check of the page order. -/
def ordered (after : Option Nat) (items : List Nat) : Bool :=
  decide ((after.toList ++ items).IsChain (· < ·))

def batchLimit (settings : Settings) (worker : Worker) : Nat :=
  min settings.limit (settings.maxEvents - worker.attempted)

def page (settings : Settings) (worker : Worker) : List Nat :=
  pending worker.received (batchLimit settings worker) worker.after

/-- The condition of the inner loop. -/
def loop (settings : Settings) (worker : Worker) : Worker :=
  { worker with point := if worker.attempted < settings.maxEvents then .poll else .wait }

def reset (worker : Worker) : Worker := { worker with after := none, point := .wait }

def poll (settings : Settings) (outcome : Outcome) (worker : Worker) : Worker :=
  let items := page settings worker
  if outcome.polled && ordered worker.after items then
    if items.isEmpty then reset worker
    else { worker with point := .batch items (!decide (items.length < batchLimit settings worker)) }
  else
    { worker with
      point := .wait
      result := { worker.result with pollsFailed := worker.result.pollsFailed + 1 } }

/-- `process` raises unless its response says PROCESSED. -/
def process (item : Nat) (outcome : Outcome) (worker : Worker) : Worker :=
  { worker with
    received := if outcome.processed then worker.received.erase item else worker.received
    after := some item
    attempted := worker.attempted + 1
    result :=
      if outcome.processed && outcome.answered then
        { worker.result with processed := worker.result.processed + 1 }
      else { worker.result with failed := worker.result.failed + 1 } }

def arrive (outcome : Outcome) (worker : Worker) : Worker :=
  { worker with received := worker.received ∪ outcome.arrived }

def step (settings : Settings) (outcome : Outcome) (worker : Worker) : Worker :=
  match worker.point with
  | .wait => loop settings { arrive outcome worker with attempted := 0 }
  | .poll => poll settings outcome (arrive outcome worker)
  | .batch [] true => loop settings (arrive outcome worker)
  | .batch [] false => reset (arrive outcome worker)
  | .batch (item :: later) full =>
    { process item outcome (arrive outcome worker) with point := .batch later full }

/-- The event that the next step attempts. -/
def tries (worker : Worker) : Option Nat :=
  match worker.point with
  | .batch (item :: _) _ => some item
  | _ => none

/-- Whether the next step resets the cursor. -/
def resets (settings : Settings) (outcome : Outcome) (worker : Worker) : Bool :=
  match worker.point with
  | .poll => outcome.polled && (page settings (arrive outcome worker)).isEmpty
  | .batch [] full => !full
  | _ => false

section
variable {settings : Settings} {outcome : Outcome} {worker next : Worker} {event : Nat}
  {known : Set Nat}

/-! ## Pages -/

lemma mem_past {events : Finset Nat} {after : Option Nat} :
    event ∈ past events after ↔ event ∈ events ∧ ∀ cursor ∈ after, cursor < event :=
  Finset.mem_filter

lemma past_arrive (outcome : Outcome) (mem : event ∈ past worker.received worker.after) :
    event ∈ past (arrive outcome worker).received worker.after :=
  mem_past.2 ((mem_past.1 mem).imp_left (Finset.mem_union_left _))

lemma mem_past_of_mem_page (mem : event ∈ page settings worker) :
    event ∈ past worker.received worker.after :=
  (Finset.mem_sort _).1 (List.mem_of_mem_take mem)

lemma pairwise_page : (worker.after.toList ++ page settings worker).Pairwise (· < ·) := by
  rw [List.pairwise_append]
  refine ⟨by cases worker.after <;> simp, (Finset.sortedLT_sort _).pairwise.take, ?_⟩
  intro cursor here item mem
  exact (mem_past.1 (mem_past_of_mem_page mem)).2 cursor (Option.mem_toList.1 here)

lemma ordered_page : ordered worker.after (page settings worker) = true :=
  decide_eq_true (List.isChain_iff_pairwise.2 pairwise_page)

/-- A page leaves out only events past its end, and only when it is full. -/
lemma mem_page_or (settings : Settings) (mem : event ∈ past worker.received worker.after) :
    event ∈ page settings worker ∨ (page settings worker).length = batchLimit settings worker ∧
      ∀ item ∈ page settings worker, item < event := by
  have inside := (Finset.mem_sort (· ≤ ·)).2 mem
  have sorted := (Finset.sortedLT_sort (past worker.received worker.after)).pairwise
  rw [← List.take_append_drop (batchLimit settings worker) (Finset.sort _ _)] at inside sorted
  rcases List.mem_append.1 inside with taken | dropped
  · exact .inl taken
  refine .inr ⟨?_, fun item taken => (List.pairwise_append.1 sorted).2.2 item taken event dropped⟩
  have := List.length_pos_of_mem dropped
  rw [List.length_drop] at this
  rw [page, pending, List.length_take]
  omega

/-! ## One step -/

/-- What every step keeps; `known` holds the events that ever arrive. -/
structure Valid (settings : Settings) (known : Set Nat) (worker : Worker) : Prop where
  received : ∀ event ∈ worker.received, event ∈ known
  point : match worker.point with
    | .wait => worker.attempted ≤ settings.maxEvents
    | .poll => worker.attempted < settings.maxEvents
    | .batch items _ => worker.attempted + items.length ≤ settings.maxEvents ∧
        (worker.after.toList ++ items).Pairwise (· < ·) ∧ ∀ item ∈ items, item ∈ known

/-- The cursor has not passed the event, and a batch that leaves it out is followed by a poll. -/
def Ahead (event : Nat) (worker : Worker) : Prop :=
  event ∈ past worker.received worker.after ∧ match worker.point with
    | .batch items full => event ∈ items ∨ full = true ∧ ∀ item ∈ items, item < event
    | _ => True

/-- How far a point is from the next attempt. -/
def distance : Point → Nat
  | .batch (_ :: _) _ => 0
  | .poll => 1
  | .wait => 2
  | .batch [] _ => 3

/-- What one step does. -/
structure Stepped (settings : Settings) (known : Set Nat) (outcome : Outcome)
    (worker next : Worker) : Prop where
  valid : Valid settings known next
  received : ∀ event ∈ worker.received, tries worker ≠ some event → event ∈ next.received
  attempted : worker.point ≠ .wait → next.attempted = worker.attempted + (tries worker).toList.length
  reset : resets settings outcome worker = true → next.after = none ∧ next.point = .wait
  cursor : resets settings outcome worker = false → next.after = (tries worker).or worker.after ∧
    ∀ item ∈ tries worker, item ∈ known ∧ ∀ cursor ∈ worker.after, cursor < item
  ahead : ∀ event, Ahead event worker → resets settings outcome worker = false ∧
    (tries worker ≠ some event → Ahead event next)
  closer : resets settings outcome worker = false → tries worker = none →
    (worker.point = .poll → outcome.polled = true) → distance next.point < distance worker.point

lemma loop_point (settings : Settings) (worker : Worker) :
    (loop settings worker).point = .poll ∨ (loop settings worker).point = .wait := by
  rw [loop]
  split
  · exact .inl rfl
  · exact .inr rfl

lemma valid_loop (received : ∀ event ∈ worker.received, event ∈ known)
    (bound : worker.attempted ≤ settings.maxEvents) :
    Valid settings known (loop settings worker) := by
  refine ⟨received, ?_⟩
  by_cases below : worker.attempted < settings.maxEvents
  · simpa only [loop, if_pos below] using below
  · simpa only [loop, if_neg below] using bound

/-- A step that neither attempts an event nor resets the cursor, and leaves no batch. -/
lemma stepped_quiet (valid : Valid settings known next)
    (received : next.received = (arrive outcome worker).received)
    (after : next.after = worker.after) (still : resets settings outcome worker = false)
    (idle : tries worker = none)
    (attempted : worker.point ≠ .wait → next.attempted = worker.attempted)
    (point : next.point = .poll ∨ next.point = .wait)
    (closer : (worker.point = .poll → outcome.polled = true) →
      distance next.point < distance worker.point) :
    Stepped settings known outcome worker next where
  valid := valid
  received event mem _ := received ▸ Finset.mem_union_left _ mem
  attempted running := by rw [idle, attempted running]; rfl
  reset cleared := absurd cleared (Bool.eq_false_iff.1 still)
  cursor _ := by rw [idle]; exact ⟨after, nofun⟩
  ahead event ahead := by
    refine ⟨still, fun _ => ⟨?_, ?_⟩⟩
    · rw [received, after]
      exact past_arrive _ ahead.1
    · rcases point with point | point <;> rw [point] <;> trivial
  closer _ _ := closer

lemma stepped_reset (received : ∀ event ∈ (arrive outcome worker).received, event ∈ known)
    (cleared : resets settings outcome worker = true) (idle : tries worker = none)
    (bound : worker.attempted ≤ settings.maxEvents) (blocked : ∀ event, ¬ Ahead event worker) :
    Stepped settings known outcome worker (reset (arrive outcome worker)) where
  valid := ⟨received, bound⟩
  received event mem _ := Finset.mem_union_left _ mem
  attempted _ := by rw [idle]; rfl
  reset _ := ⟨rfl, rfl⟩
  cursor still := absurd cleared (Bool.eq_false_iff.1 still)
  ahead event ahead := absurd ahead (blocked event)
  closer still := absurd cleared (Bool.eq_false_iff.1 still)

lemma stepped_poll (valid : Valid settings known worker)
    (received : ∀ event ∈ (arrive outcome worker).received, event ∈ known)
    (point : worker.point = .poll) :
    Stepped settings known outcome worker (poll settings outcome (arrive outcome worker)) := by
  have bound := valid.point
  rw [point] at bound
  have idle : tries worker = none := by rw [tries, point]
  have ahead_page : ∀ event, Ahead event worker → _ := fun event ahead =>
    mem_page_or settings (past_arrive outcome ahead.1)
  have decides : resets settings outcome worker =
      (outcome.polled && (page settings (arrive outcome worker)).isEmpty) := by rw [resets, point]
  rw [poll, ordered_page, Bool.and_true]
  split
  next polled =>
    rw [polled, Bool.true_and] at decides
    split
    next empty =>
      refine stepped_reset received (decides.trans empty) idle bound.le fun event ahead => ?_
      have found := ahead_page event ahead
      rw [List.isEmpty_iff.1 empty] at found
      rcases found with inside | ⟨short, -⟩
      · cases inside
      · exact absurd short (Nat.lt_min.2 ⟨settings.limit_range.1, Nat.sub_pos_of_lt bound⟩).ne
    next filled =>
      have still := decides.trans (Bool.eq_false_iff.2 filled)
      have size : (page settings (arrive outcome worker)).length ≤
          settings.maxEvents - worker.attempted :=
        (List.length_take_le _ _).trans (Nat.min_le_right _ _)
      refine ⟨⟨received, Nat.add_le_of_le_sub' bound.le size, pairwise_page,
          fun item mem => received item (mem_past.1 (mem_past_of_mem_page mem)).1⟩,
        fun event mem _ => Finset.mem_union_left _ mem, fun _ => by rw [idle]; rfl,
        fun cleared => absurd cleared (Bool.eq_false_iff.1 still),
        fun _ => by rw [idle]; exact ⟨rfl, nofun⟩,
        fun event ahead => ⟨still, fun _ => ⟨past_arrive _ ahead.1, ?_⟩⟩, fun _ _ _ => ?_⟩
      · refine (ahead_page event ahead).imp_right fun full => ⟨?_, full.2⟩
        rw [full.1, decide_eq_false (lt_irrefl _)]
        rfl
      · rw [point]
        dsimp only
        cases items : page settings (arrive outcome worker) with
        | nil => exact absurd (List.isEmpty_iff.2 items) filled
        | cons item later => exact Nat.zero_lt_one
  next failed =>
    refine stepped_quiet ⟨received, bound.le⟩ rfl rfl ?_ idle (fun _ => rfl) (.inr rfl)
      fun polled => absurd (polled point) failed
    rw [decides, Bool.eq_false_iff.2 failed, Bool.false_and]

lemma stepped_item {item : Nat} {later : List Nat} {full : Bool} (valid : Valid settings known worker)
    (received : ∀ event ∈ (arrive outcome worker).received, event ∈ known)
    (point : worker.point = .batch (item :: later) full) :
    Stepped settings known outcome worker
      { process item outcome (arrive outcome worker) with point := .batch later full } := by
  have bound := valid.point
  rw [point] at bound
  obtain ⟨bound, sorted, inside⟩ := bound
  obtain ⟨-, sorted, above⟩ := List.pairwise_append.1 sorted
  have attempts : tries worker = some item := by rw [tries, point]
  have still : resets settings outcome worker = false := by rw [resets, point]
  have kept : ∀ event ∈ worker.received, tries worker ≠ some event →
      event ∈ (process item outcome (arrive outcome worker)).received := by
    intro event mem other
    have differs : event ≠ item := fun eq => other (eq ▸ attempts)
    rw [process]
    split
    · exact Finset.mem_erase.2 ⟨differs, Finset.mem_union_left _ mem⟩
    · exact Finset.mem_union_left _ mem
  refine ⟨⟨fun event mem => received event ?_, ?_, sorted, fun other mem => inside other (List.mem_cons_of_mem _ mem)⟩,
    kept, fun _ => by rw [attempts]; rfl,
    fun cleared => absurd cleared (Bool.eq_false_iff.1 still), fun _ => ?_,
    fun event ahead => ⟨still, fun other => ?_⟩, fun _ idle => ?_⟩
  · rw [process] at mem
    split at mem
    · exact Finset.mem_of_mem_erase mem
    · exact mem
  · rw [List.length_cons] at bound
    simp only [process, arrive]
    omega
  · rw [attempts]
    refine ⟨rfl, ?_⟩
    rintro _ ⟨⟩
    exact ⟨inside item List.mem_cons_self,
      fun cursor here => above cursor (Option.mem_toList.2 here) item List.mem_cons_self⟩
  · obtain ⟨mem, there⟩ := ahead
    rw [point] at there
    have differs : event ≠ item := fun eq => other (eq ▸ attempts)
    have there := there.imp_left fun mem => (List.mem_cons.1 mem).resolve_left differs
    refine ⟨mem_past.2 ⟨kept event (mem_past.1 mem).1 other, ?_⟩, there.imp_right fun both =>
      ⟨both.1, fun other mem => both.2 other (List.mem_cons_of_mem _ mem)⟩⟩
    rintro _ ⟨⟩
    rcases there with mem | ⟨-, below⟩
    · exact (List.pairwise_cons.1 sorted).1 event mem
    · exact below item List.mem_cons_self
  · rw [attempts] at idle
    cases idle

lemma stepped (valid : Valid settings known worker)
    (arrived : ∀ event ∈ outcome.arrived, event ∈ known) :
    Stepped settings known outcome worker (step settings outcome worker) := by
  have received : ∀ event ∈ (arrive outcome worker).received, event ∈ known := fun event mem =>
    (Finset.mem_union.1 mem).elim (valid.received event) (arrived event)
  have bound := valid.point
  rw [step]
  cases point : worker.point with
  | wait =>
    refine stepped_quiet (valid_loop received (Nat.zero_le _)) rfl rfl (by rw [resets, point])
      (by rw [tries, point]) (fun running => absurd point running) (loop_point _ _) fun _ => ?_
    simp only [point, loop, if_pos settings.maxEvents_pos, distance, Nat.one_lt_two]
  | poll => exact stepped_poll valid received point
  | batch items full =>
    rw [point] at bound
    cases items with
    | nil =>
      have idle : tries worker = none := by rw [tries, point]
      cases full with
      | true =>
        refine stepped_quiet (valid_loop received bound.1) rfl rfl (by rw [resets, point]; rfl) idle
          (fun _ => rfl) (loop_point _ _) fun _ => ?_
        rcases loop_point settings (arrive outcome worker) with next | next <;>
          rw [next, point] <;> decide
      | false =>
        refine stepped_reset received (by rw [resets, point]; rfl) idle bound.1 fun event ahead => ?_
        have there := ahead.2
        rw [point] at there
        exact there.elim List.not_mem_nil fun both => Bool.false_ne_true both.1
    | cons item later => exact stepped_item valid received point

end

/-! ## Runs -/

/-- The arguments of a run, the events RECEIVED when it starts and what happens around it. -/
structure History where
  settings : Settings
  received : Finset Nat
  outcomes : Nat → Outcome

namespace History

def run (history : History) : Nat → Worker
  | 0 => { received := history.received }
  | time + 1 => step history.settings (history.outcomes time) (history.run time)

variable (history : History)

/-- The events attempted in the steps from the first time to before the last. -/
def attempts (first last : Nat) : List Nat :=
  (List.range' first (last - first)).filterMap fun time => tries (history.run time)

def resetAt (time : Nat) : Bool :=
  resets history.settings (history.outcomes time) (history.run time)

/-- The events that are ever in the Inbox. -/
def known : Set Nat :=
  {event | event ∈ history.received ∨ ∃ time, event ∈ (history.outcomes time).arrived}

def failedPolls : Set Nat :=
  {time | (history.run time).point = .poll ∧ (history.outcomes time).polled = false}

variable {history} {first last time event : Nat}

lemma valid_run : Valid history.settings history.known (history.run time) := by
  induction time with
  | zero => exact ⟨fun event mem => .inl mem, Nat.zero_le _⟩
  | succ time ih => exact (stepped ih fun event mem => .inr ⟨time, mem⟩).valid

lemma stepped_run : Stepped history.settings history.known (history.outcomes time)
    (history.run time) (history.run (time + 1)) :=
  stepped valid_run fun _ mem => .inr ⟨time, mem⟩

lemma attempts_succ (le : first ≤ last) : history.attempts first (last + 1) =
    history.attempts first last ++ (tries (history.run last)).toList := by
  rw [attempts, Nat.succ_sub le, List.range'_1_concat, List.filterMap_append,
    Nat.add_sub_of_le le, ← attempts]
  cases tried : tries (history.run last) <;> simp [tried]

lemma attempts_self : history.attempts first first = [] := by
  rw [attempts, Nat.sub_self]
  rfl

lemma length_attempts (le : first ≤ last)
    (running : ∀ time, first < time → time < last → (history.run time).point ≠ .wait) :
    (history.attempts first last).length ≤ (history.run last).attempted := by
  induction last, le using Nat.le_induction with
  | base =>
    rw [attempts_self]
    exact Nat.zero_le _
  | succ last le ih =>
    have before := ih fun time after earlier => running time after (earlier.trans last.lt_succ_self)
    rw [attempts_succ le, List.length_append]
    by_cases waiting : (history.run last).point = .wait
    · have idle : tries (history.run last) = none := by rw [tries, waiting]
      rcases le.eq_or_lt with rfl | later
      · rw [attempts_self, idle]
        exact Nat.zero_le _
      · exact absurd waiting (running last later last.lt_succ_self)
    · rw [stepped_run.attempted waiting]
      exact Nat.add_le_add_right before _

lemma pairwise_attempts (le : first ≤ last)
    (still : ∀ time, first ≤ time → time < last → history.resetAt time = false) :
    (history.attempts first last).Pairwise (· < ·) ∧
      ∀ item ∈ history.attempts first last, ∃ cursor ∈ (history.run last).after, item ≤ cursor := by
  induction last, le using Nat.le_induction with
  | base =>
    rw [attempts_self]
    exact ⟨List.Pairwise.nil, nofun⟩
  | succ last le ih =>
    obtain ⟨sorted, passed⟩ :=
      ih fun time after earlier => still time after (earlier.trans last.lt_succ_self)
    obtain ⟨moved, above⟩ := stepped_run.cursor (still last le last.lt_succ_self)
    rw [attempts_succ le, moved]
    cases tried : tries (history.run last) with
    | none => simpa using ⟨sorted, passed⟩
    | some item =>
      have below : ∀ earlier ∈ history.attempts first last, earlier < item := by
        intro earlier mem
        obtain ⟨cursor, here, bound⟩ := passed earlier mem
        exact bound.trans_lt ((above item tried).2 cursor here)
      refine ⟨List.pairwise_append.2 ⟨sorted, List.pairwise_singleton _ _, ?_⟩, fun other mem =>
        ⟨item, rfl, ?_⟩⟩
      · intro earlier mem other last
        rw [List.mem_singleton.1 last]
        exact below earlier mem
      · rcases List.mem_append.1 mem with mem | mem
        · exact (below other mem).le
        · exact (List.mem_singleton.1 mem).le

/-- Between two resets, everything that is RECEIVED at the first is attempted. -/
lemma swept (cleared : history.resetAt first = true) (later : first < last)
    (again : history.resetAt last = true) (mem : event ∈ (history.run (first + 1)).received) :
    event ∈ history.attempts (first + 1) last := by
  suffices swept : event ∈ history.attempts (first + 1) last ∨ Ahead event (history.run last) by
    refine swept.resolve_right fun ahead => ?_
    exact absurd again (Bool.eq_false_iff.1 (stepped_run.ahead event ahead).1)
  clear again
  induction last, Nat.succ_le_of_lt later using Nat.le_induction with
  | base =>
    obtain ⟨after, point⟩ := stepped_run.reset cleared
    refine .inr ⟨mem_past.2 ⟨mem, ?_⟩, ?_⟩
    · rw [after]
      nofun
    · rw [point]
      trivial
  | succ last le ih =>
    rw [attempts_succ le, List.mem_append]
    rcases ih le with before | ahead
    · exact .inl (.inl before)
    by_cases now : tries (history.run last) = some event
    · exact .inl (.inr (Option.mem_toList.2 now))
    · exact .inr ((stepped_run.ahead event ahead).2 now)

/-! ## Fairness -/

/-- The events that the cursor has not passed, and the way to the next attempt. -/
def rank (events : Finset Nat) (worker : Worker) : Nat :=
  4 * (past events worker.after).card + distance worker.point

lemma rank_step {events : Finset Nat} {settings : Settings} {outcome : Outcome}
    {worker next : Worker} (stepped : Stepped settings ↑events outcome worker next)
    (still : resets settings outcome worker = false)
    (polled : worker.point = .poll → outcome.polled = true) : rank events next < rank events worker := by
  obtain ⟨moved, above⟩ := stepped.cursor still
  rw [rank, rank, moved]
  cases tried : tries worker with
  | none => exact Nat.add_lt_add_left (stepped.closer still tried polled) _
  | some item =>
    obtain ⟨inside, below⟩ := above item tried
    have fewer : (past events (some item)).card < (past events worker.after).card := by
      refine Finset.card_lt_card (Finset.ssubset_iff_of_subset ?_ |>.2
        ⟨item, mem_past.2 ⟨inside, below⟩, fun mem => lt_irrefl item ((mem_past.1 mem).2 item rfl)⟩)
      exact fun event mem => mem_past.2 ((mem_past.1 mem).imp_right fun past cursor here =>
        (below cursor here).trans (past item rfl))
    have near : distance next.point ≤ 3 := by
      unfold distance
      split <;> decide
    rw [Option.some_or]
    omega

lemma resets_again (finite : history.known.Finite) (first : Nat)
    (polled : ∀ time, first ≤ time → time ∉ history.failedPolls) :
    ∃ later ≥ first, history.resetAt later = true := by
  by_contra! never
  have falling : ∀ more, rank finite.toFinset (history.run (first + more)) + more ≤
      rank finite.toFinset (history.run first) := by
    intro more
    induction more with
    | zero => exact le_rfl
    | succ more ih =>
      have le := Nat.le_add_right first more
      have falls : rank finite.toFinset (history.run (first + more + 1)) <
          rank finite.toFinset (history.run (first + more)) := rank_step
        (by rw [finite.coe_toFinset]; exact stepped_run) (Bool.eq_false_iff.2 (never _ le))
        fun point => Bool.not_eq_false _ ▸ fun failed => polled _ le ⟨point, failed⟩
      rw [← Nat.add_assoc first]
      omega
  have := falling (rank finite.toFinset (history.run first) + 1)
  omega

lemma tried_again (finite : history.known.Finite) (failures : history.failedPolls.Finite)
    (mem : event ∈ (history.run time).received) :
    ∃ later ≥ time, tries (history.run later) = some event := by
  by_contra! never
  obtain ⟨quiet, bound⟩ := failures.bddAbove
  have polled : ∀ later, time + quiet + 1 ≤ later → later ∉ history.failedPolls :=
    fun later after failed => by have := bound failed; omega
  have kept : ∀ later, time ≤ later → event ∈ (history.run later).received := by
    intro later le
    induction later, le using Nat.le_induction with
    | base => exact mem
    | succ later le ih => exact stepped_run.received event ih (never later le)
  obtain ⟨first, after, cleared⟩ := resets_again finite _ polled
  obtain ⟨last, later, again⟩ := resets_again finite (first + 1)
    fun later le => polled later (by omega)
  have attempted := swept cleared later again (kept (first + 1) (by omega))
  rw [attempts, List.mem_filterMap] at attempted
  obtain ⟨when, inside, tried⟩ := attempted
  rw [List.mem_range'_1] at inside
  exact never when (by omega) tried

end History

theorem recovery_fair (history : History) : (∀ first last, first ≤ last →
      (∀ time, first < time → time < last → (history.run time).point ≠ .wait) →
      (history.attempts first last).length ≤ history.settings.maxEvents) ∧
    (∀ first last, first ≤ last → (∀ time, first ≤ time → time < last → history.resetAt time = false) →
      (history.attempts first last).Pairwise (· < ·)) ∧
    (∀ first last, first < last → history.resetAt first = true → history.resetAt last = true →
      ∀ event ∈ (history.run (first + 1)).received, event ∈ history.attempts (first + 1) last) ∧
    (history.known.Finite → history.failedPolls.Finite → ∀ time, ∀ event ∈ (history.run time).received,
        ∃ later ≥ time, tries (history.run later) = some event) := by
  refine ⟨fun first last le running => (History.length_attempts le running).trans ?_,
    fun first last le still => (History.pairwise_attempts le still).1,
    fun first last later cleared again event mem => History.swept cleared later again mem,
    fun finite failures time event mem => History.tried_again finite failures mem⟩
  have valid : Valid history.settings history.known (history.run last) := History.valid_run
  have bound := valid.point
  split at bound <;> omega

end Obsion.Im.Inbox
