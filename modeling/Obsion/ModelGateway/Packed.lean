import Obsion.ModelGateway.Context

/-! # What a pack keeps

A segment that is not kept whole would not have fitted either with all that the segments of lower
rank receive.  `json.loads` can raise an exception that ends the whole pack. -/

namespace Obsion.ModelGateway.Context

variable {parse : Parser} {question : List Char} {remaining left budget : Int} {index : Nat}
variable {segment : ContextSegment} {segments : List ContextSegment} {item : Placed} {placed : List Placed}
variable {content kept : List Char} {rest : List (Nat × ContextSegment)}

lemma length_upTo (content : List Char) (nonneg : 0 ≤ budget) : ((upTo content budget).length : Int) ≤ budget := by
  rw [upTo, if_neg (by omega), List.length_take]
  omega

lemma compressSegment_le (nonneg : 0 ≤ budget) (returned : compressSegment parse content budget = some kept) :
    (kept.length : Int) ≤ budget := by
  obtain ⟨compacted, -, rfl⟩ := Option.map_eq_some_iff.1 returned
  split
  · assumption
  exact length_upTo compacted nonneg

lemma structuredExcerpt_cases (parsed : Json) (budget : Int) (question : List Char) :
    structuredExcerpt parsed budget question = [] ∨
      ∃ value ∈ candidates (units parsed) budget question, structuredExcerpt parsed budget question = value.compact ∧
        (value.compact.length : Int) ≤ budget := by
  unfold structuredExcerpt
  generalize candidates (units parsed) budget question = values
  cases found : (values.map Json.compact).find? fun result => decide ((result.length : Int) ≤ budget) with
  | none => exact .inl rfl
  | some result =>
    obtain ⟨value, mem, rfl⟩ := List.mem_map.1 (List.mem_of_find?_eq_some found)
    have fits := (List.find?_eq_some_iff_append.1 found).1
    exact .inr ⟨value, mem, rfl, of_decide_eq_true fits⟩

lemma structuredExcerpt_le (parsed : Json) (nonneg : 0 ≤ budget) (question : List Char) :
    ((structuredExcerpt parsed budget question).length : Int) ≤ budget := by
  obtain empty | ⟨value, -, eq, fits⟩ := structuredExcerpt_cases parsed budget question
  · rw [empty]
    exact nonneg
  rw [eq]
  exact fits

lemma summarizeSegment_le (nonneg : 0 ≤ budget)
    (returned : summarizeSegment parse content budget question = some kept) : (kept.length : Int) ≤ budget := by
  obtain ⟨parsed, -, rfl⟩ := Option.map_eq_some_iff.1 returned
  split
  · exact structuredExcerpt_le _ nonneg question
  · exact structuredExcerpt_le _ nonneg question
  · dsimp only
    split
    next => exact length_upTo content nonneg
    next long =>
      have head : ((upTo content (max 1 ((budget - 3) * 2 / 3))).length : Int) ≤ max 1 ((budget - 3) * 2 / 3) :=
        length_upTo content (by omega)
      have marker : "...".toList.length = 3 := by decide
      rw [List.length_append, List.length_append, List.length_drop, marker]
      push_cast
      omega

inductive Outcome (remaining : Int) (item : Placed) : Prop
  | dropped (exhausted : remaining ≤ 0) (action : item.decision.action = .drop) (body : item.body = none)
  | whole (left : 0 < remaining) (fits : item.segment.content.length ≤ remaining)
      (action : item.decision.action = .keep) (body : item.body = some item.segment.content)
  | shortened (left : 0 < remaining) (overflows : remaining < item.segment.content.length)
      (action : item.decision.action = .summarize ∨ item.decision.action = .compress) (text : List Char)
      (body : item.body = some text) (fits : text.length ≤ remaining)

/-- The decision is about the segment and the text that is kept. -/
structure Described (item : Placed) : Prop where
  source : item.decision.source = item.segment.source
  trust : item.decision.trust = item.segment.trust
  original : item.decision.originalChars = item.segment.content.length
  kept : item.decision.keptChars = (item.body.getD []).length

lemma described_of (action : BudgetAction) (body : Option (List Char)) (reason : String) :
    Described (.of index segment action body reason) := ⟨rfl, rfl, rfl, rfl⟩

lemma place_ok (turn : place parse question remaining index segment = some item) :
    (item.index, item.segment) = (index, segment) ∧ Described item ∧ Outcome remaining item := by
  unfold place at turn
  split at turn
  next exhausted =>
    cases turn
    exact ⟨rfl, described_of _ _ _, .dropped exhausted rfl rfl⟩
  next some_left =>
    have positive : 0 < remaining := by omega
    split at turn
    next fits =>
      cases turn
      exact ⟨rfl, described_of _ _ _, .whole positive fits rfl rfl⟩
    next overflows =>
      have long : remaining < segment.content.length := by omega
      split at turn
      next => cases turn
      next =>
        obtain ⟨text, made, rfl⟩ := Option.map_eq_some_iff.1 turn
        exact ⟨rfl, described_of _ _ _, .shortened positive long (Or.inl rfl) text rfl
          (summarizeSegment_le positive.le made)⟩
      next =>
        obtain ⟨text, made, rfl⟩ := Option.map_eq_some_iff.1 turn
        exact ⟨rfl, described_of _ _ _, .shortened positive long (Or.inr rfl) text rfl
          (compressSegment_le positive.le made)⟩

/-- A turn reads a text on which `json.loads` raises an exception that nothing catches: of a segment
that overflows, the text of untrusted data, and the stripped text that compression takes for
JSON. -/
def Raises (parse : Parser) (remaining : Int) (segment : ContextSegment) : Prop :=
  0 < remaining ∧ remaining < segment.content.length ∧
    ((segment.trust = .untrustedData ∧ parse segment.content = .raised) ∨
      (summarizes parse segment remaining = some false ∧ opensJson (stripChars segment.content) = true ∧
        parse (stripChars segment.content) = .raised))

lemma tryJson_eq_none : tryJson parse content = none ↔ parse content = .raised := by
  unfold tryJson
  split <;> simp_all

lemma compressSegment_eq_none : compressSegment parse content budget = none ↔
      opensJson (stripChars content) = true ∧ parse (stripChars content) = .raised := by
  rw [compressSegment, Option.map_eq_none_iff, compact]
  split
  next opens => rw [Option.map_eq_none_iff, tryJson_eq_none, and_iff_right opens]
  next plain => exact iff_of_false nofun fun both => plain both.1

lemma summarizeSegment_eq_none :
    summarizeSegment parse content budget question = none ↔ parse content = .raised := by
  rw [summarizeSegment, Option.map_eq_none_iff, tryJson_eq_none]

lemma summarizes_eq_none : summarizes parse segment remaining = none ↔
    segment.trust = .untrustedData ∧ remaining < summarizeFloor ∧ parse segment.content = .raised := by
  unfold summarizes
  split
  next untrusted =>
    split
    next floor => exact iff_of_false nofun fun both => absurd both.2.1 (by omega)
    next below => rw [Option.map_eq_none_iff, tryJson_eq_none, and_iff_right untrusted, and_iff_right (by omega)]
  next trusted => exact iff_of_false nofun fun both => trusted both.1

lemma untrusted_of_summarizes (answer : summarizes parse segment remaining = some true) :
    segment.trust = .untrustedData := by
  by_contra trusted
  rw [summarizes, if_neg trusted] at answer
  cases answer

lemma calm_of_not_summarizes (answer : summarizes parse segment remaining = some false) :
    ¬ (segment.trust = .untrustedData ∧ parse segment.content = .raised) := by
  rintro ⟨untrusted, raised⟩
  rw [summarizes, if_pos untrusted, tryJson_eq_none.2 raised] at answer
  split at answer
  · cases answer
  cases answer

lemma place_eq_none : place parse question remaining index segment = none ↔ Raises parse remaining segment := by
  unfold place Raises
  split
  next exhausted => exact iff_of_false nofun fun raises => absurd raises.1 (by omega)
  next some_left =>
    split
    next fits => exact iff_of_false nofun fun raises => absurd raises.2.1 (by omega)
    next overflows =>
      rw [and_iff_right (by omega), and_iff_right (by omega)]
      cases answer : summarizes parse segment remaining with
      | none =>
        have read := summarizes_eq_none.1 answer
        exact iff_of_true rfl (Or.inl ⟨read.1, read.2.2⟩)
      | some summary =>
        cases summary with
        | true =>
          dsimp only
          rw [Option.map_eq_none_iff, summarizeSegment_eq_none,
            and_iff_right (untrusted_of_summarizes answer)]
          exact (or_iff_left fun other => nomatch other.1).symm
        | false =>
          dsimp only
          rw [Option.map_eq_none_iff, compressSegment_eq_none, and_iff_right rfl]
          exact (or_iff_right (calm_of_not_summarizes answer)).symm

/-! ## The loop -/

def received (placed : List Placed) : Int := (placed.map fun item => (item.decision.keptChars : Int)).sum

lemma received_nonneg (placed : List Placed) : 0 ≤ received placed := by
  refine List.sum_nonneg fun count inside => ?_
  obtain ⟨item, -, rfl⟩ := List.mem_map.1 inside
  exact Int.natCast_nonneg _

lemma Outcome.le (outcome : Outcome remaining item) (described : Described item) (nonneg : 0 ≤ remaining) :
    (item.decision.keptChars : Int) ≤ remaining := by
  rw [described.kept]
  cases outcome with
  | dropped exhausted action body => rw [body]; exact nonneg
  | whole _ fits _ body | shortened _ _ _ _ body fits => rw [body]; exact fits

lemma placeAll_of_turn (turn : place parse question remaining index segment = some item) :
    placeAll parse question remaining ((index, segment) :: rest) =
      (placeAll parse question (remaining - item.decision.keptChars) rest).map fun more => (item :: more.1, more.2) := by
  rw [placeAll, turn]

lemma placeAll_cons (turns : placeAll parse question remaining ((index, segment) :: rest) = some (placed, left)) :
    ∃ item others, place parse question remaining index segment = some item ∧ placed = item :: others ∧
      placeAll parse question (remaining - item.decision.keptChars) rest = some (others, left) := by
  cases turn : place parse question remaining index segment with
  | none =>
    rw [placeAll, turn] at turns
    cases turns
  | some item =>
    rw [placeAll_of_turn turn] at turns
    obtain ⟨⟨others, last⟩, more, eq⟩ := Option.map_eq_some_iff.1 turns
    cases eq
    exact ⟨item, others, rfl, rfl, more⟩

variable {ranked : List (Nat × ContextSegment)} {after : List Placed}

/-- The loop returns one outcome a segment, and takes what they keep from the budget. -/
lemma placeAll_ok (nonneg : 0 ≤ remaining)
    (turns : placeAll parse question remaining ranked = some (placed, left)) :
    (placed.map fun item => (item.index, item.segment)) = ranked ∧ left = remaining - received placed ∧ 0 ≤ left ∧
      (∀ item ∈ placed, Described item) ∧
      ∀ before item after, placed = before ++ item :: after → ∃ budget, Outcome budget item ∧
        item.decision.keptChars + received after ≤ budget := by
  induction ranked generalizing remaining placed with
  | nil =>
    cases turns
    exact ⟨rfl, (sub_zero _).symm, nonneg, List.forall_mem_nil _,
      fun before item after cut => by simp at cut⟩
  | cons entry rest ih =>
    obtain ⟨index, segment⟩ := entry
    obtain ⟨item, others, turn, rfl, more⟩ := placeAll_cons turns
    obtain ⟨eq, described, outcome⟩ := place_ok turn
    have fits := outcome.le described nonneg
    obtain ⟨names, spent, rest_left, all, tails⟩ := ih (by omega) more
    have total : received (item :: others) = item.decision.keptChars + received others := List.sum_cons
    refine ⟨by rw [List.map_cons, names, eq], by omega, rest_left, List.forall_mem_cons.2 ⟨described, all⟩, ?_⟩
    intro before other after cut
    cases before with
    | nil =>
      cases cut
      exact ⟨remaining, outcome, by omega⟩
    | cons first before =>
      cases cut
      exact tails before other after rfl

def Outranks (left right : ContextSegment) : Prop :=
  right.priority < left.priority ∨
    (left.priority = right.priority ∧ trustOrder right.trust < trustOrder left.trust)

instance (left right : ContextSegment) : Decidable (Outranks left right) := inferInstanceAs (Decidable (_ ∨ _))

lemma not_outranks_self (segment : ContextSegment) : ¬ Outranks segment segment := by
  unfold Outranks
  omega

lemma not_outranks {first second : Nat × ContextSegment} (ordered : rankKey first ≤ rankKey second) :
    ¬ Outranks second.2 first.2 := by
  simp only [rankKey, Prod.Lex.toLex_le_toLex] at ordered
  unfold Outranks
  omega

lemma pairwise_ranked (segments : List ContextSegment) :
    (rankedSegments segments).Pairwise fun left right => ¬ Outranks right.2 left.2 := by
  have : Std.Total fun left right : Nat × ContextSegment => rankKey left ≤ rankKey right :=
    ⟨fun left right => le_total (rankKey left) (rankKey right)⟩
  have : IsTrans (Nat × ContextSegment) fun left right => rankKey left ≤ rankKey right :=
    ⟨fun _ _ _ first second => le_trans first second⟩
  exact (List.pairwise_insertionSort _ _).imp not_outranks

def receivedBelow (item : Placed) (placed : List Placed) : Int :=
  received (placed.filter fun other => Outranks item.segment other.segment)

lemma receivedBelow_le {before : List Placed}
    (ranked : ∀ other ∈ before, ¬ Outranks item.segment other.segment) :
    receivedBelow item (before ++ item :: after) ≤ received after := by
  have none_before : before.filter (fun other => Outranks item.segment other.segment) = [] :=
    List.filter_eq_nil_iff.2 fun other inside => by simpa using ranked other inside
  rw [receivedBelow, List.filter_append, none_before, List.nil_append,
    List.filter_cons_of_neg (by simpa using not_outranks_self item.segment)]
  refine (List.filter_sublist.map _).sum_le_sum fun count inside => ?_
  obtain ⟨other, -, rfl⟩ := List.mem_map.1 inside
  exact Int.natCast_nonneg _

structure Accounts (budget : Int) (segments : List ContextSegment) (pack : ContextPack) (placed : List Placed) :
    Prop where
  /-- one outcome, and so one decision, a segment -/
  each : (placed.map fun item => (item.index, item.segment)).Perm (segments.mapIdx Prod.mk)
  decisions : pack.decisions = placed.map Placed.decision
  described : ∀ item ∈ placed, Described item
  used : pack.used = (pack.decisions.map fun decision => (decision.keptChars : Int)).sum
  within : 0 ≤ pack.used ∧ pack.used ≤ budget
  messages : pack.messages = (chosen placed).map fun item => renderMessage item.1.segment item.2
  bodies : ∀ item, item ∈ chosen placed ↔ item.1 ∈ placed ∧ item.1.body = some item.2
  length : ∀ item ∈ chosen placed, item.2.length = item.1.decision.keptChars
  dropped : ∀ item ∈ placed, item.body = none ↔ item.decision.action = .drop
  whole : ∀ item ∈ placed, item.decision.action = .keep → item.body = some item.segment.content
  /-- What is not kept whole would not fit with all that the segments of lower rank receive. -/
  fair : ∀ item ∈ placed, item.decision.action ≠ .keep → receivedBelow item placed = 0 ∨
    item.decision.keptChars + receivedBelow item placed < item.decision.originalChars

lemma mem_chosen {item : Placed × List Char} :
    item ∈ chosen placed ↔ item.1 ∈ placed ∧ item.1.body = some item.2 := by
  rw [chosen, List.mem_insertionSort, List.mem_filterMap]
  constructor
  · rintro ⟨other, inside, eq⟩
    obtain ⟨text, body, rfl⟩ := Option.map_eq_some_iff.1 eq
    exact ⟨inside, body⟩
  · rintro ⟨inside, body⟩
    exact ⟨item.1, inside, by rw [body]; rfl⟩

lemma Outcome.dropped_iff (outcome : Outcome remaining item) : item.body = none ↔ item.decision.action = .drop := by
  cases outcome with
  | dropped exhausted action body => exact iff_of_true body action
  | whole left fits action body => simp [action, body]
  | shortened left overflows action text body fits => obtain action | action := action <;> simp [action, body]

lemma Outcome.whole_of_keep (outcome : Outcome remaining item) (keep : item.decision.action = .keep) :
    item.body = some item.segment.content := by
  cases outcome with
  | dropped exhausted action body => rw [keep] at action; cases action
  | whole left fits action body => exact body
  | shortened left overflows action text body fits => rw [keep] at action; obtain action | action := action <;> cases action

lemma Outcome.fair {below : Int} (outcome : Outcome remaining item) (described : Described item)
    (fits : item.decision.keptChars + received after ≤ remaining) (nonneg : 0 ≤ below)
    (within : below ≤ received after) (cut : item.decision.action ≠ .keep) :
    below = 0 ∨ item.decision.keptChars + below < item.decision.originalChars := by
  have original := described.original
  cases outcome with
  | dropped exhausted action body => left; omega
  | whole left fits action body => exact absurd action cut
  | shortened left overflows action text body fits => right; omega

lemma accounts_of_placeAll (nonneg : 0 ≤ budget)
    (turns : placeAll parse (currentQuestion segments) budget (rankedSegments segments) = some (placed, left)) :
    Accounts budget segments ⟨(chosen placed).map fun item => renderMessage item.1.segment item.2,
      placed.map Placed.decision, budget, budget - left⟩ placed := by
  obtain ⟨names, spent, nonneg_left, described, tails⟩ := placeAll_ok nonneg turns
  have outcomes : ∀ item ∈ placed, ∃ before after remaining, placed = before ++ item :: after ∧
      Outcome remaining item ∧ item.decision.keptChars + received after ≤ remaining := by
    intro item inside
    obtain ⟨before, after, cut⟩ := List.append_of_mem inside
    obtain ⟨remaining, outcome, fits⟩ := tails before item after cut
    exact ⟨before, after, remaining, cut, outcome, fits⟩
  have total := received_nonneg placed
  exact {
    each := names ▸ List.perm_insertionSort _ _, decisions := rfl, described := described
    used := by
      rw [List.map_map]
      change budget - left = received placed
      omega
    within := ⟨by dsimp only; omega, by dsimp only; omega⟩
    messages := rfl, bodies := fun item => mem_chosen
    length := by
      intro item inside
      obtain ⟨mem, body⟩ := mem_chosen.1 inside
      rw [(described _ mem).kept, body]
      rfl
    dropped := by
      intro item inside
      obtain ⟨_, _, _, -, outcome, -⟩ := outcomes item inside
      exact outcome.dropped_iff
    whole := by
      intro item inside
      obtain ⟨_, _, _, -, outcome, -⟩ := outcomes item inside
      exact outcome.whole_of_keep
    fair := by
      intro item inside cut
      obtain ⟨before, after, remaining, split, outcome, fits⟩ := outcomes item inside
      have higher : ∀ other ∈ before, ¬ Outranks item.segment other.segment := by
        have ranked := pairwise_ranked segments
        rw [← names, split, List.map_append, List.pairwise_append] at ranked
        intro other mem
        exact ranked.2.2 _ (List.mem_map_of_mem mem) _ (List.mem_map_of_mem List.mem_cons_self)
      refine outcome.fair (described item inside) fits (received_nonneg _) ?_ cut
      rw [split]
      exact receivedBelow_le higher }

def Calm (parse : Parser) (question : List Char) (remaining : Int) (ranked : List (Nat × ContextSegment)) : Prop :=
  ∀ before entry after, ranked = before ++ entry :: after → ∀ placed left,
    placeAll parse question remaining before = some (placed, left) → ¬ Raises parse left entry.2

lemma calm_cons : Calm parse question remaining ((index, segment) :: rest) ↔
    ∃ item, place parse question remaining index segment = some item ∧
      Calm parse question (remaining - item.decision.keptChars) rest := by
  constructor
  · intro calm
    have quiet : place parse question remaining index segment ≠ none := fun absent =>
      calm [] _ rest rfl [] remaining rfl (place_eq_none.1 absent)
    obtain ⟨item, turn⟩ := Option.ne_none_iff_exists'.1 quiet
    refine ⟨item, turn, fun before entry after cut placed left turns => ?_⟩
    refine calm ((index, segment) :: before) entry after (cut ▸ rfl) (item :: placed) left ?_
    rw [placeAll_of_turn turn, turns]
    rfl
  · rintro ⟨item, turn, calm⟩ before entry after cut placed left turns
    cases before with
    | nil =>
      cases cut
      cases turns
      exact fun raises => absurd turn (place_eq_none.2 raises ▸ nofun)
    | cons first before =>
      cases cut
      rw [placeAll_of_turn turn] at turns
      obtain ⟨⟨others, last⟩, more, eq⟩ := Option.map_eq_some_iff.1 turns
      cases eq
      exact calm before entry after rfl others last more

lemma placeAll_isSome :
    (∃ placed left, placeAll parse question remaining ranked = some (placed, left)) ↔
      Calm parse question remaining ranked := by
  induction ranked generalizing remaining with
  | nil => exact iff_of_true ⟨[], remaining, rfl⟩ fun before entry after cut => by simp at cut
  | cons entry rest ih =>
    obtain ⟨index, segment⟩ := entry
    rw [calm_cons]
    constructor
    · rintro ⟨placed, left, turns⟩
      obtain ⟨item, others, turn, -, more⟩ := placeAll_cons turns
      exact ⟨item, turn, ih.1 ⟨others, _, more⟩⟩
    · rintro ⟨item, turn, calm⟩
      obtain ⟨others, left, more⟩ := ih.2 calm
      refine ⟨item :: others, left, ?_⟩
      rw [placeAll_of_turn turn, more]
      rfl

/-- `json.loads` on a text of digits, and on other texts. -/
def sampleParser : Parser := fun text =>
  if text.all Char.isDigit && Loads.maxIntDigits < text.length then .raised
  else match Loads.loads Loads.dict text with
    | some found => .value found
    | none => .invalid

def numberSegment : ContextSegment := ⟨.untrustedData, List.replicate 4301 '1', "log".toList, 100, none⟩

end Obsion.ModelGateway.Context
