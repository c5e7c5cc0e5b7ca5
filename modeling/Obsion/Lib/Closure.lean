import Mathlib.Tactic

/-! # Exploring a relation

`explore` visits what a relation reaches from a node, one level at a time, and
gives up beyond a number of nodes or where a visit fails.  A visit reports the
successors of its level and carries an account.  If what a visit may accept is
inherited by smaller sets, the exploration succeeds exactly where the whole
closure is accepted, and its account is that of the closure.  `depthFirst` fails
where a node is met on a path to itself. -/

namespace Obsion.Lib

variable {Node Account : Type}

/-- The sets that contain a node and all successors of their members. -/
def Closed (edge : Node → Node → Prop) (start : Node) : Set (Set Node) :=
  {nodes | start ∈ nodes ∧ ∀ source ∈ nodes, ∀ target, edge source target → target ∈ nodes}

lemma reached_isLeast (edge : Node → Node → Prop) (start : Node) :
    IsLeast (Closed edge start) {node | Relation.ReflTransGen edge start node} := by
  constructor
  · refine ⟨.refl, ?_⟩
    intro source reached target step
    exact reached.tail step
  · intro nodes closed node reached
    induction reached with
    | refl => exact closed.1
    | tail _ step ih => exact closed.2 _ ih _ step

lemma isLeast_closed_iff {edge : Node → Node → Prop} {start : Node} {nodes : Finset Node} :
    IsLeast (Closed edge start) (nodes : Set Node) ↔
      ∀ node, node ∈ nodes ↔ Relation.ReflTransGen edge start node := by
  constructor
  · intro least node
    have eq := least.unique (reached_isLeast edge start)
    exact Set.ext_iff.1 eq node
  · intro members
    have eq : (nodes : Set Node) = {node | Relation.ReflTransGen edge start node} :=
      Set.ext members
    rw [eq]
    exact reached_isLeast edge start

section
variable [DecidableEq Node]

lemma card_lt_card_union {seen current : Finset Node} (fresh : Disjoint seen current)
    (some_ : current ≠ ∅) : seen.card < (seen ∪ current).card := by
  rw [Finset.card_union_of_disjoint fresh]
  have positive : 0 < current.card := Finset.card_pos.2 (Finset.nonempty_of_ne_empty some_)
  omega

/-- Every level adds a node, so that the limit bounds the number of levels. -/
def explore (visit : Finset Node → Account → Option (Finset Node × Account)) (limit : Nat)
    (pending seen : Finset Node) (account : Account) : Option Account :=
  if pending \ seen = ∅ then some account
  else if limit < seen.card + (pending \ seen).card then none
  else
    match visit (pending \ seen) account with
    | none => none
    | some (next, later) => explore visit limit next (seen ∪ (pending \ seen)) later
termination_by limit - seen.card
decreasing_by
  have grows : seen.card < (seen ∪ (pending \ seen)).card :=
    card_lt_card_union Finset.disjoint_sdiff (by assumption)
  have size := Finset.card_union_of_disjoint (s := seen) (t := pending \ seen) Finset.disjoint_sdiff
  omega

/-- What a visit does to the account `Stands` describes: it reports the
successors of its level, and fails only where `Admits` forbids the level. -/
structure Visits (edge : Node → Node → Prop) (Admits : Finset Node → Prop)
    (Stands : Finset Node → Account → Prop)
    (visit : Finset Node → Account → Option (Finset Node × Account)) : Prop where
  inherited : ∀ {small large : Finset Node}, small ⊆ large → Admits large → Admits small
  admitted : ∀ {seen account}, Stands seen account → Admits seen
  taken : ∀ {seen current account next later}, Stands seen account → Disjoint seen current →
    visit current account = some (next, later) →
      Stands (seen ∪ current) later ∧ ∀ node, node ∈ next ↔ ∃ source ∈ current, edge source node
  refused : ∀ {seen current account}, Stands seen account → Disjoint seen current →
    visit current account = none → ¬ Admits (seen ∪ current)

/-- What holds between two levels: only reached nodes have been collected, and
every successor of a visited node is visited or pending. -/
structure Frontier (edge : Node → Node → Prop) (start : Node) (pending seen : Finset Node) :
    Prop where
  reached : ∀ node ∈ seen ∪ pending, Relation.ReflTransGen edge start node
  rooted : start ∈ seen ∪ pending
  covered : ∀ source ∈ seen, ∀ target, edge source target → target ∈ seen ∪ pending

section
variable {edge : Node → Node → Prop} {Admits : Finset Node → Prop}
  {Stands : Finset Node → Account → Prop}
  {visit : Finset Node → Account → Option (Finset Node × Account)} {limit : Nat} {start : Node}
  {pending seen : Finset Node} {account : Account}

/-- The closure of the start is finite, within the limit and accepted. -/
def Admissible (edge : Node → Node → Prop) (Admits : Finset Node → Prop) (limit : Nat)
    (start : Node) (nodes : Finset Node) : Prop :=
  IsLeast (Closed edge start) (nodes : Set Node) ∧ nodes.card ≤ limit ∧ Admits nodes

lemma Frontier.initial : Frontier edge start {start} ∅ where
  reached := by
    intro node mem
    rw [Finset.empty_union, Finset.mem_singleton] at mem
    rw [mem]
  rooted := by simp
  covered := by
    intro source mem
    exact absurd mem (Finset.notMem_empty source)

lemma Frontier.next (frontier : Frontier edge start pending seen) {next : Finset Node}
    (exact_ : ∀ node, node ∈ next ↔ ∃ source ∈ pending \ seen, edge source node) :
    Frontier edge start next (seen ∪ (pending \ seen)) := by
  have eq : seen ∪ (pending \ seen) = seen ∪ pending := Finset.union_sdiff_self_eq_union
  rw [eq]
  refine ⟨?_, Finset.mem_union_left _ frontier.rooted, ?_⟩
  · intro node mem
    rcases Finset.mem_union.1 mem with collected | successor
    · exact frontier.reached node collected
    obtain ⟨source, current, step⟩ := (exact_ node).1 successor
    have before := frontier.reached source (Finset.mem_union_right _ (Finset.mem_sdiff.1 current).1)
    exact before.tail step
  · intro source mem target step
    by_cases visited : source ∈ seen
    · exact Finset.mem_union_left _ (frontier.covered source visited target step)
    have current : source ∈ pending \ seen := by
      rcases Finset.mem_union.1 mem with inSeen | inPending
      · exact absurd inSeen visited
      exact Finset.mem_sdiff.2 ⟨inPending, visited⟩
    exact Finset.mem_union_right _ ((exact_ target).2 ⟨source, current, step⟩)

lemma Frontier.finished (frontier : Frontier edge start pending seen)
    (done : pending \ seen = ∅) : IsLeast (Closed edge start) (seen : Set Node) := by
  have inside : seen ∪ pending = seen :=
    Finset.union_eq_left.2 (Finset.sdiff_eq_empty_iff_subset.1 done)
  rw [isLeast_closed_iff]
  intro node
  constructor
  · intro mem
    exact frontier.reached node (Finset.mem_union_left _ mem)
  intro reached
  have closed : (seen : Set Node) ∈ Closed edge start := by
    constructor
    · exact inside ▸ frontier.rooted
    intro source mem target step
    exact inside ▸ frontier.covered source mem target step
  exact (reached_isLeast edge start).2 closed reached

variable {nodes : Finset Node} {final : Account}

lemma Frontier.within (frontier : Frontier edge start pending seen)
    (least : IsLeast (Closed edge start) (nodes : Set Node)) : seen ∪ pending ⊆ nodes := by
  intro node mem
  exact (isLeast_closed_iff.1 least node).2 (frontier.reached node mem)

section
variable (visits : Visits edge Admits Stands visit)
include visits

lemma explore_some (frontier : Frontier edge start pending seen) (stands : Stands seen account)
    (bounded : seen.card ≤ limit) (run : explore visit limit pending seen account = some final) :
    ∃ nodes, Admissible edge Admits limit start nodes ∧ Stands nodes final := by
  induction pending, seen, account using explore.induct visit limit with
  | case1 pending seen account done =>
    rw [explore, if_pos done] at run
    cases run
    exact ⟨seen, ⟨frontier.finished done, bounded, visits.admitted stands⟩, stands⟩
  | case2 pending seen account more excess =>
    rw [explore, if_neg more, if_pos excess] at run
    cases run
  | case3 pending seen account more fits refused =>
    rw [explore, if_neg more, if_neg fits, refused] at run
    cases run
  | case4 pending seen account more fits next later taken ih =>
    rw [explore, if_neg more, if_neg fits, taken] at run
    obtain ⟨stood, successors⟩ := visits.taken stands Finset.disjoint_sdiff taken
    refine ih (frontier.next successors) stood ?_ run
    rw [Finset.card_union_of_disjoint Finset.disjoint_sdiff]
    omega

lemma explore_none (frontier : Frontier edge start pending seen) (stands : Stands seen account)
    (run : explore visit limit pending seen account = none) :
    ¬ Admissible edge Admits limit start nodes := by
  rintro ⟨least, small, admits⟩
  induction pending, seen, account using explore.induct visit limit with
  | case1 pending seen account done =>
    rw [explore, if_pos done] at run
    cases run
  | case2 pending seen account more excess =>
    have inside := Finset.card_le_card (frontier.within least)
    rw [← Finset.union_sdiff_self_eq_union, Finset.card_union_of_disjoint Finset.disjoint_sdiff]
      at inside
    omega
  | case3 pending seen account more fits refused =>
    have inside : seen ∪ (pending \ seen) ⊆ nodes := by
      rw [Finset.union_sdiff_self_eq_union]
      exact frontier.within least
    exact visits.refused stands Finset.disjoint_sdiff refused (visits.inherited inside admits)
  | case4 pending seen account more fits next later taken ih =>
    rw [explore, if_neg more, if_neg fits, taken] at run
    obtain ⟨stood, successors⟩ := visits.taken stands Finset.disjoint_sdiff taken
    exact ih (frontier.next successors) stood run

lemma explore_start_some (stands : Stands ∅ account)
    (run : explore visit limit {start} ∅ account = some final) :
    ∃ nodes, Admissible edge Admits limit start nodes ∧ Stands nodes final :=
  explore_some visits Frontier.initial stands (Nat.zero_le _) run

lemma explore_start_none_iff (stands : Stands ∅ account) :
    explore visit limit {start} ∅ account = none ↔
      ¬ ∃ nodes, Admissible edge Admits limit start nodes := by
  constructor
  · rintro run ⟨nodes, admissible⟩
    exact explore_none visits Frontier.initial stands run admissible
  intro none_
  rw [Option.eq_none_iff_forall_ne_some]
  intro final run
  obtain ⟨nodes, admissible, _⟩ := explore_start_some visits stands run
  exact none_ ⟨nodes, admissible⟩

end

end

end

/-! ## Depth-first search -/

section

variable {next : Node → List Node} {visiting before after nodes : List Node} {room : Nat} {node : Node}

/-- Every edge from one of the nodes leads down to another one. -/
def Ranked (next : Node → List Node) (nodes : List Node) : Prop :=
  ∃ depth : Node → Nat, ∀ node ∈ nodes, ∀ other ∈ next node, other ∈ nodes ∧ depth other < depth node

/-- What finishing some nodes does to those that were finished before. -/
structure Finished (next : Node → List Node) (before after nodes : List Node) : Prop where
  ranked : Ranked next before → Ranked next after
  kept : before ⊆ after
  added : nodes ⊆ after

lemma finished_foldlM {step : List Node → Node → Option (List Node)}
    (finishes : ∀ before node after, step before node = some after → Finished next before after [node])
    (run : nodes.foldlM step before = some after) : Finished next before after nodes := by
  induction nodes generalizing before with
  | nil =>
    cases run
    exact ⟨id, List.Subset.refl _, List.nil_subset _⟩
  | cons node rest ih =>
    rw [List.foldlM_cons] at run
    obtain ⟨middle, first, run⟩ := Option.bind_eq_some_iff.1 run
    have first := finishes _ _ _ first
    have later := ih run
    exact ⟨later.ranked ∘ first.ranked, List.Subset.trans first.kept later.kept,
      List.cons_subset.2 ⟨later.kept (first.added List.mem_cons_self), later.added⟩⟩

lemma exists_foldlM {step : List Node → Node → Option (List Node)}
    (goes : ∀ node ∈ nodes, ∀ before, ∃ after, step before node = some after) (before : List Node) :
    ∃ after, nodes.foldlM step before = some after := by
  induction nodes generalizing before with
  | nil => exact ⟨before, rfl⟩
  | cons node rest ih =>
    obtain ⟨middle, first⟩ := goes node List.mem_cons_self before
    obtain ⟨after, later⟩ := ih (fun other mem => goes other (List.mem_cons_of_mem _ mem)) middle
    exact ⟨after, by rw [List.foldlM_cons, first]; exact later⟩

variable [DecidableEq Node]

/-- Finishes a node after its successors, unless it is met on the path `visiting` to itself. -/
def descend (next : Node → List Node) : Nat → List Node → List Node → Node → Option (List Node)
  | 0, _, _, _ => none
  | room + 1, visiting, visited, node =>
    if node ∈ visiting then none
    else if node ∈ visited then some visited
    else ((next node).foldlM (descend next room (node :: visiting)) visited).map (node :: ·)

/-- A path has room for all the nodes and one more. -/
def depthFirst (next : Node → List Node) (nodes : List Node) : Option (List Node) :=
  nodes.foldlM (descend next (nodes.length + 1) []) []

/-- A node that is finished lies above those that were finished before it. -/
lemma Ranked.push (ranked : Ranked next nodes) (new : node ∉ nodes) (finished : next node ⊆ nodes) :
    Ranked next (node :: nodes) := by
  obtain ⟨depth, falls⟩ := ranked
  let top := Function.update depth node ((nodes.map depth).sum + 1)
  have below {other : Node} (mem : other ∈ nodes) : top other = depth other :=
    Function.update_of_ne (ne_of_mem_of_not_mem mem new) _ _
  refine ⟨top, List.forall_mem_cons.2 ⟨fun other leads => ?_, fun upper mem other leads => ?_⟩⟩
  · have listed := finished leads
    refine ⟨List.mem_cons_of_mem _ listed, ?_⟩
    rw [below listed, show top node = _ from Function.update_self ..]
    exact Nat.lt_succ_of_le (List.le_sum_of_mem (List.mem_map_of_mem listed))
  · obtain ⟨listed, lower⟩ := falls upper mem other leads
    exact ⟨List.mem_cons_of_mem _ listed, by rwa [below listed, below mem]⟩

lemma finished_descend (run : descend next room visiting before node = some after) :
    Finished next before after [node] := by
  induction room generalizing visiting before node after with
  | zero => cases run
  | succ room ih =>
    unfold descend at run
    split at run
    · cases run
    split at run
    · next old =>
      cases run
      exact ⟨id, List.Subset.refl _, by simpa using old⟩
    obtain ⟨reached, finished, rfl⟩ := Option.map_eq_some_iff.1 run
    have deeper := finished_foldlM (fun _ _ _ => ih) finished
    refine ⟨fun ranked => ?_, fun other mem => List.mem_cons_of_mem _ (deeper.kept mem), by simp⟩
    by_cases new : node ∈ reached
    · obtain ⟨depth, falls⟩ := deeper.ranked ranked
      exact ⟨depth, by grind⟩
    · exact (deeper.ranked ranked).push new deeper.added

/-- Where every edge leads down, no node is met on its own path, and the path has room. -/
lemma exists_descend {depth : Node → Nat}
    (falls : ∀ node ∈ nodes, ∀ other ∈ next node, other ∈ nodes ∧ depth other < depth node)
    (path : visiting.Nodup) (inside : visiting ⊆ nodes) (above : ∀ other ∈ visiting, depth node < depth other)
    (known : node ∈ nodes) (enough : nodes.length < room + visiting.length) (visited : List Node) :
    ∃ after, descend next room visiting visited node = some after := by
  induction room generalizing visiting visited node with
  | zero =>
    have fits := (List.subperm_of_subset path inside).length_le
    omega
  | succ room ih =>
    have off : node ∉ visiting := fun mem => Nat.lt_irrefl _ (above _ mem)
    rw [descend, if_neg off]
    split
    · exact ⟨_, rfl⟩
    have goes : ∀ other ∈ next node, ∀ visited,
        ∃ after, descend next room (node :: visiting) visited other = some after := by
      intro other mem visited
      obtain ⟨listed, lower⟩ := falls node known other mem
      exact ih (List.nodup_cons.2 ⟨off, path⟩) (List.cons_subset.2 ⟨known, inside⟩)
        (List.forall_mem_cons.2 ⟨lower, fun upper mem => lower.trans (above upper mem)⟩) listed
        (by rw [List.length_cons]; omega) visited
    obtain ⟨after, run⟩ := exists_foldlM goes visited
    exact ⟨node :: after, by rw [run]; rfl⟩

/-- The search ends exactly where no node reaches itself. -/
lemma depthFirst_isSome_iff (closed : ∀ node ∈ nodes, next node ⊆ nodes) :
    (depthFirst next nodes).isSome ↔ Ranked next nodes := by
  rw [Option.isSome_iff_exists]
  constructor
  · rintro ⟨after, run⟩
    have finished := finished_foldlM (fun _ _ _ => finished_descend) run
    obtain ⟨depth, falls⟩ := finished.ranked ⟨fun _ => 0, fun _ mem => absurd mem List.not_mem_nil⟩
    exact ⟨depth, fun node mem other leads => ⟨closed node mem leads, (falls node (finished.added mem) other leads).2⟩⟩
  · rintro ⟨depth, falls⟩
    exact exists_foldlM (fun node known visited => exists_descend falls List.nodup_nil (List.nil_subset _)
      (fun _ mem => absurd mem List.not_mem_nil) known (Nat.lt_add_one _) visited) []

end

end Obsion.Lib
