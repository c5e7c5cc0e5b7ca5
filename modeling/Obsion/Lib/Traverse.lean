import Mathlib.Tactic

/-! # A step run over a list

`traverse` runs a step that carries a state and may fail over a list, from left to
right, and stops at the first failure.  Its rules say where a run fails, what a
finished run keeps, and when two runs make the same moves. -/

namespace Obsion.Lib

variable {α β γ σ ε : Type}

def traverse (step : α → σ → Except ε (β × σ)) : List α → σ → Except ε (List β × σ)
  | [], state => .ok ([], state)
  | item :: rest, state =>
    match step item state with
    | .error fault => .error fault
    | .ok (made, next) =>
      match traverse step rest next with
      | .error fault => .error fault
      | .ok (later, final) => .ok (made :: later, final)

lemma traverse_cons_ok {step : α → σ → Except ε (β × σ)} {item : α} {rest : List α}
    {state final : σ} {made : List β} (run : traverse step (item :: rest) state = .ok (made, final)) :
    ∃ first next later, step item state = .ok (first, next) ∧
      traverse step rest next = .ok (later, final) ∧ made = first :: later := by
  rw [traverse] at run
  split at run
  · cases run
  next first next stepped =>
  split at run
  · cases run
  next later last rested =>
  cases run
  exact ⟨first, next, later, stepped, rested, rfl⟩

lemma traverse_eq_error_iff {step : α → σ → Except ε (β × σ)} {items : List α} {state : σ}
    {fault : ε} : traverse step items state = .error fault ↔
      ∃ before item after made reached, items = before ++ item :: after ∧
        traverse step before state = .ok (made, reached) ∧ step item reached = .error fault := by
  induction items generalizing state with
  | nil =>
    constructor
    · intro run
      cases run
    rintro ⟨before, item, after, _, _, split, _⟩
    exact absurd split (by simp)
  | cons first rest ih =>
    constructor
    · intro run
      rw [traverse] at run
      split at run
      · next failed =>
        cases run
        exact ⟨[], first, rest, [], state, rfl, rfl, failed⟩
      · next made next stepped =>
        split at run
        · next failed =>
          cases run
          obtain ⟨before, item, after, later, reached, rfl, earlier, stuck⟩ := ih.1 failed
          refine ⟨first :: before, item, after, made :: later, reached, rfl, ?_, stuck⟩
          simp only [traverse, stepped, earlier]
        · cases run
    · rintro ⟨before, item, after, made, reached, split, earlier, stuck⟩
      cases before with
      | nil =>
        cases earlier
        obtain ⟨rfl, rfl⟩ := List.cons.inj split
        rw [traverse, stuck]
      | cons head before =>
        obtain ⟨rfl, rfl⟩ := List.cons.inj split
        obtain ⟨made, next, later, stepped, rested, _⟩ := traverse_cons_ok earlier
        have failed := ih.2 ⟨before, item, after, later, reached, rfl, rested, stuck⟩
        simp only [traverse, stepped]
        rw [failed]

lemma traverse_reflects {step : α → σ → Except ε (β × σ)} {kept : σ → Prop} {items : List α}
    (reflects : ∀ item ∈ items, ∀ state made next, step item state = .ok (made, next) →
      kept next → kept state) {state final : σ} {made : List β}
    (run : traverse step items state = .ok (made, final)) (last : kept final) : kept state := by
  induction items generalizing state made with
  | nil =>
    cases run
    exact last
  | cons item rest ih =>
    obtain ⟨first, next, later, stepped, rested, _⟩ := traverse_cons_ok run
    refine reflects item List.mem_cons_self _ _ _ stepped ?_
    exact ih (fun other mem => reflects other (List.mem_cons_of_mem _ mem)) rested

lemma traverse_forall₂ {step : α → σ → Except ε (β × σ)} {kept : σ → Prop} {related : α → β → Prop}
    {items : List α}
    (reflects : ∀ item ∈ items, ∀ state made next, step item state = .ok (made, next) →
      kept next → kept state ∧ related item made) {state final : σ} {made : List β}
    (run : traverse step items state = .ok (made, final)) (last : kept final) :
    List.Forall₂ related items made := by
  induction items generalizing state made with
  | nil =>
    cases run
    exact List.Forall₂.nil
  | cons item rest ih =>
    obtain ⟨first, next, later, stepped, rested, rfl⟩ := traverse_cons_ok run
    have narrowed := fun other mem => reflects other (List.mem_cons_of_mem item mem)
    have before : kept next := traverse_reflects
      (fun other mem state made next stepped last =>
        (narrowed other mem state made next stepped last).1) rested last
    exact List.Forall₂.cons (reflects item List.mem_cons_self _ _ _ stepped before).2
      (ih narrowed rested)

lemma traverse_forall {step : α → σ → Except ε (β × σ)} {kept : σ → Prop} {good : β → Prop}
    {items : List α}
    (reflects : ∀ item ∈ items, ∀ state made next, step item state = .ok (made, next) →
      kept next → kept state ∧ good made) {state final : σ} {made : List β}
    (run : traverse step items state = .ok (made, final)) (last : kept final) :
    ∀ output ∈ made, good output := by
  have each : List.Forall₂ (fun _ output => good output) items made :=
    traverse_forall₂ reflects run last
  clear run
  induction each with
  | nil =>
    intro output mem
    cases mem
  | cons head _ ih =>
    intro output mem
    rcases List.mem_cons.1 mem with rfl | mem
    · exact head
    exact ih (fun item known => reflects item (List.mem_cons_of_mem _ known)) output mem

lemma traverse_map {step : α → σ → Except ε (β × σ)} {mapped : α → σ → Except ε (γ × σ)}
    {image : β → γ} {items : List α}
    (agree : ∀ item ∈ items, ∀ state, mapped item state = (step item state).map (Prod.map image id))
    (state : σ) :
    traverse mapped items state = (traverse step items state).map (Prod.map (List.map image) id) := by
  induction items generalizing state with
  | nil => rfl
  | cons item rest ih =>
    rw [traverse, traverse, agree item List.mem_cons_self]
    cases step item state with
    | error fault => rfl
    | ok stepped =>
      obtain ⟨made, next⟩ := stepped
      have rested := ih (fun other mem => agree other (List.mem_cons_of_mem item mem)) next
      simp only [Except.map, Prod.map_apply, id_eq, rested]
      cases traverse step rest next with
      | error fault => rfl
      | ok later => rfl

lemma mapM_eq_ok_iff {step : α → Except ε β} {items : List α} {made : List β} :
    items.mapM step = .ok made ↔ List.Forall₂ (fun item result => step item = .ok result) items made := by
  induction items generalizing made with
  | nil =>
    rw [List.mapM_nil, List.forall₂_nil_left_iff]
    exact ⟨fun run => (Except.ok.inj run).symm, fun none_ => congrArg Except.ok none_.symm⟩
  | cons item rest ih =>
    rw [List.mapM_cons, List.forall₂_cons_left_iff]
    constructor
    · intro run
      cases first : step item with
      | error fault =>
        rw [first] at run
        cases run
      | ok result =>
        cases later : rest.mapM step with
        | error fault =>
          rw [first, later] at run
          cases run
        | ok results =>
          rw [first, later] at run
          exact ⟨result, results, rfl, ih.1 later, (Except.ok.inj run).symm⟩
    · rintro ⟨result, results, first, later, rfl⟩
      rw [first, ih.2 later]
      rfl

lemma exists_of_mapM_error {step : α → Except ε β} {items : List α} {fault : ε}
    (run : items.mapM step = .error fault) : ∃ item ∈ items, step item = .error fault := by
  induction items with
  | nil => cases run
  | cons item rest ih =>
    rw [List.mapM_cons] at run
    cases first : step item with
    | error other =>
      rw [first] at run
      cases run
      exact ⟨item, List.mem_cons_self, first⟩
    | ok result =>
      cases later : rest.mapM step with
      | error other =>
        rw [first, later] at run
        cases run
        obtain ⟨found, mem, failed⟩ := ih later
        exact ⟨found, List.mem_cons_of_mem _ mem, failed⟩
      | ok results =>
        rw [first, later] at run
        cases run

lemma exists_forall₂ {relates : α → β → Prop} {items : List α}
    (each : ∀ item ∈ items, ∃ partner, relates item partner) : ∃ partners, List.Forall₂ relates items partners := by
  induction items with
  | nil => exact ⟨[], .nil⟩
  | cons item rest ih =>
    obtain ⟨partner, first⟩ := each item List.mem_cons_self
    obtain ⟨partners, later⟩ := ih fun other mem => each other (List.mem_cons_of_mem _ mem)
    exact ⟨partner :: partners, .cons first later⟩

lemma exists_of_forall₂_right {relates : α → β → Prop} {items : List α} {partners : List β}
    (all : List.Forall₂ relates items partners) {partner : β} (mem : partner ∈ partners) :
    ∃ item ∈ items, relates item partner := by
  induction all with
  | nil => cases mem
  | @cons item other rest others first later ih =>
    rcases List.mem_cons.1 mem with rfl | inside
    · exact ⟨item, List.mem_cons_self, first⟩
    obtain ⟨found, stored, holds⟩ := ih inside
    exact ⟨found, List.mem_cons_of_mem _ stored, holds⟩

end Obsion.Lib
