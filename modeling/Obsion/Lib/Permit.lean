import Obsion.Lib.Transition

/-! # Send permits

The abstract discipline behind an at-most-once effect.  A permit is issued under
a fresh generation; while it is outstanding no further permit may be issued; it
ends either closed, when the effect is known not to have happened, or settled
with a receipt, after which nothing changes any more. -/

namespace Obsion.Lib

inductive Permit (Receipt : Type)
  | idle (generation : Nat)
  | outstanding (generation : Nat)
  | settled (generation : Nat) (receipt : Receipt)

section
variable {Receipt : Type}

def Permit.generation : Permit Receipt → Nat
  | .idle generation => generation
  | .outstanding generation => generation
  | .settled generation _ => generation

def Permit.Settled : Permit Receipt → Prop
  | .settled _ _ => True
  | _ => False

inductive PermitStep : Permit Receipt → Permit Receipt → Prop
  | stay (permit : Permit Receipt) : PermitStep permit permit
  | issue (generation : Nat) : PermitStep (.idle generation) (.outstanding (generation + 1))
  | close (generation : Nat) : PermitStep (.outstanding generation) (.idle generation)
  | settle (permit : Permit Receipt) (receipt : Receipt) (unsettled : ¬ permit.Settled) :
      PermitStep permit (.settled permit.generation receipt)

def permits (Receipt : Type) : System (Permit Receipt) Unit where
  init permit := permit = .idle 0
  step before _ after := PermitStep before after

variable {receipt : Receipt} {after first last : Permit Receipt}
  {moves : List (Move (Permit Receipt) Unit)}

lemma PermitStep.of_settled {generation : Nat}
    (step : PermitStep (.settled generation receipt) after) :
    after = .settled generation receipt := by
  cases step with
  | stay => rfl
  | settle permit receipt unsettled => exact absurd trivial unsettled

lemma PermitStep.of_generation_lt {before : Permit Receipt} (step : PermitStep before after)
    (raised : before.generation < after.generation) :
    before = .idle before.generation ∧ after = .outstanding (before.generation + 1) := by
  cases step with
  | stay | close | settle => exact absurd raised (lt_irrefl _)
  | issue generation => exact ⟨rfl, rfl⟩

/-- An outstanding permit that is idle again was closed on the way, and its
generation did not change before that. -/
lemma Path.exists_close {generation : Nat} (path : Path (permits Receipt) first moves last)
    (issued : first = .outstanding generation) (idle : last = .idle last.generation) :
    ∃ move ∈ moves, move.before = .outstanding generation ∧ move.after = .idle generation := by
  let Holds : Permit Receipt → Prop := fun permit =>
    permit = .outstanding generation ∨ permit.Settled
  have finish : ¬ Holds last := by
    rw [idle]
    rintro (eq | settled)
    · cases eq
    · exact settled
  obtain ⟨earlier, move, later, rfl, -, -, holds, breaks⟩ :=
    path.exists_breaking_move (Or.inl issued : Holds first) finish
  have step : PermitStep move.before move.after := path.split_move.2.1
  have mem : move ∈ earlier ++ move :: later := by simp
  obtain ⟨before, action, after⟩ := move
  rcases holds with outstanding | settled
  · dsimp only at outstanding step breaks
    subst outstanding
    cases step with
    | stay => exact absurd (Or.inl rfl) breaks
    | close => exact ⟨_, mem, rfl, rfl⟩
    | settle permit receipt unsettled => exact absurd (Or.inr trivial) breaks
  · cases before with
    | idle | outstanding => exact settled.elim
    | settled generation receipt =>
      exact absurd (Or.inr (by rw [PermitStep.of_settled step]; trivial)) breaks

lemma Path.settled_final {generation : Nat} (path : Path (permits Receipt) first moves last)
    (settled : first = .settled generation receipt) : last = .settled generation receipt := by
  induction path with
  | nil permit => exact settled
  | cons action step rest ih => exact ih (PermitStep.of_settled (settled ▸ step))

end

end Obsion.Lib
