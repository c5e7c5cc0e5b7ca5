import Mathlib.Tactic

/-! # Exceptions that a handler lets through

A handler tames some exceptions.  A computation escapes it when it raises another one; in
a sequence that is the first computation which does not end well. -/

namespace Obsion.Lib

variable {ε α β : Type} {tame : ε → Bool}

lemma bind_eq_ok {first : Except ε α} {next : α → Except ε β} {result : β} :
    (first >>= next) = .ok result ↔ ∃ found, first = .ok found ∧ next found = .ok result := by
  cases first with
  | error | ok => simp [bind, Except.bind]

/-- The computation raises an exception that the handler does not tame. -/
def Escapes (tame : ε → Bool) (run : Except ε α) : Prop :=
  ∃ error, run = .error error ∧ tame error = false

@[simp] lemma escapes_ok (result : α) : ¬ Escapes tame (.ok result : Except ε α) := by
  rintro ⟨error, raised, -⟩
  cases raised

@[simp] lemma escapes_pure (result : α) : ¬ Escapes tame (pure result : Except ε α) :=
  escapes_ok result

@[simp] lemma escapes_error {error : ε} :
    Escapes tame (.error error : Except ε α) ↔ tame error = false := by
  constructor
  · rintro ⟨other, raised, wild⟩
    cases raised
    exact wild
  · intro wild
    exact ⟨error, rfl, wild⟩

lemma escapes_bind {first : Except ε α} {next : α → Except ε β} : Escapes tame (first >>= next) ↔
      Escapes tame first ∨ ∃ found, first = .ok found ∧ Escapes tame (next found) := by
  cases first with
  | error | ok => simp [bind, Except.bind]

lemma mapM_nil_ok (f : α → Except ε β) : [].mapM f = .ok [] := rfl

lemma mapM_eq_ok {f : α → Except ε β} {values : List α} {results : List β} :
    values.mapM f = .ok results ↔ List.Forall₂ (fun value result => f value = .ok result) values results := by
  induction values generalizing results with
  | nil =>
    rw [mapM_nil_ok, List.forall₂_nil_left_iff]
    constructor
    · intro eq
      exact (Except.ok.inj eq).symm
    intro eq
    rw [eq]
  | cons value rest ih =>
    rw [List.mapM_cons, bind_eq_ok, List.forall₂_cons_left_iff]
    constructor
    · rintro ⟨result, first, run⟩
      obtain ⟨more, later, eq⟩ := bind_eq_ok.1 run
      exact ⟨result, more, first, ih.1 later, (Except.ok.inj eq).symm⟩
    · rintro ⟨result, more, first, later, rfl⟩
      exact ⟨result, first, bind_eq_ok.2 ⟨more, ih.2 later, rfl⟩⟩

lemma escapes_mapM {f : α → Except ε β} {values : List α} : Escapes tame (values.mapM f) ↔
      ∃ front value back, values = front ++ value :: back ∧ (∃ results, front.mapM f = .ok results) ∧
        Escapes tame (f value) := by
  induction values with
  | nil =>
    constructor
    · intro escapes
      exact absurd escapes (escapes_ok [])
    rintro ⟨front, value, back, eq, -⟩
    exact absurd eq.symm (List.append_ne_nil_of_right_ne_nil _ (List.cons_ne_nil _ _))
  | cons value rest ih =>
    rw [List.mapM_cons, escapes_bind]
    constructor
    · rintro (now | ⟨result, first, later⟩)
      · exact ⟨[], value, rest, rfl, ⟨[], rfl⟩, now⟩
      · rw [escapes_bind] at later
        rcases later with later | ⟨_, _, none_⟩
        · obtain ⟨front, other, back, rfl, ⟨results, done⟩, escapes⟩ := ih.1 later
          refine ⟨value :: front, other, back, rfl, ⟨result :: results, ?_⟩, escapes⟩
          rw [mapM_eq_ok] at done ⊢
          exact List.Forall₂.cons first done
        · exact absurd none_ (escapes_pure _)
    · rintro ⟨front, other, back, eq, ⟨results, done⟩, escapes⟩
      cases front with
      | nil =>
        cases eq
        exact .inl escapes
      | cons first front =>
        cases eq
        rw [mapM_eq_ok] at done
        cases done with
        | cons head tail =>
          refine .inr ⟨_, head, escapes_bind.2 (Or.inl (ih.2 ?_))⟩
          exact ⟨front, other, back, rfl, ⟨_, mapM_eq_ok.2 tail⟩, escapes⟩

lemma not_escapes_mapM {f : α → Except ε β} (values : List α)
    (tamed : ∀ value, ¬ Escapes tame (f value)) : ¬ Escapes tame (values.mapM f) := by
  rw [escapes_mapM]
  rintro ⟨_, value, _, _, _, escapes⟩
  exact tamed value escapes

end Obsion.Lib
