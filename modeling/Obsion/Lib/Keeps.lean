import Mathlib.Data.List.Basic

/-! # Loaders that normalise

A loader takes a value that fits, normalises it and takes the normal form if it is valid.  It takes
the normal form again, and leaves it, exactly where a second pass fits and changes nothing. -/

namespace Obsion.Lib

variable {α β : Type}

def load (fits : α → Bool) (pass : α → α) (valid : α → Bool) (value : α) : Option α :=
  if fits value && valid (pass value) then some (pass value) else none

def Keeps (fits : α → Bool) (pass : α → α) (value : α) : Prop :=
  fits (pass value) = true ∧ pass (pass value) = pass value

lemma load_eq_some {fits : α → Bool} {pass : α → α} {valid : α → Bool} {value loaded : α} :
    load fits pass valid value = some loaded ↔
      fits value = true ∧ valid loaded = true ∧ loaded = pass value := by
  rw [load]
  split
  next both =>
    rw [Bool.and_eq_true] at both
    constructor
    · intro eq
      cases eq
      exact ⟨both.1, both.2, rfl⟩
    · rintro ⟨-, -, rfl⟩
      rfl
  next refused =>
    refine iff_of_false nofun ?_
    rintro ⟨fit, holds, rfl⟩
    exact refused (Bool.and_eq_true _ _ ▸ ⟨fit, holds⟩)

lemma load_again {fits : α → Bool} {pass : α → α} {valid : α → Bool} {value loaded : α}
    (first : load fits pass valid value = some loaded) :
    load fits pass valid loaded = some loaded ↔ Keeps fits pass value := by
  obtain ⟨-, holds, rfl⟩ := load_eq_some.1 first
  rw [load_eq_some]
  constructor
  · rintro ⟨fit, -, eq⟩
    exact ⟨fit, eq.symm⟩
  rintro ⟨fit, eq⟩
  exact ⟨fit, holds, eq.symm⟩

lemma map_map_eq_iff {pass : α → α} {values : List α} :
    (values.map pass).map pass = values.map pass ↔ ∀ value ∈ values, pass (pass value) = pass value := by
  rw [List.map_map]
  exact List.map_inj_left

lemma all_map_iff {fits : α → Bool} {pass : α → α} {values : List α} :
    (values.map pass).all fits = true ↔ ∀ value ∈ values, fits (pass value) = true := by
  rw [List.all_map, List.all_eq_true]
  exact Iff.rfl

lemma keeps_list {fits : α → Bool} {pass : α → α} {values : List α} :
    Keeps (fun values => values.all fits) (List.map pass) values ↔ ∀ value ∈ values, Keeps fits pass value := by
  rw [Keeps, all_map_iff, map_map_eq_iff]
  exact ⟨fun both value inside => ⟨both.1 value inside, both.2 value inside⟩,
    fun each => ⟨fun value inside => (each value inside).1, fun value inside => (each value inside).2⟩⟩

lemma keeps_option {fits : α → Bool} {pass : α → α} {value : Option α} :
    Keeps (fun value => value.all fits) (Option.map pass) value ↔ ∀ inner ∈ value, Keeps fits pass inner := by
  cases value with
  | none => exact iff_of_true ⟨rfl, rfl⟩ nofun
  | some inner =>
    constructor
    · rintro ⟨fit, eq⟩ other here
      cases here
      exact ⟨fit, Option.some.inj eq⟩
    · intro each
      obtain ⟨fit, eq⟩ := each inner rfl
      exact ⟨fit, congrArg some eq⟩

end Obsion.Lib
