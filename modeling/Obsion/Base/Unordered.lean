import Obsion.Base.Codec
import Obsion.Base.Loads

/-! # Reading without an order of the keys

A strict model finds its fields by their keys, so a codec reads a value with sorted keys as the
value itself, and the canonical text of a dump determines what was dumped. -/

namespace Obsion

open Loads

lemma Fields.get?_of_mem {fields : Fields} (distinct : (fields.map Prod.fst).Nodup) {field : String × Json}
    (mem : field ∈ fields) : fields.get? field.1 = some field.2 := by
  induction fields with
  | nil => cases mem
  | cons first rest ih =>
    rw [List.map_cons, List.nodup_cons] at distinct
    rw [Fields.get?_cons]
    rcases List.mem_cons.1 mem with rfl | later
    · exact if_pos rfl
    have apart : first.1 ≠ field.1 := fun eq =>
      distinct.1 (List.mem_map.2 ⟨field, later, eq.symm⟩)
    rw [if_neg apart]
    exact ih distinct.2 later

lemma Fields.get?_perm {fields others : Fields} (order : fields.Perm others)
    (distinct : (fields.map Prod.fst).Nodup) (key : String) : fields.get? key = others.get? key := by
  have distinct' : (others.map Prod.fst).Nodup := (order.map Prod.fst).nodup_iff.1 distinct
  cases found : others.get? key with
  | none =>
    cases other : fields.get? key with
    | none => rfl
    | some value =>
      obtain ⟨front, back, rfl, -⟩ := Fields.split_of_get? other
      have mem : (key, value) ∈ others := order.mem_iff.1 (by simp)
      rw [Fields.get?_of_mem distinct' mem] at found
      cases found
  | some value =>
    obtain ⟨front, back, rfl, -⟩ := Fields.split_of_get? found
    exact Fields.get?_of_mem distinct (order.mem_iff.2 (by simp) : (key, value) ∈ fields)

lemma Fields.get?_map_value (pass : Json → Json) (fields : Fields) (key : String) :
    Fields.get? (fields.map fun field => (field.1, pass field.2)) key = (fields.get? key).map pass := by
  induction fields with
  | nil => rfl
  | cons first rest ih =>
    rw [List.map_cons, Fields.get?_cons, Fields.get?_cons, ih]
    split <;> rfl

/-- The fields as `sortKeys` leaves them. -/
def sortedFields (fields : Fields) : Fields :=
  (sortMembers fields).insertionSort fun left right => left.1 ≤ right.1

lemma perm_sortedFields (fields : Fields) :
    (sortedFields fields).Perm (fields.map fun field => (field.1, sortKeys field.2)) := by
  rw [sortedFields, sortMembers_eq]
  exact List.perm_insertionSort _ _

lemma keys_sortedFields (fields : Fields) :
    ((sortedFields fields).map Prod.fst).Perm (fields.map Prod.fst) := by
  have keys := (perm_sortedFields fields).map Prod.fst
  rwa [List.map_map] at keys

lemma get?_sortedFields {fields : Fields} (distinct : (fields.map Prod.fst).Nodup) (key : String) :
    (sortedFields fields).get? key = (fields.get? key).map sortKeys := by
  rw [Fields.get?_perm (perm_sortedFields fields) ((keys_sortedFields fields).nodup_iff.2 distinct) key,
    Fields.get?_map_value]

lemma closedFields_sorted (fields : Fields) (keys : List String) :
    closedFields (sortedFields fields) keys = closedFields fields keys := by
  have each : ∀ fields : Fields, closedFields fields keys = (fields.map Prod.fst).all keys.contains := by
    intro fields
    rw [closedFields, List.all_map]
    rfl
  rw [each, each, Bool.eq_iff_iff, List.all_eq_true, List.all_eq_true]
  exact forall_congr' fun key => imp_congr_left (keys_sortedFields fields).mem_iff

namespace Codec

variable {α : Type}

def Unordered (codec : Codec α) : Prop :=
  ∀ value, Plain value → codec.read (sortKeys value) = codec.read value

def PlainDump (codec : Codec α) (value : α) : Prop := Plain (codec.dump value)

lemma unordered_text : text.Unordered := by
  intro value _
  cases value <;> rfl

lemma unordered_int : int.Unordered := by
  intro value _
  cases value <;> rfl

lemma unordered_bool : bool.Unordered := by
  intro value _
  cases value <;> rfl

lemma unordered_literal {all : List α} {str : α → String}
    {found : ∀ value, all.find? (fun other => str other = str value) = some value} :
    (literal all str found).Unordered := by
  intro value _
  cases value <;> rfl

lemma Unordered.optional {codec : Codec α} (unordered : codec.Unordered)
    {filled : ∀ value, codec.dump value ≠ .null} : (codec.optional filled).Unordered := by
  intro value plain
  have eq := unordered value plain
  cases value with
  | null => rfl
  | bool | int | float | str | arr | obj => exact congrArg (Option.map some) eq

lemma Unordered.list {codec : Codec α} (unordered : codec.Unordered) : codec.list.Unordered := by
  intro value plain
  cases value with
  | arr values =>
    change (sortValues values).mapM codec.read = values.mapM codec.read
    change PlainValues values at plain
    induction values with
    | nil => rfl
    | cons first rest ih =>
      rw [sortValues, List.mapM_cons, List.mapM_cons, unordered first plain.1, ih plain.2]
  | null | bool _ | int _ | float _ | str _ | obj _ => rfl

end Codec

section

variable {α β : Type} {codec : Codec α} {fields : Fields} {key : String}

lemma required_sorted (unordered : codec.Unordered) (plain : Plain (.obj fields)) :
    required codec (sortedFields fields) key = required codec fields key := by
  rw [required, required, get?_sortedFields plain.1]
  cases found : fields.get? key with
  | none => rfl
  | some value =>
    obtain ⟨front, back, rfl, -⟩ := Fields.split_of_get? found
    exact unordered value (PlainMembers.mem plain.2 (by simp : (key, value) ∈ _))

lemma withDefault_sorted {default : α} (unordered : codec.Unordered) (plain : Plain (.obj fields)) :
    withDefault codec (sortedFields fields) key default = withDefault codec fields key default := by
  rw [withDefault, withDefault, get?_sortedFields plain.1]
  cases found : fields.get? key with
  | none => rfl
  | some value =>
    obtain ⟨front, back, rfl, -⟩ := Fields.split_of_get? found
    exact unordered value (PlainMembers.mem plain.2 (by simp : (key, value) ∈ _))

lemma unordered_model {model : Codec β} {keys : List String} {build : Fields → Option β}
    (reads : model.read = readModel keys build)
    (finds : ∀ fields, Plain (.obj fields) → build (sortedFields fields) = build fields) : model.Unordered := by
  intro value plain
  rw [reads]
  cases value with
  | obj fields =>
    change (if closedFields (sortedFields fields) keys then build (sortedFields fields) else none)
      = if closedFields fields keys then build fields else none
    rw [closedFields_sorted, finds fields plain]
  | null | bool _ | int _ | float _ | str _ | arr _ => rfl

end

end Obsion
