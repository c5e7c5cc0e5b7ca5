import Mathlib.Tactic

/-! # Tables with a primary key

The rows of a table in insertion order.  No two rows have one key, so a row is
determined by its key, an insertion under a used key fails, and an update keeps
the keys. -/

namespace Obsion.Lib

structure Table {Key Row : Type} (key : Row → Key) where
  rows : List Row
  unique : (rows.map key).Nodup

section
variable {Key Row : Type} {key : Row → Key}

instance : Membership Row (Table key) := ⟨fun table row => row ∈ table.rows⟩

variable {row : Row}

lemma Table.mem_iff {table : Table key} : row ∈ table ↔ row ∈ table.rows := Iff.rfl

def Table.empty : Table key := ⟨[], List.nodup_nil⟩

@[simp] lemma Table.notMem_empty (row : Row) : row ∉ (Table.empty : Table key) :=
  List.not_mem_nil

lemma Table.eq_of_key {table : Table key} {left right : Row} (leftIn : left ∈ table)
    (rightIn : right ∈ table) (eq : key left = key right) : left = right :=
  List.inj_on_of_nodup_map table.unique leftIn rightIn eq

def Table.select (table : Table key) (chosen : Row → Bool) : List Row := table.rows.filter chosen

variable {chosen : Row → Bool}

@[simp] lemma Table.mem_select {table : Table key} :
    row ∈ table.select chosen ↔ row ∈ table ∧ chosen row = true :=
  List.mem_filter

def Table.update (table : Table key) (change : Row → Row)
    (keeps : ∀ row, key (change row) = key row) : Table key where
  rows := table.rows.map change
  unique := by
    have same : key ∘ change = key := funext keeps
    rw [List.map_map, same]
    exact table.unique

lemma Table.mem_update {table : Table key} {change : Row → Row}
    {keeps : ∀ row, key (change row) = key row} :
    row ∈ table.update change keeps ↔ ∃ former ∈ table, change former = row :=
  List.mem_map

def Table.delete (table : Table key) (chosen : Row → Bool) : Table key where
  rows := table.rows.filter fun row => !chosen row
  unique := table.unique.sublist (List.filter_sublist.map key)

lemma Table.mem_delete {table : Table key} :
    row ∈ table.delete chosen ↔ row ∈ table ∧ chosen row = false := by
  simp [Table.mem_iff, Table.delete]

section
variable [DecidableEq Key]

def Table.get? (table : Table key) (wanted : Key) : Option Row :=
  table.rows.find? fun row => decide (key row = wanted)

variable {row : Row}

variable {wanted : Key}

lemma Table.get?_eq_some {table : Table key} :
    table.get? wanted = some row ↔ row ∈ table ∧ key row = wanted := by
  constructor
  · intro found
    have holds := List.find?_some found
    exact ⟨List.mem_of_find?_eq_some found, of_decide_eq_true holds⟩
  · rintro ⟨mem, rfl⟩
    cases found : table.get? (key row) with
    | none =>
      have absent := List.find?_eq_none.1 found row mem
      simp at absent
    | some other =>
      have otherIn : other ∈ table := List.mem_of_find?_eq_some found
      have holds := List.find?_some found
      have eq : key other = key row := of_decide_eq_true holds
      rw [Table.eq_of_key otherIn mem eq]

/-- An INSERT; `none` where the key is in use. -/
def Table.insert? (table : Table key) (row : Row) : Option (Table key) :=
  if used : key row ∈ table.rows.map key then none
  else some ⟨table.rows ++ [row], by
    rw [List.map_append, List.nodup_append]
    refine ⟨table.unique, by simp, ?_⟩
    intro earlier earlierIn later laterIn same
    rw [List.map_singleton, List.mem_singleton] at laterIn
    exact used (laterIn ▸ same ▸ earlierIn)⟩

lemma Table.insert?_spec {table after : Table key} (run : table.insert? row = some after) :
    (∀ former ∈ table, key former ≠ key row) ∧ after.rows = table.rows ++ [row] := by
  unfold Table.insert? at run
  split at run
  · cases run
  next fresh =>
  cases run
  refine ⟨?_, rfl⟩
  intro former mem eq
  exact fresh (eq ▸ List.mem_map_of_mem mem)

lemma Table.exists_insert? {table : Table key} (fresh : ∀ former ∈ table, key former ≠ key row) :
    ∃ after, table.insert? row = some after := by
  unfold Table.insert?
  split
  · next used =>
    obtain ⟨former, mem, eq⟩ := List.mem_map.1 used
    exact absurd eq (fresh former mem)
  · exact ⟨_, rfl⟩

def Table.insertAll? (table : Table key) : List Row → Option (Table key)
  | [] => some table
  | row :: rest => (table.insert? row).bind fun after => after.insertAll? rest

lemma Table.insertAll?_spec {added : List Row} {table after : Table key}
    (run : table.insertAll? added = some after) :
    (∀ row ∈ added, ∀ former ∈ table, key former ≠ key row) ∧ after.rows = table.rows ++ added := by
  induction added generalizing table with
  | nil =>
    cases run
    simp
  | cons row rest ih =>
    obtain ⟨middle, first, later⟩ := Option.bind_eq_some_iff.1 run
    obtain ⟨fresh, grown⟩ := Table.insert?_spec first
    obtain ⟨freshRest, rows⟩ := ih later
    constructor
    · intro added mem former formerIn
      rcases List.mem_cons.1 mem with rfl | inRest
      · exact fresh former formerIn
      refine freshRest added inRest former ?_
      rw [Table.mem_iff, grown]
      exact List.mem_append_left _ formerIn
    · rw [rows, grown, List.append_assoc, List.singleton_append]

/-- An upsert: the row replaces the one with its key or is appended. -/
def Table.put (table : Table key) (row : Row) : Table key :=
  if used : key row ∈ table.rows.map key then
    table.update (fun former => if key former = key row then row else former) (by
      intro former
      split
      · next same => exact same.symm
      rfl)
  else ⟨table.rows ++ [row], by
    rw [List.map_append, List.nodup_append]
    refine ⟨table.unique, by simp, ?_⟩
    intro earlier earlierIn later laterIn same
    rw [List.map_singleton, List.mem_singleton] at laterIn
    exact used (laterIn ▸ same ▸ earlierIn)⟩

lemma Table.mem_put {table : Table key} {other : Row} :
    other ∈ table.put row ↔ other = row ∨ (other ∈ table ∧ key other ≠ key row) := by
  unfold Table.put
  split
  · next used =>
    obtain ⟨holder, holderIn, held⟩ := List.mem_map.1 used
    rw [Table.mem_update]
    constructor
    · rintro ⟨former, mem, rfl⟩
      by_cases eq : key former = key row
      · rw [if_pos eq]
        exact .inl rfl
      rw [if_neg eq]
      exact .inr ⟨mem, eq⟩
    · rintro (rfl | ⟨mem, apart⟩)
      · exact ⟨holder, holderIn, if_pos held⟩
      · exact ⟨other, mem, if_neg apart⟩
  · next fresh =>
    rw [Table.mem_iff, List.mem_append, List.mem_singleton, or_comm]
    apply or_congr_right
    constructor
    · intro mem
      exact ⟨mem, fun eq => fresh (eq ▸ List.mem_map_of_mem mem)⟩
    exact And.left

lemma Table.mem_put_self {table : Table key} : row ∈ table.put row :=
  Table.mem_put.2 (Or.inl rfl)

lemma Table.get?_eq_none {table : Table key} :
    table.get? wanted = none ↔ ∀ row ∈ table, key row ≠ wanted := by
  rw [Table.get?, List.find?_eq_none]
  simp [Table.mem_iff]

lemma Table.get?_put {table : Table key} (wanted : Key) :
    (table.put row).get? wanted = if key row = wanted then some row else table.get? wanted := by
  by_cases eq : key row = wanted
  · rw [if_pos eq]
    exact Table.get?_eq_some.2 ⟨Table.mem_put_self, eq⟩
  rw [if_neg eq]
  cases found : table.get? wanted with
  | some other =>
    obtain ⟨mem, keyed⟩ := Table.get?_eq_some.1 found
    refine Table.get?_eq_some.2 ⟨Table.mem_put.2 (Or.inr ⟨mem, ?_⟩), keyed⟩
    exact fun equal => eq (equal.symm.trans keyed)
  | none =>
    rw [Table.get?_eq_none] at found ⊢
    intro other mem
    rcases Table.mem_put.1 mem with rfl | ⟨former, _⟩
    · exact eq
    exact found other former

lemma Table.get?_update {table : Table key} {change : Row → Row}
    {keeps : ∀ row, key (change row) = key row} (wanted : Key) :
    (table.update change keeps).get? wanted = (table.get? wanted).map change := by
  cases found : table.get? wanted with
  | some row =>
    obtain ⟨mem, keyed⟩ := Table.get?_eq_some.1 found
    refine Table.get?_eq_some.2 ⟨Table.mem_update.2 ⟨row, mem, rfl⟩, ?_⟩
    exact (keeps row).trans keyed
  | none =>
    rw [Table.get?_eq_none] at found
    refine Table.get?_eq_none.2 ?_
    intro row mem
    obtain ⟨former, formerIn, rfl⟩ := Table.mem_update.1 mem
    rw [keeps former]
    exact found former formerIn

lemma Table.get?_delete {table : Table key} {chosen : Row → Bool} (wanted : Key) :
    (table.delete chosen).get? wanted = (table.get? wanted).filter fun row => !chosen row := by
  cases found : table.get? wanted with
  | some row =>
    obtain ⟨mem, keyed⟩ := Table.get?_eq_some.1 found
    by_cases removed : chosen row = true
    · rw [Option.filter_some, removed]
      refine Table.get?_eq_none.2 ?_
      intro other otherIn eq
      obtain ⟨stored, spared⟩ := Table.mem_delete.1 otherIn
      rw [Table.eq_of_key stored mem (eq.trans keyed.symm), removed] at spared
      cases spared
    · rw [Bool.not_eq_true] at removed
      rw [Option.filter_some, removed]
      exact Table.get?_eq_some.2 ⟨Table.mem_delete.2 ⟨mem, removed⟩, keyed⟩
  | none =>
    rw [Table.get?_eq_none] at found
    refine Table.get?_eq_none.2 ?_
    intro row mem
    exact found row (Table.mem_delete.1 mem).1

lemma Table.get?_insert? {table after : Table key} (run : table.insert? row = some after)
    (wanted : Key) :
    after.get? wanted = if key row = wanted then some row else table.get? wanted := by
  obtain ⟨fresh, rows⟩ := Table.insert?_spec run
  have put : table.put row = after := by
    have unused : key row ∉ table.rows.map key := by
      intro used
      obtain ⟨former, mem, eq⟩ := List.mem_map.1 used
      exact fresh former mem eq
    have eq : (table.put row).rows = after.rows := by
      rw [Table.put, dif_neg unused, rows]
    cases after
    simp only at eq
    subst eq
    rfl
  rw [← put]
  exact Table.get?_put wanted

end

end

end Obsion.Lib
