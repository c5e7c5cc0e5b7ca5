import Mathlib.Tactic

/-! # Reading an append-only log by pages

The entries of a log are numbered in a row from one.  A reader keeps the number of the last
entry it has passed on; its next page holds the entries after that number, in order, up to
a limit.  Such pages continue each other, and a page below the limit reaches the end of the
log it was read from. -/

namespace Obsion.Lib

section
variable {Entry : Type} (number : Entry → Nat)

/-- The entries are numbered in a row, the first one with `first`. -/
def Consecutive (first : Nat) (entries : List Entry) : Prop :=
  entries.map number = List.range' first entries.length

/-- `WHERE number > cursor ORDER BY number LIMIT limit` -/
def page (cursor limit : Nat) (entries : List Entry) : List Entry :=
  ((entries.filter fun entry => decide (cursor < number entry)).insertionSort
    fun left right => number left ≤ number right).take limit

variable {number} {first cursor limit : Nat} {entries earlier later : List Entry}

lemma Consecutive.nil : Consecutive number first [] := rfl

variable {entry : Entry}

lemma consecutive_cons : Consecutive number first (entry :: entries) ↔
      number entry = first ∧ Consecutive number (first + 1) entries := by
  simp [Consecutive, List.range'_succ]

lemma Consecutive.append (left : Consecutive number first earlier)
    (right : Consecutive number (first + earlier.length) later) :
    Consecutive number first (earlier ++ later) := by
  induction earlier generalizing first with
  | nil => simpa using right
  | cons entry rest ih =>
    obtain ⟨here, others⟩ := consecutive_cons.1 left
    refine consecutive_cons.2 ⟨here, ih others ?_⟩
    have shift : first + 1 + rest.length = first + (entry :: rest).length := by
      rw [List.length_cons]
      omega
    rwa [shift]

section
variable (consecutive : Consecutive number first entries)
include consecutive

lemma Consecutive.take (count : Nat) :
    Consecutive number first (entries.take count) := by
  induction entries generalizing first count with
  | nil => simp [Consecutive]
  | cons entry rest ih =>
    cases count with
    | zero => exact Consecutive.nil
    | succ count =>
      obtain ⟨here, others⟩ := consecutive_cons.1 consecutive
      exact consecutive_cons.2 ⟨here, ih others count⟩

lemma Consecutive.drop (count : Nat) :
    Consecutive number (first + count) (entries.drop count) := by
  induction entries generalizing first count with
  | nil => simp [Consecutive]
  | cons entry rest ih =>
    cases count with
    | zero => exact consecutive
    | succ count =>
      have others := ih (consecutive_cons.1 consecutive).2 count
      have shift : first + 1 + count = first + (count + 1) := by omega
      rwa [shift] at others

lemma Consecutive.bounds (mem : entry ∈ entries) :
    first ≤ number entry ∧ number entry < first + entries.length := by
  have listed : number entry ∈ entries.map number := List.mem_map_of_mem mem
  rw [consecutive] at listed
  exact List.mem_range'_1.1 listed

lemma Consecutive.filter_after (count : Nat) :
    (entries.filter fun entry => decide (first + count ≤ number entry)) = entries.drop count := by
  induction entries generalizing first count with
  | nil => simp
  | cons entry rest ih =>
    obtain ⟨here, others⟩ := consecutive_cons.1 consecutive
    cases count with
    | zero =>
      refine List.filter_eq_self.2 fun other mem => ?_
      exact decide_eq_true (consecutive.bounds mem).1
    | succ count =>
      have passed : ¬ first + (count + 1) ≤ number entry := by omega
      have shift : first + (count + 1) = first + 1 + count := by omega
      rw [List.filter_cons_of_neg (by simpa using passed), List.drop_succ_cons, shift]
      exact ih others count

lemma Consecutive.sorted :
    entries.Pairwise fun left right => number left ≤ number right := by
  induction entries generalizing first with
  | nil => exact List.Pairwise.nil
  | cons entry rest ih =>
    obtain ⟨here, others⟩ := consecutive_cons.1 consecutive
    refine List.pairwise_cons.2 ⟨fun other mem => ?_, ih others⟩
    have above := (others.bounds mem).1
    omega

end

section
variable (consecutive : Consecutive number 1 entries)
include consecutive

lemma page_eq :
    page number cursor limit entries = (entries.drop cursor).take limit := by
  have after : (entries.filter fun entry => decide (cursor < number entry)) = entries.drop cursor := by
    have found := consecutive.filter_after cursor
    simpa only [Nat.add_comm 1 cursor, Nat.succ_le_iff] using found
  have sorted : (entries.drop cursor).Pairwise fun left right => number left ≤ number right :=
    (consecutive.drop cursor).sorted
  rw [page, after, sorted.insertionSort_eq]

lemma Consecutive.page :
    Consecutive number (cursor + 1) (page number cursor limit entries) := by
  rw [page_eq consecutive, Nat.add_comm]
  exact (consecutive.drop cursor).take limit

lemma mem_of_page (mem : entry ∈ Lib.page number cursor limit entries) : entry ∈ entries := by
  rw [page_eq consecutive] at mem
  exact List.mem_of_mem_drop (List.mem_of_mem_take mem)

lemma page_reaches (short : (page number cursor limit entries).length < limit) :
    entries.length ≤ cursor + (page number cursor limit entries).length := by
  rw [page_eq consecutive, List.length_take, List.length_drop] at short ⊢
  omega

end

end

end Obsion.Lib
