import Mathlib.Tactic

/-! # Numbered streams under row locks

A table keeps a counter for each key, and a log keeps entries that carry the
number their counter had after it was raised.  A transaction works on an overlay
of the table and on entries of its own.  `Complete` says that the committed
counters and the committed log agree, `Agrees` the same of a transaction in
progress, relative to the committed table, where `pending` is a key whose counter
was raised and whose entry is not inserted yet.  `Agrees.stable` is where the row
locks are used: other transactions change no row that this one wrote. -/

namespace Obsion.Lib

structure Numbering (Entry Key : Type) where
  key : Entry → Option Key
  number : Entry → Option Nat

section
variable {Entry Key : Type} [DecidableEq Key] (numbering : Numbering Entry Key)

def Numbering.stream (entries : List Entry) (key : Key) : List Entry :=
  entries.filter fun entry => numbering.key entry == some key

def Numbering.count (entries : List Entry) (key : Key) : Nat :=
  (numbering.stream entries key).length

/-- The entries of each key are numbered in order, without gaps or duplicates, from
the number after `start`. -/
def Numbering.Numbered (start : Key → Nat) (entries : List Entry) : Prop :=
  ∀ key, (numbering.stream entries key).map numbering.number
    = (List.range' (start key + 1) (numbering.count entries key)).map some

variable {numbering} {start other : Key → Nat} {entries earlier later : List Entry}

lemma Numbering.count_append (key : Key) : numbering.count (earlier ++ later) key
      = numbering.count earlier key + numbering.count later key := by
  simp [Numbering.count, Numbering.stream]

lemma Numbering.count_singleton (entry : Entry) (key : Key) :
    numbering.count [entry] key = if numbering.key entry = some key then 1 else 0 := by
  by_cases eq : numbering.key entry = some key
  · simp [Numbering.count, Numbering.stream, eq]
  simp [Numbering.count, Numbering.stream, eq]

lemma Numbering.Numbered.nil : numbering.Numbered start [] := fun _ => rfl

lemma Numbering.Numbered.congr (numbered : numbering.Numbered start entries)
    (eq : ∀ key, numbering.count entries key ≠ 0 → start key = other key) :
    numbering.Numbered other entries := by
  intro key
  by_cases occurs : numbering.count entries key = 0
  · have empty : numbering.stream entries key = [] := List.length_eq_zero_iff.1 occurs
    simp [empty, Numbering.count]
  rw [← eq key occurs]
  exact numbered key

lemma Numbering.Numbered.append (first : numbering.Numbered start earlier)
    (second : numbering.Numbered (fun key => start key + numbering.count earlier key) later) :
    numbering.Numbered start (earlier ++ later) := by
  intro key
  have joined : List.range' (start key + 1) (numbering.count (earlier ++ later) key)
      = List.range' (start key + 1) (numbering.count earlier key)
        ++ List.range' (start key + numbering.count earlier key + 1)
          (numbering.count later key) := by
    rw [Numbering.count_append, ← List.range'_append_1]
    congr 2
    omega
  rw [joined, List.map_append, ← first key, ← second key, ← List.map_append]
  simp [Numbering.stream]

lemma Numbering.Numbered.singleton {entry : Entry} (number : ∀ key, numbering.key entry = some key →
      numbering.number entry = some (start key + 1)) : numbering.Numbered start [entry] := by
  intro key
  rw [Numbering.count_singleton]
  by_cases eq : numbering.key entry = some key
  · simp [Numbering.stream, eq, number key eq]
  simp [Numbering.stream, eq]

end

section
variable {Key Row : Type} [DecidableEq Key]

/-- A table as a transaction sees it through its own writes, the newest first. -/
def overlay (table : Key → Option Row) (writes : List (Key × Row)) (key : Key) : Option Row :=
  match writes.find? fun write => write.1 == key with
  | some write => some write.2
  | none => table key

variable {table other : Key → Option Row} {writes : List (Key × Row)}

@[simp] lemma overlay_nil (key : Key) : overlay table [] key = table key := rfl

lemma overlay_cons (written : Key) (row : Row) (key : Key) :
    overlay table ((written, row) :: writes) key
      = if written = key then some row else overlay table writes key := by
  by_cases eq : written = key
  · simp [overlay, eq]
  simp [overlay, eq]

variable {key : Key}

lemma overlay_of_notMem (untouched : key ∉ writes.map Prod.fst) :
    overlay table writes key = table key := by
  induction writes with
  | nil => rfl
  | cons write rest ih =>
    obtain ⟨written, row⟩ := write
    simp only [List.map_cons, List.mem_cons, not_or] at untouched
    rw [overlay_cons, if_neg (Ne.symm untouched.1), ih untouched.2]

lemma overlay_of_mem (touched : key ∈ writes.map Prod.fst) :
    overlay table writes key = overlay other writes key := by
  induction writes with
  | nil => cases touched
  | cons write rest ih =>
    obtain ⟨written, row⟩ := write
    rw [overlay_cons, overlay_cons]
    by_cases eq : written = key
    · rw [if_pos eq, if_pos eq]
    rw [if_neg eq, if_neg eq]
    simp only [List.map_cons, List.mem_cons] at touched
    rcases touched with here | older
    · exact absurd here.symm eq
    exact ih older

end

/-! ## Counters and logs -/

section
variable {Entry Key Row : Type} [DecidableEq Key]

def counter (version : Row → Nat) (table : Key → Option Row) (key : Key) : Nat :=
  (table key).elim 0 version

def raised (pending : Option Key) (key : Key) : Nat := if pending = some key then 1 else 0

variable (numbering : Numbering Entry Key) (version : Row → Nat)

/-- The committed counters and the committed log agree. -/
structure Complete (table : Key → Option Row) (entries : List Entry) : Prop where
  numbered : numbering.Numbered (fun _ => 0) entries
  counters : ∀ key, counter version table key = numbering.count entries key

/-- The writes and entries of a transaction agree with the committed table. -/
structure Agrees (table : Key → Option Row) (writes : List (Key × Row)) (entries : List Entry)
    (pending : Option Key) : Prop where
  numbered : numbering.Numbered (counter version table) entries
  counters : ∀ key, counter version (overlay table writes) key
    = counter version table key + numbering.count entries key + raised pending key

variable {numbering version} {table other : Key → Option Row} {writes : List (Key × Row)}
  {committed entries : List Entry} {pending : Option Key}

lemma Complete.empty : Complete numbering version (fun _ => none) [] :=
  ⟨Numbering.Numbered.nil, fun _ => rfl⟩

lemma Agrees.begin : Agrees numbering version table [] [] none := by
  refine ⟨Numbering.Numbered.nil, ?_⟩
  intro key
  simp [counter, Numbering.count, Numbering.stream, raised]

variable {key : Key} {row : Row}

lemma Agrees.untouched (agrees : Agrees numbering version table writes entries pending)
    (unwritten : key ∉ writes.map Prod.fst) :
    numbering.count entries key = 0 ∧ raised pending key = 0 := by
  have counters := agrees.counters key
  simp only [counter, overlay_of_notMem unwritten] at counters
  omega

lemma Agrees.touched (agrees : Agrees numbering version table writes entries (some key)) :
    key ∈ writes.map Prod.fst := by
  by_contra unwritten
  have idle := (agrees.untouched unwritten).2
  simp [raised] at idle

lemma Agrees.create (agrees : Agrees numbering version table writes entries none)
    (missing : overlay table writes key = none) (zero : version row = 0) :
    Agrees numbering version table ((key, row) :: writes) entries none := by
  refine ⟨agrees.numbered, ?_⟩
  intro found
  have counters := agrees.counters found
  by_cases eq : key = found
  · subst eq
    simp only [counter, missing, Option.elim_none] at counters
    simp only [counter, overlay_cons, if_true, Option.elim_some, zero]
    exact counters
  · simp only [counter, overlay_cons, eq, if_false] at counters ⊢
    exact counters

lemma Agrees.raise (agrees : Agrees numbering version table writes entries none)
    (next : version row = counter version (overlay table writes) key + 1) :
    Agrees numbering version table ((key, row) :: writes) entries (some key) := by
  refine ⟨agrees.numbered, ?_⟩
  intro found
  have counters := agrees.counters found
  by_cases eq : key = found
  · subst eq
    simp only [counter, overlay_cons, if_true, Option.elim_some, raised] at counters next ⊢
    simp only [reduceCtorEq, if_false] at counters
    omega
  · have apart : ¬ some key = some found := fun equal => eq (Option.some.inj equal)
    simp only [counter, overlay_cons, eq, if_false, raised, apart] at counters ⊢
    exact counters

lemma Agrees.insert (agrees : Agrees numbering version table writes entries pending)
    {entry : Entry} (keyed : numbering.key entry = pending) (number : ∀ key, pending = some key →
      numbering.number entry = some (counter version (overlay table writes) key)) :
    Agrees numbering version table writes (entries ++ [entry]) none := by
  constructor
  · apply agrees.numbered.append
    apply Numbering.Numbered.singleton
    intro key eq
    rw [keyed] at eq
    have counters := agrees.counters key
    rw [number key eq, counters]
    simp [raised, eq]
  · intro key
    have counters := agrees.counters key
    rw [Numbering.count_append, Numbering.count_singleton, keyed]
    simp only [raised, reduceCtorEq, if_false] at counters ⊢
    omega

lemma Agrees.stable (agrees : Agrees numbering version table writes entries pending)
    (locked : ∀ key ∈ writes.map Prod.fst, other key = table key) :
    Agrees numbering version other writes entries pending := by
  constructor
  · refine agrees.numbered.congr fun key occurs => ?_
    have touched : key ∈ writes.map Prod.fst := by
      by_contra unwritten
      exact occurs (agrees.untouched unwritten).1
    simp only [counter, locked key touched]
  · intro key
    by_cases touched : key ∈ writes.map Prod.fst
    · have counters := agrees.counters key
      simp only [counter, locked key touched] at counters ⊢
      rw [overlay_of_mem touched]
      exact counters
    · obtain ⟨none, unpending⟩ := agrees.untouched touched
      simp only [counter, overlay_of_notMem touched, none, unpending, Nat.add_zero]

lemma Complete.commit (complete : Complete numbering version table committed)
    (agrees : Agrees numbering version table writes entries none) :
    Complete numbering version (overlay table writes) (committed ++ entries) := by
  constructor
  · apply complete.numbered.append
    apply agrees.numbered.congr
    intro key _
    rw [complete.counters key, Nat.zero_add]
  · intro key
    rw [agrees.counters key, complete.counters key, Numbering.count_append]
    simp [raised]

end

end Obsion.Lib
