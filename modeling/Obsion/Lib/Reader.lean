import Mathlib.Tactic

/-! # Readers

A reader takes a value from the front of a text and leaves the rest, or fails.
`Reads follow reader text value` says that the reader takes exactly this text, whenever
what comes after it satisfies `follow`: a reader may look at what follows to see where its
own text ends.  The rules compose such facts along the reader, and with them a printer is
proved against the reader of its format piece by piece. -/

namespace Obsion.Lib

def Reader (Symbol α : Type) := List Symbol → Option (α × List Symbol)

namespace Reader

variable {Symbol α β : Type}

instance : Monad (Reader Symbol) where
  pure value := fun text => some (value, text)
  bind reader next := fun text => (reader text).bind fun found => next found.1 found.2

def fail : Reader Symbol α := fun _ => none

def ofOption : Option α → Reader Symbol α
  | some value => pure value
  | none => fail

def symbol : Reader Symbol Symbol
  | [] => none
  | first :: rest => some (first, rest)

def many (reader : Reader Symbol α) : Nat → Reader Symbol (List α)
  | 0, text => if text.isEmpty then some ([], text) else none
  | fuel + 1, text =>
    if text.isEmpty then some ([], text)
    else (reader text).bind fun found =>
      (many reader fuel found.2).map fun more => (found.1 :: more.1, more.2)

def whole (reader : Reader Symbol α) (text : List Symbol) : Option α :=
  match reader text with
  | some (value, []) => some value
  | _ => none

section
variable [DecidableEq Symbol]

def literal (expected : List Symbol) : Reader Symbol Unit := fun text =>
  (text.dropPrefix? expected).map fun rest => ((), rest)

def peek (expected : List Symbol) : Reader Symbol Bool := fun text =>
  some (expected.isPrefixOf text, text)

def until_ (mark : Symbol) : Reader Symbol (List Symbol)
  | [] => none
  | first :: rest =>
    if first = mark then some ([], rest)
    else (until_ mark rest).map fun found => (first :: found.1, found.2)

end

/-! ## What a reader takes -/

def Reads (follow : List Symbol → Prop) (reader : Reader Symbol α) (text : List Symbol) (value : α) :
    Prop :=
  ∀ rest, follow rest → reader (text ++ rest) = some (value, rest)

variable {follow other : List Symbol → Prop} {reader : Reader Symbol α} {text : List Symbol}
  {value : α}

lemma Reads.pure : Reads follow (pure value : Reader Symbol α) [] value := fun _ _ => rfl

variable {more : List Symbol}

lemma Reads.bind {next : α → Reader Symbol β} {result : β} (first : Reads other reader text value)
    (second : Reads follow (next value) more result)
    (comes : ∀ rest, follow rest → other (more ++ rest)) :
    Reads follow (reader >>= next) (text ++ more) result := by
  intro rest holds
  change (reader (text ++ more ++ rest)).bind (fun found => next found.1 found.2) = _
  rw [List.append_assoc, first (more ++ rest) (comes rest holds)]
  exact second rest holds

lemma Reads.then {next : α → Reader Symbol β} {result : β}
    (first : Reads (fun _ => True) reader text value)
    (second : Reads follow (next value) more result) :
    Reads follow (reader >>= next) (text ++ more) result :=
  first.bind second fun _ _ => trivial

lemma Reads.look {next : α → Reader Symbol β} {result : β} (first : Reads other reader [] value)
    (second : Reads follow (next value) more result)
    (comes : ∀ rest, follow rest → other (more ++ rest)) :
    Reads follow (reader >>= next) more result := by
  have both := first.bind second comes
  rwa [List.nil_append] at both

lemma reads_ofOption {found : Option α} (eq : found = some value) :
    Reads follow (ofOption found : Reader Symbol α) [] value := by
  rw [eq]
  exact Reads.pure

lemma reads_symbol {first : Symbol} : Reads follow symbol [first] first := fun _ _ => rfl

lemma Reads.whole (reads : Reads follow reader text value) (ends : follow []) :
    whole reader text = some value := by
  have found := reads [] ends
  rw [List.append_nil] at found
  rw [Reader.whole, found]

section
variable [DecidableEq Symbol]

variable {expected word : List Symbol}

lemma reads_literal : Reads follow (literal expected) expected () := by
  intro rest _
  have dropped : (expected ++ rest).dropPrefix? expected = some rest :=
    List.dropPrefix?_eq_some_iff.2 ⟨expected, rfl, by simp⟩
  rw [literal, dropped]
  rfl

lemma reads_peek {answer : Bool} (comes : ∀ rest, follow rest → expected.isPrefixOf rest = answer) :
    Reads follow (peek expected) [] answer := by
  intro rest holds
  rw [peek, List.nil_append, comes rest holds]

lemma not_isPrefixOf {other rest : List Symbol} (apart : ¬ word <+: other ∧ ¬ other <+: word)
    (begins : word <+: rest) : other.isPrefixOf rest = false := by
  rw [Bool.eq_false_iff]
  intro marked
  rcases List.prefix_or_prefix_of_prefix begins (List.isPrefixOf_iff_prefix.1 marked) with first | second
  · exact apart.1 first
  exact apart.2 second

lemma reads_peek_same : Reads (fun rest => word <+: rest) (peek word) [] true :=
  reads_peek fun _ begins => List.isPrefixOf_iff_prefix.2 begins

lemma reads_peek_other {other : List Symbol} (apart : ¬ word <+: other ∧ ¬ other <+: word) :
    Reads (fun rest => word <+: rest) (peek other) [] false :=
  reads_peek fun _ begins => not_isPrefixOf apart begins

omit [DecidableEq Symbol] in
lemma prefix_of_append (word after rest : List Symbol) : word <+: word ++ after ++ rest := by
  rw [List.append_assoc]
  exact List.prefix_append _ _

lemma reads_until {mark : Symbol} (absent : mark ∉ text) :
    Reads follow (until_ mark) (text ++ [mark]) text := by
  intro rest _
  induction text with
  | nil => simp [until_]
  | cons first more ih =>
    obtain ⟨apart, later⟩ := not_or.1 (fun eq => absent (List.mem_cons.2 eq))
    have tail := ih later
    rw [List.cons_append, List.cons_append, until_, if_neg (Ne.symm apart), tail]
    rfl

end

lemma reads_many {pieces : List (List Symbol × α)} {fuel : Nat} (enough : pieces.length ≤ fuel)
    (reads : ∀ piece ∈ pieces, Reads follow reader piece.1 piece.2)
    (nonempty : ∀ piece ∈ pieces, piece.1 ≠ []) (ends : follow [])
    (comes : ∀ piece ∈ pieces, ∀ rest, follow (piece.1 ++ rest)) :
    Reads (fun rest => rest = []) (many reader fuel) (pieces.map Prod.fst).flatten
      (pieces.map Prod.snd) := by
  rintro _ rfl
  rw [List.append_nil]
  induction pieces generalizing fuel with
  | nil => cases fuel <;> rfl
  | cons piece rest ih =>
    obtain ⟨text, value⟩ := piece
    rw [List.length_cons] at enough
    obtain ⟨less, rfl⟩ : ∃ less, fuel = less + 1 := ⟨fuel - 1, by omega⟩
    have shorter : rest.length ≤ less := by omega
    have next := ih shorter (fun piece mem => reads piece (List.mem_cons_of_mem _ mem))
      (fun piece mem => nonempty piece (List.mem_cons_of_mem _ mem))
      (fun piece mem => comes piece (List.mem_cons_of_mem _ mem))
    have filled : (text ++ (rest.map Prod.fst).flatten).isEmpty = false := by
      have present := nonempty (text, value) List.mem_cons_self
      cases text with
      | nil => exact absurd rfl present
      | cons first more => rfl
    have follows : follow (rest.map Prod.fst).flatten := by
      cases rest with
      | nil => exact ends
      | cons second others =>
        exact comes second (List.mem_cons_of_mem _ List.mem_cons_self) _
    have here := reads (text, value) List.mem_cons_self _ follows
    rw [List.map_cons, List.map_cons, List.flatten_cons, many, if_neg (by simp [filled]), here,
      Option.bind_some, next]
    rfl

end Reader

end Obsion.Lib
