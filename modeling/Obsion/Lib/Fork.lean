import Mathlib.Tactic

/-! # Logs that fork

Every node has a log of its own; a node that was forked from another one inherits the
entries of its origin up to a fixed point.  `History` is the list of entries a node sees,
together with the length of its chain of origins.  Appending to one log changes no other
node, because the inherited part is cut at a point that was already there. -/

namespace Obsion.Lib

structure Forest (Node Key Entry : Type) where
  /-- The node a node was forked from, and the last entry it inherits, if any. -/
  origin : Node → Option (Node × Option Key)
  log : Node → List Entry
  key : Entry → Key

section
variable {Node Key Entry : Type} [DecidableEq Key]

/-- The entries up to and including the first one with the given key. -/
def through (key : Entry → Key) (point : Key) (entries : List Entry) : Option (List Entry) :=
  (entries.findIdx? fun entry => key entry = point).map fun index => entries.take (index + 1)

def inheritedAt (key : Entry → Key) : Option Key → List Entry → Option (List Entry)
  | none, _ => some []
  | some point, entries => through key point entries

inductive History (forest : Forest Node Key Entry) : Node → Nat → List Entry → Prop
  | root {node : Node} (origin : forest.origin node = none) :
      History forest node 1 (forest.log node)
  | fork {node parent : Node} {point : Option Key} {depth : Nat} {entries inherited : List Entry}
      (origin : forest.origin node = some (parent, point))
      (earlier : History forest parent depth entries)
      (frozen : inheritedAt forest.key point entries = some inherited) :
      History forest node (depth + 1) (inherited ++ forest.log node)

variable {key : Entry → Key} {point : Key} {entries inherited : List Entry} {node : Node}
  {depth : Nat}

lemma through_append (found : through key point entries = some inherited) (more : List Entry) :
    through key point (entries ++ more) = some inherited := by
  obtain ⟨index, position, rfl⟩ := Option.map_eq_some_iff.1 found
  have bound : index < entries.length := by
    obtain ⟨within, -⟩ := List.findIdx?_eq_some_iff_getElem.1 position
    exact within
  rw [through, List.findIdx?_append, position, Option.some_or, Option.map_some,
    List.take_append_of_le_length bound]

lemma inheritedAt_append {point : Option Key}
    (found : inheritedAt key point entries = some inherited) (more : List Entry) :
    inheritedAt key point (entries ++ more) = some inherited := by
  cases point with
  | none => exact found
  | some point => exact through_append found more

lemma prefix_of_through (found : through key point entries = some inherited) :
    inherited <+: entries := by
  obtain ⟨index, -, rfl⟩ := Option.map_eq_some_iff.1 found
  exact List.take_prefix _ _

lemma prefix_of_inheritedAt {point : Option Key}
    (found : inheritedAt key point entries = some inherited) : inherited <+: entries := by
  cases point with
  | none =>
    cases found
    exact List.nil_prefix
  | some point => exact prefix_of_through found

lemma exists_through (mem : ∃ entry ∈ entries, key entry = point) :
    ∃ inherited, through key point entries = some inherited := by
  obtain ⟨entry, entryIn, eq⟩ := mem
  cases position : entries.findIdx? fun entry => key entry = point with
  | none =>
    have absent := List.findIdx?_eq_none_iff.1 position entry entryIn
    exact absurd eq (of_decide_eq_false absent)
  | some index => exact ⟨entries.take (index + 1), by rw [through, position, Option.map_some]⟩

variable {forest before after : Forest Node Key Entry}

lemma History.unique {other : Nat} {others : List Entry} (left : History forest node depth entries)
    (right : History forest node other others) :
    depth = other ∧ entries = others := by
  induction left generalizing other others with
  | root origin =>
    cases right with
    | root => exact ⟨rfl, rfl⟩
    | fork found => rw [origin] at found; cases found
  | fork origin earlier frozen ih =>
    cases right with
    | root found => rw [origin] at found; cases found
    | fork found before cut =>
      rw [origin] at found
      cases found
      obtain ⟨rfl, rfl⟩ := ih before
      rw [frozen] at cut
      cases cut
      exact ⟨rfl, rfl⟩

lemma History.depth_pos (history : History forest node depth entries) : 0 < depth := by
  cases history with
  | root => exact Nat.one_pos
  | fork => exact Nat.succ_pos _

lemma History.append {target : Node} {more : List Entry} (origin : after.origin = before.origin)
    (key : after.key = before.key) (grown : after.log target = before.log target ++ more)
    (others : ∀ node, node ≠ target → after.log node = before.log node)
    (history : History before node depth entries) :
    (node = target → History after node depth (entries ++ more)) ∧
      (node ≠ target → History after node depth entries) := by
  induction history with
  | @root node rooted =>
    have stays : after.origin node = none := origin ▸ rooted
    constructor
    · rintro rfl
      rw [← grown]
      exact .root stays
    · intro apart
      rw [← others node apart]
      exact .root stays
  | @fork node parent point depth entries inherited rooted earlier frozen ih =>
    have stays : after.origin node = some (parent, point) := origin ▸ rooted
    have forked : History after node (depth + 1) (inherited ++ after.log node) := by
      by_cases eq : parent = target
      · exact .fork stays (ih.1 eq) (key ▸ inheritedAt_append frozen more)
      exact .fork stays (ih.2 eq) (key ▸ frozen)
    constructor
    · rintro rfl
      rw [List.append_assoc, ← grown]
      exact forked
    · intro apart
      rw [← others node apart]
      exact forked

lemma History.extend {added : Node} (key : after.key = before.key)
    (origin : ∀ node, node ≠ added → after.origin node = before.origin node)
    (log : ∀ node, node ≠ added → after.log node = before.log node)
    (unmet : ∀ node parent point, before.origin node = some (parent, point) → parent ≠ added)
    (history : History before node depth entries) (apart : node ≠ added) :
    History after node depth entries := by
  induction history with
  | root rooted =>
    rw [← log _ apart]
    exact .root ((origin _ apart).trans rooted)
  | fork rooted earlier frozen ih =>
    rw [← log _ apart]
    exact .fork ((origin _ apart).trans rooted) (ih (unmet _ _ _ rooted)) (key ▸ frozen)

end

end Obsion.Lib
