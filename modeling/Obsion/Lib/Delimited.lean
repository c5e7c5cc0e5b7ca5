import Mathlib.Tactic

/-! # Delimited blocks in a text

A scanner looks for the first opening marker, takes everything up to the first closing
marker of its kind as a block and goes on behind it; an opening without a closing ends
the scan.  An outline is a text put together from blocks and the plain text between
them.  The scanner finds exactly the blocks of the outline where the plain text is
quiet: it opens nothing before a block, and nothing that it closes after the last. -/

namespace Obsion.Lib

structure Delimiters (κ α : Type) where
  kinds : List κ
  opening : κ → List α
  closing : κ → List α

/-- A text as blocks, each behind its plain text, and the plain text after the last. -/
structure Outline (κ α : Type) where
  blocks : List (List α × κ × List α)
  last : List α

namespace Delimiters

variable {κ α : Type} [DecidableEq α] (delimiters : Delimiters κ α)

def opens (text : List α) : Option (κ × List α) :=
  delimiters.kinds.findSome? fun kind =>
    (text.dropPrefix? (delimiters.opening kind)).map fun rest => (kind, rest)

/-- The first opening marker: the text before it, its kind, the text behind it. -/
def findOpening : List α → Option (List α × κ × List α)
  | [] => none
  | item :: rest =>
    match delimiters.opens (item :: rest) with
    | some found => some ([], found)
    | none => (findOpening rest).map fun found => (item :: found.1, found.2)

def wrap (kind : κ) (inner : List α) : List α :=
  delimiters.opening kind ++ inner ++ delimiters.closing kind

def blocksFrom : Nat → List α → List (Bool × List α)
  | 0, text => [(false, text)]
  | fuel + 1, text =>
    match delimiters.findOpening text with
    | none => [(false, text)]
    | some (before, kind, after) =>
      match after.dropInfix? (delimiters.closing kind) with
      | none => [(false, text)]
      | some (inner, rest) =>
        (false, before) :: (true, delimiters.wrap kind inner) :: blocksFrom fuel rest

/-- The text cut into plain text (`false`) and blocks (`true`). -/
def blocks (text : List α) : List (Bool × List α) := delimiters.blocksFrom (text.length + 1) text

def textOf (outline : Outline κ α) : List α :=
  outline.blocks.foldr (fun block text => block.1 ++ delimiters.wrap block.2.1 block.2.2 ++ text)
    outline.last

def partsOf (outline : Outline κ α) : List (Bool × List α) :=
  outline.blocks.foldr
    (fun block parts => (false, block.1) :: (true, delimiters.wrap block.2.1 block.2.2) :: parts)
    [(false, outline.last)]

/-- The block ends at its own closing marker, whatever follows. -/
def Closes (kind : κ) (inner : List α) : Prop :=
  ∀ rest, (inner ++ (delimiters.closing kind ++ rest)).dropInfix? (delimiters.closing kind) =
    some (inner, rest)

/-- The plain text of the outline is not taken for a block. -/
structure Quiet (outline : Outline κ α) : Prop where
  before : ∀ block ∈ outline.blocks, ∀ kind ∈ delimiters.kinds,
    ¬ delimiters.opening kind <:+: block.1
  last : ∀ before kind after, delimiters.findOpening outline.last = some (before, kind, after) →
    after.dropInfix? (delimiters.closing kind) = none

/-- Every opening marker starts with one item that does not come again in it, and no
opening marker starts another. -/
structure Marked (mark : α) : Prop where
  once : ∀ kind ∈ delimiters.kinds, ∃ rest, delimiters.opening kind = mark :: rest ∧ mark ∉ rest
  apart : ∀ kind ∈ delimiters.kinds, ∀ other ∈ delimiters.kinds, ∀ text,
    delimiters.opening kind <+: delimiters.opening other ++ text → kind = other

variable {delimiters}

omit [DecidableEq α] in
lemma mem_partsOf_layout {outline : Outline κ α} {part : List α}
    (mem : (true, part) ∈ delimiters.partsOf outline) :
    ∃ block ∈ outline.blocks, part = delimiters.wrap block.2.1 block.2.2 := by
  obtain ⟨blocks, last⟩ := outline
  induction blocks with
  | nil =>
    rcases List.mem_cons.1 mem with eq | known
    · cases eq
    cases known
  | cons block rest ih =>
    rcases List.mem_cons.1 mem with eq | known
    · cases eq
    rcases List.mem_cons.1 known with eq | known
    · cases eq
      exact ⟨block, List.mem_cons_self, rfl⟩
    obtain ⟨found, inside, eq⟩ := ih known
    exact ⟨found, List.mem_cons_of_mem block inside, eq⟩

lemma opens_eq_some {text rest : List α} {kind : κ}
    (found : delimiters.opens text = some (kind, rest)) :
    kind ∈ delimiters.kinds ∧ text = delimiters.opening kind ++ rest := by
  obtain ⟨tried, mem, matched⟩ := List.exists_of_findSome?_eq_some found
  obtain ⟨after, dropped, eq⟩ := Option.map_eq_some_iff.1 matched
  cases eq
  obtain ⟨head, rfl, equal⟩ := List.dropPrefix?_eq_some_iff.1 dropped
  exact ⟨mem, by rw [beq_iff_eq.1 equal]⟩

lemma opens_eq_none_iff {text : List α} : delimiters.opens text = none ↔
      ∀ kind ∈ delimiters.kinds, ¬ delimiters.opening kind <+: text := by
  rw [opens, List.findSome?_eq_none_iff]
  refine forall₂_congr fun kind _ => ?_
  rw [Option.map_eq_none_iff]
  constructor
  · rintro missing ⟨rest, rfl⟩
    rw [List.dropPrefix?_append_of_beq rest (beq_self_eq_true _)] at missing
    cases missing
  · intro apart
    by_contra dropped
    obtain ⟨rest, found⟩ := Option.ne_none_iff_exists'.1 dropped
    obtain ⟨head, rfl, equal⟩ := List.dropPrefix?_eq_some_iff.1 found
    exact apart ⟨rest, by rw [beq_iff_eq.1 equal]⟩

lemma findOpening_eq_some {text before after : List α} {kind : κ}
    (found : delimiters.findOpening text = some (before, kind, after)) :
    kind ∈ delimiters.kinds ∧ text = before ++ (delimiters.opening kind ++ after) := by
  induction text generalizing before with
  | nil => cases found
  | cons item rest ih =>
    rw [findOpening] at found
    split at found
    · next opened =>
      cases found
      exact opens_eq_some opened
    · obtain ⟨later, deeper, eq⟩ := Option.map_eq_some_iff.1 found
      obtain ⟨early, kind, late⟩ := later
      cases eq
      obtain ⟨mem, rfl⟩ := ih deeper
      exact ⟨mem, rfl⟩

lemma findOpening_append {before tail : List α} {found : κ × List α}
    (silent : ∀ front item back, before = front ++ item :: back →
      delimiters.opens (item :: (back ++ tail)) = none)
    (opened : delimiters.opens tail = some found) (shown : tail ≠ []) :
    delimiters.findOpening (before ++ tail) = some (before, found) := by
  induction before with
  | nil =>
    cases tail with
    | nil => exact absurd rfl shown
    | cons item rest =>
      rw [List.nil_append, findOpening, opened]
  | cons item rest ih =>
    have here := silent [] item rest rfl
    have later := ih fun front other back split =>
      silent (item :: front) other back (by rw [split]; rfl)
    rw [List.cons_append, findOpening, here, later]
    rfl

lemma findOpening_of_infix {text tail : List α} {kind : κ} (mem : kind ∈ delimiters.kinds)
    (inside : delimiters.opening kind <:+: text) (shown : delimiters.opening kind ≠ []) :
    ∃ before found, delimiters.findOpening (text ++ tail) = some (before, found) ∧
      before.length < text.length := by
  induction text with
  | nil =>
    rw [List.infix_nil] at inside
    exact absurd inside shown
  | cons item rest ih =>
    rw [List.cons_append, findOpening]
    cases opened : delimiters.opens (item :: (rest ++ tail)) with
    | some found => exact ⟨[], found, rfl, by simp⟩
    | none =>
      rcases List.infix_cons_iff.1 inside with start | deeper
      · refine absurd ?_ (opens_eq_none_iff.1 opened kind mem)
        exact start.trans (List.prefix_append (item :: rest) tail)
      obtain ⟨before, found, run, shorter⟩ := ih deeper
      refine ⟨item :: before, found, ?_, by simpa using shorter⟩
      rw [run]
      rfl

omit [DecidableEq α] in
lemma Marked.opening_ne_nil {mark : α} (marked : delimiters.Marked mark) {kind : κ}
    (mem : kind ∈ delimiters.kinds) : delimiters.opening kind ≠ [] := by
  obtain ⟨rest, eq, _⟩ := marked.once kind mem
  rw [eq]
  exact List.cons_ne_nil mark rest

lemma Marked.shorter {mark : α} (marked : delimiters.Marked mark) {text before after inner rest : List α}
    {kind : κ} (found : delimiters.findOpening text = some (before, kind, after))
    (closed : after.dropInfix? (delimiters.closing kind) = some (inner, rest)) :
    rest.length < text.length := by
  obtain ⟨mem, rfl⟩ := findOpening_eq_some found
  obtain ⟨⟨_, rfl, _⟩, _⟩ := List.dropInfix?_eq_some_iff.1 closed
  have positive := List.length_pos_of_ne_nil (marked.opening_ne_nil mem)
  simp only [List.length_append]
  omega

lemma Marked.blocksFrom_congr {mark : α} (marked : delimiters.Marked mark) (fuel : Nat) :
    ∀ (more : Nat) (text : List α), text.length < fuel → text.length < more →
      delimiters.blocksFrom fuel text = delimiters.blocksFrom more text := by
  induction fuel with
  | zero =>
    intro more text enough
    omega
  | succ fuel ih =>
    intro more text enough also
    cases more with
    | zero => omega
    | succ more =>
      rw [blocksFrom, blocksFrom]
      cases found : delimiters.findOpening text with
      | none => rfl
      | some run =>
        obtain ⟨before, kind, after⟩ := run
        cases closed : after.dropInfix? (delimiters.closing kind) with
        | none => simp only [closed]
        | some ended =>
          obtain ⟨inner, rest⟩ := ended
          have less := marked.shorter found closed
          simp only [closed]
          rw [ih more rest (by omega) (by omega)]

lemma Marked.blocks_eq {mark : α} (marked : delimiters.Marked mark) (text : List α) :
    delimiters.blocks text = match delimiters.findOpening text with
      | none => [(false, text)]
      | some (before, kind, after) =>
        match after.dropInfix? (delimiters.closing kind) with
        | none => [(false, text)]
        | some (inner, rest) =>
          (false, before) :: (true, delimiters.wrap kind inner) :: delimiters.blocks rest := by
  rw [blocks, blocksFrom]
  cases found : delimiters.findOpening text with
  | none => rfl
  | some run =>
    obtain ⟨before, kind, after⟩ := run
    cases closed : after.dropInfix? (delimiters.closing kind) with
    | none => simp only [closed]
    | some ended =>
      obtain ⟨inner, rest⟩ := ended
      have less := marked.shorter found closed
      simp only [closed]
      rw [blocks, marked.blocksFrom_congr text.length (rest.length + 1) rest less (by omega)]

omit [DecidableEq α] in
lemma prefix_of_not_mem {mark : α} {short before after : List α}
    (start : short <+: before ++ mark :: after) (absent : mark ∉ short) : short <+: before := by
  rcases List.prefix_or_prefix_of_prefix start (List.prefix_append before (mark :: after)) with
    within | ⟨more, rfl⟩
  · exact within
  cases more with
  | nil => rw [List.append_nil]
  | cons item more =>
    have aligned := (List.prefix_append_right_inj before).1 start
    obtain ⟨rfl, _⟩ := List.cons_prefix_cons.1 aligned
    exact absurd (List.mem_append_right before List.mem_cons_self) absent

lemma Marked.silent {mark : α} (marked : delimiters.Marked mark) {plain tail : List α} {kind : κ}
    (quiet : ∀ kind ∈ delimiters.kinds, ¬ delimiters.opening kind <:+: plain)
    (mem : kind ∈ delimiters.kinds) (front : List α) (item : α) (back : List α)
    (split : plain = front ++ item :: back) :
    delimiters.opens (item :: (back ++ (delimiters.opening kind ++ tail))) = none := by
  obtain ⟨after, first, _⟩ := marked.once kind mem
  rw [opens_eq_none_iff]
  intro other known start
  obtain ⟨rest, shape, once⟩ := marked.once other known
  rw [shape, first] at start
  obtain ⟨rfl, inner⟩ := List.cons_prefix_cons.1 start
  have within : rest <+: back := prefix_of_not_mem (by simpa using inner) once
  refine quiet other known ?_
  rw [split, shape]
  exact (List.cons_prefix_cons.2 ⟨rfl, within⟩).isInfix.trans (List.suffix_append front _).isInfix

lemma Marked.opens_block {mark : α} (marked : delimiters.Marked mark) {kind : κ} {tail : List α}
    (mem : kind ∈ delimiters.kinds) :
    delimiters.opens (delimiters.opening kind ++ tail) = some (kind, tail) := by
  cases opened : delimiters.opens (delimiters.opening kind ++ tail) with
  | none =>
    have none_start := opens_eq_none_iff.1 opened kind mem
    exact absurd (List.prefix_append _ _) none_start
  | some found =>
    obtain ⟨other, rest⟩ := found
    obtain ⟨known, eq⟩ := opens_eq_some opened
    have equal := marked.apart other known kind mem tail ⟨rest, eq.symm⟩
    subst equal
    rw [List.append_cancel_left eq]

variable {mark : α} (marked : delimiters.Marked mark)

include marked

lemma blocks_last_iff (last : List α) : delimiters.blocks last = [(false, last)] ↔
      ∀ before kind after, delimiters.findOpening last = some (before, kind, after) →
        after.dropInfix? (delimiters.closing kind) = none := by
  rw [marked.blocks_eq]
  cases found : delimiters.findOpening last with
  | none => simp
  | some run =>
    obtain ⟨before, kind, after⟩ := run
    cases closed : after.dropInfix? (delimiters.closing kind) with
    | none =>
      constructor
      · rintro - _ _ _ eq
        cases eq
        exact closed
      · intro _
        simp only [closed]
    | some ended =>
      constructor
      · intro eq
        simp only [closed] at eq
        cases eq
      · intro open_
        have missing := open_ before kind after rfl
        rw [closed] at missing
        cases missing

lemma blocks_block_iff {plain inner tail : List α} {kind : κ} {parts : List (Bool × List α)}
    (mem : kind ∈ delimiters.kinds) (closes : delimiters.Closes kind inner) :
    delimiters.blocks (plain ++ delimiters.wrap kind inner ++ tail) =
        (false, plain) :: (true, delimiters.wrap kind inner) :: parts ↔
      (∀ kind ∈ delimiters.kinds, ¬ delimiters.opening kind <:+: plain) ∧
        delimiters.blocks tail = parts := by
  have shape : plain ++ delimiters.wrap kind inner ++ tail =
      plain ++ (delimiters.opening kind ++ (inner ++ (delimiters.closing kind ++ tail))) := by
    simp only [wrap, List.append_assoc]
  rw [shape, marked.blocks_eq]
  by_cases quiet : ∀ kind ∈ delimiters.kinds, ¬ delimiters.opening kind <:+: plain
  · have found : delimiters.findOpening
        (plain ++ (delimiters.opening kind ++ (inner ++ (delimiters.closing kind ++ tail)))) =
          some (plain, kind, inner ++ (delimiters.closing kind ++ tail)) := by
      refine findOpening_append (marked.silent quiet mem) (marked.opens_block mem) ?_
      exact List.append_ne_nil_of_left_ne_nil (marked.opening_ne_nil mem) _
    rw [found]
    simp only [closes tail, List.cons.injEq, true_and]
    exact ⟨fun eq => ⟨quiet, eq⟩, fun eq => eq.2⟩
  · refine iff_of_false (fun eq => ?_) (fun both => quiet both.1)
    push Not at quiet
    obtain ⟨other, known, inside⟩ := quiet
    have located : ∃ before found, delimiters.findOpening
        (plain ++ (delimiters.opening kind ++ (inner ++ (delimiters.closing kind ++ tail)))) =
          some (before, found) ∧ before.length < plain.length :=
      findOpening_of_infix known inside (marked.opening_ne_nil known)
    obtain ⟨before, ⟨kind', after⟩, found, shorter⟩ := located
    rw [found] at eq
    cases closed : after.dropInfix? (delimiters.closing kind') with
    | none =>
      simp only [closed] at eq
      exact absurd (List.cons.inj eq).2.symm (List.cons_ne_nil _ _)
    | some ended =>
      simp only [closed, List.cons.injEq, Prod.mk.injEq, true_and] at eq
      rw [eq.1] at shorter
      exact absurd shorter (lt_irrefl _)

lemma blocks_eq_partsOf_iff (outline : Outline κ α) (sound : ∀ block ∈ outline.blocks,
      block.2.1 ∈ delimiters.kinds ∧ delimiters.Closes block.2.1 block.2.2) :
    delimiters.blocks (delimiters.textOf outline) = delimiters.partsOf outline ↔
      delimiters.Quiet outline := by
  obtain ⟨blocks, last⟩ := outline
  induction blocks with
  | nil =>
    refine (blocks_last_iff marked last).trans ⟨fun quiet => ⟨?_, quiet⟩, fun quiet => quiet.last⟩
    intro block mem
    cases mem
  | cons block rest ih =>
    obtain ⟨plain, kind, inner⟩ := block
    obtain ⟨mem, closes⟩ := sound _ List.mem_cons_self
    have later := ih fun block known => sound block (List.mem_cons_of_mem _ known)
    refine (blocks_block_iff marked mem closes).trans ((and_congr_right fun _ => later).trans ?_)
    constructor
    · rintro ⟨quiet, before, last⟩
      refine ⟨fun block known => ?_, last⟩
      rcases List.mem_cons.1 known with rfl | known
      · exact quiet
      exact before block known
    · rintro ⟨before, last⟩
      exact ⟨before _ List.mem_cons_self,
        fun block known => before block (List.mem_cons_of_mem _ known), last⟩

end Delimiters

section
variable {α : Type} {marker text before after left right : List α} {item : α}

/-- An occurrence of a marker does not cross an item that the marker does not have. -/
lemma occurrence_cases (foreign : item ∉ marker) (eq : left ++ item :: right = before ++ marker ++ after) :
    (∃ rest, left = before ++ marker ++ rest) ∨
      ∃ front, before = left ++ item :: front ∧ right = front ++ marker ++ after := by
  obtain ⟨rest, reach, more⟩ | ⟨rest, within, -⟩ := List.append_eq_append_iff.1 eq
  · cases rest with
    | nil => exact .inl ⟨[], by simpa using reach.symm⟩
    | cons first rest =>
      obtain ⟨rfl, rfl⟩ := List.cons.inj more
      obtain ⟨front, -, crossed⟩ | ⟨front, rfl, crossed⟩ := List.append_eq_append_iff.1 reach
      · rw [crossed] at foreign
        exact absurd (List.mem_append_right front List.mem_cons_self) foreign
      cases front with
      | nil =>
        rw [List.nil_append] at crossed
        exact absurd (crossed ▸ List.mem_cons_self) foreign
      | cons first front =>
        obtain ⟨rfl, rfl⟩ := List.cons.inj crossed
        exact .inr ⟨front, rfl, rfl⟩
  · exact .inl ⟨rest, within⟩

lemma infix_append_cons (foreign : item ∉ marker) (inside : marker <:+: left ++ item :: right) :
    marker <:+: left ∨ marker <:+: right := by
  obtain ⟨before, after, eq⟩ := inside
  obtain ⟨rest, rfl⟩ | ⟨front, -, rfl⟩ := occurrence_cases foreign eq.symm
  · exact .inl ⟨before, rest, rfl⟩
  exact .inr ⟨front, after, rfl⟩

lemma not_infix_intercalate {parts : List (List α)} (foreign : item ∉ marker) (filled : marker ≠ [])
    (clean : ∀ part ∈ parts, ¬ marker <:+: part) : ¬ marker <:+: List.intercalate [item] parts := by
  induction parts with
  | nil => exact fun inside => filled (List.infix_nil.1 inside)
  | cons part parts ih =>
    obtain ⟨first, others⟩ := List.forall_mem_cons.1 clean
    cases parts with
    | nil =>
      rw [List.intercalate_singleton]
      exact first
    | cons next parts =>
      rw [List.intercalate_cons_cons, List.append_assoc]
      exact fun inside => (infix_append_cons foreign inside).elim first (ih others)

lemma infix_right {first : α} {tail : List α} (absent : first ∉ left) (inside : first :: tail <:+: left ++ right) :
    first :: tail <:+: right := by
  induction left with
  | nil => exact inside
  | cons item left ih =>
    obtain ⟨apart, rest⟩ := not_or.1 (List.mem_cons.not.1 absent)
    obtain start | later := List.infix_cons_iff.1 inside
    · exact absurd (List.cons_prefix_cons.1 start).1 apart
    exact ih rest later

variable {escape : α → List α} {escaped : α}

lemma prefix_of_flatMap (shape : ∀ item, escape item = [item] ∨ ∃ rest, escape item = escaped :: rest)
    (absent : escaped ∉ marker) (start : marker <+: text.flatMap escape) : marker <+: text := by
  induction text generalizing marker with
  | nil => exact start
  | cons item text ih =>
    cases marker with
    | nil => exact List.nil_prefix
    | cons first tail =>
      obtain ⟨apart, rest⟩ := not_or.1 (List.mem_cons.not.1 absent)
      rw [List.flatMap_cons] at start
      obtain single | ⟨more, long⟩ := shape item
      · rw [single] at start
        obtain ⟨eq, onward⟩ := List.cons_prefix_cons.1 start
        exact List.cons_prefix_cons.2 ⟨eq, ih rest onward⟩
      · rw [long] at start
        exact absurd (List.cons_prefix_cons.1 start).1.symm apart

/-- Escapes put no marker into a text, where the escaping item is not in the marker and the first item
of the marker in no escape. -/
lemma infix_of_flatMap {first : α} {tail : List α}
    (shape : ∀ item, escape item = [item] ∨ ∃ rest, escape item = escaped :: rest)
    (absent : escaped ∉ first :: tail) (outside : ∀ item, escape item ≠ [item] → first ∉ escape item)
    (inside : first :: tail <:+: text.flatMap escape) : first :: tail <:+: text := by
  induction text with
  | nil => exact inside
  | cons item text ih =>
    rw [List.flatMap_cons] at inside
    by_cases single : escape item = [item]
    · have whole : first :: tail <:+: item :: text.flatMap escape := by rwa [single] at inside
      obtain start | later := List.infix_cons_iff.1 whole
      · have start : first :: tail <+: (item :: text).flatMap escape := by
          rw [List.flatMap_cons, single]
          exact start
        exact (prefix_of_flatMap shape absent start).isInfix
      · exact List.infix_cons (ih later)
    · exact List.infix_cons (ih (infix_right (outside item single) inside))

lemma infix_of_mem_splitOnP {test : α → Bool} {part : List α} (mem : part ∈ text.splitOnP test) :
    part <:+: text := by
  suffices parts : ∃ head rest, text.splitOnP test = head :: rest ∧ head <+: text ∧ ∀ part ∈ rest, part <:+: text by
    obtain ⟨head, rest, eq, start, others⟩ := parts
    obtain rfl | later := List.mem_cons.1 (eq ▸ mem)
    · exact start.isInfix
    exact others part later
  clear mem
  induction text with
  | nil => exact ⟨[], [], List.splitOnP_nil, List.nil_prefix, nofun⟩
  | cons item text ih =>
    obtain ⟨head, rest, eq, start, others⟩ := ih
    have later : ∀ part ∈ rest, part <:+: item :: text := fun part inside => List.infix_cons (others part inside)
    rw [List.splitOnP_cons_eq_if_modifyHead, eq]
    split
    · exact ⟨[], head :: rest, rfl, List.nil_prefix,
        List.forall_mem_cons.2 ⟨List.infix_cons start.isInfix, later⟩⟩
    exact ⟨item :: head, rest, rfl, List.cons_prefix_cons.2 ⟨rfl, start⟩, later⟩

end
end Obsion.Lib
