import Obsion.Knowledge.Jsonml.Blocks

/-! # What the chunks of a document cover

The buffer holds text that the last chunk has as well, and behind it text that no chunk
has.  A flush and a window move the second kind into a new chunk. -/

namespace Obsion.Jsonml

/-- What a chunk has again, blank characters aside: an end of the chunk before it. -/
def Repeats (sizes : ChunkSizes) (chunks : List Text) (part : Text) : Prop :=
  part <:+ squeeze (chunks.getLast?.getD []) ∧ part.length ≤ sizes.overlapChars

/-- Blank characters aside, each chunk is the end of its predecessor that it carries, the
end of it that its window shares, and the text that comes next. -/
inductive Covers (sizes : ChunkSizes) : List Text → Text → Prop
  | nil : Covers sizes [] []
  | snoc {chunks : List Text} {covered : Text} (chunk carried shared fresh : Text)
      (before : Covers sizes chunks covered) (cut : squeeze chunk = carried ++ (shared ++ fresh))
      (carries : Repeats sizes chunks carried) (shares : Repeats sizes chunks shared) :
      Covers sizes (chunks ++ [chunk]) (covered ++ fresh)

/-- The windows a block is cut into, one for each unit of fuel. -/
def windows (sizes : ChunkSizes) (fuel : Nat) (block : Text) : List Text :=
  match fuel with
  | 0 => []
  | fuel + 1 =>
    if block = [] then []
    else block.take sizes.maxChars ::
      windows sizes fuel (block.drop (sizes.maxChars - sizes.overlapChars))

/-- The windows of an oversized block become chunks where there is nothing to carry. -/
def Legible (sizes : ChunkSizes) (blocks : List Text) : Prop :=
  ∀ before block, before ++ [block] <+: blocks → sizes.maxChars < block.length →
    (sizes.overlapChars = 0 ∨ ∀ earlier ∈ before, sizes.maxChars < earlier.length) →
      ∀ window ∈ windows sizes block.length block, squeeze window ≠ []

def shownBlocks (parts : List Text) : List Text := (parts.map strip).filter (· ≠ [])

structure Chunked (sizes : ChunkSizes) (document : Text) (chunks : List Chunk) : Prop where
  shown : ∀ chunk ∈ chunks, squeeze chunk.2 ≠ []
  short : ∀ chunk ∈ chunks, chunk.2.length ≤ sizes.maxChars + sizes.overlapChars + 2
  covers : Covers sizes (chunks.map Prod.snd) (squeeze document)

structure Bounded (sizes : ChunkSizes) (state : Chunking) : Prop where
  shown : state.buffer ≠ [] → squeeze state.buffer ≠ []
  short : ∀ chunk ∈ state.chunks, chunk.2.length ≤ sizes.maxChars + sizes.overlapChars + 2

/-- What the chunks cover, and the buffer after them. -/
structure Cut (sizes : ChunkSizes) (document : Text) (state : Chunking) : Prop
    extends Bounded sizes state where
  covers : ∃ covered carried shared fresh, Covers sizes (state.chunks.map Prod.snd) covered ∧
    squeeze state.buffer = carried ++ (shared ++ fresh) ∧
    Repeats sizes (state.chunks.map Prod.snd) carried ∧
    Repeats sizes (state.chunks.map Prod.snd) shared ∧ covered ++ fresh = document
  room : state.buffer.length ≤ sizes.maxChars + sizes.overlapChars + 2

/-- Nothing in the buffer is new. -/
structure Carried (sizes : ChunkSizes) (document : Text) (state : Chunking) : Prop
    extends Bounded sizes state where
  covers : Covers sizes (state.chunks.map Prod.snd) document
  again : Repeats sizes (state.chunks.map Prod.snd) (squeeze state.buffer)
  small : state.buffer.length ≤ sizes.overlapChars

def Chunking.Shown (state : Chunking) : Prop := ∀ chunk ∈ state.chunks, squeeze chunk.2 ≠ []

section
variable {sizes : ChunkSizes} {document part block rest shared fresh : Text} {state : Chunking}
  {blocks chunks : List Text}

lemma Repeats.nil : Repeats sizes chunks [] := ⟨List.nil_suffix, Nat.zero_le _⟩

lemma length_squeeze (part : Text) : (squeeze part).length ≤ part.length :=
  List.length_filter_le _ _

lemma Repeats.suffix {chunk : Text} (ends : part <:+ chunk)
    (small : part.length ≤ sizes.overlapChars) :
    Repeats sizes (chunks ++ [chunk]) (squeeze part) := by
  refine ⟨?_, (length_squeeze part).trans small⟩
  rw [List.getLast?_concat]
  exact ends.filter _

lemma length_strip (part : Text) : (strip part).length ≤ part.length :=
  (List.rdropWhile_prefix CodePoint.isSpace _).length_le.trans (List.dropWhile_suffix _).length_le

variable {other : Chunking} {char : CodePoint}

lemma Cut.congr (cut : Cut sizes document state) (chunks : state.chunks = other.chunks)
    (buffer : state.buffer = other.buffer) :
    Cut sizes document other where
  shown := buffer ▸ cut.shown
  short := chunks ▸ cut.short
  covers := chunks ▸ buffer ▸ cut.covers
  room := buffer ▸ cut.room

lemma Carried.congr (carried : Carried sizes document state) (chunks : state.chunks = other.chunks)
    (buffer : state.buffer = other.buffer) :
    Carried sizes document other where
  shown := buffer ▸ carried.shown
  short := chunks ▸ carried.short
  covers := chunks ▸ carried.covers
  again := chunks ▸ buffer ▸ carried.again
  small := buffer ▸ carried.small

lemma Carried.cut (carried : Carried sizes document state) : Cut sizes document state :=
  { carried with
    covers := ⟨document, squeeze state.buffer, [], [], carried.covers, by simp, carried.again,
      Repeats.nil, List.append_nil _⟩
    room := by have small := carried.small; omega }

lemma Cut.carried (cut : Cut sizes document state) (empty : state.buffer = []) :
    Carried sizes document state := by
  obtain ⟨covered, carried, shared, fresh, covers, split, -, -, whole⟩ := cut.covers
  rw [empty, squeeze_nil] at split
  obtain ⟨-, rest⟩ := List.append_eq_nil_iff.1 split.symm
  obtain ⟨-, rfl⟩ := List.append_eq_nil_iff.1 rest
  rw [List.append_nil] at whole
  subst whole
  refine ⟨cut.toBounded, covers, ?_, ?_⟩
  · rw [empty]
    exact Repeats.nil
  · rw [empty]
    exact Nat.zero_le _

lemma squeeze_overlap_ne_nil (positive : 0 < sizes.overlapChars) (shown : strip part ≠ []) :
    squeeze (overlap sizes (strip part)) ≠ [] := by
  intro blank
  have last := strip_ends (List.getLast?_eq_some_getLast shown)
  have inside : (strip part).getLast shown ∈ overlap sizes (strip part) := by
    have long := List.length_pos_of_ne_nil shown
    rw [overlap, ← List.getLast_drop (i := (strip part).length - sizes.overlapChars) (by
      rw [ne_eq, List.drop_eq_nil_iff]
      omega)]
    exact List.getLast_mem _
  rw [squeeze_eq_nil_iff.1 blank _ inside] at last
  cases last

lemma Cut.flush (cut : Cut sizes document state) : Carried sizes document (state.flush sizes) ∧
    ((state.flush sizes).Shown ↔ state.Shown) ∧
      (0 < sizes.overlapChars → ((state.flush sizes).buffer = [] ↔ state.buffer = [])) := by
  by_cases blank : strip state.buffer = []
  · have empty : state.buffer = [] := by
      by_contra filled
      exact cut.shown filled (strip_eq_nil_iff.1 blank)
    have eq : state.flush sizes = state := by
      cases state
      cases empty
      simp [Chunking.flush, overlap, show strip ([] : Text) = [] from rfl]
    rw [eq]
    exact ⟨cut.carried empty, Iff.rfl, fun _ => Iff.rfl⟩
  · obtain ⟨covered, carried, shared, fresh, covers, split, carries, shares, rfl⟩ := cut.covers
    have chunks : (state.flush sizes).chunks =
        state.chunks ++ [(state.bufferHeading, strip state.buffer)] := if_neg blank
    have ends : overlap sizes (strip state.buffer) <:+ strip state.buffer := List.drop_suffix _ _
    have small : (overlap sizes (strip state.buffer)).length ≤ sizes.overlapChars := by
      rw [overlap, List.length_drop]
      omega
    refine ⟨⟨⟨?_, ?_⟩, ?_, ?_, small⟩, ?_, fun positive => ?_⟩
    · intro filled
      refine squeeze_overlap_ne_nil ?_ blank
      have long := List.length_pos_of_ne_nil filled
      exact Nat.lt_of_lt_of_le long small
    · rw [chunks, List.forall_mem_append, List.forall_mem_singleton]
      exact ⟨cut.short, (length_strip _).trans cut.room⟩
    · rw [chunks, List.map_append]
      exact .snoc _ carried shared fresh covers ((squeeze_strip _).trans split) carries shares
    · rw [chunks, List.map_append]
      exact Repeats.suffix ends small
    · rw [Chunking.Shown, chunks, List.forall_mem_append, List.forall_mem_singleton]
      exact and_iff_left fun empty => blank (strip_eq_nil_iff.2 (squeeze_strip _ ▸ empty))
    · refine iff_of_false ?_ fun empty => blank (by rw [empty]; rfl)
      intro empty
      exact squeeze_overlap_ne_nil positive blank (congrArg squeeze empty)

/-! ## The windows of an oversized block -/

/-- One round of the loop over the windows. -/
def Chunking.window (sizes : ChunkSizes) (piece : Text) (state : Chunking) : Chunking :=
  if state.buffer ≠ [] then
    { state with buffer := state.buffer ++ text "\n\n" ++ piece }.flush sizes
  else { state with chunks := state.chunks ++ [(state.headingPath, piece)] }

lemma Carried.window (carried : Carried sizes document state) {piece : Text}
    (split : piece = shared ++ fresh)
    (shares : Repeats sizes (state.chunks.map Prod.snd) (squeeze shared))
    (bound : piece.length ≤ sizes.maxChars) :
    Carried sizes (document ++ squeeze fresh) (state.window sizes piece) ∧
      ((state.window sizes piece).buffer = [] ↔ state.buffer = []) ∧
      ((state.window sizes piece).Shown ↔ state.Shown ∧ (state.buffer = [] → squeeze piece ≠ [])) ∧
      squeeze piece <:+
        squeeze (((state.window sizes piece).chunks.map Prod.snd).getLast?.getD []) := by
  have parts : squeeze piece = squeeze shared ++ squeeze fresh := by rw [split, squeeze_append]
  by_cases empty : state.buffer = []
  · rw [Chunking.window, if_neg (not_not.2 empty)]
    refine ⟨⟨⟨fun filled => absurd empty filled, ?_⟩, ?_, ?_, carried.small⟩, Iff.rfl, ?_, ?_⟩
    · simp only [List.forall_mem_append, List.forall_mem_singleton]
      exact ⟨carried.short, by omega⟩
    · rw [List.map_append]
      exact .snoc piece [] (squeeze shared) (squeeze fresh) carried.covers parts Repeats.nil shares
    · rw [empty]
      exact Repeats.nil
    · simp only [Chunking.Shown, List.forall_mem_append, List.forall_mem_singleton]
      exact and_congr_right fun _ => ⟨fun shown _ => shown, fun shown => shown empty⟩
    · rw [List.map_append, List.map_singleton, List.getLast?_concat]
      exact List.suffix_rfl
  · rw [Chunking.window, if_pos empty]
    have joined : squeeze (state.buffer ++ text "\n\n" ++ piece) =
        squeeze state.buffer ++ (squeeze shared ++ squeeze fresh) := by
      rw [squeeze_append, squeeze_append, show squeeze (text "\n\n") = [] from rfl, parts,
        List.append_nil]
    have filled : state.buffer ++ text "\n\n" ++ piece ≠ [] := by simp [empty]
    have shown : squeeze (state.buffer ++ text "\n\n" ++ piece) ≠ [] := by
      simp [carried.shown empty]
    have cut : Cut sizes (document ++ squeeze fresh)
        { state with buffer := state.buffer ++ text "\n\n" ++ piece } :=
      { covers := ⟨document, _, _, _, carried.covers, joined, carried.again, shares, rfl⟩
        room := by
          have small := carried.small
          simp only [List.length_append, show (text "\n\n").length = 2 from rfl]
          omega
        shown := fun _ => shown
        short := carried.short }
    obtain ⟨flushed, eq, held⟩ := cut.flush
    have positive : 0 < sizes.overlapChars :=
      Nat.lt_of_lt_of_le (List.length_pos_of_ne_nil empty) carried.small
    refine ⟨flushed, iff_of_false (fun none_ => filled ((held positive).1 none_)) empty,
      eq.trans (and_iff_left fun none_ => absurd none_ empty).symm, ?_⟩
    have chunks : (Chunking.flush sizes
        { state with buffer := state.buffer ++ text "\n\n" ++ piece }).chunks =
          state.chunks ++ [(state.bufferHeading, strip (state.buffer ++ text "\n\n" ++ piece))] :=
      if_neg fun blank => shown (strip_eq_nil_iff.1 blank)
    rw [chunks, List.map_append, List.map_singleton, List.getLast?_concat, Option.getD_some,
      squeeze_strip, joined, ← parts]
    exact List.suffix_append _ _

lemma Carried.pieces (fits : sizes.overlapChars < sizes.maxChars) (fuel : Nat)
    (carried : Carried sizes document state) (split : rest = shared ++ fresh)
    (shares : Repeats sizes (state.chunks.map Prod.snd) (squeeze shared))
    (small : shared.length ≤ sizes.overlapChars) (enough : rest.length ≤ fuel) :
    Carried sizes (document ++ squeeze fresh) (state.pieces sizes fuel rest) ∧
      ((state.pieces sizes fuel rest).buffer = [] ↔ state.buffer = []) ∧
      ((state.pieces sizes fuel rest).Shown ↔ state.Shown ∧
          (state.buffer = [] → ∀ window ∈ windows sizes fuel rest, squeeze window ≠ [])) := by
  induction fuel generalizing rest shared fresh document state with
  | zero =>
    obtain rfl := List.length_eq_zero_iff.1 (Nat.le_zero.1 enough)
    obtain ⟨-, rfl⟩ := List.append_eq_nil_iff.1 split.symm
    rw [squeeze_nil, List.append_nil]
    exact ⟨carried, Iff.rfl, (and_iff_left fun _ => nofun).symm⟩
  | succ fuel ih =>
    by_cases filled : rest = []
    · subst filled
      obtain ⟨-, rfl⟩ := List.append_eq_nil_iff.1 split.symm
      rw [squeeze_nil, List.append_nil]
      exact ⟨carried, Iff.rfl, (and_iff_left fun _ => nofun).symm⟩
    have unfolds : state.pieces sizes (fuel + 1) rest =
        (state.window sizes (rest.take sizes.maxChars)).pieces sizes fuel
          (rest.drop (sizes.maxChars - sizes.overlapChars)) := by
      rw [Chunking.pieces, if_neg filled]
      rfl
    have cut : rest.take sizes.maxChars = shared ++ fresh.take (sizes.maxChars - shared.length) := by
      rw [split, List.take_append, List.take_of_length_le (by omega)]
    have last : rest.drop sizes.maxChars = fresh.drop (sizes.maxChars - shared.length) := by
      rw [split, List.drop_append, List.drop_of_length_le (by omega), List.nil_append]
    have next : rest.drop (sizes.maxChars - sizes.overlapChars) =
        (rest.take sizes.maxChars).drop (sizes.maxChars - sizes.overlapChars) ++
          fresh.drop (sizes.maxChars - shared.length) := by
      rw [List.drop_take, ← last]
      conv_lhs =>
        rw [← List.take_append_drop (sizes.maxChars - (sizes.maxChars - sizes.overlapChars))
          (rest.drop (sizes.maxChars - sizes.overlapChars))]
      rw [List.drop_drop, Nat.add_sub_cancel' (Nat.sub_le _ _)]
    have long := List.length_pos_of_ne_nil filled
    obtain ⟨windowed, held, shown, ends⟩ := carried.window cut shares (List.length_take_le _ _)
    have short : ((rest.take sizes.maxChars).drop (sizes.maxChars - sizes.overlapChars)).length ≤
        sizes.overlapChars := by
      rw [List.length_drop, List.length_take]
      omega
    obtain ⟨final, kept, legible⟩ := ih windowed next
      ⟨((List.drop_suffix _ _).filter _).trans ends, (length_squeeze _).trans short⟩ short (by
        rw [List.length_drop]
        omega)
    rw [List.append_assoc, ← squeeze_append, List.take_append_drop] at final
    rw [unfolds]
    refine ⟨final, kept.trans held, ?_⟩
    rw [legible, shown, held, and_assoc, ← imp_and, windows, if_neg filled, List.forall_mem_cons]

/-- As many units of fuel as the block has characters are enough. -/
lemma pieces_enough (fits : sizes.overlapChars < sizes.maxChars) {fuel : Nat}
    (enough : block.length ≤ fuel) (more : Nat) :
    state.pieces sizes (fuel + more) block = state.pieces sizes fuel block := by
  induction fuel generalizing block state with
  | zero =>
    obtain rfl := List.length_eq_zero_iff.1 (Nat.le_zero.1 enough)
    cases more <;> rfl
  | succ fuel ih =>
    rw [Nat.succ_add, Chunking.pieces, Chunking.pieces]
    split
    · rfl
    next filled =>
    have long := List.length_pos_of_ne_nil filled
    exact ih (by rw [List.length_drop]; omega)

/-! ## One block more -/

/-- The buffer is flushed where the block does not fit behind it. -/
def Chunking.makeRoom (sizes : ChunkSizes) (block : Text) (state : Chunking) : Chunking :=
  if state.buffer ≠ [] ∧ sizes.maxChars < state.buffer.length + block.length + 2 then
    state.flush sizes
  else state

def Chunking.put (sizes : ChunkSizes) (block : Text) (state : Chunking) : Chunking :=
  if sizes.maxChars < block.length then state.pieces sizes block.length block
  else
    { state with
      buffer := if state.buffer = [] then block else state.buffer ++ text "\n\n" ++ block }

lemma add_eq (filled : strip part ≠ []) : ∃ ready : Chunking,
    (state.makeRoom sizes (strip part)).chunks = ready.chunks ∧
      (state.makeRoom sizes (strip part)).buffer = ready.buffer ∧
      state.add sizes part = ready.put sizes (strip part) := by
  unfold Chunking.add Chunking.makeRoom
  simp only [if_neg filled]
  cases heading? ((strip part).takeWhile fun char => !char.endsLine)
  all_goals
    refine ⟨_, ?_, ?_, rfl⟩
    all_goals split_ifs <;> rfl

lemma Cut.makeRoom (cut : Cut sizes document state) : Cut sizes document (state.makeRoom sizes block) ∧
      ((state.makeRoom sizes block).Shown ↔ state.Shown) ∧
      (0 < sizes.overlapChars → ((state.makeRoom sizes block).buffer = [] ↔ state.buffer = [])) ∧
      (sizes.maxChars < block.length → Carried sizes document (state.makeRoom sizes block)) ∧
      (block.length ≤ sizes.maxChars → (state.makeRoom sizes block).buffer ≠ [] →
        (state.makeRoom sizes block).buffer.length + block.length ≤
          sizes.maxChars + sizes.overlapChars) := by
  unfold Chunking.makeRoom
  split
  · obtain ⟨carried, shown, held⟩ := cut.flush
    have small := carried.small
    exact ⟨carried.cut, shown, held, fun _ => carried, fun _ _ => by omega⟩
  · next fits =>
    refine ⟨cut, Iff.rfl, fun _ => Iff.rfl, fun oversized => ?_, fun _ filled => ?_⟩
    · refine cut.carried (by_contra fun filled => fits ⟨filled, by omega⟩)
    · have bound : ¬ sizes.maxChars < state.buffer.length + block.length + 2 :=
        fun long => fits ⟨filled, long⟩
      omega

lemma Cut.put_short (cut : Cut sizes document state) (short : block.length ≤ sizes.maxChars)
    (filled : squeeze block ≠ []) (room : state.buffer ≠ [] →
      state.buffer.length + block.length ≤ sizes.maxChars + sizes.overlapChars) :
    Cut sizes (document ++ squeeze block) (state.put sizes block) ∧
      (state.put sizes block).buffer ≠ [] ∧ ((state.put sizes block).Shown ↔ state.Shown) := by
  rw [Chunking.put, if_neg (Nat.not_lt.2 short)]
  obtain ⟨covered, carried, shared, fresh, covers, split, carries, shares, rfl⟩ := cut.covers
  have joined : squeeze
      (if state.buffer = [] then block else state.buffer ++ text "\n\n" ++ block) =
        carried ++ (shared ++ (fresh ++ squeeze block)) := by
    rw [← List.append_assoc shared, ← List.append_assoc carried, ← split]
    split_ifs with empty
    · rw [empty]
      rfl
    · rw [squeeze_append, squeeze_append, show squeeze (text "\n\n") = [] from rfl, List.append_nil]
  have shown : squeeze (if state.buffer = [] then block else state.buffer ++ text "\n\n" ++ block) ≠
      [] := by
    rw [joined]
    simp [filled]
  refine ⟨⟨⟨fun _ => shown, cut.short⟩, ⟨covered, carried, shared, _, covers, joined, carries,
    shares, (List.append_assoc _ _ _).symm⟩, ?_⟩, ?_, Iff.rfl⟩
  · change List.length (if _ then _ else _) ≤ _
    split_ifs with empty
    · omega
    · have bound := room empty
      simp only [List.length_append, show (text "\n\n").length = 2 from rfl]
      omega
  · exact fun none_ => shown (congrArg squeeze none_)

/-! ## The whole document -/

structure Runs (sizes : ChunkSizes) (blocks : List Text) (state : Chunking) : Prop where
  cut : Cut sizes (blocks.flatMap squeeze) state
  held : 0 < sizes.overlapChars → (state.buffer = [] ↔ ∀ block ∈ blocks, sizes.maxChars < block.length)
  legible : state.Shown ↔ Legible sizes blocks

lemma legible_concat : Legible sizes (blocks ++ [block]) ↔ Legible sizes blocks ∧
    (sizes.maxChars < block.length →
      (sizes.overlapChars = 0 ∨ ∀ earlier ∈ blocks, sizes.maxChars < earlier.length) →
        ∀ window ∈ windows sizes block.length block, squeeze window ≠ []) := by
  constructor
  · intro legible
    exact ⟨fun before other inside => legible before other (List.prefix_concat_iff.2 (.inr inside)),
      legible blocks block List.prefix_rfl⟩
  · rintro ⟨legible, windowed⟩ before other inside
    rcases List.prefix_concat_iff.1 inside with eq | inside
    · obtain ⟨rfl, last⟩ := List.append_inj' eq rfl
      cases last
      exact windowed
    · exact legible before other inside

lemma Runs.add (fits : sizes.overlapChars < sizes.maxChars) (runs : Runs sizes blocks state)
    (part : Text) : Runs sizes (blocks ++ shownBlocks [part]) (state.add sizes part) := by
  by_cases blank : strip part = []
  · rw [show shownBlocks [part] = [] by simp [shownBlocks, blank], List.append_nil, Chunking.add,
      if_pos blank]
    exact runs
  rw [show shownBlocks [part] = [strip part] by simp [shownBlocks, blank]]
  obtain ⟨ready, chunks, buffer, eq⟩ := @add_eq sizes part state blank
  obtain ⟨cut, shown, held, carried, room⟩ := @Cut.makeRoom _ _ (strip part) _ runs.cut
  rw [Chunking.Shown, chunks] at shown
  rw [buffer] at held room
  rw [eq]
  have whole : (blocks ++ [strip part]).flatMap squeeze =
      blocks.flatMap squeeze ++ squeeze (strip part) := by simp
  by_cases oversized : sizes.maxChars < (strip part).length
  · have kept : Carried sizes (blocks.flatMap squeeze) ready :=
      (carried oversized).congr chunks buffer
    obtain ⟨final, empty, legible⟩ := kept.pieces fits (strip part).length (List.nil_append _).symm
      Repeats.nil (Nat.zero_le _) le_rfl
    rw [Chunking.put, if_pos oversized]
    refine ⟨whole ▸ final.cut, fun positive => ?_, ?_⟩
    · rw [empty, List.forall_mem_append, List.forall_mem_singleton, and_iff_left oversized]
      exact (held positive).trans (runs.held positive)
    · have direct : ready.buffer = [] ↔ sizes.overlapChars = 0 ∨
          ∀ earlier ∈ blocks, sizes.maxChars < earlier.length := by
        rcases Nat.eq_zero_or_pos sizes.overlapChars with none_ | positive
        · have small : ready.buffer.length ≤ 0 := none_ ▸ kept.small
          exact iff_of_true (List.length_eq_zero_iff.1 (Nat.le_zero.1 small)) (.inl none_)
        · rw [held positive, runs.held positive]
          exact (or_iff_right (Nat.ne_of_gt positive)).symm
      rw [legible_concat, ← runs.legible, ← shown, ← direct]
      exact legible.trans (and_congr_right fun _ => ⟨fun windowed _ => windowed, fun windowed =>
        windowed oversized⟩)
  · have short := Nat.not_lt.1 oversized
    obtain ⟨final, filled, legible⟩ := (cut.congr chunks buffer).put_short short
      (fun empty => blank (strip_eq_nil_iff.2 (squeeze_strip part ▸ empty))) (room short)
    refine ⟨whole ▸ final, fun positive => ?_, ?_⟩
    · refine iff_of_false filled fun long => oversized (long _ ?_)
      exact List.mem_append_right _ List.mem_cons_self
    · rw [legible_concat, ← runs.legible, ← shown]
      exact legible.trans (and_iff_left fun long => absurd long oversized).symm

lemma Runs.fold (fits : sizes.overlapChars < sizes.maxChars) (runs : Runs sizes blocks state)
    (parts : List Text) :
    Runs sizes (blocks ++ shownBlocks parts) (parts.foldl (Chunking.add sizes) state) := by
  induction parts generalizing blocks state with
  | nil => exact (List.append_nil blocks).symm ▸ runs
  | cons part parts ih =>
    have later := ih (runs.add fits part)
    rwa [List.append_assoc,
      show shownBlocks [part] ++ shownBlocks parts = shownBlocks (part :: parts) by
        simp [shownBlocks, ← List.filter_append]] at later

lemma runs_start : Runs sizes [] .start where
  cut := ⟨⟨fun filled => absurd rfl filled, nofun⟩,
    ⟨[], [], [], [], .nil, rfl, Repeats.nil, Repeats.nil, rfl⟩, Nat.zero_le _⟩
  held _ := iff_of_true rfl nofun
  legible := by
    refine iff_of_true nofun fun before block inside => ?_
    have none_ := List.prefix_nil.1 inside
    simp at none_

lemma squeeze_shownBlocks (parts : List Text) :
    (shownBlocks parts).flatMap squeeze = parts.flatMap squeeze := by
  induction parts with
  | nil => rfl
  | cons part parts ih =>
    by_cases blank : strip part = []
    · have nothing : squeeze part = [] := strip_eq_nil_iff.1 blank
      rw [List.flatMap_cons, nothing, List.nil_append, ← ih]
      simp [shownBlocks, blank]
    · rw [List.flatMap_cons, ← ih]
      simp [shownBlocks, blank]

lemma squeeze_blank (blank : char.isSpace = true) :
    squeeze (char :: rest) = squeeze rest := List.filter_cons_of_neg (by simp [blank])

lemma blankLines_spec {size : Nat} (found : blankLines? (char :: rest) = some size) :
    char.isSpace = true ∧ squeeze (rest.take (size - 1)) = [] := by
  simp only [blankLines?] at found
  split_ifs at found with opens
  cases found
  refine ⟨opens.1 ▸ rfl, squeeze_eq_nil_iff.2 fun other mem => ?_⟩
  rw [Nat.add_sub_cancel_left] at mem
  have inside : rest.take ((rest.takeWhile CodePoint.isSpace).rdropWhile (· != newline)).length =
      (rest.takeWhile CodePoint.isSpace).rdropWhile (· != newline) :=
    (List.prefix_iff_eq_take.1 ((List.rdropWhile_prefix _ _).trans (List.takeWhile_prefix _))).symm
  rw [inside] at mem
  exact List.mem_takeWhile_imp ((List.rdropWhile_prefix _ _).subset mem)

lemma squeeze_splitBlocks (document current : Text) (skip : Nat) (lineStart : Bool)
    (blank : squeeze (document.take skip) = []) :
    (splitBlocks skip lineStart current document).flatMap squeeze =
      squeeze current ++ squeeze document := by
  induction document generalizing skip lineStart current with
  | nil => simp [splitBlocks]
  | cons char rest ih =>
    cases skip with
    | succ skip =>
      have space := squeeze_eq_nil_iff.1 blank
      rw [splitBlocks, ih current skip _ (squeeze_eq_nil_iff.2 fun other mem =>
        space other (List.mem_cons_of_mem _ mem)), squeeze_blank (space char List.mem_cons_self)]
    | zero =>
      have split : squeeze (char :: rest) = squeeze [char] ++ squeeze rest :=
        squeeze_append [char] rest
      rw [splitBlocks]
      cases found : blankLines? (char :: rest) with
      | some size =>
        obtain ⟨space, skipped⟩ := blankLines_spec found
        rw [List.flatMap_cons, ih [] _ _ skipped, squeeze_blank space]
        rfl
      | none =>
        simp only
        split
        · rw [List.flatMap_cons, ih [char] 0 _ rfl, split]
        · rw [ih _ 0 _ rfl, squeeze_append, List.append_assoc, split]

end

/-- A document is cut into chunks in finitely many steps, and they are as they should be
exactly where no blank window becomes a chunk. -/
theorem chunkPlain_chunked_iff (sizes : ChunkSizes) (fits : sizes.overlapChars < sizes.maxChars)
    (document : Text) (filled : cleanedText document ≠ []) :
    (∀ block state more, Chunking.pieces sizes (block.length + more) block state =
        Chunking.pieces sizes block.length block state) ∧
      ∃ chunks, chunkPlain sizes document = .ok chunks ∧ (Chunked sizes (cleanedText document) chunks ↔
          Legible sizes (shownBlocks (splitBlocks 0 true [] (cleanedText document)))) := by
  refine ⟨fun block state more => pieces_enough fits le_rfl more, _, if_neg filled, ?_⟩
  have runs := runs_start.fold fits (splitBlocks 0 true [] (cleanedText document))
  obtain ⟨carried, shown, -⟩ := runs.cut.flush
  have finished : ∀ state : Chunking, state.finish = (state.flush sizes).chunks := fun state => rfl
  rw [List.nil_append, squeeze_shownBlocks, squeeze_splitBlocks _ _ _ _ rfl] at carried
  rw [finished]
  refine ⟨fun chunked => runs.legible.1 (shown.1 chunked.shown), fun legible => ?_⟩
  exact ⟨shown.2 (runs.legible.2 legible), carried.short, carried.covers⟩

theorem chunkPlain_chunked_sample : (1 < 3 ∧ cleanedText (text "a b") ≠ []) ∧
    ∃ chunks, chunkPlain ⟨3, 1⟩ (text "a b") = .ok chunks ∧
      (Chunked ⟨3, 1⟩ (cleanedText (text "a b")) chunks ↔
        Legible ⟨3, 1⟩ (shownBlocks (splitBlocks 0 true [] (cleanedText (text "a b"))))) :=
  ⟨⟨by decide, by decide +kernel⟩,
    (chunkPlain_chunked_iff ⟨3, 1⟩ (by decide) (text "a b") (by decide +kernel)).2⟩

/-- The second window of three characters is blank. -/
theorem chunkPlain_blank : ¬ ∀ sizes document, sizes.overlapChars < sizes.maxChars →
    cleanedText document ≠ [] →
    ∃ chunks, chunkPlain sizes document = .ok chunks ∧ Chunked sizes (cleanedText document) chunks := by
  intro claim
  obtain ⟨chunks, run, chunked⟩ := claim ⟨3, 1⟩ (text "a      b") (by decide) (by decide +kernel)
  have blank : ([], text "   ") ∈ chunks := by
    have cut : ([], text "   ") ∈ ((chunkPlain ⟨3, 1⟩ (text "a      b")).toOption.getD []) := by
      decide +kernel
    rwa [run] at cut
  exact chunked.shown _ blank (by decide)

end Obsion.Jsonml
