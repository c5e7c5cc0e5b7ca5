import Obsion.Knowledge.Jsonml.Pieces

/-! # Generated blocks close where they end

A generated block holds escaped text and its own tags only, so a line end followed by a
closing tag is found in it at its end alone.  A block of a rendering without gaps also
fits into one chunk. -/

namespace Obsion.Jsonml

open Obsion.Lib
open Rendering (plain append block toText join)

def closingStart : Text := text "\n</"

def Tight (part : Text) : Prop := ¬ closingStart <:+: part

lemma closingStart_eq : closingStart = [newline, point '<', point '/'] := rfl

variable {part : Text} {pieces : Pieces}

lemma tight_of_not_mem (absent : newline ∉ part) : Tight part := by
  intro inside
  exact absent (inside.subset (by rw [closingStart_eq]; exact List.mem_cons_self))

lemma tight_of_no_tag (absent : point '<' ∉ part) : Tight part := by
  intro inside
  exact absent (inside.subset (by rw [closingStart_eq]; exact List.mem_cons_of_mem _ List.mem_cons_self))

/-- A text that ends neither a line nor with the start of a tag. -/
def EndsPlain (part : Text) : Prop :=
  ∀ last, part.getLast? = some last → last ≠ newline ∧ last ≠ point '<'

variable {char last : CodePoint} {left right : Text} {lines : List Text} {attributes : Attributes}
  {output : Pieces}

lemma EndsPlain.tail {rest : Text} (ends : EndsPlain (char :: rest)) : EndsPlain rest := by
  intro last eq
  refine ends last ?_
  rw [List.getLast?_cons, eq]
  rfl

lemma endsPlain_nil : EndsPlain [] := by
  intro last eq
  cases eq

lemma endsPlain_append (shown : right ≠ []) (ends : EndsPlain right) : EndsPlain (left ++ right) := by
  intro last eq
  rw [List.getLast?_append_of_ne_nil left shown] at eq
  exact ends last eq

lemma tight_append (first : Tight left) (second : Tight right) (ends : EndsPlain left) :
    Tight (left ++ right) := by
  induction left with
  | nil => exact second
  | cons char rest ih =>
    intro inside
    rw [List.cons_append] at inside
    rcases List.infix_cons_iff.1 inside with start | deeper
    · rw [closingStart_eq] at start
      obtain ⟨rfl, tag⟩ := List.cons_prefix_cons.1 start
      clear start
      match rest with
      | [] => exact absurd rfl (ends newline rfl).1
      | [next] =>
        obtain ⟨rfl, _⟩ := List.cons_prefix_cons.1 tag
        exact absurd rfl (ends (point '<') rfl).2
      | next :: third :: more =>
        obtain ⟨rfl, slash⟩ := List.cons_prefix_cons.1 tag
        obtain ⟨rfl, _⟩ := List.cons_prefix_cons.1 slash
        exact first ⟨[], more, rfl⟩
    · exact ih (fun within => first (within.trans (List.infix_cons List.infix_rfl))) ends.tail deeper

structure Lined (part : Text) : Prop where
  tight : Tight part
  ends : EndsPlain part
  starts : ¬ text "</" <+: part

lemma lined_nil : Lined [] where
  tight := tight_of_not_mem List.not_mem_nil
  ends := endsPlain_nil
  starts := by decide

lemma tight_lines (each : ∀ line ∈ lines, Lined line) :
    Tight ((text "\n").intercalate lines) ∧ ¬ text "</" <+: (text "\n").intercalate lines := by
  induction lines with
  | nil => exact ⟨lined_nil.tight, lined_nil.starts⟩
  | cons line rest ih =>
    have first := each line List.mem_cons_self
    cases rest with
    | nil =>
      rw [List.intercalate_singleton]
      exact ⟨first.tight, first.starts⟩
    | cons next rest =>
      obtain ⟨below, start⟩ := ih fun other known => each other (List.mem_cons_of_mem _ known)
      rw [List.intercalate_cons_cons, List.append_assoc]
      have broken : Tight (text "\n" ++ (text "\n").intercalate (next :: rest)) := by
        intro inside
        rcases List.infix_cons_iff.1 inside with opened | deeper
        · exact start (List.cons_prefix_cons.1 opened).2
        exact below deeper
      refine ⟨tight_append first.tight broken first.ends, fun opened => ?_⟩
      rw [show text "</" = [point '<', point '/'] from rfl] at opened
      match line, first with
      | [], _ =>
        have wrong := (List.cons_prefix_cons.1 opened).1
        exact absurd wrong (by decide)
      | [char], first =>
        obtain ⟨rfl, _⟩ := List.cons_prefix_cons.1 opened
        exact absurd rfl (first.ends (point '<') rfl).2
      | char :: second :: more, first =>
        obtain ⟨rfl, slash⟩ := List.cons_prefix_cons.1 opened
        obtain ⟨rfl, _⟩ := List.cons_prefix_cons.1 slash
        exact first.starts ⟨more, rfl⟩

lemma lined_lines (each : ∀ line ∈ lines, Lined line ∧ line ≠ []) :
    Lined ((text "\n").intercalate lines) where
  tight := (tight_lines fun line mem => (each line mem).1).1
  starts := (tight_lines fun line mem => (each line mem).1).2
  ends := by
    induction lines with
    | nil => exact endsPlain_nil
    | cons line rest ih =>
      cases rest with
      | nil =>
        rw [List.intercalate_singleton]
        exact (each line List.mem_cons_self).1.ends
      | cons next rest =>
        have later := ih fun other known => each other (List.mem_cons_of_mem _ known)
        rw [List.intercalate_cons_cons]
        refine endsPlain_append (fun empty => ?_) later
        have shown := (each next (List.mem_cons_of_mem _ List.mem_cons_self)).2
        have flat := flatten_sublist_intercalate (text "\n") (next :: rest)
        rw [empty, List.sublist_nil, List.flatten_cons, List.append_eq_nil_iff] at flat
        exact shown flat.1

lemma newline_not_mem_decimal {number : Int} (positive : 0 ≤ number) : newline ∉ decimal number := by
  intro mem
  obtain ⟨digit, known, eq⟩ := List.mem_map.1 mem
  rw [Int.toString_eq_repr, Int.repr_eq_if, if_pos positive, Nat.toList_repr] at known
  have numeral := Nat.isDigit_of_mem_toDigits (by decide) (by decide) known
  rw [Char.isDigit_iff_toNat] at numeral
  have code : digit.toNat % 0x110000 = 10 := congrArg Fin.val eq
  have low : '0'.toNat = 48 := rfl
  have high : '9'.toNat = 57 := rfl
  omega

lemma tag_not_mem_escape (part : Text) : point '<' ∉ escape part := by
  intro mem
  obtain ⟨origin, _, inside⟩ := List.mem_flatMap.1 mem
  unfold escapeChar at inside
  split at inside
  · exact absurd inside (by decide)
  split at inside
  · exact absurd inside (by decide)
  split at inside
  · exact absurd inside (by decide)
  next notTag _ =>
  obtain rfl := List.mem_singleton.1 inside
  exact notTag rfl

lemma strip_ends (eq : (strip part).getLast? = some last) : last.isSpace = false := by
  have shown : strip part ≠ [] := by
    intro empty
    rw [empty] at eq
    cases eq
  have final := List.rdropWhile_last_not CodePoint.isSpace (part.dropWhile CodePoint.isSpace) shown
  rw [List.getLast?_eq_some_getLast shown] at eq
  cases eq
  exact Bool.eq_false_iff.2 final

lemma escapeChar_ends (eq : (escapeChar char).getLast? = some last) :
    last = char ∨ last = point ';' := by
  unfold escapeChar at eq
  split at eq
  · exact .inr (Option.some.inj eq).symm
  split at eq
  · exact .inr (Option.some.inj eq).symm
  split at eq
  · exact .inr (Option.some.inj eq).symm
  exact .inl (Option.some.inj eq).symm

lemma escapeChar_ne_nil (char : CodePoint) : escapeChar char ≠ [] := by
  unfold escapeChar
  split
  · decide
  split
  · decide
  split
  · decide
  exact List.cons_ne_nil _ _

lemma escape_strip_ends (part : Text) : EndsPlain (escape (strip part)) := by
  rcases List.eq_nil_or_concat (strip part) with empty | ⟨front, final, shape⟩
  · rw [empty]
    exact endsPlain_nil
  rw [List.concat_eq_append] at shape
  have visible : final.isSpace = false := strip_ends (by rw [shape, List.getLast?_concat])
  rw [shape, escape_append]
  have one : escape [final] = escapeChar final := List.append_nil _
  rw [one]
  refine endsPlain_append (escapeChar_ne_nil final) fun last eq => ⟨?_, ?_⟩
  · rintro rfl
    rcases escapeChar_ends eq with rfl | wrong
    · cases visible
    exact absurd wrong (by decide)
  · rintro rfl
    refine tag_not_mem_escape [final] ?_
    rw [one]
    exact List.mem_of_getLast? eq

lemma endsPlain_tag (part : Text) : EndsPlain (part ++ text ">") := by
  refine endsPlain_append (by decide) fun last eq => ?_
  cases eq
  decide

lemma lined_element {name first second : Text} (part : Text) (named : name ≠ [])
    (flatName : newline ∉ name) (plainName : point '/' ∉ name) (flatFirst : newline ∉ first)
    (flatSecond : newline ∉ second) : Lined (text "<" ++ name ++ first ++ second ++ text ">" ++
        (escape (strip part) ++ (text "</" ++ name ++ text ">"))) ∧
      text "<" ++ name ++ first ++ second ++ text ">" ++
        (escape (strip part) ++ (text "</" ++ name ++ text ">")) ≠ [] := by
  have flatOpening : newline ∉ text "<" ++ name ++ first ++ second ++ text ">" := by
    simp only [List.mem_append, not_or]
    exact ⟨⟨⟨⟨by decide, flatName⟩, flatFirst⟩, flatSecond⟩, by decide⟩
  have flatClosing : newline ∉ text "</" ++ name ++ text ">" := by
    simp only [List.mem_append, not_or]
    exact ⟨⟨by decide, flatName⟩, by decide⟩
  have shown : text "</" ++ name ++ text ">" ≠ [] :=
    List.append_ne_nil_of_right_ne_nil _ (by decide)
  obtain ⟨letter, rest, rfl⟩ := List.exists_cons_of_ne_nil named
  refine ⟨⟨?_, ?_, ?_⟩, List.cons_ne_nil _ _⟩
  · exact tight_append (tight_of_not_mem flatOpening)
      (tight_append (tight_of_no_tag (tag_not_mem_escape _)) (tight_of_not_mem flatClosing)
        (escape_strip_ends part)) (endsPlain_tag _)
  · exact endsPlain_append (List.append_ne_nil_of_right_ne_nil _ shown)
      (endsPlain_append shown (endsPlain_tag _))
  · intro start
    rw [show text "</" = [point '<', point '/'] from rfl] at start
    obtain ⟨_, slash⟩ := List.cons_prefix_cons.1 start
    obtain ⟨rfl, _⟩ := List.cons_prefix_cons.1 slash
    exact plainName List.mem_cons_self

lemma cellText_lined (markup : Markup) (row cell : Value) (output : Pieces) :
    Lined (toText (cellText (some markup) row cell (Rendering.strip output))) ∧
      toText (cellText (some markup) row cell (Rendering.strip output)) ≠ [] := by
  cases markup with
  | columns =>
    simp only [cellText, Rendering.toText_append, Rendering.toText_plain, Rendering.toText_escape,
      Rendering.toText_strip]
    have named : text "div" ≠ [] := by decide
    have flat : newline ∉ text " class=\"column\"" := by decide
    exact lined_element (toText output) named (by decide) (by decide) flat List.not_mem_nil
  | table =>
    simp only [cellText, Rendering.toText_append, Rendering.toText_plain, Rendering.toText_escape,
      Rendering.toText_strip]
    have tags : ∀ header : Bool, (if header then text "th" else text "td") ≠ [] ∧
        (newline ∉ if header then text "th" else text "td") ∧
        point '/' ∉ if header then text "th" else text "td" := by
      decide
    obtain ⟨named, flat, plainName⟩ :=
      tags (attributeOr row.attributes "isTblHeader" .null).isTrue
    refine lined_element (toText output) named flat plainName ?_ ?_
    all_goals
      split
      · split
        · rw [List.mem_append, List.mem_append, not_or, not_or]
          exact ⟨⟨by decide, newline_not_mem_decimal (by omega)⟩, by decide⟩
        · exact List.not_mem_nil
      · exact List.not_mem_nil

lemma intercalate_nil_eq_flatten (parts : List Text) : ([] : Text).intercalate parts = parts.flatten := by
  induction parts with
  | nil => rfl
  | cons part rest ih =>
    cases rest with
    | nil => simp
    | cons next rest =>
      rw [List.intercalate_cons_cons, ih, List.append_nil]
      rfl

lemma rowText_lined (markup : Markup) {cells : List Pieces}
    (each : ∀ cell ∈ cells, Lined (toText cell) ∧ toText cell ≠ []) :
    Lined (toText (rowText (some markup) cells)) := by
  have lines : ∀ line ∈ cells.map (toText : Pieces → Text), Lined line ∧ line ≠ [] := by
    intro line mem
    obtain ⟨cell, known, rfl⟩ := List.mem_map.1 mem
    exact each cell known
  cases markup with
  | columns =>
    rw [rowText, Rendering.toText_join]
    exact lined_lines lines
  | table =>
    simp only [rowText, Rendering.toText_append, Rendering.toText_plain, Rendering.toText_join,
      intercalate_nil_eq_flatten]
    have inside : ∀ parts : List Text, (∀ part ∈ parts, Lined part ∧ part ≠ []) →
        Tight (parts.flatten ++ text "</tr>") := by
      intro parts sealed_
      induction parts with
      | nil => exact tight_of_not_mem (by decide)
      | cons part rest ih =>
        rw [List.flatten_cons, List.append_assoc]
        exact tight_append (sealed_ part List.mem_cons_self).1.tight
          (ih fun other known => sealed_ other (List.mem_cons_of_mem _ known))
          (sealed_ part List.mem_cons_self).1.ends
    refine ⟨tight_append (tight_of_not_mem (by decide)) (inside _ lines) (endsPlain_tag (text "<tr")),
      endsPlain_append (List.append_ne_nil_of_right_ne_nil _ (by decide)) ?_, ?_⟩
    · exact endsPlain_append (by decide) (endsPlain_tag (text "</tr"))
    intro start
    have wrong := (List.cons_prefix_cons.1 (List.cons_prefix_cons.1 start).2).1
    exact absurd wrong (by decide)

/-! ## Sound blocks -/

def Piece.Sound : Piece → Prop
  | .plain _ => True
  | .block markup inner =>
    Tight inner ∧ (layoutMarkers.wrap markup inner).length ≤ maxLayoutChars

def Sound (pieces : Pieces) : Prop := ∀ piece ∈ pieces, piece.Sound

lemma sound_plain (part : Text) : Sound (plain part) := by
  intro piece mem
  obtain rfl := List.mem_singleton.1 mem
  trivial

lemma sound_append {left right : Pieces} (first : Sound left) (second : Sound right) :
    Sound (append left right) := by
  intro piece mem
  rcases List.mem_append.1 mem with known | known
  · exact first piece known
  exact second piece known

lemma sound_trimLeft (sound : Sound pieces) : Sound pieces.trimLeft := by
  induction pieces with
  | nil => exact sound
  | cons piece rest ih =>
    have later : Sound rest := fun other known => sound other (List.mem_cons_of_mem _ known)
    cases piece with
    | plain part =>
      rw [Pieces.trimLeft]
      split
      · exact ih later
      exact sound_append (sound_plain _) later
    | block markup inner => exact sound

lemma sound_trimRight (sound : Sound pieces) : Sound pieces.trimRight := by
  induction pieces with
  | nil => exact sound
  | cons piece rest ih =>
    have later : Sound rest := fun other known => sound other (List.mem_cons_of_mem _ known)
    cases piece with
    | plain part =>
      rw [Pieces.trimRight]
      split
      · exact sound_plain _
      exact sound_append (sound_plain _) (ih later)
    | block markup inner =>
      intro other known
      rcases List.mem_cons.1 known with rfl | known
      · exact sound _ List.mem_cons_self
      exact ih later other known

lemma sound_strip (sound : Sound pieces) : Sound (Rendering.strip pieces) :=
  sound_trimRight (sound_trimLeft sound)

lemma sound_join (separator : Text) {outputs : List Pieces} (each : ∀ output ∈ outputs, Sound output) :
    Sound (join separator outputs) := by
  induction outputs with
  | nil => exact sound_plain []
  | cons output rest ih =>
    have first := each output List.mem_cons_self
    cases rest with
    | nil => exact first
    | cons next rest =>
      exact sound_append first (sound_append (sound_plain separator)
        (ih fun other known => each other (List.mem_cons_of_mem _ known)))

lemma paragraph_sound {inner : Pieces} {parser final : Parser}
    (run : paragraph attributes inner parser = .ok (output, final)) (sound : Sound inner) :
    Sound output := by
  have quoted : Sound (if (attributeOr attributes "blockquote" .null).isTrue then
      Rendering.quoteLines inner else inner) := by
    split
    · exact sound_plain _
    exact sound
  have closed : ∀ label : Text, Sound (append (plain label)
      (append (if (attributeOr attributes "blockquote" .null).isTrue then
        Rendering.quoteLines inner else inner) (plain (text "\n\n")))) :=
    fun label => sound_append (sound_plain label) (sound_append quoted (sound_plain _))
  simp only [paragraph] at run
  split at run
  · cases run
    exact closed _
  split at run
  · cases run
    exact closed _
  split at run
  · split at run
    · split at run
      · cases run
        exact closed _
      split at run
      all_goals
        cases run
        exact closed _
    · split at run
      all_goals
        cases run
        exact closed _
  · cases run

lemma close_sound {tag : Tag} {children : List Value} {rendered : List Pieces}
    {parser final : Parser}
    (run : close tag attributes children rendered parser = .ok (output, final))
    (each : ∀ child ∈ rendered, Sound child) : Sound output := by
  have whole : Sound (join [] rendered) := sound_join [] each
  have stripped : ∀ child ∈ rendered.map Rendering.strip, Sound child := by
    intro child mem
    obtain ⟨origin, known, rfl⟩ := List.mem_map.1 mem
    exact sound_strip (each origin known)
  simp only [close] at run
  split at run
  · split at run
    · split at run
      all_goals
        cases run
        exact sound_plain _
    · cases run
      exact sound_plain _
  · cases run
    exact sound_plain _
  · cases run
    exact sound_plain _
  · split at run
    · cases run
      exact sound_append (sound_join _ stripped) (sound_plain _)
    cases run
  all_goals first
    | exact paragraph_sound run whole
    | (cases run; exact whole)
    | (cases run; exact sound_append whole (sound_plain _))

section

variable {renderCell : Value → Parser → Except Fault (Pieces × Parser)} {markup : Option Markup}
  {room : Nat} (cells : ∀ cell parser output final, renderCell cell parser = .ok (output, final) →
    final.Clean → parser.Clean ∧ Sound output)

/-- What a cell or a row of a table may hold: blocks in a plain table, a line in a
generated one. -/
def Fits (markup : Option Markup) (output : Pieces) : Prop :=
  match markup with
  | none => Sound output
  | some _ => Lined (toText output)

include cells

variable {parser final : Parser}

variable {row : Value} {output : Pieces}

lemma tableCell_fits {cell : Value} {made : Option Pieces}
    (run : tableCell renderCell markup row cell parser = .ok (made, final)) (clean : final.Clean) :
    parser.Clean ∧ ∀ output, made = some output → Fits markup output ∧
      (markup.isSome → toText output ≠ []) := by
  obtain ⟨output, entered, drawn, passed⟩ := tableCell_ok run
  obtain ⟨before, shape⟩ := passed clean
  obtain ⟨started, sound⟩ := cells _ _ _ _ drawn before
  refine ⟨started, fun shown eq => ?_⟩
  rcases shape with ⟨rfl, _⟩ | rfl
  · cases eq
  cases eq
  match markup with
  | none => exact ⟨sound_strip sound, fun wrong => nomatch wrong⟩
  | some markup =>
    obtain ⟨lined, visible⟩ := cellText_lined markup row cell output
    exact ⟨lined, fun _ => visible⟩

lemma tableRow_fits (run : tableRow renderCell markup room row parser = .ok (output, final))
    (clean : final.Clean) :
    parser.Clean ∧ Fits markup output := by
  obtain ⟨entered, made, kept, drawn, rfl⟩ := tableRow_ok run
  have reflected := fun cell (_ : cell ∈ row.children) state made next =>
    fun (stepped : tableCell renderCell markup row cell state = .ok (made, next)) (last : next.Clean) =>
      tableCell_fits cells stepped last
  have started : entered.Clean := traverse_reflects
    (fun cell mem state made next stepped last =>
      (reflected cell mem state made next stepped last).1) drawn clean
  refine ⟨kept started, ?_⟩
  have each : ∀ output ∈ made.reduceOption, Fits markup output ∧ (markup.isSome → toText output ≠ []) := by
    intro output mem
    exact traverse_forall reflected drawn clean (some output) (List.reduceOption_mem_iff.1 mem)
      output rfl
  match markup with
  | none => exact sound_join _ fun output mem => (each output mem).1
  | some markup => exact rowText_lined markup fun output mem =>
    ⟨(each output mem).1, (each output mem).2 rfl⟩

lemma renderTable_sound {rows : List Value}
    (run : renderTable renderCell markup room rows parser = .ok (output, final))
    (clean : final.Clean) : Sound output := by
  obtain ⟨drawn, closed, inner, closing⟩ := renderTable_ok run
  obtain ⟨rfl, passed⟩ := closeTable_ok closing
  obtain ⟨before, small⟩ := passed clean
  have each : ∀ output ∈ drawn, Fits markup output :=
    traverse_forall (fun row _ state made next stepped last => tableRow_fits cells stepped last)
      inner before
  refine sound_append ?_ (sound_plain _)
  match markup with
  | none => exact sound_join _ each
  | some markup =>
    have lines : ∀ line ∈ drawn.map (toText : Pieces → Text), Lined line := by
      intro line mem
      obtain ⟨row, known, rfl⟩ := List.mem_map.1 mem
      exact each row known
    intro piece mem
    obtain rfl := List.mem_singleton.1 mem
    refine ⟨?_, ?_⟩
    · change Tight (toText (join (text "\n") drawn))
      rw [Rendering.toText_join]
      exact (tight_lines lines).1
    · have bound := small rfl
      change (toText (block markup (join (text "\n") drawn))).length ≤ _ at bound
      rw [Rendering.toText_block] at bound
      exact bound

end

lemma render_sound (room : Nat) : ∀ (value : Value) (validatedCell : Bool) (parser final : Parser)
    (output : Pieces), render room value validatedCell parser = .ok (output, final) → final.Clean →
      Sound output := by
  induction room using Nat.strong_induction_on with
  | h room ih =>
    intro value validatedCell parser final output run clean
    cases rendered run with
    | leaf _ => exact sound_plain _
    | unknown recorded => exact absurd clean recorded
    | @table room name attributes children markup _ entered _ _ _ _ _ inner =>
      refine renderTable_sound (fun cell parser output final drawn clean => ?_) inner clean
      cases room with
      | zero => cases drawn
      | succ deeper =>
        exact ⟨render_clean deeper cell true parser final output drawn clean,
          ih deeper (by omega) cell true parser final output drawn clean⟩
    | @element room name tag attributes children _ entered closed _ drawn _ _ _ _ inner closing =>
      refine close_sound closing (traverse_forall (fun child _ state made next stepped last => ?_)
        inner (close_clean closing clean))
      exact ⟨render_clean room child false state next made stepped last,
        ih room (by omega) child false state next made stepped last⟩

end Obsion.Jsonml
