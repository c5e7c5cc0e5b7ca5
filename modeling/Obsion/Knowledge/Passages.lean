import Obsion.Base.Python

/-! # Passages of the sources

`source_passages`: a body is cut into slices at line ends where it can be, and each slice
that is not blank gets an identifier. -/

namespace Obsion.Knowledge.Passages

def passageCharacters : Nat := 1500

/-- `body.rfind("\n", low, high)` -/
def rfindNewline (body : List Char) (low high : Nat) : Option Nat :=
  (List.range' low (high - low)).reverse.find? fun index => body[index]? = some '\n'

def sliceEnd (body : List Char) (start : Nat) : Nat :=
  let stop := min body.length (start + passageCharacters)
  if stop < body.length then
    match rfindNewline body (start + passageCharacters / 2) stop with
    | some boundary => boundary + 1
    | none => stop
  else stop

lemma rfindNewline_bounds {body : List Char} {low high found : Nat}
    (at_ : rfindNewline body low high = some found) : low ≤ found ∧ found < high := by
  have mem := List.mem_reverse.1 (List.mem_of_find?_eq_some at_)
  rw [List.mem_range'_1] at mem
  omega

lemma sliceEnd_bounds {body : List Char} {start : Nat} (inside : start < body.length) :
    start < sliceEnd body start ∧ sliceEnd body start ≤ start + passageCharacters ∧
      sliceEnd body start ≤ body.length := by
  unfold sliceEnd passageCharacters
  dsimp only
  split
  · split
    · next boundary found =>
      have bounds := rfindNewline_bounds found
      omega
    · omega
  · omega

/-- The slices of the body from a place, with where they start. -/
def slicesFrom (body : List Char) (start : Nat) : List (Nat × List Char) :=
  if start < body.length then
    (start, (body.drop start).take (sliceEnd body start - start)) :: slicesFrom body (sliceEnd body start)
  else []
termination_by body.length - start
decreasing_by
  rename_i inside
  have bounds := sliceEnd_bounds inside
  omega

lemma flatten_slicesFrom (body : List Char) (start : Nat) :
    ((slicesFrom body start).map Prod.snd).flatten = body.drop start := by
  fun_induction slicesFrom body start with
  | case1 start inside ih =>
    have bounds := sliceEnd_bounds inside
    rw [List.map_cons, List.flatten_cons, ih]
    rw [show sliceEnd body start = start + (sliceEnd body start - start) by omega, ← List.drop_drop,
      Nat.add_sub_cancel_left]
    exact List.take_append_drop _ _
  | case2 start outside => exact (List.drop_eq_nil_of_le (not_lt.1 outside)).symm

lemma slicesFrom_bounds (body : List Char) (start : Nat) : ∀ slice ∈ slicesFrom body start,
    1 ≤ slice.2.length ∧ slice.2.length ≤ passageCharacters ∧
      slice.2 = (body.drop slice.1).take slice.2.length := by
  fun_induction slicesFrom body start with
  | case1 start inside ih =>
    have bounds := sliceEnd_bounds inside
    intro slice mem
    rcases List.mem_cons.1 mem with rfl | later
    · have size : ((body.drop start).take (sliceEnd body start - start)).length = sliceEnd body start - start := by
        rw [List.length_take, List.length_drop]
        omega
      dsimp only
      rw [size]
      exact ⟨by omega, by omega, rfl⟩
    · exact ih slice later
  | case2 start outside => exact nofun

structure Passage where
  evidenceId : String
  passageId : String
  text : String
  deriving DecidableEq

structure Host where
  redactText : String → String
  digest : String → String

def passageId (host : Host) (evidenceId : String) (bodyIndex start : Nat) (text : String) : String :=
  "p-" ++ host.digest (evidenceId ++ ":" ++ toString bodyIndex ++ ":" ++ toString start ++ ":" ++ text)

def bodyPassages (host : Host) (evidenceId : String) (bodyIndex : Nat) (body : String) : List Passage :=
  if host.redactText body ≠ body then []
  else
    ((slicesFrom body.toList 0).filter fun slice => stripChars slice.2 ≠ []).map fun slice =>
      ⟨evidenceId, passageId host evidenceId bodyIndex slice.1 (String.ofList slice.2), String.ofList slice.2⟩

def evidencePassages (host : Host) (evidenceId : String) (bodies : List String) : List Passage :=
  bodies.zipIdx.flatMap fun entry => bodyPassages host evidenceId entry.2 entry.1

/-- The passages that are issued for the bodies of the evidence ids. -/
def issuedPassages (host : Host) (evidenceIds : List String) (bodies : String → List String) : List Passage :=
  evidenceIds.flatMap fun evidenceId => evidencePassages host evidenceId (bodies evidenceId)

/-- `lookup.get((evidence_id, passage_id))`, where a later passage takes the place of an
earlier one. -/
def lookupPassage (passages : List Passage) (evidenceId passageId : String) : Option String :=
  (passages.reverse.find? fun passage => passage.evidenceId = evidenceId ∧ passage.passageId = passageId).map
    Passage.text

/-- The passages of a body that is not redacted are its slices that are not blank, and the
slices together are the body. -/
lemma bodyPassages_partition (host : Host) (evidenceId : String) (bodyIndex : Nat) {body : String}
    (plain : host.redactText body = body) :
    ∃ slices : List (Nat × List Char), (slices.map Prod.snd).flatten = body.toList ∧
      (∀ slice ∈ slices, 1 ≤ slice.2.length ∧ slice.2.length ≤ passageCharacters ∧
        slice.2 = (body.toList.drop slice.1).take slice.2.length) ∧
      (bodyPassages host evidenceId bodyIndex body).map Passage.text =
        (slices.filter fun slice => stripChars slice.2 ≠ []).map fun slice => String.ofList slice.2 := by
  refine ⟨slicesFrom body.toList 0, flatten_slicesFrom body.toList 0, slicesFrom_bounds body.toList 0, ?_⟩
  rw [bodyPassages, if_neg (not_not_intro plain), List.map_map]
  rfl

lemma issued_part {host : Host} {evidenceIds : List String} {bodies : String → List String} {passage : Passage}
    (issued : passage ∈ issuedPassages host evidenceIds bodies) :
    ∃ body ∈ bodies passage.evidenceId, passage.text.toList <:+: body.toList ∧
      stripChars passage.text.toList ≠ [] ∧ passage.text.length ≤ passageCharacters := by
  obtain ⟨evidenceId, -, inside⟩ := List.mem_flatMap.1 issued
  obtain ⟨⟨body, bodyIndex⟩, stored, here⟩ := List.mem_flatMap.1 inside
  rw [bodyPassages] at here
  split at here
  · cases here
  obtain ⟨slice, kept, rfl⟩ := List.mem_map.1 here
  obtain ⟨mem, visible⟩ := List.mem_filter.1 kept
  obtain ⟨-, short, place⟩ := slicesFrom_bounds body.toList 0 slice mem
  refine ⟨body, List.mem_of_getElem? (List.mem_zipIdx_iff_getElem?.1 stored), ?_, ?_, ?_⟩
  · rw [String.toList_ofList, place]
    exact (List.take_prefix _ _).isInfix.trans (List.drop_suffix _ _).isInfix
  · rw [String.toList_ofList]
    exact of_decide_eq_true visible
  · rw [String.length_ofList]
    exact short

lemma lookupPassage_issued {passages : List Passage} {evidenceId passageId text : String}
    (found : lookupPassage passages evidenceId passageId = some text) :
    ∃ passage ∈ passages, passage.evidenceId = evidenceId ∧ passage.text = text := by
  obtain ⟨passage, first, rfl⟩ := Option.map_eq_some_iff.1 found
  have named := List.find?_some first
  rw [decide_eq_true_iff] at named
  exact ⟨passage, List.mem_reverse.1 (List.mem_of_find?_eq_some first), named.1, rfl⟩

end Obsion.Knowledge.Passages
