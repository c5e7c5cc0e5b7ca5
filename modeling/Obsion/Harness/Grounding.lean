import Obsion.Base.Json
import Obsion.Lib.Traverse

/-! # The check of a grounding review

`_validate_review`: a review names every claim once, and its quotations are looked up in the
bodies of the evidence that the claim is linked with. -/

namespace Obsion.Harness.Grounding

inductive ReviewDiagnostic
  | rootFieldsInvalid
  | answerFlagsInvalid
  | claimCoverageInvalid
  | claimFieldsInvalid
  | claimIndexInvalid
  | verdictInvalid
  | quoteListInvalid
  | quoteFieldsInvalid
  | quoteSourceInvalid
  | quoteTextInvalid
  | quoteNotExact
  | quoteNotSubstantive
  | quoteCoverageInvalid
  | quoteReferenceInvalid
  deriving DecidableEq, Repr

/-- A claim of the answer, with what the check reads of it. -/
structure Claim where
  evidenceIds : List String

/-- The bodies of each evidence. -/
abbrev Sources := List (String × List String)

def Sources.bodies (sources : Sources) (evidenceId : String) : List String :=
  ((sources.find? fun entry => entry.1 = evidenceId).map Prod.snd).getD []

structure QuoteReference where
  evidenceId : String
  bodyIndex : Nat
  start : Int
  length : Nat
  sha256 : String
  deriving DecidableEq

structure CheckedClaim where
  claimIndex : Nat
  verdict : String
  quotes : List QuoteReference
  deriving DecidableEq

def findFrom (part : List Char) : List Char → Option Nat
  | [] => if part = [] then some 0 else none
  | char :: rest =>
    if part.isPrefixOf (char :: rest) then some 0 else (findFrom part rest).map (· + 1)

def find (body text : String) : Int :=
  match findFrom text.toList body.toList with
  | some start => start
  | none => -1

/-- `body[start:stop]` for `0 ≤ start` -/
def slice (body : String) (start stop : Int) : String :=
  String.ofList ((body.toList.drop start.toNat).take (stop - start).toNat)

def isSubstantive (text body : String) : Bool :=
  Decidable.decide (8 ≤ (strip text).length) || strip text = strip body

def locate (bodies : List String) (text : String) : Option (Nat × Int) :=
  (bodies.zipIdx.find? fun entry => isIn text entry.1 && isSubstantive text entry.1).map
    fun entry => (entry.2, find entry.1 text)

/-! ## The checks -/

def hasFields (fields : Fields) (keys : List String) : Bool :=
  (fields.all fun field => field.1 ∈ keys) && keys.all fields.has

/-- A quotation, where `linked` are the evidence ids of its claim. -/
def checkQuote (sha256 : String → String) (linked : List String) (sources : Sources) (quote : Json) :
    Except ReviewDiagnostic QuoteReference :=
  match quote with
  | .obj fields =>
    if !hasFields fields ["evidence_id", "quote"] then .error .quoteFieldsInvalid
    else
      match Fields.get? fields "evidence_id" with
      | some (.str evidenceId) =>
        if evidenceId ∉ linked then .error .quoteSourceInvalid
        else
          match Fields.get? fields "quote" with
          | some (.str text) =>
            if strip text = "" ∨ 2000 < text.length then .error .quoteTextInvalid
            else
              match locate (sources.bodies evidenceId) text with
              | some (bodyIndex, start) =>
                .ok ⟨evidenceId, bodyIndex, start, text.length, sha256 text⟩
              | none =>
                if (sources.bodies evidenceId).any fun body => isIn text body then
                  .error .quoteNotSubstantive
                else .error .quoteNotExact
          | _ => .error .quoteTextInvalid
      | _ => .error .quoteSourceInvalid
  | _ => .error .quoteFieldsInvalid

def verdicts : List String := ["SUPPORTED", "CONTRADICTED", "INSUFFICIENT"]

def sameSet (quoted linked : List String) : Bool :=
  (quoted.all fun id => id ∈ linked) && linked.all fun id => id ∈ quoted

/-- The index of an entry, when it is one that was not checked before. -/
def checkIndex (claims : List Claim) (checked : List CheckedClaim) (fields : Fields) :
    Except ReviewDiagnostic Nat :=
  match fields.get? "claim_index" with
  | some (.int index) =>
    if 1 ≤ index ∧ index ≤ claims.length ∧ index.toNat ∉ checked.map CheckedClaim.claimIndex then
      .ok index.toNat
    else .error .claimIndexInvalid
  | _ => .error .claimIndexInvalid

def checkVerdict (fields : Fields) : Except ReviewDiagnostic String :=
  match fields.get? "verdict" with
  | some (.str verdict) => if verdict ∈ verdicts then .ok verdict else .error .verdictInvalid
  | _ => .error .verdictInvalid

def quoteList (fields : Fields) : Except ReviewDiagnostic (List Json) :=
  match fields.get? "quotes" with
  | some (.arr quotes) => if 20 < quotes.length then .error .quoteListInvalid else .ok quotes
  | _ => .error .quoteListInvalid

def linkedIds (claims : List Claim) (index : Nat) : List String :=
  ((claims[index - 1]?).map Claim.evidenceIds).getD []

def checkReview (sha256 : String → String) (claims : List Claim) (sources : Sources)
    (checked : List CheckedClaim) (review : Json) : Except ReviewDiagnostic CheckedClaim :=
  match review with
  | .obj fields =>
    if !hasFields fields ["claim_index", "verdict", "quotes"] then .error .claimFieldsInvalid
    else do
      let index ← checkIndex claims checked fields
      let verdict ← checkVerdict fields
      let quotes ← quoteList fields
      let references ← quotes.mapM (checkQuote sha256 (linkedIds claims index) sources)
      if verdict = "SUPPORTED" ∧ (linkedIds claims index = [] ∨
          !sameSet (references.map QuoteReference.evidenceId) (linkedIds claims index)) then
        .error .quoteCoverageInvalid
      else .ok ⟨index, verdict, references⟩
  | _ => .error .claimFieldsInvalid

def checkReviews (sha256 : String → String) (claims : List Claim) (sources : Sources) :
    List CheckedClaim → List Json → Except ReviewDiagnostic (List CheckedClaim)
  | checked, [] => .ok checked
  | checked, review :: rest => do
      let found ← checkReview sha256 claims sources checked review
      checkReviews sha256 claims sources (checked ++ [found]) rest

def rootOf (payload : Json) : Except ReviewDiagnostic (Bool × Bool × Json) :=
  match payload with
  | .obj fields =>
    if !hasFields fields ["answer_supported", "question_answered", "claims"] then .error .rootFieldsInvalid
    else
      match Fields.get? fields "answer_supported", Fields.get? fields "question_answered" with
      | some (.bool supported), some (.bool answered) =>
        .ok (supported, answered, (Fields.get? fields "claims").getD .null)
      | _, _ => .error .answerFlagsInvalid
  | _ => .error .rootFieldsInvalid

def validateReview (sha256 : String → String) (payload : Json) (claims : List Claim) (sources : Sources) :
    Except ReviewDiagnostic (Bool × List CheckedClaim) := do
  let (supported, answered, found) ← rootOf payload
  match found with
  | .arr reviews =>
    if claims = [] ∨ reviews.length ≠ claims.length then .error .claimCoverageInvalid
    else do
      let checked ← checkReviews sha256 claims sources [] reviews
      .ok (supported && answered && checked.all (fun item => item.verdict = "SUPPORTED"),
        checked.insertionSort fun left right => left.claimIndex ≤ right.claimIndex)
  | _ => .error .claimCoverageInvalid

lemma findFrom_eq_some {part text : List Char} {start : Nat} (found : findFrom part text = some start) :
    (text.drop start).take part.length = part := by
  induction text generalizing start with
  | nil =>
    rw [findFrom] at found
    split at found
    · next empty =>
      cases found
      rw [empty]
      rfl
    · cases found
  | cons char rest ih =>
    rw [findFrom] at found
    split at found
    · next here =>
      cases found
      rw [List.drop_zero]
      exact (List.prefix_iff_eq_take.1 (List.isPrefixOf_iff_prefix.1 here)).symm
    · obtain ⟨before, later, rfl⟩ := Option.map_eq_some_iff.1 found
      rw [List.drop_succ_cons]
      exact ih later

lemma findFrom_of_infix {part text : List Char} (inside : part <:+: text) :
    ∃ start, findFrom part text = some start := by
  induction text with
  | nil => exact ⟨0, by rw [findFrom, if_pos (List.infix_nil.1 inside)]⟩
  | cons char rest ih =>
    rw [findFrom]
    by_cases here : part.isPrefixOf (char :: rest) = true
    · exact ⟨0, if_pos here⟩
    rw [if_neg here]
    rcases List.infix_cons_iff.1 inside with front | later
    · exact absurd (List.isPrefixOf_iff_prefix.2 front) here
    obtain ⟨start, found⟩ := ih later
    exact ⟨start + 1, by rw [found]; rfl⟩

lemma slice_find {body text : String} (inside : isIn text body = true) :
    0 ≤ find body text ∧ slice body (find body text) (find body text + text.length) = text := by
  obtain ⟨start, found⟩ := findFrom_of_infix (of_decide_eq_true inside)
  have place : find body text = start := by rw [find, found]
  rw [place]
  refine ⟨Int.natCast_nonneg start, ?_⟩
  rw [slice, Int.toNat_natCast, add_sub_cancel_left, Int.toNat_natCast, ← String.length_toList,
    findFrom_eq_some found, String.ofList_toList]

lemma locate_eq_some {bodies : List String} {text : String} {bodyIndex : Nat} {start : Int}
    (found : locate bodies text = some (bodyIndex, start)) : ∃ body, bodies[bodyIndex]? = some body ∧
      isIn text body = true ∧ isSubstantive text body = true ∧ start = find body text := by
  obtain ⟨⟨body, index⟩, first, eq⟩ := Option.map_eq_some_iff.1 found
  cases eq
  have passes := List.find?_some first
  rw [Bool.and_eq_true] at passes
  refine ⟨body, ?_, passes.1, passes.2, rfl⟩
  exact List.mem_zipIdx_iff_getElem?.1 (List.mem_of_find?_eq_some first)

lemma locate_isSome_iff {bodies : List String} {text : String} : (locate bodies text).isSome = true ↔
    ∃ body ∈ bodies, isIn text body = true ∧ isSubstantive text body = true := by
  rw [locate, Option.isSome_map, List.find?_isSome]
  constructor
  · rintro ⟨⟨body, index⟩, mem, passes⟩
    rw [Bool.and_eq_true] at passes
    exact ⟨body, List.mem_of_getElem? (List.mem_zipIdx_iff_getElem?.1 mem), passes⟩
  · rintro ⟨body, mem, passes⟩
    obtain ⟨index, stored⟩ := List.mem_iff_getElem?.1 mem
    exact ⟨(body, index), List.mem_zipIdx_iff_getElem?.2 stored, by rw [Bool.and_eq_true]; exact passes⟩

end Obsion.Harness.Grounding
