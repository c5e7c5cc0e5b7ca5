import Obsion.Harness.Grounded
import Obsion.Knowledge.Passages

/-! # A review that quotes by passage

`_resolve_passage_quotes` puts the text of an issued passage where the review names it, and
the result goes through the unchanged check. -/

namespace Obsion.Harness.Grounding

open Obsion.Lib Obsion.Knowledge.Passages

def resolveQuote (lookup : String → String → Option String) (quote : Json) : Except ReviewDiagnostic Json :=
  match quote with
  | .obj fields =>
    if hasFields fields ["evidence_id", "passage_id"] then
      match Fields.get? fields "evidence_id", Fields.get? fields "passage_id" with
      | some (.str evidenceId), some (.str passageId) =>
        match lookup evidenceId passageId with
        | some text => .ok (.obj [("evidence_id", .str evidenceId), ("quote", .str text)])
        | none => .error .quoteReferenceInvalid
      | _, _ => .error .quoteReferenceInvalid
    else .ok quote
  | _ => .ok quote

def listUnder (value : Json) (key : String) : Option (Fields × List Json) :=
  match value with
  | .obj fields =>
    match Fields.get? fields key with
    | some (.arr values) => some (fields, values)
    | _ => none
  | _ => none

def resolveClaim (lookup : String → String → Option String) (claim : Json) : Except ReviewDiagnostic Json :=
  match listUnder claim "quotes" with
  | some (fields, quotes) => do
      let resolved ← quotes.mapM (resolveQuote lookup)
      .ok (.obj (fields.set "quotes" (.arr resolved)))
  | none => .ok claim

def resolvePassageQuotes (lookup : String → String → Option String) (payload : Json) :
    Except ReviewDiagnostic Json :=
  match listUnder payload "claims" with
  | some (fields, claims) => do
      let resolved ← claims.mapM (resolveClaim lookup)
      .ok (.obj (fields.set "claims" (.arr resolved)))
  | none => .ok payload

def validateRepair (sha256 : String → String) (lookup : String → String → Option String) (payload : Json)
    (claims : List Claim) (sources : Sources) : Except ReviewDiagnostic (Bool × List CheckedClaim) := do
  let resolved ← resolvePassageQuotes lookup payload
  validateReview sha256 resolved claims sources

def issuedLookup (host : Host) (sources : Sources) : String → String → Option String :=
  lookupPassage (issuedPassages host (sources.map Prod.fst) sources.bodies)

def NamesPassage (lookup : String → String → Option String) (quote : Json) (evidenceId text : String) : Prop :=
  ∃ (fields : Fields) (passageId : String), quote = .obj fields ∧
    hasFields fields ["evidence_id", "passage_id"] = true ∧
    fields.get? "evidence_id" = some (.str evidenceId) ∧ fields.get? "passage_id" = some (.str passageId) ∧
    lookup evidenceId passageId = some text

def QuotedIn (payload quote : Json) : Prop :=
  ∃ root claims claim fields quotes, listUnder payload "claims" = some (root, claims) ∧ claim ∈ claims ∧
    listUnder claim "quotes" = some (fields, quotes) ∧ quote ∈ quotes

def UsesPassages (lookup : String → String → Option String) (payload : Json) : Prop :=
  ∀ quote, QuotedIn payload quote → ∃ evidenceId text, NamesPassage lookup quote evidenceId text

/-- The text is short, and no body of the evidence that has it says only this. -/
def TooShort (sources : Sources) (evidenceId text : String) : Prop :=
  (strip text).length < 8 ∧ ∀ body ∈ sources.bodies evidenceId, text.toList <:+: body.toList → strip text ≠ strip body

variable {fields : Fields} {lookup : String → String → Option String} {evidenceId text : String}
  {payload : Json}

lemma listUnder_eq_some {value : Json} {key : String} {values : List Json} :
    listUnder value key = some (fields, values) ↔ value = .obj fields ∧ fields.get? key = some (.arr values) := by
  constructor
  · intro found
    unfold listUnder at found
    split at found
    · split at found
      · next stored =>
        cases found
        exact ⟨rfl, stored⟩
      · cases found
    · cases found
  · rintro ⟨rfl, stored⟩
    rw [listUnder, stored]

def resolvedQuote (evidenceId text : String) : Json := .obj [("evidence_id", .str evidenceId), ("quote", .str text)]

lemma resolveQuote_of_names {quote : Json} (names : NamesPassage lookup quote evidenceId text) :
    resolveQuote lookup quote = .ok (resolvedQuote evidenceId text) := by
  obtain ⟨fields, passageId, rfl, shape, named, placed, found⟩ := names
  rw [resolveQuote, if_pos shape, named, placed]
  dsimp only
  rw [found]
  rfl

lemma resolveClaim_ok {claim : Json}
    (names : ∀ fields quotes, listUnder claim "quotes" = some (fields, quotes) →
      ∀ quote ∈ quotes, ∃ evidenceId text, NamesPassage lookup quote evidenceId text) :
    ∃ resolved, resolveClaim lookup claim = .ok resolved ∧
      ∀ fields quotes, listUnder resolved "quotes" = some (fields, quotes) → ∀ quote ∈ quotes,
        ∃ before original evidenceId text, listUnder claim "quotes" = some (before, original) ∧
          (∃ named ∈ original, NamesPassage lookup named evidenceId text) ∧
          quote = resolvedQuote evidenceId text := by
  cases found : listUnder claim "quotes" with
  | none =>
    refine ⟨claim, by rw [resolveClaim, found], ?_⟩
    intro fields quotes stored
    rw [found] at stored
    cases stored
  | some entry =>
    obtain ⟨before, original⟩ := entry
    have each := names before original found
    have resolves : ∀ quote ∈ original, ∃ result, resolveQuote lookup quote = .ok result := by
      intro quote mem
      obtain ⟨evidenceId, text, named⟩ := each quote mem
      exact ⟨_, resolveQuote_of_names named⟩
    obtain ⟨results, all⟩ := exists_forall₂ resolves
    refine ⟨.obj (before.set "quotes" (.arr results)), ?_, ?_⟩
    · rw [resolveClaim, found]
      dsimp only
      rw [mapM_eq_ok_iff.2 all]
      rfl
    · intro fields quotes stored quote mem
      obtain ⟨eq, listed⟩ := listUnder_eq_some.1 stored
      cases eq
      rw [Fields.get?_set, if_pos rfl] at listed
      cases listed
      obtain ⟨given, stored, result⟩ := exists_of_forall₂_right all mem
      obtain ⟨evidenceId, text, named⟩ := each given stored
      refine ⟨before, original, evidenceId, text, rfl, ⟨given, stored, named⟩, ?_⟩
      exact Except.ok.inj (result.symm.trans (resolveQuote_of_names named))

lemma resolvePassageQuotes_ok (uses : UsesPassages lookup payload) :
    ∃ resolved, resolvePassageQuotes lookup payload = .ok resolved ∧ ∀ quote, QuotedIn resolved quote →
      ∃ named evidenceId text, QuotedIn payload named ∧ NamesPassage lookup named evidenceId text ∧
        quote = resolvedQuote evidenceId text := by
  cases found : listUnder payload "claims" with
  | none =>
    refine ⟨payload, by rw [resolvePassageQuotes, found], ?_⟩
    rintro quote ⟨root, claims, claim, fields, quotes, stored, -, -, -⟩
    rw [found] at stored
    cases stored
  | some entry =>
    obtain ⟨root, claims⟩ := entry
    have names : ∀ claim ∈ claims, ∀ fields quotes, listUnder claim "quotes" = some (fields, quotes) →
        ∀ quote ∈ quotes, ∃ evidenceId text, NamesPassage lookup quote evidenceId text := by
      intro claim mem fields quotes listed quote inside
      exact uses quote ⟨root, claims, claim, fields, quotes, found, mem, listed, inside⟩
    have resolves : ∀ claim ∈ claims, ∃ result, resolveClaim lookup claim = .ok result := by
      intro claim mem
      obtain ⟨result, resolved, -⟩ := resolveClaim_ok (names claim mem)
      exact ⟨result, resolved⟩
    obtain ⟨results, all⟩ := exists_forall₂ resolves
    refine ⟨.obj (root.set "claims" (.arr results)), ?_, ?_⟩
    · rw [resolvePassageQuotes, found]
      dsimp only
      rw [mapM_eq_ok_iff.2 all]
      rfl
    · rintro quote ⟨top, reviews, review, fields, quotes, stored, mem, listed, inside⟩
      obtain ⟨eq, reviewed⟩ := listUnder_eq_some.1 stored
      cases eq
      rw [Fields.get?_set, if_pos rfl] at reviewed
      cases reviewed
      obtain ⟨claim, original, result⟩ := exists_of_forall₂_right all mem
      obtain ⟨other, resolved, back⟩ := resolveClaim_ok (names claim original)
      cases result.symm.trans resolved
      obtain ⟨before, given, evidenceId, text, listedBefore, ⟨named, placed, names⟩, written⟩ :=
        back fields quotes listed quote inside
      exact ⟨named, evidenceId, text, ⟨root, claims, claim, before, given, found, original, listedBefore, placed⟩,
        names, written⟩

/-! ## Where a check fails -/

def structural : List ReviewDiagnostic :=
  [.rootFieldsInvalid, .answerFlagsInvalid, .claimCoverageInvalid, .claimFieldsInvalid, .claimIndexInvalid,
    .verdictInvalid, .quoteListInvalid, .quoteCoverageInvalid]

lemma structural_other : ∀ fault ∈ structural,
    fault ∉ [.quoteReferenceInvalid, .quoteTextInvalid, .quoteNotExact] ∧ fault ≠ .quoteNotSubstantive := by
  decide

lemma bind_eq_error {ε α β : Type} {computation : Except ε α} {next : α → Except ε β} {fault : ε}
    (failed : computation >>= next = .error fault) :
    computation = .error fault ∨ ∃ value, computation = .ok value ∧ next value = .error fault := by
  cases computation with
  | error other =>
    cases failed
    exact .inl rfl
  | ok value => exact .inr ⟨value, rfl, failed⟩

lemma rootOf_error {fault : ReviewDiagnostic} (failed : rootOf payload = .error fault) :
    fault ∈ structural := by
  unfold rootOf at failed
  split at failed
  · split at failed
    · cases failed
      decide
    split at failed
    · cases failed
    cases failed
    decide
  · cases failed
    decide

variable {checked : List CheckedClaim} {linked : List String} {host : Host}

lemma checkIndex_error {claims : List Claim} {fault : ReviewDiagnostic}
    (failed : checkIndex claims checked fields = .error fault) :
    fault ∈ structural := by
  unfold checkIndex at failed
  split at failed
  · split at failed
    · cases failed
    cases failed
    decide
  · cases failed
    decide

lemma checkVerdict_error {fault : ReviewDiagnostic} (failed : checkVerdict fields = .error fault) :
    fault ∈ structural := by
  unfold checkVerdict at failed
  split at failed
  · split at failed
    · cases failed
    cases failed
    decide
  · cases failed
    decide

lemma quoteList_error {fault : ReviewDiagnostic} (failed : quoteList fields = .error fault) :
    fault ∈ structural := by
  unfold quoteList at failed
  split at failed
  · split at failed
    · cases failed
      decide
    cases failed
  · cases failed
    decide

section

variable {sha256 : String → String} {claims : List Claim} {sources : Sources} {fault : ReviewDiagnostic}

variable {checked : List CheckedClaim}

lemma checkReview_error {review : Json}
    (failed : checkReview sha256 claims sources checked review = .error fault) :
    fault ∈ structural ∨ ∃ fields quotes, listUnder review "quotes" = some (fields, quotes) ∧
      ∃ quote ∈ quotes, ∃ linked, checkQuote sha256 linked sources quote = .error fault := by
  unfold checkReview at failed
  split at failed
  · next fields =>
    split at failed
    · cases failed
      exact .inl (by decide)
    rcases bind_eq_error failed with early | ⟨index, -, failed⟩
    · exact .inl (checkIndex_error early)
    rcases bind_eq_error failed with early | ⟨verdict, -, failed⟩
    · exact .inl (checkVerdict_error early)
    rcases bind_eq_error failed with early | ⟨quotes, listed, failed⟩
    · exact .inl (quoteList_error early)
    rcases bind_eq_error failed with early | ⟨references, -, failed⟩
    · obtain ⟨quote, mem, wrong⟩ := exists_of_mapM_error early
      have stored := (quoteList_eq_ok_iff.1 listed).1
      exact .inr ⟨fields, quotes, listUnder_eq_some.2 ⟨rfl, stored⟩, quote, mem, _, wrong⟩
    · split at failed
      · cases failed
        exact .inl (by decide)
      cases failed
  · cases failed
    exact .inl (by decide)

lemma checkReviews_error {reviews : List Json}
    (failed : checkReviews sha256 claims sources checked reviews = .error fault) :
    ∃ before, ∃ review ∈ reviews, checkReview sha256 claims sources before review = .error fault := by
  induction reviews generalizing checked with
  | nil => cases failed
  | cons review rest ih =>
    rcases bind_eq_error failed with first | ⟨found, -, later⟩
    · exact ⟨checked, review, List.mem_cons_self, first⟩
    obtain ⟨before, other, mem, wrong⟩ := ih later
    exact ⟨before, other, List.mem_cons_of_mem _ mem, wrong⟩

lemma validateReview_error {payload : Json} (failed : validateReview sha256 payload claims sources = .error fault) :
    fault ∈ structural ∨ ∃ quote, QuotedIn payload quote ∧
      ∃ linked, checkQuote sha256 linked sources quote = .error fault := by
  rcases bind_eq_error failed with early | ⟨⟨supported, answered, found⟩, root, failed⟩
  · exact .inl (rootOf_error early)
  dsimp only at failed
  split at failed
  · next reviews =>
    split at failed
    · cases failed
      exact .inl (by decide)
    rcases bind_eq_error failed with early | ⟨checked, -, failed⟩
    · obtain ⟨before, review, mem, wrong⟩ := checkReviews_error early
      rcases checkReview_error wrong with shape | ⟨fields, quotes, listed, quote, inside, linked, bad⟩
      · exact .inl shape
      obtain ⟨top, rfl, -, -, -, under⟩ := rootOf_eq_ok_iff.1 root
      have stored := get?_of_getD_arr under
      refine .inr ⟨quote, ?_, linked, bad⟩
      exact ⟨top, reviews, review, fields, quotes, listUnder_eq_some.2 ⟨rfl, stored⟩, mem, listed, inside⟩
    · cases failed
  · cases failed
    exact .inl (by decide)

end

lemma checkQuote_resolved {sha256 : String → String} {sources : Sources} {passageId : String}
    {fault : ReviewDiagnostic} (issued : issuedLookup host sources evidenceId passageId = some text)
    (failed : checkQuote sha256 linked sources (resolvedQuote evidenceId text) = .error fault) :
    (fault = .quoteSourceInvalid ∧ evidenceId ∉ linked) ∨
      (fault = .quoteNotSubstantive ∧ TooShort sources evidenceId text) := by
  obtain ⟨passage, mem, rfl, rfl⟩ := lookupPassage_issued issued
  obtain ⟨body, stored, inside, visible, short⟩ := issued_part mem
  have shape : hasFields [("evidence_id", .str passage.evidenceId), ("quote", .str passage.text)]
      ["evidence_id", "quote"] = true := by rfl
  rw [resolvedQuote, checkQuote, if_neg (by rw [shape]; decide)] at failed
  change (if passage.evidenceId ∉ linked then _ else ite _ _ _) = _ at failed
  split at failed
  · next foreign =>
    cases failed
    exact .inl ⟨rfl, foreign⟩
  · have fits : ¬ (strip passage.text = "" ∨ 2000 < passage.text.length) := by
      rw [not_or]
      constructor
      · intro blank
        refine visible ?_
        rw [strip] at blank
        exact String.ofList_eq_empty_iff.1 blank
      · unfold passageCharacters at short
        omega
    rw [if_neg fits] at failed
    split at failed
    · cases failed
    next missing =>
    have found : (sources.bodies passage.evidenceId).any (fun body => isIn passage.text body) = true :=
      List.any_eq_true.2 ⟨body, stored, decide_eq_true inside⟩
    rw [if_pos found] at failed
    cases failed
    refine .inr ⟨rfl, ?_⟩
    have nowhere : ∀ other ∈ sources.bodies passage.evidenceId, passage.text.toList <:+: other.toList →
        ¬ (8 ≤ (strip passage.text).length ∨ strip passage.text = strip other) := by
      intro other among part substantive
      have located : (locate (sources.bodies passage.evidenceId) passage.text).isSome = true :=
        locate_isSome_iff.2 ⟨other, among, decide_eq_true part, isSubstantive_iff.2 substantive⟩
      rw [missing] at located
      cases located
    constructor
    · exact not_le.1 fun long => nowhere body stored inside (Or.inl long)
    exact fun other among part eq => nowhere other among part (Or.inr eq)

lemma checkQuote_of_tooShort {sha256 : String → String} {sources : Sources} {passageId : String}
    (issued : issuedLookup host sources evidenceId passageId = some text)
    (inside : evidenceId ∈ linked) (short : TooShort sources evidenceId text) :
    checkQuote sha256 linked sources (resolvedQuote evidenceId text) = .error .quoteNotSubstantive := by
  cases checked : checkQuote sha256 linked sources (resolvedQuote evidenceId text) with
  | ok reference =>
    obtain ⟨other, words, quotes, -⟩ := checkQuote_eq_ok_iff.1 checked
    obtain ⟨fields, eq, -, named, quoted⟩ := quotes.shape
    cases eq
    cases named
    cases quoted
    obtain ⟨body, stored, part, long | whole⟩ := quotes.found
    · exact absurd long (not_le.2 short.1)
    exact absurd whole (short.2 body stored part)
  | error fault =>
    rcases checkQuote_resolved issued checked with ⟨-, foreign⟩ | ⟨rfl, -⟩
    · exact absurd inside foreign
    rfl

lemma checkReview_quote_error {sha256 : String → String} {claims : List Claim} {sources : Sources}
    {index : Nat} {verdict : String} {quotes : List Json} {fault : ReviewDiagnostic}
    (shape : hasFields fields ["claim_index", "verdict", "quotes"] = true)
    (indexed : checkIndex claims checked fields = .ok index)
    (judged : checkVerdict fields = .ok verdict) (listed : quoteList fields = .ok quotes)
    (wrong : quotes.mapM (checkQuote sha256 (linkedIds claims index) sources) = .error fault) :
    checkReview sha256 claims sources checked (.obj fields) = .error fault := by
  rw [checkReview, shape, indexed, judged, listed]
  change (quotes.mapM (checkQuote sha256 (linkedIds claims index) sources) >>= _) = _
  rw [wrong]
  rfl

lemma validateRepair_of_resolved {sha256 : String → String} {resolved : Json}
    {claims : List Claim} {sources : Sources}
    (resolves : resolvePassageQuotes lookup payload = .ok resolved) :
    validateRepair sha256 lookup payload claims sources = validateReview sha256 resolved claims sources := by
  rw [validateRepair, resolves]
  rfl

lemma validateReview_reviews_error {sha256 : String → String} {claims : List Claim}
    {sources : Sources} {supported answered : Bool} {reviews : List Json} {fault : ReviewDiagnostic}
    (root : rootOf payload = .ok (supported, answered, .arr reviews))
    (sizes : ¬ (claims = [] ∨ reviews.length ≠ claims.length))
    (wrong : checkReviews sha256 claims sources [] reviews = .error fault) :
    validateReview sha256 payload claims sources = .error fault := by
  rw [validateReview, root]
  refine (if_neg sizes).trans ?_
  rw [wrong]
  rfl

/-- The passages partition the bodies.  A review that quotes by passage fails for no unknown
reference, no wrong text and no inexact text, and for a text that is not substantive only where
it names a passage that is too short. -/
theorem repair_never_miscopies (sha256 : String → String) (host : Host) (sources : Sources) :
    (∀ evidenceId bodyIndex body, host.redactText body = body →
      ∃ slices : List (Nat × List Char), (slices.map Prod.snd).flatten = body.toList ∧
        (∀ slice ∈ slices, 1 ≤ slice.2.length ∧ slice.2.length ≤ 1500 ∧
          slice.2 = (body.toList.drop slice.1).take slice.2.length) ∧
        (bodyPassages host evidenceId bodyIndex body).map Passage.text =
          (slices.filter fun slice => stripChars slice.2 ≠ []).map fun slice => String.ofList slice.2) ∧
    ∀ payload claims fault, UsesPassages (issuedLookup host sources) payload →
      validateRepair sha256 (issuedLookup host sources) payload claims sources = .error fault →
      fault ∉ [.quoteReferenceInvalid, .quoteTextInvalid, .quoteNotExact] ∧
        (fault = .quoteNotSubstantive → ∃ quote evidenceId text, QuotedIn payload quote ∧
          NamesPassage (issuedLookup host sources) quote evidenceId text ∧ TooShort sources evidenceId text) := by
  constructor
  · exact fun evidenceId bodyIndex body plain => bodyPassages_partition host evidenceId bodyIndex plain
  intro payload claims fault uses failed
  obtain ⟨resolved, resolves, back⟩ := resolvePassageQuotes_ok uses
  rcases bind_eq_error failed with early | ⟨other, found, failed⟩
  · rw [resolves] at early
    cases early
  cases resolves.symm.trans found
  rcases validateReview_error failed with shape | ⟨quote, quoted, linked, wrong⟩
  · have other := structural_other fault shape
    exact ⟨other.1, fun same => absurd same other.2⟩
  obtain ⟨named, evidenceId, text, original, names, rfl⟩ := back quote quoted
  have ⟨fields, passageId, _, _, _, _, issued⟩ := names
  rcases checkQuote_resolved issued wrong with ⟨rfl, -⟩ | ⟨rfl, short⟩
  · exact ⟨by decide, nofun⟩
  exact ⟨by decide, fun _ => ⟨named, evidenceId, text, original, names, short⟩⟩

/-! ## A body with a short last slice -/

lemma slices_of_short_tail {front : List Char} (size : front.length = 1500) (plain : '\n' ∉ front) :
    slicesFrom (front ++ ['a', 'b']) 0 = [(0, front), (1500, ['a', 'b'])] := by
  have whole : (front ++ ['a', 'b']).length = 1502 := by
    rw [List.length_append, size]
    rfl
  have none_ : ∀ low high, rfindNewline (front ++ ['a', 'b']) low high = none := by
    intro low high
    rw [rfindNewline, List.find?_eq_none]
    intro index _ found
    rw [decide_eq_true_iff] at found
    rcases List.mem_append.1 (List.mem_of_getElem? found) with here | there
    · exact plain here
    exact absurd there (by decide)
  have first : sliceEnd (front ++ ['a', 'b']) 0 = 1500 := by
    rw [sliceEnd, whole, passageCharacters, none_]
    rfl
  have second : sliceEnd (front ++ ['a', 'b']) 1500 = 1502 := by
    rw [sliceEnd, whole, passageCharacters]
    rfl
  have last : slicesFrom (front ++ ['a', 'b']) 1502 = [] := by
    rw [slicesFrom, if_neg (by omega)]
  rw [slicesFrom, if_pos (by omega), first, slicesFrom, if_pos (by omega), second, last, List.drop_zero, Nat.sub_zero,
    List.take_left' size, List.drop_left' size]
  rfl

lemma stripChars_cons {char : Char} (visible : isSpace char = false) (rest : List Char) :
    ∃ kept, stripChars (char :: rest) = char :: kept := by
  have start : stripChars (char :: rest) = (char :: rest).rdropWhile isSpace := by
    rw [stripChars, List.dropWhile_cons_of_neg (by rw [visible]; decide), List.rdropWhile]
  obtain ⟨tail, whole⟩ := List.rdropWhile_prefix isSpace (char :: rest)
  rw [← start] at whole
  cases strips : stripChars (char :: rest) with
  | nil =>
    rw [strips] at start
    have all := List.rdropWhile_eq_nil_iff.1 start.symm char List.mem_cons_self
    rw [visible] at all
    cases all
  | cons head kept =>
    rw [strips, List.cons_append] at whole
    exact ⟨kept, by rw [(List.cons.inj whole).1]⟩

def sampleFront : List Char := List.replicate 1500 'x'

lemma sampleFront_cons : ∃ rest, sampleFront = 'x' :: rest := ⟨List.replicate 1499 'x', List.replicate_succ⟩

lemma newline_notMem_sampleFront : '\n' ∉ sampleFront := by
  intro mem
  exact absurd (List.eq_of_mem_replicate mem) (by decide)

def sampleBody : String := String.ofList (sampleFront ++ ['a', 'b'])

def sampleSources : Sources := [("evidence", [sampleBody])]

def sampleHost : Host := ⟨id, id⟩

def samplePassageId : String := passageId sampleHost "evidence" 0 1500 "ab"

def sampleQuote : Json := .obj [("evidence_id", .str "evidence"), ("passage_id", .str samplePassageId)]

def sampleReview (quote : Json) : Json :=
  .obj [("claim_index", .int 1), ("verdict", .str "SUPPORTED"), ("quotes", .arr [quote])]

def samplePayload (quote : Json) : Json :=
  .obj [("answer_supported", .bool true), ("question_answered", .bool true), ("claims", .arr [sampleReview quote])]

lemma issued_sample : issuedLookup sampleHost sampleSources "evidence" samplePassageId = some "ab" := by
  obtain ⟨rest, front⟩ := sampleFront_cons
  have visible : stripChars sampleFront ≠ [] := by
    obtain ⟨kept, strips⟩ := stripChars_cons (show isSpace 'x' = false by decide) rest
    rw [front, strips]
    exact List.cons_ne_nil _ _
  have passages : bodyPassages sampleHost "evidence" 0 sampleBody =
      [⟨"evidence", passageId sampleHost "evidence" 0 0 (String.ofList sampleFront), String.ofList sampleFront⟩,
        ⟨"evidence", samplePassageId, "ab"⟩] := by
    have size : sampleFront.length = 1500 := List.length_replicate
    have plain : sampleHost.redactText sampleBody = sampleBody := rfl
    have kept : ∀ slice ∈ [(0, sampleFront), (1500, ['a', 'b'])],
        Decidable.decide (stripChars slice.2 ≠ []) = true := by
      intro slice mem
      simp only [List.mem_cons, List.not_mem_nil, or_false] at mem
      rcases mem with rfl | rfl
      · exact decide_eq_true visible
      decide
    rw [bodyPassages, if_neg (not_not_intro plain), sampleBody, String.toList_ofList,
      slices_of_short_tail size newline_notMem_sampleFront, List.filter_eq_self.2 kept]
    rfl
  have issued : issuedPassages sampleHost (sampleSources.map Prod.fst) sampleSources.bodies =
      (bodyPassages sampleHost "evidence" 0 sampleBody ++ []) ++ [] := by rfl
  rw [issuedLookup, issued, passages, lookupPassage, List.append_nil, List.append_nil, List.reverse_cons,
    List.reverse_singleton, List.singleton_append, List.find?_cons_of_pos (by decide)]
  rfl

lemma strip_sampleBody_ne : strip "ab" ≠ strip sampleBody := by
  intro eq
  obtain ⟨rest, front⟩ := sampleFront_cons
  obtain ⟨kept, strips⟩ := stripChars_cons (show isSpace 'x' = false by decide) (rest ++ ['a', 'b'])
  have lists := congrArg String.toList eq
  simp only [strip, String.toList_ofList, sampleBody, front, List.cons_append, strips] at lists
  have short : stripChars "ab".toList = ['a', 'b'] := by decide
  rw [short] at lists
  cases lists

lemma tooShort_sample : TooShort sampleSources "evidence" "ab" := by
  constructor
  · decide
  intro body mem _
  rw [show sampleSources.bodies "evidence" = [sampleBody] from rfl, List.mem_singleton] at mem
  rw [mem]
  exact strip_sampleBody_ne

/-- A review that quotes the short passage is refused for its quotation. -/
theorem short_passage_refused :
    UsesPassages (issuedLookup sampleHost sampleSources) (samplePayload sampleQuote) ∧
    ∀ sha256 : String → String, validateRepair sha256 (issuedLookup sampleHost sampleSources)
      (samplePayload sampleQuote) [⟨["evidence"]⟩] sampleSources = .error .quoteNotSubstantive := by
  have names : NamesPassage (issuedLookup sampleHost sampleSources) sampleQuote "evidence" "ab" :=
    ⟨_, samplePassageId, rfl, by rfl, rfl, rfl, issued_sample⟩
  constructor
  · rintro quote ⟨root, claims, claim, fields, quotes, stored, member, listed, inside⟩
    cases stored
    rw [List.mem_singleton] at member
    subst member
    cases listed
    rw [List.mem_singleton] at inside
    subst inside
    exact ⟨"evidence", "ab", names⟩
  · intro sha256
    have claim : resolveClaim (issuedLookup sampleHost sampleSources) (sampleReview sampleQuote) =
        .ok (sampleReview (resolvedQuote "evidence" "ab")) := by
      change ([sampleQuote].mapM (resolveQuote _) >>= _) = _
      rw [mapM_eq_ok_iff.2 (.cons (resolveQuote_of_names names) .nil)]
      rfl
    have resolved : resolvePassageQuotes (issuedLookup sampleHost sampleSources) (samplePayload sampleQuote) =
        .ok (samplePayload (resolvedQuote "evidence" "ab")) := by
      change ([sampleReview sampleQuote].mapM (resolveClaim _) >>= _) = _
      rw [mapM_eq_ok_iff.2 (.cons claim .nil)]
      rfl
    have quotes : [resolvedQuote "evidence" "ab"].mapM (checkQuote sha256 (linkedIds [⟨["evidence"]⟩] 1)
        sampleSources) = .error .quoteNotSubstantive := by
      have inside : "evidence" ∈ linkedIds [⟨["evidence"]⟩] 1 := by decide
      rw [List.mapM_cons, checkQuote_of_tooShort issued_sample inside tooShort_sample]
      rfl
    have review : checkReview sha256 [⟨["evidence"]⟩] sampleSources [] (sampleReview (resolvedQuote "evidence" "ab")) =
        .error .quoteNotSubstantive :=
      checkReview_quote_error (by rfl) (by rfl) (by rfl) (by rfl) quotes
    have root : rootOf (samplePayload (resolvedQuote "evidence" "ab")) =
        .ok (true, true, .arr [sampleReview (resolvedQuote "evidence" "ab")]) := by rfl
    have reviews : checkReviews sha256 [⟨["evidence"]⟩] sampleSources [] [sampleReview (resolvedQuote "evidence" "ab")] =
        .error .quoteNotSubstantive := by
      rw [checkReviews, review]
      rfl
    have refused : validateReview sha256 (samplePayload (resolvedQuote "evidence" "ab")) [⟨["evidence"]⟩]
        sampleSources = .error .quoteNotSubstantive :=
      validateReview_reviews_error root (by simp) reviews
    rw [validateRepair_of_resolved resolved]
    exact refused

end Obsion.Harness.Grounding
