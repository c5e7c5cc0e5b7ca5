import Obsion.Harness.Grounding

/-! # What an accepted review says

A review is accepted exactly where it names each claim once as supported, with quotations
from every evidence of the claim, and what it returns are places of these quotations. -/

namespace Obsion.Harness.Grounding

open Obsion.Lib

def HasFields (fields : Fields) (keys : List String) : Prop :=
  ∀ key, (∃ field ∈ fields, field.1 = key) ↔ key ∈ keys

structure Quotes (sources : Sources) (quote : Json) (evidenceId text : String) : Prop where
  shape : ∃ fields : Fields, quote = .obj fields ∧ HasFields fields ["evidence_id", "quote"] ∧
    fields.get? "evidence_id" = some (.str evidenceId) ∧ fields.get? "quote" = some (.str text)
  visible : strip text ≠ ""
  short : text.length ≤ 2000
  found : ∃ body ∈ sources.bodies evidenceId, text.toList <:+: body.toList ∧
    (8 ≤ (strip text).length ∨ strip text = strip body)

/-- An entry that supports the claim with the index by quotations from all its evidence. -/
structure Supports (claims : List Claim) (sources : Sources) (index : Nat) (fields : Fields)
    (quotes : List Json) : Prop where
  shape : HasFields fields ["claim_index", "verdict", "quotes"]
  named : fields.get? "claim_index" = some (.int index)
  supported : fields.get? "verdict" = some (.str "SUPPORTED")
  quoted : fields.get? "quotes" = some (.arr quotes)
  few : quotes.length ≤ 20
  exact : ∀ quote ∈ quotes, ∃ evidenceId text, Quotes sources quote evidenceId text
  linked : linkedIds claims index ≠ []
  covered : ∀ evidenceId, (∃ quote ∈ quotes, ∃ text, Quotes sources quote evidenceId text) ↔
    evidenceId ∈ linkedIds claims index

/-- The payload says yes twice and supports each claim once. -/
structure Grounded (payload : Json) (claims : List Claim) (sources : Sources) : Prop where
  root : ∃ (fields : Fields) (reviews : List Json), payload = .obj fields ∧
    HasFields fields ["answer_supported", "question_answered", "claims"] ∧
    fields.get? "answer_supported" = some (.bool true) ∧ fields.get? "question_answered" = some (.bool true) ∧
    fields.get? "claims" = some (.arr reviews) ∧
    ∃ indices, indices.Perm (List.range' 1 claims.length) ∧
      List.Forall₂ (fun index review => ∃ fields quotes, review = .obj fields ∧
        Supports claims sources index fields quotes) indices reviews

variable {fields : Fields} {text : String} {linked : List String} {quote payload : Json}
  {quotes : List Json} {checked : List CheckedClaim}

lemma hasFields_iff {keys : List String} : hasFields fields keys = true ↔ HasFields fields keys := by
  rw [hasFields, Bool.and_eq_true, List.all_eq_true, List.all_eq_true]
  constructor
  · rintro ⟨known, present⟩ key
    constructor
    · rintro ⟨field, mem, rfl⟩
      exact of_decide_eq_true (known field mem)
    exact fun listed => Fields.has_iff.1 (present key listed)
  · intro eq
    refine ⟨fun field mem => decide_eq_true ((eq field.1).1 ⟨field, mem, rfl⟩), ?_⟩
    exact fun key listed => Fields.has_iff.2 ((eq key).2 listed)

lemma isSubstantive_iff {body : String} :
    isSubstantive text body = true ↔ 8 ≤ (strip text).length ∨ strip text = strip body := by
  rw [isSubstantive, Bool.or_eq_true, decide_eq_true_iff, decide_eq_true_iff]

lemma checkQuote_eq_ok_iff {sha256 : String → String} {sources : Sources}
    {reference : QuoteReference} : checkQuote sha256 linked sources quote = .ok reference ↔
      ∃ evidenceId text, Quotes sources quote evidenceId text ∧ evidenceId ∈ linked ∧
        ∃ bodyIndex start, locate (sources.bodies evidenceId) text = some (bodyIndex, start) ∧
          reference = ⟨evidenceId, bodyIndex, start, text.length, sha256 text⟩ := by
  constructor
  · intro passes
    unfold checkQuote at passes
    split at passes
    · next fields =>
      split at passes
      · cases passes
      next shape =>
      split at passes
      · next evidenceId named =>
        split at passes
        · cases passes
        next linkedId =>
        split at passes
        · next text quoted =>
          split at passes
          · cases passes
          next fits =>
          split at passes
          · next bodyIndex start located =>
            cases passes
            rw [not_or, not_lt] at fits
            rw [not_not] at linkedId
            obtain ⟨body, stored, inside, substantive, -⟩ := locate_eq_some located
            refine ⟨evidenceId, text, ⟨⟨fields, rfl, ?_, named, quoted⟩, fits.1, fits.2, ?_⟩,
              linkedId, bodyIndex, start, located, rfl⟩
            · exact hasFields_iff.1 (by simpa using shape)
            exact ⟨body, List.mem_of_getElem? stored, of_decide_eq_true inside,
              isSubstantive_iff.1 substantive⟩
          · split at passes
            · cases passes
            cases passes
        · cases passes
      · cases passes
    · cases passes
  · rintro ⟨evidenceId, text, quotes, linkedId, bodyIndex, start, located, rfl⟩
    obtain ⟨fields, rfl, shape, named, quoted⟩ := quotes.shape
    have fits : ¬ (strip text = "" ∨ 2000 < text.length) := not_or.2 ⟨quotes.visible, not_lt.2 quotes.short⟩
    simp only [checkQuote, hasFields_iff.2 shape, named, quoted, located, Bool.not_true, Bool.false_eq_true,
      if_false, not_true, linkedId, if_neg fits]

variable {evidenceId : String} {index : Nat} {review : Json} {found : CheckedClaim}

lemma Quotes.unique {sources : Sources} {other words : String}
    (first : Quotes sources quote evidenceId text) (second : Quotes sources quote other words) :
    evidenceId = other ∧ text = words := by
  obtain ⟨fields, rfl, -, named, quoted⟩ := first.shape
  obtain ⟨again, eq, -, called, said⟩ := second.shape
  cases eq
  rw [named] at called
  rw [quoted] at said
  cases called
  cases said
  exact ⟨rfl, rfl⟩

lemma Quotes.located {sources : Sources} (quotes : Quotes sources quote evidenceId text) :
    ∃ bodyIndex start, locate (sources.bodies evidenceId) text = some (bodyIndex, start) := by
  obtain ⟨body, mem, inside, substantive⟩ := quotes.found
  have found : (locate (sources.bodies evidenceId) text).isSome = true :=
    locate_isSome_iff.2 ⟨body, mem, decide_eq_true inside, isSubstantive_iff.2 substantive⟩
  obtain ⟨⟨bodyIndex, start⟩, stored⟩ := Option.isSome_iff_exists.1 found
  exact ⟨bodyIndex, start, stored⟩

lemma mem_evidenceIds {sha256 : String → String} {sources : Sources}
    {references : List QuoteReference}
    (passes : List.Forall₂ (fun quote reference => checkQuote sha256 linked sources quote = .ok reference)
      quotes references) (evidenceId : String) :
    evidenceId ∈ references.map QuoteReference.evidenceId ↔
      ∃ quote ∈ quotes, ∃ text, Quotes sources quote evidenceId text := by
  induction passes with
  | nil => simp
  | @cons quote reference rest others first later ih =>
    obtain ⟨named, text, quoted, -, -, -, -, rfl⟩ := checkQuote_eq_ok_iff.1 first
    rw [List.map_cons, List.mem_cons, ih]
    constructor
    · rintro (rfl | ⟨other, mem, found⟩)
      · exact ⟨quote, List.mem_cons_self, text, quoted⟩
      · exact ⟨other, List.mem_cons_of_mem _ mem, found⟩
    · rintro ⟨other, mem, words, found⟩
      rcases List.mem_cons.1 mem with rfl | inside
      · exact .inl (found.unique quoted).1
      exact .inr ⟨other, inside, words, found⟩

lemma sameSet_iff {quoted : List String} :
    sameSet quoted linked = true ↔ ∀ id, id ∈ quoted ↔ id ∈ linked := by
  rw [sameSet, Bool.and_eq_true, List.all_eq_true, List.all_eq_true]
  constructor
  · rintro ⟨inLinked, inQuoted⟩ id
    exact ⟨fun mem => of_decide_eq_true (inLinked id mem), fun mem => of_decide_eq_true (inQuoted id mem)⟩
  intro eq
  exact ⟨fun id mem => decide_eq_true ((eq id).1 mem), fun id mem => decide_eq_true ((eq id).2 mem)⟩

/-! ## One entry -/

/-- What is kept of an entry that supports its claim. -/
structure Entry (sha256 : String → String) (claims : List Claim) (sources : Sources) (review : Json)
    (found : CheckedClaim) : Prop where
  supports : ∃ (fields : Fields) (quotes : List Json), review = .obj fields ∧
    Supports claims sources found.claimIndex fields quotes ∧
    List.Forall₂ (fun quote reference =>
      checkQuote sha256 (linkedIds claims found.claimIndex) sources quote = .ok reference) quotes found.quotes
  low : 1 ≤ found.claimIndex
  high : found.claimIndex ≤ claims.length
  verdict : found.verdict = "SUPPORTED"

lemma checkIndex_eq_ok_iff {claims : List Claim} :
    checkIndex claims checked fields = .ok index ↔ fields.get? "claim_index" = some (.int index) ∧ 1 ≤ index ∧
      index ≤ claims.length ∧ index ∉ checked.map CheckedClaim.claimIndex := by
  constructor
  · intro passes
    unfold checkIndex at passes
    split at passes
    · next value named =>
      split at passes
      · next inside =>
        cases passes
        rw [named, Int.toNat_of_nonneg (by omega)]
        exact ⟨rfl, by omega, by omega, inside.2.2⟩
      · cases passes
    · cases passes
  · rintro ⟨named, low, high, fresh⟩
    rw [checkIndex, named]
    exact if_pos ⟨by omega, by omega, fresh⟩

lemma checkVerdict_eq_ok_iff {verdict : String} :
    checkVerdict fields = .ok verdict ↔ fields.get? "verdict" = some (.str verdict) ∧ verdict ∈ verdicts := by
  constructor
  · intro passes
    unfold checkVerdict at passes
    split at passes
    · next value named =>
      split at passes
      · next known =>
        cases passes
        exact ⟨named, known⟩
      · cases passes
    · cases passes
  · rintro ⟨named, known⟩
    rw [checkVerdict, named]
    exact if_pos known

lemma quoteList_eq_ok_iff :
    quoteList fields = .ok quotes ↔ fields.get? "quotes" = some (.arr quotes) ∧ quotes.length ≤ 20 := by
  constructor
  · intro passes
    unfold quoteList at passes
    split at passes
    · next value named =>
      split at passes
      · cases passes
      next few =>
      cases passes
      exact ⟨named, not_lt.1 few⟩
    · cases passes
  · rintro ⟨named, few⟩
    rw [quoteList, named]
    exact if_neg (not_lt.2 few)

lemma entry_of_checkReview {sha256 : String → String} {claims : List Claim} {sources : Sources}
    (passes : checkReview sha256 claims sources checked review = .ok found)
    (supported : found.verdict = "SUPPORTED") :
    Entry sha256 claims sources review found ∧ found.claimIndex ∉ checked.map CheckedClaim.claimIndex := by
  unfold checkReview at passes
  split at passes
  · next fields =>
    split at passes
    · cases passes
    next shape =>
    obtain ⟨index, indexed, passes⟩ := of_bind_ok passes
    obtain ⟨verdict, judged, passes⟩ := of_bind_ok passes
    obtain ⟨quotes, listed, passes⟩ := of_bind_ok passes
    obtain ⟨references, quoted, passes⟩ := of_bind_ok passes
    split at passes
    · cases passes
    next complete =>
    cases passes
    obtain ⟨named, low, high, fresh⟩ := checkIndex_eq_ok_iff.1 indexed
    obtain ⟨given, -⟩ := checkVerdict_eq_ok_iff.1 judged
    obtain ⟨stored, few⟩ := quoteList_eq_ok_iff.1 listed
    have each := mapM_eq_ok_iff.1 quoted
    change verdict = "SUPPORTED" at supported
    rw [not_and, not_or, Bool.not_eq_true, Bool.not_eq_false'] at complete
    obtain ⟨linked, covered⟩ := complete supported
    refine ⟨⟨⟨fields, quotes, rfl, ?_, each⟩, low, high, supported⟩, fresh⟩
    refine ⟨hasFields_iff.1 (by simpa using shape), named, supported ▸ given, stored, few, ?_, linked, ?_⟩
    · intro quote mem
      obtain ⟨place, inside, rfl⟩ := List.mem_iff_getElem.1 mem
      have sizes := each.length_eq
      obtain ⟨evidenceId, text, quotes, -⟩ := checkQuote_eq_ok_iff.1 (each.get inside (sizes ▸ inside))
      exact ⟨evidenceId, text, quotes⟩
    · intro evidenceId
      rw [← mem_evidenceIds each evidenceId]
      exact sameSet_iff.1 covered evidenceId
  · cases passes

lemma checkReview_of_entry {sha256 : String → String} {claims : List Claim} {sources : Sources}
    (entry : Entry sha256 claims sources review found)
    (fresh : found.claimIndex ∉ checked.map CheckedClaim.claimIndex) :
    checkReview sha256 claims sources checked review = .ok found := by
  obtain ⟨fields, quotes, rfl, supports, each⟩ := entry.supports
  have index : checkIndex claims checked fields = .ok found.claimIndex :=
    checkIndex_eq_ok_iff.2 ⟨supports.named, entry.low, entry.high, fresh⟩
  have verdict : checkVerdict fields = .ok "SUPPORTED" :=
    checkVerdict_eq_ok_iff.2 ⟨supports.supported, by decide⟩
  have listed : quoteList fields = .ok quotes := quoteList_eq_ok_iff.2 ⟨supports.quoted, supports.few⟩
  have covered : sameSet (found.quotes.map QuoteReference.evidenceId) (linkedIds claims found.claimIndex) = true := by
    refine sameSet_iff.2 fun evidenceId => ?_
    rw [mem_evidenceIds each evidenceId]
    exact supports.covered evidenceId
  rw [checkReview, hasFields_iff.2 supports.shape, index, verdict, listed]
  change (quotes.mapM (checkQuote sha256 (linkedIds claims found.claimIndex) sources) >>= _) = _
  rw [mapM_eq_ok_iff.2 each]
  have complete : ¬ ("SUPPORTED" = "SUPPORTED" ∧ (linkedIds claims found.claimIndex = [] ∨
      (!sameSet (found.quotes.map QuoteReference.evidenceId) (linkedIds claims found.claimIndex)) = true)) := by
    rw [covered]
    rintro ⟨-, none_ | wrong⟩
    · exact supports.linked none_
    · cases wrong
  refine (if_neg complete).trans ?_
  rw [← entry.verdict]

lemma Supports.references {claims : List Claim} {sources : Sources}
    (supports : Supports claims sources index fields quotes) (sha256 : String → String) :
    ∃ references, List.Forall₂ (fun quote reference =>
      checkQuote sha256 (linkedIds claims index) sources quote = .ok reference) quotes references := by
  have each : ∀ quote ∈ quotes, ∃ reference,
      checkQuote sha256 (linkedIds claims index) sources quote = .ok reference := by
    intro quote mem
    obtain ⟨evidenceId, text, quoted⟩ := supports.exact quote mem
    obtain ⟨bodyIndex, start, located⟩ := quoted.located
    have linked := (supports.covered evidenceId).1 ⟨quote, mem, text, quoted⟩
    exact ⟨_, checkQuote_eq_ok_iff.2 ⟨evidenceId, text, quoted, linked, bodyIndex, start, located, rfl⟩⟩
  exact exists_forall₂ each

section

variable {sha256 : String → String} {claims : List Claim} {sources : Sources}

variable {checked : List CheckedClaim} {reviews : List Json}

variable {final found : List CheckedClaim} {indices : List Nat}

lemma entries_of_checkReviews
    (passes : checkReviews sha256 claims sources checked reviews = .ok final)
    (supported : ∀ item ∈ final, item.verdict = "SUPPORTED")
    (distinct : (checked.map CheckedClaim.claimIndex).Nodup) :
    ∃ found, final = checked ++ found ∧ List.Forall₂ (Entry sha256 claims sources) reviews found ∧
      (final.map CheckedClaim.claimIndex).Nodup := by
  induction reviews generalizing checked with
  | nil =>
    cases passes
    exact ⟨[], (List.append_nil _).symm, .nil, distinct⟩
  | cons review rest ih =>
    obtain ⟨first, passed, passes⟩ := of_bind_ok passes
    have kept : ∀ before : List CheckedClaim, ∀ after, checkReviews sha256 claims sources before after = .ok final →
        ∀ item ∈ before, item ∈ final := by
      intro before after
      induction after generalizing before with
      | nil =>
        intro run item mem
        cases run
        exact mem
      | cons next more stays =>
        intro run item mem
        obtain ⟨second, -, run⟩ := of_bind_ok run
        exact stays _ run item (List.mem_append_left _ mem)
    have said := supported first (kept _ _ passes first (List.mem_append_right _ (List.mem_singleton.2 rfl)))
    obtain ⟨entry, fresh⟩ := entry_of_checkReview passed said
    have apart : ((checked ++ [first]).map CheckedClaim.claimIndex).Nodup := by
      rw [List.map_append, List.map_singleton]
      exact distinct.append (List.nodup_singleton _) (List.disjoint_singleton.2 fresh)
    obtain ⟨found, rfl, entries, nodup⟩ := ih passes apart
    refine ⟨first :: found, ?_, .cons entry entries, nodup⟩
    rw [List.append_assoc, List.singleton_append]

lemma checkReviews_of_entries (entries : List.Forall₂ (Entry sha256 claims sources) reviews found)
    (distinct : ((checked ++ found).map CheckedClaim.claimIndex).Nodup) :
    checkReviews sha256 claims sources checked reviews = .ok (checked ++ found) := by
  induction entries generalizing checked with
  | nil => rw [List.append_nil, checkReviews]
  | @cons review first rest others entry later ih =>
    have fresh : first.claimIndex ∉ checked.map CheckedClaim.claimIndex := by
      rw [List.map_append, List.map_cons] at distinct
      exact fun mem => (List.nodup_append'.1 distinct).2.2 mem List.mem_cons_self
    have step : checkReview sha256 claims sources checked review = .ok first := checkReview_of_entry entry fresh
    rw [checkReviews, step]
    have run : checkReviews sha256 claims sources (checked ++ [first]) rest = .ok ((checked ++ [first]) ++ others) :=
      ih (by rw [List.append_assoc]; exact distinct)
    rw [List.append_assoc] at run
    exact run

lemma perm_range_of_nodup {count : Nat} (distinct : indices.Nodup)
    (inside : ∀ index ∈ indices, 1 ≤ index ∧ index ≤ count) (size : indices.length = count) :
    indices.Perm (List.range' 1 count) := by
  have subset : indices ⊆ List.range' 1 count := by
    intro index mem
    have bounds := inside index mem
    rw [List.mem_range'_1]
    omega
  exact (List.subperm_of_subset distinct subset).perm_of_length_le (by rw [List.length_range', size])

lemma indices_of_entries (entries : List.Forall₂ (Entry sha256 claims sources) reviews found) :
    (∀ index ∈ found.map CheckedClaim.claimIndex, 1 ≤ index ∧ index ≤ claims.length) ∧
      List.Forall₂ (fun index review => ∃ fields quotes, review = Json.obj fields ∧
        Supports claims sources index fields quotes) (found.map CheckedClaim.claimIndex) reviews := by
  induction entries with
  | nil => exact ⟨nofun, .nil⟩
  | @cons review first rest others entry later ih =>
    constructor
    · intro index mem
      rcases List.mem_cons.1 mem with rfl | inside
      · exact ⟨entry.low, entry.high⟩
      exact ih.1 index inside
    · obtain ⟨fields, quotes, shape, supports, -⟩ := entry.supports
      exact .cons ⟨fields, quotes, shape, supports⟩ ih.2

lemma entries_of_indices (sha256 : String → String)
    (inside : ∀ index ∈ indices, 1 ≤ index ∧ index ≤ claims.length)
    (supports : List.Forall₂ (fun index review => ∃ fields quotes, review = Json.obj fields ∧
      Supports claims sources index fields quotes) indices reviews) :
    ∃ found, List.Forall₂ (Entry sha256 claims sources) reviews found ∧
      found.map CheckedClaim.claimIndex = indices := by
  induction supports with
  | nil => exact ⟨[], .nil, rfl⟩
  | @cons index review others rest first later ih =>
    obtain ⟨fields, quotes, rfl, supports⟩ := first
    obtain ⟨references, each⟩ := supports.references sha256
    obtain ⟨found, entries, eq⟩ := ih fun other mem => inside other (List.mem_cons_of_mem _ mem)
    have bounds := inside index List.mem_cons_self
    refine ⟨⟨index, "SUPPORTED", references⟩ :: found, .cons ?_ entries, by rw [List.map_cons, eq]⟩
    exact ⟨⟨fields, quotes, rfl, supports, each⟩, bounds.1, bounds.2, rfl⟩

def Placed (sha256 : String → String) (sources : Sources) (reference : QuoteReference) : Prop :=
  ∃ body, (sources.bodies reference.evidenceId)[reference.bodyIndex]? = some body ∧ 0 ≤ reference.start ∧
    sha256 (slice body reference.start (reference.start + reference.length)) = reference.sha256

lemma placed_of_checkQuote {linked : List String} {quote : Json} {reference : QuoteReference}
    (passes : checkQuote sha256 linked sources quote = .ok reference) : Placed sha256 sources reference := by
  obtain ⟨evidenceId, text, -, -, bodyIndex, start, located, rfl⟩ := checkQuote_eq_ok_iff.1 passes
  obtain ⟨body, stored, inside, -, rfl⟩ := locate_eq_some located
  obtain ⟨low, eq⟩ := slice_find inside
  exact ⟨body, stored, low, by rw [eq]⟩

lemma placed_of_checkReview {review : Json} {found : CheckedClaim}
    (passes : checkReview sha256 claims sources checked review = .ok found) :
    ∀ reference ∈ found.quotes, Placed sha256 sources reference := by
  unfold checkReview at passes
  split at passes
  · split at passes
    · cases passes
    obtain ⟨index, -, passes⟩ := of_bind_ok passes
    obtain ⟨verdict, -, passes⟩ := of_bind_ok passes
    obtain ⟨quotes, -, passes⟩ := of_bind_ok passes
    obtain ⟨references, quoted, passes⟩ := of_bind_ok passes
    split at passes
    · cases passes
    cases passes
    intro reference mem
    obtain ⟨quote, -, found⟩ := exists_of_forall₂_right (mapM_eq_ok_iff.1 quoted) mem
    exact placed_of_checkQuote found
  · cases passes

lemma placed_of_checkReviews
    (passes : checkReviews sha256 claims sources checked reviews = .ok final)
    (before : ∀ item ∈ checked, ∀ reference ∈ item.quotes, Placed sha256 sources reference) :
    ∀ item ∈ final, ∀ reference ∈ item.quotes, Placed sha256 sources reference := by
  induction reviews generalizing checked with
  | nil =>
    cases passes
    exact before
  | cons review rest ih =>
    obtain ⟨first, passed, passes⟩ := of_bind_ok passes
    refine ih passes fun item mem => ?_
    rcases List.mem_append.1 mem with old | new
    · exact before item old
    rw [List.mem_singleton.1 new]
    exact placed_of_checkReview passed

end

lemma rootOf_eq_ok_iff {supported answered : Bool} {found : Json} :
    rootOf payload = .ok (supported, answered, found) ↔ ∃ fields : Fields, payload = .obj fields ∧
      HasFields fields ["answer_supported", "question_answered", "claims"] ∧
      fields.get? "answer_supported" = some (.bool supported) ∧
      fields.get? "question_answered" = some (.bool answered) ∧ (fields.get? "claims").getD .null = found := by
  constructor
  · intro passes
    unfold rootOf at passes
    split at passes
    · next fields =>
      split at passes
      · cases passes
      next shape =>
      split at passes
      · next first second =>
        cases passes
        exact ⟨fields, rfl, hasFields_iff.1 (by simpa using shape), first, second, rfl⟩
      · cases passes
    · cases passes
  · rintro ⟨fields, rfl, shape, first, second, rfl⟩
    simp only [rootOf, hasFields_iff.2 shape, first, second, Bool.not_true, Bool.false_eq_true, if_false]

lemma get?_of_getD_arr {key : String} {values : List Json}
    (listed : (fields.get? key).getD .null = .arr values) : fields.get? key = some (.arr values) := by
  cases stored : fields.get? key with
  | none =>
    rw [stored] at listed
    cases listed
  | some value =>
    rw [stored] at listed
    exact congrArg some listed

lemma all_supported_iff {items : List CheckedClaim} :
    items.all (fun item => item.verdict = "SUPPORTED") = true ↔ ∀ item ∈ items, item.verdict = "SUPPORTED" := by
  rw [List.all_eq_true]
  exact ⟨fun all item mem => of_decide_eq_true (all item mem),
    fun all item mem => decide_eq_true (all item mem)⟩

lemma grounded_of_accepted {sha256 : String → String} {claims : List Claim} {sources : Sources}
    (accepted : validateReview sha256 payload claims sources = .ok (true, checked)) :
    claims ≠ [] ∧ Grounded payload claims sources := by
  obtain ⟨⟨supported, answered, found⟩, root, passes⟩ := of_bind_ok accepted
  dsimp only at passes
  split at passes
  · next reviews =>
    split at passes
    · cases passes
    next sizes =>
    rw [not_or, not_not] at sizes
    obtain ⟨final, run, passes⟩ := of_bind_ok passes
    have flags := congrArg Prod.fst (Except.ok.inj passes)
    change (supported && answered && final.all _) = true at flags
    rw [Bool.and_eq_true, Bool.and_eq_true, all_supported_iff] at flags
    obtain ⟨⟨rfl, rfl⟩, all⟩ := flags
    obtain ⟨fields, rfl, shape, first, second, listed⟩ := rootOf_eq_ok_iff.1 root
    obtain ⟨entries, whole, each, distinct⟩ := entries_of_checkReviews run all List.nodup_nil
    rw [whole, List.nil_append] at distinct
    obtain ⟨inside, supports⟩ := indices_of_entries each
    refine ⟨sizes.1, ⟨fields, reviews, rfl, shape, first, second, get?_of_getD_arr listed,
      entries.map CheckedClaim.claimIndex, ?_, supports⟩⟩
    refine perm_range_of_nodup distinct inside ?_
    rw [List.length_map, ← each.length_eq, sizes.2]
  · cases passes

lemma accepted_of_grounded (sha256 : String → String) {claims : List Claim} {sources : Sources}
    (some_ : claims ≠ []) (grounded : Grounded payload claims sources) :
    ∃ checked, validateReview sha256 payload claims sources = .ok (true, checked) := by
  obtain ⟨fields, reviews, rfl, shape, first, second, listed, indices, all, supports⟩ := grounded.root
  have inside : ∀ index ∈ indices, 1 ≤ index ∧ index ≤ claims.length := by
    intro index mem
    have bounds := List.mem_range'_1.1 (all.mem_iff.1 mem)
    omega
  obtain ⟨found, entries, eq⟩ := entries_of_indices sha256 inside supports
  have distinct : (([] ++ found).map CheckedClaim.claimIndex).Nodup := by
    rw [List.nil_append, eq]
    exact all.nodup_iff.2 List.nodup_range'
  have run := checkReviews_of_entries entries distinct
  have root : rootOf (.obj fields) = .ok (true, true, .arr reviews) :=
    rootOf_eq_ok_iff.2 ⟨fields, rfl, shape, first, second, by rw [listed]; rfl⟩
  have sizes : ¬ (claims = [] ∨ reviews.length ≠ claims.length) := by
    rw [not_or, not_not]
    refine ⟨some_, ?_⟩
    rw [← supports.length_eq, all.length_eq, List.length_range']
  have supported : found.all (fun item => item.verdict = "SUPPORTED") = true := by
    rw [all_supported_iff]
    intro item mem
    obtain ⟨review, -, entry⟩ := exists_of_forall₂_right entries mem
    exact entry.verdict
  refine ⟨found.insertionSort fun left right => left.claimIndex ≤ right.claimIndex, ?_⟩
  rw [validateReview, root]
  refine (if_neg sizes).trans ?_
  rw [run]
  change Except.ok (true && true && found.all _, _) = _
  rw [supported]
  rfl

/-- A review of at least one claim is accepted exactly where it is grounded, and every
reference that a review returns is the place of a text with the digest of the reference. -/
theorem validateReview_accepted_iff (sha256 : String → String) (payload : Json) (claims : List Claim)
    (sources : Sources) :
    ((∃ checked, validateReview sha256 payload claims sources = .ok (true, checked)) ↔
      claims ≠ [] ∧ Grounded payload claims sources) ∧
    ∀ accepted checked, validateReview sha256 payload claims sources = .ok (accepted, checked) →
      ∀ item ∈ checked, ∀ reference ∈ item.quotes, Placed sha256 sources reference := by
  constructor
  · constructor
    · rintro ⟨checked, accepted⟩
      exact grounded_of_accepted accepted
    rintro ⟨some_, grounded⟩
    exact accepted_of_grounded sha256 some_ grounded
  · intro accepted checked returned item member
    obtain ⟨⟨supported, answered, found⟩, -, passes⟩ := of_bind_ok returned
    dsimp only at passes
    split at passes
    · split at passes
      · cases passes
      obtain ⟨final, run, passes⟩ := of_bind_ok passes
      cases passes
      have stored : item ∈ final := (List.perm_insertionSort _ final).mem_iff.1 member
      exact placed_of_checkReviews run (fun _ none_ => absurd none_ List.not_mem_nil) item stored
    · cases passes

/-- The review of an answer without claims, which says yes twice and has no entries. -/
def emptyReview : Json :=
  .obj [("answer_supported", .bool true), ("question_answered", .bool true), ("claims", .arr [])]

theorem empty_review_refused : Grounded emptyReview [] [] ∧
    ∀ sha256 : String → String, validateReview sha256 emptyReview [] [] = .error .claimCoverageInvalid := by
  refine ⟨⟨_, [], rfl, hasFields_iff.1 (by decide), rfl, rfl, rfl, [], List.Perm.refl [], .nil⟩, fun _ => rfl⟩

end Obsion.Harness.Grounding
