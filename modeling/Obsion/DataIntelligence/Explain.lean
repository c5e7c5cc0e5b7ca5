import Obsion.DataIntelligence.SqlPolicy

/-! # The options of `EXPLAIN`

The guard compares the parts of the option list with two words.  It finds an option that is
written as the bare word, and no other spelling of it. -/

namespace Obsion.DataIntelligence

open Obsion.Lib

def isIdentifier (char : Char) : Bool := char.isAlphanum || char == '_'

/-- The name of an option, as PostgreSQL reads it: a quoted name as it stands, or a word in
lower case. -/
def optionName (item : List Char) : List Char :=
  match item.dropWhile isSpace with
  | [] => []
  | char :: rest =>
    if char = Char.ofNat 34 then rest.takeWhile (· ≠ Char.ofNat 34)
    else ((char :: rest).takeWhile isIdentifier).map Char.toLower

def executingNames : List (List Char) := ["analyze".toList, "analyse".toList, "buffers".toList]

def Harmless (options : List Char) : Prop :=
  ∀ item ∈ splitComma options, optionName item ∉ executingNames

def optionsIn (sql : String) : List Char :=
  match explainPrefix (stripChars sql.toList) with
  | some found => stripChars found.1
  | none => []

/-- An executing option is written as the bare word, with nothing else between the commas. -/
def WrittenBare (options : List Char) : Prop :=
  ∀ item ∈ splitComma options, optionName item ∈ executingNames →
    item.flatMap upperChar = "ANALYZE".toList ∨ item.flatMap upperChar = "BUFFERS".toList

/-! ## The parts of a list -/

lemma splitComma_ne_nil (text : List Char) : splitComma text ≠ [] := by
  cases text with
  | nil => exact List.cons_ne_nil _ _
  | cons char rest =>
    rw [splitComma]
    split
    · exact List.cons_ne_nil _ _
    split
    · exact List.cons_ne_nil _ _
    exact List.cons_ne_nil _ _

lemma splitComma_comma (rest : List Char) : splitComma (',' :: rest) = [] :: splitComma rest := by
  rw [splitComma, if_pos rfl]

lemma splitComma_cons {char : Char} (plain : char ≠ ',') (rest : List Char) :
    ∃ first more, splitComma rest = first :: more ∧ splitComma (char :: rest) = (char :: first) :: more := by
  rw [splitComma, if_neg plain]
  cases parts : splitComma rest with
  | nil => exact absurd parts (splitComma_ne_nil rest)
  | cons first more => exact ⟨first, more, rfl, rfl⟩

lemma splitComma_append {front : List Char} (plain : ',' ∉ front) (rest : List Char) :
    ∃ first more, splitComma rest = first :: more ∧ splitComma (front ++ rest) = (front ++ first) :: more := by
  induction front with
  | nil =>
    cases parts : splitComma rest with
    | nil => exact absurd parts (splitComma_ne_nil rest)
    | cons first more => exact ⟨first, more, rfl, parts⟩
  | cons char front ih =>
    rw [List.mem_cons, not_or] at plain
    obtain ⟨first, more, parts, whole⟩ := ih plain.2
    obtain ⟨head, tail, inner, outer⟩ := splitComma_cons (Ne.symm plain.1) (front ++ rest)
    rw [whole] at inner
    cases inner
    exact ⟨first, more, parts, outer⟩

lemma splitComma_flatMap {f : Char → List Char} (keeps : f ',' = [','])
    (plain : ∀ char, char ≠ ',' → ',' ∉ f char) (text : List Char) :
    splitComma (text.flatMap f) = (splitComma text).map fun item => item.flatMap f := by
  induction text with
  | nil => rfl
  | cons char rest ih =>
    rw [List.flatMap_cons]
    by_cases comma : char = ','
    · subst comma
      rw [keeps, List.singleton_append, splitComma_comma, splitComma_comma, ih]
      rfl
    · obtain ⟨first, more, parts, whole⟩ := splitComma_append (plain char comma) (rest.flatMap f)
      obtain ⟨head, tail, inner, outer⟩ := splitComma_cons comma rest
      rw [whole, outer, List.map_cons, List.flatMap_cons]
      rw [ih, inner, List.map_cons] at parts
      cases parts
      rfl

lemma toUpper_ne_comma {char : Char} (plain : char ≠ ',') : char.toUpper ≠ ',' := by
  intro eq
  delta Char.toUpper at eq
  split at eq
  · next lower =>
    have value := congrArg (fun found => found.val.toNat) eq
    have low := UInt32.le_iff_toNat_le.1 lower.1
    have high := UInt32.le_iff_toNat_le.1 lower.2
    have first : ('a'.val).toNat = 97 := rfl
    have last : ('z'.val).toNat = 122 := rfl
    have shift : ('A'.val - 'a'.val).toNat = 4294967264 := rfl
    have comma : (','.val).toNat = 44 := rfl
    simp only [UInt32.toNat_add] at value
    rw [shift, comma] at value
    omega
  · exact plain eq

lemma comma_notMem_upperChar (char : Char) (plain : char ≠ ',') : ',' ∉ upperChar char := by
  unfold upperChar
  split
  all_goals try decide
  rw [List.mem_singleton]
  exact Ne.symm (toUpper_ne_comma plain)

lemma splitComma_collapse (text : List Char) (pending : Bool) :
    ∃ first more front rest, splitComma text = first :: more ∧
      splitComma (collapse pending text) = front :: rest ∧
      ((∀ char ∈ first, isSpace char = false) → pending = false → front = first) ∧
      ∀ item ∈ more, (∀ char ∈ item, isSpace char = false) → item ∈ rest := by
  induction text generalizing pending with
  | nil => exact ⟨[], [], [], [], rfl, rfl, fun _ _ => rfl, fun _ => nofun⟩
  | cons char text ih =>
    by_cases space : isSpace char = true
    · have plain : char ≠ ',' := by
        rintro rfl
        cases space
      obtain ⟨first, more, front, rest, parts, collapsed, -, later⟩ := ih true
      obtain ⟨head, tail, inner, outer⟩ := splitComma_cons plain text
      rw [parts] at inner
      cases inner
      refine ⟨char :: first, more, front, rest, outer, ?_, fun none_ => ?_, later⟩
      · rw [collapse, if_pos space, collapsed]
      rw [none_ char List.mem_cons_self] at space
      cases space
    · rw [Bool.not_eq_true] at space
      obtain ⟨first, more, front, rest, parts, collapsed, eq, later⟩ := ih false
      by_cases comma : char = ','
      · subst comma
        have all (item : List Char) (mem : item ∈ first :: more)
            (none_ : ∀ char ∈ item, isSpace char = false) : item ∈ front :: rest := by
          rcases List.mem_cons.1 mem with rfl | mem
          · rw [eq none_ rfl]
            exact List.mem_cons_self
          exact List.mem_cons_of_mem _ (later item mem none_)
        cases pending with
        | false =>
          refine ⟨[], first :: more, [], front :: rest, ?_, ?_, fun _ _ => rfl, all⟩
          · rw [splitComma_comma, parts]
          rw [collapse, space, ← collapsed]
          exact splitComma_comma _
        | true =>
          refine ⟨[], first :: more, [' '], front :: rest, ?_, ?_, fun _ => nofun, all⟩
          · rw [splitComma_comma, parts]
          obtain ⟨head, tail, inner, outer⟩ :=
            splitComma_cons (show ' ' ≠ ',' by decide) (',' :: collapse false text)
          rw [splitComma_comma, collapsed] at inner
          cases inner
          rw [collapse, space]
          exact outer
      · obtain ⟨head, tail, inner, outer⟩ := splitComma_cons comma text
        rw [parts] at inner
        cases inner
        obtain ⟨head, tail, inner, collapsedOuter⟩ := splitComma_cons comma (collapse false text)
        rw [collapsed] at inner
        cases inner
        cases pending with
        | false =>
          refine ⟨char :: first, more, char :: front, rest, outer, ?_, fun none_ _ => ?_, later⟩
          · rw [collapse, space, ← collapsedOuter]
            rfl
          rw [eq (fun other mem => none_ other (List.mem_cons_of_mem _ mem)) rfl]
        | true =>
          obtain ⟨head, tail, inner, spaced⟩ :=
            splitComma_cons (show ' ' ≠ ',' by decide) (char :: collapse false text)
          rw [collapsedOuter] at inner
          cases inner
          refine ⟨char :: first, more, ' ' :: char :: front, rest, outer, ?_, fun _ => nofun, later⟩
          rw [collapse, space]
          exact spaced

lemma mem_splitComma_collapse {text item : List Char} (part : item ∈ splitComma text)
    (none_ : ∀ char ∈ item, isSpace char = false) : item ∈ splitComma (collapse false text) := by
  obtain ⟨first, more, front, rest, parts, collapsed, eq, later⟩ := splitComma_collapse text false
  rw [parts] at part
  rw [collapsed]
  rcases List.mem_cons.1 part with rfl | part
  · rw [eq none_ rfl]
    exact List.mem_cons_self
  exact List.mem_cons_of_mem _ (later item part none_)

lemma upperChar_of_isSpace {char : Char} (space : isSpace char = true) : char ∈ upperChar char := by
  unfold upperChar
  split
  case h_11 =>
    rw [List.mem_singleton]
    delta Char.toUpper
    split
    · next lower =>
      have low : 97 ≤ char.toNat := UInt32.le_iff_toNat_le.1 lower.1
      have high : char.toNat ≤ 122 := UInt32.le_iff_toNat_le.1 lower.2
      simp only [isSpace, Bool.or_eq_true, Bool.and_eq_true, decide_eq_true_eq, beq_iff_eq] at space
      omega
    · rfl
  all_goals
    next code =>
      rw [isSpace, code] at space
      exact absurd space (by decide)

lemma mem_optionTokens {options item word : List Char} (part : item ∈ splitComma options)
    (bare : item.flatMap upperChar = word) (plain : ∀ char ∈ word, isSpace char = false) :
    word ∈ optionTokens options := by
  have none_ : ∀ char ∈ item, isSpace char = false := by
    intro char mem
    by_contra space
    rw [Bool.not_eq_false] at space
    have inside : char ∈ word := by
      rw [← bare]
      exact List.mem_flatMap.2 ⟨char, mem, upperChar_of_isSpace space⟩
    rw [plain char inside] at space
    cases space
  rw [optionTokens, splitComma_flatMap (by decide) comma_notMem_upperChar]
  exact List.mem_map.2 ⟨item, mem_splitComma_collapse part none_, bare⟩

section

variable {sqlglot : Sqlglot} {sql : String} {prepared : Prepared}

lemma prepareSql_explain (accepted : prepareSql sqlglot sql = .ok prepared)
    (explain : prepared.statementType.str = "EXPLAIN") :
    prepared.options = optionsIn sql ∧ "ANALYZE".toList ∉ optionTokens (optionsIn sql) ∧
      "BUFFERS".toList ∉ optionTokens (optionsIn sql) ∧
      prepared.explainPrefix = if (optionsIn sql).isEmpty then "EXPLAIN "
        else "EXPLAIN (" ++ String.ofList (optionsIn sql) ++ ") " := by
  rw [prepareSql] at accepted
  dsimp only at accepted
  split at accepted
  · cases accepted
  cases found : explainPrefix (stripChars sql.toList) with
  | none =>
    rw [found] at accepted
    cases accepted
    exact absurd explain (show ("SELECT" : String) ≠ "EXPLAIN" by decide)
  | some options =>
    rw [found] at accepted
    dsimp only at accepted
    have eq : optionsIn sql = stripChars options.1 := by rw [optionsIn, found]
    split at accepted
    · cases accepted
    next harmless =>
    rw [not_or] at harmless
    cases accepted
    rw [eq]
    exact ⟨rfl, harmless.1, harmless.2, rfl⟩

end

def sampleExplain (options : String) : Except SqlError SqlValidationResult :=
  validate (sampleSqlglot [(sampleStatement, sampleSelect)] sampleNormalized) samplePolicy
    ("EXPLAIN (" ++ options ++ ") " ++ sampleStatement)

end Obsion.DataIntelligence
