import Obsion.Capabilities.Exposure

/-! # When personal labels stay behind

Payloads that differ in personal labels have equal results exactly when no record that
makes an event exposes one. -/

namespace Obsion.Capabilities

open Security (redact redactFields redactText sensitiveKey)

/-! ## Another record in the place of a record -/

def Swaps (record other : Fields) (left right : Except Failure (List Fields)) : Prop :=
  ∃ front back, left = .ok (front ++ record :: back) ∧ right = .ok (front ++ other :: back)

lemma mapM_swap {α β : Type} {f : α → Option β} {front back : List α} {item new : α} {value other : β}
    {found : List β} (run : (front ++ item :: back).mapM f = some found) (first : f item = some value)
    (second : f new = some other) : ∃ before after, found = before ++ value :: after ∧
      (front ++ new :: back).mapM f = some (before ++ other :: after) := by
  rw [List.mapM_append, List.mapM_cons, first] at run
  rw [List.mapM_append, List.mapM_cons, second]
  cases left : front.mapM f with
  | none =>
    rw [left] at run
    cases run
  | some before =>
    rw [left] at run
    cases right : back.mapM f with
    | none =>
      rw [right] at run
      cases run
    | some after =>
      rw [right] at run
      cases run
      exact ⟨before, after, rfl, rfl⟩

lemma ItemsAlike.replace {front back : List Json} {record other : Fields}
    (alike : RecordAlike record other) :
    ItemsAlike (front ++ .obj record :: back) (front ++ .obj other :: back) :=
  List.rel_append (ItemsAlike.refl front)
    (.cons (Or.inr ⟨record, other, rfl, rfl, alike⟩) (ItemsAlike.refl back))

lemma seriesPoints_alike {left right : Fields} (alike : RecordAlike left right) :
    seriesPoints left = seriesPoints right := by
  rw [seriesPoints, seriesPoints, (alike.found "values").eq (by decide),
    (alike.found "value").eq (by decide)]

section
variable {record other : Fields} (alike : RecordAlike record other)
include alike

omit alike in
lemma mappingRecords_swap {front back : List Json} {found : List Fields}
    (run : mappingRecords (front ++ .obj record :: back) = .ok found) :
    Swaps record other (mappingRecords (front ++ .obj record :: back))
      (mappingRecords (front ++ .obj other :: back)) := by
  unfold mappingRecords at run ⊢
  cases read : (front ++ .obj record :: back).mapM Json.fields? with
  | none =>
    rw [read] at run
    cases run
  | some records =>
    obtain ⟨before, after, rfl, swapped⟩ := mapM_swap read rfl (Json.fields?_obj other)
    rw [swapped]
    exact ⟨before, after, rfl, rfl⟩

lemma seriesRecords_swap {front back : List Json} {found : List Fields}
    (bare : seriesPoints record = none)
    (run : seriesRecords (front ++ .obj record :: back) = .ok found) :
    Swaps record other (seriesRecords (front ++ .obj record :: back))
      (seriesRecords (front ++ .obj other :: back)) := by
  have single : ∀ series, seriesPoints series = none → recordsOfSeries series = [series] := by
    intro series bare
    rw [recordsOfSeries, bare]
  unfold seriesRecords at run ⊢
  cases read : (front ++ .obj record :: back).mapM Json.fields? with
  | none =>
    rw [read] at run
    cases run
  | some records =>
    obtain ⟨before, after, rfl, swapped⟩ := mapM_swap read rfl (Json.fields?_obj other)
    rw [swapped]
    refine ⟨before.flatMap recordsOfSeries, after.flatMap recordsOfSeries, ?_, ?_⟩
    · simp only [List.flatMap_append, List.flatMap_cons, single record bare, List.singleton_append]
    simp only [List.flatMap_append, List.flatMap_cons,
      single other (seriesPoints_alike alike ▸ bare), List.singleton_append]

lemma passedSeries_swap {values : List Json} {found : List Fields}
    (run : seriesRecords values = .ok found) (mem : record ∈ passedSeries values) :
    ∃ others, ItemsAlike values others ∧
      Swaps record other (seriesRecords values) (seriesRecords others) := by
  obtain ⟨mem, bare⟩ := List.mem_filter.1 mem
  obtain ⟨item, itemIn, fields⟩ := List.mem_filterMap.1 mem
  obtain ⟨front, back, rfl⟩ := List.append_of_mem itemIn
  cases item <;> cases fields
  exact ⟨_, .replace alike, seriesRecords_swap alike (Option.isNone_iff_eq_none.1 bare) run⟩

lemma mapping_swap {values : List Json} {found : List Fields}
    (run : mappingRecords values = .ok found) (mem : record ∈ values.filterMap Json.fields?) :
    ∃ others, ItemsAlike values others ∧
      Swaps record other (mappingRecords values) (mappingRecords others) := by
  obtain ⟨item, itemIn, fields⟩ := List.mem_filterMap.1 mem
  obtain ⟨front, back, rfl⟩ := List.append_of_mem itemIn
  cases item <;> cases fields
  exact ⟨_, .replace alike, mappingRecords_swap run⟩

lemma passedList_swap {key : String} {values : List Json} {found : List Fields}
    (run : listRecords key values = .ok found) (mem : record ∈ passedList key values) :
    ∃ others, ItemsAlike values others ∧
      Swaps record other (listRecords key values) (listRecords key others) := by
  unfold passedList at mem
  unfold listRecords at run
  split at run
  · next series =>
    rw [if_pos series] at mem
    obtain ⟨others, items, swaps⟩ := passedSeries_swap alike run mem
    refine ⟨others, items, ?_⟩
    rw [listRecords, if_pos series, listRecords, if_pos ⟨series.1, items.any_hasPoints ▸ series.2⟩]
    exact swaps
  · next mapping =>
    rw [if_neg mapping] at mem
    obtain ⟨others, items, swaps⟩ := mapping_swap alike run mem
    refine ⟨others, items, ?_⟩
    rw [listRecords, if_neg mapping, listRecords, ← items.any_hasPoints, if_neg mapping]
    exact swaps

end

lemma values_of_some {value : Option Json} {values : List Json}
    (found : value.bind Json.values? = some values) : value = some (.arr values) := by
  cases value with
  | none => cases found
  | some value => cases value <;> cases found; rfl

lemma get?_of_firstList {payload : Fields} {key : String} {values : List Json}
    (found : firstList payload = some (key, values)) :
    key ∈ listKeys ∧ payload.get? key = some (.arr values) := by
  obtain ⟨name, mem, stored⟩ := List.exists_of_findSome?_eq_some found
  obtain ⟨held, listed, eq⟩ := Option.map_eq_some_iff.1 stored
  cases eq
  exact ⟨mem, values_of_some listed⟩

lemma EntriesAlike.replace {front back : Fields} {key : String} {values others : List Json}
    (listed : key ∈ "series" :: listKeys) (items : ItemsAlike values others) :
    EntriesAlike (front ++ (key, .arr values) :: back) (front ++ (key, .arr others) :: back) :=
  .append ⟨⟨rfl, Or.inr (Or.inl ⟨listed, values, others, rfl, rfl, items⟩)⟩, .of_fields (.refl back)⟩

section
variable {record other : Fields} (alike : RecordAlike record other)
include alike

lemma passedOwn_swap {payload : Fields} {found : List Fields} (unlisted : firstList payload = none)
    (empty : dataRecords payload = .ok []) (run : ownRecords payload = .ok found)
    (mem : record ∈ passedOwn payload) : ∃ changed, EntriesAlike payload changed ∧
      Swaps record other (ownRecords payload) (ownRecords changed) := by
  unfold passedOwn at mem
  unfold ownRecords at run
  cases listed : (payload.get? "series").bind Json.values? with
  | none =>
    rw [listed] at mem
    simp only at mem
    split at mem
    · next looks =>
      cases List.mem_singleton.1 mem
      refine ⟨other, .of_fields alike, [], [], ?_, ?_⟩
      · rw [ownRecords, listed]
        simp [looks]
      have entries : EntriesAlike record other := .of_fields alike
      rw [looksLikeRecord_akin alike.akin] at looks
      rcases entries.listed List.mem_cons_self with ⟨-, second⟩ | ⟨_, _, first, -, -⟩
      · rw [ownRecords, second]
        simp [looks]
      rw [listed] at first
      cases first
    · cases mem
  | some series =>
    rw [listed] at run mem
    obtain ⟨others, items, swaps⟩ := passedSeries_swap alike run mem
    obtain ⟨front, back, rfl, absent⟩ := Fields.split_of_get? (values_of_some listed)
    refine ⟨_, EntriesAlike.replace List.mem_cons_self items, ?_⟩
    rw [ownRecords, listed, ownRecords, Fields.get?_replaced _ absent]
    exact swaps

end

lemma EntriesAlike.unlisted {left right : Fields} (entries : EntriesAlike left right)
    (unlisted : Capabilities.firstList left = none) : Capabilities.firstList right = none := by
  rcases entries.firstList with ⟨-, second⟩ | ⟨_, _, _, first, -, -⟩
  · exact second
  rw [unlisted] at first
  cases first

mutual

lemma records_swap {record other : Fields} (alike : RecordAlike record other) : 
    ∀ (payload : Json) (found : List Fields), records payload = .ok found →
    record ∈ passed payload → ∃ changed, PayloadAlike payload changed ∧
      Swaps record other (records payload) (records changed)
  | .arr values, found, run, mem => by
      rw [records] at run
      rw [passed] at mem
      obtain ⟨others, items, swaps⟩ := mapping_swap alike run mem
      refine ⟨.arr others, items, ?_⟩
      rw [records, records]
      exact swaps
  | .obj payload, found, run, mem => by
      rw [records] at run
      rw [passed] at mem
      cases listed : firstList payload with
      | some entry =>
        obtain ⟨key, values⟩ := entry
        rw [listed] at run mem
        obtain ⟨others, items, swaps⟩ := passedList_swap alike run mem
        obtain ⟨within, stored⟩ := get?_of_firstList listed
        obtain ⟨front, back, rfl, absent⟩ := Fields.split_of_get? stored
        have entries : EntriesAlike (front ++ (key, .arr values) :: back)
            (front ++ (key, .arr others) :: back) :=
          .replace (List.mem_cons_of_mem _ within) items
        refine ⟨.obj (front ++ (key, .arr others) :: back), entries, ?_⟩
        rcases entries.firstList with ⟨first, -⟩ | ⟨name, _, more, first, second, -⟩
        · rw [listed] at first
          cases first
        rw [listed] at first
        cases first
        have eq := (get?_of_firstList second).2
        rw [Fields.get?_replaced _ absent] at eq
        cases eq
        rw [records, records, listed, second]
        exact swaps
      | none =>
        rw [listed] at run mem
        simp only at run mem
        obtain ⟨nested, data, run⟩ := of_bind_ok run
        rw [data] at mem
        cases nested with
        | nil =>
          obtain ⟨changed, entries, swaps⟩ := passedOwn_swap alike listed data run mem
          refine ⟨.obj changed, entries, ?_⟩
          have none_ := entries.unlisted listed
          have empty := dataRecords_alike payload changed entries
          rw [data] at empty
          cases others : dataRecords changed with
          | error failure =>
            rw [others] at empty
            exact empty.elim
          | ok more =>
            rw [others] at empty
            cases empty
            rw [records, records, listed, none_, data, others]
            exact swaps
        | cons first rest =>
          obtain ⟨changed, entries, front, back, before, after⟩ :=
            dataRecords_swap alike payload _ data mem
          refine ⟨.obj changed, entries, front, back, ?_, ?_⟩
          · rw [records, listed, before]
            simp [bind, Except.bind]
          rw [records, entries.unlisted listed, after]
          simp [bind, Except.bind]
  | .null, _, _, mem => absurd mem List.not_mem_nil
  | .bool _, _, _, mem => absurd mem List.not_mem_nil
  | .int _, _, _, mem => absurd mem List.not_mem_nil
  | .float _, _, _, mem => absurd mem List.not_mem_nil
  | .str _, _, _, mem => absurd mem List.not_mem_nil

lemma dataRecords_swap {record other : Fields} (alike : RecordAlike record other) : 
    ∀ (payload : Fields) (found : List Fields), dataRecords payload = .ok found →
    record ∈ passedData payload → ∃ changed, EntriesAlike payload changed ∧
      Swaps record other (dataRecords payload) (dataRecords changed)
  | [], _, _, mem => absurd mem List.not_mem_nil
  | (key, value) :: rest, found, run, mem => by
      rw [dataRecords] at run
      rw [passedData] at mem
      by_cases data : key = "data"
      · rw [if_pos data] at run mem
        split at mem
        · next container =>
          rw [if_pos container] at run
          obtain ⟨changed, payload, swaps⟩ := records_swap alike value found run mem
          refine ⟨(key, changed) :: rest,
            ⟨⟨rfl, Or.inr (Or.inr ⟨data, payload⟩)⟩, .of_fields (.refl rest)⟩, ?_⟩
          rw [dataRecords, if_pos data, if_pos container, dataRecords, if_pos data,
            ← payload.isContainer, if_pos container]
          exact swaps
        · cases mem
      · rw [if_neg data] at run mem
        obtain ⟨changed, entries, swaps⟩ := dataRecords_swap alike rest found run mem
        refine ⟨(key, value) :: changed, ⟨⟨rfl, Or.inl (Or.inl rfl)⟩, entries⟩, ?_⟩
        rw [dataRecords, if_neg data, dataRecords, if_neg data]
        exact swaps

end

lemma redactFields_append (text : String → String) (front back : Fields) :
    redactFields text (front ++ back) = redactFields text front ++ redactFields text back := by
  induction front with
  | nil => rfl
  | cons entry rest ih =>
    obtain ⟨key, value⟩ := entry
    rw [List.cons_append, redactFields, redactFields, ih, List.cons_append]

lemma sub_single {word : Char → Bool} {kept dropped : Text.Pattern} {replacement : List Char}
    {char : Char} (uncut : Text.cut word kept dropped none [char] = none) :
    Text.sub word kept dropped replacement 1 none [char] = [char] := by
  rw [Text.sub, uncut]
  rfl

/-- No pattern of the redaction matches at the letter. -/
structure Harmless (word : Char → Bool) (char : Char) : Prop where
  block : Text.cut word .empty Security.privateKeyBlock none [char] = none
  assignment : Text.cut word Security.assignmentKey Security.assignmentValue none [char] = none
  bearer : Text.cut word .empty Security.bearer none [char] = none
  uri : Text.cut word (Security.uriScheme word) Security.uriCredentials none [char] = none

lemma harmless_letter (word : Char → Bool) {char : Char} (mem : char ∈ ['a', 'b']) :
    Harmless word char := by
  have cases_ : char = 'a' ∨ char = 'b' := by simpa using mem
  cases letter : word char
  all_goals
    constructor
    · rcases cases_ with rfl | rfl <;> rfl
    · simp only [Text.cut, Security.assignmentKey, Text.Pattern.lengths, Option.any_none,
        List.head?_cons, Option.any_some, letter]
      rcases cases_ with rfl | rfl <;> rfl
    · simp only [Text.cut, Security.bearer, Text.Pattern.lengths, Text.before, List.flatMap_cons,
        List.flatMap_nil, List.drop_zero, Option.any_none, List.head?_cons, Option.any_some, letter]
      rcases cases_ with rfl | rfl <;> rfl
    · simp only [Text.cut, Security.uriScheme, Text.Pattern.some_, Text.Pattern.lengths,
        List.head?_cons, Option.any_some, letter]
      rcases cases_ with rfl | rfl <;> rfl

lemma redactText_letter (word : Char → Bool) {char : Char} (mem : char ∈ ['a', 'b']) :
    redactText word (String.ofList [char]) = String.ofList [char] := by
  obtain ⟨block, assignment, bearer, uri⟩ := harmless_letter word mem
  have kept : Security.redactChars word [char] = [char] := by
    simp only [Security.redactChars, List.length_singleton, sub_single block,
      sub_single assignment, sub_single bearer, sub_single uri]
  rw [redactText, String.toList_ofList, kept]

lemma exists_redactText_ne (word : Char → Bool) (text : String) :
    ∃ other, redactText word text ≠ redactText word other := by
  by_cases first : redactText word text = String.ofList ['a']
  · refine ⟨String.ofList ['b'], ?_⟩
    rw [first, redactText_letter word (by decide)]
    decide
  · refine ⟨String.ofList ['a'], ?_⟩
    rw [redactText_letter word (by decide)]
    exact first

/-! ## The attribute `metric` -/

section
variable {library : Library} {defaults : Defaults} {operation : String}

lemma get?_filterMap {entry : String → Option (String × Json)}
    (named : ∀ key found, entry key = some found → found.1 = key) (keys : List String)
    (wanted : String) (mem : wanted ∈ keys) :
    Fields.get? (keys.filterMap entry) wanted = (entry wanted).map Prod.snd := by
  have absent : ∀ rest : List String, entry wanted = none →
      Fields.get? (rest.filterMap entry) wanted = none := by
    intro rest missing
    rw [Fields.get?, Option.map_eq_none_iff, List.find?_eq_none]
    intro found within eq
    obtain ⟨key, -, read⟩ := List.mem_filterMap.1 within
    rw [named key found read, beq_iff_eq] at eq
    rw [eq, missing] at read
    cases read
  induction keys with
  | nil => cases mem
  | cons key rest ih =>
    rw [List.filterMap_cons]
    cases read : entry key with
    | none =>
      rcases List.mem_cons.1 mem with rfl | later
      · rw [read]
        exact absent rest read
      exact ih later
    | some found =>
      rw [Fields.get?_cons, named key found read]
      split
      · next eq => rw [← eq, read, Option.map_some]
      next apart => exact ih ((List.mem_cons.1 mem).resolve_left (Ne.symm apart))

lemma get?_finalAttributes (record : Fields) :
    (finalAttributes library operation record).get? "metric" = shownMetric library record := by
  have listed : Fields.get? (attributesOf library operation record (nestedLabels record)) "metric" =
      shownMetric library record := by
    rw [attributesOf_eq, Fields.get?_cons, if_neg (show "operation" ≠ "metric" by decide),
      get?_filterMap]
    · rw [attributeEntry, attribute?_metric, Option.map_map]
      rfl
    · intro key found read
      obtain ⟨candidate, -, rfl⟩ := Option.map_eq_some_iff.1 read
      rfl
    · decide
  unfold finalAttributes withLabels
  split
  · rw [Fields.get?_set, if_neg (by decide)]
    exact listed
  split
  · exact listed
  rw [Fields.get?_set, if_neg (by decide)]
  exact listed

lemma exists_shown_ne {record : Fields} (shows_ : exposed record = true) :
    ∃ other, RecordAlike record other ∧ shownMetric library record ≠ shownMetric library other := by
  obtain ⟨label, labelIn, exposes⟩ := List.any_eq_true.1 shows_
  have metric : ∃ labels, record.get? "metric" = some (.obj labels) ∧ label ∈ labels := by
    unfold nestedLabels at labelIn
    cases found : record.get? "metric" with
    | none => simp [found] at labelIn
    | some value =>
      cases value with
      | obj labels => exact ⟨labels, rfl, by simpa [found] using labelIn⟩
      | _ => simp [found, Json.fields?] at labelIn
  obtain ⟨labels, stored, labelIn⟩ := metric
  obtain ⟨key, value⟩ := label
  obtain ⟨front, back, rfl⟩ := List.append_of_mem labelIn
  simp only [exposesLabel, Bool.and_eq_true, Bool.not_eq_true'] at exposes
  obtain ⟨⟨sensitive, unknown⟩, isText⟩ := exposes
  cases value with
  | str text =>
    obtain ⟨other, apart⟩ := exists_redactText_ne library.word text
    obtain ⟨before, after, rfl, absent⟩ := Fields.split_of_get? stored
    have labels : LabelsAlike (front ++ (key, .str text) :: back) (front ++ (key, .str other) :: back) :=
      List.rel_append (LabelsAlike.refl front)
        (.cons ⟨rfl, Or.inr ⟨sensitive, text, other, rfl, rfl⟩⟩ (LabelsAlike.refl back))
    refine ⟨before ++ ("metric", .obj (front ++ (key, .str other) :: back)) :: after,
      List.rel_append (RecordAlike.refl before)
        (.cons ⟨rfl, Or.inr ⟨show "metric" ∈ labelKeys by decide, _, _, rfl, rfl, labels⟩⟩
          (RecordAlike.refl after)), ?_⟩
    intro eq
    unfold shownMetric present? at eq
    rw [Fields.get?_replaced _ absent, Fields.get?_replaced _ absent] at eq
    simp only [Option.map_some, redact, redactFields_append, redactFields, unknown,
      Bool.false_eq_true, if_false, Option.some.injEq, Json.obj.injEq, List.append_cancel_left_eq,
      List.cons.injEq, Prod.mk.injEq, true_and, and_true, Json.str.injEq] at eq
    exact apart eq
  | _ => cases isText

lemma eventsFrom_of_complete {found : List Fields}
    (complete : ∀ record ∈ found, Complete library defaults record) (start : Nat) :
    ∃ events, eventsFrom library defaults operation start found = .ok events := by
  induction found generalizing start with
  | nil => exact ⟨[], rfl⟩
  | cons record rest ih =>
    obtain ⟨event, first⟩ :
        ∃ event, normalizeEvent library defaults operation record start = .ok event :=
      exists_event_of_complete (complete record List.mem_cons_self) start
    obtain ⟨events, later⟩ :=
      ih (fun other mem => complete other (List.mem_cons_of_mem _ mem)) (start + 1)
    rw [eventsFrom_cons, first, later]
    exact ⟨event :: events, rfl⟩

lemma complete_of_eventsFrom {found : List Fields} {start : Nat} {events : List ObservabilityEvent}
    (run : eventsFrom library defaults operation start found = .ok events) :
    ∀ record ∈ found, Complete library defaults record := by
  induction found generalizing start events with
  | nil => exact nofun
  | cons record rest ih =>
    rw [eventsFrom_cons] at run
    obtain ⟨event, first, run⟩ := of_bind_ok run
    obtain ⟨more, later, -⟩ := of_bind_ok run
    intro other mem
    rcases List.mem_cons.1 mem with rfl | mem
    · exact (normalizeEvent_spec first).1
    exact ih later other mem

lemma finalAttributes_of_eventsFrom {front back : List Fields} {record other : Fields} {start : Nat}
    {events : List ObservabilityEvent}
    (left : eventsFrom library defaults operation start (front ++ record :: back) = .ok events)
    (right : eventsFrom library defaults operation start (front ++ other :: back) = .ok events) :
    finalAttributes library operation record = finalAttributes library operation other := by
  induction front generalizing start events with
  | nil =>
    rw [List.nil_append, eventsFrom_cons] at left right
    obtain ⟨event, first, left⟩ := of_bind_ok left
    obtain ⟨more, -, left⟩ := of_bind_ok left
    obtain ⟨counterpart, second, right⟩ := of_bind_ok right
    obtain ⟨others, -, right⟩ := of_bind_ok right
    cases left
    cases right
    rw [← (normalizeEvent_spec first).2, ← (normalizeEvent_spec second).2]
  | cons head rest ih =>
    rw [List.cons_append, eventsFrom_cons] at left right
    obtain ⟨event, -, left⟩ := of_bind_ok left
    obtain ⟨more, first, left⟩ := of_bind_ok left
    obtain ⟨counterpart, -, right⟩ := of_bind_ok right
    obtain ⟨others, second, right⟩ := of_bind_ok right
    cases left
    cases right
    exact ih first second

def Accepted (library : Library) (defaults : Defaults) (operation : String) (payload : Json) : Prop :=
  operation ∈ observabilityOperations ∧ ∃ found, records payload = .ok found ∧
    ∀ record ∈ found, Complete library defaults record

lemma cursor_alike {left right : Json} (alike : PayloadAlike left right) :
    cursor left = cursor right := by
  cases left <;> cases right
  case obj.obj left right =>
    have entries : EntriesAlike left right := alike
    simp only [cursor, Json.fields?_obj]
    refine findSome?_congr fun key mem => ?_
    have plain : key ∉ "data" :: "series" :: listKeys ∧ key ∉ labelKeys := by
      revert key
      decide
    rw [(entries.found plain.1).eq plain.2]
  all_goals first | rfl | cases alike

lemma normalizeResponse_eq {payload : Json} {found : List Fields}
    (allowed : operation ∈ observabilityOperations) (read : records payload = .ok found) :
    normalizeResponse library defaults operation payload =
      (eventsFrom library defaults operation 0 found).map fun events =>
        { operation, events, count := events.length, nextCursor := cursor payload } := by
  rw [normalizeResponse, if_neg (not_not.2 allowed), read]
  change (eventsFrom library defaults operation 0 found >>= _) = _
  cases eventsFrom library defaults operation 0 found <;> rfl

lemma normalizeResponse_alike {payload other : Json} (alike : PayloadAlike payload other)
    (hidden : Accepted library defaults operation payload →
      ∀ record ∈ passed payload, exposed record = false) :
    normalizeResponse library defaults operation payload =
      normalizeResponse library defaults operation other := by
  by_cases allowed : operation ∈ observabilityOperations
  · have outcomes := records_alike payload other alike
    cases left : records payload with
    | error failure =>
      cases right : records other with
      | ok others =>
        rw [left, right] at outcomes
        exact outcomes.elim
      | error counterpart =>
        rw [left, right] at outcomes
        rw [normalizeResponse, normalizeResponse, if_neg (not_not.2 allowed),
          if_neg (not_not.2 allowed), left, right, show failure = counterpart from outcomes]
        rfl
    | ok found =>
      cases right : records other with
      | error failure =>
        rw [left, right] at outcomes
        exact outcomes.elim
      | ok others =>
        rw [left, right] at outcomes
        rw [normalizeResponse_eq allowed left, normalizeResponse_eq allowed right, cursor_alike alike]
        have related : List.Forall₂ (Related (passed payload)) found others := outcomes
        cases run : eventsFrom library defaults operation 0 found with
        | error failure =>
          rw [eventsFrom_error (related.imp fun _ _ pair => pair.akin) run]
        | ok events =>
          have quiet := hidden ⟨allowed, found, left, complete_of_eventsFrom run⟩
          rw [← run, eventsFrom_congr (related.imp fun record other pair => ⟨pair.akin, ?_⟩)]
          rcases pair.metric with eq | ⟨mem, metric⟩
          · rw [shownMetric, shownMetric, present?, present?, eq]
          exact shownMetric_alike metric (quiet record mem)
  · rw [normalizeResponse, normalizeResponse, if_pos allowed, if_pos allowed]

end

theorem personal_labels_hidden_iff (library : Library) (defaults : Defaults) (operation : String)
    (payload : Json) :
    (∀ other, PayloadAlike payload other → normalizeResponse library defaults operation payload =
        normalizeResponse library defaults operation other) ↔
      (Accepted library defaults operation payload →
        ∀ record ∈ passed payload, exposed record = false) := by
  constructor
  · intro same accepted record member
    by_contra shows_
    rw [Bool.not_eq_false] at shows_
    obtain ⟨other, alike, apart⟩ : ∃ other, RecordAlike record other ∧
        shownMetric library record ≠ shownMetric library other := exists_shown_ne shows_
    obtain ⟨allowed, found, read, complete⟩ := accepted
    obtain ⟨changed, payloads, front, back, before, after⟩ :=
      records_swap alike payload found read member
    rw [before] at read
    cases read
    obtain ⟨events, run⟩ :
        ∃ events, eventsFrom library defaults operation 0 (front ++ record :: back) = .ok events :=
      eventsFrom_of_complete complete 0
    have equal := same changed payloads
    rw [normalizeResponse_eq allowed before, normalizeResponse_eq allowed after, run] at equal
    cases others : eventsFrom library defaults operation 0 (front ++ other :: back) with
    | error failure =>
      rw [others] at equal
      cases equal
    | ok more =>
      rw [others] at equal
      have events_ : events = more := congrArg Envelope.events (Except.ok.inj equal)
      have attributes := finalAttributes_of_eventsFrom run (events_ ▸ others)
      refine apart ?_
      calc shownMetric library record
          = (finalAttributes library operation record).get? "metric" :=
            (get?_finalAttributes record).symm
        _ = (finalAttributes library operation other).get? "metric" := by rw [attributes]
        _ = shownMetric library other := get?_finalAttributes other
  · exact fun hidden other alike => normalizeResponse_alike alike hidden

def sampleLibrary : Library where
  word := Char.isAlphanum
  floatStr := id
  fromTimestamp _ := none
  fromIsoformat _ := none

def sampleDefaults : Defaults := ⟨"api", "production"⟩

def sampleRecord (user : String) : Fields :=
  [("timestamp", .str "t0"), ("metric", .obj [("user", .str user)])]

def shownUser (response : Except Failure Envelope) : Option String :=
  match response with
  | .error _ => none
  | .ok envelope =>
    (envelope.events.head?.bind fun event => event.attributes.get? "metric").bind fun metric =>
      (metric.fields?.bind fun labels => labels.get? "user").bind Json.str?

theorem metric_labels_shown : ∃ payload other, PayloadAlike payload other ∧
    normalizeResponse sampleLibrary sampleDefaults "metric.query" payload ≠
      normalizeResponse sampleLibrary sampleDefaults "metric.query" other := by
  refine ⟨.arr [.obj (sampleRecord "alice")], .arr [.obj (sampleRecord "bob")], ?_, ?_⟩
  · have sensitive : sensitiveLabel "user" = true := by decide +kernel
    have labels : LabelsAlike [("user", .str "alice")] [("user", .str "bob")] :=
      .cons ⟨rfl, Or.inr ⟨sensitive, _, _, rfl, rfl⟩⟩ .nil
    have metric : FieldAlike ("metric", .obj [("user", .str "alice")])
        ("metric", .obj [("user", .str "bob")]) :=
      ⟨rfl, Or.inr ⟨by decide, _, _, rfl, rfl, labels⟩⟩
    exact .cons (Or.inr ⟨_, _, rfl, rfl, .cons (.refl _) (.cons metric .nil)⟩) .nil
  · intro same
    have left : shownUser (normalizeResponse sampleLibrary sampleDefaults "metric.query"
        (.arr [.obj (sampleRecord "alice")])) = some "alice" := by decide +kernel
    have right : shownUser (normalizeResponse sampleLibrary sampleDefaults "metric.query"
        (.arr [.obj (sampleRecord "bob")])) = some "bob" := by decide +kernel
    rw [same, right] at left
    exact absurd left (by decide)

end Obsion.Capabilities
