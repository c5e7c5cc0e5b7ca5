import Obsion.Capabilities.Personal

/-! # Records that expose personal labels

`normalize_response` on two payloads that differ in personal labels.  A record that
reaches the events as it stands in the payload exposes the texts under the sensitive keys
of its `metric`, unless the redaction knows the key; nothing else does. -/

namespace Obsion.Capabilities

open Security (redact redactFields redactText sensitiveKey)

def exposesLabel (label : String × Json) : Bool :=
  sensitiveLabel label.1 && !sensitiveKey label.1 && label.2.str?.isSome

/-- The attribute `metric` of the record shows a personal text. -/
def exposed (record : Fields) : Bool := (nestedLabels record).any exposesLabel

variable {left right : Fields}

lemma redactFields_alike {text : String → String} (alike : LabelsAlike left right)
    (hidden : left.any exposesLabel = false) :
    redactFields text left = redactFields text right := by
  induction alike with
  | nil => rfl
  | @cons label other _ _ first rest ih =>
    obtain ⟨key, value⟩ := label
    obtain ⟨name, counterpart⟩ := other
    rw [List.any_cons, Bool.or_eq_false_iff] at hidden
    obtain ⟨named, eq⟩ := first
    change key = name at named
    subst named
    rw [redactFields, redactFields, ih hidden.2]
    rcases eq with eq | ⟨sensitive, found, more, rfl, rfl⟩
    · rw [show value = counterpart from eq]
    have known : sensitiveKey key = true := by
      simpa [exposesLabel, sensitive] using hidden.1
    rw [known]
    rfl

lemma shownMetric_alike {library : Library}
    (alike : FoundAlike "metric" (left.get? "metric") (right.get? "metric"))
    (hidden : exposed left = false) : shownMetric library left = shownMetric library right := by
  unfold shownMetric present?
  rcases alike.cases with eq | ⟨-, labels, others, found, more, alike⟩
  · rw [eq]
  have unexposed : labels.any exposesLabel = false := by
    simpa [exposed, nestedLabels, found] using hidden
  rw [found, more]
  simp only [Option.map_some, redact]
  rw [redactFields_alike alike unexposed]

section
variable {library : Library} {defaults : Defaults} {operation : String}

def Complete (library : Library) (defaults : Defaults) (record : Fields) : Prop :=
  (∃ text, timestampField library record = .ok (some text)) ∧
    (fieldOr library record (nestedLabels record) .service).getD defaults.service ≠ "" ∧
    (fieldOr library record (nestedLabels record) .environment).getD defaults.environment ≠ ""

variable {record : Fields}

lemma exists_event_of_complete (complete : Complete library defaults record) (index : Nat) :
    ∃ event, normalizeEvent library defaults operation record index = .ok event := by
  obtain ⟨⟨text, stamp⟩, service, environment⟩ := complete
  unfold normalizeEvent
  rw [stamp]
  simp only [bind, Except.bind]
  rw [if_neg (not_or.2 ⟨service, environment⟩)]
  exact ⟨_, rfl⟩

lemma normalizeEvent_spec {index : Nat} {event : ObservabilityEvent}
    (run : normalizeEvent library defaults operation record index = .ok event) :
    Complete library defaults record ∧ event.attributes = finalAttributes library operation record := by
  obtain ⟨found, stamp, run⟩ := of_bind_ok run
  cases found with
  | none => cases run
  | some text =>
    dsimp only at run
    split at run
    · cases run
    next named =>
    cases run
    exact ⟨⟨⟨text, stamp⟩, not_or.1 named⟩, rfl⟩

/-- `normalizeEvents` from an index on. -/
def eventsFrom (library : Library) (defaults : Defaults) (operation : String) (start : Nat)
    (records : List Fields) : Except Failure (List ObservabilityEvent) :=
  (records.zipIdx start).mapM fun entry =>
    normalizeEvent library defaults operation entry.1 entry.2

lemma eventsFrom_cons (start : Nat) (record : Fields) (rest : List Fields) :
    eventsFrom library defaults operation start (record :: rest) = (do
      let event ← normalizeEvent library defaults operation record start
      let events ← eventsFrom library defaults operation (start + 1) rest
      pure (event :: events)) := by
  rw [eventsFrom, List.zipIdx_cons, List.mapM_cons]
  rfl

lemma eventsFrom_error {left right : List Fields} (akin : List.Forall₂ Akin left right)
    {start : Nat} {failure : Failure}
    (failed : eventsFrom library defaults operation start left = .error failure) :
    eventsFrom library defaults operation start right = .error failure := by
  induction akin generalizing start with
  | nil => cases failed
  | @cons record other left right first rest ih =>
    rw [eventsFrom_cons] at failed ⊢
    rw [normalizeEvent_akin first]
    cases event : normalizeEvent library defaults operation record start with
    | error other =>
      rw [event] at failed
      cases failed
      rfl
    | ok event_ =>
      rw [event] at failed
      cases events : eventsFrom library defaults operation (start + 1) left with
      | error other =>
        rw [events] at failed
        cases failed
        rw [ih events]
        rfl
      | ok events_ =>
        rw [events] at failed
        cases failed

lemma eventsFrom_congr {left right : List Fields}
    (eq : List.Forall₂ (fun record other =>
      Akin record other ∧ shownMetric library record = shownMetric library other) left right)
    (start : Nat) : eventsFrom library defaults operation start left =
      eventsFrom library defaults operation start right := by
  induction eq generalizing start with
  | nil => rfl
  | @cons record other _ _ first rest ih =>
    have attributes : finalAttributes library operation record =
        finalAttributes library operation other := finalAttributes_akin first.1 first.2
    rw [eventsFrom_cons, eventsFrom_cons, ih, normalizeEvent_akin first.1]
    cases event : normalizeEvent library defaults operation record start with
    | error failure => rfl
    | ok event_ =>
      rw [Except.map, ← attributes, ← (normalizeEvent_spec event).2]

end

def passedSeries (values : List Json) : List Fields :=
  (values.filterMap Json.fields?).filter fun series => (seriesPoints series).isNone

def passedList (key : String) (values : List Json) : List Fields :=
  if key = "result" ∧ values.any hasPoints then passedSeries values
  else values.filterMap Json.fields?

def passedOwn (payload : Fields) : List Fields :=
  match (payload.get? "series").bind Json.values? with
  | some series => passedSeries series
  | none => if looksLikeRecord payload then [payload] else []

mutual

def passed : Json → List Fields
  | .arr values => values.filterMap Json.fields?
  | .obj payload =>
    match firstList payload with
    | some (key, values) => passedList key values
    | none =>
      if (dataRecords payload).toOption.any List.isEmpty then passedOwn payload
      else passedData payload
  | _ => []

def passedData : Fields → List Fields
  | [] => []
  | (key, value) :: rest =>
    if key = "data" then (if isContainer value then passed value else [])
    else passedData rest

end

/-! ## Alike payloads have alike records -/

structure Related (passed : List Fields) (left right : Fields) : Prop where
  akin : Akin left right
  metric : left.get? "metric" = right.get? "metric" ∨
    left ∈ passed ∧ FoundAlike "metric" (left.get? "metric") (right.get? "metric")

def Outcomes (passed : List Fields) : Except Failure (List Fields) → Except Failure (List Fields) → Prop
  | .ok left, .ok right => List.Forall₂ (Related passed) left right
  | .error failure, .error other => failure = other
  | _, _ => False

lemma Related.of_passed {passed : List Fields} (alike : RecordAlike left right)
    (mem : left ∈ passed) : Related passed left right :=
  ⟨alike.akin, Or.inr ⟨mem, alike.found "metric"⟩⟩

structure Twin (left right : Fields) : Prop where
  akin : Akin left right
  metric : left.get? "metric" = right.get? "metric"

lemma Twin.set (twin : Twin left right) (key : String) (value : Json) :
    Twin (left.set key value) (right.set key value) := by
  refine ⟨twin.akin.set (Or.inl rfl), ?_⟩
  rw [Fields.get?_set, Fields.get?_set, twin.metric]

lemma Twin.merge (twin : Twin left right) (point : Fields) :
    Twin (merge left point) (merge right point) := by
  unfold Capabilities.merge
  induction point generalizing left right with
  | nil => exact twin
  | cons entry rest ih => exact ih (twin.set entry.1 entry.2)

lemma seriesBase_alike (alike : LabelsAlike left right) :
    Twin (seriesBase left) (seriesBase right) := by
  unfold seriesBase
  have metric := alike.get? (plain_recordKeys "metric" (by decide))
  rw [← alike.isEmpty]
  split
  · exact ⟨alike.akin, metric⟩
  have value : ValueAlike "labels" (.obj left) (.obj right) :=
    Or.inr ⟨by decide, left, right, rfl, rfl, alike⟩
  refine ⟨alike.akin.set value, ?_⟩
  rw [Fields.get?_set, Fields.get?_set, if_neg (by decide), if_neg (by decide), metric]

lemma seriesLabels_alike (alike : RecordAlike left right) :
    LabelsAlike (seriesLabels left) (seriesLabels right) := by
  unfold seriesLabels
  rcases (alike.found "labels").cases with eq | ⟨-, labels, others, found, more, labelled⟩
  · rw [eq]
    cases right.get? "labels" with
    | some found => exact .refl _
    | none =>
      rw [Option.none_or, Option.none_or]
      rcases (alike.found "metric").cases with eq | ⟨-, labels, others, found, more, labelled⟩
      · rw [eq]
        exact .refl _
      rw [found, more]
      exact labelled
  · rw [found, more]
    exact labelled

lemma pointRecord_alike (twin : Twin left right) (points : List Json) (passed : List Fields) :
    List.Forall₂ (Related passed) (points.filterMap (pointRecord left))
      (points.filterMap (pointRecord right)) := by
  induction points with
  | nil => exact .nil
  | cons point rest ih =>
    have related : ∀ {record other : Fields}, Twin record other → Related passed record other :=
      fun twin => ⟨twin.akin, Or.inl twin.metric⟩
    unfold pointRecord at ih ⊢
    rw [List.filterMap_cons, List.filterMap_cons]
    split
    · next absent =>
      split at absent
      · cases absent
      · cases absent
      · exact ih
    · next record found =>
      split at found
      · cases found
        exact .cons (related ((twin.set _ _).set _ _)) ih
      · cases found
        exact .cons (related (twin.merge _)) ih
      · cases found

lemma recordsOfSeries_alike (alike : RecordAlike left right) {passed : List Fields}
    (mem : seriesPoints left = none → left ∈ passed) :
    List.Forall₂ (Related passed) (recordsOfSeries left) (recordsOfSeries right) := by
  have points : seriesPoints left = seriesPoints right := by
    rw [seriesPoints, seriesPoints, (alike.found "values").eq (by decide),
      (alike.found "value").eq (by decide)]
  unfold recordsOfSeries
  rw [← points]
  split
  · exact pointRecord_alike (seriesBase_alike (seriesLabels_alike alike)) _ passed
  next bare => exact .cons (.of_passed alike (mem bare)) .nil

lemma ItemAlike.fields {left right : Json} (alike : ItemAlike left right) :
    (left.fields? = none ∧ right.fields? = none) ∨ ∃ record other, left.fields? = some record ∧
      right.fields? = some other ∧ RecordAlike record other := by
  rcases alike with rfl | ⟨record, other, rfl, rfl, alike⟩
  · cases left.fields? with
    | none => exact .inl ⟨rfl, rfl⟩
    | some record => exact .inr ⟨record, record, rfl, rfl, .refl record⟩
  · exact .inr ⟨record, other, rfl, rfl, alike⟩

lemma ItemAlike.hasPoints {left right : Json} (alike : ItemAlike left right) :
    hasPoints left = hasPoints right := by
  unfold Capabilities.hasPoints
  rcases alike.fields with ⟨none_, other⟩ | ⟨record, other, found, more, alike⟩
  · rw [none_, other]
  rw [found, more]
  simp only [Fields.has, (alike.found "values").eq (by decide), (alike.found "value").eq (by decide)]

lemma ItemsAlike.records {left right : List Json} (alike : ItemsAlike left right) :
    (left.mapM Json.fields? = none ∧ right.mapM Json.fields? = none) ∨
      ∃ records others, left.mapM Json.fields? = some records ∧
        right.mapM Json.fields? = some others ∧ left.filterMap Json.fields? = records ∧
        List.Forall₂ RecordAlike records others := by
  induction alike with
  | nil => exact .inr ⟨[], [], rfl, rfl, rfl, .nil⟩
  | cons first rest ih =>
    rw [List.mapM_cons, List.mapM_cons]
    rcases first.fields with ⟨none_, other⟩ | ⟨record, other, found, more, alike⟩
    · rw [none_, other]
      exact .inl ⟨rfl, rfl⟩
    rw [found, more]
    rcases ih with ⟨none_, other⟩ | ⟨records, others, left, right, kept, all⟩
    · rw [none_, other]
      exact .inl ⟨rfl, rfl⟩
    rw [left, right, List.filterMap_cons, found]
    exact .inr ⟨record :: records, other :: others, rfl, rfl, by rw [kept], .cons alike all⟩

lemma mappingRecords_alike {left right : List Json} (alike : ItemsAlike left right) :
    Outcomes (left.filterMap Json.fields?) (mappingRecords left) (mappingRecords right) := by
  unfold mappingRecords
  rcases alike.records with ⟨none_, other⟩ | ⟨records, others, found, more, kept, all⟩
  · rw [none_, other]
    rfl
  rw [found, more, kept]
  change List.Forall₂ _ _ _
  refine List.forall₂_iff_zip.2 ⟨all.length_eq, ?_⟩
  intro record other mem
  exact .of_passed (List.forall₂_iff_zip.1 all |>.2 mem) (List.of_mem_zip mem).1

lemma seriesRecords_alike {left right : List Json} (alike : ItemsAlike left right) :
    Outcomes (passedSeries left) (seriesRecords left) (seriesRecords right) := by
  unfold seriesRecords passedSeries
  rcases alike.records with ⟨none_, other⟩ | ⟨records, others, found, more, kept, all⟩
  · rw [none_, other]
    rfl
  rw [found, more, kept]
  change List.Forall₂ _ _ _
  have within : ∀ series ∈ records, seriesPoints series = none →
      series ∈ records.filter fun series => (seriesPoints series).isNone :=
    fun series mem bare => List.mem_filter.2 ⟨mem, by rw [bare]; rfl⟩
  clear found more kept
  generalize records.filter (fun series => (seriesPoints series).isNone) = passed at within
  induction all with
  | nil => exact .nil
  | @cons series other _ _ first rest ih =>
    rw [List.flatMap_cons, List.flatMap_cons]
    refine List.rel_append (recordsOfSeries_alike first (within series List.mem_cons_self)) ?_
    exact ih fun series mem => within series (List.mem_cons_of_mem _ mem)

lemma ItemsAlike.any_hasPoints {left right : List Json} (alike : ItemsAlike left right) :
    left.any hasPoints = right.any hasPoints := by
  induction alike with
  | nil => rfl
  | cons first rest ih => rw [List.any_cons, List.any_cons, first.hasPoints, ih]

variable {key : String}

lemma listRecords_alike {left right : List Json} (alike : ItemsAlike left right) :
    Outcomes (passedList key left) (listRecords key left) (listRecords key right) := by
  unfold passedList listRecords
  rw [← alike.any_hasPoints]
  split
  · exact seriesRecords_alike alike
  exact mappingRecords_alike alike

/-! ## Payloads -/

lemma unlisted_labelKeys : ∀ key ∈ labelKeys, key ∉ "series" :: listKeys := by decide

lemma EntriesAlike.listed (alike : EntriesAlike left right) (listed : key ∈ "series" :: listKeys) :
    ((left.get? key).bind Json.values? = none ∧ (right.get? key).bind Json.values? = none) ∨
      ∃ values others, (left.get? key).bind Json.values? = some values ∧
        (right.get? key).bind Json.values? = some others ∧ ItemsAlike values others := by
  induction left generalizing right with
  | nil =>
    cases right with
    | nil => exact .inl ⟨rfl, rfl⟩
    | cons entry rest => exact alike.elim
  | cons entry rest ih =>
    cases right with
    | nil => exact alike.elim
    | cons other others =>
      obtain ⟨⟨named, values⟩, alike⟩ := alike
      rw [Fields.get?_cons, Fields.get?_cons, ← named]
      split
      · next eq =>
        rw [eq] at values
        rcases values with (equal | ⟨labelled, -⟩) | ⟨-, left, right, first, second, items⟩ |
          ⟨data, -⟩
        · rw [equal, Option.bind_some]
          cases other.2.values? with
          | none => exact .inl ⟨rfl, rfl⟩
          | some found => exact .inr ⟨found, found, rfl, rfl, .refl found⟩
        · exact absurd listed (unlisted_labelKeys key labelled)
        · rw [first, second]
          exact .inr ⟨left, right, rfl, rfl, items⟩
        · exact absurd listed (by rw [data]; decide)
      · exact ih alike

lemma EntriesAlike.found (alike : EntriesAlike left right)
    (plain : key ∉ "data" :: "series" :: listKeys) :
    FoundAlike key (left.get? key) (right.get? key) := by
  induction left generalizing right with
  | nil =>
    cases right with
    | nil => exact .inl rfl
    | cons entry rest => exact alike.elim
  | cons entry rest ih =>
    cases right with
    | nil => exact alike.elim
    | cons other others =>
      obtain ⟨⟨named, values⟩, alike⟩ := alike
      rw [Fields.get?_cons, Fields.get?_cons, ← named]
      split
      · next eq =>
        rw [eq] at values
        rcases values with value | ⟨listed, -⟩ | ⟨data, -⟩
        · exact .inr ⟨entry.2, other.2, rfl, rfl, value⟩
        · exact absurd (List.mem_cons_of_mem _ listed) plain
        · exact absurd (data ▸ List.mem_cons_self) plain
      · exact ih alike

lemma unlisted_recordKeys : ∀ key ∈ recordKeys, key ∉ "data" :: "series" :: listKeys := by
  decide +kernel

lemma EntriesAlike.akin (alike : EntriesAlike left right) :
    Akin left right := fun key read => alike.found (unlisted_recordKeys key read)

lemma EntriesAlike.firstList (alike : EntriesAlike left right) :
    (firstList left = none ∧ firstList right = none) ∨ ∃ key values others,
      firstList left = some (key, values) ∧ firstList right = some (key, others) ∧
        ItemsAlike values others := by
  have search : ∀ keys : List String, (∀ key ∈ keys, key ∈ "series" :: listKeys) →
      let find := fun fields : Fields => keys.findSome? fun key =>
        ((fields.get? key).bind Json.values?).map fun values => (key, values)
      (find left = none ∧ find right = none) ∨ ∃ key values others,
        find left = some (key, values) ∧ find right = some (key, others) ∧
          ItemsAlike values others := by
    intro keys within
    induction keys with
    | nil => exact .inl ⟨rfl, rfl⟩
    | cons key rest ih =>
      simp only [List.findSome?_cons]
      rcases alike.listed (within key List.mem_cons_self) with
        ⟨first, second⟩ | ⟨values, others, first, second, items⟩
      · rw [first, second]
        exact ih fun key mem => within key (List.mem_cons_of_mem _ mem)
      rw [first, second]
      exact .inr ⟨key, values, others, rfl, rfl, items⟩
  exact search listKeys fun _ => List.mem_cons_of_mem _

lemma any_eq_any {α : Type} {items : List α} {left right : α → Bool}
    (eq : ∀ item ∈ items, left item = right item) : items.any left = items.any right := by
  induction items with
  | nil => rfl
  | cons item rest ih =>
    rw [List.any_cons, List.any_cons, eq item List.mem_cons_self,
      ih fun other mem => eq other (List.mem_cons_of_mem _ mem)]

lemma looksLikeRecord_akin (akin : Akin left right) : looksLikeRecord left = looksLikeRecord right := by
  have has : ∀ key ∈ recordKeys, left.has key = right.has key := by
    intro key read
    rw [Fields.has, Fields.has]
    rcases (akin key read).cases with eq | ⟨-, labels, others, found, more, -⟩
    · rw [eq]
    rw [found, more]
    rfl
  have aliases : ∀ name ∈ eventFields,
      name.aliases.any left.has = name.aliases.any right.has := fun name _ =>
    any_eq_any fun spelling mem => has spelling (mem_recordKeys_of_alias mem)
  unfold looksLikeRecord
  rw [any_eq_any aliases, any_eq_any fun key mem => has key (List.mem_append_left _ mem)]

lemma ownRecords_alike (alike : EntriesAlike left right) :
    Outcomes (passedOwn left) (ownRecords left) (ownRecords right) := by
  unfold ownRecords passedOwn
  rcases alike.listed List.mem_cons_self with ⟨first, second⟩ | ⟨values, others, first, second, items⟩
  · rw [first, second, ← looksLikeRecord_akin alike.akin]
    simp only
    split
    · have metric := alike.found (show "metric" ∉ "data" :: "series" :: listKeys by decide)
      exact .cons ⟨alike.akin, Or.inr ⟨List.mem_cons_self, metric⟩⟩ .nil
    exact .nil
  · rw [first, second]
    exact seriesRecords_alike items

lemma PayloadAlike.isContainer {left right : Json} (alike : PayloadAlike left right) :
    isContainer left = isContainer right := by
  cases left <;> cases right <;> first | rfl | cases alike

lemma Outcomes.nested {passed own : List Fields}
    {nested others ownLeft ownRight : Except Failure (List Fields)}
    (outcomes : Outcomes passed nested others) (owns : Outcomes own ownLeft ownRight) :
    Outcomes (if nested.toOption.any List.isEmpty then own else passed)
      (nested >>= fun found => if found.isEmpty then ownLeft else .ok found)
      (others >>= fun found => if found.isEmpty then ownRight else .ok found) := by
  cases nested <;> cases others
  · exact outcomes
  · exact outcomes.elim
  · exact outcomes.elim
  · cases outcomes with
    | nil => exact owns
    | cons first rest => exact .cons first rest

mutual

lemma records_alike : ∀ left right : Json, PayloadAlike left right →
    Outcomes (passed left) (records left) (records right)
  | .arr left, .arr right, alike => by
      rw [records, records, passed]
      exact mappingRecords_alike alike
  | .obj left, .obj right, alike => by
      have entries : EntriesAlike left right := alike
      rw [records, records, passed]
      rcases entries.firstList with ⟨first, second⟩ | ⟨key, values, others, first, second, items⟩
      · rw [first, second]
        exact (dataRecords_alike left right entries).nested (ownRecords_alike entries)
      rw [first, second]
      exact listRecords_alike items
  | .null, .null, _ => rfl
  | .bool _, .bool _, _ => rfl
  | .int _, .int _, _ => rfl
  | .float _, .float _, _ => rfl
  | .str _, .str _, _ => rfl

lemma dataRecords_alike : ∀ left right : Fields, EntriesAlike left right →
    Outcomes (passedData left) (dataRecords left) (dataRecords right)
  | [], [], _ => .nil
  | (key, value) :: rest, (name, other) :: others, alike => by
      obtain ⟨⟨named, values⟩, alike⟩ := alike
      rw [dataRecords, dataRecords, passedData, ← named]
      split
      · next eq =>
        have payload : PayloadAlike value other := by
          rcases values with (equal | ⟨labelled, -⟩) | ⟨listed, -⟩ | ⟨-, payload⟩
          · exact equal ▸ .refl value
          · exact absurd labelled (by rw [eq]; decide)
          · exact absurd listed (by rw [eq]; decide)
          · exact payload
        rw [← payload.isContainer]
        split
        · exact records_alike value other payload
        exact .nil
      · exact dataRecords_alike rest others alike

end

end Obsion.Capabilities
