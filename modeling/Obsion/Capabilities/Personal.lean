import Obsion.Capabilities.Observability

/-! # Personal labels

Two payloads that differ only in the texts under sensitive label keys.  The labels of a
series and the safe labels keep such texts out of the events; the attribute `metric`
does not: it copies the labels of a record as they are. -/

namespace Obsion.Capabilities

open Security (redact redactFields redactText sensitiveKey)

def LabelAlike (left right : String × Json) : Prop :=
  left.1 = right.1 ∧ (left.2 = right.2 ∨
    sensitiveLabel left.1 = true ∧ ∃ text other, left.2 = .str text ∧ right.2 = .str other)

def LabelsAlike (left right : Fields) : Prop := List.Forall₂ LabelAlike left right

def labelKeys : List String := ["labels", "metric"]

def ValueAlike (key : String) (left right : Json) : Prop :=
  left = right ∨ key ∈ labelKeys ∧
    ∃ labels others, left = .obj labels ∧ right = .obj others ∧ LabelsAlike labels others

def FieldAlike (left right : String × Json) : Prop :=
  left.1 = right.1 ∧ ValueAlike left.1 left.2 right.2

def RecordAlike (left right : Fields) : Prop := List.Forall₂ FieldAlike left right

def ItemAlike (left right : Json) : Prop :=
  left = right ∨ ∃ record other, left = .obj record ∧ right = .obj other ∧ RecordAlike record other

def ItemsAlike (left right : List Json) : Prop := List.Forall₂ ItemAlike left right

mutual

/-- Payloads that differ only in texts under sensitive keys of the labels of their
records and series. -/
def PayloadAlike : Json → Json → Prop
  | .arr left, .arr right => ItemsAlike left right
  | .obj left, .obj right => EntriesAlike left right
  | left, right => left = right

def EntriesAlike : Fields → Fields → Prop
  | [], [] => True
  | (key, left) :: lefts, (other, right) :: rights =>
    (key = other ∧ (ValueAlike key left right ∨ (key ∈ "series" :: listKeys ∧
        ∃ values others, left = .arr values ∧ right = .arr others ∧ ItemsAlike values others) ∨
      key = "data" ∧ PayloadAlike left right)) ∧ EntriesAlike lefts rights
  | _, _ => False

end

/-! ## Alike records -/

lemma LabelAlike.refl (label : String × Json) : LabelAlike label label := ⟨rfl, Or.inl rfl⟩

lemma FieldAlike.refl (entry : String × Json) : FieldAlike entry entry := ⟨rfl, Or.inl rfl⟩

lemma LabelsAlike.refl (labels : Fields) : LabelsAlike labels labels :=
  List.forall₂_same.2 fun label _ => .refl label

lemma RecordAlike.refl (record : Fields) : RecordAlike record record :=
  List.forall₂_same.2 fun entry _ => .refl entry

lemma ItemsAlike.refl (values : List Json) : ItemsAlike values values :=
  List.forall₂_same.2 fun _ _ => Or.inl rfl

variable {left right : Fields} {key : String}

lemma EntriesAlike.of_fields (alike : RecordAlike left right) : EntriesAlike left right := by
  induction alike with
  | nil => exact trivial
  | cons first rest ih => exact ⟨⟨first.1, Or.inl first.2⟩, ih⟩

lemma PayloadAlike.refl (payload : Json) : PayloadAlike payload payload := by
  cases payload with
  | arr values => exact ItemsAlike.refl values
  | obj fields => exact EntriesAlike.of_fields (.refl fields)
  | _ => exact rfl

lemma EntriesAlike.append {front back other : Fields} (alike : EntriesAlike back other) :
    EntriesAlike (front ++ back) (front ++ other) := by
  induction front with
  | nil => exact alike
  | cons entry rest ih => exact ⟨⟨rfl, Or.inl (Or.inl rfl)⟩, ih⟩

def FoundAlike (key : String) (left right : Option Json) : Prop :=
  left = right ∨ ∃ value other, left = some value ∧ right = some other ∧ ValueAlike key value other

def recordKeys : List String := attributeKeys ++ eventFields.flatMap EventField.aliases

lemma plain_recordKeys : ∀ key ∈ recordKeys, sensitiveLabel key = false := by
  decide +kernel

/-- Records that agree on every key that is read, but for personal labels. -/
def Akin (left right : Fields) : Prop :=
  ∀ key ∈ recordKeys, FoundAlike key (left.get? key) (right.get? key)

lemma RecordAlike.found (alike : RecordAlike left right) (key : String) :
    FoundAlike key (left.get? key) (right.get? key) := by
  induction alike with
  | nil => exact .inl rfl
  | @cons entry other _ _ first rest ih =>
    rw [Fields.get?_cons, Fields.get?_cons, ← first.1]
    split
    · next eq => exact .inr ⟨entry.2, other.2, rfl, rfl, eq ▸ first.2⟩
    exact ih

lemma RecordAlike.akin (alike : RecordAlike left right) :
    Akin left right := fun key _ => alike.found key

lemma FoundAlike.cases {left right : Option Json} (alike : FoundAlike key left right) :
    left = right ∨ key ∈ labelKeys ∧
      ∃ labels others, left = some (.obj labels) ∧ right = some (.obj others) ∧
        LabelsAlike labels others := by
  rcases alike with eq | ⟨value, other, rfl, rfl, eq | ⟨labelled, labels, others, rfl, rfl, alike⟩⟩
  · exact .inl eq
  · exact .inl (congrArg some eq)
  · exact .inr ⟨labelled, labels, others, rfl, rfl, alike⟩

lemma FoundAlike.eq {left right : Option Json} (alike : FoundAlike key left right)
    (plain : key ∉ labelKeys) : left = right := by
  rcases alike.cases with eq | ⟨labelled, -⟩
  · exact eq
  exact absurd labelled plain

lemma Akin.set (akin : Akin left right) {value other : Json} (alike : ValueAlike key value other) :
    Akin (left.set key value) (right.set key other) := by
  intro wanted read
  rw [Fields.get?_set, Fields.get?_set]
  split
  · next eq => exact .inr ⟨value, other, rfl, rfl, eq ▸ alike⟩
  exact akin wanted read

lemma LabelsAlike.get? (alike : LabelsAlike left right) (plain : sensitiveLabel key = false) :
    left.get? key = right.get? key := by
  induction alike with
  | nil => rfl
  | @cons entry other _ _ first rest ih =>
    obtain ⟨named, eq | ⟨sensitive, -⟩⟩ := first
    · rw [Fields.get?_cons, Fields.get?_cons, named, eq, ih]
    have apart : entry.1 ≠ key := by
      rintro rfl
      rw [plain] at sensitive
      cases sensitive
    rw [Fields.get?_cons, Fields.get?_cons, if_neg apart, if_neg (named ▸ apart), ih]

lemma LabelsAlike.akin (alike : LabelsAlike left right) :
    Akin left right := fun key read => Or.inl (alike.get? (plain_recordKeys key read))

lemma LabelsAlike.isEmpty (alike : LabelsAlike left right) : left.isEmpty = right.isEmpty := by
  cases alike <;> rfl

/-! ## Events -/

section
variable {library : Library} {defaults : Defaults} {operation : String}

lemma plain_key (name : EventField) : sensitiveLabel name.key = false := by
  cases name <;> decide +kernel

variable {name : EventField} {spelling : String}

lemma mem_recordKeys_of_alias (mem : spelling ∈ name.aliases) : spelling ∈ recordKeys := by
  refine List.mem_append_right _ (List.mem_flatMap.2 ⟨name, ?_, mem⟩)
  cases name <;> decide

lemma alias_unlabelled (mem : spelling ∈ name.aliases) : spelling ∉ labelKeys := by
  intro labelled
  revert mem
  rcases List.mem_cons.1 labelled with rfl | labelled
  · cases name <;> decide
  rw [List.mem_singleton.1 labelled]
  cases name <;> decide

variable {left right : Fields} {key : String}

lemma Akin.get? (akin : Akin left right) (read : key ∈ recordKeys) (plain : key ∉ labelKeys) :
    left.get? key = right.get? key :=
  (akin key read).eq plain

lemma Akin.present? (akin : Akin left right) (read : key ∈ recordKeys) (plain : key ∉ labelKeys) :
    present? left key = present? right key := by
  rw [Capabilities.present?, Capabilities.present?, akin.get? read plain]

lemma findSome?_congr {α β : Type} {items : List α} {left right : α → Option β}
    (eq : ∀ item ∈ items, left item = right item) :
    items.findSome? left = items.findSome? right := by
  induction items with
  | nil => rfl
  | cons item rest ih =>
    rw [List.findSome?_cons, List.findSome?_cons, eq item List.mem_cons_self,
      ih fun other mem => eq other (List.mem_cons_of_mem _ mem)]

lemma Akin.firstAlias (akin : Akin left right) (name : EventField) :
    name.aliases.findSome? (Capabilities.present? left) =
      name.aliases.findSome? (Capabilities.present? right) := by
  exact findSome?_congr fun spelling mem =>
    akin.present? (mem_recordKeys_of_alias mem) (alias_unlabelled mem)

lemma nestedLabels_akin (akin : Akin left right) :
    LabelsAlike (nestedLabels left) (nestedLabels right) := by
  unfold nestedLabels
  rcases (akin "metric" (by decide)).cases with eq | ⟨-, labels, more, found, others, alike⟩
  · rw [eq]
    exact .refl _
  rw [found, others]
  exact alike

lemma fieldOr_akin (akin : Akin left right) (name : EventField) :
    fieldOr library left (nestedLabels left) name = fieldOr library right (nestedLabels right) name := by
  rw [fieldOr, fieldOr, field, field, akin.firstAlias, (nestedLabels_akin akin).get? (plain_key name)]

def finalAttributes (library : Library) (operation : String) (record : Fields) : Fields :=
  withLabels library record (nestedLabels record)
    (attributesOf library operation record (nestedLabels record))

lemma normalizeEvent_akin (akin : Akin left right) (index : Nat) :
    normalizeEvent library defaults operation right index =
      (normalizeEvent library defaults operation left index).map fun event =>
        { event with attributes := finalAttributes library operation right } := by
  have stamp : timestampField library right = timestampField library left := by
    rw [timestampField, timestampField, akin.firstAlias]
  simp only [normalizeEvent, stamp, ← fieldOr_akin akin]
  cases timestampField library left with
  | error failure => rfl
  | ok found =>
    cases found with
    | none => rfl
    | some text =>
      simp only [bind, Except.bind]
      split
      · rfl
      rfl

/-- What the attribute `metric` shows. -/
def shownMetric (library : Library) (record : Fields) : Option Json :=
  (present? record "metric").map (redact (redactText library.word))

lemma attribute?_metric (record : Fields) :
    attribute? record (nestedLabels record) "metric" = present? record "metric" := by
  unfold attribute?
  split
  · next found => rw [found]
  next absent =>
  have empty : nestedLabels record = [] := by
    unfold present? at absent
    unfold nestedLabels
    split at absent
    · next found => rw [found]; rfl
    next found => rw [absent]; rfl
  rw [absent, empty]
  rfl

lemma attribute?_akin (akin : Akin left right) (read : key ∈ recordKeys)
    (eq : present? left key = present? right key) :
    attribute? left (nestedLabels left) key = attribute? right (nestedLabels right) key := by
  have nested : present? (nestedLabels left) key = present? (nestedLabels right) key := by
    rw [present?, present?, (nestedLabels_akin akin).get? (plain_recordKeys key read)]
  rw [attribute?, attribute?, eq, nested]

lemma safeLabels_alike (alike : LabelsAlike left right) :
    safeLabels library left = safeLabels library right := by
  unfold safeLabels
  induction alike with
  | nil => rfl
  | @cons label other _ _ first rest ih =>
    obtain ⟨named, eq⟩ := first
    rw [List.filter_cons, List.filter_cons, ← named]
    split
    · next safe =>
      rcases eq with eq | ⟨sensitive, -⟩
      · rw [List.map_cons, List.map_cons, ih, named, eq]
      rw [sensitive] at safe
      cases safe
    · exact ih

def attributeEntry (library : Library) (record : Fields) (key : String) : Option (String × Json) :=
  (attribute? record (nestedLabels record) key).map fun candidate =>
    (key, redact (redactText library.word) candidate)

lemma attributesOf_eq (record : Fields) : attributesOf library operation record (nestedLabels record) =
      ("operation", .str operation) :: attributeKeys.filterMap (attributeEntry library record) := rfl

lemma attributeEntry_akin (akin : Akin left right)
    (shown : shownMetric library left = shownMetric library right) (mem : key ∈ attributeKeys)
    (apart : key ≠ "labels") :
    attributeEntry library left key = attributeEntry library right key := by
  by_cases metric : key = "metric"
  · subst metric
    unfold shownMetric at shown
    unfold attributeEntry
    rw [attribute?_metric, attribute?_metric]
    have paired := congrArg (Option.map fun value => ("metric", value)) shown
    rw [Option.map_map, Option.map_map] at paired
    exact paired
  · have plain : key ∉ labelKeys := by simp [labelKeys, apart, metric]
    have read : key ∈ recordKeys := List.mem_append_left _ mem
    rw [attributeEntry, attributeEntry, attribute?_akin akin read (akin.present? read plain)]

lemma has_labels {record labels : Fields} (found : record.get? "labels" = some (.obj labels)) :
    (attributesOf library operation record (nestedLabels record)).has "labels" = true := by
  rw [Fields.has_iff, attributesOf_eq]
  have entry : attributeEntry library record "labels" =
      some ("labels", redact (redactText library.word) (.obj labels)) := by
    simp [attributeEntry, attribute?, present?, found]
  refine ⟨_, List.mem_cons_of_mem _ (List.mem_filterMap.2 ⟨"labels", by decide, entry⟩), rfl⟩

lemma finalAttributes_akin (akin : Akin left right)
    (shown : shownMetric library left = shownMetric library right) :
    finalAttributes library operation left = finalAttributes library operation right := by
  unfold finalAttributes withLabels
  rcases (akin "labels" (by decide)).cases with eq | ⟨-, labels, more, found, others, alike⟩
  · have entries : attributesOf library operation left (nestedLabels left) =
        attributesOf library operation right (nestedLabels right) := by
      rw [attributesOf_eq, attributesOf_eq]
      congr 1
      refine List.filterMap_congr fun key mem => ?_
      by_cases labels : key = "labels"
      · have present : present? left key = present? right key := by
          rw [labels, present?, present?, eq]
        rw [attributeEntry, attributeEntry, attribute?_akin akin (List.mem_append_left _ mem) present]
      · exact attributeEntry_akin akin shown mem labels
    have nested := nestedLabels_akin akin
    rw [eq, entries, nested.isEmpty, safeLabels_alike nested]
  · rw [found, others]
    simp only [Option.bind_some, Json.fields?_obj]
    rw [safeLabels_alike alike, Fields.set_present (has_labels found),
      Fields.set_present (has_labels others), attributesOf_eq, attributesOf_eq, List.map_cons,
      List.map_cons, List.map_filterMap, List.map_filterMap]
    congr 1
    refine List.filterMap_congr fun key mem => ?_
    by_cases labels : key = "labels"
    · simp [labels, attributeEntry, attribute?, present?, found, others]
    rw [attributeEntry_akin akin shown mem labels]

end

end Obsion.Capabilities
