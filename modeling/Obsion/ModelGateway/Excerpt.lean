import Obsion.ModelGateway.Packed

/-! # Structured excerpts

The selection loop keeps the length of the serialised payload without serialising it, and what it
returns accounts for every unit. -/

namespace Obsion.ModelGateway.Context

variable {units : List Json} {selected : List Nat} {budget : Int} {question : List Char} {index : Nat}
variable {unit : Json}

lemma perm_selectedItems (units : List Json) (selected : List Nat) :
    (selectedItems units selected).Perm (selected.filterMap fun index => units[index]?) :=
  (List.perm_insertionSort _ selected).filterMap _

lemma perm_selectedItems_append (found : units[index]? = some unit) :
    (selectedItems units (selected ++ [index])).Perm (unit :: selectedItems units selected) := by
  refine (perm_selectedItems units _).trans ?_
  have last : [index].filterMap (fun index => units[index]?) = [unit] := by simp [found]
  rw [List.filterMap_append, last]
  exact (List.perm_append_singleton unit _).trans ((perm_selectedItems units selected).symm.cons unit)

def itemChars (items : List Json) : Int :=
  (items.map fun item => (item.compact.length : Int)).sum + (items.length - 1 : Nat)

lemma length_intercalate (parts : List (List Char)) : ((List.intercalate [','] parts).length : Int) =
    (parts.map fun part => (part.length : Int)).sum + (parts.length - 1 : Nat) := by
  induction parts with
  | nil => rfl
  | cons part parts ih =>
    cases parts with
    | nil => simp
    | cons next parts =>
      rw [List.intercalate_cons_cons, List.length_append, List.length_append, List.map_cons, List.sum_cons]
      push_cast
      rw [ih]
      simp
      omega

lemma length_compact_arr (items : List Json) : ((Json.arr items).compact.length : Int) = itemChars items + 2 := by
  have lengths := length_intercalate (items.map Json.compact)
  rw [Json.compact, compactValues_eq, List.length_cons, List.length_append, List.length_singleton]
  push_cast
  rw [lengths, itemChars, List.map_map, List.length_map]
  simp only [Function.comp_def]
  omega

lemma itemChars_perm {left right : List Json} (perm : left.Perm right) : itemChars left = itemChars right := by
  rw [itemChars, itemChars, (perm.map _).sum_eq, perm.length_eq]

lemma itemChars_cons (unit : Json) (items : List Json) :
    itemChars (unit :: items) = unit.compact.length + (if items = [] then 0 else 1) + itemChars items := by
  rw [itemChars, itemChars, List.map_cons, List.sum_cons, List.length_cons]
  cases items with
  | nil => simp
  | cons next items =>
    rw [if_neg (List.cons_ne_nil _ _), List.length_cons]
    omega

/-- The length of a payload: what does not change, the counter and the items. -/
lemma length_payload (units : List Json) : ∃ fixed : Int, ∀ selected,
    ((payload units selected).compact.length : Int) =
      fixed + digits (units.length - selected.length) + itemChars (selectedItems units selected) := by
  have members : ∃ front middle : List Char, ∀ selected, (payload units selected).compact =
      front ++ (toString ((units.length : Int) - selected.length)).toList ++ middle ++
        (Json.arr (selectedItems units selected)).compact ++ ['\x7d'] := by
    refine ⟨'\x7b' :: (quoteWith escapeChar "summarized".toList ++ ':' :: ("true".toList ++ ',' ::
      (quoteWith escapeChar "incomplete".toList ++ ':' :: ("true".toList ++ ',' ::
        (quoteWith escapeChar "omitted_blocks".toList ++ [':']))))),
      ',' :: (quoteWith escapeChar "items".toList ++ [':']), fun selected => ?_⟩
    rw [payload, Json.compact]
    simp only [compactMembers, List.intercalate_cons_cons, List.intercalate_singleton, Json.compact, List.append_assoc,
      List.cons_append, List.nil_append, if_true]
  obtain ⟨front, middle, shape⟩ := members
  refine ⟨front.length + middle.length + 3, fun selected => ?_⟩
  have array := length_compact_arr (selectedItems units selected)
  rw [shape]
  simp only [List.length_append, List.length_singleton]
  push_cast
  rw [array, digits]
  omega

lemma length_filterMap_getElem? (bound : ∀ index ∈ selected, index < units.length) :
    (selected.filterMap fun index => units[index]?).length = selected.length := by
  induction selected with
  | nil => rfl
  | cons index rest ih =>
    obtain ⟨first, others⟩ := List.forall_mem_cons.1 bound
    rw [List.filterMap_cons_some (List.getElem?_eq_getElem first), List.length_cons, List.length_cons, ih others]

lemma length_selectedItems (bound : ∀ index ∈ selected, index < units.length) :
    (selectedItems units selected).length = selected.length :=
  (perm_selectedItems units selected).length_eq.trans (length_filterMap_getElem? bound)

lemma filterMap_range (units : List Json) :
    (List.range units.length).filterMap (fun index => units[index]?) = units := by
  induction units with
  | nil => rfl
  | cons unit units ih =>
    have first : (unit :: units)[0]? = some unit := rfl
    rw [List.length_cons, List.range_succ_eq_map, List.filterMap_cons_some first, List.filterMap_map]
    exact congrArg (List.cons unit) ih

/-- The selected items stand in the order of the units. -/
lemma sublist_selectedItems (distinct : selected.Nodup) (bound : ∀ index ∈ selected, index < units.length) :
    (selectedItems units selected).Sublist units := by
  have sorted : (selected.insertionSort (· ≤ ·)).Sublist (List.range units.length) := by
    have among : (selected.insertionSort (· ≤ ·)).Subperm (List.range units.length) :=
      ((List.perm_insertionSort _ selected).nodup_iff.2 distinct).subperm fun index inside =>
        List.mem_range.2 (bound index ((List.mem_insertionSort _).1 inside))
    have ordered := List.sublist_insertionSort' (List.pairwise_insertionSort (· ≤ ·) selected) among
    rwa [List.Pairwise.insertionSort_eq List.pairwise_le_range] at ordered
  rw [selectedItems]
  conv_rhs => rw [← filterMap_range units]
  exact sorted.filterMap _

/-- The state of the loop once it has visited those units. -/
structure Accurate (units : List Json) (budget : Int) (visited : List (Nat × List Char)) (state : Selection) : Prop where
  distinct : state.selected.Nodup
  bound : ∀ index ∈ state.selected, index < units.length
  among : ∀ index ∈ state.selected, index ∈ visited.map Prod.fst
  size : state.size = (payload units state.selected).compact.length
  fits : (payload units []).compact.length ≤ budget → state.size ≤ budget

lemma accurate_start : Accurate units budget [] (.start units) where
  distinct := List.nodup_nil
  bound := List.forall_mem_nil _
  among := List.forall_mem_nil _
  size := rfl
  fits := id

variable {visited : List (Nat × List Char)} {state : Selection} {done : List Char} {body : Fields}
  {collection textKey : String} {entries : List Json} {result : Json}

lemma Accurate.step (accurate : Accurate units budget visited state)
    (found : units[index]? = some unit) (fresh : index ∉ visited.map Prod.fst) :
    Accurate units budget (visited ++ [(index, unit.compact)]) (state.step units budget (index, unit.compact)) := by
  have more : ∀ {other : Nat}, other ∈ visited.map Prod.fst →
      other ∈ (visited ++ [(index, unit.compact)]).map Prod.fst := fun inside => by
    rw [List.map_append]
    exact List.mem_append_left _ inside
  unfold Selection.step
  dsimp only
  split
  next room =>
    obtain ⟨fixed, lengths⟩ := length_payload units
    have items : itemChars (selectedItems units (state.selected ++ [index])) =
        itemChars (unit :: selectedItems units state.selected) := itemChars_perm (perm_selectedItems_append found)
    have empty : selectedItems units state.selected = [] ↔ state.selected = [] := by
      rw [← List.length_eq_zero_iff, length_selectedItems accurate.bound, List.length_eq_zero_iff]
    refine ⟨?_, ?_, ?_, ?_, fun _ => room⟩
    · refine List.nodup_append.2 ⟨accurate.distinct, List.nodup_singleton index, ?_⟩
      rintro other inside _ last rfl
      exact fresh (List.mem_singleton.1 last ▸ accurate.among other inside)
    · refine List.forall_mem_append.2 ⟨accurate.bound, List.forall_mem_singleton.2 ?_⟩
      exact (List.getElem?_eq_some_iff.1 found).1
    · refine List.forall_mem_append.2 ⟨fun other inside => more (accurate.among other inside), ?_⟩
      simp
    · have size := accurate.size
      dsimp only
      rw [size, lengths, lengths, items, itemChars_cons, List.length_append, List.length_singleton, Selection.delta]
      have less : (units.length : Int) - (state.selected.length + 1 : Nat) = units.length - state.selected.length - 1 := by
        omega
      rw [less]
      simp only [empty]
      ring
  next => exact ⟨accurate.distinct, accurate.bound, fun other inside => more (accurate.among other inside),
      accurate.size, accurate.fits⟩

lemma rankedUnits_ok (units : List Json) (question : List Char) :
    ((rankedUnits units question).map Prod.fst).Nodup ∧
      ∀ entry ∈ rankedUnits units question, ∃ unit, units[entry.1]? = some unit ∧ entry.2 = unit.compact := by
  have perm := List.perm_insertionSort (fun left right : Nat × List Char =>
    (toLex (-(score (tokens question) left.2 : Int), left.1) : Int ×ₗ Nat) ≤
      toLex (-(score (tokens question) right.2 : Int), right.1)) (units.mapIdx fun index unit => (index, unit.compact))
  constructor
  · refine (perm.map Prod.fst).nodup_iff.2 ?_
    have names : (units.mapIdx fun index unit => (index, unit.compact)).map Prod.fst = List.range units.length :=
      List.ext_getElem (by simp) (by simp)
    rw [names]
    exact List.nodup_range
  · intro entry inside
    obtain ⟨index, bound, rfl⟩ := List.mem_mapIdx.1 (perm.mem_iff.1 inside)
    exact ⟨units[index], List.getElem?_eq_getElem bound, rfl⟩

/-- The running size is the length of the payload in every turn of the loop. -/
lemma accurate_select {rest : List (Nat × List Char)}
    (ranked : rankedUnits units question = visited ++ rest) :
    Accurate units budget visited (select units budget visited) := by
  obtain ⟨distinct, known⟩ := rankedUnits_ok units question
  rw [ranked] at distinct known
  clear ranked
  induction visited using List.reverseRecOn generalizing rest with
  | nil => exact accurate_start
  | append_singleton visited entry ih =>
    obtain ⟨index, text⟩ := entry
    obtain ⟨unit, found, rfl⟩ := known (index, text) (by simp)
    rw [List.append_assoc] at distinct known
    have before := ih distinct known
    rw [List.map_append, List.nodup_append] at distinct
    have fresh : index ∉ visited.map Prod.fst := fun inside =>
      distinct.2.2 index inside index List.mem_cons_self rfl
    rw [select, List.foldl_append]
    exact before.step found fresh

/-! ## Units -/

lemma flatten_splitLines (text : List Char) : (splitLines text).flatten = text := by
  induction text using splitLines.induct with
  | case1 => rfl
  | case2 rest ih => rw [splitLines, List.flatten_cons, ih]; rfl
  | case3 char rest apart ends ih =>
    rw [splitLines, if_pos ends, List.flatten_cons, ih]
    · rfl
    · exact apart
  | case4 _ _ apart ends none_ ih | case5 _ _ apart ends _ _ none_ ih =>
    rw [none_] at ih
    rw [splitLines, if_neg ends, none_, ← ih]
    · rfl
    · exact apart

/-- The blocks so far stand in the text so far, and the open lines end it. -/
structure Cut (done : List Char) (state : Blocks) : Prop where
  blocks : ∀ block ∈ state.blocks, block <:+: done
  lines : state.lines.flatten <:+ done

lemma Cut.close {state : Blocks} (cut : Cut done state) : Cut done state.close := by
  unfold Blocks.close
  split
  · exact cut
  refine ⟨fun block inside => ?_, List.nil_suffix⟩
  obtain inside | inside := List.mem_append.1 inside
  · exact cut.blocks block inside
  rw [List.mem_singleton.1 inside]
  exact cut.lines.isInfix

lemma lines_close (state : Blocks) : state.close.lines = [] := by
  unfold Blocks.close
  split
  · assumption
  rfl

lemma Cut.step {state : Blocks} (cut : Cut done state) (line : List Char) :
    Cut (done ++ line) (state.step line) := by
  have later : ∀ {block : List Char}, block <:+: done → block <:+: done ++ line := fun inside =>
    inside.trans (List.prefix_append done line).isInfix
  unfold Blocks.step
  dsimp only
  split
  · have closed : Cut done { state with fence := fenceAfter state.fence line }.close := Cut.close ⟨cut.blocks, cut.lines⟩
    exact ⟨fun block inside => later (closed.blocks block inside), by rw [lines_close]; exact List.nil_suffix⟩
  refine ⟨fun block inside => later (cut.blocks block inside), ?_⟩
  obtain ⟨front, eq⟩ := cut.lines
  exact ⟨front, by simp [← eq]⟩

lemma infix_of_mem_bodyBlocks {text block : List Char} (mem : block ∈ bodyBlocks text) : block <:+: text := by
  suffices cut : ∀ (lines : List (List Char)) (done : List Char) (state : Blocks), Cut done state →
      Cut (done ++ lines.flatten) (lines.foldl Blocks.step state) by
    have whole := (cut (splitLines text) [] ⟨[], [], none⟩ ⟨nofun, List.nil_suffix⟩).close
    rw [List.nil_append, flatten_splitLines] at whole
    exact whole.blocks block mem
  intro lines
  induction lines with
  | nil =>
    intro done state cut
    rwa [List.flatten_nil, List.append_nil]
  | cons line rest ih =>
    intro done state cut
    rw [List.flatten_cons, ← List.append_assoc]
    exact ih _ _ (cut.step line)

/-- A property that units inherit from the value they are taken from. -/
structure Stable (holds : Json → Prop) : Prop where
  element {values : List Json} {value : Json} : holds (.arr values) → value ∈ values → holds value
  member {fields : Fields} {key : String} {value : Json} :
    holds (.obj fields) → fields.get? key = some value → holds value
  block {text : String} {block : List Char} :
    holds (.str text) → block <:+: text.toList → holds (.str (String.ofList block))
  replaced {fields : Fields} {key : String} {old value : Json} : holds (.obj fields) → fields.get? key = some old →
    holds value → holds (.obj ((fields.filter fun field => field.1 ≠ key) ++ [(key, value)]))
  changed {fields : Fields} {key : String} {old value : Json} : holds (.obj fields) → fields.get? key = some old →
    holds value → holds (.obj (fields.set key value))
  wrapped {fields : Fields} {key : String} {old value : Json} : holds (.obj fields) → fields.get? key = some old →
    holds value → holds (.obj [(key, .arr [value])])

variable {holds : Json → Prop} {found : Json}

lemma Stable.of_withBlocks (stable : Stable holds) {text : String} {place : Json → Json} (whole : holds (.str text))
    (placed : ∀ block, holds block → holds (place block)) : ∀ unit ∈ withBlocks text place, holds unit := by
  intro unit inside
  obtain ⟨block, mem, rfl⟩ := List.mem_map.1 inside
  exact placed _ (stable.block whole (infix_of_mem_bodyBlocks mem))

lemma collections_ok (listed : collections body = some (collection, textKey, entries)) :
    body.get? collection = some (.arr entries) := by
  obtain ⟨⟨first, second⟩, mem, answer⟩ := List.exists_of_findSome?_eq_some listed
  dsimp only at answer
  split at answer
  next listed =>
    cases answer
    exact listed
  next => cases answer

lemma Stable.of_entryUnits (stable : Stable holds) {fields : Fields} {old : Json} {entry : Json}
    (whole : holds (.obj fields)) (content : fields.get? "content" = some old)
    (inner : holds (.obj body)) (held : body.get? collection = some (.arr entries))
    (own : holds entry) :
    ∀ unit ∈ entryUnits (fields.filter fun field => field.1 ≠ "content") collection textKey entry, holds unit := by
  unfold entryUnits
  split
  next parts =>
    split
    next text written =>
      exact stable.of_withBlocks (stable.member own written) fun block plain =>
        stable.replaced whole content (stable.wrapped inner held (stable.changed own written plain))
    next => exact List.forall_mem_nil _
  next => exact List.forall_mem_nil _

lemma Stable.of_evidenceUnits (stable : Stable holds) (whole : holds found) :
    ∀ unit ∈ evidenceUnits found, holds unit := by
  have itself : ∀ unit ∈ [found], holds unit := List.forall_mem_singleton.2 whole
  unfold evidenceUnits
  split
  next fields =>
    dsimp only
    split
    next text content =>
      exact stable.of_withBlocks (stable.member whole content) fun block => stable.replaced whole content
    next body content =>
      have inner := stable.member whole content
      split
      next collection textKey entries listed =>
        have held := collections_ok listed
        intro unit inside
        obtain ⟨entry, among, inside⟩ := List.mem_flatMap.1 inside
        have own := stable.element (stable.member inner held) among
        exact stable.of_entryUnits whole content inner held own unit inside
      next => exact itself
    next => exact itself
  next => exact itself

lemma Stable.of_units (stable : Stable holds) (whole : holds found) : ∀ unit ∈ Context.units found, holds unit := by
  unfold Context.units
  split
  next items =>
    intro unit inside
    obtain ⟨item, listed, among⟩ := List.mem_flatMap.1 inside
    exact stable.of_evidenceUnits (stable.element whole listed) unit among
  next => exact stable.of_evidenceUnits whole

lemma stable_plain : Stable Loads.Plain where
  element := fun plain inside => Loads.PlainValues.mem plain inside
  member := by
    intro fields key value plain found
    obtain ⟨front, back, rfl, -⟩ := Fields.split_of_get? found
    exact plain.2.mem (List.mem_append_right _ List.mem_cons_self)
  block := fun _ _ => trivial
  replaced := by
    intro fields key old value plain found inner
    refine ⟨?_, Loads.plainMembers_iff.2 fun field inside => ?_⟩
    · rw [List.map_append, List.nodup_append]
      refine ⟨plain.1.sublist (List.filter_sublist.map _), List.nodup_singleton key, ?_⟩
      intro name inside other last
      obtain ⟨field, among, rfl⟩ := List.mem_map.1 inside
      rw [List.mem_singleton.1 last]
      exact of_decide_eq_true (List.mem_filter.1 among).2
    · obtain inside | inside := List.mem_append.1 inside
      · exact plain.2.mem (List.mem_of_mem_filter inside)
      rw [List.mem_singleton.1 inside]
      exact inner
  changed := by
    intro fields key old value plain found inner
    have present : fields.has key = true := by rw [Fields.has, found]; rfl
    refine ⟨?_, Loads.plainMembers_iff.2 fun field inside => ?_⟩
    · rw [Fields.keys_set present]
      exact plain.1
    rw [Fields.set_present present] at inside
    obtain ⟨own, among, rfl⟩ := List.mem_map.1 inside
    split
    · exact inner
    exact plain.2.mem among
  wrapped := fun _ _ inner => ⟨List.nodup_singleton _, ⟨inner, trivial⟩, trivial⟩

/-- What a result says of the units: its items are some of them, in their order, and the counter is
the number of the others. -/
def Tallied (units : List Json) (result : Json) : Prop :=
  ∀ (fields : Fields) (items : List Json), result = .obj fields → fields.get? "items" = some (.arr items) → items.Sublist units ∧
    ∀ count, fields.get? "omitted_blocks" = some (.int count) → count + items.length = units.length

lemma tallied_payload (accurate : Accurate units budget visited state) :
    Tallied units (payload units state.selected) := by
  rintro fields items eq listed
  cases eq
  cases listed
  refine ⟨sublist_selectedItems accurate.distinct accurate.bound, fun count counted => ?_⟩
  cases counted
  rw [length_selectedItems accurate.bound]
  omega

lemma tallied_fallback (mem : result ∈ fallbacks) : Tallied units result := by
  rintro fields items eq listed
  simp only [fallbacks, List.mem_cons, List.not_mem_nil, or_false] at mem
  obtain rfl | rfl | rfl := mem
  · cases eq
    cases listed
    exact ⟨List.nil_sublist _, fun count counted => by cases counted⟩
  · cases eq
    cases listed
  · cases eq
    cases listed

lemma printable_of_small {number : Int} (small : number.natAbs < 2 ^ 63) : Loads.Plain (.int number) := by
  have short : (Nat.toDigits 10 number.natAbs).length ≤ 19 :=
    (Nat.length_toDigits_le_iff (by decide) (by decide)).2 (small.trans (by norm_num))
  exact short.trans (by decide)

lemma plain_candidates (plain : ∀ unit ∈ units, Loads.Plain unit) (small : units.length < 2 ^ 63)
    (accurate : Accurate units budget (rankedUnits units question) (select units budget (rankedUnits units question)))
    (mem : result ∈ candidates units budget question) : Loads.Plain result := by
  obtain rfl | later := List.mem_cons.1 mem
  · have few := (sublist_selectedItems accurate.distinct accurate.bound).length_le
    rw [length_selectedItems accurate.bound] at few
    have names : ["summarized", "incomplete", "omitted_blocks", "items"].Nodup := by decide
    refine ⟨names, trivial, trivial, printable_of_small (by omega), Loads.plainValues_iff.2 ?_, trivial⟩
    exact fun item inside => plain item ((sublist_selectedItems accurate.distinct accurate.bound).subset inside)
  · simp only [fallbacks, List.mem_cons, List.not_mem_nil, or_false] at later
    obtain rfl | rfl | rfl := later
    · exact ⟨by decide, trivial, trivial, trivial, trivial⟩
    · exact ⟨by decide, trivial, trivial⟩
    · exact ⟨by decide, trivial⟩

end Obsion.ModelGateway.Context
