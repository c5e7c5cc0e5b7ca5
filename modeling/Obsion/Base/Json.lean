import Obsion.Base.Python

/-! # JSON values

What `json.loads` returns.  An object is a Python `dict`: its keys are unique and
`get?` is `dict.get`.  A number that is not an integer keeps its text. -/

namespace Obsion

inductive Json
  | null
  | bool (value : Bool)
  | int (value : Int)
  | float (text : String)
  | str (value : String)
  | arr (values : List Json)
  | obj (fields : List (String × Json))

/-- The fields of a JSON object. -/
abbrev Fields := List (String × Json)

def Fields.get? (fields : Fields) (key : String) : Option Json :=
  (fields.find? fun field => field.1 == key).map Prod.snd

def Fields.set (fields : Fields) (key : String) (value : Json) : Fields :=
  if fields.any fun field => field.1 == key then
    fields.map fun field => if field.1 = key then (key, value) else field
  else fields ++ [(key, value)]

def Fields.has (fields : Fields) (key : String) : Bool := (fields.get? key).isSome

def Json.fields? : Json → Option Fields
  | .obj fields => some fields
  | _ => none

def Json.str? : Json → Option String
  | .str value => some value
  | _ => none

def Json.values? : Json → Option (List Json)
  | .arr values => some values
  | _ => none

variable {fields : Fields} {key : String}

lemma Fields.has_iff : fields.has key = true ↔ ∃ field ∈ fields, field.1 = key := by
  rw [Fields.has, Fields.get?, Option.isSome_map, List.find?_isSome]
  simp only [beq_iff_eq]

lemma Fields.get?_cons (first : String × Json) (rest : Fields) (key : String) :
    Fields.get? (first :: rest) key = if first.1 = key then some first.2 else Fields.get? rest key := by
  unfold Fields.get?
  rw [List.find?_cons]
  by_cases eq : first.1 = key
  · rw [if_pos eq, beq_iff_eq.2 eq, Option.map_some]
  rw [if_neg eq, beq_eq_false_iff_ne.2 eq]

section
variable (present : fields.has key = true) (value : Json)
include present value

lemma Fields.set_present :
    fields.set key value = fields.map fun field => if field.1 = key then (key, value) else field := by
  rw [Fields.set, if_pos]
  rw [List.any_eq_true]
  obtain ⟨field, mem, eq⟩ := Fields.has_iff.1 present
  exact ⟨field, mem, beq_iff_eq.2 eq⟩

lemma Fields.get?_set_self :
    (fields.set key value).get? key = some value := by
  rw [Fields.set_present present]
  have stored := Fields.has_iff.1 present
  clear present
  induction fields with
  | nil =>
    obtain ⟨_, mem, _⟩ := stored
    cases mem
  | cons first rest ih =>
    rw [List.map_cons, Fields.get?_cons]
    by_cases eq : first.1 = key
    · rw [if_pos eq, if_pos rfl]
    rw [if_neg eq, if_neg eq]
    obtain ⟨field, mem, found⟩ := stored
    rcases List.mem_cons.1 mem with rfl | later
    · exact absurd found eq
    exact ih ⟨field, later, found⟩

lemma Fields.get?_set_of_ne {wanted : String} (apart : wanted ≠ key) :
    (fields.set key value).get? wanted = fields.get? wanted := by
  rw [Fields.set_present present]
  clear present
  induction fields with
  | nil => rfl
  | cons first rest ih =>
    rw [List.map_cons, Fields.get?_cons, Fields.get?_cons, ih]
    by_cases eq : first.1 = key
    · rw [if_pos eq, if_neg (Ne.symm apart), if_neg (eq ▸ Ne.symm apart)]
    rw [if_neg eq]

lemma Fields.keys_set :
    (fields.set key value).map Prod.fst = fields.map Prod.fst := by
  rw [Fields.set_present present, List.map_map]
  refine List.map_congr_left fun field _ => ?_
  rw [Function.comp_apply]
  split
  · next eq => exact eq.symm
  rfl

end

lemma Fields.get?_append (left right : Fields) (key : String) :
    Fields.get? (left ++ right) key = (Fields.get? left key).or (Fields.get? right key) := by
  induction left with
  | nil => simp [Fields.get?]
  | cons entry rest ih =>
    rw [List.cons_append, Fields.get?_cons, Fields.get?_cons, ih]
    split
    · rfl
    rfl

lemma Fields.get?_set (fields : Fields) (key wanted : String) (value : Json) :
    (fields.set key value).get? wanted = if wanted = key then some value else fields.get? wanted := by
  by_cases present : fields.has key = true
  · by_cases eq : wanted = key
    · rw [if_pos eq, eq, Fields.get?_set_self present]
    rw [if_neg eq, Fields.get?_set_of_ne present value eq]
  · have absent : fields.get? key = none := by
      rw [Fields.has, Option.not_isSome_iff_eq_none] at present
      exact present
    have fresh : ¬ (fields.any fun field => field.1 == key) = true := by
      rw [List.any_eq_true]
      rintro ⟨field, mem, eq⟩
      exact present (Fields.has_iff.2 ⟨field, mem, beq_iff_eq.1 eq⟩)
    rw [Fields.set, if_neg fresh, Fields.get?_append, Fields.get?_cons]
    by_cases eq : wanted = key
    · rw [eq, absent, if_pos rfl, if_pos rfl]
      rfl
    rw [if_neg eq, if_neg (Ne.symm eq)]
    cases fields.get? wanted <;> rfl

lemma Fields.split_of_get? {value : Json} (found : fields.get? key = some value) :
    ∃ front back, fields = front ++ (key, value) :: back ∧ Fields.get? front key = none := by
  induction fields with
  | nil => cases found
  | cons entry rest ih =>
    rw [Fields.get?_cons] at found
    split at found
    · next eq =>
      obtain ⟨name, stored⟩ := entry
      cases found
      cases eq
      exact ⟨[], rest, rfl, rfl⟩
    · next apart =>
      obtain ⟨front, back, rfl, absent⟩ := ih found
      exact ⟨entry :: front, back, rfl, by rw [Fields.get?_cons, if_neg apart, absent]⟩

lemma Fields.get?_replaced {front back : Fields} (value : Json)
    (absent : Fields.get? front key = none) :
    Fields.get? (front ++ (key, value) :: back) key = some value := by
  rw [Fields.get?_append, absent, Fields.get?_cons, if_pos rfl]
  rfl

@[simp] lemma Json.fields?_obj (fields : Fields) : (Json.obj fields).fields? = some fields := rfl

@[simp] lemma Json.str?_str (value : String) : (Json.str value).str? = some value := rfl

/-- `bool(value)`; a float is true unless its text is zero. -/
def Json.truthy : Json → Bool
  | .null => false
  | .bool value => value
  | .int value => value != 0
  | .float text => text != "0.0" && text != "-0.0"
  | .str value => value != ""
  | .arr values => !values.isEmpty
  | .obj fields => !fields.isEmpty

/-- The integer a number or a boolean counts as in `==`. -/
def Json.int? : Json → Option Int
  | .bool value => some (if value then 1 else 0)
  | .int value => some value
  | _ => none

mutual

/-- `left == right`; floats are compared by their texts. -/
def Json.equal : Json → Json → Bool
  | .null, .null => true
  | .float left, .float right => left == right
  | .str left, .str right => left == right
  | .arr left, .arr right => Json.equalItems left right
  | .obj left, .obj right => left.length == right.length && Json.equalFields left right
  | left, right =>
    match left.int?, right.int? with
    | some number, some other => number == other
    | _, _ => false

def Json.equalItems : List Json → List Json → Bool
  | [], [] => true
  | left :: lefts, right :: rights => Json.equal left right && Json.equalItems lefts rights
  | _, _ => false

def Json.equalFields : List (String × Json) → Fields → Bool
  | [], _ => true
  | (key, left) :: rest, others =>
    (match others.get? key with
      | some right => Json.equal left right
      | none => false) && Json.equalFields rest others

end

/-! ## What holds inside a value, and how deep it is -/

mutual

def Json.all (test : Json → Bool) : Json → Bool
  | .arr values => test (.arr values) && allValues test values
  | .obj fields => test (.obj fields) && allMembers test fields
  | .null => test .null
  | .bool answer => test (.bool answer)
  | .int number => test (.int number)
  | .float text => test (.float text)
  | .str text => test (.str text)

def allValues (test : Json → Bool) : List Json → Bool
  | [] => true
  | value :: rest => value.all test && allValues test rest

def allMembers (test : Json → Bool) : List (String × Json) → Bool
  | [] => true
  | (_, value) :: rest => value.all test && allMembers test rest

end

mutual

def Json.depth : Json → Nat
  | .arr values => depthValues values + 1
  | .obj fields => depthMembers fields + 1
  | _ => 0

def depthValues : List Json → Nat
  | [] => 0
  | value :: rest => max value.depth (depthValues rest)

def depthMembers : List (String × Json) → Nat
  | [] => 0
  | (_, value) :: rest => max value.depth (depthMembers rest)

end

end Obsion
