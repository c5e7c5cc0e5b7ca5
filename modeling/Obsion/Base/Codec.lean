import Obsion.Base.Json
import Obsion.Lib.Traverse

/-! # Strict models

How a strict model that forbids extra fields reads a JSON object, and the codecs of its fields: a
value is read back from its dump. -/

namespace Obsion

def optionJson {α : Type} (dump : α → Json) : Option α → Json
  | some value => dump value
  | none => .null

structure Codec (α : Type) where
  dump : α → Json
  read : Json → Option α
  read_dump : ∀ value, read (dump value) = some value

attribute [simp] Codec.read_dump

namespace Codec

variable {α : Type}

def text : Codec String := ⟨Json.str, Json.str?, fun _ => rfl⟩

def int : Codec Int where
  dump := Json.int
  read := fun value => match value with
    | .int number => some number
    | _ => none
  read_dump := fun _ => rfl

def bool : Codec Bool where
  dump := Json.bool
  read := fun value => match value with
    | .bool answer => some answer
    | _ => none
  read_dump := fun _ => rfl

def json : Codec Json := ⟨id, some, fun _ => rfl⟩

def members : Codec Fields := ⟨Json.obj, Json.fields?, fun _ => rfl⟩

def optional (codec : Codec α) (filled : ∀ value, codec.dump value ≠ .null) : Codec (Option α) where
  dump := optionJson codec.dump
  read := fun value => match value with
    | .null => some none
    | other => (codec.read other).map some
  read_dump := by
    intro value
    cases value with
    | none => rfl
    | some inner =>
      change (match codec.dump inner with
        | .null => some none
        | other => (codec.read other).map some) = _
      split
      next empty => exact absurd empty (filled inner)
      next => rw [codec.read_dump, Option.map_some]

def list (codec : Codec α) : Codec (List α) where
  dump := fun values => .arr (values.map codec.dump)
  read := fun value => match value with
    | .arr values => values.mapM codec.read
    | _ => none
  read_dump := by
    intro values
    dsimp only
    induction values with
    | nil => rfl
    | cons value rest ih =>
      rw [List.map_cons, List.mapM_cons, codec.read_dump, ih]
      rfl

def texts : Codec (List (String × String)) where
  dump := fun values => .obj (values.map fun field => (field.1, .str field.2))
  read := fun value => match value with
    | .obj fields => fields.mapM fun field => field.2.str?.map fun text => (field.1, text)
    | _ => none
  read_dump := by
    intro values
    dsimp only
    induction values with
    | nil => rfl
    | cons value rest ih =>
      rw [List.map_cons, List.mapM_cons, ih]
      rfl

def only (dumped : Json) (test : Json → Bool) (same : test dumped = true) : Codec Unit where
  dump := fun _ => dumped
  read := fun value => if test value then some () else none
  read_dump := fun _ => if_pos same

def literal (all : List α) (str : α → String) (found : ∀ value, all.find? (fun other => str other = str value)
    = some value) : Codec α where
  dump := fun value => .str (str value)
  read := fun value => match value with
    | .str name => all.find? fun other => str other = name
    | _ => none
  read_dump := found

end Codec

def closedFields (fields : Fields) (keys : List String) : Bool := fields.all fun field => keys.contains field.1

section

variable {α : Type} (codec : Codec α) (fields : Fields) (key : String)

def required : Option α := (fields.get? key).bind codec.read

def withDefault (default : α) : Option α :=
  match fields.get? key with
  | some value => codec.read value
  | none => some default

end

/-- A model that forbids extra fields, and what it makes of its fields. -/
def readModel {α : Type} (keys : List String) (build : Fields → Option α) (raw : Json) : Option α :=
  raw.fields?.bind fun fields => if closedFields fields keys then build fields else none

lemma readModel_obj {α : Type} {keys : List String} {build : Fields → Option α} {fields : Fields}
    (eq : fields.map Prod.fst = keys) : readModel keys build (.obj fields) = build fields := by
  subst eq
  rw [readModel, Json.fields?_obj, Option.bind_some, if_pos]
  refine List.all_eq_true.2 fun field inside => ?_
  exact List.elem_eq_true_of_mem (List.mem_map_of_mem inside)

section

variable {α : Type} {codec : Codec α} {fields : Fields} {name key : String} {value : Json} {default : α}

lemma required_cons : required codec ((name, value) :: fields) key
    = if name = key then codec.read value else required codec fields key := by
  rw [required, Fields.get?_cons, required]
  split <;> rfl

lemma withDefault_cons : withDefault codec ((name, value) :: fields) key default
    = if name = key then codec.read value else withDefault codec fields key default := by
  rw [withDefault, Fields.get?_cons, withDefault]
  by_cases eq : name = key
  · rw [if_pos eq, if_pos eq]
  rw [if_neg eq, if_neg eq]

end

end Obsion
