import Obsion.Domain.Closure
import Obsion.Domain.Settled
import Obsion.Domain.Stored

/-! # Loading stored intents

`parse_run_intent` on what `model_dump(mode="json")` stored. -/

namespace Obsion.Domain

def modelValidate (lib : Library) (raw : Json) : Option RunIntent :=
  (RunIntent.read raw).bind (RunIntent.validate lib)

def isSchemaVersion : Json → Bool
  | .int number => number = 1
  | .bool answer => answer
  | .float text => text = "1.0"
  | _ => false

def waitingUser : String := "WAITING_USER"

def parseRunIntent (lib : Library) (raw : Json) (status : String) :
    Except ClarificationError (Option RunIntent) :=
  match raw.fields? with
  | none =>
    if status = waitingUser then .error (.stateInvalid "WAITING_USER run has no typed intent state")
    else .ok none
  | some fields =>
    if !(fields.get? "schema_version").any isSchemaVersion then
      if status = waitingUser then .error (.stateInvalid "legacy WAITING_USER intent cannot be resumed")
      else .ok none
    else match modelValidate lib raw with
      | none => .error (.stateInvalid "run intent state is invalid")
      | some parsed =>
        if status = waitingUser ∧ parsed.preparationStage ≠ .waitingUser then
          .error (.stateInvalid "WAITING_USER run has no active clarification")
        else .ok (some parsed)

/-- A raw mapping whose intent, once it is accepted, is stored so that it loads as it is: by the
model, and for every status that fits its stage. -/
def Reloads (lib : Library) (raw : Json) : Prop :=
  ∀ intent, modelValidate lib raw = some intent → modelValidate lib intent.dump = some intent ∧
      ∀ status, (status = waitingUser → intent.preparationStage = .waitingUser) →
        parseRunIntent lib intent.dump status = .ok (some intent)

variable {lib : Library}

lemma validate_eq_load (shape : RunIntent) :
    shape.validate lib = Lib.load (RunIntent.bounded lib) (RunIntent.normal lib) (RunIntent.valid lib) shape :=
  rfl

lemma modelValidate_dump (intent : RunIntent) : modelValidate lib intent.dump = intent.validate lib := by
  have read : RunIntent.read intent.dump = some intent := RunIntent.codec.read_dump intent
  rw [modelValidate, read, Option.bind_some]

lemma parseRunIntent_dump (intent : RunIntent) (status : String) :
    parseRunIntent lib intent.dump status = match intent.validate lib with
      | none => .error (.stateInvalid "run intent state is invalid")
      | some parsed =>
        if status = waitingUser ∧ parsed.preparationStage ≠ .waitingUser then
          .error (.stateInvalid "WAITING_USER run has no active clarification")
        else .ok (some parsed) := by
  rw [← modelValidate_dump intent, parseRunIntent]
  rfl

lemma validate_again {shape intent : RunIntent} (accepted : shape.validate lib = some intent) :
    intent.validate lib = some intent ↔ shape.Settled lib := by
  rw [validate_eq_load] at accepted ⊢
  rw [Lib.load_again accepted]
  exact RunIntent.keeps_iff (Lib.load_eq_some.1 accepted).1

def nestedQuestion : String := "http://a:b@c:d@e"

end Obsion.Domain
