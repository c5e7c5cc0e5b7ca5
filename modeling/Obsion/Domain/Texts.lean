import Obsion.Base.Bytes
import Obsion.Base.Loads
import Obsion.Security.Redaction

/-! # Normalised texts

How the models of the domain normalise texts, identifiers and free JSON values, and which texts
they take.  Normalisation, character classes, dates and digests come from the library. -/

namespace Obsion.Domain

/-- What `datetime.fromisoformat` reads: a time, where a text without a zone is one of UTC. -/
structure Instant where
  time : Time
  /-- The text names its zone. -/
  aware : Bool

/-- `ensure_utc(value)` is a date of the years 1 to 9999. -/
def Instant.inRange (instant : Instant) : Bool :=
  seconds (-62135596800) ≤ instant.time && instant.time < seconds 253402300800

structure Library where
  /-- `unicodedata.normalize("NFKC", text)` -/
  nfkc : String → String
  /-- `text.upper()` -/
  upper : String → String
  /-- `str.isalnum` of a character -/
  isAlnum : Char → Bool
  /-- the class `\w` of `re` -/
  word : Char → Bool
  /-- `datetime.fromisoformat(text)`, unless it raises -/
  instant? : String → Option Instant
  /-- `value.isoformat()` of a time in UTC -/
  isoformat : Time → String
  /-- `hashlib.sha256(text.encode()).hexdigest()` -/
  sha256 : String → String

variable (lib : Library)

/-! ## Texts -/

def identifier (text : String) : String := strip (lib.nfkc text)

/-- `redact_text(unicodedata.normalize("NFKC", value).strip())` -/
def normalText (text : String) : String := Security.redactText lib.word (identifier lib text)

/-- What `_normalize_safe_id` checks. -/
def safeId (text : String) : String := Text.casefold (identifier lib text)

def isLower (char : Char) : Bool := 'a' ≤ char && char ≤ 'z'

def isDecimal (char : Char) : Bool := '0' ≤ char && char ≤ '9'

/-- `[a-z][a-z0-9_.-]{0,n}` -/
def matchesId (most : Nat) (text : String) : Bool :=
  match text.toList with
  | [] => false
  | first :: rest =>
    isLower first && rest.length ≤ most &&
      rest.all fun char => isLower char || isDecimal char || ['_', '.', '-'].contains char

def isSafeId (text : String) : Bool := matchesId 79 text

/-- `^[0-9a-f]{64}$` -/
def isDigest (text : String) : Bool :=
  text.toList.length = 64 && text.toList.all fun char => isDecimal char || ('a' ≤ char && char ≤ 'f')

def isCanonicalUuid (text : String) : Bool := (Uuid.parse? text).any fun value => value.str = text

/-- `^(?:0|[1-9][0-9]*)(?:\.[0-9]{1,8})?$` -/
def isCost (text : String) : Bool :=
  let whole := text.toList.takeWhile isDecimal
  let rest := text.toList.dropWhile isDecimal
  (whole = ['0'] || (whole.head?.any fun first => first ≠ '0')) && match rest with
    | [] => true
    | point :: places => point = '.' && places.all isDecimal && 1 ≤ places.length && places.length ≤ 8

def between (least most : Nat) (text : String) : Bool :=
  least ≤ text.toList.length && text.toList.length ≤ most

/-- `_canonical_timestamp`, where the text is a date. -/
def timestamp (text : String) : String :=
  match lib.instant? text with
  | some instant => lib.isoformat instant.time
  | none => text

def isTimestamp (text : String) : Bool := (lib.instant? text).any Instant.inRange

/-! ## Values -/

mutual

def normalJson : Json → Json
  | .str value => .str (normalText lib value)
  | .arr values => .arr (normalValues values)
  | .obj fields => .obj (normalMembers fields)
  | .null => .null
  | .bool value => .bool value
  | .int value => .int value
  | .float text => .float text

def normalValues : List Json → List Json
  | [] => []
  | value :: rest => normalJson value :: normalValues rest

def normalMembers : List (String × Json) → List (String × Json)
  | [] => []
  | (key, value) :: rest => (key, normalJson value) :: normalMembers rest

end

/-- `str(number)` does not exceed the limit of the interpreter on digits. -/
def isPrintable (number : Int) : Bool := (Nat.toDigits 10 number.natAbs).length ≤ Loads.maxIntDigits

/-- A value that `json.dumps(..., allow_nan=False)` takes. -/
def isDumpable (value : Json) : Bool :=
  value.all fun inner => match inner with
    | .float text => text ∉ ["NaN", "Infinity", "-Infinity"]
    | .int number => isPrintable number
    | _ => true

def maxValueBytes : Nat := 12000

/-- `_normalize_json_value` and `_ensure_bounded_json` take the value, given normalised. -/
def isBoundedJson (value : Json) : Bool := isDumpable value && (encode value.dumps).length ≤ maxValueBytes

def sensitiveSlotParts : List String :=
  ["accesskey", "apikey", "authenticationheader", "authorization", "cookie", "credential", "dsn",
    "endpoint", "password", "passwd", "privatekey", "secret", "token"]

def derivedSlotParts : List String :=
  ["agent", "clarification", "decision", "domain", "intent", "needdata", "needrootcause", "question",
    "risk", "route", "schemaversion", "skill", "taskcontract"]

/-- `_collapsed_identifier` -/
def collapsed (text : String) : String :=
  Text.casefold (String.ofList (text.toList.filter lib.isAlnum))

def namesAny (parts : List String) (text : String) : Bool :=
  parts.any fun part => isIn part (collapsed lib text)

/-- `_reject_sensitive_mapping_keys` takes the value. -/
def hasPlainKeys (value : Json) : Bool :=
  value.all fun inner => match inner with
    | .obj fields => fields.all fun field => !namesAny lib sensitiveSlotParts field.1
    | _ => true

def fingerprintValue (value : Json) : String := lib.sha256 value.dumps

end Obsion.Domain
