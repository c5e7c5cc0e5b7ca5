import Obsion.Base.Json
import Obsion.Base.Text

/-! # Redaction

`redact` over JSON values.  Most results hold of any redaction of texts; `redactText` is
the one of the source, up to the class of word characters. -/

namespace Obsion.Security

/-- The letter that `re.IGNORECASE` compares an ASCII letter with. -/
def foldChar (char : Char) : Char :=
  if char.toNat = 0x17F then 's'
  else if char.toNat = 0x130 ∨ char.toNat = 0x131 then 'i'
  else if char.toNat = 0x212A then 'k'
  else char.toLower

def sensitiveWords : List String :=
  ["authorization", "cookie", "password", "passwd", "secret", "token",
    "apikey", "api_key", "api-key", "accesskey", "access_key", "access-key",
    "privatekey", "private_key", "private-key"]

def sensitiveKey (key : String) : Bool :=
  sensitiveWords.any fun word => decide (word.toList <:+: key.toList.map foldChar)

/-! ## Texts -/

section
open Text Text.Pattern

def anyCase : String → Pattern := .literal fun expected char => foldChar char == foldChar expected

/-- A set of ASCII letters and digits and more characters, in any case. -/
def alphanumeric (more : List Char) (char : Char) : Bool :=
  let folded := foldChar char
  ('a' ≤ folded && folded ≤ 'z') || ('0' ≤ folded && folded ≤ '9') || more.contains folded

def privateKeyBlock : Pattern :=
  .both (anyCase "-----BEGIN ") (.both (.many (alphanumeric [' ']))
    (.both (anyCase "PRIVATE KEY-----") (.both (.fewest fun _ => true)
      (.both (anyCase "-----END ") (.both (.many (alphanumeric [' '])) (anyCase "PRIVATE KEY-----"))))))

def keyName (first : String) : Pattern :=
  .both (anyCase first)
    (.both (.either (.one fun char => char = '_' || char = '-') .empty) (anyCase "key"))

def assignmentKey : Pattern :=
  .both .boundary (.both
    (.anyOf [anyCase "password", anyCase "passwd", anyCase "secret", anyCase "token",
      keyName "api", keyName "access", keyName "private", anyCase "credential"])
    (.both (.many isSpace) (.both (.one fun char => char = ':' || char = '=') (.many isSpace))))

def quoted (quote : Char) : Pattern :=
  .both (.one (· = quote)) (.both (.many (· ≠ quote)) (.one (· = quote)))

def assignmentValue : Pattern :=
  .anyOf [quoted (Char.ofNat 34), quoted (Char.ofNat 39),
    .some_ fun char => !(isSpace char || char = ',' || char = ';')]

def bearer : Pattern :=
  .both .boundary (.both (anyCase "bearer") (.both (.some_ isSpace)
    (.some_ (alphanumeric ['.', '_', '~', '+', '/', '=', '-']))))

def uriScheme (word : Char → Bool) : Pattern := .both (.some_ word) (.literal (· == ·) "://")

def uriCredentials : Pattern :=
  .both (.some_ fun char => !(char = ':' || char = '/' || isSpace char)) (.both (.one (· = ':'))
    (.both (.some_ fun char => !(char = '@' || char = '/' || isSpace char)) (.one (· = '@'))))

def redactChars (word : Char → Bool) (text : List Char) : List Char :=
  let replace := fun kept dropped (replacement : String) (text : List Char) =>
    sub word kept dropped replacement.toList text.length none text
  let text := replace .empty privateKeyBlock "[REDACTED PRIVATE KEY]" text
  let text := replace assignmentKey assignmentValue "[REDACTED]" text
  let text := replace .empty bearer "Bearer [REDACTED]" text
  replace (uriScheme word) uriCredentials "[REDACTED]@" text

def redactText (word : Char → Bool) (value : String) : String :=
  String.ofList (redactChars word value.toList)

example : redactText Char.isAlphanum "token: abc, https://u:p@host" =
    "token: [REDACTED], https://[REDACTED]@host" := by decide +kernel

end

mutual

def redact (redactText : String → String) : Json → Json
  | .str value => .str (redactText value)
  | .obj fields => .obj (redactFields redactText fields)
  | .arr values => .arr (redactValues redactText values)
  | .null => .null
  | .bool value => .bool value
  | .int value => .int value
  | .float text => .float text

def redactValues (redactText : String → String) : List Json → List Json
  | [] => []
  | value :: rest => redact redactText value :: redactValues redactText rest

def redactFields (redactText : String → String) : Fields → Fields
  | [] => []
  | (key, value) :: rest =>
    (key, if sensitiveKey key then .str "[REDACTED]" else redact redactText value)
      :: redactFields redactText rest

end

lemma keys_redactFields (redactText : String → String) (fields : Fields) :
    (redactFields redactText fields).map Prod.fst = fields.map Prod.fst := by
  induction fields with
  | nil => rfl
  | cons field rest ih =>
    obtain ⟨key, value⟩ := field
    rw [redactFields, List.map_cons, List.map_cons, ih]

end Obsion.Security
