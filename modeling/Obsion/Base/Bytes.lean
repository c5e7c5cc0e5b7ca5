import Obsion.Base.Python

/-! # Bytes and UTF-8

`str.encode("utf-8")` on lists of bytes.  UTF-8 is a prefix code, and a byte below 128 is an
ASCII character of the text. -/

namespace Obsion

abbrev Bytes := List UInt8

/-- `text.encode("utf-8")` -/
def encodeChars (text : List Char) : Bytes := text.flatMap String.utf8EncodeChar

def encode (text : String) : Bytes := encodeChars text.toList

lemma encodeChars_append (left right : List Char) :
    encodeChars (left ++ right) = encodeChars left ++ encodeChars right := List.flatMap_append

lemma encodeChars_cons (char : Char) (rest : List Char) :
    encodeChars (char :: rest) = String.utf8EncodeChar char ++ encodeChars rest := List.flatMap_cons

lemma encode_append (left right : String) : encode (left ++ right) = encode left ++ encode right := by
  rw [encode, String.toList_append, encodeChars_append]
  rfl

lemma encode_ofList (text : List Char) : encode (String.ofList text) = encodeChars text := by
  rw [encode, String.toList_ofList]

lemma utf8EncodeChar_append_inj {left right : Char} {after other : Bytes}
    (eq : String.utf8EncodeChar left ++ after = String.utf8EncodeChar right ++ other) :
    left = right ∧ after = other := by
  have arrays := congrArg List.toByteArray eq
  rw [List.toByteArray_append, List.toByteArray_append] at arrays
  have first := ByteArray.utf8DecodeChar?_utf8EncodeChar_append (b := after.toByteArray) (c := left)
  rw [arrays, ByteArray.utf8DecodeChar?_utf8EncodeChar_append] at first
  cases first
  exact ⟨rfl, List.append_cancel_left eq⟩

lemma encodeChars_prefix {left right : List Char} {after : Bytes}
    (eq : encodeChars left ++ after = encodeChars right) :
    ∃ rest, right = left ++ rest ∧ after = encodeChars rest := by
  induction left generalizing right with
  | nil => exact ⟨right, rfl, eq⟩
  | cons char rest ih =>
    cases right with
    | nil =>
      rw [encodeChars_cons, List.append_assoc] at eq
      exact absurd (List.append_eq_nil_iff.1 eq).1 String.utf8EncodeChar_ne_nil
    | cons other later =>
      rw [encodeChars_cons, encodeChars_cons, List.append_assoc] at eq
      obtain ⟨rfl, tails⟩ := utf8EncodeChar_append_inj eq
      obtain ⟨more, rfl, ends⟩ := ih tails
      exact ⟨more, rfl, ends⟩

lemma encodeChars_injective : Function.Injective encodeChars := by
  intro left right eq
  have begins : encodeChars left ++ [] = encodeChars right := by rw [List.append_nil, eq]
  obtain ⟨rest, rfl, ends⟩ := encodeChars_prefix begins
  cases rest with
  | nil => simp
  | cons char more =>
    rw [encodeChars_cons] at ends
    exact absurd (List.append_eq_nil_iff.1 ends.symm).1 String.utf8EncodeChar_ne_nil

lemma encode_injective : Function.Injective encode := fun _ _ eq =>
  String.toList_inj.1 (encodeChars_injective eq)

def decode? (content : Bytes) : Option String := String.fromUTF8? content.toByteArray

lemma toNat_ofNat_toNat (byte : UInt8) : (Char.ofNat byte.toNat).toNat = byte.toNat := by
  have small : byte.toNat < 0xd800 := lt_trans byte.toNat_lt (by decide)
  rw [Char.ofNat, dif_pos (Or.inl small)]
  rfl

lemma utf8EncodeChar_ascii {char : Char} (ascii : char.toNat < 128) :
    String.utf8EncodeChar char = [UInt8.ofNat char.toNat] := by
  unfold String.utf8EncodeChar
  have small : char.val.toNat ≤ 127 := Nat.le_of_lt_succ ascii
  simp only [small, ↓reduceIte]
  rfl

lemma encodeChars_ascii {text : List Char} (ascii : ∀ char ∈ text, char.toNat < 128) :
    encodeChars text = text.map fun char => UInt8.ofNat char.toNat := by
  induction text with
  | nil => rfl
  | cons char rest ih =>
    rw [encodeChars_cons, utf8EncodeChar_ascii (ascii char List.mem_cons_self),
      ih fun other mem => ascii other (List.mem_cons_of_mem _ mem)]
    rfl

end Obsion
