import Mathlib

namespace JVLinkServer

/-! # Byte strings

A `std::string` is a sequence of bytes, with no promise that they are text.  A
Lean `String` is always well-formed UTF-8, so it stands for the strings that the
program has checked or wrote itself.
-/

abbrev Bytes := List UInt8

/-- The bytes of a text. -/
def utf8 (text : String) : Bytes := text.toByteArray.data.toList

def newline : UInt8 := 10

def validUtf8 (bytes : Bytes) : Bool := ByteArray.validateUTF8 ⟨bytes.toArray⟩

@[simp] theorem validUtf8_utf8 (text : String) : validUtf8 (utf8 text) = true := by
  unfold validUtf8 utf8
  rw [ByteArray.validateUTF8_eq_true_iff]
  exact text.isValidUTF8

/-- The well-formed byte strings are exactly the bytes of texts. -/
theorem validUtf8_iff {bytes : Bytes} :
    validUtf8 bytes = true ↔ ∃ text, bytes = utf8 text := by
  constructor
  · intro valid
    have wellFormed := ByteArray.validateUTF8_eq_true_iff.mp valid
    exact ⟨String.ofByteArray ⟨bytes.toArray⟩ wellFormed, rfl⟩
  · rintro ⟨text, rfl⟩
    exact validUtf8_utf8 text

theorem utf8_inj (first second : String) : utf8 first = utf8 second ↔ first = second := by
  constructor
  · intro same
    apply String.toByteArray_inj.mp
    exact ByteArray.ext (Array.toList_inj.mp same)
  · intro same
    rw [same]

theorem utf8_isEmpty (text : String) : (utf8 text).isEmpty = text.isEmpty := by
  rw [Bool.eq_iff_iff, List.isEmpty_iff, String.isEmpty_iff]
  exact utf8_inj text ""

theorem utf8_ofList {chars : List Char} (ascii : ∀ char ∈ chars, char.utf8Size = 1) :
    utf8 (String.ofList chars) = chars.map fun char => char.val.toUInt8 := by
  unfold utf8
  rw [String.toByteArray_ofList, List.utf8Encode, List.toList_data_toByteArray]
  induction chars with
  | nil => rfl
  | cons char chars ih =>
      rw [List.flatMap_cons, String.utf8EncodeChar_eq_singleton (ascii char List.mem_cons_self),
        ih fun other inside => ascii other (List.mem_cons_of_mem _ inside)]
      rfl

/-! ## Digits -/

def isDigit (byte : UInt8) : Bool := 48 ≤ byte ∧ byte ≤ 57

def hexValue? (byte : UInt8) : Option Nat :=
  if 48 ≤ byte ∧ byte ≤ 57 then some (byte.toNat - 48)
  else if 65 ≤ byte ∧ byte ≤ 70 then some (byte.toNat - 65 + 10)
  else if 97 ≤ byte ∧ byte ≤ 102 then some (byte.toNat - 97 + 10)
  else none

/-- The number in the first `count` digits, if they are there. -/
def fromHex? : (count : Nat) → Bytes → (value : Nat := 0) → Option Nat
  | 0, _, value => some value
  | _ + 1, [], _ => none
  | count + 1, byte :: rest, value =>
      match hexValue? byte with
      | some digit => fromHex? count rest (value * 16 + digit)
      | none => none

def decimalNat (value : Nat) : Bytes :=
  (Nat.toDigits 10 value).map fun digit => UInt8.ofNat digit.toNat

def decimal : Int → Bytes
  | .ofNat value => decimalNat value
  | .negSucc value => 45 :: decimalNat (value + 1)

/-- The number that decimal digits denote. -/
def ofDecimal (digits : Bytes) : Nat :=
  Nat.ofDigitChars 10 (digits.map fun digit => Char.ofNat digit.toNat) 0

end JVLinkServer
