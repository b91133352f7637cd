import JVLinkServer.Text

namespace JVLinkServer

/-! # A decoder of UTF-8

It takes a byte at a time and rejects the first that cannot go on.  The byte strings that it
takes to the end are those that are well-formed.
-/

/-- How many bytes of a character are to come, and the bounds of the next one. -/
structure Utf8State where
  missing : Nat := 0
  low : UInt8 := 128
  high : UInt8 := 191

/-- A step of the decoder, which rejects a byte that cannot go on. -/
def decodeByte (state : Utf8State) (byte : UInt8) : Option Utf8State :=
  if state.missing ≠ 0 then
    if state.low ≤ byte ∧ byte ≤ state.high then some { missing := state.missing - 1 } else none
  else if byte < 128 then some {}
  else if 194 ≤ byte ∧ byte ≤ 223 then some { missing := 1 }
  else if 224 ≤ byte ∧ byte ≤ 239 then
    some {
      missing := 2
      low := if byte = 224 then 160 else 128
      high := if byte = 237 then 159 else 191 }
  else if 240 ≤ byte ∧ byte ≤ 244 then
    some {
      missing := 3
      low := if byte = 240 then 144 else 128
      high := if byte = 244 then 143 else 191 }
  else none

/-- The decoder goes from here to the end of a character. -/
def decodesFrom : Utf8State → Bytes → Bool
  | state, [] => state.missing = 0
  | state, byte :: rest =>
      match decodeByte state byte with
      | none => false
      | some next => decodesFrom next rest

/-! ## Steps -/

section Steps

variable {state : Utf8State} {byte : UInt8} {rest : Bytes}

theorem decodesFrom_cons {next : Utf8State} (step : decodeByte state byte = some next) :
    decodesFrom state (byte :: rest) = decodesFrom next rest := by
  rw [decodesFrom, step]

theorem decodesFrom_tail {missing : Nat} {low high : UInt8} (above : low ≤ byte)
    (below : byte ≤ high) :
    decodesFrom { missing := missing + 1, low, high } (byte :: rest) =
      decodesFrom { missing } rest :=
  decodesFrom_cons (by simp [decodeByte, above, below])

/-- What is to come of a character is a byte within the bounds. -/
theorem decodesFrom_succ {missing : Nat} {low high : UInt8} {bytes : Bytes}
    (decodes : decodesFrom { missing := missing + 1, low, high } bytes = true) :
    ∃ byte rest, bytes = byte :: rest ∧ low ≤ byte ∧ byte ≤ high ∧
      decodesFrom { missing } rest = true := by
  cases bytes with
  | nil => simp [decodesFrom] at decodes
  | cons byte rest =>
      by_cases within : low ≤ byte ∧ byte ≤ high
      · rw [decodesFrom_tail within.1 within.2] at decodes
        exact ⟨byte, rest, rfl, within.1, within.2, decodes⟩
      · simp [decodesFrom, decodeByte, within] at decodes

end Steps

/-! ## First bytes -/

section FirstBytes

variable {first second lead bound other : UInt8} {rest : Bytes}

theorem decodesFrom_one (low : first < 128) :
    decodesFrom {} (first :: rest) = decodesFrom {} rest :=
  decodesFrom_cons (by simp [decodeByte, low])

theorem decodeByte_two (lead : 194 ≤ first ∧ first ≤ 223) :
    decodeByte {} first = some { missing := 1 } := by
  have one : ¬ first < 128 := UInt8.not_lt.mpr (UInt8.le_trans (by decide) lead.1)
  simp [decodeByte, one, lead]

theorem decodeByte_three (lead : 224 ≤ first ∧ first ≤ 239) :
    decodeByte {} first = some {
      missing := 2
      low := if first = 224 then 160 else 128
      high := if first = 237 then 159 else 191 } := by
  have one : ¬ first < 128 := UInt8.not_lt.mpr (UInt8.le_trans (by decide) lead.1)
  have two : ¬ first ≤ 223 := UInt8.not_le.mpr (UInt8.lt_of_lt_of_le (by decide) lead.1)
  simp [decodeByte, one, two, lead]

theorem decodeByte_four (lead : 240 ≤ first ∧ first ≤ 244) :
    decodeByte {} first = some {
      missing := 3
      low := if first = 240 then 144 else 128
      high := if first = 244 then 143 else 191 } := by
  have one : ¬ first < 128 := UInt8.not_lt.mpr (UInt8.le_trans (by decide) lead.1)
  have two : ¬ first ≤ 223 := UInt8.not_le.mpr (UInt8.lt_of_lt_of_le (by decide) lead.1)
  have three : ¬ first ≤ 239 := UInt8.not_le.mpr (UInt8.lt_of_lt_of_le (by decide) lead.1)
  simp [decodeByte, one, two, three, lead]

theorem ite_le_iff_toNat :
    (if first = lead then bound else other) ≤ second ↔
      (first.toNat = lead.toNat → bound.toNat ≤ second.toNat) ∧
        (first.toNat ≠ lead.toNat → other.toNat ≤ second.toNat) := by
  rw [UInt8.toNat_inj]
  split
  · next same => simp [same, UInt8.le_iff_toNat_le]
  · next different =>
      have apart : first.toNat ≠ lead.toNat := fun same => different (UInt8.toNat_inj.mp same)
      simp [different, apart, UInt8.le_iff_toNat_le]

theorem le_ite_iff_toNat :
    second ≤ (if first = lead then bound else other) ↔
      (first.toNat = lead.toNat → second.toNat ≤ bound.toNat) ∧
        (first.toNat ≠ lead.toNat → second.toNat ≤ other.toNat) := by
  rw [UInt8.toNat_inj]
  split
  · next same => simp [same, UInt8.le_iff_toNat_le]
  · next different =>
      have apart : first.toNat ≠ lead.toNat := fun same => different (UInt8.toNat_inj.mp same)
      simp [different, apart, UInt8.le_iff_toNat_le]

end FirstBytes

/-! ## Characters -/

section Characters

variable {first second third fourth : UInt8}

theorem continuation_bounds (n : Nat) :
    128 ≤ UInt8.ofNat (n % 64 + 128) ∧ UInt8.ofNat (n % 64 + 128) ≤ 191 := by
  simp [UInt8.le_iff_toNat_le]
  omega

/-- The decoder takes the bytes of every character. -/
theorem decodesFrom_char (char : Char) (rest : Bytes) :
    decodesFrom {} (String.utf8EncodeChar char ++ rest) = decodesFrom {} rest := by
  have valid : char.val.toNat < 55296 ∨ 57343 < char.val.toNat ∧ char.val.toNat < 1114112 :=
    char.valid
  unfold String.utf8EncodeChar
  simp only
  generalize char.val.toNat = v at valid ⊢
  have last := continuation_bounds v
  have middle := continuation_bounds (v / 64)
  split
  · exact decodesFrom_one (by simp [UInt8.lt_iff_toNat_lt]; omega)
  · split
    · have lead : 194 ≤ UInt8.ofNat (v / 64 % 32 + 192) ∧
          UInt8.ofNat (v / 64 % 32 + 192) ≤ 223 := by
        simp [UInt8.le_iff_toNat_le]
        omega
      rw [List.cons_append, decodesFrom_cons (decodeByte_two lead), List.cons_append,
        decodesFrom_tail last.1 last.2, List.nil_append]
    · split
      · have lead : 224 ≤ UInt8.ofNat (v / 4096 % 16 + 224) ∧
            UInt8.ofNat (v / 4096 % 16 + 224) ≤ 239 := by
          simp [UInt8.le_iff_toNat_le]
          omega
        rw [List.cons_append, decodesFrom_cons (decodeByte_three lead), List.cons_append,
          decodesFrom_tail (ite_le_iff_toNat.mpr (by simp; omega))
            (le_ite_iff_toNat.mpr (by simp; omega)),
          List.cons_append, decodesFrom_tail last.1 last.2, List.nil_append]
      · have lead : 240 ≤ UInt8.ofNat (v / 262144 % 8 + 240) ∧
            UInt8.ofNat (v / 262144 % 8 + 240) ≤ 244 := by
          simp [UInt8.le_iff_toNat_le]
          omega
        rw [List.cons_append, decodesFrom_cons (decodeByte_four lead), List.cons_append,
          decodesFrom_tail (ite_le_iff_toNat.mpr (by simp; omega))
            (le_ite_iff_toNat.mpr (by simp; omega)),
          List.cons_append, decodesFrom_tail middle.1 middle.2, List.cons_append,
          decodesFrom_tail last.1 last.2, List.nil_append]

theorem val_ofNat {v : Nat} (valid : v < 55296 ∨ 57343 < v ∧ v < 1114112) :
    (Char.ofNat v).val.toNat = v := by
  rw [Char.ofNat, dif_pos valid]
  rfl

theorem exists_char_one (low : first < 128) :
    ∃ char, [first] = String.utf8EncodeChar char := by
  simp only [UInt8.lt_iff_toNat_lt, UInt8.reduceToNat] at low
  have value := val_ofNat (v := first.toNat) (by omega)
  refine ⟨Char.ofNat first.toNat, ?_⟩
  unfold String.utf8EncodeChar
  rw [value, if_pos (by omega), UInt8.ofNat_toNat]

theorem exists_char_two (lead : 194 ≤ first ∧ first ≤ 223) (tail : 128 ≤ second ∧ second ≤ 191) :
    ∃ char, [first, second] = String.utf8EncodeChar char := by
  simp only [UInt8.le_iff_toNat_le, UInt8.reduceToNat] at lead tail
  obtain ⟨v, same⟩ : ∃ v, v = (first.toNat - 192) * 64 + (second.toNat - 128) := ⟨_, rfl⟩
  have value := val_ofNat (v := v) (by omega)
  refine ⟨Char.ofNat v, ?_⟩
  unfold String.utf8EncodeChar
  rw [value, if_neg (by omega), if_pos (by omega)]
  simp [← UInt8.toNat_inj]
  omega

theorem exists_char_three (lead : 224 ≤ first ∧ first ≤ 239)
    (low : (if first = 224 then 160 else 128) ≤ second)
    (high : second ≤ (if first = 237 then 159 else 191)) (tail : 128 ≤ third ∧ third ≤ 191) :
    ∃ char, [first, second, third] = String.utf8EncodeChar char := by
  rw [ite_le_iff_toNat] at low
  rw [le_ite_iff_toNat] at high
  simp only [UInt8.le_iff_toNat_le, UInt8.reduceToNat] at lead low high tail
  obtain ⟨v, same⟩ : ∃ v, v = (first.toNat - 224) * 4096 + (second.toNat - 128) * 64 +
      (third.toNat - 128) := ⟨_, rfl⟩
  have value := val_ofNat (v := v) (by omega)
  refine ⟨Char.ofNat v, ?_⟩
  unfold String.utf8EncodeChar
  rw [value, if_neg (by omega), if_neg (by omega), if_pos (by omega)]
  simp [← UInt8.toNat_inj]
  omega

theorem exists_char_four (lead : 240 ≤ first ∧ first ≤ 244)
    (low : (if first = 240 then 144 else 128) ≤ second)
    (high : second ≤ (if first = 244 then 143 else 191)) (tail : 128 ≤ third ∧ third ≤ 191)
    (last : 128 ≤ fourth ∧ fourth ≤ 191) :
    ∃ char, [first, second, third, fourth] = String.utf8EncodeChar char := by
  rw [ite_le_iff_toNat] at low
  rw [le_ite_iff_toNat] at high
  simp only [UInt8.le_iff_toNat_le, UInt8.reduceToNat] at lead low high tail last
  obtain ⟨v, same⟩ : ∃ v, v = (first.toNat - 240) * 262144 + (second.toNat - 128) * 4096 +
      (third.toNat - 128) * 64 + (fourth.toNat - 128) := ⟨_, rfl⟩
  have value := val_ofNat (v := v) (by omega)
  refine ⟨Char.ofNat v, ?_⟩
  unfold String.utf8EncodeChar
  rw [value, if_neg (by omega), if_neg (by omega), if_neg (by omega)]
  simp [← UInt8.toNat_inj]
  omega

/-- Bytes that the decoder takes begin with those of a character. -/
theorem exists_char_of_decodes {rest : Bytes} (decodes : decodesFrom {} (first :: rest) = true) :
    ∃ char left, first :: rest = String.utf8EncodeChar char ++ left ∧
      decodesFrom {} left = true := by
  by_cases one : first < 128
  · rw [decodesFrom_one one] at decodes
    obtain ⟨char, encoded⟩ := exists_char_one one
    exact ⟨char, rest, by rw [← encoded]; rfl, decodes⟩
  by_cases two : 194 ≤ first ∧ first ≤ 223
  · rw [decodesFrom_cons (decodeByte_two two)] at decodes
    obtain ⟨second, left, rfl, low, high, decodes⟩ := decodesFrom_succ decodes
    obtain ⟨char, encoded⟩ := exists_char_two two ⟨low, high⟩
    exact ⟨char, left, by rw [← encoded]; rfl, decodes⟩
  by_cases three : 224 ≤ first ∧ first ≤ 239
  · rw [decodesFrom_cons (decodeByte_three three)] at decodes
    obtain ⟨second, rest, rfl, low, high, decodes⟩ := decodesFrom_succ decodes
    obtain ⟨third, left, rfl, above, below, decodes⟩ := decodesFrom_succ decodes
    obtain ⟨char, encoded⟩ := exists_char_three three low high ⟨above, below⟩
    exact ⟨char, left, by rw [← encoded]; rfl, decodes⟩
  by_cases four : 240 ≤ first ∧ first ≤ 244
  · rw [decodesFrom_cons (decodeByte_four four)] at decodes
    obtain ⟨second, rest, rfl, low, high, decodes⟩ := decodesFrom_succ decodes
    obtain ⟨third, rest, rfl, above, below, decodes⟩ := decodesFrom_succ decodes
    obtain ⟨fourth, left, rfl, above', below', decodes⟩ := decodesFrom_succ decodes
    obtain ⟨char, encoded⟩ := exists_char_four four low high ⟨above, below⟩ ⟨above', below'⟩
    exact ⟨char, left, by rw [← encoded]; rfl, decodes⟩
  · simp [decodesFrom, decodeByte, one, two, three, four] at decodes

end Characters

/-! ## Texts -/

theorem decodesFrom_chars (chars : List Char) :
    decodesFrom {} (chars.flatMap String.utf8EncodeChar) = true := by
  induction chars with
  | nil => rfl
  | cons char rest ih => rw [List.flatMap_cons, decodesFrom_char, ih]

theorem chars_of_decodesFrom (bytes : Bytes) (decodes : decodesFrom {} bytes = true) :
    ∃ chars : List Char, bytes = chars.flatMap String.utf8EncodeChar := by
  induction size : bytes.length using Nat.strong_induction_on generalizing bytes with
  | h length ih =>
      cases bytes with
      | nil => exact ⟨[], rfl⟩
      | cons first rest =>
          obtain ⟨char, left, split, decodes⟩ := exists_char_of_decodes decodes
          have shorter : left.length < length := by
            have total := congrArg List.length split
            have positive := char.utf8Size_pos
            rw [size, List.length_append, String.length_utf8EncodeChar] at total
            omega
          obtain ⟨chars, rfl⟩ := ih left.length shorter left decodes rfl
          exact ⟨char :: chars, split⟩

/-- The decoder takes a byte string to the end exactly when it is the text of characters. -/
theorem decodesFrom_eq (bytes : Bytes) : decodesFrom {} bytes = validUtf8 bytes := by
  rw [Bool.eq_iff_iff, validUtf8_iff]
  constructor
  · intro decodes
    obtain ⟨chars, rfl⟩ := chars_of_decodesFrom bytes decodes
    refine ⟨String.ofList chars, ?_⟩
    rw [utf8, String.toByteArray_ofList, List.utf8Encode, List.toList_data_toByteArray]
  · rintro ⟨text, rfl⟩
    obtain ⟨chars, rfl⟩ : ∃ chars, text = String.ofList chars := ⟨text.toList, by simp⟩
    rw [utf8, String.toByteArray_ofList, List.utf8Encode, List.toList_data_toByteArray]
    exact decodesFrom_chars chars

end JVLinkServer
