import JVLinkServer.PythonText

namespace JVLinkServer

/-! # The lines of a text

`str.splitlines` ends a line at more characters than the newline.  Three of them are not
escaped in a JSON document.
-/

/-- The characters that end a line. -/
def endsLine (char : Char) : Bool :=
  let code := char.toNat
  (10 ≤ code && code ≤ 13) || (28 ≤ code && code ≤ 30) || code == 0x85 || code == 0x2028 ||
    code == 0x2029

/-- `str.splitlines` -/
def splitlines : List Char → List (List Char)
  | [] => []
  | '\r' :: '\n' :: rest => [] :: splitlines rest
  | char :: rest =>
      if endsLine char then [] :: splitlines rest
      else
        match splitlines rest with
        | [] => [[char]]
        | line :: lines => (char :: line) :: lines

/-- The bytes of characters. -/
def encoded (chars : List Char) : Bytes := utf8 (String.ofList chars)

/-- The lines that a decoded response is read in. -/
def textLines (body : Bytes) : List Bytes := (splitlines (characters body)).map encoded

example : splitlines "a\r\n\nb".toList = ["a".toList, [], "b".toList] := by decide

section Lines

theorem inLine_of_all {text : List Char} (all : text.all (fun char => !endsLine char) = true) :
    ∀ char ∈ text, endsLine char = false := by
  simpa using all

variable {line rest : List Char} {char : Char}

theorem splitlines_cons (inLine : endsLine char = false) :
    splitlines (char :: rest) =
      match splitlines rest with
      | [] => [[char]]
      | line :: lines => (char :: line) :: lines := by
  rw [splitlines]
  · rw [inLine]
    rfl
  · rintro other rfl
    cases inLine

theorem splitlines_end (ends : endsLine char = true) (notReturn : char ≠ '\r') :
    splitlines (char :: rest) = [] :: splitlines rest := by
  rw [splitlines]
  · rw [if_pos ends]
  · rintro other rfl
    contradiction

/-- A line ends where a line ends. -/
theorem splitlines_line (inLine : ∀ char ∈ line, endsLine char = false)
    (ends : endsLine char = true) (notReturn : char ≠ '\r') :
    splitlines (line ++ char :: rest) = line :: splitlines rest := by
  induction line with
  | nil => exact splitlines_end ends notReturn
  | cons first line ih =>
      rw [List.cons_append, splitlines_cons (inLine first (by simp)),
        ih fun other inside => inLine other (by simp [inside])]

theorem splitlines_newline (inLine : ∀ char ∈ line, endsLine char = false) :
    splitlines (line ++ '\n' :: rest) = line :: splitlines rest :=
  splitlines_line inLine (by decide) (by decide)

end Lines

/-! ## Bytes and characters -/

section Encoding

theorem encoded_eq (chars : List Char) : encoded chars = chars.flatMap String.utf8EncodeChar := by
  unfold encoded utf8
  rw [String.toByteArray_ofList, List.utf8Encode, List.toList_data_toByteArray]

@[simp] theorem encoded_append (first second : List Char) :
    encoded (first ++ second) = encoded first ++ encoded second := by
  simp [encoded_eq]

@[simp] theorem characters_encoded (chars : List Char) : characters (encoded chars) = chars := by
  rw [encoded, characters_utf8, String.toList_ofList]

theorem encoded_toList (text : String) : encoded text.toList = utf8 text := by
  rw [encoded, String.ofList_toList]

theorem encodeChar_ascii {char : Char} (ascii : char.toNat < 128) :
    String.utf8EncodeChar char = [UInt8.ofNat char.toNat] := by
  unfold String.utf8EncodeChar
  exact if_pos (Nat.le_of_lt_succ ascii)

theorem encodeChar_other {char : Char} (other : 128 ≤ char.toNat) :
    ∀ byte ∈ String.utf8EncodeChar char, 128 ≤ byte := by
  have high {code : Nat} (least : 128 ≤ code) (most : code < 256) : 128 ≤ UInt8.ofNat code := by
    rw [UInt8.le_iff_toNat_le, UInt8.toNat_ofNat', Nat.mod_eq_of_lt most]
    exact least
  have more : ¬ char.val.toNat ≤ 127 := by
    change ¬ char.toNat ≤ 127
    omega
  intro byte inside
  simp only [String.utf8EncodeChar, if_neg more] at inside
  split at inside
  · simp only [List.mem_cons, List.not_mem_nil, or_false] at inside
    obtain rfl | rfl := inside <;> exact high (by omega) (by omega)
  · split at inside
    · simp only [List.mem_cons, List.not_mem_nil, or_false] at inside
      obtain rfl | rfl | rfl := inside <;> exact high (by omega) (by omega)
    · simp only [List.mem_cons, List.not_mem_nil, or_false] at inside
      obtain rfl | rfl | rfl | rfl := inside <;> exact high (by omega) (by omega)

end Encoding

end JVLinkServer
