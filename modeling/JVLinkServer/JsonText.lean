import JVLinkServer.JsonQuotes
import JVLinkServer.TextLines

namespace JVLinkServer.Json

/-! # Documents as texts

A string is escaped byte by byte and read in characters.  Control characters never come
through the escapes, but three of the characters that end a line do.
-/

/-- An escaped character. -/
def escapeChar (char : Char) : List Char :=
  if char.toNat < 128 then
    (escape (UInt8.ofNat char.toNat)).map fun byte => Char.ofNat byte.toNat
  else [char]

def escaped (text : List Char) : List Char := text.flatMap escapeChar

/-- A character that ends a line and is not escaped. -/
def isSeparator (char : Char) : Bool :=
  char.toNat == 0x85 || char.toNat == 0x2028 || char.toNat == 0x2029

@[simp] theorem escaped_nil : escaped [] = [] := rfl

@[simp] theorem escaped_cons (char : Char) (text : List Char) :
    escaped (char :: text) = escapeChar char ++ escaped text := rfl

/-- What an escape of an ASCII character is made of. -/
theorem escape_ascii {code : Nat} (ascii : code < 128) : ∀ byte ∈ escape (UInt8.ofNat code),
    byte < 128 ∧ endsLine (Char.ofNat byte.toNat) = false := by
  have all : ∀ code < 128, (escape (UInt8.ofNat code)).all
      (fun byte => decide (byte < 128) && !endsLine (Char.ofNat byte.toNat)) = true := by
    decide +kernel
  simpa using all code ascii

theorem escape_high {byte : UInt8} (high : 128 ≤ byte) : escape byte = [byte] := by
  have notShort : shortEscape byte = none := by
    unfold shortEscape
    grind
  have notControl : ¬ byte < 32 := by grind
  simp [escape, notShort, notControl]

theorem encoded_escapeChar (char : Char) :
    encoded (escapeChar char) = (String.utf8EncodeChar char).flatMap escape := by
  rw [encoded_eq]
  unfold escapeChar
  split
  · next ascii =>
      rw [encodeChar_ascii ascii, List.flatMap_singleton, List.flatMap_map]
      have same : ∀ byte ∈ escape (UInt8.ofNat char.toNat),
          String.utf8EncodeChar (Char.ofNat byte.toNat) = [byte] := by
        intro byte inside
        have small : byte.toNat < 128 := (escape_ascii ascii byte inside).1
        have valid : (Char.ofNat byte.toNat).toNat = byte.toNat := by
          unfold Char.ofNat
          rw [dif_pos (.inl (by omega))]
          rfl
        rw [encodeChar_ascii (by omega), valid, UInt8.ofNat_toNat]
      rw [List.flatMap_congr same, List.flatMap_singleton']
  · next other =>
      have same : ∀ byte ∈ String.utf8EncodeChar char, escape byte = [byte] :=
        fun byte inside => escape_high (encodeChar_other (by omega) byte inside)
      rw [List.flatMap_congr same, List.flatMap_singleton', List.flatMap_singleton]

/-- The bytes of an escaped text are the escapes of its bytes. -/
theorem encoded_escaped (text : List Char) :
    encoded (escaped text) = (encoded text).flatMap escape := by
  induction text with
  | nil => rfl
  | cons char text ih =>
      rw [escaped_cons, encoded_append, encoded_escapeChar, ih, encoded_eq (char :: text),
        List.flatMap_cons, List.flatMap_append, encoded_eq text]

/-! ## Lines -/

theorem escapeChar_separator {char : Char} (separator : isSeparator char = true) :
    escapeChar char = [char] ∧ endsLine char = true ∧ char ≠ '\r' := by
  simp only [isSeparator, Bool.or_eq_true, beq_iff_eq] at separator
  refine ⟨if_neg (by omega), ?_, ?_⟩
  · simp only [endsLine, Bool.or_eq_true, beq_iff_eq]
    omega
  · rintro rfl
    simp at separator

theorem escapeChar_inLine {char : Char} (plain : isSeparator char = false) :
    ∀ other ∈ escapeChar char, endsLine other = false := by
  unfold escapeChar
  split
  · next ascii =>
      intro other inside
      obtain ⟨byte, escaped, rfl⟩ := List.mem_map.mp inside
      exact (escape_ascii ascii byte escaped).2
  · next high =>
      intro other inside
      obtain rfl := List.mem_singleton.mp inside
      simp only [isSeparator, Bool.or_eq_false_iff, beq_eq_false_iff_ne] at plain
      simp only [endsLine, Bool.or_eq_false_iff, Bool.and_eq_false_iff, decide_eq_false_iff_not,
        beq_eq_false_iff_ne]
      omega

theorem escaped_inLine {text : List Char} (plain : ∀ char ∈ text, isSeparator char = false) :
    ∀ other ∈ escaped text, endsLine other = false := by
  intro other inside
  obtain ⟨char, member, inside⟩ := List.mem_flatMap.mp inside
  exact escapeChar_inLine (plain char member) other inside

/-- A separator cuts a string.  The fragments but the last are nothing but string after
what stands before it, or nothing but string. -/
theorem splitlines_cut {before text : List Char}
    (inLine : ∀ char ∈ before, endsLine char = false)
    (cut : ∃ char ∈ text, isSeparator char = true) (rest : List Char) :
    ∃ fragments last, splitlines (before ++ escaped text ++ rest) =
        fragments ++ splitlines (escaped last ++ rest) ∧
      (∀ char ∈ last, isSeparator char = false) ∧
      ∀ fragment ∈ fragments, (∃ part, fragment = before ++ escaped part) ∨
        ∃ part, fragment = escaped part := by
  induction text generalizing before with
  | nil =>
      obtain ⟨char, inside, -⟩ := cut
      cases inside
  | cons char text ih =>
      cases separator : isSeparator char with
      | true =>
          obtain ⟨itself, ends, notReturn⟩ := escapeChar_separator separator
          have first : splitlines (before ++ escaped (char :: text) ++ rest) =
              before :: splitlines (escaped text ++ rest) := by
            rw [escaped_cons, itself]
            rw [List.append_assoc, List.append_assoc]
            exact splitlines_line inLine ends notReturn
          by_cases again : ∃ char ∈ text, isSeparator char = true
          · have start : ∀ char ∈ ([] : List Char), endsLine char = false := by simp
            obtain ⟨fragments, last, lines, plain, shapes⟩ := ih start again
            refine ⟨before :: fragments, last, ?_, plain, ?_⟩
            · rw [first]
              simpa using lines
            · intro fragment inside
              obtain rfl | inside := List.mem_cons.mp inside
              · exact .inl ⟨[], by simp⟩
              · obtain ⟨part, rfl⟩ | ⟨part, rfl⟩ := shapes fragment inside
                · exact .inr ⟨part, rfl⟩
                · exact .inr ⟨part, rfl⟩
          · refine ⟨[before], text, first, ?_, ?_⟩
            · simpa using again
            · intro fragment inside
              obtain rfl := List.mem_singleton.mp inside
              exact .inl ⟨[], by simp⟩
      | false =>
          have rest? : ∃ char ∈ text, isSeparator char = true := by
            obtain ⟨other, inside, found⟩ := cut
            obtain rfl | inside := List.mem_cons.mp inside
            · cases separator.symm.trans found
            · exact ⟨other, inside, found⟩
          have longer : ∀ other ∈ before ++ escapeChar char, endsLine other = false := by
            intro other inside
            exact (List.mem_append.mp inside).elim (inLine other)
              (escapeChar_inLine separator other)
          obtain ⟨fragments, last, lines, plain, shapes⟩ := ih longer rest?
          refine ⟨fragments, last, by simpa using lines, plain, ?_⟩
          intro fragment inside
          obtain ⟨part, rfl⟩ | other := shapes fragment inside
          · exact .inl ⟨char :: part, by simp⟩
          · exact .inr other

end JVLinkServer.Json
