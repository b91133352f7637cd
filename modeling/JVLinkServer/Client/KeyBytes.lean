import JVLinkServer.Client.RecordKeys

namespace JVLinkServer.Client

open Json JVLinkServer.Records

/-! # The bytes of a key

Digits but for the code of the racecourse: such a key is the identifier of its race.
-/

/-! ## Numbers of a fixed width -/

/-- The number that digits write. -/
def ofDigits (digits : List (Fin 10)) : Nat :=
  digits.foldl (fun value digit => 10 * value + digit.val) 0

@[simp] theorem ofDigits_append (digits : List (Fin 10)) (digit : Fin 10) :
    ofDigits (digits ++ [digit]) = 10 * ofDigits digits + digit.val := by
  simp [ofDigits]

theorem ofDigits_lt (digits : List (Fin 10)) : ofDigits digits < 10 ^ digits.length := by
  induction digits using List.reverseRecOn with
  | nil => decide
  | append_singleton digits digit ih =>
      rw [ofDigits_append, List.length_append, List.length_singleton, Nat.pow_succ]
      have small := digit.isLt
      omega

theorem fixedDigits_ofDigits (digits : List (Fin 10)) :
    fixedDigits digits.length (ofDigits digits) = digits := by
  induction digits using List.reverseRecOn with
  | nil => rfl
  | append_singleton digits digit ih =>
      have small := digit.isLt
      have tens : (10 * ofDigits digits + digit.val) / 10 = ofDigits digits := by omega
      have ones : (10 * ofDigits digits + digit.val) % 10 = digit.val := by omega
      rw [ofDigits_append, List.length_append, List.length_singleton, fixedDigits, tens, ih]
      simp [ones]

theorem zeroPadded_ofDigits {digits : List (Fin 10)} {width : Nat}
    (wide : digits.length = width + 1) :
    zeroPadded (width + 1) (ofDigits digits) = digits.map digitChar := by
  rw [zeroPadded_eq width (wide ▸ ofDigits_lt digits), ← wide, fixedDigits_ofDigits]

/-- The characters of bytes of ASCII. -/
def chars (bytes : Bytes) : List Char := bytes.map fun byte => Char.ofNat byte.toNat

/-- The digit of a byte. -/
def digitOf (byte : UInt8) : Fin 10 := ⟨(byte.toNat - 48) % 10, Nat.mod_lt _ (by decide)⟩

/-- The number that a field of digits holds. -/
def numberOf (bytes : Bytes) : Nat := ofDigits (bytes.map digitOf)

theorem chars_digits {bytes : Bytes} (digits : bytes.all isDigit = true) :
    chars bytes = (bytes.map digitOf).map digitChar := by
  rw [chars, List.map_map, List.map_inj_left]
  intro byte inside
  have digit := List.all_eq_true.mp digits byte inside
  simp only [isDigit, decide_eq_true_eq, UInt8.le_iff_toNat_le] at digit
  have lower : 48 ≤ byte.toNat := digit.1
  have upper : byte.toNat ≤ 57 := digit.2
  have code : 48 + (byte.toNat - 48) % 10 = byte.toNat := by omega
  rw [Function.comp_apply, digitChar, digitOf, code]

theorem zeroPadded_numberOf {bytes : Bytes} (digits : bytes.all isDigit = true) {width : Nat}
    (wide : bytes.length = width + 1) : zeroPadded (width + 1) (numberOf bytes) = chars bytes := by
  rw [chars_digits digits, numberOf, zeroPadded_ofDigits (by rw [List.length_map, wide])]

/-! ## Keys in records -/

/-- The fields of a key. -/
def keyNames : List String :=
  ["meet_year", "meet_date", "racecourse_code", "meet_round", "meet_day", "race_number"]

/-- The parser of the type emits all of them. -/
def emitsKey (type : RecordType) : Bool :=
  keyNames.all fun name => ((statementsOf type).map Statement.name).contains name

/-- The offset of the first, which the record of a racecourse has one byte later. -/
def keyStart (type : RecordType) : Nat := if type = .rc then 12 else 11

/-- The sixteen bytes are digits, with a month and a day, and around a code of two bytes. -/
structure KeyAt (codeByte : UInt8 → Bool) (start : Nat) (rawData : Bytes) : Prop where
  whole : start + 16 ≤ rawData.length
  date : (slice start 8 rawData).all isDigit = true
  code : (slice (start + 8) 2 rawData).all codeByte = true
  numbers : (slice (start + 10) 6 rawData).all isDigit = true
  month : 1 ≤ numberOf (slice (start + 4) 2 rawData) ∧ numberOf (slice (start + 4) 2 rawData) ≤ 12
  day : 1 ≤ numberOf (slice (start + 6) 2 rawData) ∧ numberOf (slice (start + 6) 2 rawData) ≤ 31

/-- ASCII other than the space. -/
def unspaced (byte : UInt8) : Bool := byte < 128 && byte != 32

/-- ASCII that neither ends a text nor is stripped from one. -/
def isSolidByte (byte : UInt8) : Bool :=
  byte < 128 && byte != 0 && !isPythonSpace (Char.ofNat byte.toNat)

namespace KeyAt

variable {start : Nat} {rawData : Bytes} (written : KeyAt isSolidByte start rawData)
include written

theorem solid : ∀ char ∈ chars (slice (start + 8) 2 rawData), isPythonSpace char = false := by
  intro char inside
  obtain ⟨byte, member, rfl⟩ := List.mem_map.mp inside
  have own := List.all_eq_true.mp written.code byte member
  simp only [isSolidByte, Bool.and_eq_true, Bool.not_eq_true'] at own
  exact own.2

theorem pieces :
    (slice start 4 rawData).all isDigit = true ∧ (slice (start + 4) 2 rawData).all isDigit = true ∧
      (slice (start + 6) 2 rawData).all isDigit = true ∧
      (slice (start + 10) 2 rawData).all isDigit = true ∧
      (slice (start + 12) 2 rawData).all isDigit = true ∧
      (slice (start + 14) 2 rawData).all isDigit = true := by
  have date := written.date
  have numbers := written.numbers
  rw [← slice_append start 4 4, ← slice_append (start + 4) 2 2] at date
  rw [← slice_append (start + 10) 2 4, ← slice_append (start + 10 + 2) 2 2] at numbers
  simp only [List.all_append, Bool.and_eq_true] at date numbers
  exact ⟨date.1, date.2.1, date.2.2, numbers.1, numbers.2.1, numbers.2.2⟩

theorem lengths (offset size : Nat) (inside : offset + size ≤ 16) :
    (slice (start + offset) size rawData).length = size :=
  length_slice (by have := written.whole; omega)

/-- The key that the bytes write. -/
def raceKey : RaceKey where
  year := (numberOf (slice start 4 rawData) : Nat)
  month := numberOf (slice (start + 4) 2 rawData)
  dayOfMonth := numberOf (slice (start + 6) 2 rawData)
  code := chars (slice (start + 8) 2 rawData)
  round := (numberOf (slice (start + 10) 2 rawData) : Nat)
  day := (numberOf (slice (start + 12) 2 rawData) : Nat)
  number := (numberOf (slice (start + 14) 2 rawData) : Nat)
  monthFits := written.month
  dayFits := written.day
  two := by rw [chars, List.length_map, written.lengths 8 2 (by decide)]
  solid := pythonStrip_of_solid written.solid

theorem raceKey_text : written.raceKey.text = chars (slice start 16 rawData) := by
  obtain ⟨years, months, days, rounds, meetDays, numbers⟩ := written.pieces
  have whole : slice start 16 rawData =
      slice start 4 rawData ++ slice (start + 4) 2 rawData ++ slice (start + 6) 2 rawData ++
        slice (start + 8) 2 rawData ++
        (slice (start + 10) 2 rawData ++ slice (start + 12) 2 rawData ++
          slice (start + 14) 2 rawData) := by
    rw [slice_append start 4 2, slice_append start 6 2, slice_append start 8 2,
      slice_append (start + 10) 2 2, slice_append (start + 10) 4 2, slice_append start 10 6]
  have pair {offset : Nat} (digits : (slice (start + offset) 2 rawData).all isDigit = true)
      (inside : offset + 2 ≤ 16) :
      zeroPadded 2 (numberOf (slice (start + offset) 2 rawData)) =
        chars (slice (start + offset) 2 rawData) :=
    zeroPadded_numberOf digits (written.lengths offset 2 inside)
  have year : zeroPadded 4 (numberOf (slice start 4 rawData)) = chars (slice start 4 rawData) :=
    zeroPadded_numberOf years (written.lengths 0 4 (by decide))
  simp only [RaceKey.text, RaceKey.date, raceKey, year, pair months (by decide),
    pair days (by decide), pair rounds (by decide), pair meetDays (by decide),
    pair numbers (by decide)]
  rw [whole]
  simp only [chars, List.map_append]

end KeyAt

/-! ## Texts of ASCII -/

/-- The code page has the characters of ASCII at their places. -/
def KeepsAscii (codePage : Bytes → Option Bytes) : Prop :=
  ∀ text : Bytes, (∀ byte ∈ text, byte < 128) → codePage text = some text

theorem ascii_digit {byte : UInt8} (digit : isDigit byte = true) : isSolidByte byte = true := by
  revert byte
  decide +kernel

section Read

variable {codePage : Bytes → Option Bytes} (ascii : KeepsAscii codePage) {rawData : Bytes}
include ascii

theorem characters_solid {start size : Nat} (fits : start + size ≤ rawData.length)
    (solid : (slice start size rawData).all isSolidByte = true) :
    characters (extractAndConvert codePage rawData start size) =
      chars (slice start size rawData) := by
  have each := List.all_eq_true.mp solid
  have small : ∀ byte ∈ slice start size rawData, byte < 128 := by
    intro byte inside
    have own := each byte inside
    simp only [isSolidByte, Bool.and_eq_true, decide_eq_true_eq] at own
    exact own.1.1
  have ended : (slice start size rawData).takeWhile (· != 0) = slice start size rawData := by
    rw [List.takeWhile_eq_self_iff]
    intro byte inside
    have own := each byte inside
    simp only [isSolidByte, Bool.and_eq_true] at own
    exact own.1.2
  have text : extractAndConvert codePage rawData start size = slice start size rawData := by
    rw [extractAndConvert, extractField, if_neg (by omega), convertEncoding]
    cases empty : (slice start size rawData).isEmpty with
    | true => rw [List.isEmpty_iff.mp empty]; rfl
    | false =>
        rw [ended, ascii _ small]
        rfl
  calc characters (extractAndConvert codePage rawData start size)
    _ = characters (encoded (chars (slice start size rawData))) := by
      rw [text, chars, encoded_ascii small]
    _ = chars (slice start size rawData) := characters_encoded _

theorem joined_written (written : KeyAt isSolidByte 11 rawData) :
    (keyTexts codePage rawData).joined = chars (slice 11 16 rawData) := by
  obtain ⟨years, months, days, rounds, meetDays, numbers⟩ := written.pieces
  have whole := written.whole
  have digits {bytes : Bytes} (all : bytes.all isDigit = true) : bytes.all isSolidByte = true := by
    rw [List.all_eq_true] at all ⊢
    exact fun byte inside => ascii_digit (all byte inside)
  have dates : (slice 15 4 rawData).all isSolidByte = true := by
    rw [← slice_append 15 2 2, List.all_append, digits months, digits days]
    rfl
  have code : (slice 19 2 rawData).all isSolidByte = true := written.code
  simp only [KeyTexts.joined, keyTexts]
  rw [characters_solid ascii (by omega) (digits years), characters_solid ascii (by omega) dates,
    characters_solid ascii (by omega) code, characters_solid ascii (by omega) (digits rounds),
    characters_solid ascii (by omega) (digits meetDays),
    characters_solid ascii (by omega) (digits numbers), ← key_slices rawData]
  simp only [chars, List.map_append]

end Read

/-! ## Identifiers -/

/-- Every dataspec of race keys takes the text as it is. -/
def TakenAsKey (upper : StrUpper) (text : List Char) : Prop :=
  ∀ spec, takesRaceKeys spec = true →
    validateRealtimeQueryInput upper (.value spec.value) (.text (String.ofList text)) =
      .ok (spec.value, text)

theorem taken_of_accepted {upper : StrUpper} {text : List Char} (accepted : Accepted upper text) :
    TakenAsKey upper text := by
  intro spec takes
  have clean : upper.clean spec.value.toList = spec.value.toList :=
    clean_keyChars upper fun char inside => isKeyChar_codes char
      (List.mem_flatMap.mpr ⟨spec, List.mem_singleton_self spec, inside⟩)
  have realtime : JVDataSpec.realtime.contains spec = true := by
    revert takes
    cases spec <;> decide
  have named : spec.value.toList.isEmpty = false ∧
      JVDataSpec.ofValue? spec.value.toList = some spec := by
    cases spec <;> decide
  simp only [validateRealtimeQueryInput, clean, named.1, named.2, realtime, accepted spec takes]
  rfl

section Identifiers

variable (type : RecordType) (rawData : Bytes)

/-- The bytes of the key as a text. -/
def keyText : List Char := chars (slice (keyStart type) 16 rawData)

/-- The key without its round and day. -/
def keyTextShort : List Char := (keyText type rawData).take 10 ++ (keyText type rawData).drop 14

/-- The date is real, and the code consists of letters and digits. -/
structure NamesPlace : Prop where
  date : isRealDate (numberOf (slice (keyStart type) 4 rawData))
    (numberOf (slice (keyStart type + 4) 2 rawData))
    (numberOf (slice (keyStart type + 6) 2 rawData)) = true
  code : (chars (slice (keyStart type + 8) 2 rawData)).all isKeyChar = true

/-- Wherever the record has an identifier it is the key, and queries take both. -/
structure NamedByKey (attributes : List (String × AttributeValue)) : Prop where
  identifier : ∀ value, ("race_id", value) ∈ attributes →
    value = .field (.str (some (keyText type rawData)))
  short : ∀ value, ("race_id_short", value) ∈ attributes →
    value = .field (.str (some (keyTextShort type rawData)))
  taken : NamesPlace type rawData → ∀ upper,
    TakenAsKey upper (keyText type rawData) ∧ TakenAsKey upper (keyTextShort type rawData)

end Identifiers

theorem KeyAt.taken {type : RecordType} {rawData : Bytes}
    (written : KeyAt isSolidByte (keyStart type) rawData) (place : NamesPlace type rawData)
    (upper : StrUpper) :
    TakenAsKey upper (keyText type rawData) ∧ TakenAsKey upper (keyTextShort type rawData) := by
  have text : written.raceKey.text = keyText type rawData := written.raceKey_text
  have wide : written.raceKey.text.length = 16 := by
    rw [text, keyText, chars, List.length_map, length_slice written.whole]
  have real : written.raceKey.Real :=
    { year := Int.natCast_nonneg _
      date := place.date
      code := place.code
      number := Int.natCast_nonneg _ }
  have short := RaceKey.short_eq wide
  rw [text] at short
  rw [← text, keyTextShort, ← short]
  refine ⟨taken_of_accepted ((RaceKey.accepted_text_iff wide).mpr ⟨real, ?_⟩),
    taken_of_accepted ((RaceKey.accepted_short_iff wide).mpr real)⟩
  exact ⟨Int.natCast_nonneg _, Int.natCast_nonneg _⟩

/-- Only the record of a racecourse has a key and no identifier. -/
theorem namesRace_of_emitsKey {type : RecordType} (emits : emitsKey type = true)
    (race : type ≠ .rc) : namesRace type = true := by
  revert emits race
  cases type <;> decide +kernel

theorem unnamed_racecourse :
    "race_id" ∉ (decoderOf .rc).names ∧ "race_id_short" ∉ (decoderOf .rc).names := by
  decide +kernel

/-- The other types have both identifiers, made of the key. -/
theorem identifiers_written {python : PythonStr} {codePage : Bytes → Option Bytes}
    (page : CodePage932 codePage) (ascii : KeepsAscii codePage) {rawData : Bytes}
    {type : RecordType} (other : type ≠ .rc) (emits : emitsKey type = true)
    (written : KeyAt isSolidByte (keyStart type) rawData)
    {attributes : List (String × AttributeValue)}
    (decoded : (decoderOf type).decode python (emitted codePage rawData type) = .ok attributes) :
    ("race_id", .field (.str (some (keyText type rawData)))) ∈ attributes ∧
      ("race_id_short", .field (.str (some (keyTextShort type rawData)))) ∈ attributes := by
  have names := namesRace_of_emitsKey emits other
  have start : keyStart type = 11 := if_neg other
  rw [start] at written
  have text : written.raceKey.text = keyText type rawData := by
    rw [keyText, start]
    exact written.raceKey_text
  have wide : written.raceKey.text.length = 16 := by
    rw [text, keyText, chars, List.length_map, start, length_slice written.whole]
  obtain ⟨context, built, all⟩ := race_attributes decoded (race_prologue names)
  have identifier : ("race_id", .field (.str context.raceId)) ∈ attributes :=
    all _ (by simp [contextKwargs])
  have short : ("race_id_short", .field (.str context.raceIdShort)) ∈ attributes :=
    all _ (by simp [contextKwargs])
  obtain ⟨long, cut⟩ := context_of_key (hasKey page names) built
    (written.raceKey_text.trans (joined_written ascii written).symm)
  rw [long, text] at identifier
  rw [cut, RaceKey.short_eq wide, text] at short
  exact ⟨identifier, short⟩

section Record

variable {python : PythonStr} (capitals : KeepsCapitals python)
  {codePage : Bytes → Option Bytes} (page : CodePage932 codePage) (ascii : KeepsAscii codePage)
  (includeRaw : Bool)
include capitals page ascii

/-- A record with a key decodes, and its identifiers are the bytes of the key, whatever the type
of the record and the code of the racecourse. -/
theorem race_id_is_key {rawData : Bytes} {type : RecordType}
    (is : (parseRecord (parseBasicFields codePage) rawData).type = type)
    (emits : emitsKey type = true) (written : KeyAt isSolidByte (keyStart type) rawData) :
    ∃ raw attributes,
      decodeRow python includeRaw (storedRow codePage rawData) =
        .ok { type := utf8 type.name, record := .known (utf8 type.name) attributes, raw } ∧
      NamedByKey type rawData attributes ∧
      (type ≠ .rc → "race_id" ∈ attributes.map Prod.fst ∧
        "race_id_short" ∈ attributes.map Prod.fst) := by
  have known : type ≠ .unknown := by
    rintro rfl
    exact absurd emits (by decide)
  obtain ⟨raw, attributes, decoded, row⟩ := decodeRow_attributes capitals page includeRaw is known
  have names := attribute_names decoded
  by_cases racecourse : type = .rc
  · subst racecourse
    obtain ⟨noLong, noShort⟩ := unnamed_racecourse
    rw [← names] at noLong noShort
    exact ⟨raw, attributes, row,
      { identifier := fun value member => absurd (List.mem_map_of_mem member) noLong
        short := fun value member => absurd (List.mem_map_of_mem member) noShort
        taken := fun place upper => written.taken place upper },
      fun other => absurd rfl other⟩
  · obtain ⟨long, short⟩ := identifiers_written page ascii racecourse emits written decoded
    exact ⟨raw, attributes, row,
      { identifier := fun value member => attribute_unique decoded member long
        short := fun value member => attribute_unique decoded member short
        taken := fun place upper => written.taken place upper },
      fun _ => ⟨List.mem_map_of_mem long, List.mem_map_of_mem short⟩⟩

end Record

/-! ## A code page of nothing but ASCII -/

def asciiPage (text : Bytes) : Option Bytes :=
  some (text.map fun byte => if byte < 128 then byte else 63)

theorem asciiPage_keeps : KeepsAscii asciiPage := by
  intro text small
  rw [asciiPage, List.map_congr_left fun byte inside => if_pos (small byte inside), List.map_id']

theorem asciiPage_coded : CodePage932 asciiPage := by
  refine mapped_coded (by decide +kernel) ?_ (by decide +kernel)
  intro byte printable
  exact if_pos (printable_code printable).2.2

theorem race_id_is_key_cup : ∃ raw attributes,
    decodeRow plainText true (storedRow asciiPage cupRecord) =
      .ok { type := utf8 "RA", record := .known (utf8 "RA") attributes, raw } ∧
    ("race_id", .field (.str (some "2026080105031109".toList))) ∈ attributes ∧
    ("race_id_short", .field (.str (some "202608010509".toList))) ∈ attributes ∧
    ∀ upper, TakenAsKey upper "2026080105031109".toList ∧
      TakenAsKey upper "202608010509".toList := by
  have capitals : KeepsCapitals plainText := fun _ _ => rfl
  obtain ⟨raw, attributes, row, named, present⟩ :=
    race_id_is_key capitals asciiPage_coded asciiPage_keeps true
      (by decide +kernel : (parseRecord (parseBasicFields asciiPage) cupRecord).type = .ra)
      (by decide +kernel) ⟨by decide, by decide, by decide, by decide, by decide, by decide⟩
  have text : keyText .ra cupRecord = "2026080105031109".toList := by decide
  have short : keyTextShort .ra cupRecord = "202608010509".toList := by decide
  obtain ⟨long, cut⟩ := present (by decide)
  obtain ⟨⟨_, value⟩, member, rfl⟩ := List.mem_map.mp long
  obtain ⟨⟨_, other⟩, another, same⟩ := List.mem_map.mp cut
  cases same
  rw [named.identifier value member, text] at member
  rw [named.short other another, short] at another
  have taken := named.taken ⟨by decide, by decide⟩
  rw [text, short] at taken
  exact ⟨raw, attributes, row, member, another, taken⟩

/-- A record whose code has a zero byte. -/
def cutCodeRecord : Bytes := utf8 "RA720260720202608010" ++ 0 :: utf8 "031109"

/-- A zero byte is ASCII and no space, and it ends the code. -/
theorem zero_byte_ends_code :
    ¬ ∀ (codePage : Bytes → Option Bytes) (rawData : Bytes) (type : RecordType),
      CodePage932 codePage → KeepsAscii codePage →
      (parseRecord (parseBasicFields codePage) rawData).type = type → emitsKey type = true →
      KeyAt unspaced (keyStart type) rawData →
      ∃ raw attributes,
        decodeRow plainText true (storedRow codePage rawData) =
          .ok { type := utf8 type.name, record := .known (utf8 type.name) attributes, raw } ∧
        NamedByKey type rawData attributes := by
  intro named
  have capitals : KeepsCapitals plainText := fun _ _ => rfl
  have is : (parseRecord (parseBasicFields asciiPage) cutCodeRecord).type = .ra := by
    decide +kernel
  obtain ⟨raw, attributes, row, named⟩ := named asciiPage cutCodeRecord .ra asciiPage_coded
    asciiPage_keeps is (by decide +kernel)
    ⟨by decide, by decide, by decide, by decide, by decide, by decide⟩
  obtain ⟨_, _, decoded, same⟩ :=
    decodeRow_attributes capitals asciiPage_coded true is (by decide)
  rw [row] at same
  injection same with same
  injection same with _ record
  injection record with _ same
  subst same
  obtain ⟨context, built, all⟩ := race_attributes decoded (.inl rfl)
  have identifier : ("race_id", .field (.str context.raceId)) ∈ attributes :=
    all _ (by simp [contextKwargs])
  have value := named.identifier _ identifier
  have cut : (buildContext plainText (emitted asciiPage cutCodeRecord .ra)).toOption.map
      RaceContext.raceId = some none := by
    decide +kernel
  rw [built] at cut
  have missing : context.raceId = none := Option.some.inj cut
  rw [missing] at value
  cases value

end JVLinkServer.Client
