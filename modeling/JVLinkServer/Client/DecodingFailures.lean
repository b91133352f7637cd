import JVLinkServer.Client.RealtimeKeys
import JVLinkServer.Client.RecordDecoder
import JVLinkServer.Fallible

namespace JVLinkServer.Client

open JVLinkServer.Records

/-! # Rows that do not decode

`str.isdigit` holds of characters that `int` does not read, a float has a largest value, and
`datetime` takes a C integer.  Nothing else makes the decoding of a row raise.
-/

/-! ## Digits and white space -/

/-- The code points of white space. -/
def spaceCodes : List Nat :=
  [9, 10, 11, 12, 13, 28, 29, 30, 31, 32, 0x85, 0xa0, 0x1680, 0x2000, 0x2001, 0x2002, 0x2003,
    0x2004, 0x2005, 0x2006, 0x2007, 0x2008, 0x2009, 0x200a, 0x2028, 0x2029, 0x202f, 0x205f, 0x3000]

theorem spaceCodes_of_space {char : Char} (space : isPythonSpace char = true) :
    char.toNat ∈ spaceCodes := by
  simp [isPythonSpace] at space
  simp [spaceCodes]
  omega

theorem spaceCodes_no_digits : ∀ code ∈ spaceCodes,
    (digitZeros.find? fun base => base ≤ code && code < base + 10) = none ∧
      (otherDigits.any fun range => range.1 ≤ code && code ≤ range.2) = false := by
  decide

theorem digit_not_space {char : Char} (digit : isPythonDigit char = true) :
    isPythonSpace char = false := by
  rw [Bool.eq_false_iff]
  intro space
  obtain ⟨noDecimal, noOther⟩ := spaceCodes_no_digits _ (spaceCodes_of_space space)
  have decimal : digitValue? char = none := by
    rw [digitValue?, noDecimal]
    rfl
  rw [isPythonDigit, decimal, Option.isSome_none, Bool.false_or] at digit
  exact absurd (digit.symm.trans noOther) (by decide)

theorem pythonInt?_pair {tens ones : Char} (first : isPythonDigit tens = true)
    (second : isPythonDigit ones = true) :
    pythonInt? [tens, ones] =
      (digitValue? tens).bind fun high =>
        (digitValue? ones).map fun low => (10 * high + low : Int) := by
  have solid : pythonStrip [tens, ones] = [tens, ones] := by
    apply pythonStrip_of_solid
    simp [digit_not_space first, digit_not_space second]
  have minus : tens ≠ '-' := by
    rintro rfl
    exact absurd first (by decide)
  have plus : tens ≠ '+' := by
    rintro rfl
    exact absurd first (by decide)
  have underscore : ones ≠ '_' := by
    rintro rfl
    exact absurd second (by decide)
  have group : digitGroup? [tens, ones] =
      (digitValue? tens).bind fun high => (digitValue? ones).map fun low => [high, low] := by
    rw [digitGroup?.eq_4 _ _ (by simp) (by simpa using underscore)]
    cases digitValue? tens <;> cases low : digitValue? ones <;> simp [digitGroup?, low]
  unfold pythonInt?
  rw [solid]
  dsimp only
  split
  · rename_i same
    exact absurd (List.cons.inj same).1 minus
  · rename_i same
    exact absurd (List.cons.inj same).1 plus
  · rw [group]
    cases digitValue? tens with
    | none => rfl
    | some high =>
        cases digitValue? ones with
        | none => rfl
        | some low => simp [Int.mul_comm]

theorem fails_parseInt_pair {text : List Char} (two : text.length = 2)
    (digits : ∀ char ∈ text, isPythonDigit char = true) :
    Fails (parseInt text) ↔ text.all isDecimal = false := by
  obtain ⟨tens, ones, rfl⟩ := List.length_eq_two.mp two
  rw [List.forall_mem_cons, List.forall_mem_singleton] at digits
  simp only [parseInt, pythonInt?_pair digits.1 digits.2, List.all_cons, List.all_nil, isDecimal]
  cases digitValue? tens with
  | none => simp
  | some high => cases digitValue? ones <;> simp

/-! ## Conversions that raise -/

/-- So many digits, of which not all are decimal. -/
def Misread (count : Nat) (text? : Option (List Char)) : Prop :=
  ∃ text, text? = some text ∧ areDigits count text = true ∧ text.all isDecimal = false

@[simp] theorem not_misread_none (count : Nat) : ¬ Misread count none := by
  simp [Misread]

theorem misread_some {count : Nat} {text : List Char} :
    Misread count (some text) ↔ areDigits count text = true ∧ text.all isDecimal = false := by
  simp [Misread]

theorem areDigits_iff {count : Nat} {text : List Char} :
    areDigits count text = true ↔ text.length = count ∧ ∀ char ∈ text, isPythonDigit char = true := by
  simp [areDigits]

section Pairs

variable {count : Nat} {text : List Char} (digits : areDigits count text = true)
include digits

/-- Two of the digits. -/
theorem fails_parseInt_at (start : Nat) (inside : start + 2 ≤ count) :
    Fails (parseInt ((text.drop start).take 2)) ↔
      ((text.drop start).take 2).all isDecimal = false := by
  obtain ⟨length, each⟩ := areDigits_iff.mp digits
  apply fails_parseInt_pair
  · rw [List.length_take, List.length_drop]
    omega
  · exact fun char member => each char (List.mem_of_mem_drop (List.mem_of_mem_take member))

/-- Two of the digits, and then those after them. -/
theorem fails_pair_then {α : Type} (start : Nat) (inside : start + 2 ≤ count)
    {next : Int → Converted α}
    (later : ∀ value, Fails (next value) ↔ (text.drop (start + 2)).all isDecimal = false) :
    Fails (parseInt ((text.drop start).take 2) >>= next) ↔
      (text.drop start).all isDecimal = false := by
  have halves := List.take_append_drop 2 (text.drop start)
  rw [fails_bind_const later, fails_parseInt_at digits start inside, ← halves, List.all_append,
    Bool.and_eq_false_iff, halves, List.drop_drop]

theorem nothing_left : (text.drop count).all isDecimal = true := by
  rw [List.drop_of_length_le (areDigits_iff.mp digits).1.le]
  rfl

end Pairs

section Conversions

variable (python : PythonStr) (value : Option Json)

theorem fails_toMonthDay_iff :
    Fails (toMonthDay python value) ↔ Misread 4 (toText python value) := by
  unfold toMonthDay
  cases toText python value with
  | none => simp
  | some text =>
      rw [misread_some]
      dsimp only
      cases digits : areDigits 4 text with
      | false => simp
      | true =>
          rw [if_pos rfl, eq_self, true_and]
          apply fails_pair_then digits 0 (by decide)
          intro month
          apply fails_pair_then digits 2 (by decide)
          intro day
          rw [nothing_left digits]
          split <;> simp

theorem fails_toTimeHhmm_iff :
    Fails (toTimeHhmm python value) ↔ Misread 4 (toText python value) := by
  unfold toTimeHhmm
  cases toText python value with
  | none => simp
  | some text =>
      rw [misread_some]
      dsimp only
      cases digits : areDigits 4 text with
      | false => simp
      | true =>
          rw [if_pos rfl, eq_self, true_and]
          by_cases unset : text = ['0', '0', '0', '0']
          · rw [if_pos unset, unset]
            exact iff_of_false (not_fails_ok _) (by decide)
          · rw [if_neg unset]
            apply fails_pair_then digits 0 (by decide)
            intro hour
            apply fails_pair_then digits 2 (by decide)
            intro minute
            rw [nothing_left digits]
            simp

theorem fails_toMmddhhmmParts_iff :
    Fails (toMmddhhmmParts python value) ↔ Misread 8 (toText python value) := by
  unfold toMmddhhmmParts
  cases toText python value with
  | none => simp
  | some text =>
      rw [misread_some]
      dsimp only
      cases digits : areDigits 8 text with
      | false => simp
      | true =>
          rw [if_pos rfl, eq_self, true_and]
          apply fails_pair_then digits 0 (by decide)
          intro month
          apply fails_pair_then digits 2 (by decide)
          intro day
          apply fails_pair_then digits 4 (by decide)
          intro hour
          apply fails_pair_then digits 6 (by decide)
          intro minute
          rw [nothing_left digits]
          split
          · simp
          · split <;> simp

theorem fails_toFloat_iff : Fails (toFloat python value) ↔
    ∃ parsed, toInt? python value = some parsed ∧ floatLimit ≤ parsed.natAbs := by
  unfold toFloat
  cases toInt? python value with
  | none => simp
  | some parsed =>
      by_cases large : floatLimit ≤ parsed.natAbs
      · simp [large]
      · simp [large]

end Conversions

/-! ## Announcements -/

section Announcements

variable (python : PythonStr) (payload : Json)

def AnnouncementParts.sameDay (parts : AnnouncementParts) (month day : Int) : Prop :=
  ∃ date, parts.dataCreationDate = some date ∧ (date.month : Int) = month ∧ (date.day : Int) = day

theorem fails_moment?_iff {year month day hour minute : Int} :
    Fails (moment? year month day hour minute) ↔ year < -2147483648 ∨ 2147483647 < year := by
  unfold moment?
  split
  · rename_i outside
    exact iff_of_true (fails_error _) outside
  · rename_i inside
    refine iff_of_false ?_ inside
    split
    · exact not_fails_ok _
    · split
      · exact not_fails_ok _
      · exact not_fails_ok _

theorem fails_inferAnnouncementAt_iff {parts : AnnouncementParts} {month day hour minute : Int}
    (months : parts.announcementMonth = some month) (days : parts.announcementDay = some day)
    (hours : parts.announcementHour = some hour)
    (minutes : parts.announcementMinute = some minute) :
    Fails (inferAnnouncementAt parts) ↔ ¬ parts.sameDay month day ∧
      ∃ year, parts.meetYear = some year ∧ (year < -2147483648 ∨ 2147483647 < year) := by
  unfold inferAnnouncementAt AnnouncementParts.sameDay
  rw [months, days, hours, minutes]
  dsimp only
  cases created : parts.dataCreationDate with
  | none =>
      cases parts.meetYear with
      | none => simp
      | some year => simp [fails_moment?_iff]
  | some date =>
      by_cases same : (date.month : Int) = month ∧ (date.day : Int) = day
      · have fits := date.fits
        simp [Option.filter, same, fails_moment?_iff]
        omega
      · cases parts.meetYear with
        | none => simp [Option.filter, same]
        | some year => simp [Option.filter, same, fails_moment?_iff]

theorem fails_buildContext_iff :
    Fails (buildContext python payload) ↔
      Misread 4 (toText python (payload.member? "meet_date")) :=
  (fails_bind_pure _).trans (fails_toMonthDay_iff python _)

/-- An announcement that is not of the day on which the record was made gets the year of the
meet, which is no C integer. -/
def YearOverflows : Prop :=
  ∃ announcement,
    toMmddhhmmParts python (payload.member? "announcement_datetime") = .ok (some announcement) ∧
    (¬ ∃ date, toDateYyyymmdd python (payload.member? "data_creation_date") = some date ∧
      (date.month : Int) = announcement.month ∧ (date.day : Int) = announcement.day) ∧
    ∃ year, toInt? python (payload.member? "meet_year") = some year ∧
      (year < -2147483648 ∨ 2147483647 < year)

theorem fails_decodeAnnouncement_iff {context : RaceContext}
    (built : buildContext python payload = .ok context) :
    Fails (decodeAnnouncement python payload context) ↔
      Misread 8 (toText python (payload.member? "announcement_datetime")) ∨
        YearOverflows python payload := by
  obtain ⟨monthDay, -, same⟩ := bind_ok_iff.mp built
  obtain rfl := Except.ok.inj same
  unfold decodeAnnouncement YearOverflows
  rw [fails_bind_iff, fails_toMmddhhmmParts_iff]
  apply or_congr_right
  constructor
  · rintro ⟨announcement, parsed, fails⟩
    cases announcement with
    | none => exact absurd fails (not_fails_ok _)
    | some announcement =>
        exact ⟨announcement, parsed,
          (fails_inferAnnouncementAt_iff rfl rfl rfl rfl).mp fails⟩
  · rintro ⟨announcement, parsed, overflows⟩
    exact ⟨some announcement, parsed,
      (fails_inferAnnouncementAt_iff rfl rfl rfl rfl).mpr overflows⟩

end Announcements

/-! ## Decoders that raise -/

section Decoders

variable (python : PythonStr)

def Reading.Raises (value : Option Json) : Reading → Prop
  | .float => ∃ parsed, toInt? python value = some parsed ∧ floatLimit ≤ parsed.natAbs
  | .time => Misread 4 (toText python value)
  | _ => False

def Attribute.Raises (payload : Json) : Attribute → Prop
  | field name reading => reading.Raises python (payload.member? name)
  | items name required fields =>
      ∃ row ∈ (toList (payload.member? name)).map (fun item => toDict (some item)),
        skipsRow python required row = false ∧
          ∃ field ∈ fields, field.2.Raises python (row.member? field.1)

def Prologue.Raises (payload : Json) (prologue : Prologue) : Prop :=
  let misdated := Misread 4 (toText python (payload.member? "meet_date"))
  match prologue with
  | race | dated => misdated
  | announcedRace | announcedMeet =>
      misdated ∨ Misread 8 (toText python (payload.member? "announcement_datetime")) ∨
        YearOverflows python payload
  | header => False

def Decoder.Raises (decoder : Decoder) (payload : Json) : Prop :=
  decoder.prologue.Raises python payload ∨
    ∃ own ∈ decoder.attributes, own.Raises python payload

variable {python}

theorem fails_read_iff {value : Option Json} {reading : Reading} :
    Fails (reading.read python value) ↔ reading.Raises python value := by
  cases reading with
  | float => exact (fails_bind_pure _).trans (fails_toFloat_iff python value)
  | time => exact (fails_bind_pure _).trans (fails_toTimeHhmm_iff python value)
  | _ => exact iff_of_false (not_fails_ok _) id

theorem fails_readItem_iff {fields : List Field} {row : Json} :
    Fails (readItem python fields row) ↔
      ∃ field ∈ fields, field.2.Raises python (row.member? field.1) := by
  unfold readItem
  rw [fails_mapM_iff]
  simp only [fails_bind_pure, fails_read_iff]

theorem fails_attribute_iff {payload : Json} {own : Attribute} :
    Fails (own.read python payload) ↔ own.Raises python payload := by
  cases own with
  | field name reading => exact (fails_bind_pure _).trans fails_read_iff
  | items name required fields =>
      refine (fails_bind_pure _).trans ?_
      unfold readItems
      rw [fails_mapM_iff]
      simp [fails_readItem_iff, Attribute.Raises, and_assoc]

theorem fails_announced_iff {payload : Json}
    {result : RaceContext → Option Moment → List (String × AttributeValue)} :
    Fails (do
        let context ← buildContext python payload
        let announcementAt ← decodeAnnouncement python payload context
        return result context announcementAt) ↔
      Prologue.announcedRace.Raises python payload := by
  unfold Prologue.Raises
  rw [fails_bind_iff, fails_buildContext_iff]
  by_cases misdated : Misread 4 (toText python (payload.member? "meet_date"))
  · simp [misdated]
  · obtain ⟨context, built⟩ :=
      not_fails_iff.mp (mt (fails_buildContext_iff python payload).mp misdated)
    simp only [misdated, false_or, built, Except.ok.injEq, exists_eq_left']
    exact (fails_bind_pure _).trans (fails_decodeAnnouncement_iff python payload built)

theorem fails_prologue_iff {payload : Json} {prologue : Prologue} :
    Fails (prologue.decode python payload) ↔ prologue.Raises python payload := by
  cases prologue with
  | race => exact (fails_bind_pure _).trans (fails_buildContext_iff python payload)
  | announcedRace | announcedMeet => exact fails_announced_iff
  | header => exact iff_of_false (not_fails_ok _) id
  | dated => exact (fails_bind_pure _).trans (fails_toMonthDay_iff python _)

theorem fails_decode_iff {decoder : Decoder} {payload : Json} :
    Fails (decoder.decode python payload) ↔ decoder.Raises python payload := by
  unfold Decoder.decode
  have own : ∀ shared : List (String × AttributeValue), Fails (do
      let own ← decoder.attributes.mapM fun own => do
        return (own.name, ← own.read python payload)
      return shared ++ own) ↔ ∃ own ∈ decoder.attributes, own.Raises python payload := by
    intro shared
    rw [fails_bind_pure, fails_mapM_iff]
    simp only [fails_bind_pure, fails_attribute_iff]
  rw [fails_bind_const own, fails_prologue_iff]
  rfl

theorem fails_known {recordType payload : Option Json} {type : RecordType}
    (known : type ≠ .unknown) (is : normalizeRecordType python recordType = utf8 type.name) :
    Fails ((RecordDecoder.default python).decode python recordType payload) ↔
      (decoderOf type).Raises python (toDict payload) := by
  rw [decode_known known is]
  exact (fails_bind_pure _).trans fails_decode_iff

/-- When the decoder raises for a row: it reads digits that are not decimal where a month, a day
or a time should be, a number that is too large for a float, or a year that is no C integer for
a date.  Every other row becomes a record: a year that is one gives at worst no date. -/
theorem decode_raises_iff (python : PythonStr) (recordType payload : Option Json) :
    Fails ((RecordDecoder.default python).decode python recordType payload) ↔
      ∃ type, type ≠ .unknown ∧ normalizeRecordType python recordType = utf8 type.name ∧
        (decoderOf type).Raises python (toDict payload) := by
  constructor
  · intro fails
    by_cases some : ∃ type ∈ RecordType.known,
        normalizeRecordType python recordType = utf8 type.name
    · obtain ⟨type, member, is⟩ := some
      have known := RecordType.known_ne_unknown member
      exact ⟨type, known, is, (fails_known known is).mp fails⟩
    · rw [decode_unknown fun type member is => some ⟨type, member, is⟩] at fails
      exact absurd fails (not_fails_ok _)
  · rintro ⟨type, known, is, raised⟩
    exact (fails_known known is).mpr raised

/-- A row becomes a record exactly when its type is unknown or its decoder misreads none of the
fields. -/
theorem decoding_succeeds_iff (python : PythonStr) (recordType payload : Option Json) :
    (∃ record, (RecordDecoder.default python).decode python recordType payload = .ok record) ↔
      ∀ type, type ≠ .unknown → normalizeRecordType python recordType = utf8 type.name →
        ¬ (decoderOf type).Raises python (toDict payload) := by
  rw [← not_fails_iff]
  constructor
  · intro decodes type known is raises
    exact decodes ((fails_known known is).mpr raises)
  · intro safe fails
    by_cases some : ∃ type ∈ RecordType.known,
        normalizeRecordType python recordType = utf8 type.name
    · obtain ⟨type, member, is⟩ := some
      have known := RecordType.known_ne_unknown member
      exact safe type known is ((fails_known known is).mp fails)
    · rw [decode_unknown fun type member is => some ⟨type, member, is⟩] at fails
      exact not_fails_ok _ fails

/-- The digits of a superscript are digits that `int` does not read. -/
theorem superscript_date_raises :
    ¬ ∀ recordType payload, ∃ record,
      (RecordDecoder.default plainText).decode plainText recordType payload = .ok record := by
  intro decodes
  have safe := (decodes (some (.text "RA"))
    (some (.record [("meet_date", .text "²²²²")])))
  obtain ⟨record, same⟩ := safe
  have fails : Fails ((RecordDecoder.default plainText).decode plainText (some (.text "RA"))
      (some (.record [("meet_date", .text "²²²²")]))) := by
    refine (fails_known (by decide) (by decide +kernel : _ = utf8 RecordType.ra.name)).mpr (.inl ?_)
    refine ⟨"²²²²".toList, by decide +kernel, by decide +kernel, by decide +kernel⟩
  rw [same] at fails
  exact not_fails_ok _ fails

end Decoders

end JVLinkServer.Client
