import JVLinkServer.Client.RaceKeys
import JVLinkServer.Client.CodePages
import JVLinkServer.PaddedDecimals

namespace JVLinkServer.Client

open Json JVLinkServer.Records

/-! # Keys of races

The identifier of a race is made of the numbers that are read from the fields of its key.  It is
the key itself when the numbers are written with leading zeros.
-/

/-- The fields of a key.  Its texts are of the widths of the fields or wider. -/
structure RaceKey where
  year : Int
  month : Nat
  dayOfMonth : Nat
  code : List Char
  round : Int
  day : Int
  number : Int
  monthFits : 1 ≤ month ∧ month ≤ 12
  dayFits : 1 ≤ dayOfMonth ∧ dayOfMonth ≤ 31
  two : code.length = 2
  solid : pythonStrip code = code

namespace RaceKey

variable (key : RaceKey)

def date : List Char :=
  zeroPadded 4 key.year ++ zeroPadded 2 key.month ++ zeroPadded 2 key.dayOfMonth

def text : List Char :=
  key.date ++ key.code ++
    (zeroPadded 2 key.round ++ zeroPadded 2 key.day ++ zeroPadded 2 key.number)

def short : List Char := key.date ++ key.code ++ zeroPadded 2 key.number

def parts : RaceIdParts where
  meetYear := some key.year
  meetMonth := some (key.month : Int)
  meetDayOfMonth := some (key.dayOfMonth : Int)
  racecourseCode := some key.code
  meetRound := some key.round
  meetDay := some key.day
  raceNumber := some key.number

theorem buildRaceId_parts : buildRaceId key.parts = some key.text ∧
    buildRaceIdShort key.parts = some key.short := by
  simp [buildRaceId, buildRaceIdShort, parts, key.solid, key.two, text, short, date]

end RaceKey

/-! ## Identifiers -/

theorem buildRaceId_eq_some_iff {parts : RaceIdParts} {id : List Char} :
    buildRaceId parts = some id ↔ ∃ year month dayOfMonth code round day number,
      parts.meetYear = some year ∧ parts.meetMonth = some month ∧
      parts.meetDayOfMonth = some dayOfMonth ∧ parts.racecourseCode = some code ∧
      parts.meetRound = some round ∧ parts.meetDay = some day ∧
      parts.raceNumber = some number ∧ (pythonStrip code).length = 2 ∧
      id = zeroPadded 4 year ++ zeroPadded 2 month ++ zeroPadded 2 dayOfMonth ++
        pythonStrip code ++ zeroPadded 2 round ++ zeroPadded 2 day ++ zeroPadded 2 number := by
  simp only [buildRaceId, Option.bind_eq_bind, Option.bind_eq_some_iff, ne_eq, ite_not,
    Option.pure_def]
  constructor
  · rintro ⟨year, years, month, months, dayOfMonth, days, code, codes, round, rounds, day, day?,
      number, numbers, built⟩
    split at built
    · rename_i two
      exact ⟨year, month, dayOfMonth, code, round, day, number, years, months, days, codes, rounds,
        day?, numbers, two, (Option.some.inj built).symm⟩
    · cases built
  · rintro ⟨year, month, dayOfMonth, code, round, day, number, years, months, days, codes, rounds,
      day?, numbers, two, rfl⟩
    exact ⟨year, years, month, months, dayOfMonth, days, code, codes, round, rounds, day, day?,
      number, numbers, if_pos two⟩

/-! ## Reading padded fields -/

theorem pythonStrip_strip (text : List Char) : pythonStrip (pythonStrip text) = pythonStrip text := by
  have same (chars : List Char) : pythonStrip chars =
      (chars.dropWhile isPythonSpace).rdropWhile isPythonSpace := rfl
  have front : (pythonStrip text).dropWhile isPythonSpace = pythonStrip text := by
    rw [List.dropWhile_eq_self_iff]
    intro some
    have part : pythonStrip text <+: text.dropWhile isPythonSpace :=
      List.rdropWhile_prefix isPythonSpace _
    have begun := List.dropWhile_eq_self_iff.mp
      (List.dropWhile_idempotent isPythonSpace text)
    rw [part.getElem some]
    exact begun (some.trans_le part.length_le)
  rw [same, front, same, List.rdropWhile_idempotent]

section Read

variable {python : PythonStr} {bytes : Bytes}

theorem toText_solid (solid : pythonStrip (characters bytes) = characters bytes)
    (nonempty : characters bytes ≠ []) :
    toText python (some (.string bytes)) = some (characters bytes) := by
  rw [toText_string, solid, if_neg nonempty]

theorem toInt?_padded {width : Nat} {value : Int} (is : characters bytes = zeroPadded width value)
    (wide : 0 < width) (short : (characters bytes).length ≤ 4300) :
    toInt? python (some (.string bytes)) = some value := by
  have nonempty : characters bytes ≠ [] := by
    have long := le_length_zeroPadded width value
    rw [is]
    apply List.ne_nil_of_length_pos
    omega
  have solid : pythonStrip (characters bytes) = characters bytes := by
    rw [is]
    exact pythonStrip_of_solid (zeroPadded_solid width value)
  rw [toInt?_eq, toText_solid solid nonempty, Option.bind_some, is]
  exact pythonInt?_zeroPadded value (is ▸ short)

theorem toMonthDay_some {value : Option Json} {month day : Int}
    (read : toMonthDay python value = .ok (some (month, day))) :
    (1 ≤ month ∧ month ≤ 12) ∧ 1 ≤ day ∧ day ≤ 31 := by
  unfold toMonthDay at read
  split at read
  · cases read
  · split at read
    · obtain ⟨month', -, read⟩ := bind_ok_iff.mp read
      obtain ⟨day', -, read⟩ := bind_ok_iff.mp read
      split at read
      · rename_i inside
        obtain ⟨rfl, rfl⟩ := Prod.mk.inj (Option.some.inj (Except.ok.inj read))
        omega
      · cases read
    · cases read

/-- Two digits. -/
theorem zeroPadded_pair {value : Nat} (fits : value < 100) :
    (zeroPadded 2 value).length = 2 ∧ ∀ char ∈ zeroPadded 2 value, isPythonDigit char = true := by
  rw [zeroPadded_eq 1 fits]
  refine ⟨by simp, ?_⟩
  intro char inside
  obtain ⟨digit, -, rfl⟩ := List.mem_map.mp inside
  exact isPythonDigit_digitChar digit

theorem toMonthDay_padded {month day : Nat} (monthFits : 1 ≤ month ∧ month ≤ 12)
    (dayFits : 1 ≤ day ∧ day ≤ 31)
    (is : characters bytes = zeroPadded 2 month ++ zeroPadded 2 day) :
    toMonthDay python (some (.string bytes)) = .ok (some ((month : Int), (day : Int))) := by
  obtain ⟨monthLength, monthDigits⟩ := zeroPadded_pair (by omega : month < 100)
  obtain ⟨dayLength, dayDigits⟩ := zeroPadded_pair (by omega : day < 100)
  have solid : pythonStrip (characters bytes) = characters bytes := by
    apply pythonStrip_of_solid
    rw [is, List.forall_mem_append]
    exact ⟨zeroPadded_solid 2 month, zeroPadded_solid 2 day⟩
  have nonempty : characters bytes ≠ [] := by
    apply List.ne_nil_of_length_pos
    rw [is, List.length_append]
    omega
  have digits : areDigits 4 (characters bytes) = true := by
    rw [areDigits_iff, is, List.length_append, List.forall_mem_append]
    exact ⟨by omega, monthDigits, dayDigits⟩
  have first : (characters bytes).take 2 = zeroPadded 2 month := by
    rw [is]
    exact List.take_left' monthLength
  have second : ((characters bytes).drop 2).take 2 = zeroPadded 2 day := by
    rw [is, List.drop_left' monthLength]
    exact List.take_of_length_le (by omega)
  have read {value : Nat} (fits : (zeroPadded 2 value).length = 2) :
      parseInt (zeroPadded 2 value) = .ok (value : Int) := by
    rw [parseInt, pythonInt?_zeroPadded (value : Int) (by omega)]
  rw [toMonthDay, toText_solid solid nonempty]
  dsimp only
  rw [digits, if_pos rfl, first, second, read monthLength, read dayLength]
  exact if_pos (by omega)

end Read

/-! ## The identifier and the key -/

section Payload

/-- The texts of the fields of a key. -/
structure KeyTexts where
  year : Bytes
  date : Bytes
  code : Bytes
  round : Bytes
  day : Bytes
  number : Bytes

def KeyTexts.joined (texts : KeyTexts) : List Char :=
  characters texts.year ++ characters texts.date ++ characters texts.code ++
    (characters texts.round ++ characters texts.day ++ characters texts.number)

/-- The payload has these fields, and none is wider than in a record. -/
structure HasKey (payload : Json) (texts : KeyTexts) : Prop where
  year : payload.member? "meet_year" = some (.string texts.year)
  date : payload.member? "meet_date" = some (.string texts.date)
  code : payload.member? "racecourse_code" = some (.string texts.code)
  round : payload.member? "meet_round" = some (.string texts.round)
  day : payload.member? "meet_day" = some (.string texts.day)
  number : payload.member? "race_number" = some (.string texts.number)
  yearFits : (characters texts.year).length ≤ 4
  dateFits : (characters texts.date).length ≤ 4
  codeFits : (characters texts.code).length ≤ 2
  roundFits : (characters texts.round).length ≤ 2
  dayFits : (characters texts.day).length ≤ 2
  numberFits : (characters texts.number).length ≤ 2

variable {python : PythonStr} {payload : Json} {context : RaceContext} {texts : KeyTexts}
  (fields : HasKey payload texts) (built : buildContext python payload = .ok context)
include fields

/-- A key that is written as its numbers are has each field at its place. -/
theorem RaceKey.pieces {key : RaceKey} (written : key.text = texts.joined) :
    characters texts.year = zeroPadded 4 key.year ∧
      characters texts.date = zeroPadded 2 key.month ++ zeroPadded 2 key.dayOfMonth ∧
      characters texts.code = key.code ∧ characters texts.round = zeroPadded 2 key.round ∧
      characters texts.day = zeroPadded 2 key.day ∧
      characters texts.number = zeroPadded 2 key.number := by
  have lengths := congrArg List.length written
  have yearWide := le_length_zeroPadded 4 key.year
  have monthWide := le_length_zeroPadded 2 key.month
  have dateWide := le_length_zeroPadded 2 key.dayOfMonth
  have roundWide := le_length_zeroPadded 2 key.round
  have dayWide := le_length_zeroPadded 2 key.day
  have numberWide := le_length_zeroPadded 2 key.number
  have two := key.two
  have yearFits := fields.yearFits
  have dateFits := fields.dateFits
  have codeFits := fields.codeFits
  have roundFits := fields.roundFits
  have dayFits := fields.dayFits
  have numberFits := fields.numberFits
  simp only [RaceKey.text, RaceKey.date, KeyTexts.joined, List.length_append] at lengths
  simp only [RaceKey.text, RaceKey.date, KeyTexts.joined, List.append_assoc] at written
  obtain ⟨years, written⟩ := List.append_inj written (by omega)
  rw [← List.append_assoc (zeroPadded 2 (key.month : Int))] at written
  obtain ⟨dates, written⟩ := List.append_inj written (by rw [List.length_append]; omega)
  obtain ⟨codes, written⟩ := List.append_inj written (by omega)
  obtain ⟨rounds, written⟩ := List.append_inj written (by omega)
  obtain ⟨days, numbers⟩ := List.append_inj written (by omega)
  exact ⟨years.symm, dates.symm, codes.symm, rounds.symm, days.symm, numbers.symm⟩

include built

theorem context_of_key {key : RaceKey} (written : key.text = texts.joined) :
    context.raceId = some key.text ∧ context.raceIdShort = some key.short := by
  obtain ⟨years, dates, codes, rounds, days, numbers⟩ := RaceKey.pieces fields written
  obtain ⟨monthDay, dated, same⟩ := bind_ok_iff.mp built
  obtain rfl := Except.ok.inj same
  have monthDay : toMonthDay python (some (.string texts.date)) = _ :=
    toMonthDay_padded key.monthFits key.dayFits dates
  rw [← fields.date, dated] at monthDay
  obtain rfl := Except.ok.inj monthDay
  have two := key.two
  have solid := key.solid
  rw [← codes] at two solid
  have code : toText python (some (.string texts.code)) = some (characters texts.code) :=
    toText_solid solid (List.ne_nil_of_length_pos (by omega))
  have roundFits := fields.roundFits
  have dayFits := fields.dayFits
  have numberFits := fields.numberFits
  have yearFits := fields.yearFits
  have read {bytes : Bytes} {width : Nat} {value : Int}
      (is : characters bytes = zeroPadded width value) (wide : 0 < width)
      (short : (characters bytes).length ≤ 4) :
      toInt? python (some (.string bytes)) = some value :=
    toInt?_padded is wide (by omega)
  have built := key.buildRaceId_parts
  simp only [fields.year, fields.code, fields.round, fields.day, fields.number, code, codes,
    read years (by decide) yearFits, read rounds (by decide) (by omega),
    read days (by decide) (by omega), read numbers (by decide) (by omega)]
  exact built

theorem raceId_iff :
    context.raceId = some texts.joined ↔ ∃ key : RaceKey, key.text = texts.joined := by
  constructor
  · intro is
    obtain ⟨monthDay, dated, same⟩ := bind_ok_iff.mp built
    obtain rfl := Except.ok.inj same
    obtain ⟨year, month, dayOfMonth, code, round, day, number, -, months, days, -, -, -, -, two,
      written⟩ := buildRaceId_eq_some_iff.mp is
    obtain ⟨pair, rfl, rfl⟩ := Option.map_eq_some_iff.mp months
    obtain rfl : pair.2 = dayOfMonth := by simpa using days
    obtain ⟨monthFits, dayFits⟩ := toMonthDay_some dated
    obtain ⟨month, sameMonth⟩ := Int.eq_ofNat_of_zero_le (by omega : 0 ≤ pair.1)
    obtain ⟨dayOfMonth, sameDay⟩ := Int.eq_ofNat_of_zero_le (by omega : 0 ≤ pair.2)
    rw [sameMonth, sameDay] at written
    refine ⟨⟨year, month, dayOfMonth, pythonStrip code, round, day, number, by omega, by omega, two,
      pythonStrip_strip code⟩, ?_⟩
    rw [written]
    simp [RaceKey.text, RaceKey.date]
  · rintro ⟨key, written⟩
    rw [← written]
    exact (context_of_key fields built written).1

end Payload

/-! ## Keys that are accepted -/

/-- The text is taken as it is wherever the key of a race is. -/
def Accepted (upper : StrUpper) (text : List Char) : Prop :=
  ∀ spec, takesRaceKeys spec = true →
    normalizeRealtimeKeyArg upper spec (.text (String.ofList text)) = .ok text

theorem zeroPadded_decimal (width : Nat) (value : Int) :
    (zeroPadded width value).all isDecimal = true ↔ 0 ≤ value := by
  obtain ⟨sign, digits⟩ | ⟨sign, digits, written, -, -⟩ := zeroPadded_cases width value
  · refine iff_of_true ?_ sign
    rw [List.all_eq_true]
    intro char inside
    rw [isDecimal, digitValue?_digit (digits char inside)]
    rfl
  · refine iff_of_false ?_ (by omega)
    rw [written, List.all_cons]
    have notDigit : isDecimal '-' = false := by decide
    simp [notDigit]

theorem zeroPadded_keyChars {width : Nat} {value : Int} (sign : 0 ≤ value) :
    ∀ char ∈ zeroPadded width value, isKeyChar char = true := by
  obtain ⟨-, digits⟩ | ⟨negative, -⟩ := zeroPadded_cases width value
  · intro char inside
    have bounds := digit_bounds (digits char inside)
    simp [isKeyChar, Char.le_def, UInt32.le_iff_toNat_le]
    right
    exact bounds
  · omega

section Accepted

variable {upper : StrUpper} {date code tail : List Char} (eight : date.length = 8)
  (two : code.length = 2) (widths : tail.length = 2 ∨ tail.length = 6)
include eight two widths

theorem raceKey_pattern :
    (fullmatch raceKeyShortPattern (date ++ code ++ tail) ||
      fullmatch raceKeyFullPattern (date ++ code ++ tail)) =
        (date.all isDecimal && (code.all isKeyChar && tail.all isDecimal)) := by
  have matched : fullmatch [(8, isDecimal), (2, isKeyChar), (tail.length, isDecimal)]
      (date ++ code ++ tail) =
        (date.all isDecimal && (code.all isKeyChar && tail.all isDecimal)) := by
    have whole : tail = tail ++ [] := (List.append_nil _).symm
    rw [List.append_assoc, fullmatch_append eight, fullmatch_append two]
    nth_rewrite 2 [whole]
    rw [fullmatch_append rfl]
    simp [fullmatch]
  have long : (date ++ code ++ tail).length = 10 + tail.length := by
    rw [List.length_append, List.length_append]
    omega
  rcases widths with short | full
  · have other : fullmatch raceKeyFullPattern (date ++ code ++ tail) = false := by
      rw [Bool.eq_false_iff]
      intro matched
      have full := fullmatch_length matched
      rw [long, short] at full
      cases full
    rw [short] at matched
    rw [other, Bool.or_false]
    exact matched
  · have other : fullmatch raceKeyShortPattern (date ++ code ++ tail) = false := by
      rw [Bool.eq_false_iff]
      intro matched
      have short := fullmatch_length matched
      rw [long, full] at short
      cases short
    rw [full] at matched
    rw [other, Bool.false_or]
    exact matched

theorem accepted_iff (clean : date.all isDecimal = true → code.all isKeyChar = true →
      tail.all isDecimal = true → upper.clean (date ++ code ++ tail) = date ++ code ++ tail) :
    Accepted upper (date ++ code ++ tail) ↔
      (date.all isDecimal = true ∧ strptimeDate date = true) ∧ code.all isKeyChar = true ∧
        tail.all isDecimal = true := by
  have pattern := raceKey_pattern eight two widths
  have first : (date ++ code ++ tail).take 8 = date := by
    rw [List.append_assoc]
    exact List.take_left' eight
  have long : 10 < (date ++ code ++ tail).length := by
    rw [List.length_append, List.length_append]
    omega
  constructor
  · intro accepted
    have raceOnly : JVDataSpec.realtimeDateOrRace.contains .sokhoRaceResult = false := by decide
    have race := (normalizeRealtimeKeyArg_race_iff (by decide)
      fun either => absurd (raceOnly.symm.trans either) (by decide)).mp
      (accepted .sokhoRaceResult (by decide))
    obtain ⟨matched, real, same⟩ := normalizeRealtimeRaceKey_ok_iff.mp race
    rw [same, pattern] at matched
    rw [same, first] at real
    simp only [Bool.and_eq_true] at matched
    exact ⟨⟨matched.1, real⟩, matched.2⟩
  · rintro ⟨⟨dateDigits, real⟩, keys, tailDigits⟩ spec takes
    have same : upper.clean (String.ofList (date ++ code ++ tail)).toList = date ++ code ++ tail := by
      rw [String.toList_ofList, clean dateDigits keys tailDigits]
    have notDate : fullmatch dateKeyPattern (date ++ code ++ tail) = false := by
      rw [Bool.eq_false_iff]
      intro matched
      have eight := fullmatch_length matched
      simp [dateKeyPattern] at eight
      simp at long
      omega
    refine (normalizeRealtimeKeyArg_race_iff takes fun _ => same.symm ▸ notDate).mpr ?_
    rw [same, normalizeRealtimeRaceKey_ok_iff, pattern, dateDigits, keys, tailDigits, first]
    exact ⟨rfl, real, rfl⟩

end Accepted

theorem strptimeDate_padded {year month day : Nat} (yearFits : year < 10 ^ 4)
    (monthFits : month < 10 ^ 2) (dayFits : day < 10 ^ 2) :
    strptimeDate (zeroPadded 4 year ++ zeroPadded 2 month ++ zeroPadded 2 day) =
      isRealDate year month day := by
  rw [zeroPadded_eq 3 yearFits, zeroPadded_eq 1 monthFits, zeroPadded_eq 1 dayFits,
    ← List.map_append, ← List.map_append]
  simp only [fixedDigits, List.nil_append, List.cons_append, strptimeDate_digits, pair]
  have years : 100 * (10 * (year / 10 / 10 / 10 % 10) + year / 10 / 10 % 10) +
      (10 * (year / 10 % 10) + year % 10) = year := by omega
  have months : 10 * (month / 10 % 10) + month % 10 = month := by omega
  have days : 10 * (day / 10 % 10) + day % 10 = day := by omega
  rw [years, months, days]

namespace RaceKey

variable {key : RaceKey} {upper : StrUpper}

/-- A place on a real date, as keys have it. -/
structure Real (key : RaceKey) : Prop where
  year : 0 ≤ key.year
  date : isRealDate key.year.toNat key.month key.dayOfMonth = true
  code : key.code.all isKeyChar = true
  number : 0 ≤ key.number

variable (whole : key.text.length = 16)
include whole

theorem widths : (zeroPadded 4 key.year).length = 4 ∧ key.date.length = 8 ∧
    (zeroPadded 2 key.round).length = 2 ∧ (zeroPadded 2 key.day).length = 2 ∧
    (zeroPadded 2 key.number).length = 2 := by
  have year := le_length_zeroPadded 4 key.year
  have month := le_length_zeroPadded 2 key.month
  have dayOfMonth := le_length_zeroPadded 2 key.dayOfMonth
  have round := le_length_zeroPadded 2 key.round
  have day := le_length_zeroPadded 2 key.day
  have number := le_length_zeroPadded 2 key.number
  have two := key.two
  simp only [text, date, List.length_append] at whole ⊢
  omega

theorem short_eq : key.short = key.text.take 10 ++ key.text.drop 14 := by
  obtain ⟨-, date, round, day, -⟩ := widths whole
  have two := key.two
  have first : key.text.take 10 = key.date ++ key.code :=
    List.take_left' (by rw [List.length_append]; omega)
  have last : key.text.drop 14 = zeroPadded 2 key.number := by
    rw [text, ← List.append_assoc]
    exact List.drop_left' (by simp only [List.length_append]; omega)
  rw [first, last, short]

/-- The date is real when it is read as one. -/
theorem date_iff : (key.date.all isDecimal = true ∧ strptimeDate key.date = true) ↔
    0 ≤ key.year ∧ isRealDate key.year.toNat key.month key.dayOfMonth = true := by
  have monthFits := key.monthFits
  have dayFits := key.dayFits
  have digits : key.date.all isDecimal = true ↔ 0 ≤ key.year := by
    rw [date, List.all_append, List.all_append, Bool.and_eq_true, Bool.and_eq_true,
      zeroPadded_decimal, zeroPadded_decimal, zeroPadded_decimal]
    omega
  rw [digits]
  apply and_congr_right
  intro sign
  obtain ⟨year, same⟩ := Int.eq_ofNat_of_zero_le sign
  obtain ⟨four, -⟩ := widths whole
  have read : pythonInt? (zeroPadded 4 key.year) = some key.year :=
    pythonInt?_zeroPadded key.year (by omega)
  have fits := pythonInt?_lt read
  rw [four, same, Int.natAbs_natCast] at fits
  rw [date, same, strptimeDate_padded fits (by omega) (by omega), Int.toNat_natCast]

theorem accepted_tail {tail : List Char} (two : tail.length = 2 ∨ tail.length = 6)
    (digits : tail.all isDecimal = true → ∀ char ∈ tail, isKeyChar char = true) :
    Accepted upper (key.date ++ key.code ++ tail) ↔
      (0 ≤ key.year ∧ isRealDate key.year.toNat key.month key.dayOfMonth = true) ∧
        key.code.all isKeyChar = true ∧ tail.all isDecimal = true := by
  obtain ⟨-, eight, -⟩ := widths whole
  rw [← date_iff whole]
  apply accepted_iff eight key.two two
  intro dates codes tails
  apply clean_keyChars
  have year : 0 ≤ key.year := by
    rw [date, List.all_append, List.all_append, Bool.and_eq_true, Bool.and_eq_true] at dates
    exact (zeroPadded_decimal 4 key.year).mp dates.1.1
  rw [date, List.forall_mem_append, List.forall_mem_append, List.forall_mem_append,
    List.forall_mem_append]
  refine ⟨⟨⟨⟨zeroPadded_keyChars year, ?_⟩, ?_⟩, List.all_eq_true.mp codes⟩, digits tails⟩
  · exact zeroPadded_keyChars (Int.natCast_nonneg _)
  · exact zeroPadded_keyChars (Int.natCast_nonneg _)

theorem accepted_short_iff : Accepted upper key.short ↔ key.Real := by
  obtain ⟨-, -, -, -, two⟩ := widths whole
  rw [short, accepted_tail whole (.inl two) fun digits =>
    zeroPadded_keyChars ((zeroPadded_decimal 2 key.number).mp digits), zeroPadded_decimal]
  constructor
  · rintro ⟨⟨year, date⟩, code, number⟩
    exact ⟨year, date, code, number⟩
  · exact fun real => ⟨⟨real.year, real.date⟩, real.code, real.number⟩

theorem accepted_text_iff :
    Accepted upper key.text ↔ key.Real ∧ 0 ≤ key.round ∧ 0 ≤ key.day := by
  obtain ⟨-, -, round, day, number⟩ := widths whole
  have six : (zeroPadded 2 key.round ++ zeroPadded 2 key.day ++ zeroPadded 2 key.number).length =
      6 := by
    rw [List.length_append, List.length_append]
    omega
  have digits : (zeroPadded 2 key.round ++ zeroPadded 2 key.day ++
      zeroPadded 2 key.number).all isDecimal = true ↔
        (0 ≤ key.round ∧ 0 ≤ key.day) ∧ 0 ≤ key.number := by
    rw [List.all_append, List.all_append, Bool.and_eq_true, Bool.and_eq_true, zeroPadded_decimal,
      zeroPadded_decimal, zeroPadded_decimal]
  have keys : (zeroPadded 2 key.round ++ zeroPadded 2 key.day ++
      zeroPadded 2 key.number).all isDecimal = true →
        ∀ char ∈ zeroPadded 2 key.round ++ zeroPadded 2 key.day ++ zeroPadded 2 key.number,
          isKeyChar char = true := by
    intro decimal
    obtain ⟨⟨round, day⟩, number⟩ := digits.mp decimal
    rw [List.forall_mem_append, List.forall_mem_append]
    exact ⟨⟨zeroPadded_keyChars round, zeroPadded_keyChars day⟩, zeroPadded_keyChars number⟩
  rw [text, accepted_tail whole (.inr six) keys, digits]
  constructor
  · rintro ⟨⟨year, date⟩, code, others, number⟩
    exact ⟨⟨year, date, code, number⟩, others⟩
  · rintro ⟨real, others⟩
    exact ⟨⟨real.year, real.date⟩, real.code, others, real.number⟩

end RaceKey

end JVLinkServer.Client
