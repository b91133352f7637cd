import JVLinkServer.Client.CanonicalDatetimes

namespace JVLinkServer.Client

/-! # Built race keys

A key that is built of parts has fields of fixed widths.
-/

variable {python : StrUpper} {parts : RaceKeyParts}

/-! ## What is built -/

theorem requireKeyInt_ok_iff {name : String} {value : Argument Int} {minimum maximum number : Int} :
    requireKeyInt name value minimum maximum = .ok number ↔
      value = .value number ∧ minimum ≤ number ∧ number ≤ maximum := by
  cases value with
  | other => simp [requireKeyInt, invalidKey]
  | value value =>
      by_cases inside : minimum ≤ value ∧ value ≤ maximum
      · simp only [requireKeyInt, inside, and_self, if_true, Except.ok.injEq,
          Argument.value.injEq]
        constructor
        · rintro rfl
          exact ⟨rfl, inside⟩
        · exact And.left
      · simp only [requireKeyInt, inside, if_false, invalidKey, reduceCtorEq, false_iff,
          Argument.value.injEq]
        rintro ⟨rfl, within⟩
        exact inside within

theorem normalizeRacecourseCode_ok_iff {value : Argument String} {code : List Char} :
    normalizeRacecourseCode python value = .ok code ↔
      ∃ text, value = .value text ∧ python.clean text.toList = code ∧ code.length = 2 := by
  cases value with
  | other => simp [normalizeRacecourseCode, invalidKey]
  | value text =>
      by_cases two : (python.clean text.toList).length = 2
      · simp only [normalizeRacecourseCode, two, if_true, Except.ok.injEq, Argument.value.injEq,
          exists_eq_left']
        constructor
        · rintro rfl
          exact ⟨rfl, two⟩
        · exact And.left
      · simp only [normalizeRacecourseCode, two, if_false, invalidKey, reduceCtorEq, false_iff,
          Argument.value.injEq, exists_eq_left']
        rintro ⟨rfl, length⟩
        exact two length

/-- The fields of a key, with their ranges. -/
structure KeyFields where
  year : Nat
  month : Nat
  day : Nat
  code : List Char
  number : Nat
  real : isRealDate year month day = true
  yearFits : year < 10 ^ 4
  monthFits : month < 10 ^ 2
  dayFits : day < 10 ^ 2
  numberFits : number < 10 ^ 2
  two : code.length = 2

namespace KeyFields

/-- The first ten characters. -/
def place (fields : KeyFields) : List Char :=
  (fixedDigits 4 fields.year ++ fixedDigits 2 fields.month ++ fixedDigits 2 fields.day).map
    digitChar ++ fields.code

def short (fields : KeyFields) : List Char :=
  fields.place ++ (fixedDigits 2 fields.number).map digitChar

def full (fields : KeyFields) (round day : Nat) : List Char :=
  fields.place ++ (fixedDigits 2 round ++ fixedDigits 2 day ++ fixedDigits 2 fields.number).map
    digitChar

/-- The parts have these fields. -/
def Of (fields : KeyFields) (python : StrUpper) (parts : RaceKeyParts) : Prop :=
  parts.meetYear = .value fields.year ∧ parts.meetMonth = .value fields.month ∧
    parts.meetDayOfMonth = .value fields.day ∧ parts.raceNumber = .value fields.number ∧
    ∃ text, parts.racecourseCode = .value text ∧ python.clean text.toList = fields.code

end KeyFields

/-- A number of a part in its range, as the natural number that it is. -/
theorem requireKeyInt_nat {name : String} {value : Argument Int} {maximum number : Int}
    (read : requireKeyInt name value 1 maximum = .ok number) :
    ∃ natural : Nat, number = natural ∧ value = .value natural ∧ (natural : Int) ≤ maximum := by
  obtain ⟨given, low, high⟩ := requireKeyInt_ok_iff.mp read
  obtain ⟨natural, rfl⟩ := Int.eq_ofNat_of_zero_le (by omega : 0 ≤ number)
  exact ⟨natural, rfl, given, high⟩

theorem buildRaceKeyShort_ok {key : List Char} (built : buildRaceKeyShort python parts = .ok key) :
    ∃ fields : KeyFields, fields.Of python parts ∧ key = fields.short := by
  unfold buildRaceKeyShort at built
  obtain ⟨_, readYear, built⟩ := validated_bind built
  obtain ⟨_, readMonth, built⟩ := validated_bind built
  obtain ⟨_, readDay, built⟩ := validated_bind built
  obtain ⟨_, readNumber, built⟩ := validated_bind built
  obtain ⟨code, codes, built⟩ := validated_bind built
  obtain ⟨year, rfl, yearGiven, yearFits⟩ := requireKeyInt_nat readYear
  obtain ⟨month, rfl, monthGiven, monthFits⟩ := requireKeyInt_nat readMonth
  obtain ⟨day, rfl, dayGiven, dayFits⟩ := requireKeyInt_nat readDay
  obtain ⟨number, rfl, numberGiven, numberFits⟩ := requireKeyInt_nat readNumber
  obtain ⟨text, codeGiven, clean, two⟩ := normalizeRacecourseCode_ok_iff.mp codes
  simp only [Int.toNat_natCast] at built
  split at built
  · cases built
  · rename_i real
    cases built
    refine ⟨⟨year, month, day, code, number, by simpa using real, by omega, by omega, by omega,
      by omega, two⟩, ⟨yearGiven, monthGiven, dayGiven, numberGiven, text, codeGiven, clean⟩, ?_⟩
    rw [zeroPadded_eq 3 (by omega), zeroPadded_eq 1 (by omega), zeroPadded_eq 1 (by omega),
      zeroPadded_eq 1 (by omega)]
    simp [KeyFields.short, KeyFields.place]

theorem KeyFields.length_place (fields : KeyFields) : fields.place.length = 10 := by
  simp [place, fields.two]

theorem buildRaceKey_ok {key : List Char} (built : buildRaceKey python parts = .ok key) :
    ∃ fields : KeyFields, ∃ round day : Nat, fields.Of python parts ∧ round < 10 ^ 2 ∧ day < 10 ^ 2 ∧
      parts.meetRound = some (.value round) ∧ parts.meetDay = some (.value day) ∧
      key = fields.full round day := by
  unfold buildRaceKey at built
  split at built
  · rename_i roundGiven dayGiven
    obtain ⟨shortKey, short, built⟩ := validated_bind built
    obtain ⟨_, readRound, built⟩ := validated_bind built
    obtain ⟨_, readDay, built⟩ := validated_bind built
    obtain ⟨_, readNumber, built⟩ := validated_bind built
    obtain ⟨round, rfl, rfl, roundFits⟩ := requireKeyInt_nat readRound
    obtain ⟨day, rfl, rfl, dayFits⟩ := requireKeyInt_nat readDay
    obtain ⟨number, rfl, numberGiven, numberFits⟩ := requireKeyInt_nat readNumber
    obtain ⟨fields, given, rfl⟩ := buildRaceKeyShort_ok short
    cases built
    refine ⟨fields, round, day, given, by omega, by omega, roundGiven, dayGiven, ?_⟩
    have same : number = fields.number := by
      have read := numberGiven.symm.trans given.2.2.2.1
      exact Int.ofNat_inj.mp (Argument.value.inj read)
    rw [zeroPadded_eq 1 (by omega), zeroPadded_eq 1 (by omega), zeroPadded_eq 1 (by omega), same,
      KeyFields.short, List.take_left' fields.length_place, KeyFields.full]
    simp
  · cases built

/-! ## Checking what has been built -/

theorem fullmatch_append {count : Nat} {accepts : Char → Bool} {pattern : Pattern}
    {first rest : List Char} (length : first.length = count) :
    fullmatch ((count, accepts) :: pattern) (first ++ rest) =
      (first.all accepts && fullmatch pattern rest) := by
  rw [fullmatch, List.take_left' length, List.drop_left' length, length]
  simp

theorem isDecimal_digits (digits : List (Fin 10)) :
    (digits.map digitChar).all isDecimal = true := by
  simp only [List.all_map, List.all_eq_true, Function.comp_apply]
  intro digit _
  rw [isDecimal, digitValue?_digitChar]
  rfl

theorem isKeyChar_digits (digits : List (Fin 10)) :
    (digits.map digitChar).all isKeyChar = true := by
  have keys : ∀ digit : Fin 10, isKeyChar (digitChar digit) = true := by decide
  simp only [List.all_map, List.all_eq_true, Function.comp_apply]
  intro digit _
  exact keys digit

/-- A race key of some length: a place, then that many digits. -/
theorem fullmatch_place (fields : KeyFields) (digits : List (Fin 10)) :
    fullmatch [(8, isDecimal), (2, isKeyChar), (digits.length, isDecimal)]
        (fields.place ++ digits.map digitChar) = fields.code.all isKeyChar := by
  have tail : digits.map digitChar = digits.map digitChar ++ [] := (List.append_nil _).symm
  rw [KeyFields.place, List.append_assoc, fullmatch_append (by simp), isDecimal_digits,
    fullmatch_append fields.two, tail, fullmatch_append (by simp), isDecimal_digits]
  simp [fullmatch]

theorem fullmatch_length {pattern : Pattern} {text : List Char}
    (matched : fullmatch pattern text = true) : text.length = (pattern.map Prod.fst).sum := by
  induction pattern generalizing text with
  | nil => simpa [fullmatch] using matched
  | cons first pattern ih =>
      obtain ⟨count, accepts⟩ := first
      simp only [fullmatch, Bool.and_eq_true, beq_iff_eq] at matched
      have rest := ih matched.2
      have here := matched.1.1
      rw [List.length_take] at here
      rw [List.length_drop] at rest
      rw [List.map_cons, List.sum_cons]
      omega

theorem strptimeDate_place (fields : KeyFields) (rest : List Char) :
    strptimeDate ((fields.place ++ rest).take 8) = true := by
  have eight : (fields.place ++ rest).take 8 = (fixedDigits 4 fields.year ++
      fixedDigits 2 fields.month ++ fixedDigits 2 fields.day).map digitChar := by
    rw [KeyFields.place, List.append_assoc]
    exact List.take_left' (by simp)
  have real := fields.real
  have yearFits := fields.yearFits
  have monthFits := fields.monthFits
  have dayFits := fields.dayFits
  rw [eight]
  simp only [fixedDigits, List.nil_append, List.cons_append, strptimeDate_digits, pair]
  have year : 100 * (10 * (fields.year / 10 / 10 / 10 % 10) + fields.year / 10 / 10 % 10) +
      (10 * (fields.year / 10 % 10) + fields.year % 10) = fields.year := by omega
  have month : 10 * (fields.month / 10 % 10) + fields.month % 10 = fields.month := by omega
  have day : 10 * (fields.day / 10 % 10) + fields.day % 10 = fields.day := by omega
  rw [year, month, day, real]

/-- The dataspecs that take race keys. -/
def takesRaceKeys (spec : JVDataSpec) : Bool :=
  JVDataSpec.realtimeRaceOnly.contains spec || JVDataSpec.realtimeDateOrRace.contains spec

theorem normalizeRealtimeRaceKey_ok_iff {key result : List Char} {original : String} :
    normalizeRealtimeRaceKey key original = .ok result ↔
      (fullmatch raceKeyShortPattern key || fullmatch raceKeyFullPattern key) = true ∧
        strptimeDate (key.take 8) = true ∧ key = result := by
  unfold normalizeRealtimeRaceKey
  cases (fullmatch raceKeyShortPattern key || fullmatch raceKeyFullPattern key) <;>
    cases strptimeDate (key.take 8) <;> simp [invalidKey]

/-- A key that is no date goes to the check of race keys. -/
theorem normalizeRealtimeKeyArg_race_iff {spec : JVDataSpec} (takes : takesRaceKeys spec = true)
    {text : String} {result : List Char}
    (notDate : JVDataSpec.realtimeDateOrRace.contains spec = true →
      fullmatch dateKeyPattern (python.clean text.toList) = false) :
    normalizeRealtimeKeyArg python spec (.text text) = .ok result ↔
      normalizeRealtimeRaceKey (python.clean text.toList) text = .ok result := by
  have dateOnly : JVDataSpec.realtimeDateOnly.contains spec = false := by
    revert takes
    cases spec <;> decide
  have dateOrRace : JVDataSpec.realtimeRaceOnly.contains spec = false →
      JVDataSpec.realtimeDateOrRace.contains spec = true := by
    intro notOnly
    rwa [takesRaceKeys, notOnly, Bool.false_or] at takes
  simp only [normalizeRealtimeKeyArg, coerceRealtimeKeyInput, normalizeRealtimeKeyText, bind,
    Except.bind, Option.getD_some]
  cases empty : (python.clean text.toList).isEmpty with
  | true =>
      rw [List.isEmpty_iff.mp empty]
      simp [invalidKey, normalizeRealtimeRaceKey, fullmatch, raceKeyShortPattern,
        raceKeyFullPattern]
  | false =>
      simp only [Bool.false_eq_true, if_false, dateOnly]
      cases only : JVDataSpec.realtimeRaceOnly.contains spec with
      | true => simp
      | false =>
          have either := dateOrRace only
          simp only [Bool.false_eq_true, if_false, either, if_true, notDate either]

section Place

variable (fields : KeyFields) (digits : List (Fin 10))

theorem length_placeKey :
    (fields.place ++ digits.map digitChar).length = 10 + digits.length := by
  rw [List.length_append, fields.length_place, List.length_map]

theorem raceKeyPattern_place (length : digits.length = 2 ∨ digits.length = 6) :
    (fullmatch raceKeyShortPattern (fields.place ++ digits.map digitChar) ||
      fullmatch raceKeyFullPattern (fields.place ++ digits.map digitChar)) =
        fields.code.all isKeyChar := by
  have pattern := fullmatch_place fields digits
  have long := length_placeKey fields digits
  rcases length with two | six
  · have other : fullmatch raceKeyFullPattern (fields.place ++ digits.map digitChar) = false := by
      rw [Bool.eq_false_iff]
      intro matched
      have full := fullmatch_length matched
      rw [long, two] at full
      cases full
    rw [two] at pattern
    rw [other, Bool.or_false]
    exact pattern
  · have other : fullmatch raceKeyShortPattern (fields.place ++ digits.map digitChar) = false := by
      rw [Bool.eq_false_iff]
      intro matched
      have short := fullmatch_length matched
      rw [long, six] at short
      cases short
    rw [six] at pattern
    rw [other, Bool.false_or]
    exact pattern

variable (python) in
theorem clean_place (keys : fields.code.all isKeyChar = true) :
    python.clean (fields.place ++ digits.map digitChar) = fields.place ++ digits.map digitChar := by
  apply clean_keyChars
  rw [← List.all_eq_true, List.all_append, KeyFields.place, List.all_append, keys,
    isKeyChar_digits, isKeyChar_digits]
  rfl

/-- A key with these fields is accepted as it is exactly when its code consists of letters and
digits. -/
theorem normalizeRealtimeKeyArg_place_iff (length : digits.length = 2 ∨ digits.length = 6) :
    (∀ spec, takesRaceKeys spec = true →
      normalizeRealtimeKeyArg python spec
          (.text (String.ofList (fields.place ++ digits.map digitChar))) =
        .ok (fields.place ++ digits.map digitChar)) ↔ fields.code.all isKeyChar = true := by
  have pattern := raceKeyPattern_place fields digits length
  have long := length_placeKey fields digits
  generalize key : fields.place ++ digits.map digitChar = text at pattern long
  constructor
  · intro accepted
    have raceOnly : JVDataSpec.realtimeDateOrRace.contains .sokhoRaceResult = false := by decide
    have race := (normalizeRealtimeKeyArg_race_iff (by decide)
      fun either => absurd (raceOnly.symm.trans either) (by decide)).mp
      (accepted .sokhoRaceResult (by decide))
    obtain ⟨matched, -, same⟩ := normalizeRealtimeRaceKey_ok_iff.mp race
    rw [same, pattern] at matched
    exact matched
  · intro keys spec takes
    have same : python.clean (String.ofList text).toList = text := by
      rw [String.toList_ofList, ← key, clean_place python fields digits keys]
    have notDate : fullmatch dateKeyPattern text = false := by
      rw [Bool.eq_false_iff]
      intro matched
      have date := fullmatch_length matched
      rw [long] at date
      simp [dateKeyPattern] at date
      omega
    refine (normalizeRealtimeKeyArg_race_iff takes fun _ => same.symm ▸ notDate).mpr ?_
    rw [same, normalizeRealtimeRaceKey_ok_iff, pattern]
    exact ⟨keys, key ▸ strptimeDate_place fields _, rfl⟩

end Place

/-! ## The seven fields -/

/-- The fields of two parts agree, their codes after cleaning. -/
structure SameFields (python : StrUpper) (parts other : RaceKeyParts) : Prop where
  meetYear : parts.meetYear = other.meetYear
  meetMonth : parts.meetMonth = other.meetMonth
  meetDayOfMonth : parts.meetDayOfMonth = other.meetDayOfMonth
  racecourseCode : ∃ code otherCode, parts.racecourseCode = .value code ∧
    other.racecourseCode = .value otherCode ∧
    python.clean code.toList = python.clean otherCode.toList
  raceNumber : parts.raceNumber = other.raceNumber
  meetRound : parts.meetRound = other.meetRound
  meetDay : parts.meetDay = other.meetDay

theorem sameFields_of_full {key : List Char} {other : RaceKeyParts}
    (built : buildRaceKey python parts = .ok key)
    (otherBuilt : buildRaceKey python other = .ok key) : SameFields python parts other := by
  obtain ⟨fields, round, day, ⟨year, month, dayOfMonth, number, text, code, clean⟩, roundFits,
    dayFits, roundGiven, dayGiven, rfl⟩ := buildRaceKey_ok built
  obtain ⟨others, otherRound, otherDay, ⟨otherYear, otherMonth, otherDayOfMonth, otherNumber,
    otherText, otherCode, otherClean⟩, otherRoundFits, otherDayFits, otherRoundGiven,
    otherDayGiven, same⟩ := buildRaceKey_ok otherBuilt
  obtain ⟨place, tail⟩ := List.append_inj same (by simp [KeyFields.length_place])
  obtain ⟨date, codes⟩ := List.append_inj place (by simp)
  have dates := List.map_injective_iff.mpr digitChar_injective date
  have tails := List.map_injective_iff.mpr digitChar_injective tail
  obtain ⟨yearMonth, days⟩ := List.append_inj' dates rfl
  obtain ⟨years, months⟩ := List.append_inj' yearMonth rfl
  obtain ⟨roundDay, numbers⟩ := List.append_inj' tails rfl
  obtain ⟨rounds, meetDays⟩ := List.append_inj' roundDay rfl
  have sameYear := fixedDigits_injective fields.yearFits others.yearFits years
  have sameMonth := fixedDigits_injective fields.monthFits others.monthFits months
  have sameDay := fixedDigits_injective fields.dayFits others.dayFits days
  have sameNumber := fixedDigits_injective fields.numberFits others.numberFits numbers
  have sameRound := fixedDigits_injective roundFits otherRoundFits rounds
  have sameMeetDay := fixedDigits_injective dayFits otherDayFits meetDays
  exact
    { meetYear := by rw [year, otherYear, sameYear]
      meetMonth := by rw [month, otherMonth, sameMonth]
      meetDayOfMonth := by rw [dayOfMonth, otherDayOfMonth, sameDay]
      racecourseCode := ⟨text, otherText, code, otherCode, by rw [clean, otherClean, codes]⟩
      raceNumber := by rw [number, otherNumber, sameNumber]
      meetRound := by rw [roundGiven, otherRoundGiven, sameRound]
      meetDay := by rw [dayGiven, otherDayGiven, sameMeetDay] }

/-- The code of the racecourse consists of letters and digits. -/
def PlainCode (python : StrUpper) (parts : RaceKeyParts) : Prop :=
  ∃ code, parts.racecourseCode = .value code ∧
    (python.clean code.toList).all isKeyChar = true

theorem plainCode_iff {fields : KeyFields} (given : fields.Of python parts) :
    PlainCode python parts ↔ fields.code.all isKeyChar = true := by
  obtain ⟨-, -, -, -, text, code, clean⟩ := given
  rw [PlainCode, code, ← clean]
  constructor
  · rintro ⟨code, same, keys⟩
    obtain rfl := Argument.value.inj same
    exact keys
  · intro keys
    exact ⟨text, rfl, keys⟩

/-- Built keys are accepted as they are, for every dataspec that takes race keys, exactly when
the code of the racecourse consists of letters and digits; and full keys tell parts apart. -/
theorem built_race_keys_iff (python : StrUpper) (parts : RaceKeyParts) :
    (∀ key, buildRaceKeyShort python parts = .ok key ∨ buildRaceKey python parts = .ok key →
      (key.length = 12 ∨ key.length = 16) ∧
      ((∀ spec, takesRaceKeys spec = true →
          normalizeRealtimeKeyArg python spec (.text (String.ofList key)) = .ok key) ↔
        PlainCode python parts)) ∧
    ∀ other key, buildRaceKey python parts = .ok key → buildRaceKey python other = .ok key →
      SameFields python parts other := by
  constructor
  · rintro key (built | built)
    · obtain ⟨fields, given, rfl⟩ := buildRaceKeyShort_ok built
      refine ⟨.inl (by simp [KeyFields.short, fields.length_place]), ?_⟩
      rw [plainCode_iff given]
      exact normalizeRealtimeKeyArg_place_iff fields (fixedDigits 2 fields.number) (.inl rfl)
    · obtain ⟨fields, round, day, given, -, -, -, -, rfl⟩ := buildRaceKey_ok built
      refine ⟨.inr (by simp [KeyFields.full, fields.length_place]), ?_⟩
      rw [plainCode_iff given]
      exact normalizeRealtimeKeyArg_place_iff fields
        (fixedDigits 2 round ++ fixedDigits 2 day ++ fixedDigits 2 fields.number) (.inr rfl)
  · intro other key built otherBuilt
    exact sameFields_of_full built otherBuilt

/-- The first race of a day, at a racecourse with this code. -/
def partsAt (racecourseCode : String) : RaceKeyParts where
  meetYear := .value 2024
  meetMonth := .value 1
  meetDayOfMonth := .value 6
  racecourseCode := .value racecourseCode
  raceNumber := .value 1
  meetRound := some (.value 1)
  meetDay := some (.value 1)

/-- A code with a hyphen makes a key that the check refuses. -/
theorem hyphen_code_refused :
    ¬ ∀ (python : StrUpper) (parts : RaceKeyParts) (key : List Char),
      buildRaceKey python parts = .ok key → ∀ spec, takesRaceKeys spec = true →
        normalizeRealtimeKeyArg python spec (.text (String.ofList key)) = .ok key := by
  intro accepts
  have built : buildRaceKey asciiUpper (partsAt "0-") = .ok "202401060-010101".toList := by
    decide
  have accepted := accepts asciiUpper _ _ built .sokhoRaceResult (by decide)
  exact absurd (congrArg (·.toOption.isSome) accepted) (by decide)

end JVLinkServer.Client
