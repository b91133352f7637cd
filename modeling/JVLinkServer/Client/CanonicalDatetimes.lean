import JVLinkServer.Client.RealtimeKeys

namespace JVLinkServer.Client

/-! # Canonical datetimes

Fourteen digits of ASCII that denote a real date and time.
-/

def asciiValue? (char : Char) : Option (Fin 10) :=
  if bounds : 48 ≤ char.toNat ∧ char.toNat ≤ 57 then some ⟨char.toNat - 48, by omega⟩ else none

def isAscii (text : List Char) : Bool := text.all fun char => (asciiValue? char).isSome

/-- A point in time that exists. -/
structure Instant where
  year : Nat
  month : Nat
  day : Nat
  hour : Nat
  minute : Nat
  second : Nat
  date : isRealDate year month day = true
  time : hour ≤ 23 ∧ minute ≤ 59 ∧ second ≤ 59

namespace Instant

def fields (instant : Instant) : List Nat :=
  [instant.year, instant.month, instant.day, instant.hour, instant.minute, instant.second]

end Instant

/-- The number that two digits denote. -/
def pair (tens ones : Fin 10) : Nat := 10 * tens + ones

/-- What fourteen digits denote. -/
def instant? (text : List Char) : Option Instant :=
  match text.mapM asciiValue? with
  | some [y, y', y'', y_, m, m', d, d', h, h', n, n', s, s'] =>
      let year := 100 * pair y y' + pair y'' y_
      if date : isRealDate year (pair m m') (pair d d') = true then
        if time : pair h h' ≤ 23 ∧ pair n n' ≤ 59 ∧ pair s s' ≤ 59 then
          some {
            year
            month := pair m m'
            day := pair d d'
            hour := pair h h'
            minute := pair n n'
            second := pair s s'
            date
            time }
        else none
      else none
  | _ => none

/-- The second of the day that a value of eight digits stands for. -/
def dayInstant? (value : List Char) (endOfDay : Bool) : Option Instant :=
  instant? (value ++ dayTime endOfDay)

/-- The normalized value of an argument is what it should be. -/
def CanonicalValue (value : String) (endOfDay : Bool) (normalized : String)
    (instant : Instant) : Prop :=
  instant? normalized.toList = some instant ∧
    (value.length = 8 → dayInstant? value.toList endOfDay = some instant)

def CanonicalRange (fromDatetime toDate : String) (input : StoredQueryInput) : Prop :=
  ∃ first, CanonicalValue fromDatetime false input.fromDatetime first ∧
    ∀ normalized, input.toDate = some normalized →
      ∃ last, CanonicalValue toDate true normalized last ∧ first.fields ≤ last.fields

/-! ## The fields of a format -/

theorem asciiValue?_eq_some {char : Char} {digit : Fin 10} :
    asciiValue? char = some digit ↔ char = digitChar digit := by
  have digits : ∀ digit : Fin 10, asciiValue? (digitChar digit) = some digit := by decide
  constructor
  · intro read
    unfold asciiValue? at read
    split at read
    · rename_i bounds
      obtain rfl := Option.some.inj read
      have code : 48 + (char.toNat - 48) = char.toNat := by omega
      rw [digitChar, code, Char.ofNat_toNat]
    · cases read
  · rintro rfl
    exact digits digit

theorem mapM_asciiValue? {text : List Char} {digits : List (Fin 10)} :
    text.mapM asciiValue? = some digits ↔ text = digits.map digitChar := by
  induction text generalizing digits with
  | nil => cases digits <;> simp
  | cons char text ih =>
      rw [List.mapM_cons]
      cases digits with
      | nil =>
          cases first : asciiValue? char <;> cases rest : text.mapM asciiValue? <;> simp
      | cons digit digits =>
          rw [List.map_cons, List.cons.injEq, ← asciiValue?_eq_some, ← ih]
          cases first : asciiValue? char <;> cases rest : text.mapM asciiValue? <;> simp

theorem digitValue?_digitChar : ∀ digit : Fin 10, digitValue? (digitChar digit) = some digit.val := by
  decide

theorem isPythonDigit_digitChar (digit : Fin 10) : isPythonDigit (digitChar digit) = true := by
  rw [isPythonDigit, digitValue?_digitChar]
  rfl

/-- What the fields of two digits accept. -/
theorem twoDigits : ∀ tens ones : Fin 10,
    (month? (digitChar tens) (digitChar ones) =
      if 1 ≤ pair tens ones ∧ pair tens ones ≤ 12 then some (pair tens ones) else none) ∧
    (day? (digitChar tens) (digitChar ones) =
      if 1 ≤ pair tens ones ∧ pair tens ones ≤ 31 then some (pair tens ones) else none) ∧
    (hour? (digitChar tens) (digitChar ones) =
      if pair tens ones ≤ 23 then some (pair tens ones) else none) ∧
    (minute? (digitChar tens) (digitChar ones) =
      if pair tens ones ≤ 59 then some (pair tens ones) else none) ∧
    second? (digitChar tens) (digitChar ones) =
      if pair tens ones ≤ 61 then some (pair tens ones) else none := by
  decide

theorem year?_digits (y y' y'' y_ : Fin 10) :
    year? (digitChar y) (digitChar y') (digitChar y'') (digitChar y_) =
      some (100 * pair y y' + pair y'' y_) := by
  simp only [year?, List.mapM_cons, List.mapM_nil, digitValue?_digitChar, pair]
  simp
  omega

theorem daysInMonth_le (year month : Nat) : daysInMonth year month ≤ 31 := by
  unfold daysInMonth
  grind

theorem strptimeDate_digits (y y' y'' y_ m m' d d' : Fin 10) :
    strptimeDate ([y, y', y'', y_, m, m', d, d'].map digitChar) =
      isRealDate (100 * pair y y' + pair y'' y_) (pair m m') (pair d d') := by
  have short := daysInMonth_le (100 * pair y y' + pair y'' y_) (pair m m')
  simp only [List.map_cons, List.map_nil, strptimeDate, year?_digits, (twoDigits m m').1,
    (twoDigits d d').2.1, isRealDate, isDate]
  grind

theorem strptimeDatetime_digits (y y' y'' y_ m m' d d' h h' n n' s s' : Fin 10) :
    strptimeDatetime ([y, y', y'', y_, m, m', d, d', h, h', n, n', s, s'].map digitChar) =
      (isRealDate (100 * pair y y' + pair y'' y_) (pair m m') (pair d d') &&
        (decide (pair h h' ≤ 23 ∧ pair n n' ≤ 59 ∧ pair s s' ≤ 59))) := by
  have date := strptimeDate_digits y y' y'' y_ m m' d d'
  simp only [List.map_cons, List.map_nil] at date
  simp only [List.map_cons, List.map_nil, strptimeDatetime, date, (twoDigits h h').2.2.1,
    (twoDigits n n').2.2.2.1, (twoDigits s s').2.2.2.2]
  grind

/-! ## Fourteen digits -/

theorem isAscii_iff {text : List Char} :
    isAscii text = true ↔ ∃ digits : List (Fin 10), text = digits.map digitChar := by
  constructor
  · intro ascii
    induction text with
    | nil => exact ⟨[], rfl⟩
    | cons char text ih =>
        rw [isAscii, List.all_cons, Bool.and_eq_true] at ascii
        obtain ⟨digit, read⟩ := Option.isSome_iff_exists.mp ascii.1
        obtain ⟨digits, rfl⟩ := ih ascii.2
        exact ⟨digit :: digits, by rw [asciiValue?_eq_some.mp read]; rfl⟩
  · rintro ⟨digits, rfl⟩
    simp only [isAscii, List.all_map, List.all_eq_true, Function.comp_apply]
    intro digit _
    rw [asciiValue?_eq_some.mpr rfl]
    rfl

theorem isPythonDigit_ascii {text : List Char} (ascii : isAscii text = true) :
    text.all isPythonDigit = true := by
  obtain ⟨digits, rfl⟩ := isAscii_iff.mp ascii
  simp only [List.all_map, List.all_eq_true, Function.comp_apply]
  intro digit _
  exact isPythonDigit_digitChar digit

theorem isAscii_append {first second : List Char} :
    isAscii (first ++ second) = (isAscii first && isAscii second) :=
  List.all_append

theorem instant?_isSome {text : List Char} :
    (instant? text).isSome = true ↔
      text.length = 14 ∧ isAscii text = true ∧ strptimeDatetime text = true := by
  by_cases ascii : isAscii text = true
  · obtain ⟨digits, rfl⟩ := isAscii_iff.mp ascii
    have read := mapM_asciiValue?.mpr (rfl : digits.map digitChar = digits.map digitChar)
    rw [List.length_map]
    by_cases fourteen : digits.length = 14
    · match digits, fourteen with
      | [y, y', y'', y_, m, m', d, d', h, h', n, n', s, s'], _ =>
          rw [strptimeDatetime_digits]
          simp only [instant?, read, ascii]
          grind
    · have none : instant? (digits.map digitChar) = none := by
        unfold instant?
        rw [read]
        split
        · rename_i same
          cases same
          exact absurd rfl fourteen
        · rfl
      simp [none, fourteen]
  · constructor
    · intro some
      exfalso
      unfold instant? at some
      split at some
      · rename_i read
        exact ascii (isAscii_iff.mpr ⟨_, mapM_asciiValue?.mp read⟩)
      · cases some
    · intro conditions
      exact absurd conditions.2.1 ascii

/-! ## The order -/

theorem lex_group {base x x' y y' : Nat} (bound : x' < base) (otherBound : y' < base)
    (xs ys : List Nat) :
    x :: x' :: xs < y :: y' :: ys ↔ (base * x + x') :: xs < (base * y + y') :: ys := by
  have apart : ∀ {a b a' b' : Nat}, a' < base → b' < base → a < b →
      base * a + a' < base * b + b' := by
    intro a b a' b' small _ less
    have more : base * (a + 1) ≤ base * b := Nat.mul_le_mul_left base less
    rw [Nat.mul_add] at more
    omega
  simp only [List.cons_lt_cons_iff]
  rcases Nat.lt_trichotomy x y with less | rfl | greater
  · have more := apart bound otherBound less
    simp [less, more]
  · simp
  · have more := apart otherBound bound greater
    simp [Nat.lt_asymm greater, Nat.ne_of_gt greater, Nat.lt_asymm more, Nat.ne_of_gt more]

/-- The digits in pairs. -/
def pairs : List (Fin 10) → List Nat
  | first :: second :: rest => pair first second :: pairs rest
  | _ => []

theorem pairs_lt_iff {first second : List (Fin 10)} (even : first.length % 2 = 0)
    (same : first.length = second.length) :
    first.map digitChar < second.map digitChar ↔ pairs first < pairs second := by
  fun_induction pairs first generalizing second with
  | case1 x x' xs ih =>
      match second, same with
      | y :: y' :: ys, same =>
          have order : ∀ a b : Fin 10, (digitChar a < digitChar b ↔ a.val < b.val) ∧
              (digitChar a = digitChar b ↔ a.val = b.val) := by
            decide
          simp only [List.length_cons] at even same
          have rest : xs.map digitChar < ys.map digitChar ↔ pairs xs < pairs ys :=
            ih (by omega) (by omega)
          have group : x.val :: x'.val :: pairs xs < y.val :: y'.val :: pairs ys ↔ _ :=
            lex_group x'.isLt y'.isLt (pairs xs) (pairs ys)
          rw [pairs, pair, pair, ← group]
          simp only [List.map_cons, List.cons_lt_cons_iff, order, rest]
  | case2 first short =>
      match first, second with
      | [], [] => simp [pairs]
      | [_], _ => simp at even
      | _ :: _ :: _, _ => exact absurd rfl (short _ _ _)

theorem instant?_le {first second : List Char} {early late : Instant}
    (readFirst : instant? first = some early) (readSecond : instant? second = some late) :
    ¬ second < first ↔ early.fields ≤ late.fields := by
  have fourteen : ∀ {text : List Char} {instant : Instant}, instant? text = some instant →
      ∃ digits : List (Fin 10), digits.length = 14 ∧ text = digits.map digitChar ∧
        ∃ century years rest, pairs digits = century :: years :: rest ∧ years < 100 ∧
          instant.fields = (100 * century + years) :: rest := by
    intro text instant read
    unfold instant? at read
    split at read
    · rename_i y y' y'' y_ m m' d d' h h' n n' s s' digits
      refine ⟨_, rfl, mapM_asciiValue?.mp digits, pair y y', pair y'' y_, _, rfl, ?_, ?_⟩
      · unfold pair
        omega
      · dsimp only at read
        split at read
        · split at read
          · cases read
            rfl
          · cases read
        · cases read
    · cases read
  obtain ⟨digits, length, rfl, century, years, rest, grouped, small, fields⟩ := fourteen readFirst
  obtain ⟨others, otherLength, rfl, otherCentury, otherYears, otherRest, otherGrouped, otherSmall,
    otherFields⟩ := fourteen readSecond
  rw [pairs_lt_iff (by rw [otherLength]) (otherLength.trans length.symm), grouped, otherGrouped,
    lex_group otherSmall small, ← fields, ← otherFields]
  exact not_lt

/-! ## The validated values -/

variable {python : StrUpper}

theorem isAscii_dayTime (endOfDay : Bool) : isAscii (dayTime endOfDay) = true := by
  cases endOfDay <;> rfl

/-- A normalized value consists of digits of ASCII exactly when the value does. -/
theorem isAscii_normalized {argName : String} {value normalized : List Char} {endOfDay : Bool}
    (accepted : normalizeDatetimeArg argName value endOfDay = .ok normalized) :
    isAscii normalized = isAscii value := by
  obtain ⟨-, ⟨-, -, rfl⟩ | ⟨-, -, rfl⟩⟩ := normalizeDatetimeArg_ok_iff.mp accepted
  · rw [isAscii_append, isAscii_dayTime, Bool.and_true]
  · rfl

theorem strptimeDatetime_normalized {argName : String} {value normalized : List Char}
    {endOfDay : Bool}
    (accepted : normalizeDatetimeArg argName value endOfDay = .ok normalized) :
    strptimeDatetime normalized = true := by
  obtain ⟨-, ⟨-, date, rfl⟩ | ⟨-, date, rfl⟩⟩ := normalizeDatetimeArg_ok_iff.mp accepted
  · exact strptimeDatetime_dayTime date
  · exact date

theorem isAscii_datetimeArg {argName value normalized : String} {endOfDay : Bool}
    (accepted : datetimeArg argName endOfDay (.value value) = .ok normalized) :
    isAscii normalized.toList = isAscii value.toList := by
  obtain ⟨text, same, normal⟩ := datetimeArg_ok_iff.mp accepted
  obtain rfl : value = text := Argument.value.inj same
  exact isAscii_normalized normal

theorem isAscii_of_instant? {text : List Char} {instant : Instant}
    (read : instant? text = some instant) : isAscii text = true :=
  (instant?_isSome.mp (by rw [read]; rfl)).2.1

theorem canonicalValue {argName value normalized : String} {endOfDay : Bool}
    (accepted : datetimeArg argName endOfDay (.value value) = .ok normalized)
    (ascii : isAscii value.toList = true) :
    ∃ instant, CanonicalValue value endOfDay normalized instant := by
  obtain ⟨text, same, normal⟩ := datetimeArg_ok_iff.mp accepted
  obtain rfl : value = text := Argument.value.inj same
  have some : (instant? normalized.toList).isSome = true :=
    instant?_isSome.mpr ⟨normalizeDatetimeArg_length normal, isAscii_normalized normal ▸ ascii,
      strptimeDatetime_normalized normal⟩
  obtain ⟨instant, read⟩ := Option.isSome_iff_exists.mp some
  refine ⟨instant, read, fun eight => ?_⟩
  obtain ⟨-, ⟨-, -, same⟩ | ⟨fourteen, -, -⟩⟩ := normalizeDatetimeArg_ok_iff.mp normal
  · rw [dayInstant?, ← same, read]
  · rw [String.length_toList] at fourteen
    omega

/-- Validated datetimes are canonical exactly when their digits are those of ASCII. -/
theorem canonicalRange_iff {dataspec : DataspecInput} {fromDatetime toDate : String}
    {option : Argument Int} {recordTypes : Option (List (Argument String))}
    {input : StoredQueryInput}
    (accepted : validateStoredQueryInput python dataspec (.value fromDatetime) option
      (some (.value toDate)) recordTypes = .ok input) :
    CanonicalRange fromDatetime toDate input ↔
      isAscii fromDatetime.toList = true ∧ isAscii toDate.toList = true := by
  obtain ⟨number, specs, -, -, -, fromDate, toNormal, -, -, -⟩ := validate_ok_iff.mp accepted
  have fromAscii := isAscii_datetimeArg fromDate
  constructor
  · rintro ⟨first, ⟨read, -⟩, last⟩
    refine ⟨fromAscii ▸ isAscii_of_instant? read, ?_⟩
    rcases normalizeToDate_ok_iff.mp toNormal with ⟨none, -⟩ |
      ⟨given, text, same, -, date, -, normal⟩
    · rw [Option.filter_eq_none_iff] at none
      have empty : toDate = "" := by simpa [truthy] using none (.value toDate) rfl
      rw [empty]
      rfl
    · obtain ⟨instant, ⟨read, -⟩, -⟩ := last text normal
      obtain ⟨rfl⟩ := (Option.filter_eq_some_iff.mp same).1
      exact isAscii_datetimeArg date ▸ isAscii_of_instant? read
  · rintro ⟨ascii, toAscii⟩
    obtain ⟨first, canonical⟩ := canonicalValue fromDate ascii
    refine ⟨first, canonical, fun normalized some => ?_⟩
    rcases normalizeToDate_ok_iff.mp toNormal with ⟨-, none⟩ |
      ⟨given, text, same, -, date, ordered, normal⟩
    · rw [none] at some
      cases some
    · obtain rfl : normalized = text := Option.some.inj (some.symm.trans normal)
      obtain ⟨rfl⟩ := (Option.filter_eq_some_iff.mp same).1
      obtain ⟨last, canonicalLast⟩ := canonicalValue date toAscii
      refine ⟨last, canonicalLast, (instant?_le canonical.1 canonicalLast.1).mp ?_⟩
      exact ordered

/-- Eight digits of ASCII that denote a real date, or fourteen that denote a real date and
time. -/
def DenotesDatetime (text : List Char) : Prop :=
  text.length = 8 ∧ (dayInstant? text false).isSome = true ∨ (instant? text).isSome = true

theorem accepts_datetimes {text : List Char} (real : DenotesDatetime text) (argName : String)
    (endOfDay : Bool) : ∃ normalized, normalizeDatetimeArg argName text endOfDay = .ok normalized := by
  rcases real with ⟨eight, some⟩ | some
  · obtain ⟨-, ascii, date⟩ := instant?_isSome.mp some
    rw [isAscii_append, Bool.and_eq_true] at ascii
    refine ⟨_, normalizeDatetimeArg_ok_iff.mpr ⟨isPythonDigit_ascii ascii.1, .inl ⟨eight, ?_, rfl⟩⟩⟩
    match text, eight with
    | [_, _, _, _, _, _, _, _], _ =>
        simp only [List.cons_append, List.nil_append, strptimeDatetime, Bool.and_eq_true] at date
        exact date.1
  · obtain ⟨fourteen, ascii, date⟩ := instant?_isSome.mp some
    exact ⟨text, normalizeDatetimeArg_ok_iff.mpr
      ⟨isPythonDigit_ascii ascii, .inr ⟨fourteen, date, rfl⟩⟩⟩

/-- Validated datetimes are canonical exactly when their digits are those of ASCII; and every
text that should be accepted is. -/
theorem canonical_datetimes_iff (python : StrUpper) :
    (∀ (dataspec : DataspecInput) (fromDatetime toDate : String) (option : Argument Int)
        (recordTypes : Option (List (Argument String))) (input : StoredQueryInput),
      validateStoredQueryInput python dataspec (.value fromDatetime) option
          (some (.value toDate)) recordTypes = .ok input →
        (CanonicalRange fromDatetime toDate input ↔
          isAscii fromDatetime.toList = true ∧ isAscii toDate.toList = true)) ∧
      ∀ (argName : String) (endOfDay : Bool) (text : List Char), DenotesDatetime text →
        ∃ normalized, normalizeDatetimeArg argName text endOfDay = .ok normalized := by
  constructor
  · intro dataspec fromDatetime toDate option recordTypes input accepted
    exact canonicalRange_iff accepted
  · intro argName endOfDay text real
    exact accepts_datetimes real argName endOfDay

/-- `str.upper` of a text of ASCII. -/
def asciiUpper : StrUpper where
  upper char := [char.toUpper]
  ascii _ _ := rfl

theorem exists_ok {ε α : Type} {result : Except ε α} (some : result.toOption.isSome = true) :
    ∃ value, result = .ok value := by
  cases result with
  | error error => cases some
  | ok value => exact ⟨value, rfl⟩

/-- A year in fullwidth digits. -/
def fullwidthYear : String := String.ofList ([65298, 65296, 65298, 65300].map Char.ofNat)

/-- `str.isdigit` and `strptime` take the decimal digits of every script. -/
theorem fullwidth_year_accepted :
    ¬ ∀ (python : StrUpper) (dataspec : DataspecInput) (fromDatetime toDate : String)
        (option : Argument Int) (recordTypes : Option (List (Argument String)))
        (input : StoredQueryInput),
      validateStoredQueryInput python dataspec (.value fromDatetime) option
          (some (.value toDate)) recordTypes = .ok input →
        CanonicalRange fromDatetime toDate input := by
  intro canonical
  have accepted : (validateStoredQueryInput asciiUpper (.text "RACE")
      (.value (fullwidthYear ++ "0101")) (.value 1) (some (.value (fullwidthYear ++ "0102")))
      none).toOption.isSome = true := by decide
  obtain ⟨input, validated⟩ := exists_ok accepted
  have range := canonical _ _ _ _ _ _ _ validated
  exact absurd ((canonicalRange_iff validated).mp range).1 (by decide)

end JVLinkServer.Client
