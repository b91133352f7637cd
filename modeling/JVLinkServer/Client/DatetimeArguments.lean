import JVLinkServer.PythonText

namespace JVLinkServer.Client

/-! # Datetime arguments

`normalize_datetime_arg` and what it asks of `datetime.strptime`.  Eight or fourteen
characters match a format only if each of its fields takes two of them, and the year four.
-/

section Fields

/-- The value of a digit of ASCII in a range. -/
def asciiDigit? (low high char : Char) : Option Nat :=
  if low ≤ char && char ≤ high then some (char.toNat - '0'.toNat) else none

/-- Two digits, of which only the first is restricted. -/
def twoDigits? (low high first second : Char) : Option Nat := do
  let tens ← asciiDigit? low high first
  let ones ← digitValue? second
  return 10 * tens + ones

/-- `%Y` -/
def year? (first second third fourth : Char) : Option Nat := do
  let digits ← [first, second, third, fourth].mapM digitValue?
  return digits.foldl (fun value digit => value * 10 + digit) 0

/-- `%m` -/
def month? : Char → Char → Option Nat
  | '1', second => (asciiDigit? '0' '2' second).map (10 + ·)
  | '0', second => asciiDigit? '1' '9' second
  | _, _ => none

/-- `%d` -/
def day? : Char → Char → Option Nat
  | '3', second => (asciiDigit? '0' '1' second).map (30 + ·)
  | '0', second => asciiDigit? '1' '9' second
  | first, second => twoDigits? '1' '2' first second

/-- `%H` -/
def hour? : Char → Char → Option Nat
  | '2', second => (asciiDigit? '0' '3' second).map (20 + ·)
  | first, second => twoDigits? '0' '1' first second

/-- `%M` -/
def minute? (first second : Char) : Option Nat := twoDigits? '0' '5' first second

/-- `%S` -/
def second? : Char → Char → Option Nat
  | '6', second => (asciiDigit? '0' '1' second).map (60 + ·)
  | first, second => twoDigits? '0' '5' first second

end Fields

def isLeapYear (year : Nat) : Bool := year % 4 == 0 && (year % 100 != 0 || year % 400 == 0)

def daysInMonth (year month : Nat) : Nat :=
  if month = 2 then (if isLeapYear year then 29 else 28)
  else if [4, 6, 9, 11].contains month then 30
  else 31

/-- A real date. -/
def isDate (year month day : Nat) : Bool := 1 ≤ year && day ≤ daysInMonth year month

/-- `date(year, month, day)` can be built. -/
def isRealDate (year month day : Nat) : Bool :=
  1 ≤ month && month ≤ 12 && 1 ≤ day && isDate year month day

/-- `datetime.strptime(value, "%Y%m%d")` -/
def strptimeDate : List Char → Bool
  | [y, y', y'', y''', m, m', d, d'] =>
      match year? y y' y'' y''', month? m m', day? d d' with
      | some year, some month, some day => isDate year month day
      | _, _, _ => false
  | _ => false

/-- `datetime.strptime(value, "%Y%m%d%H%M%S")`; `datetime` has no leap seconds. -/
def strptimeDatetime : List Char → Bool
  | y :: y' :: y'' :: y''' :: m :: m' :: d :: d' :: time =>
      strptimeDate [y, y', y'', y''', m, m', d, d'] &&
        match time with
        | [h, h', n, n', s, s'] =>
            match hour? h h', minute? n n', second? s s' with
            | some _, some _, some second => second ≤ 59
            | _, _, _ => false
        | _ => false
  | _ => false

/-- The digits of Unicode that are no decimal digits: superscripts, circled digits and so on. -/
def otherDigits : List (Nat × Nat) :=
  [(0xb2, 0xb3), (0xb9, 0xb9), (0x1369, 0x1371), (0x19da, 0x19da), (0x2070, 0x2070),
    (0x2074, 0x2079), (0x2080, 0x2089), (0x2460, 0x2468), (0x2474, 0x247c), (0x2488, 0x2490),
    (0x24ea, 0x24ea), (0x24f5, 0x24fd), (0x24ff, 0x24ff), (0x2776, 0x277e), (0x2780, 0x2788),
    (0x278a, 0x2792), (0x10a40, 0x10a43), (0x10e60, 0x10e68), (0x11052, 0x1105a),
    (0x1f100, 0x1f10a)]

/-- `str.isdigit` for one character. -/
def isPythonDigit (char : Char) : Bool :=
  (digitValue? char).isSome ||
    otherDigits.any fun (low, high) => low ≤ char.toNat && char.toNat ≤ high

/-- `normalize_datetime_arg` of a string, or the message of `JVInvalidFromTimeError`. -/
def normalizeDatetimeArg (argName : String) (value : List Char) (endOfDay : Bool) :
    Except String (List Char) :=
  let quoted := "Invalid " ++ argName ++ ": '" ++ String.ofList value ++ "'. "
  if value.length == 8 && value.all isPythonDigit then
    if strptimeDate value then
      .ok (value ++ (if endOfDay then "235959" else "000000").toList)
    else .error (quoted ++ "Expected a real date in YYYYMMDD format.")
  else if value.length == 14 && value.all isPythonDigit then
    if strptimeDatetime value then .ok value
    else .error (quoted ++ "Expected a real datetime in YYYYMMDDHHMMSS format.")
  else .error (quoted ++ "Use YYYYMMDD or YYYYMMDDHHMMSS.")

/-- The time of day that a date alone stands for. -/
def dayTime (endOfDay : Bool) : List Char := (if endOfDay then "235959" else "000000").toList

section Accepted

variable {argName : String} {value normalized : List Char} {endOfDay : Bool}

theorem normalizeDatetimeArg_ok_iff :
    normalizeDatetimeArg argName value endOfDay = .ok normalized ↔
      value.all isPythonDigit = true ∧
        (value.length = 8 ∧ strptimeDate value = true ∧ normalized = value ++ dayTime endOfDay ∨
          value.length = 14 ∧ strptimeDatetime value = true ∧ normalized = value) := by
  unfold normalizeDatetimeArg
  by_cases digits : value.all isPythonDigit = true
  · by_cases eight : value.length = 8
    · by_cases date : strptimeDate value = true
      · simp only [eight, digits, date, dayTime, BEq.rfl, Bool.and_self, if_true, true_and,
          Except.ok.injEq, Nat.reduceEqDiff, false_and, or_false]
        exact eq_comm
      · simp [digits, eight, date]
    · by_cases fourteen : value.length = 14
      · by_cases date : strptimeDatetime value = true
        · simp only [fourteen, digits, date, Nat.reduceBEq, Bool.false_and, BEq.rfl, Bool.and_self,
            Bool.false_eq_true, if_false, if_true, true_and, Except.ok.injEq, Nat.reduceEqDiff,
            false_and, false_or]
          exact eq_comm
        · simp [digits, fourteen, date]
      · simp [eight, fourteen]
  · simp [digits]

/-- A normalized argument has a date and a time. -/
theorem normalizeDatetimeArg_length
    (accepted : normalizeDatetimeArg argName value endOfDay = .ok normalized) :
    normalized.length = 14 := by
  obtain ⟨-, ⟨eight, -, rfl⟩ | ⟨fourteen, -, rfl⟩⟩ := normalizeDatetimeArg_ok_iff.mp accepted
  · cases endOfDay <;> simp [eight, dayTime]
  · exact fourteen

/-- A real date with a time that the client adds is a real date and time. -/
theorem strptimeDatetime_dayTime (date : strptimeDate value = true) :
    strptimeDatetime (value ++ dayTime endOfDay) = true := by
  match value, date with
  | [y, y', y'', y''', m, m', d, d'], date =>
      have time : ∀ endOfDay, (match dayTime endOfDay with
          | [h, h', n, n', s, s'] =>
              match hour? h h', minute? n n', second? s s' with
              | some _, some _, some second => decide (second ≤ 59)
              | _, _, _ => false
          | _ => false) = true := by decide
      simp only [List.cons_append, List.nil_append, strptimeDatetime, date, Bool.true_and]
      exact time endOfDay

theorem normalizeDatetimeArg_again
    (accepted : normalizeDatetimeArg argName value endOfDay = .ok normalized)
    (otherName : String) (otherEnd : Bool) :
    normalizeDatetimeArg otherName normalized otherEnd = .ok normalized := by
  have length := normalizeDatetimeArg_length accepted
  rw [normalizeDatetimeArg_ok_iff] at accepted ⊢
  obtain ⟨digits, ⟨eight, date, rfl⟩ | ⟨fourteen, date, rfl⟩⟩ := accepted
  · have time : (dayTime endOfDay).all isPythonDigit = true := by
      cases endOfDay <;> decide
    refine ⟨?_, .inr ⟨length, strptimeDatetime_dayTime date, rfl⟩⟩
    rw [List.all_append, digits, time]
    rfl
  · exact ⟨digits, .inr ⟨fourteen, date, rfl⟩⟩

end Accepted

example : (normalizeDatetimeArg "to_date" "20240229".toList true).toOption =
    some "20240229235959".toList := by decide

end JVLinkServer.Client
