import JVLinkServer.Client.CanonicalDatetimes
import JVLinkServer.Client.EventStreams

namespace JVLinkServer.Client

/-! # Conversions of fields

A field of a row becomes a text, a number, a date or a time.  A text that is none of these
becomes `None`, with a few exceptions that raise.
-/

inductive ConversionError
  | valueError | overflowError
  deriving DecidableEq, Repr

abbrev Converted := Except ConversionError

/-- A date of the calendar. -/
structure CalendarDate where
  year : Nat
  month : Nat
  day : Nat
  real : isRealDate year month day = true
  fits : year ≤ 9999
  deriving DecidableEq, Repr

structure ClockTime where
  hour : Nat
  minute : Nat
  hourFits : hour < 24
  minuteFits : minute < 60
  deriving DecidableEq, Repr

inductive SaleFlag
  | noSale | cancelledBeforeSale | cancelledAfterSale | onSale
  deriving DecidableEq, Repr

/-! ## Texts and lists -/

section Values

variable (python : PythonStr) (value : Option Json)

/-- The characters of what `to_str` returns. -/
def toText : Option (List Char) := (toStr python value).map characters

/-- `to_int` of a field that may be missing. -/
def toInt? : Option Int := value.bind (toInt python)

theorem toInt?_eq : toInt? python value = (toText python value).bind pythonInt? := by
  cases value with
  | none => rfl
  | some value =>
      unfold toInt? toText
      rw [Option.bind_map]
      rfl

/-- A whole number of tenths from here on is too large for a float: half a step above the
largest one. -/
def floatLimit : Nat := 10 * ((2 ^ 54 - 1) * 2 ^ 970)

/-- `to_float` with the scale 10.  The float is the one that is nearest to so many tenths. -/
def toFloat : Converted (Option Int) :=
  match toInt? python value with
  | none => .ok none
  | some parsed =>
      if floatLimit ≤ parsed.natAbs then .error .overflowError else .ok (some parsed)

/-- `date` of `datetime.strptime(text, "%Y%m%d")` -/
def strptime? : List Char → Option CalendarDate
  | [y, y', y'', y''', m, m', d, d'] =>
      match year? y y' y'' y''', month? m m', day? d d' with
      | some year, some month, some day =>
          if real : isRealDate year month day ∧ year ≤ 9999 then
            some ⟨year, month, day, real.1, real.2⟩
          else none
      | _, _, _ => none
  | _ => none

/-- `len(text) != count or not text.isdigit()` fails -/
def areDigits (count : Nat) (text : List Char) : Bool :=
  text.length == count && text.all isPythonDigit

def toDateYyyymmdd : Option CalendarDate :=
  match toText python value with
  | none => none
  | some text => if areDigits 8 text then strptime? text else none

/-- `int(text)` -/
def parseInt (text : List Char) : Converted Int :=
  match pythonInt? text with
  | some value => .ok value
  | none => .error .valueError

def toMonthDay : Converted (Option (Int × Int)) :=
  match toText python value with
  | none => .ok none
  | some text =>
      if areDigits 4 text then do
        let month ← parseInt (text.take 2)
        let day ← parseInt ((text.drop 2).take 2)
        if 1 ≤ month ∧ month ≤ 12 ∧ 1 ≤ day ∧ day ≤ 31 then return some (month, day)
        else return none
      else .ok none

/-- `time(hour, minute)`, or nothing when it raises `ValueError`. -/
def clockTime? (hour minute : Int) : Option ClockTime :=
  if fits : (0 ≤ hour ∧ hour.toNat < 24) ∧ 0 ≤ minute ∧ minute.toNat < 60 then
    some ⟨hour.toNat, minute.toNat, fits.1.2, fits.2.2⟩
  else none

def toTimeHhmm : Converted (Option ClockTime) :=
  match toText python value with
  | none => .ok none
  | some text =>
      if areDigits 4 text then
        if text = ['0', '0', '0', '0'] then .ok none
        else do
          let hour ← parseInt (text.take 2)
          let minute ← parseInt ((text.drop 2).take 2)
          return clockTime? hour minute
      else .ok none

structure AnnouncementTime where
  month : Int
  day : Int
  hour : Int
  minute : Int
  deriving DecidableEq, Repr

def toMmddhhmmParts : Converted (Option AnnouncementTime) :=
  match toText python value with
  | none => .ok none
  | some text =>
      if areDigits 8 text then do
        let month ← parseInt (text.take 2)
        let day ← parseInt ((text.drop 2).take 2)
        let hour ← parseInt ((text.drop 4).take 2)
        let minute ← parseInt ((text.drop 6).take 2)
        if ¬ (1 ≤ month ∧ month ≤ 12 ∧ 1 ≤ day ∧ day ≤ 31) then return none
        else if ¬ (0 ≤ hour ∧ hour ≤ 23 ∧ 0 ≤ minute ∧ minute ≤ 59) then return none
        else return some { month, day, hour, minute }
      else .ok none

def toList : List Json :=
  match value with
  | some (.array items) => items
  | _ => []

/-- `to_enum` with the values of `SaleFlag` -/
def toSaleFlag : Option SaleFlag :=
  match toText python value with
  | some ['0'] => some .noSale
  | some ['1'] => some .cancelledBeforeSale
  | some ['3'] => some .cancelledAfterSale
  | some ['7'] => some .onSale
  | _ => none

end Values

/-! ## The size of numbers -/

theorem digitValue?_lt {char : Char} {value : Nat} (digit : digitValue? char = some value) :
    value < 10 := by
  obtain ⟨base, found, rfl⟩ := Option.map_eq_some_iff.mp digit
  have inside := List.find?_some found
  simp only [Bool.and_eq_true, decide_eq_true_eq] at inside
  omega

theorem digitGroup?_bounds {text : List Char} {values : List Nat}
    (group : digitGroup? text = some values) :
    values.length ≤ text.length ∧ ∀ value ∈ values, value < 10 := by
  fun_induction digitGroup? text generalizing values with
  | case1 => cases group
  | case2 last =>
      obtain ⟨value, digit, rfl⟩ := Option.map_eq_some_iff.mp group
      simp [digitValue?_lt digit]
  | case3 first rest ih =>
      simp only [Option.bind_eq_bind, Option.bind_eq_some_iff, Option.pure_def,
        Option.some.injEq] at group
      obtain ⟨value, digit, more, others, rfl⟩ := group
      obtain ⟨short, small⟩ := ih others
      simp only [List.length_cons, List.forall_mem_cons]
      exact ⟨by omega, digitValue?_lt digit, small⟩
  | case4 first rest notLast notUnderscore ih =>
      simp only [Option.bind_eq_bind, Option.bind_eq_some_iff, Option.pure_def,
        Option.some.injEq] at group
      obtain ⟨value, digit, more, others, rfl⟩ := group
      obtain ⟨short, small⟩ := ih others
      simp only [List.length_cons, List.forall_mem_cons]
      exact ⟨by omega, digitValue?_lt digit, small⟩

theorem foldl_digits_lt {values : List Nat} (small : ∀ value ∈ values, value < 10) (start : Nat) :
    values.foldl (fun value digit => value * 10 + digit) start <
      (start + 1) * 10 ^ values.length := by
  induction values generalizing start with
  | nil => simp
  | cons value values ih =>
      rw [List.forall_mem_cons] at small
      rw [List.foldl_cons, List.length_cons, Nat.pow_succ']
      calc values.foldl (fun value digit => value * 10 + digit) (start * 10 + value)
        _ < (start * 10 + value + 1) * 10 ^ values.length := ih small.2 _
        _ ≤ ((start + 1) * 10) * 10 ^ values.length := by
            apply Nat.mul_le_mul_right
            have := small.1
            omega
        _ = (start + 1) * (10 * 10 ^ values.length) := Nat.mul_assoc _ _ _

theorem pythonStrip_sublist (text : List Char) : (pythonStrip text).Sublist text := by
  have front := (List.dropWhile_suffix (l := text) isPythonSpace).sublist
  have back := (List.dropWhile_suffix (l := (text.dropWhile isPythonSpace).reverse)
    isPythonSpace).sublist.reverse
  rw [List.reverse_reverse] at back
  exact back.trans front

/-- A number has no more digits than its text has characters. -/
theorem pythonInt?_lt {text : List Char} {value : Int} (parsed : pythonInt? text = some value) :
    value.natAbs < 10 ^ text.length := by
  have magnitude {digits : List Char} {values : List Nat} (group : digitGroup? digits = some values)
      (short : digits.length ≤ text.length) :
      values.foldl (fun value digit => value * 10 + digit) 0 < 10 ^ text.length := by
    obtain ⟨fewer, small⟩ := digitGroup?_bounds group
    have bound := foldl_digits_lt small 0
    rw [Nat.zero_add, Nat.one_mul] at bound
    exact bound.trans_le (Nat.pow_le_pow_right (by decide) (fewer.trans short))
  have stripped := (pythonStrip_sublist text).length_le
  unfold pythonInt? at parsed
  dsimp only at parsed
  split at parsed
  · rename_i digits signed
    rw [signed, List.length_cons] at stripped
    cases group : digitGroup? digits with
    | none => simp [group] at parsed
    | some values =>
        simp only [group, Option.map_eq_some_iff] at parsed
        obtain ⟨number, read, rfl⟩ := parsed
        obtain ⟨size, found, same⟩ := Option.bind_eq_some_iff.mp read
        obtain rfl := Option.some.inj (Option.ite_none_right_eq_some.mp found).2
        obtain rfl := Option.some.inj same
        rw [Int.natAbs_neg, Int.natAbs_natCast]
        exact magnitude group (by omega)
  · rename_i digits signed
    rw [signed, List.length_cons] at stripped
    cases group : digitGroup? digits with
    | none => simp [group] at parsed
    | some values =>
        simp only [group, Option.map_eq_some_iff, Option.ite_none_right_eq_some] at parsed
        obtain ⟨number, ⟨-, same⟩, rfl⟩ := parsed
        obtain rfl := Option.some.inj same
        exact magnitude group (by omega)
  · cases group : digitGroup? (pythonStrip text) with
    | none => simp [group] at parsed
    | some values =>
        simp only [group, Option.map_eq_some_iff, Option.ite_none_right_eq_some] at parsed
        obtain ⟨number, ⟨-, same⟩, rfl⟩ := parsed
        obtain rfl := Option.some.inj same
        exact magnitude group stripped

end JVLinkServer.Client
