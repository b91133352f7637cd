import JVLinkServer.Text

namespace JVLinkServer

/-! # Python's strings

A `str` that comes out of a JSON document, with what the client asks of it.  Letters
beyond ASCII have their Unicode properties: white space and decimal digits.
-/

/-- The characters of a text; there are none in bytes that are no text. -/
def characters (bytes : Bytes) : List Char :=
  match String.fromUTF8? ⟨bytes.toArray⟩ with
  | some text => text.toList
  | none => []

/-- `str.isspace` for one character. -/
def isPythonSpace (char : Char) : Bool :=
  let code := char.toNat
  (9 ≤ code && code ≤ 13) || (28 ≤ code && code ≤ 32) || code == 0x85 || code == 0xa0 ||
    code == 0x1680 || (0x2000 ≤ code && code ≤ 0x200a) || code == 0x2028 || code == 0x2029 ||
    code == 0x202f || code == 0x205f || code == 0x3000

/-- `str.strip` -/
def pythonStrip (text : List Char) : List Char :=
  ((text.dropWhile isPythonSpace).reverse.dropWhile isPythonSpace).reverse

/-- The code points of the digits zero of Unicode; the other digits of a script follow. -/
def digitZeros : List Nat :=
  [48, 1632, 1776, 1984, 2406, 2534, 2662, 2790, 2918, 3046, 3174, 3302, 3430, 3558, 3664,
    3792, 3872, 4160, 4240, 6112, 6160, 6470, 6608, 6784, 6800, 6992, 7088, 7232, 7248, 42528,
    43216, 43264, 43472, 43504, 43600, 44016, 65296, 66720, 68912, 69734, 69872, 69942, 70096,
    70384, 70736, 70864, 71248, 71360, 71472, 71904, 72016, 72784, 73040, 73120, 92768, 92864,
    93008, 120782, 120792, 120802, 120812, 120822, 123200, 123632, 125264, 130032]

/-- The value of a decimal digit. -/
def digitValue? (char : Char) : Option Nat :=
  (digitZeros.find? fun base => base ≤ char.toNat && char.toNat < base + 10).map (char.toNat - ·)

/-- The values of digits between which single underscores may stand. -/
def digitGroup? : List Char → Option (List Nat)
  | [] => none
  | [last] => (digitValue? last).map ([·])
  | first :: '_' :: rest => do return (← digitValue? first) :: (← digitGroup? rest)
  | first :: rest => do return (← digitValue? first) :: (← digitGroup? rest)

/-- `int(text)`, which refuses more than 4300 digits. -/
def pythonInt? (text : List Char) : Option Int :=
  let magnitude? (digits : List Char) : Option Nat :=
    match digitGroup? digits with
    | some values =>
        if values.length ≤ 4300 then some (values.foldl (fun value digit => value * 10 + digit) 0)
        else none
    | none => none
  match pythonStrip text with
  | '-' :: digits => (magnitude? digits).map fun value => -(value : Int)
  | '+' :: digits => (magnitude? digits).map Int.ofNat
  | digits => (magnitude? digits).map Int.ofNat

example : pythonInt? " -1_000 ".toList = some (-1000) := by decide

/-! ## Reading back a decimal -/

theorem characters_utf8 (text : String) : characters (utf8 text) = text.toList := by
  have whole : (⟨(utf8 text).toArray⟩ : ByteArray) = text.toByteArray := rfl
  unfold characters String.fromUTF8?
  rw [whole, dif_pos text.isValidUTF8]
  rfl

theorem pythonStrip_of_solid {text : List Char}
    (solid : ∀ char ∈ text, isPythonSpace char = false) : pythonStrip text = text := by
  have drops : ∀ chars : List Char, (∀ char ∈ chars, isPythonSpace char = false) →
      chars.dropWhile isPythonSpace = chars := by
    intro chars solid
    cases chars with
    | nil => rfl
    | cons char chars => simp [solid char List.mem_cons_self]
  unfold pythonStrip
  rw [drops text solid, drops text.reverse (by simpa using solid), List.reverse_reverse]

theorem digit_bounds {digit : Char} (isDigit : digit.isDigit = true) :
    48 ≤ digit.toNat ∧ digit.toNat ≤ 57 := by
  simpa [Char.isDigit, UInt32.le_iff_toNat_le] using isDigit

theorem characters_decimalNat (value : Nat) :
    characters (decimalNat value) = Nat.toDigits 10 value := by
  have text : utf8 (String.ofList (Nat.toDigits 10 value)) = decimalNat value := by
    rw [utf8_ofList, decimalNat]
    · rfl
    · intro digit inside
      have bounds := digit_bounds (Nat.isDigit_of_mem_toDigits (by decide) (by decide) inside)
      rw [Char.utf8Size_eq_one_iff, UInt32.le_iff_toNat_le]
      exact Nat.le_trans bounds.2 (by decide)
  rw [← text, characters_utf8, String.toList_ofList]

theorem digitValue?_digit {digit : Char} (isDigit : digit.isDigit = true) :
    digitValue? digit = some (digit.toNat - 48) := by
  have bounds := digit_bounds isDigit
  unfold digitValue? digitZeros
  rw [List.find?_cons_of_pos (by simp; omega)]
  rfl

theorem digitGroup?_digits {digits : List Char} (nonempty : digits ≠ [])
    (isDigit : ∀ digit ∈ digits, digit.isDigit = true) :
    digitGroup? digits = some (digits.map fun digit => digit.toNat - 48) := by
  fun_induction digitGroup? digits with
  | case1 => contradiction
  | case2 last => simp [digitValue?_digit (isDigit last (by simp))]
  | case3 first rest ih =>
      have := isDigit '_' (by simp)
      contradiction
  | case4 first rest notLast notUnderscore ih =>
      have rest := ih (by simpa using notLast) fun digit inside =>
        isDigit digit (List.mem_cons_of_mem _ inside)
      simp [digitValue?_digit (isDigit first (by simp)), rest]

theorem foldl_digits (digits : List Char) (start : Nat) :
    (digits.map fun digit => digit.toNat - 48).foldl (fun value digit => value * 10 + digit) start =
      Nat.ofDigitChars 10 digits start := by
  induction digits generalizing start with
  | nil => rfl
  | cons digit digits ih =>
      rw [List.map_cons, List.foldl_cons, ih, Nat.ofDigitChars_cons, Nat.mul_comm]
      rfl

/-- `int(str(value))` is the value. -/
theorem pythonInt?_decimalNat (value : Nat) (short : (Nat.toDigits 10 value).length ≤ 4300) :
    pythonInt? (characters (decimalNat value)) = some (value : Int) := by
  have isDigit : ∀ digit ∈ Nat.toDigits 10 value, digit.isDigit = true := fun digit inside =>
    Nat.isDigit_of_mem_toDigits (by decide) (by decide) inside
  have solid : ∀ digit ∈ Nat.toDigits 10 value, isPythonSpace digit = false := by
    intro digit inside
    have bounds := digit_bounds (isDigit digit inside)
    unfold isPythonSpace
    simp
    omega
  have group := digitGroup?_digits Nat.toDigits_ne_nil isDigit
  have total := foldl_digits (Nat.toDigits 10 value) 0
  rw [Nat.ofDigitChars_ten_toDigits] at total
  rw [characters_decimalNat, pythonInt?, pythonStrip_of_solid solid]
  split
  · rename_i rest written
    have := isDigit '-' (by simp [written])
    contradiction
  · rename_i rest written
    have := isDigit '+' (by simp [written])
    contradiction
  · simp [group, short, total]

end JVLinkServer
