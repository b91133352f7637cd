import JVLinkServer.FixedDigits
import JVLinkServer.PythonText

namespace JVLinkServer

/-! # Reading padded decimals

`int` reads back what `format(value, "0Nd")` writes, for negative numbers too.
-/

section Padded

variable {width : Nat} {digits : List Char}

theorem toDigits_isDigit (value : Nat) :
    ∀ digit ∈ Nat.toDigits 10 value, digit.isDigit = true := fun _ inside =>
  Nat.isDigit_of_mem_toDigits (by decide) (by decide) inside

theorem padded_isDigit (zeros value : Nat) :
    ∀ digit ∈ List.replicate zeros '0' ++ Nat.toDigits 10 value, digit.isDigit = true := by
  intro digit inside
  obtain zero | own := List.mem_append.mp inside
  · rw [List.eq_of_mem_replicate zero]
    decide
  · exact toDigits_isDigit value digit own

theorem zeroPadded_cases (width : Nat) (value : Int) :
    (0 ≤ value ∧ ∀ char ∈ zeroPadded width value, char.isDigit = true) ∨
      (value < 0 ∧ ∃ digits, zeroPadded width value = '-' :: digits ∧ digits ≠ [] ∧
        ∀ digit ∈ digits, digit.isDigit = true) := by
  cases value with
  | ofNat value => exact .inl ⟨Int.natCast_nonneg value, padded_isDigit _ value⟩
  | negSucc value =>
      refine .inr ⟨Int.negSucc_lt_zero value, _, rfl, ?_, padded_isDigit _ (value + 1)⟩
      exact List.append_ne_nil_of_right_ne_nil _ Nat.toDigits_ne_nil

theorem le_length_zeroPadded (width : Nat) (value : Int) :
    width ≤ (zeroPadded width value).length := by
  cases value with
  | ofNat value =>
      change width ≤ (List.replicate _ '0' ++ Nat.toDigits 10 value).length
      rw [List.length_append, List.length_replicate]
      omega
  | negSucc value =>
      change width ≤ ('-' :: (List.replicate _ '0' ++ Nat.toDigits 10 (value + 1))).length
      rw [List.length_cons, List.length_append, List.length_replicate]
      omega

theorem solid_digit {digit : Char} (isDigit : digit.isDigit = true) :
    isPythonSpace digit = false := by
  have bounds := digit_bounds isDigit
  unfold isPythonSpace
  simp
  omega

theorem zeroPadded_solid (width : Nat) (value : Int) :
    ∀ char ∈ zeroPadded width value, isPythonSpace char = false := by
  obtain ⟨-, digits⟩ | ⟨-, digits, written, -, each⟩ := zeroPadded_cases width value
  · exact fun char inside => solid_digit (digits char inside)
  · rw [written, List.forall_mem_cons]
    exact ⟨by decide, fun char inside => solid_digit (each char inside)⟩

theorem ofDigitChars_zeros (zeros : Nat) (digits : List Char) :
    Nat.ofDigitChars 10 (List.replicate zeros '0' ++ digits) 0 = Nat.ofDigitChars 10 digits 0 := by
  induction zeros with
  | zero => rfl
  | succ zeros ih =>
      rw [List.replicate_succ, List.cons_append, Nat.ofDigitChars_cons]
      exact ih

section Signed

variable (nonempty : digits ≠ []) (isDigit : ∀ digit ∈ digits, digit.isDigit = true)
  (short : digits.length ≤ 4300)
include nonempty isDigit short

theorem pythonInt?_digits : pythonInt? digits = some (Nat.ofDigitChars 10 digits 0 : Int) := by
  have strip := pythonStrip_of_solid fun char inside => solid_digit (isDigit char inside)
  have group := digitGroup?_digits nonempty isDigit
  have total := foldl_digits digits 0
  unfold pythonInt?
  rw [strip]
  dsimp only
  split
  · rename_i rest
    have := isDigit '-' List.mem_cons_self
    contradiction
  · rename_i rest
    have := isDigit '+' List.mem_cons_self
    contradiction
  · simp [group, short, total]

theorem pythonInt?_negated :
    pythonInt? ('-' :: digits) = some (-(Nat.ofDigitChars 10 digits 0 : Int)) := by
  have solid : ∀ char ∈ '-' :: digits, isPythonSpace char = false := by
    rw [List.forall_mem_cons]
    exact ⟨by decide, fun char inside => solid_digit (isDigit char inside)⟩
  have group := digitGroup?_digits nonempty isDigit
  have total := foldl_digits digits 0
  unfold pythonInt?
  rw [pythonStrip_of_solid solid]
  simp [group, short, total]

end Signed

/-- `int(format(value, "0Nd"))` is the value. -/
theorem pythonInt?_zeroPadded (value : Int) (short : (zeroPadded width value).length ≤ 4300) :
    pythonInt? (zeroPadded width value) = some value := by
  have nonempty (zeros number : Nat) :
      List.replicate zeros '0' ++ Nat.toDigits 10 number ≠ [] :=
    List.append_ne_nil_of_right_ne_nil _ Nat.toDigits_ne_nil
  cases value with
  | ofNat value =>
      have read := pythonInt?_digits (nonempty _ value) (padded_isDigit _ value) short
      rw [ofDigitChars_zeros, Nat.ofDigitChars_ten_toDigits] at read
      exact read
  | negSucc value =>
      have fewer := Nat.le_of_succ_le short
      have read := pythonInt?_negated (nonempty _ (value + 1)) (padded_isDigit _ (value + 1)) fewer
      rw [ofDigitChars_zeros, Nat.ofDigitChars_ten_toDigits] at read
      exact read

end Padded

end JVLinkServer
