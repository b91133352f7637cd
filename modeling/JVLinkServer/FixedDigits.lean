import Mathlib

namespace JVLinkServer

/-! # Decimals of a fixed width

What `format(value, "0Nd")` writes, and the digits that it consists of where they fit.
-/

/-- A digit of ASCII. -/
def digitChar (digit : Fin 10) : Char := Char.ofNat (48 + digit.val)

/-- `format(value, "0Nd")`; the sign counts. -/
def zeroPadded (width : Nat) : Int → List Char
  | .ofNat value =>
      let digits := Nat.toDigits 10 value
      List.replicate (width - digits.length) '0' ++ digits
  | .negSucc value =>
      let digits := Nat.toDigits 10 (value + 1)
      '-' :: (List.replicate (width - 1 - digits.length) '0' ++ digits)

/-- The last digits of a number. -/
def fixedDigits : (width : Nat) → (value : Nat) → List (Fin 10)
  | 0, _ => []
  | width + 1, value =>
      fixedDigits width (value / 10) ++ [⟨value % 10, Nat.mod_lt _ (by decide)⟩]

@[simp] theorem length_fixedDigits (width value : Nat) :
    (fixedDigits width value).length = width := by
  induction width generalizing value with
  | zero => rfl
  | succ width ih => simp [fixedDigits, ih]

theorem fixedDigits_zero (width : Nat) : fixedDigits width 0 = List.replicate width 0 := by
  induction width with
  | zero => rfl
  | succ width ih =>
      rw [fixedDigits, Nat.zero_div, ih, List.replicate_succ']
      rfl

theorem digitChar_eq : ∀ digit : Fin 10, digitChar digit = digit.val.digitChar := by
  decide

theorem zeroPadded_eq (width : Nat) {value : Nat} (fits : value < 10 ^ (width + 1)) :
    zeroPadded (width + 1) value = (fixedDigits (width + 1) value).map digitChar := by
  induction width generalizing value with
  | zero =>
      have small : value < 10 := by simpa using fits
      change List.replicate _ '0' ++ Nat.toDigits 10 value = _
      rw [Nat.toDigits_of_lt_base small]
      simp [fixedDigits, digitChar_eq, Nat.mod_eq_of_lt small]
  | succ width ih =>
      change List.replicate _ '0' ++ Nat.toDigits 10 value = _
      by_cases small : value < 10
      · rw [Nat.toDigits_of_lt_base small, fixedDigits, Nat.div_eq_of_lt small, fixedDigits_zero]
        simp [digitChar_eq, Nat.mod_eq_of_lt small]
      · have fewer : value / 10 < 10 ^ (width + 1) := by
          rw [Nat.pow_succ] at fits
          omega
        have rest := ih fewer
        change List.replicate _ '0' ++ Nat.toDigits 10 (value / 10) = _ at rest
        rw [Nat.toDigits_of_base_le (by decide) (by omega), fixedDigits, List.map_append, ← rest]
        simp [digitChar_eq]

theorem fixedDigits_injective {width first second : Nat} (fits : first < 10 ^ width)
    (otherFits : second < 10 ^ width)
    (same : fixedDigits width first = fixedDigits width second) : first = second := by
  induction width generalizing first second with
  | zero =>
      rw [Nat.pow_zero] at fits otherFits
      omega
  | succ width ih =>
      rw [Nat.pow_succ] at fits otherFits
      obtain ⟨tens, ones⟩ := List.append_inj' same rfl
      have quotients := ih (by omega) (by omega) tens
      have remainders : first % 10 = second % 10 := by simpa using ones
      omega

theorem digitChar_injective : Function.Injective digitChar := by
  have distinct : ∀ first second : Fin 10, digitChar first = digitChar second → first = second := by
    decide
  intro first second
  exact distinct first second

end JVLinkServer
