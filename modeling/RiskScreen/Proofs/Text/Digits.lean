import Mathlib.Algebra.Group.Nat.Defs
import RiskScreen.Text.Digits

/-!
# Numbers and their digits

A run of digits denotes a number below the power of ten with as many zeros as there are digits,
and the decimal digits of a number denote that number.
-/

namespace RiskScreen.Text

theorem digitValue_lt {c : Char} (h : c.isDigit = true) : digitValue c < 10 := by
  have upper : c.toNat ≤ 57 := by
    simp only [Char.isDigit, Bool.and_eq_true, decide_eq_true_eq] at h
    exact h.2
  unfold digitValue
  omega

theorem digitsValueFrom_lt (start : Nat) {digits : List Char}
    (h : ∀ c ∈ digits, c.isDigit = true) :
    digitsValueFrom start digits < (start + 1) * 10 ^ digits.length := by
  induction digits generalizing start with
  | nil => simp
  | cons c rest ih =>
    have digit : digitValue c < 10 := digitValue_lt (h c List.mem_cons_self)
    calc digitsValueFrom start (c :: rest)
        = digitsValueFrom (10 * start + digitValue c) rest := digitsValueFrom_cons start c rest
      _ < (10 * start + digitValue c + 1) * 10 ^ rest.length :=
          ih _ fun d mem => h d (List.mem_cons_of_mem c mem)
      _ ≤ ((start + 1) * 10) * 10 ^ rest.length := Nat.mul_le_mul_right _ (by omega)
      _ = (start + 1) * 10 ^ (c :: rest).length := by
          rw [List.length_cons, Nat.pow_succ, Nat.mul_assoc, Nat.mul_comm 10]

/-- Digits denote a number of no more digits. -/
theorem digitsValue_lt {digits : List Char} (h : ∀ c ∈ digits, c.isDigit = true) :
    digitsValue digits < 10 ^ digits.length := by
  have := digitsValueFrom_lt 0 h
  rwa [Nat.zero_add, Nat.one_mul] at this

theorem isDigitRun_iff {text : List Char} :
    isDigitRun text = true ↔ text ≠ [] ∧ ∀ c ∈ text, c.isDigit = true := by
  simp [isDigitRun]

theorem isDigitRun_decimalDigits (n : Nat) : isDigitRun (decimalDigits n) = true := by
  rw [isDigitRun_iff]
  refine ⟨Nat.toDigits_ne_nil, ?_⟩
  intro c mem
  exact Nat.isDigit_of_mem_toDigits (by omega) (by omega) mem

theorem digitsValue_decimalDigits (n : Nat) : digitsValue (decimalDigits n) = n := by
  have read := Nat.ofDigitChars_ten_toDigits (n := n)
  rwa [Nat.ofDigitChars_eq_foldl] at read

end RiskScreen.Text
