import RiskScreen.Proofs.Text.Digits

/-!
# Numbers as they are written

Digits that were filled up with zeros denote the number they were written for, and are as many as
was asked for if the number fits. Whoever reads on as long as there are digits gets all of them and
nothing else.
-/

namespace RiskScreen.Text

variable {n width : Nat} {c : Char} {digits rest : List Char}

theorem isDigit_of_mem_decimalDigits (mem : c ∈ decimalDigits n) : c.isDigit = true :=
  (isDigitRun_iff.mp (isDigitRun_decimalDigits n)).2 c mem

/-- A number other than zero has no leading zero. -/
theorem exists_first_decimalDigits (pos : 0 < n) :
    ∃ first rest, decimalDigits n = first :: rest ∧ first ≠ '0' := by
  induction n using Nat.strongRecOn with | ind n ih =>
  by_cases single : n < 10
  · refine ⟨n.digitChar, [], Nat.toDigits_of_lt_base single, ?_⟩
    have nonzero : ∀ digit < 10, 0 < digit → digit.digitChar ≠ '0' := by decide
    exact nonzero n single pos
  · obtain ⟨first, rest, split, nonzero⟩ := ih (n / 10) (by omega) (by omega)
    refine ⟨first, rest ++ [(n % 10).digitChar], ?_, nonzero⟩
    rw [decimalDigits, Nat.toDigits_of_base_le (by omega) (Nat.not_lt.mp single)]
    exact congrArg (· ++ [(n % 10).digitChar]) split

/-! ### Padding -/

theorem digitsValueFrom_replicate_zero (count : Nat) :
    digitsValueFrom 0 (List.replicate count '0') = 0 := by
  induction count with
  | zero => rfl
  | succ count ih => rwa [List.replicate_succ, digitsValueFrom_cons]

theorem digitsValue_padded (width n : Nat) : digitsValue (padded width n) = n := by
  rw [padded, digitsValue, digitsValueFrom_append, digitsValueFrom_replicate_zero]
  exact digitsValue_decimalDigits n

theorem isDigit_of_mem_padded (mem : c ∈ padded width n) : c.isDigit = true := by
  rcases List.mem_append.mp mem with zero | digit
  · rw [List.eq_of_mem_replicate zero]
    rfl
  · exact isDigit_of_mem_decimalDigits digit

theorem le_length_padded (width n : Nat) : width ≤ (padded width n).length := by
  rw [padded, List.length_append, List.length_replicate]
  omega

theorem length_padded (pos : 0 < width) (fits : n < 10 ^ width) :
    (padded width n).length = width := by
  have short : (decimalDigits n).length ≤ width :=
    (Nat.length_toDigits_le_iff (by decide) pos).mpr fits
  rw [padded, List.length_append, List.length_replicate]
  omega

/-- Reading on can only make a number larger. -/
theorem le_digitsValueFrom (start : Nat) (digits : List Char) :
    start ≤ digitsValueFrom start digits := by
  induction digits generalizing start with
  | nil => exact Nat.le_refl start
  | cons c digits ih =>
    calc start ≤ 10 * start + digitValue c := by omega
      _ ≤ digitsValueFrom (10 * start + digitValue c) digits := ih _
      _ = digitsValueFrom start (c :: digits) := (digitsValueFrom_cons start c digits).symm

/-! ### Where digits end -/

/-- The text does not start with a digit. -/
def EndsDigits (rest : List Char) : Prop :=
  ∀ c ∈ rest.head?, c.isDigit = false

theorem EndsDigits.take (ends : EndsDigits rest) (count : Nat) : EndsDigits (rest.take count) := by
  intro c mem
  rw [List.head?_take] at mem
  split at mem
  · simp at mem
  · exact ends c mem

theorem EndsDigits.takeWhile (ends : EndsDigits rest) (all : ∀ c ∈ digits, c.isDigit = true) :
    (digits ++ rest).takeWhile Char.isDigit = digits := by
  rw [List.takeWhile_append_of_pos all]
  cases rest with
  | nil => exact List.append_nil digits
  | cons c rest => rw [List.takeWhile_cons_of_neg (by simp [ends c rfl]), List.append_nil]

theorem EndsDigits.dropWhile (ends : EndsDigits rest) (all : ∀ c ∈ digits, c.isDigit = true) :
    (digits ++ rest).dropWhile Char.isDigit = rest := by
  rw [List.dropWhile_append_of_pos all]
  cases rest with
  | nil => rfl
  | cons c rest => exact List.dropWhile_cons_of_neg (by simp [ends c rfl])

/-! ### Hexadecimal digits -/

theorem hexValue?_hexDigit {value : Nat} (h : value < 16) :
    hexValue? (hexDigit value) = some value := by
  have all : ∀ value < 16, hexValue? (hexDigit value) = some value := by decide
  exact all value h

end RiskScreen.Text
