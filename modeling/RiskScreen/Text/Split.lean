/-!
# Splitting a text

`splitOn` cuts at one character, `splitArrow` at the two characters `->`. Both keep empty
pieces, so a text always has at least one piece and joining the pieces gives it back.
-/

namespace RiskScreen.Text

/-- Puts `c` in front of the first piece. -/
def consFirst (c : Char) : List (List Char) → List (List Char)
  | [] => [[c]]
  | piece :: pieces => (c :: piece) :: pieces

/-- The pieces between successive occurrences of `mark`. -/
def splitOn (mark : Char) : List Char → List (List Char)
  | [] => [[]]
  | c :: rest => if c = mark then [] :: splitOn mark rest else consFirst c (splitOn mark rest)

/-- The pieces between successive occurrences of `->`, found from the left. -/
def splitArrow : List Char → List (List Char)
  | [] => [[]]
  | '-' :: '>' :: rest => [] :: splitArrow rest
  | c :: rest => consFirst c (splitArrow rest)

theorem consFirst_ne_nil (c : Char) (pieces : List (List Char)) : consFirst c pieces ≠ [] := by
  cases pieces <;> simp [consFirst]

theorem splitOn_ne_nil (mark : Char) (text : List Char) : splitOn mark text ≠ [] := by
  cases text with
  | nil => simp [splitOn]
  | cons c rest =>
      by_cases h : c = mark
      · simp [splitOn, h]
      · simpa [splitOn, h] using consFirst_ne_nil c (splitOn mark rest)

theorem splitArrow_ne_nil (text : List Char) : splitArrow text ≠ [] := by
  fun_cases splitArrow text with
  | case1 => simp
  | case2 rest => simp
  | case3 c rest _ => exact consFirst_ne_nil c (splitArrow rest)

end RiskScreen.Text
