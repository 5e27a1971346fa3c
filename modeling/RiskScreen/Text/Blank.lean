import RiskScreen.Text.Ranges

/-!
# White space and trimming

The Unicode property White_Space, and the text left when it is taken off the ends. Markup and
JSON have a narrower notion, the four characters of `isPlainSpace`.
-/

namespace RiskScreen.Text

/-- The code points with the property White_Space. -/
def blankRanges : Ranges :=
  [(0x9, 0xD), (0x20, 0x20), (0x85, 0x85), (0xA0, 0xA0), (0x1680, 0x1680), (0x2000, 0x200A),
    (0x2028, 0x2029), (0x202F, 0x202F), (0x205F, 0x205F), (0x3000, 0x3000)]

/-- Whether `c` is white space. -/
def isBlank (c : Char) : Bool :=
  blankRanges.contains c

/-- Space, tab, carriage return and line feed. -/
def isPlainSpace (c : Char) : Bool :=
  c = ' ' || c = '\t' || c = '\r' || c = '\n'

/-- The text without the characters at its end that satisfy `skip`. -/
def dropEndWhile (skip : Char → Bool) (text : List Char) : List Char :=
  (text.reverse.dropWhile skip).reverse

/-- The text without the characters at both ends that satisfy `skip`. -/
def trimBoth (skip : Char → Bool) (text : List Char) : List Char :=
  dropEndWhile skip (text.dropWhile skip)

/-- The text without white space at its ends. -/
def trim (text : List Char) : List Char :=
  trimBoth isBlank text

/-- The text without the four plain spaces at its ends. -/
def trimPlain (text : List Char) : List Char :=
  trimBoth isPlainSpace text

theorem trim_nil : trim [] = [] := rfl

theorem isBlank_of_isPlainSpace {c : Char} (h : isPlainSpace c = true) :
    isBlank c = true := by
  simp only [isPlainSpace, Bool.or_eq_true, decide_eq_true_eq] at h
  rcases h with ((rfl | rfl) | rfl) | rfl <;> decide

end RiskScreen.Text
