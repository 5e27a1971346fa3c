import RiskScreen.Text.Alphabetic
import RiskScreen.Text.Numeric

/-!
# Element names

A name starts with an alphabetic character or an underscore and goes on with alphabetic or
numeric characters, `_`, `-` and `.`. A colon never occurs, so names carry no namespace.
-/

namespace RiskScreen.Path

/-- Whether a name may start with `c`. -/
def isNameStart (c : Char) : Bool :=
  Text.isAlphabetic c || c = '_'

/-- Whether a name may go on with `c`. -/
def isNamePart (c : Char) : Bool :=
  Text.isAlphabetic c || Text.isNumeric c || c = '_' || c = '-' || c = '.'

/-- Whether the characters form an element name. -/
def isNameText : List Char → Bool
  | [] => false
  | first :: rest => isNameStart first && rest.all isNamePart

/-- Whether `name` is an element name. -/
def isElementName (name : String) : Bool :=
  isNameText name.toList

theorem isNamePart_of_isNameStart {c : Char} (h : isNameStart c = true) :
    isNamePart c = true := by
  simp only [isNameStart, isNamePart, Bool.or_eq_true] at h ⊢
  rcases h with h | h <;> simp [h]

theorem isNameText_cons (first : Char) (rest : List Char) :
    isNameText (first :: rest) = (isNameStart first && rest.all isNamePart) := rfl

theorem ne_nil_of_isNameText {text : List Char} (h : isNameText text = true) : text ≠ [] := by
  rintro rfl
  simp [isNameText] at h

theorem isNamePart_of_mem {text : List Char} (h : isNameText text = true) {c : Char}
    (mem : c ∈ text) : isNamePart c = true := by
  cases text with
  | nil => simp at mem
  | cons first rest =>
    rw [isNameText_cons, Bool.and_eq_true, List.all_eq_true] at h
    rcases List.mem_cons.mp mem with rfl | mem
    · exact isNamePart_of_isNameStart h.1
    · exact h.2 c mem

end RiskScreen.Path
