/-!
# Faults of JSON input

Why a text gives no value of the wanted type. A text is malformed, or cut short, or it is
JSON of another shape; the last comes with a description where a field or a choice is named.
-/

namespace RiskScreen

/-- Why a text is not JSON. -/
inductive TextFault where
  /-- It goes on in a way no JSON text does. -/
  | malformed
  /-- It ends too early. -/
  | cut
  deriving DecidableEq, Repr

/-- Why a text gives no value of the wanted type. -/
inductive ReadFault where
  /-- The text is not JSON. -/
  | notJson (cause : TextFault)
  /-- The text is JSON of another shape. -/
  | wrongShape
  | missingField (name : String)
  | duplicateField (name : String)
  | unknownVariant (name : String) (expected : List String)
  deriving DecidableEq, Repr

/-- The names in backquotes, with commas between them. -/
def backquotedList : List String → String
  | [] => ""
  | [name] => "`" ++ name ++ "`"
  | name :: rest => "`" ++ name ++ "`, " ++ backquotedList rest

/-- The description of a fault that names a field or a choice. -/
def ReadFault.description? : ReadFault → Option String
  | notJson _ => none
  | wrongShape => none
  | missingField name => some ("missing field `" ++ name ++ "`")
  | duplicateField name => some ("duplicate field `" ++ name ++ "`")
  | unknownVariant name expected =>
      some ("unknown variant `" ++ name ++ "`, expected one of " ++ backquotedList expected)

end RiskScreen
