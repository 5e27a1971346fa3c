/-!
# Payment properties

The caller sends a payment with a list of properties. Those whose key starts with a marker
are meant for the scorer; what follows the marker is the path of the value.
-/

namespace RiskScreen

/-- A key and a value, each of which may be absent. -/
structure Property where
  key : Option String
  value : Option String
  deriving DecidableEq, Repr, Inhabited

/-- A value meant for the scorer, and the path it goes to. -/
structure Entry where
  path : String
  value : Option String
  deriving DecidableEq, Repr

namespace Property

/-- The property with this key. -/
def new (key : String) (value : Option String) : Property :=
  ⟨some key, value⟩

/-- What follows `marker` in `text`, if `text` starts with it. -/
def afterMarker : List Char → List Char → Option (List Char)
  | [], text => some text
  | _ :: _, [] => none
  | m :: marker, c :: text => if m = c then afterMarker marker text else none

/-- The entry of a property whose key starts with `marker`. -/
def toEntry (marker : String) (property : Property) : Option Entry :=
  match property.key with
  | none => none
  | some key =>
      match afterMarker marker.toList key.toList with
      | none => none
      | some path => some ⟨String.ofList path, property.value⟩

/-- The entries of a list of properties, in the order of the list. -/
def entries (marker : String) (properties : List Property) : List Entry :=
  properties.filterMap (toEntry marker)

theorem afterMarker_eq_some_iff {marker text rest : List Char} :
    afterMarker marker text = some rest ↔ text = marker ++ rest := by
  induction marker generalizing text with
  | nil => simp [afterMarker]
  | cons m marker ih =>
      cases text with
      | nil => simp [afterMarker]
      | cons c text =>
          by_cases h : m = c
          · subst h
            simp [afterMarker, ih]
          · simp [afterMarker, h, Ne.symm h]

theorem entries_append (marker : String) (front back : List Property) :
    entries marker (front ++ back) = entries marker front ++ entries marker back := by
  simp [entries]

end Property

end RiskScreen
