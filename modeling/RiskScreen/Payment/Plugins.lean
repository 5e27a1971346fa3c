import RiskScreen.Text.Blank
import RiskScreen.Text.Split

/-!
# Subject plugins

A rejection stops a payment only when the plugin of its payment method is subject to
screening. The subject plugins are a finite set of names, kept in ascending order without
repetition, and configured as a list with commas between the names.
-/

namespace RiskScreen

/-- The names of the plugins that are subject to screening. -/
structure SubjectPlugins where
  names : List String
  deriving DecidableEq, Repr

namespace SubjectPlugins

/-- Puts a name at its place among ascending names, unless it is there already. -/
def insertName (name : String) : List String → List String
  | [] => [name]
  | other :: rest =>
      if name = other then other :: rest
      else if name < other then name :: other :: rest
      else other :: insertName name rest

/-- The set of the listed names. -/
def ofList (names : List String) : SubjectPlugins :=
  ⟨names.foldr insertName []⟩

/-- Whether a plugin of this name is subject to screening. -/
def honors (plugins : SubjectPlugins) (name : String) : Bool :=
  plugins.names.contains name

/-- The items of a list with commas between them, without white space around them and
without the blank ones. -/
def items (text : List Char) : List (List Char) :=
  ((Text.splitOn ',' text).map Text.trim).filter fun item => !item.isEmpty

/-- Reads a list of names with commas between them. -/
def read (text : String) : SubjectPlugins :=
  ofList ((items text.toList).map String.ofList)

theorem mem_insertName {name other : String} {names : List String} :
    other ∈ insertName name names ↔ other = name ∨ other ∈ names := by
  fun_induction insertName name names with
  | case1 => simp
  | case2 rest => simp
  | case3 key rest _ _ => simp
  | case4 key rest _ _ ih => simp [ih, or_left_comm]

theorem mem_names_ofList {name : String} {names : List String} :
    name ∈ (ofList names).names ↔ name ∈ names := by
  unfold ofList
  induction names with
  | nil => simp
  | cons head tail ih => simp only [List.foldr_cons, mem_insertName, ih, List.mem_cons]

theorem honors_ofList {name : String} {names : List String} :
    (ofList names).honors name = true ↔ name ∈ names := by
  simp [honors, mem_names_ofList]

end SubjectPlugins

end RiskScreen
