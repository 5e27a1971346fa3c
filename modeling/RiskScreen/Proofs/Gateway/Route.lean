import RiskScreen.Gateway.Route
import RiskScreen.Proofs.Text.Split

/-!
# The paths of the resources

Assessments, outcomes and scorers have one form of path each. Whatever else comes after
`/admin/tenants/` names no resource.
-/

namespace RiskScreen.Gateway.Route

/-- The path with these pieces, each after a slash. -/
def pathOf (pieces : List String) : List Char :=
  pieces.flatMap fun piece => '/' :: piece.toList

/-- The path of assessments. -/
def assessmentsPath : List Char := pathOf ["payments", "assessments"]

/-- The path of the outcomes of the payment that `piece` stands for. -/
def outcomesPath (piece : List Char) : List Char :=
  pathOf ["payments", String.ofList piece, "assessments"]

/-- The path of the scorer of the tenant that `piece` stands for. -/
def scorerPath (piece : List Char) : List Char :=
  pathOf ["admin", "tenants", String.ofList piece, "scorer"]

variable {path piece : List Char} {pieces : List String} {route : Route}

theorem toList_eq_iff_of_ne_empty {text : String} (h : text ≠ "") :
    text.toList = piece ↔ piece ≠ [] ∧ text = String.ofList piece := by
  constructor
  · rintro rfl
    exact ⟨mt String.toList_eq_nil_iff.mp h, by simp⟩
  · rintro ⟨-, rfl⟩
    simp

theorem ofPieces_eq_assessments_iff :
    ofPieces pieces = assessments ↔ pieces = ["payments", "assessments"] := by
  fun_cases ofPieces pieces <;> simp_all

theorem ofPieces_eq_outcomes_iff :
    ofPieces pieces = outcomes piece ↔
      piece ≠ [] ∧ pieces = ["payments", String.ofList piece, "assessments"] := by
  fun_cases ofPieces pieces <;> simp_all [toList_eq_iff_of_ne_empty]

theorem ofPieces_eq_tenantScorer_iff :
    ofPieces pieces = tenantScorer piece ↔
      piece ≠ [] ∧ pieces = ["admin", "tenants", String.ofList piece, "scorer"] := by
  fun_cases ofPieces pieces <;> simp_all [toList_eq_iff_of_ne_empty]

theorem intercalate_eq_pathOf (pieces : List String) :
    ['/'].intercalate ([] :: pieces.map String.toList) = pathOf pieces := by
  cases pieces with
  | nil => rfl
  | cons piece pieces =>
    rw [List.map_cons, List.intercalate_cons_cons, List.nil_append, List.singleton_append]
    induction pieces generalizing piece with
    | nil => simp [pathOf]
    | cons next pieces ih =>
      rw [List.map_cons, List.intercalate_cons_cons, List.append_assoc, List.singleton_append, ih]
      simp [pathOf]

/-- A path names a known resource by what stands between its slashes. -/
theorem ofPath_eq_iff (known : route ≠ unknown) :
    ofPath path = route ↔
      ∃ pieces, ofPieces pieces = route ∧ (∀ piece ∈ pieces, '/' ∉ piece.toList) ∧
        path = pathOf pieces := by
  constructor
  · intro h
    unfold ofPath at h
    split at h
    · rename_i pieces split
      obtain ⟨-, free, rfl⟩ := Text.splitOn_eq_iff.mp split
      have unchanged : (pieces.map String.ofList).map String.toList = pieces := by simp
      refine ⟨pieces.map String.ofList, h, ?_, ?_⟩
      · intro piece mem
        apply free piece.toList
        rw [← unchanged]
        exact List.mem_cons_of_mem [] (List.mem_map_of_mem mem)
      · rw [← intercalate_eq_pathOf, unchanged]
    · exact absurd h.symm known
  · rintro ⟨pieces, named, free, rfl⟩
    have split : Text.splitOn '/' (pathOf pieces) = [] :: pieces.map String.toList := by
      refine Text.splitOn_eq_iff.mpr ⟨List.cons_ne_nil _ _, ?_, intercalate_eq_pathOf pieces⟩
      exact List.forall_mem_cons.mpr ⟨List.not_mem_nil, List.forall_mem_map.mpr free⟩
    simp [ofPath, split, named]

theorem ofPath_eq_assessments_iff : ofPath path = assessments ↔ path = assessmentsPath := by
  rw [ofPath_eq_iff (by simp)]
  constructor
  · rintro ⟨pieces, named, -, rfl⟩
    rw [ofPieces_eq_assessments_iff.mp named]
    rfl
  · rintro rfl
    exact ⟨["payments", "assessments"], rfl, by decide, rfl⟩

theorem ofPath_eq_outcomes_iff :
    ofPath path = outcomes piece ↔ piece ≠ [] ∧ '/' ∉ piece ∧ path = outcomesPath piece := by
  rw [ofPath_eq_iff (by simp)]
  simp only [ofPieces_eq_outcomes_iff]
  constructor
  · rintro ⟨_, ⟨nonempty, rfl⟩, free, rfl⟩
    exact ⟨nonempty, by simpa using free, rfl⟩
  · rintro ⟨nonempty, free, rfl⟩
    exact ⟨_, ⟨nonempty, rfl⟩, by simpa using free, rfl⟩

theorem ofPath_eq_tenantScorer_iff :
    ofPath path = tenantScorer piece ↔ piece ≠ [] ∧ '/' ∉ piece ∧ path = scorerPath piece := by
  rw [ofPath_eq_iff (by simp)]
  simp only [ofPieces_eq_tenantScorer_iff]
  constructor
  · rintro ⟨_, ⟨nonempty, rfl⟩, free, rfl⟩
    exact ⟨nonempty, by simpa using free, rfl⟩
  · rintro ⟨nonempty, free, rfl⟩
    exact ⟨_, ⟨nonempty, rfl⟩, by simpa using free, rfl⟩

/-- Where a scorer would be, there is one, or nothing at all. -/
theorem ofPath_scorerPath (piece : List Char) :
    ofPath (scorerPath piece) = tenantScorer piece ∨ ofPath (scorerPath piece) = unknown := by
  by_cases known : ofPath (scorerPath piece) = unknown
  · exact Or.inr known
  · left
    obtain ⟨pieces, named, -, same⟩ := (ofPath_eq_iff known).mp rfl
    -- No other resource has a path that starts with this letter.
    have letter : (pathOf pieces)[1]? = some 'a' := by
      rw [← same]
      rfl
    rw [← named] at known ⊢
    fun_cases ofPieces pieces
    all_goals simp_all [pathOf, ofPieces, scorerPath]

end RiskScreen.Gateway.Route
