import RiskScreen.Proofs.Assessment.Effects
import RiskScreen.Proofs.Document.Hollow
import RiskScreen.Proofs.Payload
import RiskScreen.Proofs.Refusal

/-!
# What an assessment lets be seen of the properties

The values of the marked properties go into the payload and nowhere else, and of the other
properties nothing is looked at. Two lists with the same marked keys are built or refused alike.
If the scorer answers both payloads alike, then the decisions, the trails and all steps agree,
save for the payload that the scorer is asked about.
-/

namespace RiskScreen

namespace Property

instance (marker : String) : DecidablePred (IsMarked marker) := fun property =>
  decidable_of_iff ((property.toEntry marker).isSome = true)
    (Option.isSome_iff_exists.trans isMarked_iff.symm)

/-- The marked properties, in their order. -/
def marked (marker : String) (properties : List Property) : List Property :=
  properties.filter (IsMarked marker)

/-- What follows the marker in a key. -/
def pathOfKey (marker : String) (key : Option String) : Option String :=
  key.bind fun key => (afterMarker marker.toList key.toList).map String.ofList

variable (marker : String) (properties : List Property)

theorem path_toEntry (property : Property) :
    (property.toEntry marker).map Entry.path = pathOfKey marker property.key := by
  unfold toEntry pathOfKey
  cases property.key with
  | none => rfl
  | some key =>
    simp only [Option.bind_some]
    cases afterMarker marker.toList key.toList <;> rfl

/-- Properties without the marker have no entries. -/
theorem entries_marked : entries marker (marked marker properties) = entries marker properties := by
  rw [entries, marked, List.filterMap_filter]
  apply List.filterMap_congr
  intro property _
  by_cases h : property.IsMarked marker
  · simp [h]
  · have missing : property.toEntry marker = none := by
      rw [Option.eq_none_iff_forall_ne_some]
      intro entry found
      exact h (isMarked_iff.mpr ⟨entry, found⟩)
    simp [h, missing]

/-- The paths of the entries are those in the marked keys. -/
theorem map_path_entries :
    (entries marker properties).map Entry.path =
      ((marked marker properties).map Property.key).filterMap (pathOfKey marker) := by
  rw [← entries_marked, entries, List.map_filterMap, List.filterMap_map]
  apply List.filterMap_congr
  intro property _
  exact path_toEntry marker property

end Property

open Property (marked)

/-- What can be seen of a step by whoever does not see the payload. -/
def Step.withoutPayload : Step → Step
  | ask scorer _ => ask scorer ""
  | step => step

variable {marker : String} {first second : List Property}

theorem buildPayload_of_refused {properties : List Property} {e : PathError}
    (h : Document.blank.insertAll (Property.entries marker properties) = .error e) :
    buildPayload properties marker = .error (.path e) := by
  rw [buildPayload, h]

theorem exists_buildPayload {properties : List Property} {document : Document}
    (h : Document.blank.insertAll (Property.entries marker properties) = .ok document) :
    ∃ payload, buildPayload properties marker = .ok payload := by
  obtain ⟨payload, rendered⟩ := (Document.holds_blank.insertAll h).2.exists_render
  exact ⟨payload, buildPayload_eq_ok_iff.mpr ⟨document, h, rendered⟩⟩

/-- With the same marked keys, both lists are refused for one reason, or both have a payload. -/
theorem buildPayload_alike
    (same : (marked marker first).map Property.key = (marked marker second).map Property.key) :
    (∃ cause, buildPayload first marker = .error cause ∧
      buildPayload second marker = .error cause) ∨
    ∃ payload other, buildPayload first marker = .ok payload ∧
      buildPayload second marker = .ok other := by
  have paths : (Property.entries marker first).map Entry.path =
      (Property.entries marker second).map Entry.path := by
    rw [Property.map_path_entries, Property.map_path_entries, same]
  have alike := Document.map_hollow_insertAll paths .blank
  cases made : Document.blank.insertAll (Property.entries marker first) with
  | error e =>
    cases otherMade : Document.blank.insertAll (Property.entries marker second) with
    | error e' =>
      rw [made, otherMade] at alike
      obtain rfl : e = e' := Except.error.inj alike
      exact Or.inl ⟨.path e, buildPayload_of_refused made, buildPayload_of_refused otherMade⟩
    | ok other => simp [made, otherMade, Except.map] at alike
  | ok document =>
    cases otherMade : Document.blank.insertAll (Property.entries marker second) with
    | error e => simp [made, otherMade, Except.map] at alike
    | ok other =>
      obtain ⟨payload, built⟩ := exists_buildPayload made
      obtain ⟨otherPayload, otherBuilt⟩ := exists_buildPayload otherMade
      exact Or.inr ⟨payload, otherPayload, built, otherBuilt⟩

namespace Assessment

/-- Two assessments are the same to whoever does not see the payload. -/
structure Indistinct (one other : Assessment) : Prop where
  decision : one.decision = other.decision
  trail : one.trail = other.trail
  events : one.events = other.events
  steps : one.steps.map Step.withoutPayload = other.steps.map Step.withoutPayload

theorem Indistinct.refl (assessment : Assessment) : Indistinct assessment assessment :=
  ⟨rfl, rfl, rfl, rfl⟩

theorem indistinct_ofPayload (config : TenantConfig Scorer) (trail : Trail) (context : Context)
    {payload other : String} (answers : config.scorer.answer payload = config.scorer.answer other) :
    Indistinct (ofPayload config trail context payload) (ofPayload config trail context other) := by
  have said : (config.ask payload).result = (config.ask other).result := by
    simp only [TenantConfig.ask, TenantConfig.consult, answers]
  have step (payload : String) : (config.ask payload).step = .ask config.scorer.name payload := rfl
  refine ⟨?_, ?_, ?_, ?_⟩
  · simp only [ofPayload, said]
  · simp only [ofPayload, said]
  · simp only [ofPayload, said, step, events, List.cons_append, List.filterMap_cons_none]
  · simp only [ofPayload, said, step, List.cons_append, List.map_cons, Step.withoutPayload]

theorem run_indistinct (config : TenantConfig Scorer) (trail : Trail) (context : Context)
    (same : (marked marker first).map Property.key = (marked marker second).map Property.key)
    (answers : ∀ payload other, buildPayload first marker = .ok payload →
      buildPayload second marker = .ok other →
        config.scorer.answer payload = config.scorer.answer other) :
    Indistinct (run marker config trail context first)
      (run marker config trail context second) := by
  obtain ⟨cause, refused, otherRefused⟩ | ⟨payload, other, built, otherBuilt⟩ :=
    buildPayload_alike same
  · rw [run_of_refused marker config trail context first refused,
      run_of_refused marker config trail context second otherRefused]
    exact .refl _
  · rw [run_of_payload marker config trail context first built,
      run_of_payload marker config trail context second otherBuilt]
    exact indistinct_ofPayload config trail context (answers payload other built otherBuilt)

/-- Two lists of properties with the same marked keys, whatever their values are and whatever
else the lists hold. They are refused for the same reason, or both have a payload. If the scorer
answers the payloads alike, the assessments are the same to whoever does not see the payload;
and the payloads are the same if the values of the marked properties are. -/
theorem run_hides_values (marker : String) (first second : List Property)
    (same : (marked marker first).map Property.key = (marked marker second).map Property.key) :
    (∀ cause, buildPayload first marker = .error cause ↔
      buildPayload second marker = .error cause) ∧
    ((∃ payload, buildPayload first marker = .ok payload) ↔
      ∃ payload, buildPayload second marker = .ok payload) ∧
    (∀ config trail context,
      (∀ payload other, buildPayload first marker = .ok payload →
        buildPayload second marker = .ok other →
          config.scorer.answer payload = config.scorer.answer other) →
      Indistinct (run marker config trail context first)
        (run marker config trail context second)) ∧
    (marked marker first = marked marker second →
      buildPayload first marker = buildPayload second marker) := by
  refine ⟨?_, ?_, ?_, ?_⟩
  · intro cause
    obtain ⟨_, refused, otherRefused⟩ | ⟨_, _, built, otherBuilt⟩ := buildPayload_alike same
    · rw [refused, otherRefused]
    · simp [built, otherBuilt]
  · obtain ⟨_, refused, otherRefused⟩ | ⟨_, _, built, otherBuilt⟩ := buildPayload_alike same
    · simp [refused, otherRefused]
    · simp [built, otherBuilt]
  · intro config trail context answers
    exact run_indistinct config trail context same answers
  · intro equal
    rw [buildPayload, buildPayload, ← Property.entries_marked, equal, Property.entries_marked]

/-- A marked property with a value, and one that is not marked. -/
def valued : List Property :=
  [⟨some "x_a", some "1"⟩, ⟨some "b", some "2"⟩]

/-- The same marked property without its value. -/
def unvalued : List Property :=
  [⟨none, some "3"⟩, ⟨some "x_a", none⟩]

theorem run_hides_values_unvalued :
    buildPayload valued "x_" =
      .ok "<transactions><transaction><a>1</a></transaction></transactions>" ∧
    buildPayload unvalued "x_" =
      .ok "<transactions><transaction><a/></transaction></transactions>" ∧
    Indistinct (run "x_" rejecting {} cardPayment valued)
      (run "x_" rejecting {} cardPayment unvalued) := by
  have same : (marked "x_" valued).map Property.key = (marked "x_" unvalued).map Property.key := by
    decide +kernel
  refine ⟨by rfl, by rfl, ?_⟩
  exact (run_hides_values "x_" valued unvalued same).2.2.1 rejecting {} cardPayment
    fun _ _ _ _ => rfl

end Assessment

end RiskScreen
