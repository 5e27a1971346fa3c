import Mathlib.Data.List.Forall2
import Mathlib.Data.List.Nodup
import RiskScreen.Json.Decode
import RiskScreen.Proofs.Json.Written

/-!
# Records are read back

A record that was written as an object is read field by field, if its members have different names
and every field takes the value of its member. Other members may follow: they belong to no field
and are passed over.

Conversely, what was read of a text was read of its parts, and a whole number that was read fits 64
bits with a sign.

## Implementation notes

`Reads` says what a reader makes of a written value. A record is read by showing it for the value
of each field, and then going through the fields in the order in which they are asked for
(`need_bind`, `opt_bind`).
-/

namespace RiskScreen.Json

open Draft

/-- The reader takes the value from this written form. -/
def Reads {α : Type} (reader : Reader α) (json : Json) (value : α) : Prop :=
  reader (ofJson json) = .ok value

variable {α β : Type} {reader : Reader α} {json : Json} {value : α}

/-- What is read from a written form is read from its text. -/
theorem Reads.decode (reads : Reads reader json value) : decode reader json.render = .ok value := by
  rw [Json.decode, render, String.toList_ofList, draft_write]
  simp only
  rw [reads]
  rfl

/-! ### Single values -/

theorem reads_text (s : String) : Reads readText (.text s) s := rfl

theorem reads_bool (b : Bool) : Reads readBool (.bool b) b := rfl

theorem reads_null (reader : Reader α) : Reads (readOption reader) .null none := rfl

/-- What is not null is read as it is where null is possible. -/
theorem Reads.some (reads : Reads reader json value) (present : json ≠ .null) :
    Reads (readOption reader) json (some value) := by
  unfold Reads at reads ⊢
  cases json with
  | null => exact absurd rfl present
  | bool b => rw [readOption, reads]; exact nofun
  | number n => rw [readOption, reads]; exact nofun
  | text s => rw [readOption, reads]; exact nofun
  | array items => rw [readOption, reads]; exact nofun
  | object members => rw [readOption, reads]; exact nofun

theorem reads_ofOption (s : Option String) : Reads (readOption readText) (ofOption s) s := by
  cases s with
  | none => exact reads_null readText
  | some s => exact (reads_text s).some nofun

theorem reads_parsed {parse : List Char → Option α} {s : String}
    (parsed : parse s.toList = some value) : Reads (readParsed parse) (.text s) value := by
  change orWrongShape (parse s.toList) = .ok value
  rw [parsed, orWrongShape]

/-- A whole number that fits 64 bits with a sign is read as it was written. -/
theorem reads_integer {n : Int} (low : -9223372036854775808 ≤ n) (high : n < 9223372036854775808) :
    Reads readInteger (.number n) n := by
  change readInteger (.number (Numeral.ofInt n)) = .ok n
  simp only [readInteger, Numeral.value, Numeral.ofInt, Text.digitsValue_decimalDigits]
  by_cases negative : n < 0
  · have fits : (1 ≤ n.natAbs && n.natAbs ≤ 9223372036854775808) = true := by
      rw [Bool.and_eq_true, decide_eq_true_eq, decide_eq_true_eq]
      omega
    simp only [decide_eq_true negative, fits, if_true]
    exact congrArg Except.ok (by omega)
  · have word : n.natAbs ≤ Text.maxWord64 := by
      rw [Text.maxWord64]
      omega
    have fits : n.natAbs < 9223372036854775808 := by omega
    simp only [decide_eq_false negative, Bool.false_eq_true, if_false, word, if_true, fits]
    exact congrArg Except.ok (by omega)

/-- A list is read item by item. -/
theorem reads_list {items : List β} {toJson : β → Json} {read : β → α}
    (reads : ∀ item ∈ items, Reads reader (toJson item) (read item)) :
    Reads (readList reader) (.array (items.map toJson)) (items.map read) := by
  change readItems reader .closed (ofItems (items.map toJson)) = .ok (items.map read)
  induction items with
  | nil => rfl
  | cons item items ih =>
    obtain ⟨first, others⟩ := List.forall_mem_cons.mp reads
    rw [List.map_cons, ofItems, readItems, first, ih others, List.map_cons]

/-! ### Records -/

/-- The field is that of the member, and takes its value. -/
def Field.Takes (known : Field) (member : String × Json) : Prop :=
  known.name = member.1 ∧ known.accepts (ofJson member.2) = .ok ()

theorem Reads.takes (reads : Reads reader json value) (name : String) :
    (field name reader).Takes (name, json) := by
  refine ⟨rfl, ?_⟩
  change (reader (ofJson json)).map _ = .ok ()
  rw [reads]
  rfl

theorem Reads.takes_withDefault (reads : Reads reader json value) (name : String) :
    (fieldWithDefault name reader).Takes (name, json) :=
  reads.takes name

variable {fields : List Field} {members all : List (String × Json)}

/-- The value of a member that belongs to no field is passed over. -/
theorem collectMembers_of_unknown {seen : Record} {member : String × Json}
    (unknown : fields.find? (fun known => known.name = member.1) = none) :
    collectMembers fields .closed seen (ofMembers (member :: members)) =
      collectMembers fields .closed seen (ofMembers members) := by
  have named : readText (.text (.ok member.1)) = .ok member.1 := rfl
  simp only [ofMembers, collectMembers, named, unknown, skip_ofJson]

/-- A member that a field takes is kept with its name. -/
theorem collectMembers_of_takes {seen : Record} {member : String × Json} {known : Field}
    (found : fields.find? (fun known => known.name = member.1) = some known)
    (unseen : seen.lookup member.1 = none) (accepts : known.accepts (ofJson member.2) = .ok ()) :
    collectMembers fields .closed seen (ofMembers (member :: members)) =
      collectMembers fields .closed ((member.1, ofJson member.2) :: seen) (ofMembers members) := by
  have named : readText (.text (.ok member.1)) = .ok member.1 := rfl
  simp only [ofMembers, collectMembers, named, found, unseen, accepts, Option.isSome_none,
    Bool.false_eq_true, if_false]

/-- Going through the members of an object keeps what was read before it, and adds the members that
belong to a field. -/
theorem exists_collectMembers (seen : Record) (distinct : (members.map Prod.fst).Nodup)
    (unseen : ∀ member ∈ members, seen.lookup member.1 = none)
    (accepted : ∀ member ∈ members, ∀ known ∈ fields, known.name = member.1 →
      known.accepts (ofJson member.2) = .ok ()) :
    ∃ record, collectMembers fields .closed seen (ofMembers members) = .ok record ∧
      (∀ name draft, seen.lookup name = some draft → record.lookup name = some draft) ∧
      ∀ member ∈ members, (∃ known ∈ fields, known.name = member.1) →
        record.lookup member.1 = some (ofJson member.2) := by
  induction members generalizing seen with
  | nil => exact ⟨seen, rfl, fun _ _ found => found, List.forall_mem_nil _⟩
  | cons member members ih =>
    obtain ⟨fresh, distinct⟩ := List.nodup_cons.mp distinct
    obtain ⟨unseenFirst, unseen⟩ := List.forall_mem_cons.mp unseen
    obtain ⟨acceptedFirst, accepted⟩ := List.forall_mem_cons.mp accepted
    cases found : fields.find? fun known => known.name = member.1 with
    | none =>
      obtain ⟨record, collected, keeps, adds⟩ := ih seen distinct unseen accepted
      refine ⟨record, (collectMembers_of_unknown found).trans collected, keeps,
        List.forall_mem_cons.mpr ⟨?_, adds⟩⟩
      rintro ⟨known, mem, named⟩
      have unknown := List.find?_eq_none.mp found known mem
      simp [named] at unknown
    | some known =>
      have named : known.name = member.1 := by simpa using List.find?_some found
      have accepts := acceptedFirst known (List.mem_of_find?_eq_some found) named
      have other (key : String) (ne : key ≠ member.1) :
          List.lookup key ((member.1, ofJson member.2) :: seen) = seen.lookup key := by
        rw [List.lookup_cons, beq_eq_false_iff_ne.mpr ne]
      have unseenNext : ∀ later ∈ members,
          List.lookup later.1 ((member.1, ofJson member.2) :: seen) = none := by
        intro later mem
        rw [other later.1 fun same => fresh (List.mem_map.mpr ⟨later, mem, same⟩)]
        exact unseen later mem
      obtain ⟨record, collected, keeps, adds⟩ := ih _ distinct unseenNext accepted
      refine ⟨record, (collectMembers_of_takes found unseenFirst accepts).trans collected, ?_,
        List.forall_mem_cons.mpr ⟨fun _ => ?_, adds⟩⟩
      · intro key draft there
        apply keeps
        rw [other key fun same => by simp [same, unseenFirst] at there]
        exact there
      · apply keeps
        rw [List.lookup_cons, beq_self_eq_true]

/-- Whatever stands in a list is paired with something in the other one. -/
theorem exists_of_forall₂ {γ δ : Type} {R : γ → δ → Prop} {front : List γ} {back : List δ}
    (pairs : List.Forall₂ R front back) {first : γ} (mem : first ∈ front) :
    ∃ second ∈ back, R first second := by
  induction pairs with
  | nil => simp at mem
  | @cons _ second _ _ related _ ih =>
    rcases List.mem_cons.mp mem with rfl | mem
    · exact ⟨second, List.mem_cons_self, related⟩
    · obtain ⟨other, otherMem, found⟩ := ih mem
      exact ⟨other, List.mem_cons_of_mem second otherMem, found⟩

/-- A record that is among the members of a written object is read, and holds the member of every
field. -/
theorem exists_record (takes : List.Forall₂ Field.Takes fields members) (among : members ⊆ all)
    (distinct : (all.map Prod.fst).Nodup) :
    ∃ record, readRecord fields (ofJson (.object all)) = .ok record ∧
      ∀ member ∈ members, record.lookup member.1 = some (ofJson member.2) := by
  -- A member with the name of a field is the one that the field takes.
  have same : ∀ member ∈ all, ∀ known ∈ fields, known.name = member.1 →
      known.Takes member := by
    intro member mem known knownMem named
    obtain ⟨other, otherMem, found⟩ := exists_of_forall₂ takes knownMem
    have equal : other = member := List.inj_on_of_nodup_map distinct (among otherMem) mem
      (found.1.symm.trans named)
    exact equal ▸ found
  obtain ⟨record, collected, _, adds⟩ := exists_collectMembers [] distinct (fun _ _ => rfl)
    fun member mem known knownMem named => (same member mem known knownMem named).2
  refine ⟨record, collected, ?_⟩
  intro member mem
  obtain ⟨known, knownMem, found⟩ := exists_of_forall₂ takes.flip mem
  exact adds member (among mem) ⟨known, knownMem, found.1⟩

/-- A record is read if its fields can be put together from their members. -/
theorem reads_record_among {ofRecord : Record → Except ReadFault α}
    (takes : List.Forall₂ Field.Takes fields members) (among : members ⊆ all)
    (distinct : (all.map Prod.fst).Nodup)
    (made : ∀ record : Record, (∀ member ∈ members,
      record.lookup member.1 = some (ofJson member.2)) → ofRecord record = .ok value) :
    Reads (fun draft => readRecord fields draft >>= ofRecord) (.object all) value := by
  obtain ⟨record, collected, holds⟩ := exists_record takes among distinct
  calc (readRecord fields (ofJson (.object all)) >>= ofRecord)
      = (Except.ok record >>= ofRecord) := by rw [collected]
    _ = ofRecord record := rfl
    _ = .ok value := made record holds

/-- Fields take members of their own names. -/
theorem names_of_takes (takes : List.Forall₂ Field.Takes fields members) :
    fields.map Field.name = members.map Prod.fst := by
  rw [← List.forall₂_eq_eq_eq, List.forall₂_map_left_iff, List.forall₂_map_right_iff]
  exact takes.imp fun _ _ found => found.1

/-- A record is read from its members alone if its fields have different names. -/
theorem reads_record {ofRecord : Record → Except ReadFault α}
    (takes : List.Forall₂ Field.Takes fields members) (distinct : (fields.map Field.name).Nodup)
    (made : ∀ record : Record, (∀ member ∈ members,
      record.lookup member.1 = some (ofJson member.2)) → ofRecord record = .ok value) :
    Reads (fun draft => readRecord fields draft >>= ofRecord) (.object members) value :=
  reads_record_among takes (List.Subset.refl members) (names_of_takes takes ▸ distinct) made

/-! ### Fields of a record -/

variable {record : Record} {name : String}

/-- A field that has to be there is read from its member. -/
theorem need_bind (found : record.lookup name = some (ofJson json))
    (reads : Reads reader json value) (next : α → Except ReadFault β) :
    (record.need name reader >>= next) = next value := by
  rw [Record.need, found]
  simp only
  rw [reads]
  rfl

/-- A field that may be null is read from its member, null or not. -/
theorem opt_bind {held : Option α} (found : record.lookup name = some (ofJson json))
    (reads : Reads (readOption reader) json held) (next : Option α → Except ReadFault β) :
    (record.opt name reader >>= next) = next held := by
  rw [Record.opt, Record.getD, found]
  simp only
  rw [reads]
  rfl

/-! ### What was read -/

theorem bind_eq_ok_iff {ε : Type} {first : Except ε α} {next : α → Except ε β} {last : β} :
    (first >>= next) = .ok last ↔ ∃ value, first = .ok value ∧ next value = .ok last := by
  constructor
  · intro h
    cases first with
    | error cause => contradiction
    | ok value => exact ⟨value, rfl, h⟩
  · rintro ⟨value, rfl, h⟩
    exact h

theorem exists_of_decode {text : String} (h : decode reader text = .ok value) :
    ∃ draft, reader draft = .ok value := by
  refine ⟨(draft text.toList).1, ?_⟩
  rw [decode] at h
  split at h
  · contradiction
  · rename_i found read
    split at h
    · rw [read, h]
    · contradiction

theorem exists_of_need (h : record.need name reader = .ok value) :
    ∃ draft, reader draft = .ok value := by
  rw [Record.need] at h
  split at h
  · exact ⟨_, h⟩
  · contradiction

theorem Numeral.le_of_value_eq_negative {numeral : Numeral} {n : Nat}
    (h : numeral.value = some (.negative n)) : n ≤ 9223372036854775808 := by
  have real (same : numeral.real = some (.negative n)) : n ≤ 9223372036854775808 := by
    obtain ⟨_, _, other⟩ := Option.map_eq_some_iff.mp same
    contradiction
  unfold Numeral.value at h
  split at h
  · dsimp only at h
    split at h
    · split at h
      · rename_i fits
        obtain rfl := Number.negative.inj (Option.some.inj h)
        rw [Bool.and_eq_true, decide_eq_true_eq, decide_eq_true_eq] at fits
        exact fits.2
      · exact real h
    · split at h
      · cases Option.some.inj h
      · exact real h
  · exact real h

/-- A whole number that is read fits 64 bits with a sign. -/
theorem readInteger_bounds {draft : Draft} {n : Int} (h : readInteger draft = .ok n) :
    -9223372036854775808 ≤ n ∧ n < 9223372036854775808 := by
  unfold readInteger at h
  split at h
  · split at h
    · contradiction
    · split at h
      · obtain rfl := Except.ok.inj h
        omega
      · contradiction
    · rename_i found
      have le := Numeral.le_of_value_eq_negative found
      obtain rfl := Except.ok.inj h
      omega
    · contradiction
  · contradiction

end RiskScreen.Json
