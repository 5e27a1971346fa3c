import RiskScreen.Proofs.Json.Record
import RiskScreen.Proofs.Number.Decimal
import RiskScreen.Proofs.Timestamp.Written
import RiskScreen.Proofs.Uuid
import RiskScreen.Wire.Outcome

/-!
# What is written can be read

Contexts, properties, verdicts, decisions and outcomes are read from their text as they were
written, except that a zero loses its sign. An item of a listing is read as the outcome that is
listed, with the flag beside it.

## Implementation notes

For each record, the fields take the values of their members, in the order of both
(`exists_record`). What is read is then the record with the fields put together, one after
another.
-/

namespace RiskScreen

open Json

/-- The context without the sign that a zero amount may have. -/
def Context.unsignedZero (context : Context) : Context :=
  { context with amount := context.amount.unsignedZero }

/-- The decision without the sign that a zero amount may have. -/
def Decision.unsignedZero (decision : Decision) : Decision :=
  { decision with context := decision.context.unsignedZero }

/-- The outcome without the sign that a zero amount may have. -/
def Outcome.unsignedZero (outcome : Outcome) : Outcome :=
  { outcome with amount := outcome.amount.unsignedZero }

/-- Reads the flag that stands beside an outcome in a listing. -/
def Outcome.readFlag : Reader Bool := fun draft =>
  readRecord [field "recommends_rejection" readBool] draft >>= fun record =>
    record.need "recommends_rejection" readBool

/-- The number of the row has 64 bits with a sign, and its time is one that there is. -/
structure Outcome.Readable (outcome : Outcome) : Prop where
  recordId_ge : -9223372036854775808 ≤ outcome.recordId
  recordId_lt : outcome.recordId < 9223372036854775808
  createdAt : outcome.createdAt.Proper

namespace Json

/-! ### Parts of records -/

theorem reads_uuid (id : Uuid) : Reads readUuid id.toJson id :=
  reads_parsed id.read_text

theorem reads_optionalUuid (id : Option Uuid) :
    Reads (readOption readUuid) (ofOption (id.map Uuid.text)) id := by
  cases id with
  | none => exact reads_null readUuid
  | some id => exact (reads_uuid id).some nofun

theorem reads_timestamp {t : Timestamp} (proper : t.Proper) :
    Reads readTimestamp (.text t.text) t :=
  reads_parsed (Timestamp.read_text proper)

theorem reads_amount (amount : Decimal) :
    Reads readAmount (.text amount.text) amount.unsignedZero := by
  change orWrongShape (Decimal.read amount.text.toList) = .ok amount.unsignedZero
  rw [amount.read_text, orWrongShape]

theorem reads_transactionType (type : TransactionType) :
    Reads TransactionType.read type.toJson type := by
  change choose TransactionType.named type.name = .ok type
  have named : TransactionType.named.lookup type.name = some type := type.ofName?_name
  rw [choose, named]

end Json

/-! ### Records -/

theorem Property.reads (property : Property) : Reads read property.toJson property := by
  have takes : List.Forall₂ Field.Takes fields _ :=
    .cons ((reads_ofOption property.key).takes "key")
      (.cons ((reads_ofOption property.value).takes "value") .nil)
  apply reads_record takes (by decide)
  intro record holds
  simp only [List.forall_mem_cons] at holds
  obtain ⟨key, value, _⟩ := holds
  rw [ofRecord, opt_bind key (reads_ofOption _), opt_bind value (reads_ofOption _)]
  rfl

theorem Verdict.reads (verdict : Verdict) : Reads read verdict.toJson verdict := by
  have takes : List.Forall₂ Field.Takes fields _ :=
    .cons ((reads_ofOption verdict.transactionId).takes "transaction_id")
      (.cons ((reads_ofOption verdict.crossReference).takes "cross_reference")
      (.cons ((reads_ofOption verdict.rulesTripped).takes "rules_tripped")
      (.cons ((reads_ofOption verdict.totalScore).takes "total_score")
      (.cons ((reads_ofOption verdict.recommendationCode).takes "recommendation_code")
      (.cons ((reads_ofOption verdict.remarks).takes "remarks")
      (.cons ((reads_ofOption verdict.responseData).takes "response_data") .nil))))))
  apply reads_record takes (by decide)
  intro record holds
  simp only [List.forall_mem_cons] at holds
  obtain ⟨transactionId, crossReference, rulesTripped, totalScore, recommendationCode, remarks,
    responseData, _⟩ := holds
  rw [ofRecord, opt_bind transactionId (reads_ofOption _),
    opt_bind crossReference (reads_ofOption _), opt_bind rulesTripped (reads_ofOption _),
    opt_bind totalScore (reads_ofOption _), opt_bind recommendationCode (reads_ofOption _),
    opt_bind remarks (reads_ofOption _), opt_bind responseData (reads_ofOption _)]
  rfl

theorem Context.reads (context : Context) : Reads read context.toJson context.unsignedZero := by
  have takes : List.Forall₂ Field.Takes fields _ :=
    .cons ((reads_uuid context.accountId).takes "account_id")
      (.cons ((reads_text context.paymentExternalKey).takes "payment_external_key")
      (.cons ((reads_text context.transactionExternalKey).takes "transaction_external_key")
      (.cons ((reads_optionalUuid context.transactionId).takes_withDefault "transaction_id")
      (.cons ((reads_transactionType context.transactionType).takes "transaction_type")
      (.cons ((reads_amount context.amount).takes "amount")
      (.cons ((reads_text context.currency).takes "currency")
      (.cons ((reads_uuid context.paymentMethodId).takes "payment_method_id")
      (.cons ((reads_ofOption context.paymentMethodPluginName).takes_withDefault
        "payment_method_plugin_name")
      (.cons ((reads_uuid context.tenantId).takes "tenant_id") .nil)))))))))
  apply reads_record takes (by decide)
  intro record holds
  simp only [List.forall_mem_cons] at holds
  obtain ⟨accountId, paymentExternalKey, transactionExternalKey, transactionId, transactionType,
    amount, currency, paymentMethodId, paymentMethodPluginName, tenantId, _⟩ := holds
  rw [ofRecord, need_bind accountId (reads_uuid _), need_bind paymentExternalKey (reads_text _),
    need_bind transactionExternalKey (reads_text _), opt_bind transactionId (reads_optionalUuid _),
    need_bind transactionType (reads_transactionType _), need_bind amount (reads_amount _),
    need_bind currency (reads_text _), need_bind paymentMethodId (reads_uuid _),
    opt_bind paymentMethodPluginName (reads_ofOption _), need_bind tenantId (reads_uuid _)]
  rfl

theorem Decision.reads (decision : Decision) :
    Reads read decision.toJson decision.unsignedZero := by
  have takes : List.Forall₂ Field.Takes fields _ :=
    .cons ((reads_bool decision.abortPayment).takes "abort_payment")
      (.cons ((reads_bool decision.shouldReject).takes "should_reject")
      (.cons ((reads_bool decision.shouldHonor).takes "should_honor")
      (.cons ((reads_ofOption decision.recommendationCode).takes "recommendation_code")
      (.cons (decision.context.reads.takes "context") .nil))))
  apply reads_record takes (by decide)
  intro record holds
  simp only [List.forall_mem_cons] at holds
  obtain ⟨abortPayment, shouldReject, shouldHonor, recommendationCode, context, _⟩ := holds
  rw [ofRecord, need_bind abortPayment (reads_bool _), need_bind shouldReject (reads_bool _),
    need_bind shouldHonor (reads_bool _), opt_bind recommendationCode (reads_ofOption _),
    need_bind context (Context.reads _)]
  rfl

namespace Outcome

theorem reads_verdict (verdict : Option Verdict) :
    Reads (readOption Verdict.read) ((verdict.map Verdict.toJson).getD .null) verdict := by
  cases verdict with
  | none => exact reads_null Verdict.read
  | some verdict => exact verdict.reads.some nofun

variable {outcome : Outcome}

/-- The fields of an outcome take its members. -/
theorem Readable.takes (readable : outcome.Readable) :
    List.Forall₂ Field.Takes fields outcome.members :=
  .cons ((reads_integer readable.recordId_ge readable.recordId_lt).takes "record_id")
    (.cons ((reads_uuid outcome.accountId).takes "account_id")
    (.cons ((reads_text outcome.paymentExternalKey).takes "payment_external_key")
    (.cons ((reads_text outcome.transactionExternalKey).takes "transaction_external_key")
    (.cons ((reads_transactionType outcome.transactionType).takes "transaction_type")
    (.cons ((reads_amount outcome.amount).takes "amount")
    (.cons ((reads_text outcome.currency).takes "currency")
    (.cons ((reads_verdict outcome.verdict).takes "verdict")
    (.cons ((reads_timestamp readable.createdAt).takes "created_at")
    (.cons ((reads_uuid outcome.tenantId).takes "tenant_id") .nil)))))))))

/-- An outcome is put together from its members. -/
theorem Readable.ofRecord_eq (readable : outcome.Readable) {record : Record}
    (holds : ∀ member ∈ outcome.members,
      record.lookup member.1 = some (Draft.ofJson member.2)) :
    ofRecord record = .ok outcome.unsignedZero := by
  simp only [members, List.forall_mem_cons] at holds
  obtain ⟨recordId, accountId, paymentExternalKey, transactionExternalKey, transactionType, amount,
    currency, verdict, createdAt, tenantId, _⟩ := holds
  rw [ofRecord, need_bind recordId (reads_integer readable.recordId_ge readable.recordId_lt),
    need_bind accountId (reads_uuid _), need_bind paymentExternalKey (reads_text _),
    need_bind transactionExternalKey (reads_text _),
    need_bind transactionType (reads_transactionType _), need_bind amount (reads_amount _),
    need_bind currency (reads_text _), opt_bind verdict (reads_verdict _),
    need_bind createdAt (reads_timestamp readable.createdAt), need_bind tenantId (reads_uuid _)]
  rfl

theorem Readable.reads (readable : outcome.Readable) :
    Reads read outcome.toJson outcome.unsignedZero :=
  reads_record readable.takes (by decide) fun _ => readable.ofRecord_eq

/-- The flag of an item in a listing has a name of its own. -/
theorem nodup_listing (outcome : Outcome) :
    ((outcome.members ++ [("recommends_rejection", Json.bool outcome.recommendsRejection)]).map
      Prod.fst).Nodup :=
  (by decide : (fields.map Field.name ++ ["recommends_rejection"]).Nodup)

/-- An item of a listing is read as the outcome; the flag is passed over. -/
theorem Readable.reads_listing (readable : outcome.Readable) :
    Reads read outcome.toListingJson outcome.unsignedZero :=
  reads_record_among readable.takes (List.subset_append_left _ _) (nodup_listing outcome) fun _ =>
    readable.ofRecord_eq

theorem reads_flag (outcome : Outcome) :
    Reads readFlag outcome.toListingJson outcome.unsignedZero.recommendsRejection := by
  have takes : List.Forall₂ Field.Takes [field "recommends_rejection" readBool] _ :=
    .cons ((reads_bool outcome.recommendsRejection).takes "recommends_rejection") .nil
  apply reads_record_among takes (List.subset_append_right _ _) (nodup_listing outcome)
  intro record holds
  have flag := holds _ List.mem_cons_self
  rw [Record.need, flag]
  rfl

/-! ### Listings -/

theorem reads_listings {outcomes : List Outcome}
    (readable : ∀ outcome ∈ outcomes, outcome.Readable) :
    Reads (readList read) (.array (outcomes.map toListingJson)) (outcomes.map unsignedZero) :=
  reads_list fun outcome mem => (readable outcome mem).reads_listing

theorem reads_flags (outcomes : List Outcome) :
    Reads (readList readFlag) (.array (outcomes.map toListingJson))
      (outcomes.map fun outcome => outcome.unsignedZero.recommendsRejection) :=
  reads_list fun outcome _ => outcome.reads_flag

/-! ### What is read is in range -/

theorem proper_of_readTimestamp {draft : Draft} {t : Timestamp}
    (h : readTimestamp draft = .ok t) : t.Proper := by
  unfold readTimestamp readParsed orWrongShape at h
  split at h
  · split at h
    · rename_i parsed
      obtain rfl := Except.ok.inj h
      exact Timestamp.proper_read parsed
    · contradiction
  · contradiction

/-- What is read as an outcome can be read back after it is written. -/
theorem readable_of_read {draft : Draft} (h : read draft = .ok outcome) : outcome.Readable := by
  obtain ⟨record, -, made⟩ := bind_eq_ok_iff.mp h
  simp only [ofRecord, bind_eq_ok_iff] at made
  obtain ⟨recordId, recordIdRead, _, -, _, -, _, -, _, -, _, -, _, -, _, -, createdAt,
    createdAtRead, _, -, made⟩ := made
  obtain ⟨_, integer⟩ := exists_of_need recordIdRead
  obtain ⟨_, timestamp⟩ := exists_of_need createdAtRead
  obtain ⟨low, high⟩ := readInteger_bounds integer
  obtain rfl := Except.ok.inj made
  exact ⟨low, high, proper_of_readTimestamp timestamp⟩

end Outcome

/-- Contexts, properties, verdicts, decisions and outcomes are read from their texts as they are,
but for the sign of a zero. An item of a listing, and a whole listing, is read as what was listed;
and the flag that is printed beside an outcome is that of the outcome which is read. Of outcomes
this holds as far as their numbers and times are in range, and all that are read are. -/
theorem decode_render :
    (∀ context : Context, decode Context.read context.toJson.render = .ok context.unsignedZero) ∧
    (∀ property : Property, decode Property.read property.toJson.render = .ok property) ∧
    (∀ verdict : Verdict, decode Verdict.read verdict.toJson.render = .ok verdict) ∧
    (∀ decision : Decision,
      decode Decision.read decision.toJson.render = .ok decision.unsignedZero) ∧
    (∀ outcome : Outcome, outcome.Readable →
      decode Outcome.read outcome.toJson.render = .ok outcome.unsignedZero ∧
      decode Outcome.read outcome.toListingJson.render = .ok outcome.unsignedZero ∧
      decode Outcome.readFlag outcome.toListingJson.render =
        .ok outcome.unsignedZero.recommendsRejection) ∧
    (∀ outcomes : List Outcome, (∀ outcome ∈ outcomes, outcome.Readable) →
      decode (readList Outcome.read) (Json.array (outcomes.map Outcome.toListingJson)).render =
        .ok (outcomes.map Outcome.unsignedZero) ∧
      decode (readList Outcome.readFlag) (Json.array (outcomes.map Outcome.toListingJson)).render =
        .ok (outcomes.map fun outcome => outcome.unsignedZero.recommendsRejection)) ∧
    ∀ text outcome, decode Outcome.read text = .ok outcome → outcome.Readable := by
  refine ⟨?_, ?_, ?_, ?_, ?_, ?_, ?_⟩
  · exact fun context => context.reads.decode
  · exact fun property => property.reads.decode
  · exact fun verdict => verdict.reads.decode
  · exact fun decision => decision.reads.decode
  · intro outcome readable
    exact ⟨readable.reads.decode, readable.reads_listing.decode, outcome.reads_flag.decode⟩
  · intro outcomes readable
    exact ⟨(Outcome.reads_listings readable).decode, (Outcome.reads_flags outcomes).decode⟩
  · intro text outcome decoded
    obtain ⟨draft, read⟩ := exists_of_decode decoded
    exact Outcome.readable_of_read read

/-- An outcome of some amount, with an inserted second and a key of characters that are written as
escapes and of others that are not. -/
def leapOutcome (amount : Decimal) : Outcome where
  recordId := -9223372036854775808
  accountId := ⟨255, by decide⟩
  paymentExternalKey := "\"\\\x01\t/é𐀀"
  transactionExternalKey := ""
  transactionType := .chargeback
  amount := amount
  currency := "EUR"
  verdict := some { recommendationCode := some "REJECT" }
  createdAt := ⟨⟨0, 2, 29⟩, 23, 59, 59, 1000000010⟩
  tenantId := ⟨0, by decide⟩

theorem decode_render_leap :
    let outcome := leapOutcome ⟨true, 0, 3, by decide, by decide⟩
    outcome.Readable ∧ outcome.amount.text = "-0.000" ∧
      outcome.createdAt.text = "0000-02-29T23:59:60.000000010Z" ∧
      (Json.text outcome.paymentExternalKey).render = "\"\\\"\\\\\\u0001\\t/é𐀀\"" ∧
      decode Outcome.read outcome.toListingJson.render =
        .ok (leapOutcome ⟨false, 0, 3, by decide, by decide⟩) ∧
      decode Outcome.readFlag outcome.toListingJson.render = .ok true := by
  have date : Date.Proper ⟨0, 2, 29⟩ := ⟨by decide, by decide, by decide, by decide⟩
  have proper : Timestamp.Proper ⟨⟨0, 2, 29⟩, 23, 59, 59, 1000000010⟩ :=
    ⟨date, by decide, by decide, by decide, by decide, by decide, by decide, fun _ => rfl⟩
  have amount : Decimal.text ⟨true, 0, 3, by decide, by decide⟩ = "-0.000" := by rfl
  have createdAt : Timestamp.text ⟨⟨0, 2, 29⟩, 23, 59, 59, 1000000010⟩ =
      "0000-02-29T23:59:60.000000010Z" := by rfl
  have key : (Json.text "\"\\\x01\t/é𐀀").render = "\"\\\"\\\\\\u0001\\t/é𐀀\"" := by rfl
  intro outcome
  have readable : outcome.Readable := ⟨by decide, by decide, proper⟩
  obtain ⟨_, listed, flag⟩ := decode_render.2.2.2.2.1 outcome readable
  exact ⟨readable, amount, createdAt, key, listed, flag⟩

end RiskScreen
