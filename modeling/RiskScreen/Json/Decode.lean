import RiskScreen.Json.Draft
import RiskScreen.Number.Decimal
import RiskScreen.Timestamp
import RiskScreen.Uuid

/-!
# Values from JSON

Readers take a value of a wanted type out of a draft. A record is an object whose members may
come in any order, or an array of the fields in their order. The first fault in the order of
the text is reported; fields that are missing are found at the end, in the order of the
fields.
-/

namespace RiskScreen.Json

/-- A reader of values. -/
abbrev Reader (α : Type) := Draft → Except ReadFault α

/-- The fault of a value of another shape than the one that is wanted. A number or a text is
read before it is refused. -/
def Draft.mismatch : Draft → ReadFault
  | .number numeral => if numeral.value.isNone then .notJson .malformed else .wrongShape
  | .text (.error fault) => .notJson fault
  | .broken place => .notJson place.reading
  | _ => .wrongShape

/-- The value a partial function gives, if it gives one. -/
def orWrongShape {α : Type} : Option α → Except ReadFault α
  | some value => .ok value
  | none => .error .wrongShape

/-- A text. -/
def readText : Reader String
  | .text (.ok s) => .ok s
  | other => .error other.mismatch

/-- A truth value. -/
def readBool : Reader Bool
  | .bool b => .ok b
  | other => .error other.mismatch

/-- Null, or a value. -/
def readOption {α : Type} (reader : Reader α) : Reader (Option α)
  | .null => .ok none
  | other =>
      match reader other with
      | .error e => .error e
      | .ok value => .ok (some value)

/-- A natural number up to `limit`. -/
def readNatural (limit : Nat) : Reader Nat
  | .number numeral =>
      match numeral.value with
      | none => .error (.notJson .malformed)
      | some (.natural n) => if n ≤ limit then .ok n else .error .wrongShape
      | some _ => .error .wrongShape
  | other => .error other.mismatch

/-- A whole number that fits 64 bits with a sign. -/
def readInteger : Reader Int
  | .number numeral =>
      match numeral.value with
      | none => .error (.notJson .malformed)
      | some (.natural n) => if n < 9223372036854775808 then .ok n else .error .wrongShape
      | some (.negative n) => .ok (-(n : Int))
      | some (.real _ _) => .error .wrongShape
  | other => .error other.mismatch

/-- A value given by its text. -/
def readParsed {α : Type} (parse : List Char → Option α) : Reader α
  | .text (.ok s) => orWrongShape (parse s.toList)
  | other => .error other.mismatch

/-- An identifier. -/
def readUuid : Reader Uuid :=
  readParsed Uuid.read

/-- A point in time. -/
def readTimestamp : Reader Timestamp :=
  readParsed Timestamp.read

/-- The amount of a number: whole numbers exactly, others by their shortest decimal. -/
def Number.amount : Number → Option Decimal
  | .natural n => Decimal.ofWord false n
  | .negative n => Decimal.ofWord true n
  | .real isNegative magnitude =>
      let digits := magnitude.shortest.plain
      Decimal.read (if isNegative then '-' :: digits else digits)

/-- An amount, as a text or as a number. -/
def readAmount : Reader Decimal
  | .text (.ok s) => orWrongShape (Decimal.read s.toList)
  | .number numeral =>
      match numeral.value with
      | none => .error (.notJson .malformed)
      | some value => orWrongShape value.amount
  | other => .error other.mismatch

/-- The choice with this name. -/
def choose {α : Type} (choices : List (String × α)) (name : String) : Except ReadFault α :=
  match choices.lookup name with
  | some choice => .ok choice
  | none => .error (.unknownVariant name (choices.map Prod.fst))

/-- The end of a record that is one of several choices. -/
def closeChoice {α : Type} (choice : α) (others : List (Draft × Draft)) :
    Ending → Except ReadFault α
  | .closed => if others.isEmpty then .ok choice else .error (.notJson .malformed)
  | .broken cause => .error (.notJson (if others.isEmpty then cause else .malformed))

/-- One of several named choices: its name, or an object with null under its name. -/
def readChoice {α : Type} (choices : List (String × α)) : Reader α
  | .text (.ok name) => choose choices name
  | .text (.error fault) => .error (.notJson fault)
  | .broken place => .error (.notJson place.reading)
  | .object ((name, value) :: others) ending =>
      match readText name with
      | .error e => .error e
      | .ok name =>
          match choose choices name with
          | .error e => .error e
          | .ok choice =>
              match value with
              | .null => closeChoice choice others ending
              | other => .error other.mismatch
  | _ => .error (.notJson .malformed)

/-! ### Lists -/

/-- The items of a list, up to its end. -/
def readItems {α : Type} (reader : Reader α) (ending : Ending) :
    List Draft → Except ReadFault (List α)
  | [] =>
      match ending with
      | .closed => .ok []
      | .broken cause => .error (.notJson cause)
  | item :: items =>
      match reader item with
      | .error e => .error e
      | .ok value =>
          match readItems reader ending items with
          | .error e => .error e
          | .ok values => .ok (value :: values)

/-- A list. -/
def readList {α : Type} (reader : Reader α) : Reader (List α)
  | .array items ending => readItems reader ending items
  | other => .error other.mismatch

/-! ### Records -/

/-- What is known of a field before a record is read. -/
structure Field where
  name : String
  /-- Whether the field reads a value. -/
  accepts : Draft → Except ReadFault Unit
  /-- Whether the record may end before this field when it is written as an array. -/
  mayEnd : Bool

/-- The field with this name and reader. -/
def field {α : Type} (name : String) (reader : Reader α) : Field :=
  ⟨name, fun value => (reader value).map fun _ => (), false⟩

/-- The field with this name and reader, which has a default. -/
def fieldWithDefault {α : Type} (name : String) (reader : Reader α) : Field :=
  { field name reader with mayEnd := true }

/-- The fields that were read, by name. -/
abbrev Record := List (String × Draft)

/-- Goes through the members of an object. A known field may come once and has to read; the
value of an unknown one is passed over. -/
def collectMembers (fields : List Field) (ending : Ending) (seen : Record) :
    List (Draft × Draft) → Except ReadFault Record
  | [] =>
      match ending with
      | .closed => .ok seen
      | .broken cause => .error (.notJson cause)
  | (name, value) :: members =>
      match readText name with
      | .error e => .error e
      | .ok name =>
          match fields.find? fun known => known.name = name with
          | none =>
              match value.skip with
              | some fault => .error (.notJson fault)
              | none => collectMembers fields ending seen members
          | some known =>
              if (seen.lookup name).isSome then .error (.duplicateField name)
              else
                match known.accepts value with
                | .error e => .error e
                | .ok () => collectMembers fields ending ((name, value) :: seen) members

/-- Goes through the items of an array, one for each field. -/
def collectItems (ending : Ending) : List Field → List Draft → Except ReadFault Record
  | [], [] =>
      match ending with
      | .closed => .ok []
      | .broken cause => .error (.notJson cause)
  | [], _ :: _ => .error (.notJson .malformed)
  | known :: fields, [] =>
      match ending with
      | .broken cause => .error (.notJson cause)
      | .closed => if known.mayEnd then collectItems ending fields [] else .error .wrongShape
  | known :: fields, item :: items =>
      match known.accepts item with
      | .error e => .error e
      | .ok () =>
          match collectItems ending fields items with
          | .error e => .error e
          | .ok record => .ok ((known.name, item) :: record)

/-- The fields of a record. -/
def readRecord (fields : List Field) : Reader Record
  | .object members ending => collectMembers fields ending [] members
  | .array items ending => collectItems ending fields items
  | other => .error other.mismatch

/-- The value of a field that has to be there. -/
def Record.need {α : Type} (record : Record) (name : String) (reader : Reader α) :
    Except ReadFault α :=
  match record.lookup name with
  | some value => reader value
  | none => .error (.missingField name)

/-- The value of a field, or a default. -/
def Record.getD {α : Type} (record : Record) (name : String) (reader : Reader α)
    (default : α) : Except ReadFault α :=
  match record.lookup name with
  | some value => reader value
  | none => .ok default

/-- The value of a field that may be null or missing. -/
def Record.opt {α : Type} (record : Record) (name : String) (reader : Reader α) :
    Except ReadFault (Option α) :=
  record.getD name (readOption reader) none

/-! ### Whole texts -/

/-- Reads the value at the front of a text; what follows it does not matter. -/
def decodeFront {α : Type} (reader : Reader α) (text : String) : Except ReadFault α :=
  reader (draft text.toList).1

/-- Reads a text that is one value. -/
def decode {α : Type} (reader : Reader α) (text : String) : Except ReadFault α :=
  match reader (draft text.toList).1 with
  | .error e => .error e
  | .ok value =>
      if (draft text.toList).2.isEmpty then .ok value else .error (.notJson .malformed)

end RiskScreen.Json
