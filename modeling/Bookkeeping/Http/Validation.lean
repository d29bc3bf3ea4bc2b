import Bookkeeping.Email
import Bookkeeping.Http.Exchange
import Bookkeeping.Http.QueryInteger
import Bookkeeping.Identifier
import Bookkeeping.Json.Printer
import Bookkeeping.Text.Alphabetic
import Bookkeeping.Text.Encoding
import Bookkeeping.Text.Uppercase

/-!
# Validation of requests

Every part of a request is checked, and all complaints are told together in the
order of the parts.  A complaint names the place in the request and what is
wrong there, and quotes what stands there; where that cannot be quoted, nothing is
told at all.
-/

namespace Bookkeeping.Http

/-- What can be wrong with a part of a request. -/
inductive Defect where
  | missing
  | stringType
  | stringTooShort
  | stringTooLong
  | stringUnicode
  | uuidType
  | uuidParsing
  | intParsing
  | intParsingSize
  | valueError
  | jsonInvalid
  | attributesType
deriving DecidableEq

def Defect.name : Defect → String
  | .missing => "missing"
  | .stringType => "string_type"
  | .stringTooShort => "string_too_short"
  | .stringTooLong => "string_too_long"
  | .stringUnicode => "string_unicode"
  | .uuidType => "uuid_type"
  | .uuidParsing => "uuid_parsing"
  | .intParsing => "int_parsing"
  | .intParsingSize => "int_parsing_size"
  | .valueError => "value_error"
  | .jsonInvalid => "json_invalid"
  | .attributesType => "model_attributes_type"

/-- A defect, its place in the request, and what stands there. -/
structure Complaint where
  place : List String
  defect : Defect
  input : Value

def Complaint.record (complaint : Complaint) : Value :=
  .record [("loc", .list (complaint.place.map .text)), ("type", .text complaint.defect.name)]

/-- The response to a request with defects; all that is wrong must be fit to be quoted. -/
def Response.complaints (complaints : List Complaint) : Response :=
  if complaints.all fun complaint => Json.isStrict complaint.input then
    refusal 422 (.list (complaints.map Complaint.record))
  else internalError

/-- The outcome of checking parts of a request. -/
abbrev Checked (Part : Type) := Except (List Complaint) Part

namespace Checked

/-- A single complaint. -/
def refuse {Part : Type} (place : List String) (defect : Defect) (input : Value) :
    Checked Part :=
  .error [⟨place, defect, input⟩]

/-- Two parts that are checked independently; the complaints about both are kept. -/
def both {First Second : Type} (first : Checked First) (second : Checked Second) :
    Checked (First × Second) :=
  match first, second with
  | .ok first, .ok second => .ok (first, second)
  | .ok _, .error complaints => .error complaints
  | .error complaints, .ok _ => .error complaints
  | .error complaints, .error others => .error (complaints ++ others)

end Checked

/-! ## Single parts -/

def identifierText (place : List String) (text : String) : Checked Identifier :=
  match Identifier.ofStrictText? text with
  | some identifier => .ok identifier
  | none => .refuse place .uuidParsing (.text text)

/-- An integer in a query, or a default where the query has none. -/
def integerQuery (query : Option String) (name : String) (absent : Value) : Checked Value :=
  match query with
  | none => .ok absent
  | some text =>
    match queryInteger text with
    | .ok number => .ok (.int number)
    | .error .malformed => .refuse ["query", name] .intParsing (.text text)
    | .error .tooLong => .refuse ["query", name] .intParsingSize (.text text)

/-- A text whose length lies between two bounds; it may not hold a half of a character. -/
def boundedText (place : List String) (least most : Nat) (text : String) : Checked String :=
  if Text.hasHalf text then .refuse place .stringUnicode (.text text)
  else if Text.size text < least then .refuse place .stringTooShort (.text text)
  else if most < Text.size text then .refuse place .stringTooLong (.text text)
  else .ok text

/-- A value that has to be a text. -/
def textValue (place : List String) (least most : Nat) : Value → Checked String
  | .text text => boundedText place least most text
  | value => .refuse place .stringType value

/-! ## Fields of the body -/

/-- The fields of a body. -/
abbrev Fields := List (String × Value)

/-- A field that has to be given. -/
def requiredField {Part : Type}
    (fields : Fields)
    (name : String)
    (check : List String → Value → Checked Part) :
    Checked Part :=
  match Value.field? fields name with
  | none => .refuse ["body", name] .missing (.record fields)
  | some value => check ["body", name] value

/-- A field that may be missing or null. -/
def optionalField {Part : Type}
    (fields : Fields)
    (name : String)
    (check : List String → Value → Checked Part) :
    Checked (Option Part) :=
  match Value.field? fields name with
  | none => .ok none
  | some .null => .ok none
  | some value => (check ["body", name] value).map some

def identifierValue (place : List String) : Value → Checked Identifier
  | .text text => identifierText place text
  | value => .refuse place .uuidType value

def emailValue (place : List String) : Value → Checked String
  | .text text =>
    match if Text.hasHalf text then none else Email.ofText? text with
    | some email => .ok email
    | none => .refuse place .valueError (.text text)
  | value => .refuse place .stringType value

def nameValue (place : List String) (value : Value) : Checked String :=
  textValue place 1 100 value

/-- A currency in a field: three letters, which are put in capitals. -/
def currencyValue (place : List String) (value : Value) : Checked String := do
  let text ← textValue place 3 3 value
  if Text.isAlphabetic text then .ok (Text.upper text)
  else .refuse place .valueError (.text text)

/-- An amount in a field; the ledger reads it itself. -/
def amountValue (place : List String) (value : Value) : Checked String :=
  textValue place 0 32 value

def descriptionValue (place : List String) (value : Value) : Checked String :=
  textValue place 0 255 value

/-! ## The body -/

/-- The mark that may precede a text to tell the order of its bytes. -/
def byteOrderMark : Char := Char.ofNat 0xFEFF

/-- A text without a mark of byte order in front. -/
def withoutMark (text : String) : String :=
  match text.toList with
  | first :: rest => if first = byteOrderMark then String.ofList rest else text
  | [] => text

/-- How deep lists and records may be nested in a body. -/
def deepestBody : Nat := 960

/-- The value of a body, if there is one; a body that cannot be read is answered at once. -/
def bodyValue : Body → Except Response (Option Value)
  | .absent => .ok none
  | .value value => .ok (some value)
  | .text sent =>
    if sent.isEmpty then .ok none
    else
      match Text.received? sent with
      | none => .error .unreadableBody
      | some text =>
        match Json.ofNestedText deepestBody (withoutMark text) with
        | .ok value => .ok (some value)
        | .error .malformed => .error (.complaints [⟨["body"], .jsonInvalid, .null⟩])
        | .error .numberTooLong | .error .tooDeep => .error .unreadableBody

/-- The fields of a body, which has to be a record. -/
def bodyFields : Option Value → Checked Fields
  | none => .refuse ["body"] .missing .null
  | some (.record fields) => .ok fields
  | some value => .refuse ["body"] .attributesType value

end Bookkeeping.Http
