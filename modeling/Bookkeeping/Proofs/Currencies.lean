import Bookkeeping.Proofs.Capitals
import Bookkeeping.Proofs.Funding
import Bookkeeping.Proofs.Routes

/-!
# Currencies of accounts that clients open

A request to open an account may name a currency by three letters.  They are put in capitals
where the request is checked, and once more where the account is opened.  The account has this
currency and is shown with it.

Capitals are counted by nobody.  Where one of the letters has a capital form of several
characters, the currency of the account has more than three.
-/

namespace Bookkeeping

open Session

/-! ## Fields that are shown as they are kept -/

namespace Value

variable {name : String} {form : String × Value → String × Value}

theorem lookup_map
    (names : ∀ field, (form field).1 = field.1)
    (same : ∀ field, field.1 = name → form field = field)
    (fields : List (String × Value)) :
    (fields.map form).lookup name = fields.lookup name := by
  induction fields with
  | nil => rfl
  | cons field rest hypothesis =>
      by_cases here : field.1 = name
      · rw [List.map_cons, same field here, ← here, List.lookup_cons_self, List.lookup_cons_self]
      · have elsewhere : (name == field.1) = false := beq_eq_false_iff_ne.mpr (Ne.symm here)
        rw [List.map_cons, List.lookup_cons, List.lookup_cons, names field, elsewhere]
        exact hypothesis

/-- A change of other fields leaves the value of a field as it is. -/
theorem field?_map
    (names : ∀ field, (form field).1 = field.1)
    (same : ∀ field, field.1 = name → form field = field)
    (fields : List (String × Value)) :
    field? (fields.map form) name = field? fields name := by
  rw [field?, field?, ← List.map_reverse, lookup_map names same]

end Value

/-- No row that the session inserted shows a field as it was given. -/
def Session.ShowsKept (name : String) (session : Session) : Prop :=
  ∀ mention ∈ session.given, ∀ field ∈ mention.2, field.1 ≠ name

theorem Seen.field?_overlaid
    {given : List (String × Value)}
    {name : String}
    (kept : ∀ field ∈ given, field.1 ≠ name)
    (fields : List (String × Value)) :
    Value.field? (overlaid given fields) name = Value.field? fields name := by
  have absent : given.lookup name = none :=
    List.lookup_eq_none_iff.mpr fun field member => bne_iff_ne.mpr (Ne.symm (kept field member))
  rw [overlaid]
  refine Value.field?_map ?_ ?_ fields
  · intro field
    rfl
  · rintro ⟨here, value⟩ rfl
    simp only [absent, Option.getD_none]

namespace Work

variable {before after : Session} {name : String}

theorem make_showsKept
    {kind : Identifier.Kind}
    {made : Identifier × Timestamp}
    (other : name ≠ "created_at")
    (shows : before.ShowsKept name)
    (making : make kind before = .ok made after) :
    after.ShowsKept name := by
  have timed : ∀ field ∈ givenTime before.desk.bank.sources, field.1 ≠ name := by
    intro field member
    rw [givenTime] at member
    split at member
    · cases member
    · rw [List.mem_singleton.mp member]
      exact other.symm
  rw [make] at making
  simp only at making
  split at making
  · cases making
    intro mention member
    simp only at member
    split at member
    · exact shows mention member
    · rcases List.mem_append.mp member with old | new
      · exact shows mention old
      · rw [List.mem_singleton.mp new]
        exact timed
  · cases making

theorem keepGiven_texts (id : Identifier) (title currency : String) (session : Session) :
    keepGiven id [("name", .text title), ("currency", .text currency)] session = .ok () session :=
  rfl

theorem remember_given
    {account shown : Account}
    (remembered : remember account before = .ok shown after) :
    after.given = before.given := by
  rw [remember] at remembered
  split at remembered
  · cases remembered
    rfl
  · cases remembered
    rfl

theorem openAccount_showsKept
    {title currency : String}
    {owner : Option Identifier}
    {isSystem : Bool}
    {account : Account}
    (other : name ≠ "created_at")
    (shows : before.ShowsKept name)
    (opened : openAccount (.text title) (.text currency) owner isSystem before = .ok account after) :
    after.ShowsKept name := by
  rcases sequence_ok_iff.mp opened with ⟨⟨id, time⟩, first, making, rest⟩
  rcases sequence_ok_iff.mp rest with ⟨row, second, inserted, rest⟩
  rcases sequence_ok_iff.mp rest with ⟨⟨⟩, third, kept, remembered⟩
  have made := make_showsKept other shows making
  rcases insert_ok (insertBetween_ok inserted) with ⟨-, -, -, middle, tables, -, -, rfl⟩
  rw [keepGiven_texts] at kept
  cases kept
  rw [ShowsKept, remember_given remembered]
  exact made

end Work

namespace Service

open Work

theorem currencyOf_text
    {policy : Policy}
    {currency : String}
    (something : currency ≠ "") :
    currencyOf policy (.text currency) = .ok (Text.upper currency) := by
  have given : (Value.text currency).isTruthy = true := by
    simpa [Value.isTruthy] using something
  rw [currencyOf, if_pos given]

/-- An account that is opened by texts is shown in each of its fields as it is kept. -/
theorem openingAccount_shows
    {barred : Bool}
    {desk : Desk}
    {session final : Session}
    {owner : Identifier}
    {title name : String}
    {given : Value}
    {seen : Seen Account}
    (fresh : Fresh barred desk session)
    (other : name ≠ "created_at")
    (opening : openingAccount owner (.text title) given session = .ok seen final) :
    ∀ field ∈ seen.given, field.1 ≠ name := by
  rcases sequence_ok_iff.mp opening with ⟨user, first, found, rest⟩
  rcases sequence_ok_iff.mp rest with ⟨policy, second, ⟨⟩, rest⟩
  rcases sequence_ok_iff.mp rest with ⟨currency, third, converting, rest⟩
  rcases sequence_ok_iff.mp rest with ⟨account, fourth, opened, ⟨⟩⟩
  rcases ofExcept_ok_iff.mp converting with ⟨-, rfl⟩
  rcases sequence_ok_iff.mp found with ⟨tables, looking, viewed, present⟩
  rcases view_ok viewed with ⟨-, -, rfl, -⟩
  rcases orFail_ok_iff.mp present with ⟨-, rfl⟩
  have nothing : ShowsKept name { session with pending := some session.tables } := by
    intro mention member
    simp [fresh.given] at member
  have shows := openAccount_showsKept other nothing opened
  intro field member
  rcases List.mem_flatMap.mp member with ⟨mention, listed, inside⟩
  exact shows mention (List.mem_filter.mp listed).1 field inside

end Service

/-! ## The request -/

namespace Http

theorem both_ok_iff
    {First Second : Type}
    {first : Checked First}
    {second : Checked Second}
    {parts : First × Second} :
    first.both second = .ok parts ↔ first = .ok parts.1 ∧ second = .ok parts.2 := by
  rcases parts with ⟨one, other⟩
  cases first <;> cases second <;> simp [Checked.both]

/-- Letters are code points of their own, and so they are counted one by one. -/
theorem size_of_isAlphabetic {text : String} (letters : Text.isAlphabetic text = true) :
    Text.size text = text.length := by
  have all := (Bool.and_eq_true_iff.mp letters).2
  have unmarked : Text.escapeMark ∉ text.toList := by
    intro member
    have letter := List.all_eq_true.mp all _ member
    exact absurd letter (by decide +kernel)
  rw [Text.size, Text.points_of_unmarked unmarked, List.length_map, String.length_toList]

/-- A currency that is accepted is three letters, and answered in capitals. -/
theorem currencyValue_ok
    {place : List String}
    {text currency : String}
    (accepted : currencyValue place (.text text) = .ok currency) :
    text.length = 3 ∧ Text.isAlphabetic text = true ∧ currency = Text.upper text := by
  rcases attempt_ok_iff.mp accepted with ⟨checked, bounded, capitals⟩
  rw [textValue, boundedText] at bounded
  split at bounded
  · cases bounded
  · split at bounded
    · cases bounded
    · split at bounded
      · cases bounded
      · cases bounded
        split at capitals
        · rename_i letters
          cases capitals
          rw [size_of_isAlphabetic letters] at *
          exact ⟨by omega, letters, rfl⟩
        · cases capitals

/-- A request that names a currency opens an account in that currency, in capitals. -/
theorem accountCall_ok
    {fields : Fields}
    {text : String}
    {call : Call}
    (given : Value.field? fields "currency" = some (.text text))
    (accepted : accountCall fields = .ok call) :
    text.length = 3 ∧
      ∃ owner name, call = .openAccount owner (.text name) (.text (Text.upper text)) := by
  rcases attempt_ok_iff.mp accepted with ⟨⟨⟨owner, name⟩, currency⟩, checked, made⟩
  rcases both_ok_iff.mp checked with ⟨-, chosen⟩
  rw [optionalField, given] at chosen
  rcases checked_map_ok chosen with ⟨capitals, accepted, rfl⟩
  rcases currencyValue_ok accepted with ⟨three, -, rfl⟩
  cases made
  exact ⟨three, owner, name, rfl⟩

/-- The task of a request to open an account. -/
theorem task_of_opening
    {request : Request}
    {fields : Fields}
    (writes : request.method.toUpper = "POST")
    (names : Resource.ofPath? request.path = some .accounts)
    (sends : bodyValue request.body = .ok (some (.record fields))) :
    request.task = taskOf (accountCall fields) := by
  rw [Request.task, names]
  simp only [writes, writingCall, sends]
  rfl

end Http

/-! ## The responses -/

theorem NoticeKind.status_ne_created (kind : NoticeKind) : kind.status ≠ 201 := by
  cases kind <;> decide

namespace Http

variable {surroundings : Surroundings} {desk later : Desk} {call : Call} {response : Response}

theorem status_complaints_ne_created (complaints : List Complaint) :
    (Response.complaints complaints).status ≠ 201 := by
  rw [Response.complaints]
  split
  · change 422 ≠ 201
    decide
  · decide

theorem status_seenBy (response : Response) (request : Request) :
    (response.seenBy request).status = response.status := by
  rw [Response.seenBy]
  split <;> rfl

/-- Only a call that succeeded is answered that something was made. -/
theorem serveCall_created
    (served : serveCall surroundings call desk = .ok response later)
    (created : response.status = 201) :
    ∃ reply,
      call.perform surroundings desk = .ok reply later ∧
        response.body = replyBody call reply := by
  rw [serveCall] at served
  cases performed : call.perform surroundings desk with
  | ok reply last =>
      rw [performed] at served
      cases served
      exact ⟨reply, rfl, rfl⟩
  | error failure last =>
      rw [performed] at served
      cases served
      rw [failureResponse] at created
      split at created
      · rename_i notice _
        split at created
        · exact absurd created notice.kind.status_ne_created
        · cases created
      · cases created

/-- The time at which a row was made is all that a response puts in another form. -/
theorem rowBody_record (fields : List (String × Value)) :
    ∃ shown,
      rowBody (.record fields) = .record shown ∧
        ∀ name, name ≠ "created_at" → Value.field? shown name = Value.field? fields name := by
  refine ⟨_, rfl, ?_⟩
  intro name other
  refine Value.field?_map ?_ ?_ fields
  · rintro ⟨here, value⟩
    simp only
    split <;> simp_all
  · rintro ⟨here, value⟩ rfl
    simp only
    split
    · exact absurd rfl other
    · rfl

/-- A new account is answered with its currency. -/
theorem currency_of_reply
    {seen : Seen Account}
    (kept : ∀ field ∈ seen.given, field.1 ≠ "currency") :
    ∃ shown,
      rowBody (seen.record Account.record) = .record shown ∧
        Value.field? shown "currency" = some (.text seen.row.currency) := by
  rcases rowBody_record (Seen.overlaid seen.given _) with ⟨shown, same, fields⟩
  refine ⟨shown, same, ?_⟩
  rw [fields "currency" (by decide), Seen.field?_overlaid kept]
  rfl

/-- A request that is answered by an account that was made has opened it in capitals. -/
theorem opening_of_created
    {request : Request}
    {fields : Fields}
    {text : String}
    (writes : request.method.toUpper = "POST")
    (names : Resource.ofPath? request.path = some .accounts)
    (sends : bodyValue request.body = .ok (some (.record fields)))
    (given : Value.field? fields "currency" = some (.text text))
    (served : serve surroundings request desk = .ok response later)
    (created : response.status = 201) :
    text.length = 3 ∧
      ∃ owner name seen,
        Service.openAccount surroundings owner (.text name) (.text (Text.upper text)) desk =
            .ok seen later ∧
          response.body = rowBody (seen.record Account.record) := by
  rw [serve, task_of_opening writes names sends] at served
  cases accepted : accountCall fields with
  | error complaints =>
      rw [accepted] at served
      rcases pure_ok_iff.mp served with ⟨rfl, -⟩
      rw [status_seenBy] at created
      exact absurd created (status_complaints_ne_created complaints)
  | ok call =>
      rw [accepted] at served
      rcases accountCall_ok given accepted with ⟨three, owner, name, rfl⟩
      rcases serveCall_created served created with ⟨reply, performed, body⟩
      rcases map_ok_iff.mp performed with ⟨seen, answered, rfl⟩
      exact ⟨three, owner, name, seen, answered, body⟩

/--
An account that is opened over HTTP in a currency of its own is appended to the accounts, and
answered with its currency.  This is the text that was sent, in capitals, and putting it in
capitals once more changes nothing.  The text has three characters; the currency has at least
three and at most nine, and exactly three only if each character has a single capital.
-/
theorem currency_of_opened
    {request : Request}
    {fields : Fields}
    {text : String}
    (writes : request.method.toUpper = "POST")
    (names : Resource.ofPath? request.path = some .accounts)
    (sends : bodyValue request.body = .ok (some (.record fields)))
    (given : Value.field? fields "currency" = some (.text text))
    (served : serve surroundings request desk = .ok response later)
    (created : response.status = 201) :
    ∃ account shown,
      later.bank.tables.accounts = desk.bank.tables.accounts ++ [account] ∧
        response.body = .record shown ∧
        Value.field? shown "currency" = some (.text account.currency) ∧
        account.currency = Text.upper text ∧
        Text.upper account.currency = account.currency ∧
        text.length = 3 ∧
        3 ≤ account.currency.length ∧
        account.currency.length ≤ 9 ∧
        (account.currency.length = 3 ↔
          ∀ character ∈ text.toList, (Text.upperCharacter character).length = 1) := by
  rcases opening_of_created writes names sends given served created with
    ⟨three, owner, name, seen, answered, body⟩
  rcases Service.openAccount_appends answered with ⟨appended, session, final, fresh, opening⟩
  rcases Service.openingAccount_opens fresh opening with ⟨currency, -, -, -, -⟩
  rcases currency_of_reply (Service.openingAccount_shows fresh (by decide) opening) with
    ⟨shown, sameBody, shownCurrency⟩
  rcases Text.length_upper text with ⟨least, most, singles⟩
  have something : Text.upper text ≠ "" := by
    intro nothing
    rw [nothing, three] at least
    cases least
  have same : seen.row.currency = Text.upper text := by
    rw [Service.currencyOf_text something, Text.upper_upper] at currency
    exact (Except.ok.inj currency).symm
  refine ⟨seen.row, shown, by rw [appended]; rfl, body.trans sameBody, shownCurrency, same, ?_,
    three, ?_, ?_, ?_⟩
  · rw [same, Text.upper_upper]
  · rw [same]
    omega
  · rw [same]
    omega
  · rw [same, ← three]
    exact singles

end Http

namespace Sample

/-- A bank with a client. -/
def registered : Desk :=
  Opening.after settings true [.call (.createUser (.text "ada@example.com"))]

/-- The fields of a request for an account of the client. -/
def openingFields (currency : String) : Http.Fields :=
  [("owner_id", .text "00000001-0000-4000-8000-000000000001"), ("name", .text "Savings"),
    ("currency", .text currency)]

def openingRequest (currency : String) : Http.Request where
  method := "POST"
  path := "/accounts"
  query := []
  body := .value (.record (openingFields currency))

/-- Whether there is an answer, and it passes a check together with the desk that is left. -/
def answersSo
    (result : EStateM.Result Failure Desk Http.Response)
    (passes : Http.Response → Desk → Bool) : Bool :=
  match result with
  | .ok response later => passes response later
  | .error _ _ => false

theorem answer_of_answersSo
    {result : EStateM.Result Failure Desk Http.Response}
    {passes : Http.Response → Desk → Bool}
    (answers : answersSo result passes = true) :
    ∃ response later, result = .ok response later ∧ passes response later = true := by
  cases result with
  | ok response later => exact ⟨response, later, rfl, answers⟩
  | error failure later => cases answers

/-- The rule at work: each of three letters has a single capital, and so there are three. -/
theorem currency_of_dollars :
    ∃ response later account,
      Http.serve .calm (openingRequest "usd") registered = .ok response later ∧
        later.bank.tables.accounts = registered.bank.tables.accounts ++ [account] ∧
        account.currency = "USD" ∧ account.currency.length = 3 := by
  have answers :
      answersSo (Http.serve .calm (openingRequest "usd") registered)
          (fun response _ => response.status == 201) =
        true := by
    decide +kernel
  have capitals : Text.upper "usd" = "USD" := by decide +kernel
  have singles :
      ("usd".toList.all fun character => (Text.upperCharacter character).length == 1) = true := by
    decide +kernel
  have writes : (openingRequest "usd").method.toUpper = "POST" := by decide +kernel
  have names : Http.Resource.ofPath? (openingRequest "usd").path = some .accounts := by
    decide +kernel
  have sends :
      Http.bodyValue (openingRequest "usd").body = .ok (some (.record (openingFields "usd"))) :=
    rfl
  have given : Value.field? (openingFields "usd") "currency" = some (.text "usd") := rfl
  rcases answer_of_answersSo answers with ⟨response, later, served, passes⟩
  have created : response.status = 201 := beq_iff_eq.mp passes
  rcases Http.currency_of_opened writes names sends given served created with
    ⟨account, shown, appended, -, -, currency, -, -, -, -, three⟩
  exact
    ⟨response, later, account, served, appended, currency.trans capitals,
      three.mpr fun character member =>
        beq_iff_eq.mp (List.all_eq_true.mp singles character member)⟩

/-- The currency that the body of a response shows. -/
def shownCurrency? (response : Http.Response) : Option Value :=
  match response.body with
  | .record shown => Value.field? shown "currency"
  | _ => none

/-- A letter whose capital form has two characters makes a currency of four characters. -/
theorem currency_of_four_characters :
    "ßab".length = 3 ∧
      ∃ response later,
        Http.serve .calm (openingRequest "ßab") registered = .ok response later ∧
          response.status = 201 ∧
          (shownCurrency? response).map Value.shown = some "SSAB" ∧
          later.bank.tables.accounts.map Account.currency =
            registered.bank.tables.accounts.map Account.currency ++ ["SSAB"] ∧
          "SSAB".length = 4 := by
  have answers :
      answersSo (Http.serve .calm (openingRequest "ßab") registered)
          (fun response later =>
            response.status == 201 && (shownCurrency? response).map Value.shown == some "SSAB" &&
              later.bank.tables.accounts.map Account.currency ==
                registered.bank.tables.accounts.map Account.currency ++ ["SSAB"]) =
        true := by
    decide +kernel
  rcases answer_of_answersSo answers with ⟨response, later, served, passes⟩
  simp only [Bool.and_eq_true, beq_iff_eq] at passes
  rcases passes with ⟨⟨created, shown⟩, kept⟩
  exact ⟨by decide, response, later, served, created, shown, kept, by decide⟩

end Sample

end Bookkeeping
