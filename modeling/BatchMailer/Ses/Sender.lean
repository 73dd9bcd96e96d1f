import BatchMailer.Sender
import BatchMailer.Ses.Parameters
import BatchMailer.Ses.Trouble

/-!
# BatchMailer.Ses.Sender

The sender that talks to SES.

While a call is under way the client shows each raw HTTP response it receives,
and the sender remembers the last one; it is the evidence of a service error,
also where the response is not what SES should send.  What was remembered before
a call is forgotten when the call starts, so calls do not influence each other.
-/

namespace BatchMailer.Ses

/-- The operation a sender calls. -/
def operation : String := "SendBulkTemplatedEmail"

/-- The event at which a client shows the responses to that operation. -/
def shownEvent : String := "before-parse.ses." ++ operation

/-- What happens during one call: the responses that are shown, some of them
void, and what the call comes to. -/
structure Exchange where
  shown : List (Option HttpResponse)
  result : Except Trouble Value

/-- SES, as a sender meets it: each call is one exchange. -/
abbrev Service (τ : Type) : Type := τ → Parameters → Exchange × τ

/-! ## evidence -/

/-- The part of a response that is kept: status, headers, and a body that is raw
bytes and not empty. -/
def evidenceOf (r : HttpResponse) : HttpResponse where
  statusCode := some (r.statusCode.getD .null)
  headers := some (some r.headerList)
  body :=
    match r.body.getD none with
    | some (.bytes content) => some (if content.isEmpty then none else some (.bytes content))
    | _ => some none

/-- What is remembered after one more response was shown. -/
def remember (last : Option HttpResponse) : Option HttpResponse → Option HttpResponse
  | none => last
  | some r => some (evidenceOf r)

/-- What is remembered after responses were shown in turn. -/
def rememberAll (last : Option HttpResponse) (shown : List (Option HttpResponse)) :
    Option HttpResponse :=
  shown.foldl remember last

/-- The response that an error itself tells of; it has no body. -/
def Metadata.evidence (m : Metadata) : HttpResponse where
  statusCode := some (m.statusCode.getD .null)
  headers := some (some ((m.headers.getD none).getD []))
  body := some none

/-- The metadata of a refusal that comes without. -/
def Metadata.absent : Metadata := { statusCode := none, headers := none }

/-- Whether the status of a response is a number that reports an error. -/
def hasErrorStatus (r : HttpResponse) : Bool :=
  match r.statusCode with
  | some (.int code) => 300 ≤ code
  | _ => false

/-! ## reports -/

/-- The report of a service error. -/
def serviceError (evidence : HttpResponse) (error : RawText) : Outcome :=
  { Outcome.failed .serviceError error with http := some (.response evidence) }

/-- The status of a destination whose report has none. -/
def unknownStatus : Value := .text "UNKNOWN"

/-- A reply that is not of the expected shape. -/
def misshapen (name text : String) : Failure := { cause := .other, name, text }

/-- A value that should have been a table. -/
def noEntries (v : Value) : Failure :=
  misshapen "AttributeError" (Text.quoted v.typeName ++ " object has no attribute 'get'")

/-- A value that should have been a list. -/
def noItems (v : Value) : Failure :=
  misshapen "TypeError" (Fault.notIterableMessage v.typeName)

/-- The status in the report of one destination. -/
def statusOf : Value → Except Failure Value
  | .table entries => .ok ((Value.entry? "Status" entries).getD unknownStatus)
  | v => .error (noEntries v)

/-- The statuses of all destinations in a reply. -/
def statusesOf (reply : Value) : Except Failure (List Value) :=
  match reply with
  | .table entries =>
    let reports := (Value.entry? "Status" entries).getD (.list [])
    match reports.items? with
    | some items => items.mapM statusOf
    | none => .error (noItems reports)
  | v => .error (noEntries v)

/-- The report of a call that failed, given the response that was remembered.
An interrupt is not reported but passed on. -/
def failedReport (evidence : Option HttpResponse) (t : Trouble) : Except Failure Outcome :=
  if t.failure.isInterrupt then .error t.failure
  else
    match t with
    | .refused error metadata =>
      .ok (serviceError (evidence.getD (metadata.getD .absent).evidence) (error.getD .absent).text)
    | t =>
      match t.standing with
      | .timeout => .ok (.failed .timeout t.text)
      | .transportFailure => .ok (.failed .transportFailure t.text)
      | _ =>
        match evidence.filter hasErrorStatus with
        | some r => .ok (serviceError r t.failure.described)
        | none => .ok (.failed .unexpected t.failure.described)

/-- The report of an exchange, given the response that was remembered. -/
def reportOf (evidence : Option HttpResponse) : Except Trouble Value → Except Failure Outcome
  | .error t => failedReport evidence t
  | .ok reply => (statusesOf reply).map fun statuses =>
      { Outcome.delivered statuses with response := some reply }

/-! ## the sender -/

/-- The state of a sender: the response it remembers, the service it calls, and
the parameters of its calls, in order. -/
structure State (τ : Type) where
  remembered : Option HttpResponse
  service : τ
  calls : List Parameters

variable {τ : Type}

/-- A sender that has not been used. -/
def State.start (service : τ) : State τ := { remembered := none, service, calls := [] }

/-- A response is shown to a sender. -/
def State.show (s : State τ) (response : Option HttpResponse) : State τ :=
  { s with remembered := remember s.remembered response }

/-- Carries out one bulk send by one call. -/
def send (service : Service τ) (identity : Identity) : Sender (State τ) := fun s request =>
  let parameters := Parameters.ofRequest identity request
  let (exchange, next) := service s.service parameters
  let remembered := rememberAll none exchange.shown
  { result := reportOf remembered exchange.result
    printed := ""
    state := { remembered, service := next, calls := s.calls ++ [parameters] } }

/-- The reply that every destination was served. -/
def servedReply (destinations : List Destination) : Value :=
  .table [("Status", .list (destinations.map fun _ => .table [("Status", servedStatus)]))]

/-- One call in a script; without a result it serves everyone. -/
structure ScriptedCall where
  shown : List (Option HttpResponse)
  result : Option (Except Trouble Value)

/-- A call in which nothing is shown and everyone is served. -/
def ScriptedCall.plain : ScriptedCall := { shown := [], result := none }

/-- The exchange a scripted call comes to. -/
def ScriptedCall.exchange (c : ScriptedCall) (parameters : Parameters) : Exchange where
  shown := c.shown
  result := c.result.getD (.ok (servedReply parameters.destinations))

/-- A service that follows a script, and serves everyone when the script is used
up. -/
def scriptedService : Service (List ScriptedCall)
  | [], parameters => (ScriptedCall.plain.exchange parameters, [])
  | call :: rest, parameters => (call.exchange parameters, rest)

end BatchMailer.Ses
