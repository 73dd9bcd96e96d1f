import BatchMailer.Failure
import BatchMailer.Outcome
import BatchMailer.Request

/-!
# BatchMailer.Sender

Senders.  A sender is asked to carry out one bulk send at a time; it reports an
outcome or gives up, may print, and keeps a state of its own.  It sees nothing
of the batches, the log or the files.

Two simple senders are here: one that follows a script, and the console sender
for dry runs, which prints what would be sent and reports every destination as
sent.  `recording` keeps the requests any sender was given.
-/

namespace BatchMailer

/-- What a sender does with a request. -/
structure Answer (σ : Type) where
  result : Except Failure Outcome
  printed : String
  state : σ

/-- A sender with a state of type `σ`. -/
abbrev Sender (σ : Type) : Type := σ → Request → Answer σ

/-- A sender that keeps the requests it was given, in order. -/
def Sender.recording {σ : Type} (send : Sender σ) : Sender (σ × List Request) :=
  fun (a, requests) request =>
    let answer := send a request
    { result := answer.result
      printed := answer.printed
      state := (answer.state, requests ++ [request]) }

/-! ## scripted answers -/

/-- The status of a destination that was served. -/
def servedStatus : Value := .text "Success"

/-- The report that every destination of a request was served. -/
def allServed (request : Request) : Outcome :=
  .delivered (request.destinations.map fun _ => servedStatus)

/-- A sender that answers from a script, and serves everyone when the script is
used up. -/
def scripted : Sender (List (Except Failure Outcome))
  | [], request => { result := .ok (allServed request), printed := "", state := [] }
  | answer :: rest, _ => { result := answer, printed := "", state := rest }

/-! ## dry runs -/

namespace Console

/-- The status of a destination in a dry run. -/
def dryRunStatus : Value := .text "DRY_RUN"

/-- What a dry run prints in front of the destinations of a request. -/
def heading (configurationSet source : String) (request : Request) : List String :=
  ["[BULK EMAIL]",
   "template=" ++ request.template,
   "configuration_set=" ++ configurationSet,
   "source=" ++ source,
   "default_template_data=" ++ request.defaultTemplateData,
   "destinations=" ++ toString request.destinations.length]

/-- The line of the destination with a given number. -/
def destinationLine (number : Nat) (d : Destination) : String :=
  "  " ++ toString number ++ ". to=" ++ d.toAddress ++ " data=" ++ d.templateData

/-- The lines of destinations that are numbered from `first` on. -/
def destinationLines (first : Nat) : List Destination → List String
  | [] => []
  | d :: rest => destinationLine first d :: destinationLines (first + 1) rest

/-- All lines a dry run prints for a request; the last one is empty. -/
def blockLines (configurationSet source : String) (request : Request) : List String :=
  heading configurationSet source request ++ destinationLines 1 request.destinations ++ [""]

/-- What a dry run prints for a request. -/
def block (configurationSet source : String) (request : Request) : String :=
  String.join ((blockLines configurationSet source request).map (· ++ "\n"))

/-- The report of a dry run. -/
def report (request : Request) : Outcome :=
  .delivered (request.destinations.map fun _ => dryRunStatus)

/-- The sender of dry runs. -/
def sender {σ : Type} (configurationSet source : String) : Sender σ :=
  fun a request =>
    { result := .ok (report request)
      printed := block configurationSet source request
      state := a }

@[simp] theorem length_destinationLines (first : Nat) (ds : List Destination) :
    (destinationLines first ds).length = ds.length := by
  induction ds generalizing first with
  | nil => rfl
  | cons d rest ih => simp [destinationLines, ih]

/-- A block has one line for each destination and seven more. -/
theorem length_blockLines (configurationSet source : String) (request : Request) :
    (blockLines configurationSet source request).length = request.destinations.length + 7 := by
  simp [blockLines, heading]

end Console

end BatchMailer
