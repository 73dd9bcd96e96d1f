import BatchMailer.Diagnostic

/-!
# BatchMailer.Capture

What becomes of a sender's report.  It is logged: one line for each destination
of a success, at least one error line for anything else.  The raw response of a
service error goes to a diagnostic file; nothing else is kept.
-/

namespace BatchMailer.Capture

/-- The statuses of the destinations of a success.  Nothing, in any shape, is
the empty list; a value that is something but has no items is a fault. -/
def destinationStatuses (o : Outcome) : Except Fault (List Value) :=
  let statuses := o.destinationStatuses.getD .null
  if statuses.isBlank then .ok []
  else
    match statuses.items? with
    | some items => .ok items
    | none => .error (.notIterable statuses.typeName)

/-- The log line of the destination with a given index, if its status can be written. -/
def statusLine (kind : Kind) (index : Nat) (status : Value) : Option RawText :=
  status.display?.map fun status =>
    "[" ++ kind.name ++ "] destination #" ++ toString index ++ " => status: " ++ status

/-- Logs the statuses of destinations that are numbered from `first` on. -/
def noteStatuses (kind : Kind) (first : Nat) (statuses : List Value) (h : Host) : Host :=
  match statuses with
  | [] => h
  | status :: rest =>
    noteStatuses kind (first + 1) rest (h.note .info (statusLine kind first status))

/-- The log line that tells the error of a report behind some words, if the error can be
written. -/
def errorLine (words : String) (o : Outcome) : Option RawText :=
  (o.error.getD .null).display?.map fun error => "ERROR: " ++ words ++ "; " ++ error

/-- The words for a service error. -/
def serviceErrorWords (kind : Kind) : String := "service error for " ++ kind.name ++ " batch"

/-- Logs a report and keeps the response of a service error.  The answer is the
path of the diagnostic file, if one was written. -/
def settle (kind : Kind) (o : Outcome) (outputDir : RawText) (startedAt : Option Binary64)
    (h : Host) : Except Fault (Option RawText) × Host :=
  match o.standing with
  | .success =>
    match destinationStatuses o with
    | .error f => (.error f, h)
    | .ok statuses => (.ok none, noteStatuses kind 0 statuses h)
  | .serviceError =>
    let h := h.note .error (errorLine (serviceErrorWords kind) o)
    match o.http with
    | some (.response r) =>
      let (written, h) := Diagnostic.write r outputDir kind.index startedAt h
      (written.map fun file => file.map (·.path), h)
    | _ => (.ok none, h.error "ERROR: service error carried no raw HTTP response")
  | .timeout => (.ok none, h.note .error (errorLine "connection timed out" o))
  | .transportFailure => (.ok none, h.note .error (errorLine "dispatch failure" o))
  | .unexpected => (.ok none, h.note .error (errorLine "unexpected error" o))

/-- Logging statuses writes no file. -/
@[simp] theorem files_noteStatuses (kind : Kind) (first : Nat) (statuses : List Value) (h : Host) :
    (noteStatuses kind first statuses h).files = h.files := by
  induction statuses generalizing first h with
  | nil => rfl
  | cons status rest ih => exact ih _ _

end BatchMailer.Capture
