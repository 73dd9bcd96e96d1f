import BatchMailer.Value

/-!
# BatchMailer.Outcome

What a sender reports about one bulk send.  A report is loosely typed: any of
its parts may be missing, and a part that is missing is told apart from one that
is there without a value.

The `status` decides how a report is treated (`Outcome.standing`); everything
but the five known words counts as an unexpected error.
-/

namespace BatchMailer

/-- The body of an HTTP response. -/
inductive Body where
  | bytes (content : List UInt8)
  | text (content : RawText)
  deriving DecidableEq, Repr

/-- A raw HTTP response.  Each part may be missing; headers and body may also be
there without a value. -/
@[ext] structure HttpResponse where
  statusCode : Option Value
  headers : Option (Option (List (RawText × Value)))
  body : Option (Option Body)
  deriving Repr

/-- The headers of a response, if it has any. -/
def HttpResponse.headerList (r : HttpResponse) : List (RawText × Value) :=
  (r.headers.getD none).getD []

/-- What stands where a report should hold a raw HTTP response: a response, or a value
that is no table.  A table is always read as a response. -/
inductive Evidence where
  | response (r : HttpResponse)
  | other (v : Value) (noTable : v.isTable = false)
  deriving Repr

/-- A sender's report. -/
structure Outcome where
  status : Option Value
  error : Option Value
  destinationStatuses : Option Value
  http : Option Evidence
  response : Option Value
  deriving Repr

/-- How a report is treated. -/
inductive Standing where
  | success
  | serviceError
  | timeout
  | transportFailure
  | unexpected
  deriving DecidableEq, Repr

namespace Standing

/-- The word a sender reports a standing by. -/
def word : Standing → String
  | success => "success"
  | serviceError => "service_error"
  | timeout => "timeout"
  | transportFailure => "transport_failure"
  | unexpected => "unknown"

/-- The standing a word stands for; unknown words are unexpected. -/
def ofWord (word : RawText) : Standing :=
  if word = success.word then success
  else if word = serviceError.word then serviceError
  else if word = timeout.word then timeout
  else if word = transportFailure.word then transportFailure
  else unexpected

@[simp] theorem ofWord_word (s : Standing) : ofWord s.word = s := by
  cases s <;> decide

/-- Every standing but the unexpected has one word. -/
theorem word_ofWord {word : RawText} (h : ofWord word ≠ unexpected) : (ofWord word).word = word := by
  rw [ofWord] at h ⊢
  repeat' split
  all_goals simp_all

end Standing

namespace Outcome

/-- A report with a status and nothing else. -/
def ofStanding (s : Standing) : Outcome where
  status := some (.text s.word)
  error := none
  destinationStatuses := none
  http := none
  response := none

/-- A report that every destination has a given status. -/
def delivered (statuses : List Value) : Outcome :=
  { ofStanding .success with destinationStatuses := some (.list statuses) }

/-- A report of a failure, with its cause in words. -/
def failed (s : Standing) (error : RawText) : Outcome :=
  { ofStanding s with error := some (.text error) }

/-- How a report is treated: by its status, if that is a text. -/
def standing (o : Outcome) : Standing :=
  match o.status with
  | some (.text word) => .ofWord word
  | _ => .unexpected

theorem standing_eq_iff {o : Outcome} {s : Standing} (hs : s ≠ .unexpected) :
    o.standing = s ↔ o.status = some (.text s.word) := by
  constructor
  · rintro rfl
    rw [standing] at hs ⊢
    split at hs
    · next word hstatus => rw [hstatus, Standing.word_ofWord hs]
    · contradiction
  · intro hstatus
    rw [standing, hstatus]
    exact Standing.ofWord_word s

@[simp] theorem standing_ofStanding (s : Standing) : (ofStanding s).standing = s :=
  Standing.ofWord_word s

@[simp] theorem standing_failed (s : Standing) (error : RawText) : (failed s error).standing = s :=
  Standing.ofWord_word s

@[simp] theorem standing_delivered (statuses : List Value) :
    (delivered statuses).standing = .success :=
  Standing.ofWord_word .success

end Outcome

end BatchMailer
