import BatchMailer.Failure
import BatchMailer.Outcome

/-!
# BatchMailer.Ses.Trouble

How a call to SES can fail.  Either SES answered with an error of its own
(`refused`), or the answer did not come in time, or there was no connection to
speak of, or something else went wrong before or after the call.

Each trouble has a name and a text, and a standing under which it is reported
unless the raw response says otherwise (`Trouble.standing`).
-/

namespace BatchMailer.Ses

/-- The error SES answered with.  Its code and its message are put into words as soon as
it is known, so both can be written. -/
structure ErrorDetail where
  code : Option Value
  message : Option Value
  writable : (code.getD .null).isWritable = true ∧ (message.getD .null).isWritable = true
  deriving Repr

/-- What is known of the response an error came with. -/
structure Metadata where
  statusCode : Option Value
  headers : Option (Option (List (RawText × Value)))
  deriving Repr

/-- Why a call to SES failed. -/
inductive Trouble where
  | refused (error : Option ErrorDetail) (metadata : Option Metadata)
  | connectTimeout (endpoint : RawText)
  | readTimeout (endpoint : RawText)
  | endpointConnection (endpoint : RawText)
  | proxyConnection (proxy : RawText)
  | ssl (endpoint error : RawText)
  | connection (error : RawText)
  | connectionClosed (endpoint : RawText)
  | httpClient (error : RawText)
  | responseStreaming (error : RawText)
  | noCredentials
  | noRegion
  | partialCredentials (provider missing : RawText)
  | paramValidation (report : RawText)
  | outside (f : Failure)
  deriving Repr

namespace ErrorDetail

/-- The error of a refusal that comes without one. -/
def absent : ErrorDetail := { code := none, message := none, writable := ⟨rfl, rfl⟩ }

/-- The code of an error. -/
def codeText (e : ErrorDetail) : RawText := (e.code.getD (.text "Unknown")).display

/-- An error in words: its code, and its message if it has one. -/
def text (e : ErrorDetail) : RawText :=
  let message := e.message.getD (.text "")
  if message.isBlank then e.codeText else e.codeText ++ ": " ++ message.display

end ErrorDetail

namespace Trouble

/-- The name of a trouble. -/
def name : Trouble → String
  | refused .. => "ClientError"
  | connectTimeout _ => "ConnectTimeoutError"
  | readTimeout _ => "ReadTimeoutError"
  | endpointConnection _ => "EndpointConnectionError"
  | proxyConnection _ => "ProxyConnectionError"
  | ssl .. => "SSLError"
  | connection _ => "ConnectionError"
  | connectionClosed _ => "ConnectionClosedError"
  | httpClient _ => "HTTPClientError"
  | responseStreaming _ => "ResponseStreamingError"
  | noCredentials => "NoCredentialsError"
  | noRegion => "NoRegionError"
  | partialCredentials .. => "PartialCredentialsError"
  | paramValidation _ => "ParamValidationError"
  | outside f => f.name

/-- The double quote, around addresses in texts. -/
def mark : String := "\x22"

/-- The text of a trouble. -/
def text : Trouble → RawText
  | refused error _ =>
    let detail := error.getD .absent
    "An error occurred (" ++ detail.codeText ++
      ") when calling the SendBulkTemplatedEmail operation: " ++
      (detail.message.getD (.text "Unknown")).display
  | connectTimeout endpoint => "Connect timeout on endpoint URL: " ++ mark ++ endpoint ++ mark
  | readTimeout endpoint => "Read timeout on endpoint URL: " ++ mark ++ endpoint ++ mark
  | endpointConnection endpoint =>
    "Could not connect to the endpoint URL: " ++ mark ++ endpoint ++ mark
  | proxyConnection proxy => "Failed to connect to proxy URL: " ++ mark ++ proxy ++ mark
  | ssl endpoint error => "SSL validation failed for " ++ endpoint ++ " " ++ error
  | connection error => "An HTTP Client failed to establish a connection: " ++ error
  | connectionClosed endpoint =>
    "Connection was closed before we received a valid response from endpoint URL: " ++ mark ++
      endpoint ++ mark ++ "."
  | httpClient error => "An HTTP Client raised an unhandled exception: " ++ error
  | responseStreaming error => "An error occurred while reading from response stream: " ++ error
  | noCredentials => "Unable to locate credentials"
  | noRegion => "You must specify a region."
  | partialCredentials provider missing =>
    "Partial credentials found in " ++ provider ++ ", missing: " ++ missing
  | paramValidation report => "Parameter validation failed:\n" ++ report
  | outside f => f.text

/-- The cause of a trouble.  Where time ran out, or the connection is one through
a proxy or an encrypted one, the trouble is the system's; only what comes from
outside can be an interrupt. -/
def cause : Trouble → Cause
  | outside f => f.cause
  | connectTimeout _ | readTimeout _ | proxyConnection _ | ssl .. => .inputOutput
  | _ => .other

/-- A trouble as any other failure. -/
def failure (t : Trouble) : Failure := { cause := t.cause, name := t.name, text := t.text }

/-- The standing a trouble is reported under, as far as it alone decides. -/
def standing : Trouble → Standing
  | refused .. => .serviceError
  | connectTimeout _ | readTimeout _ => .timeout
  | endpointConnection _ | proxyConnection _ | ssl .. | connection _ | connectionClosed _
  | httpClient _ | responseStreaming _ => .transportFailure
  | noCredentials | noRegion | partialCredentials .. | paramValidation _ | outside _ => .unexpected

end Trouble

end BatchMailer.Ses
