import BatchMailer.Binary64

/-!
# BatchMailer.Ses.Client

How a client for SES is set up: where it calls, how long it waits, and that it
tries each call once only, since a failed send is never repeated.
-/

namespace BatchMailer.Ses

/-- The region of a client that is given none. -/
def defaultRegion : String := "us-east-1"

/-- The seconds a client waits for a connection, unless told otherwise. -/
def defaultConnectTimeout : Binary64 := .ofNat 10

/-- The seconds a client waits for an answer, unless told otherwise. -/
def defaultReadTimeout : Binary64 := .ofNat 30

/-- The setup of a client. -/
structure Client where
  endpoint : Option String
  region : String
  connectTimeout : Binary64
  readTimeout : Binary64
  deriving DecidableEq, Repr

namespace Client

/-- The service a client calls. -/
def service : String := "ses"

/-- How often a client tries a call. -/
def maxAttempts : Nat := 1

/-- How a client counts its attempts. -/
def retryMode : String := "standard"

/-- A text that is there and not empty. -/
def nonEmpty (s : Option String) : Option String := s.filter (· ≠ "")

/-- The setup for an endpoint and a region, either of which may be left out or
empty. -/
def new (endpoint region : Option String) (connectTimeout readTimeout : Binary64) : Client where
  endpoint := nonEmpty endpoint
  region := (nonEmpty region).getD defaultRegion
  connectTimeout := connectTimeout
  readTimeout := readTimeout

/-- The settings a client is given by name, in alphabetical order. -/
def settingNames (c : Client) : List String :=
  "config" :: if c.endpoint.isSome then ["endpoint_url"] else []

/-- The log line for a client that was set up. -/
def createdMessage (c : Client) : String :=
  match c.endpoint with
  | some url => "Created SES client for endpoint: " ++ url
  | none => "Created SES client in region: " ++ c.region

end Client

end BatchMailer.Ses
