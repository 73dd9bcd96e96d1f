import BatchMailer.Request

/-!
# BatchMailer.Ses.Parameters

The parameters of a bulk send as SES takes them.  Each destination has a single
recipient.  Only recovery mails can be answered: reply addresses, if there are
any, go with them and with nothing else.
-/

namespace BatchMailer.Ses

/-- What SES is asked to do. -/
structure Parameters where
  source : String
  template : String
  configurationSet : String
  defaultTemplateData : String
  destinations : List Destination
  replyTo : Option (List String)
  deriving DecidableEq, Repr

/-- Whether mails of a kind can be answered. -/
def isAnswerable (kind : Kind) : Bool := kind == .passwordRecovery

/-- The settings that all sends of one sender share. -/
structure Identity where
  configurationSet : String
  source : String
  replyTo : List String
  deriving DecidableEq, Repr

/-- The parameters for a bulk send. -/
def Parameters.ofRequest (identity : Identity) (request : Request) : Parameters where
  source := identity.source
  template := request.template
  configurationSet := identity.configurationSet
  defaultTemplateData := request.defaultTemplateData
  destinations := request.destinations
  replyTo :=
    if identity.replyTo ≠ [] ∧ isAnswerable request.kind then some identity.replyTo else none

end BatchMailer.Ses
