import BatchMailer.Template

/-!
# BatchMailer.Request

One bulk send: a template and its destinations, one for each record of a batch,
in batch order.
-/

namespace BatchMailer

/-- One recipient and the data that fills the template for it. -/
structure Destination where
  toAddress : String
  templateData : String
  deriving DecidableEq, Repr

/-- A bulk send of one kind. -/
structure Request where
  kind : Kind
  template : String
  defaultTemplateData : String
  destinations : List Destination
  deriving DecidableEq, Repr

/-- The recipient a record describes. -/
def Destination.ofRecord (r : Record) : Destination where
  toAddress := String.ofList (fieldText r.toAddress)
  templateData := r.templateData

/-- The bulk send for the records of a batch. -/
def Request.ofRecords (kind : Kind) (records : List Record) : Request where
  kind := kind
  template := kind.template
  defaultTemplateData := kind.defaultTemplateData
  destinations := records.map Destination.ofRecord

@[simp] theorem Request.length_destinations_ofRecords (kind : Kind) (records : List Record) :
    (Request.ofRecords kind records).destinations.length = records.length := by
  simp [Request.ofRecords]

end BatchMailer
