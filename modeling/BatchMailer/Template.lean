import BatchMailer.JsonText
import BatchMailer.Record
import BatchMailer.Text.Utf8

/-!
# BatchMailer.Template

The mail template of each kind and the data that fills it.  A template is named
once per bulk send; every destination brings its replacement data as a JSON
object whose keys depend on the kind alone (`templateKeys`) and whose values are
record fields read as text.
-/

namespace BatchMailer

/-- The text of a field: UTF-8, with U+FFFD where it is not well formed. -/
def fieldText (bytes : List UInt8) : List Char := Text.Utf8.decodeLossy bytes

namespace Kind

/-- The name of the template that mails of a kind are made from. -/
def template : Kind → String
  | activation => "activationv1"
  | passwordRecovery => "passwordrecoveryv1"

/-- The keys of a kind's template data, in order.  Only recovery mails show the
code. -/
def templateKeys : Kind → List String
  | activation => ["login", "secret"]
  | passwordRecovery => ["login", "secret", "code"]

/-- The data of a destination that brings none: every key, with nothing in it. -/
def defaultTemplateData (kind : Kind) : String :=
  String.ofList (JsonText.object (kind.templateKeys.map fun key => (key, [])))

end Kind

namespace Record

/-- The fields a record's template shows, under their keys. -/
def templateMembers (r : Record) : List (String × List Char) :=
  r.kind.templateKeys.zip [fieldText r.login, fieldText r.secret, fieldText r.code]

/-- The replacement data of a record, as a JSON object. -/
def templateData (r : Record) : String :=
  String.ofList (JsonText.object r.templateMembers)

@[simp] theorem templateMembers_activation (toAddress login secret code : List UInt8) :
    templateMembers ⟨.activation, toAddress, login, secret, code⟩ =
      [("login", fieldText login), ("secret", fieldText secret)] := rfl

@[simp] theorem templateMembers_passwordRecovery (toAddress login secret code : List UInt8) :
    templateMembers ⟨.passwordRecovery, toAddress, login, secret, code⟩ =
      [("login", fieldText login), ("secret", fieldText secret), ("code", fieldText code)] := rfl

end Record

end BatchMailer
