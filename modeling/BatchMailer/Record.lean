import BatchMailer.Kind

/-!
# BatchMailer.Record

One decoded notice: a kind and four byte fields.  All four slots exist for
either kind, whether or not the kind's template uses them.
-/

namespace BatchMailer

/-- A notice waiting to be sent.  Fields are raw bytes; nothing is assumed of
their encoding. -/
structure Record where
  kind : Kind
  toAddress : List UInt8
  login : List UInt8
  secret : List UInt8
  code : List UInt8
  deriving DecidableEq, Repr

namespace Record

/-- How many data fields follow the kind token. -/
def fieldCount : Nat := 4

/-- The most bytes a data field may hold. -/
def maxFieldLength : Nat := 254

/-- The four fields in wire order. -/
def fields (r : Record) : List (List UInt8) :=
  [r.toAddress, r.login, r.secret, r.code]

/-- A record from its fields in wire order; there must be exactly four. -/
def ofFields? (kind : Kind) : List (List UInt8) → Option Record
  | [toAddress, login, secret, code] => some { kind, toAddress, login, secret, code }
  | _ => none

@[simp] theorem length_fields (r : Record) : r.fields.length = fieldCount := rfl

@[simp] theorem ofFields?_fields (r : Record) : ofFields? r.kind r.fields = some r := rfl

end Record

end BatchMailer
