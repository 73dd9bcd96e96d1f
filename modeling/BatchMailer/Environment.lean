/-!
# BatchMailer.Environment

Environment variables: texts under names, at most one under each.  A variable
that is set keeps its value when a default is given for it, also if the value is
empty (`get?_setDefault`).
-/

namespace BatchMailer

/-- The variables of a process. -/
structure Environment where
  bindings : List (String × String)
  deriving DecidableEq, Repr

namespace Environment

/-- The environment without variables. -/
def empty : Environment := ⟨[]⟩

/-- The value under a name. -/
def valueAt (name : String) : List (String × String) → Option String
  | [] => none
  | v :: rest => if v.1 = name then some v.2 else valueAt name rest

/-- The variables with a value under a name, in the stead of the one it has. -/
def putValue (name value : String) : List (String × String) → List (String × String)
  | [] => [(name, value)]
  | v :: rest => if v.1 = name then (name, value) :: rest else v :: putValue name value rest

/-- The value of a variable, if it is set. -/
def get? (e : Environment) (name : String) : Option String := valueAt name e.bindings

/-- Sets a variable, over the value it has, if any. -/
def set (e : Environment) (name value : String) : Environment :=
  ⟨putValue name value e.bindings⟩

/-- Sets a variable unless it is set already. -/
def setDefault (e : Environment) (name value : String) : Environment :=
  if (e.get? name).isSome then e else e.set name value

/-- All variables by name, in ascending order of code points. -/
def listing (e : Environment) : List (String × String) :=
  e.bindings.mergeSort fun a b => a.1 ≤ b.1

/-! ## the view of an operation -/

theorem valueAt_putValue (name value : String) (bindings : List (String × String))
    (query : String) :
    valueAt query (putValue name value bindings) =
      if query = name then some value else valueAt query bindings := by
  induction bindings with
  | nil => simp [putValue, valueAt, eq_comm]
  | cons v rest ih =>
    by_cases hv : v.1 = name
    · by_cases hq : query = name
      · simp [putValue, valueAt, hv, hq]
      · simp [putValue, valueAt, hv, hq, Ne.symm hq]
    · by_cases hq : v.1 = query
      · have hne : query ≠ name := hq ▸ hv
        simp [putValue, valueAt, hq, hne]
      · simp [putValue, valueAt, hv, hq, ih]

@[simp] theorem get?_set (e : Environment) (name value query : String) :
    (e.set name value).get? query = if query = name then some value else e.get? query :=
  valueAt_putValue name value e.bindings query

/-- A default changes nothing but a variable that is not set. -/
theorem get?_setDefault (e : Environment) (name value query : String) :
    (e.setDefault name value).get? query =
      if query = name then some ((e.get? name).getD value) else e.get? query := by
  unfold setDefault
  cases hn : e.get? name with
  | some v => by_cases h : query = name <;> simp_all
  | none => simp

end Environment

end BatchMailer
