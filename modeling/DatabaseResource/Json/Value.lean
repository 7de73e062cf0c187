import DatabaseResource.Decimal.Double

/-!
# JSON values

A value of a JSON text. An object keeps one member per name: `put` gives a name its last value, at
the place where the name came first.
-/

namespace DatabaseResource.Json

/-- A number: a whole one as it stands, any other as a double-precision number. -/
inductive Number where
  | integer (value : Int)
  | double (value : Double)
deriving DecidableEq, Repr

inductive Value where
  | null
  | bool (value : Bool)
  | number (value : Number)
  | text (value : String)
  | array (items : List Value)
  | object (members : List (String × Value))
deriving Repr, Inhabited

/-- Gives a name a value, in place of the one it has. -/
def put {α : Type} (members : List (String × α)) (name : String) (value : α) :
    List (String × α) :=
  match members with
  | [] => [(name, value)]
  | (n, v) :: rest => if n = name then (n, value) :: rest else (n, v) :: put rest name value

/-- The value that a name has. -/
def get? {α : Type} (members : List (String × α)) (name : String) : Option α :=
  match members with
  | [] => none
  | (n, v) :: rest => if n = name then some v else get? rest name

@[simp] theorem get?_nil {α : Type} (name : String) : get? ([] : List (String × α)) name = none :=
  rfl

namespace Value

/-- The value of a member of an object. -/
def member? (v : Value) (name : String) : Option Value :=
  match v with
  | object members => get? members name
  | _ => none

/-- The text that a value is. -/
def text? : Value → Option String
  | text s => some s
  | _ => none

end Value

end DatabaseResource.Json
