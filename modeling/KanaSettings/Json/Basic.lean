import KanaSettings.Binary64.Decimal
import KanaSettings.Json.Members

/-!
# JSON values

A settings document is a JSON object, and whatever it holds that nobody here understands has to
survive an edit.  So a value keeps the order of its members, and a number is kept either as
the integer it was written as or as a double.
-/

namespace KanaSettings

/-- A number of a document.  Integers from `-2 ^ 63` up to `2 ^ 64 - 1` are kept exactly, every
other number is a double. -/
inductive Number where
  | int (value : Int)
  | double (value : Binary64)
deriving DecidableEq, Inhabited

/-- The text of a number in a document. -/
def Number.text : Number → String
  | .int value => toString value
  | .double value => value.text

/-- A JSON value. -/
inductive Json where
  | null
  | bool (value : Bool)
  | number (value : Number)
  | string (value : String)
  | array (items : List Json)
  | object (members : List (String × Json))
deriving Inhabited

namespace Json

/-- The integer `n`. -/
def ofNat (n : Nat) : Json := .number (.int n)

/-- The members of an object. -/
def members? : Json → Option (Members Json)
  | .object members => some members
  | _ => none

/-- The items of an array. -/
def items? : Json → Option (List Json)
  | .array items => some items
  | _ => none

/-- The characters of a text. -/
def text? : Json → Option String
  | .string value => some value
  | _ => none

/-- A truth value. -/
def bool? : Json → Option Bool
  | .bool value => some value
  | _ => none

/-- A natural number written as an integer. -/
def nat? : Json → Option Nat
  | .number (.int (.ofNat n)) => some n
  | _ => none

/-- The name of a variant that carries no data: a text, or an object with that one name and
`null` under it. -/
def variantName? : Json → Option String
  | .string name => some name
  | .object [(name, .null)] => some name
  | _ => none

/-- A member of an object that a typed value cannot do without. -/
def field? (value : Json) (key : String) : Option Json :=
  value.members?.bind (Members.get? · key)

/-- The values of the fields of a record, which is an object with all of them among its members or
an array of just these values. -/
def record? (keys : List String) : Json → Option (List Json)
  | .object members => keys.mapM (Members.get? members)
  | .array items => if items.length = keys.length then some items else none
  | _ => none

end Json

end KanaSettings
