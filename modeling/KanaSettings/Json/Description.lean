import KanaSettings.Json.Basic
import KanaSettings.Text.Quotation

/-!
# Describing JSON values

How an error message shows a value that it did not expect: with the kind of every part, so that
the text `1` and the number one look different.
-/

namespace KanaSettings.Json

mutual

/-- A value with the kind of every part. -/
def describe : Json → String
  | .null => "Null"
  | .bool value => "Bool(" ++ (if value then "true" else "false") ++ ")"
  | .number value => "Number(" ++ value.text ++ ")"
  | .string value => "String(" ++ Text.quotation value ++ ")"
  | .array items => "Array [" ++ ", ".intercalate (describeItems items) ++ "]"
  | .object members => "Object \x7b" ++ ", ".intercalate (describeMembers members) ++ "\x7d"

/-- The items of an array, each described. -/
def describeItems : List Json → List String
  | [] => []
  | item :: items => describe item :: describeItems items

/-- The members of an object, each described after its name. -/
def describeMembers : List (String × Json) → List String
  | [] => []
  | (key, value) :: members =>
    (Text.quotation key ++ ": " ++ describe value) :: describeMembers members

end

end KanaSettings.Json
