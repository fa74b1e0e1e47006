import KanaSettings.Json.Reader

/-!
# Objections

What can be wrong with a candidate for a slice.  A candidate is taken as a whole or refused with
every objection there is to it; rows are named by their position in the candidate as it was
handed in.
-/

namespace KanaSettings

/-- A reason to refuse a candidate. -/
inductive Objection where
  | incomplete (index : Nat)
  | duplicate (first repeated : Nat)
  | tooMany (count limit : Nat)
  /-- The candidate, or one row of it, is no value of the slice at all. -/
  | malformed (index : Option Nat) (reason : String)
deriving DecidableEq

namespace Objection

/-- What a person is told. -/
def message : Objection → String
  | incomplete index => s!"row {index}: a required field is empty"
  | duplicate first repeated => s!"rows {first} and {repeated} have the same reading and word"
  | tooMany count limit => s!"{count} entries exceed the limit of {limit}"
  | malformed none reason => "malformed input: " ++ reason
  | malformed (some index) reason => s!"malformed input at row {index}: {reason}"

/-- The messages of several objections in one line. -/
def summary (objections : List Objection) : String :=
  "; ".intercalate (objections.map message)

/-- An objection as a JSON object, with its kind first. -/
def encode : Objection → Json
  | incomplete index =>
    .object [("kind", .string "incomplete_entry"), ("index", .ofNat index)]
  | duplicate first repeated =>
    .object [("kind", .string "duplicate_entry"), ("first", .ofNat first),
      ("duplicate", .ofNat repeated)]
  | tooMany count limit =>
    .object [("kind", .string "too_many_entries"), ("count", .ofNat count), ("max", .ofNat limit)]
  | malformed index reason =>
    .object [("kind", .string "malformed_input"),
      ("index", match index with
        | some i => .ofNat i
        | none => .null),
      ("reason", .string reason)]

/-- Whether a name stands at most once. -/
def atMostOnce (fields : List (String × Json)) (key : String) : Bool :=
  (fields.filter fun field => field.1 = key).length ≤ 1

/-- The objection that an object describes.  Names that the kind does not use are ignored, and
the row of a malformed candidate may be left out. -/
def ofFields? (fields : List (String × Json)) : Option Objection := do
  match ← (← Members.only? fields "kind").text? with
  | "incomplete_entry" => return incomplete (← (← Members.only? fields "index").nat?)
  | "duplicate_entry" =>
    return duplicate (← (← Members.only? fields "first").nat?) (← (← Members.only? fields "duplicate").nat?)
  | "too_many_entries" =>
    return tooMany (← (← Members.only? fields "count").nat?) (← (← Members.only? fields "max").nat?)
  | "malformed_input" =>
    guard (atMostOnce fields "index")
    let index ← match Members.get? fields "index" with
      | none | some .null => some none
      | some value => value.nat?.map some
    return malformed index (← (← Members.only? fields "reason").text?)
  | _ => none

/-- The names of the fields of a kind, in their order. -/
def fieldNames (kind : String) : List String :=
  if kind = "incomplete_entry" then ["index"]
  else if kind = "duplicate_entry" then ["first", "duplicate"]
  else if kind = "too_many_entries" then ["count", "max"]
  else ["index", "reason"]

/-- The objection that an array describes: the kind, and after it every field. -/
def ofItems? (items : List Json) : Option Objection := do
  let names := "kind" :: fieldNames (← (← items.head?).text?)
  guard (items.length = names.length)
  ofFields? (names.zip items)

/-- The objection that a text describes. -/
def parse? (s : String) : Option Objection :=
  let cs := s.toList
  let inner := Json.Reader.value cs.length (Json.maxDepth - 1)
  match (Json.Reader.fields (fun _ => inner) cs.length).run cs with
  | some fields => ofFields? fields
  | none => ((Json.Reader.array inner cs.length).run cs).bind ofItems?

end Objection

end KanaSettings
