import KanaSettings.Json.Basic

/-!
# Writing JSON

A value is written on one line without any blank, which is the form of messages, or with one member
or item to a line, which is the form of files and of what the command line prints.
-/

namespace KanaSettings.Json

/-! ## Texts -/

/-- A digit of a hexadecimal number, in lower case. -/
def hexDigit (n : Nat) : Char := Nat.digitChar (n % 16)

/-- How one character is written inside quotes. -/
def escape (c : Char) : List Char :=
  if c = '"' then ['\\', '"']
  else if c = '\\' then ['\\', '\\']
  else if c.toNat < 0x20 then
    if c = '\x08' then ['\\', 'b']
    else if c = '\t' then ['\\', 't']
    else if c = '\n' then ['\\', 'n']
    else if c = '\x0c' then ['\\', 'f']
    else if c = '\r' then ['\\', 'r']
    else ['\\', 'u', '0', '0', hexDigit (c.toNat / 16), hexDigit c.toNat]
  else [c]

/-- Append a quoted text. -/
def quoteOnto (s : String) (out : String) : String :=
  (s.foldl (fun out c => (escape c).foldl String.push out) (out.push '"')).push '"'

/-! ## Values -/

/-- Where the parts of a value stand. -/
inductive Layout where
  | compact
  /-- One part to a line; the value stands this many levels deep. -/
  | indented (level : Nat)

namespace Layout

/-- The layout of the parts of a value. -/
def deeper : Layout → Layout
  | .compact => .compact
  | .indented level => .indented (level + 1)

/-- What separates a part from what stands before it: a line of its own, or nothing. -/
def lineBreak : Layout → List Char
  | .compact => []
  | .indented level => '\n' :: List.replicate (2 * level) ' '

/-- What stands between a name and its value. -/
def colon : Layout → List Char
  | .compact => [':']
  | .indented _ => [':', ' ']

end Layout

/-- Append characters. -/
def pushAll (out : String) (cs : List Char) : String := cs.foldl String.push out

mutual

/-- Append a value to what is already written. -/
def writeOnto (layout : Layout) : Json → String → String
  | .null, out => out ++ "null"
  | .bool true, out => out ++ "true"
  | .bool false, out => out ++ "false"
  | .number value, out => out ++ value.text
  | .string value, out => quoteOnto value out
  | .array [], out => out ++ "[]"
  | .array (item :: items), out =>
    let out := writeItems layout.deeper (item :: items) true (out.push '[')
    (pushAll out layout.lineBreak).push ']'
  | .object [], out => (out.push '\x7b').push '\x7d'
  | .object (member :: members), out =>
    let out := writeMembers layout.deeper (member :: members) true (out.push '\x7b')
    (pushAll out layout.lineBreak).push '\x7d'

/-- Append the items of an array, each on its own place. -/
def writeItems (layout : Layout) : List Json → (first : Bool) → String → String
  | [], _, out => out
  | item :: items, first, out =>
    let out := pushAll (if first then out else out.push ',') layout.lineBreak
    writeItems layout items false (writeOnto layout item out)

/-- Append the members of an object, each on its own place. -/
def writeMembers (layout : Layout) : List (String × Json) → (first : Bool) → String → String
  | [], _, out => out
  | (key, value) :: members, first, out =>
    let out := pushAll (if first then out else out.push ',') layout.lineBreak
    let out := pushAll (quoteOnto key out) layout.colon
    writeMembers layout members false (writeOnto layout value out)

end

/-- A value on one line. -/
def compact (value : Json) : String := writeOnto .compact value ""

/-- A value with one part to a line. -/
def pretty (value : Json) : String := writeOnto (.indented 0) value ""

end KanaSettings.Json
