import KanaSettings.Choice
import KanaSettings.Json.Reader

/-!
# The slices of a document

Seven parts of a settings document are understood here.  Each has a name and a place: a top-level
key, and for some slices a key inside the object there.
-/

namespace KanaSettings

/-- The name of a slice. -/
inductive SliceName where
  | shortcuts
  | general
  /-- The settings of the neural conversion model. -/
  | zenzai
  | symbolWidth
  | widthGroups
  | romajiTable
  | userDictionary
deriving DecidableEq

namespace SliceName

instance : Choice SliceName where
  all := [shortcuts, general, zenzai, symbolWidth, widthGroups, romajiTable, userDictionary]
  name
    | shortcuts => "shortcuts"
    | general => "general"
    | zenzai => "zenzai"
    | symbolWidth => "symbol_width"
    | widthGroups => "width_groups"
    | romajiTable => "romaji_table"
    | userDictionary => "user_dictionary"

/-- The message for a name that no slice bears. -/
def unknownMessage (text : String) : String :=
  s!"unknown slice '{text}' (expected one of: " ++ Choice.known SliceName ++ ")"

/-- The slice that a text of JSON names. -/
def parse? (text : String) : Option SliceName :=
  (Json.Reader.variant Choice.ofName? fun _ => none).run text.toList

/-- Where a slice stands: its top-level key and the key inside the object there, if it has one. -/
def path : SliceName → String × Option String
  | shortcuts => ("shortcuts", none)
  | general => ("general", none)
  | zenzai => ("zenzai", none)
  | symbolWidth => ("character_width", some "symbol_fullwidth")
  | widthGroups => ("character_width", some "groups")
  | romajiTable => ("romaji_table", some "rows")
  | userDictionary => ("user_dictionary", some "entries")

/-- Whether a slice is a sequence of rows.  Only those can be refused by a check. -/
def isSequence : SliceName → Bool
  | romajiTable | userDictionary => true
  | _ => false

end SliceName

end KanaSettings
