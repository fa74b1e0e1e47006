import KanaSettings.Slice.Rows
import KanaSettings.Text.Blank

/-!
# The user dictionary

The words a person has added, each with its reading.  No pair of reading and word may occur
twice, and there is room for fifty.
-/

namespace KanaSettings

/-- A word and how it is read. -/
structure DictionaryEntry where
  reading : String
  word : String
deriving DecidableEq

namespace DictionaryEntry

/-- The value as a document holds it. -/
def encode (entry : DictionaryEntry) : Json :=
  .object [("reading", .string entry.reading), ("word", .string entry.word)]

/-- An entry read strictly. -/
def decode? (value : Json) : Option DictionaryEntry :=
  match value.record? ["reading", "word"] with
  | some [reading, word] => return ⟨← reading.text?, ← word.text?⟩
  | _ => none

/-- A row of a dictionary. -/
def ofRow? : Json → Option DictionaryEntry
  | .object fields =>
    match Members.get? fields "reading", Members.get? fields "word" with
    | some (.string reading), some (.string word) => some ⟨reading, word⟩
    | _, _ => none
  | _ => none

/-- An entry without the blanks around its fields. -/
def trimmed (entry : DictionaryEntry) : DictionaryEntry :=
  ⟨Text.trim entry.reading, Text.trim entry.word⟩

/-- Whether both fields hold something. -/
def isComplete (entry : DictionaryEntry) : Bool := !entry.reading.isEmpty && !entry.word.isEmpty

end DictionaryEntry

namespace UserDictionary

/-- How many entries there is room for. -/
def capacity : Nat := 50

/-- The dictionary as a document holds it. -/
def encode (entries : List DictionaryEntry) : Json :=
  .array (entries.map DictionaryEntry.encode)

/-- A dictionary read strictly. -/
def decode? (value : Json) : Option (List DictionaryEntry) := do
  (← value.items?).mapM DictionaryEntry.decode?

/-- The dictionary of whatever a document holds. -/
def normalize : Option Json → List DictionaryEntry
  | some (.array items) => items.filterMap DictionaryEntry.ofRow?
  | _ => []

/-- The dictionary that somebody hands in. -/
def ofInput : Json → Except (List Objection) (List DictionaryEntry) :=
  Rows.ofInput "dictionary entry" DictionaryEntry.ofRow?

/-- The objections to trimmed entries from position `index` on.  Of the complete entries before
them, `seen` holds each that occurs, with the position where it first does. -/
def objectionsFrom (seen : List (DictionaryEntry × Nat)) :
    (index : Nat) → List DictionaryEntry → List Objection
  | _, [] => []
  | index, entry :: entries =>
    if entry.isComplete then
      match seen.find? fun earlier => earlier.1 = entry with
      | some (_, first) =>
        .duplicate first index :: objectionsFrom seen (index + 1) entries
      | none => objectionsFrom ((entry, index) :: seen) (index + 1) entries
    else .incomplete index :: objectionsFrom seen (index + 1) entries

/-- The objection to a dictionary that is too long. -/
def lengthObjections (entries : List DictionaryEntry) : List Objection :=
  if capacity < entries.length then [.tooMany entries.length capacity] else []

/-- The dictionary to keep for a candidate: its entries trimmed. -/
def check (entries : List DictionaryEntry) : Except (List Objection) (List DictionaryEntry) :=
  let entries := entries.map DictionaryEntry.trimmed
  match objectionsFrom [] 0 entries ++ lengthObjections entries with
  | [] => .ok entries
  | objections => .error objections

/-- The dictionary without the first entry equal to the one given, whose fields are trimmed
first; entries of the dictionary are compared as they stand. -/
def removeWord (reading word : String) (entries : List DictionaryEntry) :
    Except (List Objection) (List DictionaryEntry) :=
  let target : DictionaryEntry := ⟨Text.trim reading, Text.trim word⟩
  match entries.findIdx? fun entry => entry = target with
  | some index => (Rows.remove entries index).map Prod.snd
  | none =>
    .error [.malformed none s!"no dictionary entry {target.reading} -> {target.word}"]

end UserDictionary

end KanaSettings
