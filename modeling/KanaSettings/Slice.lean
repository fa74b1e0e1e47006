import KanaSettings.Slice.Name
import KanaSettings.Slice.Shortcuts
import KanaSettings.Slice.General
import KanaSettings.Slice.Zenzai
import KanaSettings.Slice.SymbolWidth
import KanaSettings.Slice.WidthGroups
import KanaSettings.Slice.Romaji
import KanaSettings.Slice.Dictionary

/-!
# Slices and their values

Every slice has a type of values, and the same five things can be done with each: make a value of
whatever a document holds, change a value by a patch, check a candidate and bring it into the
form that is kept, and turn a value into JSON and back.  They are families over the slice's
name, so that what is true of every slice can be said once.
-/

namespace KanaSettings

/-- The values of a slice. -/
abbrev SliceName.Value : SliceName → Type
  | .shortcuts => Shortcuts
  | .general => General
  | .zenzai => Zenzai
  | .symbolWidth => SymbolWidth
  | .widthGroups => WidthGroups
  | .romajiTable => List RomajiRule
  | .userDictionary => List DictionaryEntry

namespace Slice

instance : (name : SliceName) → DecidableEq name.Value
  | .shortcuts => inferInstanceAs (DecidableEq Shortcuts)
  | .general => inferInstanceAs (DecidableEq General)
  | .zenzai => inferInstanceAs (DecidableEq Zenzai)
  | .symbolWidth => inferInstanceAs (DecidableEq SymbolWidth)
  | .widthGroups => inferInstanceAs (DecidableEq WidthGroups)
  | .romajiTable => inferInstanceAs (DecidableEq (List RomajiRule))
  | .userDictionary => inferInstanceAs (DecidableEq (List DictionaryEntry))

/-- The value of whatever a document holds for a slice, or holds nothing. -/
def normalize : (name : SliceName) → Option Json → name.Value
  | .shortcuts, raw => Shortcuts.normalize raw
  | .general, raw => General.normalize raw
  | .zenzai, raw => Zenzai.normalize raw
  | .symbolWidth, raw => SymbolWidth.normalize raw
  | .widthGroups, raw => WidthGroups.normalize raw
  | .romajiTable, raw => RomajiTable.normalize raw
  | .userDictionary, raw => UserDictionary.normalize raw

/-- The form in which a candidate is kept, or all that is wrong with it. -/
def prepare : (name : SliceName) → name.Value → Except (List Objection) name.Value
  | .shortcuts, value => .ok value
  | .general, value => .ok value
  | .zenzai, value => .ok value
  | .symbolWidth, value => .ok value.canonical
  | .widthGroups, value => .ok value
  | .romajiTable, rules => RomajiTable.check rules
  | .userDictionary, entries => UserDictionary.check entries

/-- A value changed by the JSON that somebody hands in: an object overwrites fields, and an array
takes the place of a sequence. -/
def patch : (name : SliceName) → name.Value → Json → Except (List Objection) name.Value
  | .shortcuts, current, raw => (Patch.ofJson raw).map fun _ => current.overlay raw
  | .general, current, raw => (Patch.ofJson raw).map fun _ => current.overlay raw
  | .zenzai, current, raw => (Patch.ofJson raw).map fun _ => current.overlay raw
  | .symbolWidth, current, raw => (Patch.ofJson raw).map fun _ => current.overlay raw
  | .widthGroups, current, raw => (Patch.ofJson raw).map fun _ => current.overlay raw
  | .romajiTable, _, raw => RomajiTable.ofInput raw
  | .userDictionary, _, raw => UserDictionary.ofInput raw

/-- A value as a document holds it. -/
def encode : (name : SliceName) → name.Value → Json
  | .shortcuts, value => value.encode
  | .general, value => value.encode
  | .zenzai, value => value.encode
  | .symbolWidth, value => value.encode
  | .widthGroups, value => value.encode
  | .romajiTable, rules => RomajiTable.encode rules
  | .userDictionary, entries => UserDictionary.encode entries

/-- A value read strictly: every field in place and of its type. -/
def decode? : (name : SliceName) → Json → Option name.Value
  | .shortcuts, raw => Shortcuts.decode? raw
  | .general, raw => General.decode? raw
  | .zenzai, raw => Zenzai.decode? raw
  | .symbolWidth, raw => SymbolWidth.decode? raw
  | .widthGroups, raw => WidthGroups.decode? raw
  | .romajiTable, raw => RomajiTable.decode? raw
  | .userDictionary, raw => UserDictionary.decode? raw

/-- Whatever a document holds for a slice, brought into the form that the slice's values have
there. -/
def canonical (name : SliceName) (raw : Option Json) : Json := encode name (normalize name raw)

end Slice

end KanaSettings
