import KanaSettings.Slice.Patch

/-!
# Shortcuts

Which keys switch the input mode.
-/

namespace KanaSettings

/-- The keys that switch the input mode. -/
@[ext]
structure Shortcuts where
  ctrlSpaceToggle : Bool
  altBackquoteToggle : Bool
deriving DecidableEq

namespace Shortcuts

/-- Both keys switch unless a document says otherwise. -/
def standard : Shortcuts := ⟨true, true⟩

/-- The value as a document holds it. -/
def encode (s : Shortcuts) : Json :=
  .object [("ctrl_space_toggle", .bool s.ctrlSpaceToggle),
    ("alt_backquote_toggle", .bool s.altBackquoteToggle)]

/-- A value with every field in place, read strictly. -/
def decode? (value : Json) : Option Shortcuts :=
  match value.record? ["ctrl_space_toggle", "alt_backquote_toggle"] with
  | some [ctrlSpace, altBackquote] => return ⟨← ctrlSpace.bool?, ← altBackquote.bool?⟩
  | _ => none

/-- The value under a patch. -/
def overlay (base : Shortcuts) : Json → Shortcuts
  | .object patch =>
    { ctrlSpaceToggle := Patch.flag patch "ctrl_space_toggle" base.ctrlSpaceToggle
      altBackquoteToggle := Patch.flag patch "alt_backquote_toggle" base.altBackquoteToggle }
  | _ => base

/-- The value of whatever a document holds. -/
def normalize (raw : Option Json) : Shortcuts := standard.overlay (raw.getD .null)

end Shortcuts

end KanaSettings
