import KanaSettings.Slice.Patch

/-!
# General style

How punctuation, symbols, the space and the keys of the numeric pad come out.  One choice of the
space had another name in older documents, which is still understood there.
-/

namespace KanaSettings

/-- What the comma and the period become in kana mode. -/
inductive PunctuationStyle where
  | toutenKuten
  | fullwidthCommaFullwidthPeriod
  | toutenFullwidthPeriod
  | fullwidthCommaKuten
deriving DecidableEq

namespace PunctuationStyle

instance : Choice PunctuationStyle where
  all := [toutenKuten, fullwidthCommaFullwidthPeriod, toutenFullwidthPeriod, fullwidthCommaKuten]
  name
    | toutenKuten => "touten_kuten"
    | fullwidthCommaFullwidthPeriod => "fullwidth_comma_fullwidth_period"
    | toutenFullwidthPeriod => "touten_fullwidth_period"
    | fullwidthCommaKuten => "fullwidth_comma_kuten"

/-- A choice read strictly. -/
def decode? (value : Json) : Option PunctuationStyle :=
  match value.variantName? with
  | some "touten_kuten" => some toutenKuten
  | some "fullwidth_comma_fullwidth_period" => some fullwidthCommaFullwidthPeriod
  | some "touten_fullwidth_period" => some toutenFullwidthPeriod
  | some "fullwidth_comma_kuten" => some fullwidthCommaKuten
  | _ => none

end PunctuationStyle

/-- What brackets, the slash and the backslash become in kana mode. -/
inductive SymbolStyle where
  | cornerBracketMiddleDot
  | squareBracketBackslash
  | cornerBracketBackslash
  | squareBracketMiddleDot
deriving DecidableEq

namespace SymbolStyle

instance : Choice SymbolStyle where
  all := [cornerBracketMiddleDot, squareBracketBackslash, cornerBracketBackslash,
    squareBracketMiddleDot]
  name
    | cornerBracketMiddleDot => "corner_bracket_middle_dot"
    | squareBracketBackslash => "square_bracket_backslash"
    | cornerBracketBackslash => "corner_bracket_backslash"
    | squareBracketMiddleDot => "square_bracket_middle_dot"

/-- A choice read strictly. -/
def decode? (value : Json) : Option SymbolStyle :=
  match value.variantName? with
  | some "corner_bracket_middle_dot" => some cornerBracketMiddleDot
  | some "square_bracket_backslash" => some squareBracketBackslash
  | some "corner_bracket_backslash" => some cornerBracketBackslash
  | some "square_bracket_middle_dot" => some squareBracketMiddleDot
  | _ => none

end SymbolStyle

/-- The width of the space. -/
inductive SpaceInput where
  | alwaysHalf
  | followInputMode
deriving DecidableEq

namespace SpaceInput

instance : Choice SpaceInput where
  all := [alwaysHalf, followInputMode]
  name
    | alwaysHalf => "always_half"
    | followInputMode => "follow_input_mode"

/-- The choice that an older document means by a name of its own. -/
def ofOldName? (text : String) : Option SpaceInput :=
  if text = "follow" then some followInputMode else none

/-- The choice that a document means by a name, of today or of older documents. -/
def ofStoredName? (text : String) : Option SpaceInput :=
  (Choice.ofName? text).or (ofOldName? text)

/-- A choice read strictly. -/
def decode? (value : Json) : Option SpaceInput :=
  match value.variantName? with
  | some "always_half" => some alwaysHalf
  | some "follow_input_mode" => some followInputMode
  | _ => none

end SpaceInput

/-- The width of what the numeric pad types. -/
inductive NumpadInput where
  | alwaysHalf
  | followInputMode
deriving DecidableEq

namespace NumpadInput

instance : Choice NumpadInput where
  all := [alwaysHalf, followInputMode]
  name
    | alwaysHalf => "always_half"
    | followInputMode => "follow_input_mode"

/-- A choice read strictly. -/
def decode? (value : Json) : Option NumpadInput :=
  match value.variantName? with
  | some "always_half" => some alwaysHalf
  | some "follow_input_mode" => some followInputMode
  | _ => none

end NumpadInput

/-- The general style. -/
@[ext]
structure General where
  punctuationStyle : PunctuationStyle
  symbolStyle : SymbolStyle
  spaceInput : SpaceInput
  numpadInput : NumpadInput
deriving DecidableEq

namespace General

/-- The first choice of each kind holds unless a document says otherwise. -/
def standard : General := ⟨.toutenKuten, .cornerBracketMiddleDot, .alwaysHalf, .alwaysHalf⟩

/-- The value as a document holds it. -/
def encode (g : General) : Json :=
  .object [("punctuation_style", Choice.encode g.punctuationStyle),
    ("symbol_style", Choice.encode g.symbolStyle),
    ("space_input", Choice.encode g.spaceInput),
    ("numpad_input", Choice.encode g.numpadInput)]

/-- A value with every field in place, read strictly. -/
def decode? (value : Json) : Option General :=
  match value.record? ["punctuation_style", "symbol_style", "space_input", "numpad_input"] with
  | some [punctuation, symbol, space, numpad] =>
    return ⟨← PunctuationStyle.decode? punctuation, ← SymbolStyle.decode? symbol,
      ← SpaceInput.decode? space, ← NumpadInput.decode? numpad⟩
  | _ => none

/-- The value under a patch. -/
def overlay (base : General) : Json → General
  | .object patch =>
    { punctuationStyle :=
        Patch.choice patch "punctuation_style" Choice.ofName? base.punctuationStyle
      symbolStyle := Patch.choice patch "symbol_style" Choice.ofName? base.symbolStyle
      spaceInput := Patch.choice patch "space_input" SpaceInput.ofStoredName? base.spaceInput
      numpadInput := Patch.choice patch "numpad_input" Choice.ofName? base.numpadInput }
  | _ => base

/-- The value of whatever a document holds. -/
def normalize (raw : Option Json) : General := standard.overlay (raw.getD .null)

end General

end KanaSettings
