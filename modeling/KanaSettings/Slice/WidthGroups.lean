import KanaSettings.Slice.Patch

/-!
# Widths of character groups

For each of eleven groups of characters, whether it is typed half or full width.
-/

namespace KanaSettings

/-- The width of a character. -/
inductive WidthMode where
  | half
  | full
deriving DecidableEq

namespace WidthMode

instance : Choice WidthMode where
  all := [half, full]
  name
    | half => "half"
    | full => "full"

/-- A choice read strictly. -/
def decode? (value : Json) : Option WidthMode :=
  match value.variantName? with
  | some "half" => some half
  | some "full" => some full
  | _ => none

end WidthMode

/-- A group of characters that share a width. -/
inductive WidthGroup where
  | alphabet
  | number
  | bracket
  | commaPeriod
  | middleDotCornerBracket
  | quote
  | colonSemicolon
  /-- The number sign and the signs that go with it. -/
  | hashGroup
  | tilde
  | mathSymbol
  | questionExclamation
deriving DecidableEq

namespace WidthGroup

instance : Choice WidthGroup where
  all := [alphabet, number, bracket, commaPeriod, middleDotCornerBracket, quote, colonSemicolon,
    hashGroup, tilde, mathSymbol, questionExclamation]
  name
    | alphabet => "alphabet"
    | number => "number"
    | bracket => "bracket"
    | commaPeriod => "comma_period"
    | middleDotCornerBracket => "middle_dot_corner_bracket"
    | quote => "quote"
    | colonSemicolon => "colon_semicolon"
    | hashGroup => "hash_group"
    | tilde => "tilde"
    | mathSymbol => "math_symbol"
    | questionExclamation => "question_exclamation"

/-- A group read strictly. -/
def decode? (value : Json) : Option WidthGroup :=
  match value.variantName? with
  | some "alphabet" => some alphabet
  | some "number" => some number
  | some "bracket" => some bracket
  | some "comma_period" => some commaPeriod
  | some "middle_dot_corner_bracket" => some middleDotCornerBracket
  | some "quote" => some quote
  | some "colon_semicolon" => some colonSemicolon
  | some "hash_group" => some hashGroup
  | some "tilde" => some tilde
  | some "math_symbol" => some mathSymbol
  | some "question_exclamation" => some questionExclamation
  | _ => none

end WidthGroup

/-- The width of every group. -/
@[ext]
structure WidthGroups where
  alphabet : WidthMode
  number : WidthMode
  bracket : WidthMode
  commaPeriod : WidthMode
  middleDotCornerBracket : WidthMode
  quote : WidthMode
  colonSemicolon : WidthMode
  hashGroup : WidthMode
  tilde : WidthMode
  mathSymbol : WidthMode
  questionExclamation : WidthMode
deriving DecidableEq

namespace WidthGroups

/-- Letters, digits and the number sign are half width unless a document says otherwise. -/
def standard : WidthGroups :=
  { alphabet := .half
    number := .half
    bracket := .full
    commaPeriod := .full
    middleDotCornerBracket := .full
    quote := .full
    colonSemicolon := .full
    hashGroup := .half
    tilde := .full
    mathSymbol := .full
    questionExclamation := .full }

/-- The width of a group. -/
def get (g : WidthGroups) : WidthGroup → WidthMode
  | .alphabet => g.alphabet
  | .number => g.number
  | .bracket => g.bracket
  | .commaPeriod => g.commaPeriod
  | .middleDotCornerBracket => g.middleDotCornerBracket
  | .quote => g.quote
  | .colonSemicolon => g.colonSemicolon
  | .hashGroup => g.hashGroup
  | .tilde => g.tilde
  | .mathSymbol => g.mathSymbol
  | .questionExclamation => g.questionExclamation

/-- The widths with that of one group changed. -/
def set (g : WidthGroups) (group : WidthGroup) (mode : WidthMode) : WidthGroups :=
  match group with
  | .alphabet => { g with alphabet := mode }
  | .number => { g with number := mode }
  | .bracket => { g with bracket := mode }
  | .commaPeriod => { g with commaPeriod := mode }
  | .middleDotCornerBracket => { g with middleDotCornerBracket := mode }
  | .quote => { g with quote := mode }
  | .colonSemicolon => { g with colonSemicolon := mode }
  | .hashGroup => { g with hashGroup := mode }
  | .tilde => { g with tilde := mode }
  | .mathSymbol => { g with mathSymbol := mode }
  | .questionExclamation => { g with questionExclamation := mode }

theorem get_set (g : WidthGroups) (a b : WidthGroup) (mode : WidthMode) :
    (g.set a mode).get b = if a = b then mode else g.get b := by
  cases a <;> cases b <;> rfl

/-- The value as a document holds it. -/
def encode (g : WidthGroups) : Json :=
  .object [("alphabet", Choice.encode g.alphabet),
    ("number", Choice.encode g.number),
    ("bracket", Choice.encode g.bracket),
    ("comma_period", Choice.encode g.commaPeriod),
    ("middle_dot_corner_bracket", Choice.encode g.middleDotCornerBracket),
    ("quote", Choice.encode g.quote),
    ("colon_semicolon", Choice.encode g.colonSemicolon),
    ("hash_group", Choice.encode g.hashGroup),
    ("tilde", Choice.encode g.tilde),
    ("math_symbol", Choice.encode g.mathSymbol),
    ("question_exclamation", Choice.encode g.questionExclamation)]

/-- A value with every field in place, read strictly. -/
def decode? (value : Json) : Option WidthGroups := do
  let modes ← (← value.record? ["alphabet", "number", "bracket", "comma_period",
    "middle_dot_corner_bracket", "quote", "colon_semicolon", "hash_group", "tilde", "math_symbol",
    "question_exclamation"]).mapM WidthMode.decode?
  match modes with
  | [alphabet, number, bracket, commaPeriod, middleDotCornerBracket, quote, colonSemicolon,
      hashGroup, tilde, mathSymbol, questionExclamation] =>
    return ⟨alphabet, number, bracket, commaPeriod, middleDotCornerBracket, quote, colonSemicolon,
      hashGroup, tilde, mathSymbol, questionExclamation⟩
  | _ => none

/-- The value under a patch, whose members bear the names of groups. -/
def overlay (base : WidthGroups) : Json → WidthGroups
  | .object patch =>
    (Choice.all : List WidthGroup).foldl (fun g group =>
      g.set group (Patch.choice patch (Choice.name group) Choice.ofName? (g.get group))) base
  | _ => base

/-- The value of whatever a document holds. -/
def normalize (raw : Option Json) : WidthGroups := standard.overlay (raw.getD .null)

end WidthGroups

end KanaSettings
