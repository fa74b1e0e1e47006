import KanaSettings.Json.Members

/-!
# Grammars of command lines

At every level of a grammar a word is the name of a command that leads a level deeper, or an option,
or it stands in one of the places that a command has.  Some options are known at every level; the
deepest level that gives one decides.  Words are judged from left to right, and the first that is
wrong, or that asks for help, ends the reading.
-/

namespace KanaSettings.CommandLine

/-- Why there is nothing to carry out. -/
inductive Stop where
  | usage
  | help
  | version
deriving DecidableEq

/-- What the words of a command line say. -/
structure Matches where
  values : List String
  options : Members String
  flags : List String

/-- A place of a command. -/
structure Place where
  accepts : String → Bool
  required : Bool

/-- A place for any word. -/
def Place.any : Place := ⟨fun _ => true, true⟩

/-- A kind of option. -/
structure OptionKind where
  name : String
  /-- The letter that stands for the name, if there is one. -/
  letter : Option Char
  /-- Which values it takes, if it takes one. -/
  accepts : Option (String → Bool)

/-- An option without a value. -/
def OptionKind.flag (name : String) : OptionKind := ⟨name, none, none⟩

/-- An option with any text as its value. -/
def OptionKind.text (name : String) : OptionKind := ⟨name, none, some fun _ => true⟩

/-- A command of its own, or a group of commands. -/
inductive Grammar (α : Type) where
  | command (places : List Place) (options : List OptionKind) (meaning : Matches → Option α)
  | group (members : List (String × Grammar α))

namespace Grammar

variable {α : Type}

/-- The member of a group with a name. -/
def member? : Grammar α → String → Option (Grammar α)
  | .command _ _ _, _ => none
  | .group members, name => Members.get? members name

/-- The places of a command; a group has none. -/
def places : Grammar α → List Place
  | .command places _ _ => places
  | .group _ => []

/-- The options of a command; a group has none. -/
def options : Grammar α → List OptionKind
  | .command _ options _ => options
  | .group _ => []

/-- Whether a grammar is a group. -/
def isGroup : Grammar α → Bool
  | .command _ _ _ => false
  | .group _ => true

/-- Whether words name a command in a grammar, group by group.  Help can be asked of itself. -/
def names (grammar : Grammar α) : List String → Bool
  | [] => true
  | word :: words =>
    match grammar.member? word with
    | some deeper => deeper.names words
    | none => grammar.isGroup && word = "help" && words.isEmpty

end Grammar

/-- Where the reading of a command line has got to. -/
structure Reading (α : Type) where
  grammar : Grammar α
  /-- Whether no command has been named yet. -/
  atTop : Bool
  /-- The options that are known at every level. -/
  everywhere : List OptionKind
  /-- The options given at this level. -/
  given : List String
  /-- Whether the two dashes have been read. -/
  closed : Bool
  /-- The option that waits for its value. -/
  pending : Option OptionKind
  found : Matches

namespace Reading

variable {α : Type}

/-- The start of a command line. -/
def start (grammar : Grammar α) (everywhere : List OptionKind) : Reading α :=
  ⟨grammar, true, everywhere, [], false, none, ⟨[], [], []⟩⟩

/-- Go on at the level of a command. -/
def descend (reading : Reading α) (grammar : Grammar α) : Reading α :=
  { reading with grammar := grammar, atTop := false, given := [] }

/-- The options that may be given. -/
def known (reading : Reading α) : List OptionKind := reading.everywhere ++ reading.grammar.options

/-- Give an option its value. -/
def assign (reading : Reading α) (kind : OptionKind) (value : String) :
    Except Stop (Reading α) :=
  match kind.accepts with
  | none => .error .usage
  | some accepts =>
    if accepts value then
      .ok { reading with
        pending := none
        found := { reading.found with
          options := Members.put kind.name value reading.found.options } }
    else .error .usage

/-- Note an option, with the value that is attached to it if there is one. -/
def give (reading : Reading α) (kind : OptionKind) (attached : Option String) :
    Except Stop (Reading α) :=
  if reading.given.contains kind.name then .error .usage
  else
    let reading := { reading with given := kind.name :: reading.given }
    match kind.accepts, attached with
    | none, some _ => .error .usage
    | none, none =>
      .ok { reading with found := { reading.found with flags := kind.name :: reading.found.flags } }
    | some _, some value => reading.assign kind value
    | some _, none => .ok { reading with pending := some kind }

/-- Read a long option, given without its dashes. -/
def long (reading : Reading α) (text : List Char) : Except Stop (Reading α) :=
  let name := String.ofList (text.takeWhile (· ≠ '='))
  let attached := match text.dropWhile (· ≠ '=') with
    | [] => none
    | _ :: value => some (String.ofList value)
  if name = "help" then .error (if attached.isSome then .usage else .help)
  else if name = "version" ∧ reading.atTop then
    .error (if attached.isSome then .usage else .version)
  else
    match reading.known.find? fun kind => kind.name = name with
    | none => .error .usage
    | some kind => reading.give kind attached

/-- A value that is attached to a letter: an equals sign may stand between them. -/
def attachedToLetter : List Char → Option String
  | [] => none
  | '=' :: value => some (String.ofList value)
  | value => some (String.ofList value)

/-- Read options by their letters, given without the dash.  One that takes a value takes the rest
of the word. -/
def letters (reading : Reading α) : List Char → Except Stop (Reading α)
  | [] => .ok reading
  | letter :: rest =>
    if letter = 'h' then .error .help
    else if letter = 'V' ∧ reading.atTop then .error .version
    else
      match reading.known.find? fun kind => kind.letter = some letter with
      | none => .error .usage
      | some kind =>
        match kind.accepts with
        | some _ => reading.give kind (attachedToLetter rest)
        | none =>
          match reading.give kind none with
          | .error stop => .error stop
          | .ok reading => reading.letters rest

/-- Read a word that stands in a place. -/
def word (reading : Reading α) (text : String) : Except Stop (Reading α) :=
  match reading.grammar.places[reading.found.values.length]? with
  | none => .error .usage
  | some place =>
    if place.accepts text then
      .ok { reading with found := { reading.found with values := reading.found.values ++ [text] } }
    else .error .usage

/-- Read a word that is no name of a command. -/
def other (reading : Reading α) (text : String) : Except Stop (Reading α) :=
  match reading.closed, text.toList with
  | false, ['-', '-'] => .ok { reading with closed := true }
  | false, '-' :: '-' :: option =>
    if reading.pending.isSome then .error .usage else reading.long option
  | false, '-' :: letter :: rest =>
    if reading.pending.isSome then .error .usage else reading.letters (letter :: rest)
  | closed, _ =>
    match reading.pending with
    | none => reading.word text
    | some kind => if closed then .error .usage else reading.assign kind text

/-- What the words that were read mean, if nothing is missing. -/
def finish (reading : Reading α) : Except Stop α :=
  match reading.pending, reading.grammar with
  | none, .command places _ meaning =>
    if (places.drop reading.found.values.length).any Place.required then .error .usage
    else
      match meaning reading.found with
      | some command => .ok command
      | none => .error .usage
  | _, _ => .error .usage

/-- Read the words that are left. -/
def run (reading : Reading α) : List String → Except Stop α
  | [] => reading.finish
  | text :: words =>
    let isName := !reading.closed && reading.pending.isNone
    match isName, reading.grammar.member? text with
    | true, some deeper => (reading.descend deeper).run words
    | _, _ =>
      if isName && reading.grammar.isGroup && text = "help" then
        .error (if reading.grammar.names words then .help else .usage)
      else
        match reading.other text with
        | .error stop => .error stop
        | .ok reading => reading.run words

end Reading

end KanaSettings.CommandLine
