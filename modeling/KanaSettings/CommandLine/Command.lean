import KanaSettings.CommandLine.Grammar
import KanaSettings.Slice.Name

/-!
# Commands

What a person can ask for on the command line: to look at slices, to change one by JSON or by a
command of its own, or to serve the document to others.
-/

namespace KanaSettings.CommandLine

/-- What is asked for. -/
inductive Command where
  | show
  | get (slice : SliceName)
  | set (slice : SliceName) (json : String)
  | shortcut (key : String) (enabled : Bool)
  | width (group mode : String)
  | symbol (key : String) (fullwidth : Bool)
  /-- Set the general style, as far as choices are given. -/
  | general (punctuation symbol space numpad : Option String)
  | listWords
  | addWord (reading word : String)
  | removeWord (reading word : String)
  | listRules
  | addRule (input output nextInput : String)
  | removeRule (index : Nat)
  | resetRules
  | enable (enabled : Bool)
  | profile (text : String)
  | backend (name : String)
  | backends
  | serve (cuda vulkan : Bool)

/-- A command with the options that are known everywhere. -/
structure Invocation where
  config : Option String
  socket : Option String
  /-- Whether the host is to be asked instead of the file. -/
  remote : Bool
  command : Command

/-! ## Words -/

/-- The truth value that a word names. -/
def truth? (word : String) : Option Bool :=
  if word = "true" then some true else if word = "false" then some false else none

/-- The number that decimal digits form. -/
def decimal? : List Char → Option Nat
  | [] => none
  | digits =>
    if digits.all Char.isDigit then
      some (digits.foldl (fun n digit => n * 10 + (digit.toNat - '0'.toNat)) 0)
    else none

/-- The position that a word names: a number of 64 bits in decimal digits, with or without a plus
before them. -/
def position? (word : String) : Option Nat :=
  let digits := match word.toList with
    | '+' :: digits => digits
    | digits => digits
  (decimal? digits).filter (· < Nat.pow 2 64)

/-- A place for a word that can be read. -/
def Place.read {α : Type} (read? : String → Option α) : Place :=
  ⟨fun word => (read? word).isSome, true⟩

/-- A place for the name of a slice. -/
def Place.slice : Place := .read (Choice.ofName? (α := SliceName))

/-- A place for a truth value. -/
def Place.truth : Place := .read truth?

/-! ## The grammar -/

namespace Matches

/-- The word in a place. -/
def value? (found : Matches) (place : Nat) : Option String := found.values[place]?

/-- The value of an option. -/
def option? (found : Matches) (name : String) : Option String := found.options.get? name

/-- Whether an option without a value is given. -/
def has (found : Matches) (name : String) : Bool := found.flags.contains name

/-- The options that are known everywhere, with a command. -/
def invocation (found : Matches) (command : Command) : Invocation :=
  ⟨found.option? "config", found.option? "socket", found.has "remote", command⟩

end Matches

/-- A command whose meaning is read off its places and options. -/
def leaf (places : List Place) (options : List OptionKind)
    (meaning : Matches → Option Command) : Grammar Invocation :=
  .command places options fun found => (meaning found).map found.invocation

/-- A command without places. -/
def plain (command : Command) : Grammar Invocation := leaf [] [] fun _ => some command

/-- A command with two words. -/
def pair (command : String → String → Command) : Grammar Invocation :=
  leaf [.any, .any] [] fun found => return command (← found.value? 0) (← found.value? 1)

/-- A command with a word and a truth value. -/
def switch (command : String → Bool → Command) : Grammar Invocation :=
  leaf [.any, .truth] [] fun found =>
    return command (← found.value? 0) (← truth? (← found.value? 1))

/-- The commands about the user dictionary. -/
def dictionaryGrammar : Grammar Invocation :=
  .group [("list", plain .listWords), ("add", pair .addWord), ("remove", pair .removeWord)]

/-- The commands about the romaji table. -/
def romajiGrammar : Grammar Invocation :=
  .group
    [("list", plain .listRules),
     ("add", leaf [.any, .any, ⟨fun _ => true, false⟩] [] fun found =>
        return .addRule (← found.value? 0) (← found.value? 1) ((found.value? 2).getD "")),
     ("remove", leaf [.read position?] [] fun found =>
        return .removeRule (← position? (← found.value? 0))),
     ("reset", plain .resetRules)]

/-- The commands about the conversion model. -/
def zenzaiGrammar : Grammar Invocation :=
  .group
    [("enable", leaf [.truth] [] fun found => return .enable (← truth? (← found.value? 0))),
     ("profile", leaf [.any] [] fun found => return .profile (← found.value? 0)),
     ("backend", leaf [.any] [] fun found => return .backend (← found.value? 0)),
     ("backends", plain .backends)]

/-- All commands. -/
def grammar : Grammar Invocation :=
  .group
    [("show", plain .show),
     ("get", leaf [.slice] [] fun found => return .get (← Choice.ofName? (← found.value? 0))),
     ("set", leaf [.slice, .any] [] fun found =>
        return .set (← Choice.ofName? (← found.value? 0)) (← found.value? 1)),
     ("shortcut", switch .shortcut),
     ("width", pair .width),
     ("symbol", switch .symbol),
     ("general", leaf [] [.text "punctuation", .text "symbol", .text "space", .text "numpad"]
        fun found => some (.general (found.option? "punctuation") (found.option? "symbol")
          (found.option? "space") (found.option? "numpad"))),
     ("dict", dictionaryGrammar),
     ("romaji", romajiGrammar),
     ("zenzai", zenzaiGrammar),
     ("serve", leaf [] [.flag "cuda", .flag "vulkan"] fun found =>
        some (.serve (found.has "cuda") (found.has "vulkan")))]

/-- The options that are known everywhere; a path is never empty. -/
def everywhere : List OptionKind :=
  [⟨"config", some 'c', some fun path => !path.isEmpty⟩,
   ⟨"socket", none, some fun path => !path.isEmpty⟩,
   .flag "remote"]

/-- What the words of a command line ask for. -/
def parse (words : List String) : Except Stop Invocation :=
  (Reading.start grammar everywhere).run words

end KanaSettings.CommandLine
