import KanaSettings.CommandLine.Command
import KanaSettings.CommandLine.Environment
import KanaSettings.Editor.Call
import KanaSettings.Store.Remote

/-!
# Carrying out a command line

A command line is read, its places are looked up, and the command is carried out on a world of
files and hosts.  What comes of it is a text for each of the two outputs and an exit code: zero,
one for a failure, two for words that mean nothing.  A failure is told with its causes, and a
refused edit of a table with one line for every objection before that.
-/

namespace KanaSettings.CommandLine

/-! ## Output -/

/-- What a command line comes to. -/
structure Output where
  code : Nat
  out : String
  err : String
deriving DecidableEq

/-- A failure as it is told. -/
structure Failure where
  /-- Lines before the message. -/
  notes : List String
  message : String
  causes : List String

namespace Failure

/-- A failure without causes. -/
def ofMessage (message : String) : Failure := ⟨[], message, []⟩

/-- Later lines of a text moved to the right. -/
def hang (indent : String) (text : String) : String :=
  ("\n" ++ indent).intercalate ((text.splitToList (· = '\n')))

/-- Several causes, numbered from `n` on. -/
def numbered : (n : Nat) → List String → String
  | _, [] => ""
  | n, cause :: causes =>
    "\n" ++ String.ofList (List.leftpad 5 ' ' (toString n).toList) ++ ": " ++ hang "       " cause ++
      numbered (n + 1) causes

/-- The causes below a message. -/
def causesText : List String → String
  | [] => ""
  | [cause] => "\n\nCaused by:\n    " ++ hang "    " cause
  | causes => "\n\nCaused by:" ++ numbered 0 causes

/-- All that is said about a failure. -/
def text (failure : Failure) : String :=
  String.join (failure.notes.map fun note => "  " ++ note ++ "\n") ++
    "Error: " ++ failure.message ++ causesText failure.causes ++ "\n"

/-- An edit that failed. -/
def ofEditError [Wording] (error : EditError) : Failure := ⟨[], error.message, error.causes⟩

/-- An edit that failed, with every objection on a line of its own. -/
def ofTableEdit [Wording] : EditError → Failure
  | .rejected objections =>
    ⟨objections.map Objection.message, (EditError.rejected objections).message, []⟩
  | error => ofEditError error

/-- A host that cannot listen. -/
def ofListenError (error : ListenError) : Failure := ⟨[], error.attempt, [error.cause.message]⟩

end Failure

/-! ## Commands -/

/-- What carrying out a command prints, and the world after it. -/
abbrev Result := Except Failure String × World

/-- A value with a line of its own for every part. -/
def line (value : Json) : String := value.pretty ++ "\n"

/-- Look at the document. -/
def reading [Wording] (store : Store World) (world : World) (print : Document → String) : Result :=
  match store.attempt .refresh world with
  | (.ok (.document document), world) => (.ok (print document), world)
  | (.ok reply, world) => (.ok (line reply.encode), world)
  | (.error error, world) => (.error (.ofEditError error), world)

/-- Make a change and print what was stored. -/
def editing [Wording] (store : Store World) (world : World) (name : SliceName)
    (change : name.Value → Outcome name.Value) : Result :=
  match store.attempt (.edit name change) world with
  | (.ok reply, world) => (.ok (line reply.encode), world)
  | (.error error, world) => (.error (.ofEditError error), world)

/-- Make a change that can be refused, and print what was stored or nothing. -/
def editingTable [Wording] (store : Store World) (world : World) (silent : Bool) (call : Call) :
    Result :=
  match store.attempt call world with
  | (.ok reply, world) => (.ok (if silent then "" else line reply.encode), world)
  | (.error error, world) => (.error (.ofTableEdit error), world)

/-- The choice that a word names; `what` is the name of the kind of choice in messages. -/
def choice (α : Type) [Choice α] (what word : String) : Except Failure α :=
  match Choice.ofName? word with
  | some a => .ok a
  | none =>
    .error (.ofMessage (s!"unknown {what} '{word}' (expected one of: " ++ Choice.known α ++ ")"))

/-- The choice that a word names, if there is a word. -/
def choice? (α : Type) [Choice α] (what : String) : Option String → Except Failure (Option α)
  | none => .ok none
  | some word => (choice α what word).map some

/-- The change that a shortcut's name asks for. -/
def shortcutChange (key : String) (enabled : Bool) :
    Except Failure (Shortcuts → Outcome Shortcuts) :=
  if key = "ctrl-space" then .ok fun s => .settled { s with ctrlSpaceToggle := enabled }
  else if key = "alt-backquote" then .ok fun s => .settled { s with altBackquoteToggle := enabled }
  else .error (.ofMessage s!"unknown shortcut '{key}' (expected ctrl-space or alt-backquote)")

/-- The change that a group and a width ask for. -/
def widthChange (group mode : String) : Except Failure (WidthGroups → Outcome WidthGroups) := do
  let group ← choice WidthGroup "width group" group
  let mode ← choice WidthMode "width mode" mode
  return fun g => .settled (g.set group mode)

/-- The change that a symbol asks for. -/
def symbolChange (key : String) (fullwidth : Bool) :
    Except Failure (SymbolWidth → Outcome SymbolWidth) :=
  if (SymbolWidth.standardWidth? key).isSome then
    .ok fun m => .settled ((m.set? key fullwidth).getD m)
  else .error (.ofMessage s!"unknown symbol key '{key}'")

/-- The change that choices of the general style ask for. -/
def generalChange (punctuation symbol space numpad : Option String) :
    Except Failure (General → Outcome General) := do
  let punctuation ← choice? PunctuationStyle "punctuation style" punctuation
  let symbol ← choice? SymbolStyle "symbol style" symbol
  let space ← choice? SpaceInput "space input" space
  let numpad ← choice? NumpadInput "numpad input" numpad
  return fun g => .settled
    { punctuationStyle := punctuation.getD g.punctuationStyle
      symbolStyle := symbol.getD g.symbolStyle
      spaceInput := space.getD g.spaceInput
      numpadInput := numpad.getD g.numpadInput }

/-- The rules of a table, one to a line, with their positions from `n` on. -/
def listing : (n : Nat) → List RomajiRule → String
  | _, [] => ""
  | n, rule :: rules =>
    String.ofList (List.leftpad 4 ' ' (toString n).toList) ++ "  " ++ rule.input ++ "\t" ++
      rule.output ++ "\t" ++ rule.nextInput ++ "\n" ++ listing (n + 1) rules

/-- What the machine can run, as far as a host tells. -/
def probe [Wording] (remote : Remote) (world : World) : Capabilities × World :=
  let (answer, world) := remote.probe world
  (.orCpuOnly answer.toOption, world)

/-- Carry out a change that the words of a command may not name. -/
def editingNamed [Wording] (store : Store World) (world : World) (name : SliceName) :
    Except Failure (name.Value → Outcome name.Value) → Result
  | .error failure => (.error failure, world)
  | .ok change => editing store world name change

/-- Choose a backend, if the machine can run it. -/
def chooseBackend [Wording] (store : Store World) (remote : Remote) (world : World) (word : String) :
    Result :=
  match choice Backend "backend" word with
  | .error failure => (.error failure, world)
  | .ok backend =>
    let (capabilities, world) := probe remote world
    if capabilities.supports backend then
      editing store world .zenzai fun z => .settled { z with backend := backend }
    else
      (.error (.ofMessage s!"backend '{Choice.name backend}' is not available on this machine"),
        world)

/-- Carry out a command on the document of a store. -/
def execute [Wording] (store : Store World) (remote : Remote) (world : World) : Command → Result
  | .show => reading store world fun document => line document.overview
  | .get slice => reading store world fun document => line (document.canonical slice)
  | .set slice json =>
    match Json.parse? json with
    | none => (.error ⟨[], "Failed to parse JSON argument", [Wording.notJson json]⟩, world)
    | some raw => editingTable store world false (.patch slice raw)
  | .shortcut key enabled => editingNamed store world .shortcuts (shortcutChange key enabled)
  | .width group mode => editingNamed store world .widthGroups (widthChange group mode)
  | .symbol key fullwidth => editingNamed store world .symbolWidth (symbolChange key fullwidth)
  | .general punctuation symbol space numpad =>
    editingNamed store world .general (generalChange punctuation symbol space numpad)
  | .listWords => reading store world fun document => line (document.canonical .userDictionary)
  | .addWord reading word =>
    editingTable store world false (.edit .userDictionary fun entries =>
      .settled (entries ++ [⟨reading, word⟩]))
  | .removeWord reading word =>
    editingTable store world false (.edit .userDictionary fun entries =>
      .ofExcept (UserDictionary.removeWord reading word entries))
  | .listRules => reading store world fun document => listing 0 (document.read .romajiTable)
  | .addRule input output nextInput =>
    editingTable store world true (.edit .romajiTable fun rules =>
      .settled (rules ++ [⟨input, output, nextInput⟩]))
  | .removeRule index =>
    editingTable store world true (.edit .romajiTable fun rules =>
      .ofExcept ((Rows.remove rules index).map Prod.snd))
  | .resetRules => editingTable store world true (.replace .romajiTable RomajiTable.bundled)
  | .enable enabled => editing store world .zenzai fun z => .settled { z with enable := enabled }
  | .profile text => editing store world .zenzai fun z => .settled { z with profile := text }
  | .backend word => chooseBackend store remote world word
  | .backends =>
    let (capabilities, world) := probe remote world
    (.ok (String.join (capabilities.selectable.map fun b => Choice.name b ++ "\n")), world)
  | .serve _ _ => (.error (.ofMessage "serve does not take an editing engine"), world)

/-! ## Command lines -/

/-- What becomes of a process. -/
inductive Ending where
  | exits (output : Output)
  | serves (socket : Path)

/-- A failure as an ending. -/
def Ending.ofFailure (failure : Failure) : Ending := .exits ⟨1, "", failure.text⟩

/-- The name and the version of the program. -/
def versionText : String := "ime-settings 0.1.0\n"

/-- What is said to words that mean nothing, and to a person who asks for help. -/
def usageText : String :=
  "Usage: ime-settings [--config PATH] [--socket PATH] [--remote] COMMAND\n" ++
  "Commands: show, get, set, shortcut, width, symbol, general, dict, romaji, zenzai, serve\n"

/-- What there is to say when nothing is carried out. -/
def Stop.output : Stop → Output
  | .usage => ⟨2, "", usageText⟩
  | .help => ⟨0, usageText, ""⟩
  | .version => ⟨0, versionText, ""⟩

/-- The store of a file in a world. -/
def fileStore (file : SettingsFile) : Store World :=
  file.store.inside World.tree fun tree world => { world with tree := tree }

/-- Carry out a command with its file and its socket. -/
def carryOut [Wording] (file : SettingsFile) (socket : Path) (remotely : Bool) (world : World)
    (command : Command) : Ending × World :=
  match command with
  | .serve cuda vulkan =>
    match world.listen socket ⟨file, ⟨true, cuda, vulkan⟩⟩ with
    | (.ok (), world) => (.serves socket, world)
    | (.error error, world) => (.ofFailure (.ofListenError error), world)
  | command =>
    let store := if remotely then Remote.store ⟨socket⟩ else fileStore file
    match execute store ⟨socket⟩ world command with
    | (.ok out, world) => (.exits ⟨0, out, ""⟩, world)
    | (.error failure, world) => (.ofFailure failure, world)

/-- The settings file that a command line is about. -/
def Invocation.file (invocation : Invocation) (environment : Environment) : SettingsFile :=
  ⟨(invocation.config.map Path.mk).getD environment.settingsPath⟩

/-- The socket that a command line is about, if there is a place for one. -/
def Invocation.socketPath? (invocation : Invocation) (environment : Environment) : Option Path :=
  (invocation.socket.map Path.mk).or environment.socketPath?

/-- Run a command line. -/
def run [Wording] (environment : Environment) (words : List String) (world : World) :
    Ending × World :=
  match parse words with
  | .error stop => (.exits stop.output, world)
  | .ok invocation =>
    match invocation.socketPath? environment with
    | none =>
      (.ofFailure (.ofMessage
        "No XDG_RUNTIME_DIR and no cache directory for the settings socket"), world)
    | some socket =>
      carryOut (invocation.file environment) socket invocation.remote world invocation.command

end KanaSettings.CommandLine
