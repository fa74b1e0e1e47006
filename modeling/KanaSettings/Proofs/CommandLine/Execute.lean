import KanaSettings.CommandLine.Run
import KanaSettings.Proofs.Store.Remote

/-!
# What a command asks of the store

Whatever a command checks on its way, it asks the store for one thing at most: to hand out the
document, or to change the slice that the command is about.  Before it asks, and if it asks for
nothing, the world is what it was, even where a host was asked what its machine can run.
-/

namespace KanaSettings

/-! ## Asking a host what its machine can run -/

/-- To ask a host what its machine can run changes nothing, whatever comes of it. -/
lemma Remote.probe_snd [Wording] (remote : Remote) (world : World) :
    (remote.probe world).2 = world := by
  have decodes := Wire.Request.ofPayload?_encode .probeCapabilities (by rintro v ⟨⟩)
  have fits : (Wire.payload Wire.Request.probeCapabilities.encode).size ≤ Wire.maxPayload :=
    Wire.size_probeCapabilities_le
  suffices same : (remote.call .probeCapabilities world).2 = world from same
  unfold call ask
  cases connects : world.connect remote.socket with
  | error cause => rfl
  | ok host =>
    have unchanged : (peer host (Wire.header (Wire.payload Wire.Request.probeCapabilities.encode).size ++
        Wire.payload Wire.Request.probeCapabilities.encode) world).2 = world := by
      simp only [peer]
      rw [Host.converse_single decodes fits]
      split_ifs <;> rfl
    simp only [Except.map, exchange, Wire.frame_eq fits]
    split <;> exact unchanged

/-- The slice that a call changes, if it changes one. -/
def Call.slice? : Call → Option SliceName
  | .refresh => none
  | .edit name _ => some name

namespace CommandLine

/-! ## Commands by what they ask for -/

namespace Command

/-- The slice that a command changes, if it changes one. -/
def slice? : Command → Option SliceName
  | .set slice _ => some slice
  | .shortcut _ _ => some .shortcuts
  | .width _ _ => some .widthGroups
  | .symbol _ _ => some .symbolWidth
  | .general _ _ _ _ => some .general
  | .addWord _ _ | .removeWord _ _ => some .userDictionary
  | .addRule _ _ _ | .removeRule _ | .resetRules => some .romajiTable
  | .enable _ | .profile _ | .backend _ => some .zenzai
  | .show | .get _ | .listWords | .listRules | .backends | .serve _ _ => none

/-- What a command asks of the store, if its words name something. -/
def call? : Command → Option Call
  | .show | .get _ | .listWords | .listRules => some .refresh
  | .set slice json => (Json.parse? json).map (.patch slice)
  | .shortcut key enabled => (shortcutChange key enabled).toOption.map (.edit .shortcuts)
  | .width group mode => (widthChange group mode).toOption.map (.edit .widthGroups)
  | .symbol key fullwidth => (symbolChange key fullwidth).toOption.map (.edit .symbolWidth)
  | .general punctuation style space numpad =>
    (generalChange punctuation style space numpad).toOption.map (.edit .general)
  | .addWord reading word =>
    some (.edit .userDictionary fun entries => .settled (entries ++ [⟨reading, word⟩]))
  | .removeWord reading word =>
    some (.edit .userDictionary fun entries =>
      .ofExcept (UserDictionary.removeWord reading word entries))
  | .addRule input output nextInput =>
    some (.edit .romajiTable fun rules => .settled (rules ++ [⟨input, output, nextInput⟩]))
  | .removeRule index =>
    some (.edit .romajiTable fun rules => .ofExcept ((Rows.remove rules index).map Prod.snd))
  | .resetRules => some (.replace .romajiTable RomajiTable.bundled)
  | .enable enabled => some (.edit .zenzai fun z => .settled { z with enable := enabled })
  | .profile text => some (.edit .zenzai fun z => .settled { z with profile := text })
  | .backend word => (choice Backend "backend" word).toOption.map fun backend =>
    .edit .zenzai fun z => .settled { z with backend := backend }
  | .backends | .serve _ _ => none

/-- A command asks for an edit of the slice that it changes, or for the document if it changes
none. -/
lemma slice?_of_call? {command : Command} {call : Call} (asks : command.call? = some call) :
    command.slice? = call.slice? := by
  cases command with
  | «show» | get slice | listWords | listRules => cases asks; rfl
  | addWord reading word | removeWord reading word | enable enabled | profile text =>
    cases asks; rfl
  | addRule input output nextInput | removeRule index | resetRules => cases asks; rfl
  | set slice json | shortcut key enabled | width group mode | symbol key fullwidth
  | general punctuation style space numpad | backend word =>
    -- Here the words have named something.
    obtain ⟨change, -, rfl⟩ := Option.map_eq_some_iff.1 asks
    rfl
  | backends | serve cuda vulkan => cases asks

/-- Whether a command says nothing of what it has stored. -/
def silent : Command → Bool
  | .addRule _ _ _ | .removeRule _ | .resetRules => true
  | _ => false

/-- What a command makes of an answer of the store. -/
inductive Shows (command : Command) : Except EditError Reply → Except Failure String → Prop where
  | failed (error : EditError) (failure : Failure) : Shows command (.error error) (.error failure)
  | read (document : Document) (text : String) :
      Shows command (.ok (.document document)) (.ok text)
  /-- A value that was stored is printed, unless the command is silent. -/
  | stored (name : SliceName) (value : name.Value) :
      Shows command (.ok (.value name value))
        (.ok (if command.silent then "" else line (Slice.encode name value)))

/-- What a command can come to. -/
inductive Comes (store : Store World) (world : World) (command : Command) : Result → Prop where
  | stopped (failure : Failure) : Comes store world command (.error failure, world)
  /-- It prints something that does not depend on the store. -/
  | told (reads : command.slice? = none) (text : String) :
      Comes store world command (.ok text, world)
  | asked {call : Call} {answer : Except EditError Reply} {after : World}
      {result : Except Failure String} (asks : command.call? = some call)
      (attempt : store.attempt call world = (answer, after)) (shows : command.Shows answer result) :
      Comes store world command (result, after)

end Command

/-! ## One call -/

section

variable {store : Store World} {world : World} {command : Command}

lemma shows_line {reply : Reply} (tells : command.silent = false) :
    command.Shows (.ok reply) (.ok (line reply.encode)) := by
  cases reply with
  | document document => exact .read document _
  | value name value =>
    have shows : command.Shows (.ok (.value name value)) _ := .stored name value
    rwa [tells] at shows

lemma comes_reading [Wording] (print : Document → String) (asks : command.call? = some .refresh)
    (tells : command.silent = false) :
    command.Comes store world (reading store world print) := by
  unfold reading
  split
  · exact .asked asks ‹_› (.read _ _)
  · exact .asked asks ‹_› (shows_line tells)
  · exact .asked asks ‹_› (.failed _ _)

lemma comes_editing [Wording] {name : SliceName} {change : name.Value → Outcome name.Value}
    (asks : command.call? = some (.edit name change)) (tells : command.silent = false) :
    command.Comes store world (editing store world name change) := by
  unfold editing
  split
  · exact .asked asks ‹_› (shows_line tells)
  · exact .asked asks ‹_› (.failed _ _)

lemma comes_editingTable [Wording] {call : Call} (asks : command.call? = some call) :
    command.Comes store world (editingTable store world command.silent call) := by
  unfold editingTable
  split
  · rename_i reply after attempt
    refine .asked asks attempt ?_
    cases reply with
    | document document => exact .read document _
    | value name value => exact .stored name value
  · exact .asked asks ‹_› (.failed _ _)

/-- A change that words name is made, and nothing is done if they name none. -/
lemma comes_editingNamed [Wording] {name : SliceName}
    {named : Except Failure (name.Value → Outcome name.Value)}
    (asks : command.call? = named.toOption.map (.edit name)) (tells : command.silent = false) :
    command.Comes store world (editingNamed store world name named) := by
  cases named with
  | error failure => exact .stopped failure
  | ok change => exact comes_editing asks tells

lemma probe_eq [Wording] (remote : Remote) (world : World) : ∃ capabilities,
    probe remote world = (capabilities, world) := by
  have same := remote.probe_snd world
  rcases probed : remote.probe world with ⟨answer, after⟩
  rw [probed] at same
  cases same
  exact ⟨.orCpuOnly answer.toOption, by simp [probe, probed]⟩

lemma comes_chooseBackend [Wording] (remote : Remote) (word : String) :
    (Command.backend word).Comes store world (chooseBackend store remote world word) := by
  obtain ⟨capabilities, probed⟩ := probe_eq remote world
  unfold chooseBackend
  split
  · exact .stopped _
  · rename_i backend named
    simp only [probed]
    split_ifs
    · refine comes_editing ?_ rfl
      simp [Command.call?, named, Except.toOption]
    · exact .stopped _

end

/-- Whatever a command does, it comes to one call of the store at most. -/
theorem comes_execute [Wording] (store : Store World) (remote : Remote) (world : World)
    (command : Command) :
    command.Comes store world (execute store remote world command) := by
  cases command with
  | «show» | get slice | listWords | listRules => exact comes_reading _ rfl rfl
  -- What stands on the command line is parsed before the store is asked anything.
  | set slice json =>
    rw [execute]
    split
    · exact .stopped _
    · rename_i raw parsed
      have asks : (Command.set slice json).call? = some (.patch slice raw) := by
        simp [Command.call?, parsed]
      exact comes_editingTable asks
  | shortcut key enabled => exact comes_editingNamed rfl rfl
  | width group mode => exact comes_editingNamed rfl rfl
  | symbol key fullwidth => exact comes_editingNamed rfl rfl
  | general punctuation style space numpad => exact comes_editingNamed rfl rfl
  | addWord reading word | removeWord reading word => exact comes_editingTable rfl
  | addRule input output nextInput | removeRule index | resetRules => exact comes_editingTable rfl
  | enable enabled => exact comes_editing rfl rfl
  | profile text => exact comes_editing rfl rfl
  | backend word => exact comes_chooseBackend remote word
  | backends =>
    obtain ⟨capabilities, probed⟩ := probe_eq remote world
    simp only [execute, probed]
    exact .told rfl _
  | serve cuda vulkan => exact .stopped _

end CommandLine

end KanaSettings
