import KanaSettings.Proofs.CommandLine.Local
import KanaSettings.Proofs.Editor.Assigned
import KanaSettings.Proofs.Slice.Single

/-!
# Commands that are patches

Seven commands change single fields, each by a function of its own.  Each of them could be done
without: its words name an object, and to hand in that object as a patch comes to the same.
-/

namespace KanaSettings.CommandLine

/-! ## Commands with a patch -/

/-- Whether a command is one of those that change single fields of a record. -/
def Command.dedicated : Command → Bool
  | .shortcut _ _ | .width _ _ | .symbol _ _ | .general _ _ _ _ | .enable _ | .profile _
  | .backend _ => true
  | _ => false

/-- The slice and the patch that the words of a command name, on a machine that can run so much. -/
inductive Command.Names (capabilities : Capabilities) :
    Command → SliceName → Members Json → Prop
  | ctrlSpace (enabled : Bool) : Names capabilities (.shortcut "ctrl-space" enabled) .shortcuts
      [("ctrl_space_toggle", .bool enabled)]
  | altBackquote (enabled : Bool) : Names capabilities (.shortcut "alt-backquote" enabled) .shortcuts
      [("alt_backquote_toggle", .bool enabled)]
  | width (group : WidthGroup) (mode : WidthMode) :
      Names capabilities (.width (Choice.name group) (Choice.name mode)) .widthGroups
        [(Choice.name group, Choice.encode mode)]
  | symbol {key : String} (known : key ∈ SymbolWidth.symbols.map Prod.fst) (fullwidth : Bool) :
      Names capabilities (.symbol key fullwidth) .symbolWidth [(key, .bool fullwidth)]
  | general (punctuation : Option PunctuationStyle) (symbol : Option SymbolStyle)
      (space : Option SpaceInput) (numpad : Option NumpadInput) :
      Names capabilities (.general (punctuation.map Choice.name) (symbol.map Choice.name)
        (space.map Choice.name) (numpad.map Choice.name)) .general
        (General.patchOf punctuation symbol space numpad)
  | enable (enabled : Bool) :
      Names capabilities (.enable enabled) .zenzai [("enable", .bool enabled)]
  | profile (text : String) :
      Names capabilities (.profile text) .zenzai [("profile", .string text)]
  | backend {backend : Backend} (supported : capabilities.supports backend = true) :
      Names capabilities (.backend (Choice.name backend)) .zenzai
        [("backend", Choice.encode backend)]

/-! ## Words -/

section

variable {α : Type} [Choice α] [LawfulChoice α] {what : String}

lemma choice_eq_ok_iff {word : String} {a : α} :
    choice α what word = .ok a ↔ word = Choice.name a := by
  rw [← Choice.ofName?_eq_some_iff, choice]
  split <;> simp [*]

lemma choice?_eq_ok_iff {word : Option String} {a : Option α} :
    choice? α what word = .ok a ↔ word = a.map Choice.name := by
  cases word with
  | none => cases a <;> simp [choice?]
  | some word =>
    cases named : choice α what word with
    | error failure =>
      refine ⟨by simp [choice?, named, Except.map], fun same => ?_⟩
      obtain ⟨b, rfl, rfl⟩ := Option.map_eq_some_iff.1 same.symm
      cases named.symm.trans (choice_eq_ok_iff.2 rfl)
    | ok b =>
      obtain rfl := choice_eq_ok_iff.1 named
      cases a <;> simp [choice?, named, Except.map, Choice.name_injective.eq_iff]

end

lemma execute_backend [Wording] {store : Store World} {remote : Remote} {world : World}
    {capabilities : Capabilities} (probed : probe remote world = (capabilities, world))
    (backend : Backend) :
    execute store remote world (.backend (Choice.name backend)) =
      if capabilities.supports backend then
        editing store world .zenzai fun z => .settled { z with backend := backend }
      else (.error (.ofMessage
        s!"backend '{Choice.name backend}' is not available on this machine"), world) := by
  rw [execute, chooseBackend, choice_eq_ok_iff.2 rfl]
  simp only [probed]

section

variable {capabilities : Capabilities} {command : Command} {name : SliceName} {patch : Members Json}

/-- What goes well as a whole has gone well in its first part. -/
lemma exists_of_bind_eq_ok {ε α β : Type} {first : Except ε α} {next : α → Except ε β} {b : β}
    (done : first.bind next = .ok b) : ∃ a, first = .ok a ∧ next a = .ok b := by
  cases first with
  | error failure => cases done
  | ok a => exact ⟨a, rfl, done⟩

lemma exists_names_of_shortcutChange {key : String} {enabled : Bool}
    {change : Shortcuts → Outcome Shortcuts} (named : shortcutChange key enabled = .ok change) :
    ∃ name patch, (Command.shortcut key enabled).Names capabilities name patch := by
  unfold shortcutChange at named
  split at named
  · rename_i same
    subst same
    exact ⟨_, _, .ctrlSpace enabled⟩
  · split at named
    · rename_i same
      subst same
      exact ⟨_, _, .altBackquote enabled⟩
    · cases named

lemma exists_names_of_widthChange {group mode : String} {change : WidthGroups → Outcome WidthGroups}
    (named : widthChange group mode = .ok change) :
    ∃ name patch, (Command.width group mode).Names capabilities name patch := by
  obtain ⟨g, group', named⟩ := exists_of_bind_eq_ok named
  obtain ⟨m, mode', -⟩ := exists_of_bind_eq_ok named
  obtain rfl := choice_eq_ok_iff.1 group'
  obtain rfl := choice_eq_ok_iff.1 mode'
  exact ⟨_, _, .width g m⟩

lemma exists_names_of_symbolChange {key : String} {fullwidth : Bool}
    {change : SymbolWidth → Outcome SymbolWidth} (named : symbolChange key fullwidth = .ok change) :
    ∃ name patch, (Command.symbol key fullwidth).Names capabilities name patch := by
  unfold symbolChange at named
  split at named
  · rename_i known
    exact ⟨_, _, .symbol (SymbolWidth.isSome_standardWidth?_iff.1 known) fullwidth⟩
  · cases named

lemma exists_names_of_generalChange {punctuation symbol space numpad : Option String}
    {change : General → Outcome General}
    (named : generalChange punctuation symbol space numpad = .ok change) :
    ∃ name patch, (Command.general punctuation symbol space numpad).Names capabilities name patch := by
  obtain ⟨p, punctuation', named⟩ := exists_of_bind_eq_ok named
  obtain ⟨s, symbol', named⟩ := exists_of_bind_eq_ok named
  obtain ⟨w, space', named⟩ := exists_of_bind_eq_ok named
  obtain ⟨n, numpad', -⟩ := exists_of_bind_eq_ok named
  obtain rfl := choice?_eq_ok_iff.1 punctuation'
  obtain rfl := choice?_eq_ok_iff.1 symbol'
  obtain rfl := choice?_eq_ok_iff.1 space'
  obtain rfl := choice?_eq_ok_iff.1 numpad'
  exact ⟨_, _, .general p s w n⟩

/-- A change that words may not name is made if they name it, and else nothing is done. -/
lemma names_or_stops [Wording] {named : Except Failure (name.Value → Outcome name.Value)}
    (meant : ∀ {change}, named = .ok change → ∃ name patch, command.Names capabilities name patch)
    (world : World) : (∃ name patch, command.Names capabilities name patch) ∨
      ∃ failure, ∀ store, editingNamed store world name named = (.error failure, world) := by
  cases named with
  | error failure => exact .inr ⟨failure, fun store => rfl⟩
  | ok change => exact .inl (meant rfl)

/-- Words that name nothing stop a command before it asks the store for anything. -/
lemma names_or_stops_execute [Wording] (dedicated : command.dedicated = true) (remote : Remote)
    (world : World) :
    (∃ name patch, command.Names (probe remote world).1 name patch) ∨
      ∃ failure, ∀ store, execute store remote world command = (.error failure, world) := by
  cases command with
  | shortcut key enabled => exact names_or_stops exists_names_of_shortcutChange world
  | width group mode => exact names_or_stops exists_names_of_widthChange world
  | symbol key fullwidth => exact names_or_stops exists_names_of_symbolChange world
  | general punctuation symbol space numpad => exact names_or_stops exists_names_of_generalChange world
  | enable enabled => exact .inl ⟨_, _, .enable enabled⟩
  | profile text => exact .inl ⟨_, _, .profile text⟩
  | backend word =>
    cases named : choice Backend "backend" word with
    | error failure =>
      refine .inr ⟨failure, fun store => ?_⟩
      rw [execute, chooseBackend, named]
    | ok backend =>
      obtain rfl := choice_eq_ok_iff.1 named
      obtain ⟨capabilities, probed⟩ := probe_eq remote world
      by_cases supported : capabilities.supports backend = true
      · rw [probed]
        exact .inl ⟨_, _, .backend supported⟩
      · exact .inr ⟨_, fun store => (execute_backend probed backend).trans (if_neg supported)⟩
  | _ => cases dedicated

/-! ## The same edit -/

namespace Command.Names

variable (names : command.Names capabilities name patch)
include names

lemma record : name.isSequence = false := by
  cases names <;> rfl

lemma nodup_keys : patch.keys.Nodup := by
  cases names with
  | general punctuation symbol space numpad => exact General.nodup_keys_patchOf _ _ _ _
  | _ => simp

/-- What a command makes of a value that can be read passes the check, as that value under the patch. -/
lemma exists_change [Wording] : ∃ change : name.Value → name.Value,
    (∀ base, Slice.Closed name base →
      Slice.prepare name (change base) = .ok (Slice.overlay name base (.object patch))) ∧
    ∀ store remote world, (probe remote world).1 = capabilities →
      execute store remote world command =
        editing store world name fun base => .settled (change base) := by
  -- The values of flags and texts are taken as they are; words for modes, keys, choices and
  -- backends are looked up first, and the patch spells them as they are looked up.
  cases names with
  | ctrlSpace enabled =>
    exact ⟨fun s => { s with ctrlSpaceToggle := enabled }, fun _ _ => rfl, fun _ _ _ _ => rfl⟩
  | altBackquote enabled =>
    exact ⟨fun s => { s with altBackquoteToggle := enabled }, fun _ _ => rfl, fun _ _ _ _ => rfl⟩
  | width group mode =>
    refine ⟨fun g => g.set group mode, fun base _ => ?_, fun store remote world _ => ?_⟩
    · exact congrArg Except.ok (base.overlay_single group mode).symm
    · rw [execute, widthChange, choice_eq_ok_iff.2 rfl, choice_eq_ok_iff.2 rfl]
      rfl
  | @symbol key known fullwidth =>
    refine ⟨fun m => (m.set? key fullwidth).getD m, fun base closed => ?_,
      fun store remote world _ => ?_⟩
    · exact congrArg Except.ok (SymbolWidth.canonical_set?_getD closed known fullwidth)
    · rw [execute, symbolChange, if_pos (SymbolWidth.isSome_standardWidth?_iff.2 known)]
      rfl
  | general punctuation symbol space numpad =>
    refine ⟨fun g => ⟨punctuation.getD g.punctuationStyle, symbol.getD g.symbolStyle,
      space.getD g.spaceInput, numpad.getD g.numpadInput⟩, fun base _ => ?_,
      fun store remote world _ => ?_⟩
    · exact congrArg Except.ok (base.overlay_patchOf punctuation symbol space numpad).symm
    · rw [execute, generalChange, choice?_eq_ok_iff.2 rfl, choice?_eq_ok_iff.2 rfl,
        choice?_eq_ok_iff.2 rfl, choice?_eq_ok_iff.2 rfl]
      rfl
  | enable enabled => exact ⟨fun z => { z with enable := enabled }, fun _ _ => rfl, fun _ _ _ _ => rfl⟩
  | profile text => exact ⟨fun z => { z with profile := text }, fun _ _ => rfl, fun _ _ _ _ => rfl⟩
  | @backend backend supported =>
    refine ⟨fun z => { z with backend := backend }, fun base _ => ?_, fun store remote world has => ?_⟩
    · cases backend <;> rfl
    · -- Only this command asks what there is on this machine.
      obtain ⟨capabilities', probed⟩ := probe_eq remote world
      obtain rfl : capabilities' = capabilities := by rwa [probed] at has
      rw [execute_backend probed, if_pos supported]

/-- So a command and the patch settle on the same value in every document. -/
lemma exists_edit {change : name.Value → name.Value}
    (leads : ∀ base, Slice.Closed name base →
      Slice.prepare name (change base) = .ok (Slice.overlay name base (.object patch)))
    {members : Members Json} (perm : members.Perm patch) (document : Document) :
    ∃ value, document.edit name (fun base => .settled (change base)) = .settled value ∧
      document.edit name (fun base => .ofExcept (Slice.patch name base (.object members))) =
        .settled value := by
  have closed : Slice.Closed name (document.read name) := Slice.closed_normalize name _
  have same : Slice.overlay name (document.read name) (.object members) =
      Slice.overlay name (document.read name) (.object patch) := by
    refine Slice.overlay_congr names.record closed fun field _ => ?_
    rw [Field.offered?, Field.offered?,
      Members.get?_eq_of_perm ((perm.map Prod.fst).nodup_iff.2 names.nodup_keys) perm]
  refine ⟨Slice.overlay name (document.read name) (.object patch), ?_, ?_⟩
  · exact congrArg Outcome.ofExcept (leads _ closed)
  · rw [Document.edit_ofExcept, Slice.patch_object names.record, same, Except.bind,
      Slice.prepare_of_closed names.record (Slice.closed_overlay closed _)]
    rfl

lemma exists_text : ∃ json, Json.parse? json = some (.object patch) := by
  have plain : Json.Legible 2 (.object patch) := by
    refine Json.legible_object.2 ⟨1, rfl, names.nodup_keys, ?_⟩
    cases names with
    | general punctuation symbol space numpad =>
      intro m mem
      simp only [General.patchOf, List.mem_append] at mem
      rcases mem with mem | mem | mem | mem <;> exact Patch.legible_of_mem_given mem
    | _ => simp [Json.legible_bool, Json.legible_string, Slice.legible_encode_choice]
  exact ⟨_, Json.parse?_pretty plain.distinct plain.numbers (plain.nesting.trans (by decide))⟩

end Command.Names

/-- Edits that settle on the same value print the same, whether a refusal would be told row by row or
not. -/
lemma editing_eq_editingTable [Wording] {store : Store World} {world : World}
    {change other : name.Value → Outcome name.Value}
    (settle : ∀ document : Document, ∃ value, document.edit name change = .settled value ∧
      document.edit name other = .settled value) :
    editing store world name change = editingTable store world false (.edit name other) := by
  have attempt : store.attempt (.edit name change) world = store.attempt (.edit name other) world := by
    refine Store.attempt_congr fun document => ?_
    obtain ⟨value, settles, settles'⟩ := settle document
    rw [settles, settles']
  rw [editing, editingTable, attempt]
  rcases answered : store.attempt (.edit name other) world with ⟨answer, after⟩
  cases answer with
  | ok reply => rfl
  | error error =>
    cases error with
    | transport error => rfl
    | rejected objections =>
      obtain ⟨document, next, -, refused⟩ :=
        Store.attempt_edit_eq_rejected_iff.1 (congrArg Prod.fst answered)
      obtain ⟨value, -, settles⟩ := settle document
      cases settles.symm.trans refused

section

variable {json : String} {members : Members Json} (parsed : Json.parse? json = some (.object members))
  (perm : members.Perm patch)
include parsed perm

lemma execute_eq_set [Wording] (names : command.Names capabilities name patch) (store : Store World)
    {remote : Remote} {world : World} (probed : (probe remote world).1 = capabilities) :
    execute store remote world command = execute store remote world (.set name json) := by
  obtain ⟨change, leads, executes⟩ := names.exists_change
  rw [executes store remote world probed, execute, parsed]
  exact editing_eq_editingTable (names.exists_edit leads perm)

/-- The command line that differs in the command only does the same. -/
lemma run_eq_set [Wording] {environment : Environment} {words words' : List String} {world : World}
    {invocation : Invocation} (names : invocation.command.Names capabilities name patch)
    (asks : parse words = .ok invocation)
    (asks' : parse words' = .ok { invocation with command := .set name json })
    (probed : ∀ socket, invocation.socketPath? environment = some socket →
      (probe ⟨socket⟩ world).1 = capabilities) :
    run environment words world = run environment words' world := by
  have other : ∀ cuda vulkan, invocation.command ≠ .serve cuda vulkan := by
    intro cuda vulkan serves
    rw [serves] at names
    cases names
  have sockets : Invocation.socketPath? { invocation with command := .set name json } environment =
      invocation.socketPath? environment := rfl
  simp only [run, asks, asks', sockets]
  cases located : invocation.socketPath? environment with
  | none => rfl
  | some socket =>
    dsimp only
    rw [carryOut_of_ne_serve other rfl, carryOut_of_ne_serve (by rintro _ _ ⟨⟩) rfl,
      execute_eq_set parsed perm names _ (probed socket located)]
    rfl

end

end

/-- A command that changes single fields is a patch with just these fields.  Its words name a slice and an
object of JSON, which some text holds; and for every text that holds the members of that object, in whatever
order, the command prints what it prints to set the slice to the text, and leaves the same behind,
over every store, so that it does not matter whether there is a file and what is in it, or whether it can
be read or written.  That is true of whole command lines too, on the file and through a host.  And words
that name nothing stop the command before it asks for anything. -/
theorem dedicated_patches [Wording] (command : Command) :
    (∀ capabilities name patch, command.Names capabilities name patch →
      (∃ json, Json.parse? json = some (.object patch)) ∧
      ∀ json members, Json.parse? json = some (.object members) → members.Perm patch →
        (∀ store remote world, (probe remote world).1 = capabilities →
          execute store remote world command = execute store remote world (.set name json)) ∧
        ∀ environment words words' world invocation, parse words = .ok invocation →
          invocation.command = command →
          parse words' = .ok { invocation with command := .set name json } →
          (∀ socket, invocation.socketPath? environment = some socket →
            (probe ⟨socket⟩ world).1 = capabilities) →
          run environment words world = run environment words' world) ∧
    (command.dedicated = true → ∀ remote world,
      (∃ name patch, command.Names (probe remote world).1 name patch) ∨
        ∃ failure, ∀ store, execute store remote world command = (.error failure, world)) := by
  refine ⟨fun capabilities name patch names => ⟨names.exists_text, ?_⟩, names_or_stops_execute⟩
  refine fun json members parsed perm => ⟨fun _ _ _ => execute_eq_set parsed perm names _, ?_⟩
  rintro environment words words' world invocation asks rfl asks' probed
  exact run_eq_set parsed perm names asks asks' probed

/-- A text that holds two choices of the general style in another order than the options, and a settings
file in which the general style is no object. -/
theorem dedicated_patches_general :
    let world : World :=
      ⟨FileTree.empty.set ["s"] (.file (SettingsFile.encode ⟨[("general", .string "")]⟩)), none⟩
    let members : Members Json := [("space_input", .string "follow_input_mode"),
      ("punctuation_style", .string "fullwidth_comma_kuten")]
    ∃ json, Json.parse? json = some (.object members) ∧
      run sparse ["-c", "s", "general", "--punctuation", "fullwidth_comma_kuten",
          "--space=follow_input_mode"] world =
        run sparse ["-c", "s", "set", "general", "--", json] world := by
  intro world members
  let invocation : Invocation := ⟨some "s", none, false,
    .general (some "fullwidth_comma_kuten") none (some "follow_input_mode") none⟩
  obtain ⟨socket, located⟩ : ∃ socket, invocation.socketPath? sparse = some socket := ⟨_, rfl⟩
  have names : invocation.command.Names (probe ⟨socket⟩ world).1 _ _ :=
    .general (some .fullwidthCommaKuten) none (some .followInputMode) none
  have plain : Json.Legible 2 (.object members) :=
    Json.legible_object.2 ⟨1, rfl, by decide, by simp [members, Json.legible_string]⟩
  have holds := Json.parse?_pretty plain.distinct plain.numbers (plain.nesting.trans (by decide))
  obtain ⟨-, same⟩ := (dedicated_patches invocation.command).1 _ _ _ names
  refine ⟨_, holds, (same _ _ holds (.swap _ _ _)).2 sparse _ _ world invocation rfl rfl rfl ?_⟩
  intro other located'
  cases located.symm.trans located'
  rfl

end KanaSettings.CommandLine
