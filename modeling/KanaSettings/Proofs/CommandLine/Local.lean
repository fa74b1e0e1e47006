import KanaSettings.Proofs.CommandLine.Execute
import KanaSettings.Proofs.Document.Readable
import KanaSettings.Proofs.Editor.Interleaving
import KanaSettings.Proofs.Slice.Stable
import KanaSettings.Proofs.Store.Saving

/-!
# Commands on the file

A command that is carried out on the file itself saves once at most, as the last thing it does.  So if
it fails it has failed before or in saving, and what it leaves is what a save leaves that fails; if it
only looks it leaves the world as it is; and if it changes a slice and says that it has succeeded, the
file can be loaded and holds the slice as it was returned.
-/

namespace KanaSettings.CommandLine

open FileTree

/-- The file as a store, in a system in which a step of saving can fail. -/
def faultyStore (file : SettingsFile) (fault : Option Fault) : Store World :=
  Store.inside ⟨fun tree => (file.load tree, tree), file.save fault⟩ World.tree
    fun tree world => { world with tree := tree }

/-- What a command comes to when it is carried out. -/
def Output.ofResult : Except Failure String → Output
  | .ok out => ⟨0, out, ""⟩
  | .error failure => ⟨1, "", failure.text⟩

/-! ## What a command leaves behind -/

/-- What a command has stored that changes a slice and has succeeded. -/
structure Stored (file : SettingsFile) (command : Command) {name : SliceName} (value : name.Value)
    (before : FileTree) (output : Output) (after : FileTree) : Prop where
  returned : ∃ loaded change, file.load before = .ok loaded ∧
    command.call? = some (.edit name change) ∧ loaded.edit name change = .settled value
  back : ∃ document, file.load after = .ok document ∧
    document.slice? name = some (Slice.encode name value) ∧ document.read name = value
  printed : output.out = if command.silent then "" else line (Slice.encode name value)
  /-- All else is what it was, but for directories above the file. -/
  others : ∃ made, Raised file.path.directory.ancestors before made ∧
    ∀ place, place ≠ file.path.location → after.node? place = made.node? place

/-- What a command leaves behind that is carried out on a file. -/
structure Leaves (file : SettingsFile) (command : Command) (before : World) (output : Output)
    (after : World) : Prop where
  listener : after.listener = before.listener
  failed : output.code ≠ 0 → Raised file.path.directory.ancestors before.tree after.tree
  named : output.code ≠ 0 → ∀ node, before.tree.find file.path = .ok node →
    after.tree.find file.path = .ok node
  /-- A path that goes back nowhere names nothing that it did not name. -/
  straight : output.code ≠ 0 → before.tree.Rooted → .back ∉ file.path.moves →
    (after.tree.find file.path).toOption = (before.tree.find file.path).toOption
  looked : command.slice? = none → after = before
  /-- A command that changes a slice and does not fail has stored what its edit returned. -/
  stored : output.code = 0 → ∀ name, command.slice? = some name →
    ∃ value : name.Value, Stored file command value before.tree output after.tree

section

variable {file : SettingsFile} {command : Command} {world : World} {output : Output}

lemma leaves_self (less : output.code ≠ 0 ∨ command.slice? = none) :
    Leaves file command world output world where
  listener := rfl
  failed := fun _ => .refl _ _
  named := fun _ _ found => found
  straight := fun _ _ _ => rfl
  looked := fun _ => rfl
  stored := by
    intro zero name changes
    rcases less with failed | looks
    · exact absurd zero failed
    · rw [looks] at changes
      cases changes

variable {fault : Option Fault} {document : Document} {tree : FileTree} {name : SliceName}

/-- A save that fails leaves the file as it was, as far as a failure can. -/
lemma leaves_of_save_eq_error {error : StoreError} (changes : command.slice? = some name)
    (saved : file.save fault document world.tree = (.error error, tree)) (failure : Failure) :
    Leaves file command world (.ofResult (.error failure)) { world with tree := tree } := by
  have outcome := file.allOrNothing_save fault document world.tree
  rw [saved] at outcome
  refine ⟨rfl, fun _ => outcome.failed error rfl, fun _ => outcome.named error rfl, ?_, ?_, ?_⟩
  · exact fun _ rooted straight => outcome.straight rooted straight error rfl
  · rw [changes]
    rintro ⟨⟩
  · rintro ⟨⟩

/-- A save that succeeds leaves the slice in the file, as it was written. -/
lemma leaves_of_save_eq_ok {change : name.Value → Outcome name.Value} {value : name.Value}
    (asks : command.call? = some (.edit name change)) (loads : file.load world.tree = .ok document)
    (edit : document.edit name change = .settled value)
    (saved : file.save fault (document.write name value) world.tree = (.ok (), tree)) :
    Leaves file command world
      (.ofResult (.ok (if command.silent then "" else line (Slice.encode name value))))
      { world with tree := tree } := by
  have outcome := file.allOrNothing_save fault (document.write name value) world.tree
  rw [saved] at outcome
  obtain ⟨candidate, -, accepted⟩ := Document.edit_eq_settled edit
  have decodes := SettingsFile.decode_encode_write loads name value
  have held := (document.aged 1).slice?_write_self name value
  have stored : Stored file command value world.tree
      (.ofResult (.ok (if command.silent then "" else line (Slice.encode name value)))) tree := by
    refine ⟨⟨document, change, loads, asks, edit⟩, ⟨_, ?_, held, ?_⟩, rfl, outcome.others rfl⟩
    · exact SettingsFile.load_of_save saved decodes
    · rw [Document.read, held, Slice.normalize_encode_of_prepare accepted]
  have slice := Command.slice?_of_call? asks
  refine ⟨rfl, fun failed => absurd rfl failed, fun failed => absurd rfl failed,
    fun failed => absurd rfl failed, ?_, ?_⟩
  · rw [slice]
    rintro ⟨⟩
  · rw [slice]
    rintro - _ ⟨⟩
    exact ⟨value, stored⟩

/-! ## Carrying out a command -/

lemma fetch_faultyStore (file : SettingsFile) (fault : Option Fault) (world : World) :
    (faultyStore file fault).fetch world = (file.load world.tree, world) := rfl

lemma exists_save_of_replace {result : Except StoreError Unit} {after : World}
    (replace : (faultyStore file fault).replace document world = (result, after)) :
    ∃ tree, file.save fault document world.tree = (result, tree) ∧
      after = { world with tree := tree } := by
  rcases saved : file.save fault document world.tree with ⟨done, tree⟩
  simp only [faultyStore, Store.inside, saved, Prod.mk.injEq] at replace
  obtain ⟨rfl, rfl⟩ := replace
  exact ⟨tree, rfl, rfl⟩

lemma leaves_of_carried {call : Call} {answer : Except EditError Reply} {after : World}
    {snapshot : Option Document} {result : Except Failure String}
    (asks : command.call? = some call)
    (carried : Carried (faultyStore file fault) id call world after answer snapshot)
    (shows : command.Shows answer result) : Leaves file command world (.ofResult result) after := by
  -- Nobody else acts on the files during the call, so every pause in it is void.
  cases carried with
  | unread lull fetch | crashed lull fetch edit | refused lull fetch edit =>
    cases lull
    rw [fetch_faultyStore] at fetch
    obtain ⟨-, rfl⟩ := Prod.mk.inj fetch
    cases shows
    exact leaves_self (.inl one_ne_zero)
  | looked lull fetch =>
    cases lull
    rw [fetch_faultyStore] at fetch
    obtain ⟨-, rfl⟩ := Prod.mk.inj fetch
    exact leaves_self (.inr (Command.slice?_of_call? asks))
  | unwritten halfway replace =>
    cases halfway with
    | intro lull fetch edit pause =>
      cases lull
      cases pause
      rw [fetch_faultyStore] at fetch
      obtain ⟨loads, rfl⟩ := Prod.mk.inj fetch
      obtain ⟨tree, saved, rfl⟩ := exists_save_of_replace replace
      cases shows
      exact leaves_of_save_eq_error (Command.slice?_of_call? asks) saved _
  | written halfway replace =>
    cases halfway with
    | intro lull fetch edit pause =>
      cases lull
      cases pause
      rw [fetch_faultyStore] at fetch
      obtain ⟨loads, rfl⟩ := Prod.mk.inj fetch
      obtain ⟨tree, saved, rfl⟩ := exists_save_of_replace replace
      cases shows
      exact leaves_of_save_eq_ok asks loads edit saved

/-- Whatever a command is, whatever the files are and whichever step of saving fails: what it leaves
behind. -/
theorem leaves_execute [Wording] (file : SettingsFile) (fault : Option Fault) (remote : Remote)
    (world : World) (command : Command) :
    Leaves file command world
      (.ofResult (execute (faultyStore file fault) remote world command).1)
      (execute (faultyStore file fault) remote world command).2 := by
  have comes := comes_execute (faultyStore file fault) remote world command
  generalize execute (faultyStore file fault) remote world command = result at comes ⊢
  cases comes with
  | stopped failure => exact leaves_self (.inl one_ne_zero)
  | told reads text => exact leaves_self (.inr reads)
  | @asked call answer after result asks attempt shows =>
    obtain ⟨snapshot, carried⟩ := exists_carried (faultyStore file fault) call world
    rw [attempt] at carried
    exact leaves_of_carried asks carried shows

end

/-! ## Command lines -/

/-- What becomes of a command that is not for the host of somebody else and does not serve, in a system
in which a step of saving can fail. -/
def runLocally [Wording] (fault : Option Fault) (environment : Environment) (invocation : Invocation)
    (world : World) : Output × World :=
  match invocation.socketPath? environment with
  | none => (.ofResult (.error (.ofMessage
      "No XDG_RUNTIME_DIR and no cache directory for the settings socket")), world)
  | some socket =>
    let (result, world) := execute (faultyStore (invocation.file environment) fault) ⟨socket⟩ world
      invocation.command
    (.ofResult result, world)

section

variable {words : List String} {invocation : Invocation}

/-- A command that does not serve is carried out on the store of a host or on that of the file. -/
lemma carryOut_of_ne_serve [Wording] {file : SettingsFile} {socket : Path} {remotely : Bool}
    {world : World}
    {command : Command} {store : Store World} (other : ∀ cuda vulkan, command ≠ .serve cuda vulkan)
    (opened : (if remotely then Remote.store ⟨socket⟩ else fileStore file) = store) :
    carryOut file socket remotely world command =
      (.exits (.ofResult (execute store ⟨socket⟩ world command).1),
        (execute store ⟨socket⟩ world command).2) := by
  unfold carryOut
  split
  · exact absurd rfl (other _ _)
  · rw [opened]
    dsimp only
    split
    · rename_i attempt
      rw [attempt, Output.ofResult]
    · rename_i attempt
      rw [attempt, Output.ofResult]
      rfl

lemma carryOut_eq [Wording] {file : SettingsFile} {socket : Path} {world : World} {command : Command}
    (other : ∀ cuda vulkan, command ≠ .serve cuda vulkan) :
    carryOut file socket false world command =
      (.exits (.ofResult (execute (faultyStore file none) ⟨socket⟩ world command).1),
        (execute (faultyStore file none) ⟨socket⟩ world command).2) :=
  carryOut_of_ne_serve other rfl

lemma run_eq_runLocally [Wording] (environment : Environment) (world : World)
    (parsed : parse words = .ok invocation) (here : invocation.remote = false)
    (other : ∀ cuda vulkan, invocation.command ≠ .serve cuda vulkan) :
    run environment words world = (.exits (runLocally none environment invocation world).1,
      (runLocally none environment invocation world).2) := by
  rw [run, parsed, runLocally]
  dsimp only
  cases invocation.socketPath? environment with
  | none => rfl
  | some socket =>
    rw [here]
    exact carryOut_eq other

/-- Whatever words the program is given, whatever the environment and the files are: words that mean
nothing change nothing, and a command on the file leaves behind what `Leaves` says, also when a step
of saving fails. -/
theorem leaves_run [Wording] (environment : Environment) (words : List String) (world : World) :
    (∀ stop, parse words = .error stop →
      run environment words world = (.exits stop.output, world)) ∧
    ∀ invocation, parse words = .ok invocation → invocation.remote = false →
      (∀ cuda vulkan, invocation.command ≠ .serve cuda vulkan) →
      run environment words world = (.exits (runLocally none environment invocation world).1,
        (runLocally none environment invocation world).2) ∧
      ∀ fault, Leaves (invocation.file environment) invocation.command world
        (runLocally fault environment invocation world).1
        (runLocally fault environment invocation world).2 := by
  refine ⟨fun stop stopped => by rw [run, stopped], fun invocation parsed here other => ?_⟩
  refine ⟨run_eq_runLocally environment world parsed here other, fun fault => ?_⟩
  unfold runLocally
  split
  · exact leaves_self (.inl one_ne_zero)
  · exact leaves_execute _ fault _ world _

end

/-! ## Two command lines -/

/-- An environment that says nothing but where sockets are. -/
def sparse : Environment := ⟨none, none, none, some "r", none⟩

/-- The words that turn the conversion model on, with a settings file. -/
def turnOn (path : String) : List String := ["-c", path, "zenzai", "enable", "true"]

/-- What they ask for. -/
def turningOn (path : String) : Invocation := ⟨some path, none, false, .enable true⟩

/-- Where there is no file yet, there is one afterwards, with the slice in it. -/
theorem leaves_run_enable : ∃ output after,
    run sparse (turnOn "s") ⟨.empty, none⟩ = (.exits output, after) ∧ output.code = 0 ∧
      ∃ value : SliceName.zenzai.Value,
        Stored ⟨⟨"s"⟩⟩ (.enable true) value .empty output after.tree := by
  obtain ⟨ran, leaves⟩ := (leaves_run sparse (turnOn "s") ⟨.empty, none⟩).2 (turningOn "s") rfl rfl
    (by rintro _ _ ⟨⟩)
  exact ⟨_, _, ran, rfl, (leaves none).stored rfl .zenzai rfl⟩

/-- A command that fails can change what its path names: if the path goes back from a directory that is
missing, the directory is made, and then the path leads somewhere. -/
theorem exists_failure_that_changes_path :
    ¬ ∀ (environment : Environment) (words : List String) (world : World) (invocation : Invocation)
      (output : Output) (after : World), world.tree.Rooted → parse words = .ok invocation →
      invocation.remote = false → (∀ cuda vulkan, invocation.command ≠ .serve cuda vulkan) →
      run environment words world = (.exits output, after) → output.code ≠ 0 →
      (after.tree.find (invocation.file environment).path).toOption =
        (world.tree.find (invocation.file environment).path).toOption := by
  intro h
  have other : ∀ cuda vulkan, (turningOn "a/..").command ≠ .serve cuda vulkan := by rintro _ _ ⟨⟩
  have parsed : parse (turnOn "a/..") = .ok (turningOn "a/..") := rfl
  have ran := run_eq_runLocally sparse ⟨.empty, none⟩ parsed rfl other
  have same := h sparse _ _ (turningOn "a/..") _ _ rooted_empty parsed rfl other ran one_ne_zero
  exact Option.some_ne_none _ same

end KanaSettings.CommandLine
