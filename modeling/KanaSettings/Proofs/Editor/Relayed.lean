import KanaSettings.Proofs.Editor.Account
import KanaSettings.Proofs.Store.Remote

/-!
# Editors at the other end of a host

An editor that reaches its document through a host does what one does that has the file itself; only
errors are told differently.  This is a simulation: the two sessions go through the same actions side
by side, and after each the one is the other with its errors relayed.
-/

namespace KanaSettings

/-! ## What is told the other way -/

/-- An error of an edit, as an editor behind a host has it. -/
def EditError.relayed [Wording] : EditError → EditError
  | .rejected objections => .rejected objections
  | .transport error => .transport error.relayed

/-- An answer, as an editor behind a host gives it. -/
def relayedAnswer [Wording] (answer : Ticket × Except EditError Reply) :
    Ticket × Except EditError Reply :=
  (answer.1, answer.2.mapError EditError.relayed)

/-- An exchange, as an editor behind a host has it. -/
def Exchange.relayed [Wording] : Exchange → Exchange
  | .fetched result => .fetched (result.mapError StoreError.relayed)
  | .replaced document result => .replaced document (result.mapError StoreError.relayed)

/-- The document that is handed out or sent in an exchange, if there is one, can be sent. -/
def Exchange.Sendable : Exchange → Prop
  | .fetched (.ok document) => document.Sendable
  | .fetched (.error _) => True
  | .replaced document _ => document.Sendable

namespace Editor

/-- The editor, as one behind a host that has done the same. -/
def relayed [Wording] (editor : Editor) : Editor :=
  { editor with answers := editor.answers.map relayedAnswer }

variable (editor : Editor)

lemma relayed_note [Wording] (ticket : Ticket) (event : Event) :
    editor.relayed.note ticket event = (editor.note ticket event).relayed := rfl

lemma relayed_grant? [Wording] (position : Nat) :
    editor.relayed.grant? position = editor.grant? position := rfl

lemma relayed_acquire [Wording] (position : Nat) :
    editor.relayed.acquire position = (editor.acquire position).relayed := by
  have same := editor.relayed_grant? position
  cases h : editor.grant? position with
  | none => rw [acquire_of_grant?_none h, acquire_of_grant?_none (same.trans h)]
  | some grant =>
    rw [acquire_of_grant? h, acquire_of_grant? (same.trans h)]
    rfl

lemma relayed_answer [Wording] (ticket : Ticket) (answer : Except EditError Reply) :
    editor.relayed.answer ticket (answer.mapError EditError.relayed) =
      (editor.answer ticket answer).relayed := by
  simp [relayed, Editor.answer, relayedAnswer]

/-- What an editor makes of a document that it was handed out.  None of what can come of the change
is about a file. -/
lemma relayed_change [Wording] (ticket : Ticket) (call : Call) (name : SliceName)
    (change : name.Value → Outcome name.Value) (document : Document) :
    editor.relayed.change ticket call name change document =
      (editor.change ticket call name change document).relayed := by
  unfold Editor.change
  cases document.edit name change with
  | settled value => rfl
  | refused objections =>
    let validated := (editor.enter ticket .validating).note ticket .change
    exact (validated.finish ticket .rejected).relayed_answer ticket (.error (.rejected objections))
  | crashed reason =>
    let validated := (editor.enter ticket .validating).note ticket .change
    exact validated.relayed_answer ticket (.error (.ofCrash call reason))

lemma relayed_fetched [Wording] (ticket : Ticket) (call : Call)
    (result : Except StoreError Document) :
    editor.relayed.fetched ticket call (result.mapError StoreError.relayed) =
      (editor.fetched ticket call result).relayed := by
  cases result with
  | error error =>
    exact ((editor.remember none).finish ticket .failed).relayed_answer ticket
      (.error (.transport error))
  | ok document =>
    cases call with
    | refresh =>
      exact ((editor.remember (some document)).enter ticket .idle).relayed_answer ticket
        (.ok (.document document))
    | edit name change => exact editor.relayed_change ticket _ name change document

lemma relayed_replaced [Wording] (ticket : Ticket) (document : Document) (reply : Reply)
    (result : Except StoreError Unit) :
    editor.relayed.replaced ticket document reply (result.mapError StoreError.relayed) =
      (editor.replaced ticket document reply result).relayed := by
  cases result with
  | error error =>
    exact (editor.finish ticket .failed).relayed_answer ticket (.error (.transport error))
  | ok done =>
    exact ((editor.remember (some document)).enter ticket .idle).relayed_answer ticket (.ok reply)

/-- A document that is about to be stored is a good one. -/
def Prepares (good : Document → Prop) (editor : Editor) : Prop :=
  ∀ ticket call document reply,
    editor.running = some ⟨ticket, call, .replacing document reply⟩ → good document

/-- What is about to be stored was made from what has just been fetched. -/
lemma Advances.prepares {σ : Type} {store : Store σ} {editor editor' : Editor} {state state' : σ}
    {good : Document → Prop}
    (fetched : ∀ {document next}, store.fetch state = (.ok document, next) → good document)
    (written : ∀ {document : Document}, good document → ∀ name value,
      good (document.write name value))
    (step : Advances store editor state editor' state') : editor'.Prepares good := by
  cases step with
  | settled running fetch edit =>
    rintro ticket call document reply ⟨⟩
    exact written (fetched fetch) _ _
  | _ => simp [Prepares]

end Editor

/-! ## What happens on both sides -/

/-- Files that something changes, in a world. -/
def World.touch (change : FileTree → FileTree) (world : World) : World :=
  { world with tree := change world.tree }

namespace Action

variable {σ τ : Type}

/-- What happens around an editor, with all that touches the store taking place in another state. -/
def lift (lift : (σ → σ) → τ → τ) : Action σ → Action τ
  | submit call => submit call
  | leave ticket => leave ticket
  | acquire position => acquire position
  | advance => advance
  | disturb change => disturb (lift change)

/-- Whether nobody but the editor brings a good state to an end. -/
def Leaves (good : σ → Prop) : Action σ → Prop
  | disturb change => ∀ state, good state → good (change state)
  | _ => True

/-- What happens to files, next to a list of what is asked about them. -/
def besideList : Action FileTree → Action (FileTree × List Exchange) :=
  lift fun change state => (change state.1, state.2)

/-- What happens to files in a world, next to a list of what the host is asked about them. -/
def inWorld : Action FileTree → Action (World × List Exchange) :=
  lift fun change state => (state.1.touch change, state.2)

end Action

/-! ## One step -/

/-- Files and what was asked about them, as the files of a world and what its host was asked. -/
def World.relayed [Wording] (world : World) (state : FileTree × List Exchange) :
    World × List Exchange :=
  ({ world with tree := state.1 }, state.2.map Exchange.relayed)

/-- Nothing stands between an editor and a host that has the file: the host can be asked, and what is
about to be stored has no name twice. -/
structure Ready (remote : Remote) (world : World) (host : Host) (editor : Editor)
    (state : FileTree × List Exchange) : Prop where
  reaches : remote.Reaches world host state.1
  prepares : editor.Prepares Document.Distinct

section

variable {remote : Remote} {world : World} {host : Host} {editor : Editor}
  {state : FileTree × List Exchange}

namespace Ready

variable (ready : Ready remote world host editor state)
include ready

/-- What the call with the lock does leaves the host where it is, as long as the file is not where
the socket is. -/
lemma advance (apart : host.file.path.location ≠ remote.socket.location) :
    Ready remote world host (editor.advance host.file.store.recorded state).1
      (editor.advance host.file.store.recorded state).2 := by
  rcases running : editor.running with _ | ⟨ticket, call, stage⟩
  · rwa [Editor.advance_of_running_none running]
  · have step := Editor.advances running host.file.store.recorded state
    refine ⟨?_, ?_⟩
    · cases stage with
      | fetching =>
        rw [Editor.advance_of_fetching running]
        exact ready.reaches
      | replacing document reply =>
        rw [Editor.advance_of_replacing running]
        simp only [Store.recorded, SettingsFile.store, SettingsFile.save_state]
        exact ready.reaches.replace apart _ _
    · exact step.prepares (fun fetch => SettingsFile.distinct_of_load (congrArg Prod.fst fetch))
        fun distinct name value => distinct.write name value

/-- What happens around an editor leaves the host where it is, as long as nobody else takes it
away. -/
lemma perform (apart : host.file.path.location ≠ remote.socket.location)
    {action : Action FileTree} (leaves : action.Leaves (remote.Reaches world host)) :
    Ready remote world host (action.besideList.perform host.file.store.recorded editor state).1
      (action.besideList.perform host.file.store.recorded editor state).2 := by
  cases action with
  | submit call => exact ⟨ready.reaches, ready.prepares⟩
  | leave ticket => exact ready
  | disturb change => exact ⟨leaves _ ready.reaches, ready.prepares⟩
  | acquire position =>
    refine ⟨ready.reaches, ?_⟩
    simp only [Action.besideList, Action.lift, Action.perform]
    cases hg : editor.grant? position with
    | none =>
      rw [Editor.acquire_of_grant?_none hg]
      exact ready.prepares
    | some grant =>
      rw [Editor.acquire_of_grant? hg]
      simp [Editor.Prepares]
  | advance => exact ready.advance apart

/-- The host is asked what the file would have been asked, and its answer is what the file would have
said. -/
lemma relayed_advance [Wording] (fits : host.file.path.Mentionable)
    (sendable : ∀ exchange ∈ (editor.advance host.file.store.recorded state).2.2,
      exchange.Sendable) :
    editor.relayed.advance remote.store.recorded (world.relayed state) =
      ((editor.advance host.file.store.recorded state).1.relayed,
        world.relayed (editor.advance host.file.store.recorded state).2) := by
  have same : editor.relayed.running = editor.running := rfl
  rcases running : editor.running with _ | ⟨ticket, call, stage⟩
  · rw [Editor.advance_of_running_none running,
      Editor.advance_of_running_none (same.trans running)]
  · -- Each stage asks once, and both requests come through the socket as they are.
    cases stage with
    | fetching =>
      rw [Editor.advance_of_fetching running] at sendable ⊢
      rw [Editor.advance_of_fetching (same.trans running)]
      have answer := Remote.fetch_eq ready.reaches fits fun document found => by
        have last := sendable (.fetched (host.file.load state.1)) (by
          simp [Store.recorded, SettingsFile.store])
        simpa [found, Exchange.Sendable] using last
      simp [Store.recorded, SettingsFile.store, World.relayed, answer, Editor.relayed_note,
        Editor.relayed_fetched, Exchange.relayed]
    | replacing document reply =>
      rw [Editor.advance_of_replacing running] at sendable ⊢
      rw [Editor.advance_of_replacing (same.trans running)]
      have sendable : document.Sendable :=
        sendable (.replaced document (host.file.save none document state.1).1) (by
          simp [Store.recorded, SettingsFile.store])
      have distinct := ready.prepares _ _ _ _ running
      have answer := Remote.replace_eq ready.reaches fits distinct sendable
      simp [Store.recorded, SettingsFile.store, World.relayed, answer, Editor.relayed_note,
        Editor.relayed_replaced, Exchange.relayed]

lemma relayed_perform [Wording] (fits : host.file.path.Mentionable) (action : Action FileTree)
    (sendable : ∀ exchange ∈
      (action.besideList.perform host.file.store.recorded editor state).2.2, exchange.Sendable) :
    action.inWorld.perform remote.store.recorded editor.relayed (world.relayed state) =
      ((action.besideList.perform host.file.store.recorded editor state).1.relayed,
        world.relayed (action.besideList.perform host.file.store.recorded editor state).2) := by
  cases action with
  | submit call => rfl
  | leave ticket => rfl
  | disturb change => rfl
  | acquire position => exact congrArg (·, _) (editor.relayed_acquire position)
  | advance => exact ready.relayed_advance fits sendable

end Ready

end

/-! ## Sessions -/

lemma Action.keeps_besideList (action : Action FileTree) : action.besideList.Keeps Prod.snd := by
  cases action with
  | disturb change => exact fun state => rfl
  | _ => trivial

namespace Session

lemma asked_subset_act {σ : Type} (store : Store σ) (session : Session (σ × List Exchange))
    {action : Action (σ × List Exchange)} (keeps : action.Keeps Prod.snd) :
    session.state.2 ⊆ (session.act store.recorded action).state.2 := by
  have acts := session.acts store.recorded action
  generalize session.act store.recorded action = next at acts ⊢
  cases acts with
  | quiet running phase snapshot answers log kept => exact (kept keeps).symm ▸ List.Subset.refl _
  | acquire grant => exact List.Subset.refl _
  | advance step =>
    obtain ⟨more, grown⟩ := Store.exists_asked_of_advances step
    exact grown ▸ List.subset_append_left _ more

/-- What happens around an editor that has the file itself. -/
def withFile (file : SettingsFile) (tree : FileTree) (actions : List (Action FileTree)) :
    Session (FileTree × List Exchange) :=
  (fresh (tree, [])).run file.store.recorded (actions.map Action.besideList)

/-- The same around an editor that asks a host. -/
def withHost [Wording] (remote : Remote) (world : World) (actions : List (Action FileTree)) :
    Session (World × List Exchange) :=
  (fresh (world, [])).run remote.store.recorded (actions.map Action.inWorld)

variable {remote : Remote} {world : World} {host : Host} {actions : List (Action FileTree)}

lemma ready_withFile (reaches : world.connect remote.socket = .ok host)
    (apart : host.file.path.location ≠ remote.socket.location)
    (leaves : ∀ action ∈ actions, action.Leaves (remote.Reaches world host)) :
    Ready remote world host (withFile host.file world.tree actions).editor
      (withFile host.file world.tree actions).state := by
  refine List.foldlRecOn (motive := fun session : Session (FileTree × List Exchange) =>
    Ready remote world host session.editor session.state) _ _ ⟨reaches, ?_⟩ ?_
  · simp [Editor.Prepares, fresh, Editor.fresh]
  · intro session ready lifted among
    obtain ⟨action, mem, rfl⟩ := List.mem_map.1 among
    exact ready.perform apart (leaves action mem)

lemma withHost_eq [Wording] (reaches : world.connect remote.socket = .ok host)
    (apart : host.file.path.location ≠ remote.socket.location) (fits : host.file.path.Mentionable)
    (leaves : ∀ action ∈ actions, action.Leaves (remote.Reaches world host))
    (sendable : ∀ exchange ∈ (withFile host.file world.tree actions).state.2, exchange.Sendable) :
    (withHost remote world actions).editor = (withFile host.file world.tree actions).editor.relayed ∧
      (withHost remote world actions).state =
        world.relayed (withFile host.file world.tree actions).state := by
  -- The documents that can be sent are those of the whole session, so the last action is split off.
  induction actions using List.reverseRecOn with
  | nil => exact ⟨rfl, rfl⟩
  | append_singleton actions action ih =>
    have last : withFile host.file world.tree (actions ++ [action]) =
        (withFile host.file world.tree actions).act host.file.store.recorded action.besideList := by
      simp [withFile, run]
    have last' : withHost remote world (actions ++ [action]) =
        (withHost remote world actions).act remote.store.recorded action.inWorld := by
      simp [withHost, run]
    rw [last] at sendable ⊢
    rw [last']
    have leaves := fun other mem => leaves other (List.mem_append_left [action] mem)
    obtain ⟨editor, state⟩ := ih leaves fun exchange mem =>
      sendable exchange (asked_subset_act _ _ action.keeps_besideList mem)
    have performed := (ready_withFile reaches apart leaves).relayed_perform fits action sendable
    rw [← editor, ← state] at performed
    exact ⟨congrArg Prod.fst performed, congrArg Prod.snd performed⟩

/-- Through a host, an editor asks for the same, shows the same, remembers the same and leaves the
same files behind as it does with the file itself, at any time, and its answers are the same but for
what the file says about errors; and a document that it has stored is one that it can be handed out
again. -/
theorem relayed_run [Wording] (reaches : world.connect remote.socket = .ok host)
    (apart : host.file.path.location ≠ remote.socket.location) (fits : host.file.path.Mentionable)
    (leaves : ∀ action ∈ actions, action.Leaves (remote.Reaches world host))
    (sendable : ∀ exchange ∈ (withFile host.file world.tree actions).state.2, exchange.Sendable) :
    (withHost remote world actions).editor = (withFile host.file world.tree actions).editor.relayed ∧
      (withHost remote world actions).state =
        world.relayed (withFile host.file world.tree actions).state ∧
      ∀ document : Document, document.Distinct → (∀ n ∈ document.toJson.numbers, n.ReadsBack) →
        ∀ later, remote.store.replace document (withHost remote world actions).state.1 =
            (.ok (), later) →
          remote.store.fetch later = (.ok document, later) := by
  obtain ⟨editor, state⟩ := withHost_eq reaches apart fits leaves sendable
  refine ⟨editor, state, fun document distinct back later stored => ?_⟩
  rw [state] at stored
  have ready := ready_withFile reaches apart leaves
  exact Remote.fetch_of_replace ready.reaches apart fits distinct back stored

/-- Through a host whose file is missing, a table is emptied and the document is looked at. -/
theorem relayed_run_emptied :
    (withHost ⟨⟨"s"⟩⟩ ⟨⟨[(["s"], .socket)]⟩, some (["s"], ⟨⟨⟨"a"⟩⟩, .cpuOnly⟩)⟩
      [.submit (.edit .romajiTable fun _ => .settled []), .acquire 0, .advance, .advance,
        .submit .refresh, .acquire 0, .advance]).editor =
    (withFile ⟨⟨"a"⟩⟩ ⟨[(["s"], .socket)]⟩
      [.submit (.edit .romajiTable fun _ => .settled []), .acquire 0, .advance, .advance,
        .submit .refresh, .acquire 0, .advance]).editor.relayed := by
  have emptied : (Document.empty.write .romajiTable []).toJson =
      .object [("romaji_table", .object [("rows", .array [])])] := rfl
  have sendable : (Document.empty.write .romajiTable []).Sendable := by
    refine ⟨?_, ?_, ?_⟩
    · simp only [Wire.Request.encode, Wire.size_variant, emptied, Json.spell, List.map]
      decide
    · simp only [emptied, Json.nesting, List.map]
      decide
    · simp [emptied, Json.numbers]
  have read : SettingsFile.decode ⟨⟨"a"⟩⟩
      (SettingsFile.encode (Document.empty.write .romajiTable [])) =
        .ok (Document.empty.write .romajiTable []) :=
    SettingsFile.decode_encode _ (Document.distinct_empty.write .romajiTable []) sendable.numbers
      sendable.nesting.le
  have asked : (withFile ⟨⟨"a"⟩⟩ ⟨[(["s"], .socket)]⟩
      [.submit (.edit .romajiTable fun _ => .settled []), .acquire 0, .advance, .advance,
        .submit .refresh, .acquire 0, .advance]).state.2 =
      [.fetched (.ok .empty), .replaced (Document.empty.write .romajiTable []) (.ok ()),
        .fetched (SettingsFile.decode ⟨⟨"a"⟩⟩
          (SettingsFile.encode (Document.empty.write .romajiTable [])))] := rfl
  have all : ∀ exchange ∈ (withFile ⟨⟨"a"⟩⟩ ⟨[(["s"], .socket)]⟩
      [.submit (.edit .romajiTable fun _ => .settled []), .acquire 0, .advance, .advance,
        .submit .refresh, .acquire 0, .advance]).state.2, exchange.Sendable := by
    rw [asked, read]
    simp [Exchange.Sendable, Document.sendable_empty, sendable]
  have reaches : World.connect ⟨⟨[(["s"], .socket)]⟩, some (["s"], ⟨⟨⟨"a"⟩⟩, .cpuOnly⟩)⟩ ⟨"s"⟩ =
      .ok ⟨⟨⟨"a"⟩⟩, .cpuOnly⟩ := rfl
  have fits : Path.Mentionable ⟨"a"⟩ := Path.mentionable_of_size_lt (by decide)
  exact (relayed_run (show World.connect _ (Remote.mk ⟨"s"⟩).socket = _ from reaches) (by decide)
    fits (by simp [Action.Leaves]) all).1

end Session

end KanaSettings
