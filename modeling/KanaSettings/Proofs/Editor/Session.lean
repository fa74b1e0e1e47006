import KanaSettings.Proofs.Editor.Step

/-!
# Sessions with one editor

A session is an editor, the store behind it and all that happens around the two, in any order.  It
keeps a record that nobody in it reads, of the calls that got the lock and of the states between which
they held it; `sound_run` says that by this record the calls went one after another.
-/

namespace KanaSettings

/-! ## What happens -/

/-- Something that happens around an editor whose store has states of type `σ`. -/
inductive Action (σ : Type) where
  | submit (call : Call)
  /-- Somebody who has asked goes away.  The call is carried out all the same. -/
  | leave (ticket : Ticket)
  /-- The lock goes to the call at a position among those that wait, if it is free. -/
  | acquire (position : Nat)
  | advance
  /-- Something other than the editor touches the store. -/
  | disturb (change : σ → σ)

namespace Action

variable {σ α : Type}

/-- What an action makes of an editor and of the state of its store. -/
def perform (store : Store σ) (editor : Editor) (state : σ) : Action σ → Editor × σ
  | submit call => (editor.submit call, state)
  | leave _ => (editor, state)
  | acquire position => (editor.acquire position, state)
  | advance => editor.advance store state
  | disturb change => (editor, change state)

/-- Whether what can be seen of a store's state is touched by nobody but the editor. -/
def Keeps (view : σ → α) : Action σ → Prop
  | disturb change => ∀ state, view (change state) = view state
  | _ => True

/-- To somebody who sees nothing of the store, nobody touches it. -/
lemma keeps_unit (actions : List (Action σ)) :
    ∀ action ∈ actions, action.Keeps fun _ : σ => () := by
  intro action _
  cases action with
  | disturb change => exact fun _ => rfl
  | _ => trivial

/-- The call that an action gives the lock to. -/
def grant? (editor : Editor) : Action σ → Option (Ticket × Call)
  | acquire position => editor.grant? position
  | _ => none

/-- The calls that are asked in a list of actions, the first of which gets the number `next`. -/
def submitted : (next : Ticket) → List (Action σ) → List (Ticket × Call)
  | _, [] => []
  | next, submit call :: actions => (next, call) :: submitted (next + 1) actions
  | next, _ :: actions => submitted next actions

end Action

/-! ## The record -/

/-- A call that has given its answer. -/
structure Finished (σ : Type) where
  ticket : Ticket
  call : Call
  /-- The state of the store when the call got the lock. -/
  before : σ
  after : σ
  answer : Except EditError Reply
  snapshot : Option Document

namespace Finished

variable {σ : Type}

/-- The call with its number. -/
def grant (call : Finished σ) : Ticket × Call := (call.ticket, call.call)

/-- The answer with its number. -/
def reply (call : Finished σ) : Ticket × Except EditError Reply := (call.ticket, call.answer)

end Finished

/-- An editor, the state of its store, and the record. -/
structure Session (σ : Type) where
  editor : Editor
  state : σ
  granted : List (Ticket × Call)
  /-- The state of the store when the lock was last given to a call. -/
  began : σ
  finished : List (Finished σ)

namespace Session

variable {σ α : Type}

/-- A session in which nothing has happened yet. -/
def fresh (state : σ) : Session σ := ⟨.fresh, state, [], state, []⟩

/-- The record of the call that gives its answer when the editor and the state become what they are
given as; none if no answer is given. -/
def ended (session : Session σ) (editor : Editor) (state : σ) : List (Finished σ) :=
  match session.editor.running with
  | none => []
  | some running =>
    (editor.answers.drop session.editor.answers.length).map fun (ticket, answer) =>
      ⟨ticket, running.call, session.began, state, answer, editor.snapshot⟩

/-- The session after something happened. -/
def act (store : Store σ) (session : Session σ) (action : Action σ) : Session σ :=
  let (editor, state) := action.perform store session.editor session.state
  { editor, state
    granted := session.granted ++ (action.grant? session.editor).toList
    began := if (action.grant? session.editor).isSome then session.state else session.began
    finished := session.finished ++ session.ended editor state }

/-- The session after a list of things happened. -/
def run (store : Store σ) (session : Session σ) (actions : List (Action σ)) : Session σ :=
  actions.foldl (act store) session

/-- The call with the lock, if there is one. -/
def holder (session : Session σ) : List (Ticket × Call) :=
  match session.editor.running with
  | none => []
  | some running => [(running.ticket, running.call)]

end Session

/-! ## What a call does while it has the lock -/

section

variable {σ α : Type} (store : Store σ) (view : σ → α)

/-- An edit on its way: it has fetched a document, and what it is about to store is that document
with the slice's new value in it.  Before the fetch and after it, something else may have touched
the store where nobody looks. -/
inductive Halfway : Call → (before now : σ) → Document → Reply → Prop where
  | intro {name : SliceName} {change : name.Value → Outcome name.Value} {before now s t : σ}
      {document : Document} {value : name.Value}
      (lull : view s = view before)
      (fetch : store.fetch s = (.ok document, t))
      (edit : document.edit name change = .settled value)
      (pause : view now = view t) :
      Halfway (.edit name change) before now (document.write name value) (.value name value)

/-- How a call can go from the moment it gets the lock to its answer, with what the editor
remembers then. -/
inductive Carried :
    Call → (before after : σ) → Except EditError Reply → Option Document → Prop where
  | unread {call : Call} {before after s : σ} {error : StoreError}
      (lull : view s = view before)
      (fetch : store.fetch s = (.error error, after)) :
      Carried call before after (.error (.transport error)) none
  | looked {before after s : σ} {document : Document}
      (lull : view s = view before)
      (fetch : store.fetch s = (.ok document, after)) :
      Carried .refresh before after (.ok (.document document)) (some document)
  | crashed {name : SliceName} {change : name.Value → Outcome name.Value} {before after s : σ}
      {document : Document} {reason : String}
      (lull : view s = view before)
      (fetch : store.fetch s = (.ok document, after))
      (edit : document.edit name change = .crashed reason) :
      Carried (.edit name change) before after (.error (.ofCrash (.edit name change) reason)) none
  | refused {name : SliceName} {change : name.Value → Outcome name.Value} {before after s : σ}
      {document : Document} {objections : List Objection}
      (lull : view s = view before)
      (fetch : store.fetch s = (.ok document, after))
      (edit : document.edit name change = .refused objections) :
      Carried (.edit name change) before after (.error (.rejected objections)) none
  | unwritten {call : Call} {before after s : σ} {document : Document} {reply : Reply}
      {error : StoreError}
      (halfway : Halfway store view call before s document reply)
      (replace : store.replace document s = (.error error, after)) :
      Carried call before after (.error (.transport error)) none
  | written {call : Call} {before after s : σ} {document : Document} {reply : Reply}
      (halfway : Halfway store view call before s document reply)
      (replace : store.replace document s = (.ok (), after)) :
      Carried call before after (.ok reply) (some document)

/-- How a finished call went. -/
def Finished.Carried (call : Finished σ) : Prop :=
  KanaSettings.Carried store view call.call call.before call.after call.answer call.snapshot

/-- Calls carried out one after another, from a first state to a last one. -/
inductive History (start : σ) : List (Finished σ) → σ → Prop where
  | start : History start [] start
  /-- Something touched the store where nobody looks. -/
  | lull {past : List (Finished σ)} {s t : σ} (history : History start past s)
      (same : view t = view s) : History start past t
  | call {past : List (Finished σ)} {call : Finished σ} (history : History start past call.before)
      (carried : call.Carried store view) : History start (past ++ [call]) call.after

end

namespace Session

variable {σ α : Type} {store : Store σ} {view : σ → α} {start : σ} {session : Session σ}

/-- Where the call with the lock stands, if there is one. -/
def Progress (store : Store σ) (view : σ → α) (start : σ) (session : Session σ) : Prop :=
  match session.editor.running with
  | none => History store view start session.finished session.state
  | some ⟨_, call, .fetching⟩ =>
    History store view start session.finished session.began ∧
      view session.state = view session.began ∧
      session.editor.snapshot = call.remembers session.editor.snapshot
  | some ⟨_, call, .replacing document reply⟩ =>
    History store view start session.finished session.began ∧
      Halfway store view call session.began session.state document reply ∧
      session.editor.snapshot = none

/-- A session seen through its record. -/
structure Sound (store : Store σ) (view : σ → α) (start : σ) (session : Session σ) : Prop where
  granted : session.granted = session.finished.map Finished.grant ++ session.holder
  answers : session.editor.answers = session.finished.map Finished.reply
  progress : session.Progress store view start

lemma sound_fresh (store : Store σ) (view : σ → α) (start : σ) :
    (fresh start).Sound store view start :=
  ⟨rfl, rfl, History.start⟩

/-! ### One action -/

lemma ended_of_answers_eq {editor : Editor} (h : editor.answers = session.editor.answers)
    (state : σ) : session.ended editor state = [] := by
  unfold ended
  split
  · rfl
  · simp [h]

lemma ended_of_answers_append {editor : Editor} {running : Running}
    {answer : Except EditError Reply} (hr : session.editor.running = some running)
    (h : editor.answers = session.editor.answers ++ [(running.ticket, answer)]) (state : σ) :
    session.ended editor state =
      [⟨running.ticket, running.call, session.began, state, answer, editor.snapshot⟩] := by
  simp [ended, hr, h]

/-- What an action makes of a session: nothing that a call leaves traces of, or the lock goes to a
call, or the call with the lock goes on. -/
inductive Acts (store : Store σ) (session : Session σ) : Action σ → Session σ → Prop where
  /-- No call gets the lock, and the one that has it does not go on. -/
  | quiet {action : Action σ} {editor : Editor} {state : σ}
      (running : editor.running = session.editor.running)
      (phase : editor.phase = session.editor.phase)
      (snapshot : editor.snapshot = session.editor.snapshot)
      (answers : editor.answers = session.editor.answers)
      (log : editor.log = session.editor.log)
      (kept : ∀ {α : Type} {view : σ → α}, action.Keeps view → view state = view session.state) :
      Acts store session action { session with editor := editor, state := state }
  | acquire {position : Nat} {ticket : Ticket} {call : Call}
      (grant : session.editor.grant? position = some (ticket, call)) :
      Acts store session (.acquire position)
        { session with
          editor := session.editor.acquire position
          granted := session.granted ++ [(ticket, call)]
          began := session.state }
  | advance {editor : Editor} {state : σ}
      (step : Editor.Advances store session.editor session.state editor state) :
      Acts store session .advance
        { session with
          editor := editor
          state := state
          finished := session.finished ++ session.ended editor state }

lemma acts_quiet {action : Action σ} (grant : action.grant? session.editor = none)
    (running : (action.perform store session.editor session.state).1.running =
      session.editor.running)
    (phase : (action.perform store session.editor session.state).1.phase = session.editor.phase)
    (snapshot : (action.perform store session.editor session.state).1.snapshot =
      session.editor.snapshot)
    (answers : (action.perform store session.editor session.state).1.answers =
      session.editor.answers)
    (log : (action.perform store session.editor session.state).1.log = session.editor.log)
    (kept : ∀ {α : Type} {view : σ → α}, action.Keeps view →
      view (action.perform store session.editor session.state).2 = view session.state) :
    session.Acts store action (session.act store action) := by
  have acts : session.Acts store action _ := .quiet running phase snapshot answers log kept
  simpa [act, grant, ended_of_answers_eq answers] using acts

/-- Every action is of one of these kinds. -/
theorem acts (store : Store σ) (session : Session σ) (action : Action σ) :
    session.Acts store action (session.act store action) := by
  cases action with
  | submit call => exact acts_quiet rfl rfl rfl rfl rfl rfl fun _ => rfl
  | leave ticket => exact acts_quiet rfl rfl rfl rfl rfl rfl fun _ => rfl
  | disturb change => exact acts_quiet rfl rfl rfl rfl rfl rfl fun keeps => keeps session.state
  | acquire position =>
    cases grant : session.editor.grant? position with
    | none =>
      -- The lock is not free, or nobody waits at the position.
      have same := Editor.acquire_of_grant?_none grant
      have free : (Action.acquire position : Action σ).grant? session.editor = none := grant
      apply acts_quiet free <;> simp [Action.perform, same]
    | some call =>
      have same : (session.editor.acquire position).answers = session.editor.answers := by
        rw [Editor.acquire_of_grant? grant]
      simpa [act, Action.perform, Action.grant?, grant, ended_of_answers_eq same] using
        Acts.acquire grant
  | advance =>
    cases running : session.editor.running with
    | none =>
      have same := Editor.advance_of_running_none running store session.state
      apply acts_quiet rfl <;> simp [Action.perform, same]
    | some call =>
      have step := Editor.advances running store session.state
      simpa [act, Action.perform, Action.grant?] using Acts.advance step

/-- An action that neither gives the lock away nor takes it back leaves a session sound if it
leaves the call with the lock where it was. -/
lemma Sound.of_quiet (sound : session.Sound store view start) (editor : Editor) (state : σ)
    (running : editor.running = session.editor.running)
    (snapshot : editor.snapshot = session.editor.snapshot)
    (answers : editor.answers = session.editor.answers)
    (same : view state = view session.state) :
    Sound store view start { session with editor := editor, state := state } := by
  refine ⟨?_, by rw [answers]; exact sound.answers, ?_⟩
  · simpa [holder, running] using sound.granted
  · have progress := sound.progress
    unfold Progress at progress ⊢
    rw [running, snapshot]
    dsimp only
    -- Where the call stands is the same; only the pause before its next step may be longer.
    split at progress
    · rename_i hr
      exact History.lull progress same
    · exact ⟨progress.1, same.trans progress.2.1, progress.2.2⟩
    · obtain ⟨history, halfway, none⟩ := progress
      refine ⟨history, ?_, none⟩
      cases halfway with
      | intro lull fetch edit pause => exact .intro lull fetch edit (same.trans pause)

lemma Sound.acquire (sound : session.Sound store view start) {position : Nat} {ticket : Ticket}
    {call : Call} (h : session.editor.grant? position = some (ticket, call)) :
    Sound store view start
      { session with
        editor := session.editor.acquire position
        granted := session.granted ++ [(ticket, call)]
        began := session.state } := by
  obtain ⟨hr, -⟩ := Editor.running_of_grant? h
  have progress : History store view start session.finished session.state := by
    simpa [Progress, hr] using sound.progress
  have granted : session.granted = session.finished.map Finished.grant := by
    simpa [holder, hr] using sound.granted
  rw [Editor.acquire_of_grant? h]
  refine ⟨?_, sound.answers, progress, rfl, ?_⟩
  · simp [holder, granted]
  · cases call <;> rfl

lemma Sound.finish (sound : session.Sound store view start) {running : Running}
    (hr : session.editor.running = some running) {editor : Editor} {state : σ}
    {answer : Except EditError Reply} (free : editor.running = none)
    (answers : editor.answers = session.editor.answers ++ [(running.ticket, answer)])
    (history : History store view start session.finished session.began)
    (carried : Carried store view running.call session.began state answer editor.snapshot) :
    Sound store view start
      { session with
        editor := editor
        state := state
        finished := session.finished ++ session.ended editor state } := by
  -- The one new answer moves the call from the holder of the lock to those that have answered.
  rw [ended_of_answers_append hr answers]
  refine ⟨?_, ?_, ?_⟩
  · have granted := sound.granted
    simp only [holder, hr] at granted
    simp [holder, free, granted, Finished.grant]
  · simp [answers, sound.answers, Finished.reply]
  · unfold Progress
    dsimp only
    rw [free]
    exact History.call history carried

lemma Sound.advance (sound : session.Sound store view start) {editor : Editor} {state : σ}
    (step : Editor.Advances store session.editor session.state editor state) :
    Sound store view start
      { session with
        editor := editor
        state := state
        finished := session.finished ++ session.ended editor state } := by
  have progress := sound.progress
  unfold Progress at progress
  -- Every outcome but `settled` ends the call, with one way for a call to be carried out.
  cases step with
  | unread running fetch =>
    rw [running] at progress
    exact sound.finish running rfl rfl progress.1 (.unread progress.2.1 fetch)
  | looked running fetch =>
    rw [running] at progress
    exact sound.finish running rfl rfl progress.1 (.looked progress.2.1 fetch)
  | crashed running fetch edit =>
    rw [running] at progress
    obtain ⟨history, lull, none⟩ := progress
    refine sound.finish running rfl rfl history ?_
    dsimp only
    rw [none]
    exact .crashed lull fetch edit
  | refused running fetch edit =>
    rw [running] at progress
    obtain ⟨history, lull, none⟩ := progress
    refine sound.finish running rfl rfl history ?_
    dsimp only
    rw [none]
    exact .refused lull fetch edit
  | settled running fetch edit =>
    rw [running] at progress
    obtain ⟨history, lull, none⟩ := progress
    simp only [ended_of_answers_eq, List.append_nil]
    refine ⟨?_, sound.answers, history, .intro lull fetch edit rfl, none⟩
    simpa [holder, running] using sound.granted
  | unwritten running replace =>
    rw [running] at progress
    obtain ⟨history, halfway, none⟩ := progress
    refine sound.finish running rfl rfl history ?_
    dsimp only
    rw [none]
    exact .unwritten halfway replace
  | written running replace =>
    rw [running] at progress
    exact sound.finish running rfl rfl progress.1 (.written progress.2.1 replace)

lemma sound_act (sound : session.Sound store view start) {action : Action σ}
    (keeps : action.Keeps view) : (session.act store action).Sound store view start := by
  have acts := session.acts store action
  generalize session.act store action = next at acts ⊢
  cases acts with
  | quiet running phase snapshot answers log kept =>
    exact sound.of_quiet _ _ running snapshot answers (kept keeps)
  | acquire grant => exact sound.acquire grant
  | advance step => exact sound.advance step

/-- In every session in which the store is disturbed only where nobody looks, the calls that have
answered were carried out one after another, and the call with the lock goes on from the document
that it has fetched. -/
theorem sound_run (store : Store σ) (view : σ → α) (start : σ) {actions : List (Action σ)}
    (keeps : ∀ action ∈ actions, action.Keeps view) :
    ((fresh start).run store actions).Sound store view start := by
  suffices h : ∀ session : Session σ, session.Sound store view start →
      (session.run store actions).Sound store view start from h _ (sound_fresh store view start)
  -- The first action leads to another session, so the induction is over all of them.
  induction actions with
  | nil => exact fun _ sound => sound
  | cons action actions ih =>
    intro session sound
    have first := sound_act sound (keeps action List.mem_cons_self)
    exact ih (fun a ha => keeps a (List.mem_cons_of_mem _ ha)) _ first

end Session

namespace History

variable {σ α : Type} {store : Store σ} {view : σ → α} {start now : σ} {past : List (Finished σ)}

lemma carried (h : History store view start past now) : ∀ call ∈ past, call.Carried store view := by
  induction h with
  | start => simp
  | lull history same ih => exact ih
  | call history carried ih =>
    intro other mem
    rcases List.mem_append.1 mem with mem | mem
    · exact ih other mem
    · rwa [List.mem_singleton.1 mem]

/-- What the first state has and every call keeps, every state has in which a call begins. -/
lemma invariant {good : α → Prop} (h : History store view start past now)
    (first : good (view start))
    (keeps : ∀ call : Finished σ, call.Carried store view → good (view call.before) →
      good (view call.after)) :
    good (view now) ∧ ∀ call ∈ past, good (view call.before) := by
  induction h with
  | start => exact ⟨first, by simp⟩
  | lull history same ih => exact ⟨same ▸ ih.1, ih.2⟩
  | call history carried ih =>
    refine ⟨keeps _ carried ih.1, ?_⟩
    intro other mem
    rcases List.mem_append.1 mem with mem | mem
    · exact ih.2 other mem
    · rw [List.mem_singleton.1 mem]
      exact ih.1

end History

/-- Every call that has answered was carried out, also while another one has the lock. -/
lemma Session.Sound.carried {σ α : Type} {store : Store σ} {view : σ → α} {start : σ}
    {session : Session σ} (sound : session.Sound store view start) :
    ∀ call ∈ session.finished, call.Carried store view := by
  have progress := sound.progress
  unfold Session.Progress at progress
  split at progress
  · exact progress.carried
  · exact progress.1.carried
  · exact progress.1.carried

end KanaSettings
