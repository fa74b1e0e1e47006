import KanaSettings.Proofs.Editor.Serial

/-!
# Interleaved calls go one after another

However the calls of an editor interleave, the answers and the store are those of the same calls made
one by one in the order in which they got the lock, and no edit that succeeded is lost.
-/

namespace KanaSettings

variable {σ : Type}

/-! ## Calls that nothing disturbs -/

/-- A call that nothing disturbs does what it does alone. -/
lemma Carried.attempt_eq {store : Store σ} {call : Call} {before after : σ}
    {answer : Except EditError Reply} {snapshot : Option Document}
    (h : Carried store id call before after answer snapshot) :
    store.attempt call before = (answer, after) := by
  cases h with
  | unread lull fetch | looked lull fetch =>
    cases lull
    simp [Store.attempt, fetch]
  | crashed lull fetch edit | refused lull fetch edit =>
    cases lull
    simp [Store.attempt, fetch, edit]
  | unwritten halfway replace | written halfway replace =>
    cases halfway with
    | intro lull fetch edit pause =>
      cases lull
      cases pause
      simp [Store.attempt, fetch, edit, replace]

lemma exists_carried (store : Store σ) (call : Call) (state : σ) : ∃ snapshot,
    Carried store id call state (store.attempt call state).2 (store.attempt call state).1
      snapshot := by
  rcases fetch : store.fetch state with ⟨error | document, between⟩
  · refine ⟨none, ?_⟩
    simpa [Store.attempt, fetch] using Carried.unread rfl fetch
  · cases call with
    | refresh =>
      refine ⟨some document, ?_⟩
      simpa [Store.attempt, fetch] using Carried.looked rfl fetch
    | edit name change =>
      cases edit : document.edit name change with
      | crashed reason =>
        refine ⟨none, ?_⟩
        simpa [Store.attempt, fetch, edit] using Carried.crashed rfl fetch edit
      | refused objections =>
        refine ⟨none, ?_⟩
        simpa [Store.attempt, fetch, edit] using Carried.refused rfl fetch edit
      | settled value =>
        have halfway : Halfway store id (.edit name change) state between
            (document.write name value) (.value name value) := .intro rfl fetch edit rfl
        rcases replace : store.replace (document.write name value) between with ⟨error | done, after⟩
        · refine ⟨none, ?_⟩
          simpa [Store.attempt, fetch, edit, replace] using Carried.unwritten halfway replace
        · refine ⟨some (document.write name value), ?_⟩
          simpa [Store.attempt, fetch, edit, replace] using Carried.written halfway replace

/-- Calls that nothing disturbs do what they do in a serial run. -/
lemma History.serial_eq {store : Store σ} {start now : σ} {past : List (Finished σ)}
    (h : History store id start past now) :
    store.serial (past.map Finished.grant) start = (past.map Finished.reply, now) := by
  induction h with
  | start => rfl
  | lull history same ih =>
    cases same
    exact ih
  | call history carried ih =>
    -- The call begins where the serial run of the calls before it ends.
    have last := Carried.attempt_eq carried
    rw [List.map_append, Store.serial_append, ih]
    simp [Store.serial, Finished.grant, Finished.reply, last]

/-- What the call with the lock has asked of the store so far. -/
inductive HasAsked : Option Running → List Exchange → Prop where
  | idle : HasAsked none []
  | fetching (ticket : Ticket) (call : Call) : HasAsked (some ⟨ticket, call, .fetching⟩) []
  /-- The call is about to replace the document by the one that it fetched, with the slice's new
  value in it and nothing else changed. -/
  | replacing {name : SliceName} {change : name.Value → Outcome name.Value} {document : Document}
      {value : name.Value} (ticket : Ticket) (edit : document.edit name change = .settled value)
      (changed : document.ChangedAt name (document.write name value)) :
      HasAsked
        (some ⟨ticket, .edit name change,
          .replacing (document.write name value) (.value name value)⟩)
        [.fetched (.ok document)]

/-! ## No call comes between -/

namespace Session

lemma waiting_of_advances {store : Store σ} {editor editor' : Editor} {state state' : σ}
    (h : Editor.Advances store editor state editor' state') : editor'.waiting = editor.waiting := by
  cases h <;> rfl

lemma next_of_advances {store : Store σ} {editor editor' : Editor} {state state' : σ}
    (h : Editor.Advances store editor state editor' state') : editor'.next = editor.next := by
  cases h <;> rfl

/-- Every call that is asked gets the lock at some time or still waits, and no other call does. -/
lemma granted_append_waiting_perm (store : Store σ) (session : Session σ)
    (actions : List (Action σ)) :
    ((session.run store actions).granted ++ (session.run store actions).editor.waiting).Perm
      (session.granted ++ session.editor.waiting ++
        Action.submitted session.editor.next actions) := by
  induction actions generalizing session with
  | nil => simp [run, Action.submitted]
  | cons action actions ih =>
    refine (ih (session.act store action)).trans ?_
    cases action with
    | submit call => simp [act, Action.perform, Action.grant?, Action.submitted, Editor.submit]
    | leave ticket => simp [act, Action.perform, Action.grant?, Action.submitted]
    | disturb change => simp [act, Action.perform, Action.grant?, Action.submitted]
    | acquire position =>
      cases hg : session.editor.grant? position with
      | none =>
        simp [act, Action.perform, Action.grant?, Action.submitted, hg,
          Editor.acquire_of_grant?_none hg]
      | some grant =>
        -- The call moves from those that wait to those that got the lock.
        obtain ⟨-, waiting⟩ := Editor.running_of_grant? hg
        obtain ⟨bound, found⟩ := List.getElem?_eq_some_iff.1 waiting
        have moved := List.getElem_cons_eraseIdx_perm bound
        rw [found] at moved
        simp only [act, Action.perform, Action.grant?, Action.submitted, hg,
          Editor.acquire_of_grant? hg, Option.toList_some]
        refine List.Perm.append_right _ ?_
        rw [List.append_assoc]
        exact List.Perm.append_left _ moved
    | advance =>
      cases hr : session.editor.running with
      | none =>
        simp [act, Action.perform, Action.grant?, Action.submitted,
          Editor.advance_of_running_none hr]
      | some running =>
        have step := Editor.advances hr store session.state
        simp [act, Action.perform, Action.grant?, Action.submitted, waiting_of_advances step,
          next_of_advances step]

/-- A session seen as a serial run of the calls `done`: `told` is what they have asked of the store,
and `underway` what the call with the lock has asked since. -/
structure Serialized (store : Store σ) (start : σ) (done : List (Ticket × Call))
    (told underway : List Exchange) (session : Session (σ × List Exchange)) : Prop where
  granted : session.granted = done ++ session.holder
  answers : session.editor.answers = (store.serial done start).1
  /-- While no call has the lock, the store is that of the serial run. -/
  state : session.editor.running = none → session.state.1 = (store.serial done start).2
  asked : session.state.2 = told ++ underway
  inTurn : AsksInTurn done session.editor.answers told
  underway : HasAsked session.editor.running underway
  /-- An honest store holds the first document with every value in it that an answer says is stored,
  also while a call has the lock. -/
  document : ∀ held, store.Honest held → held session.state.1 =
    (session.editor.answers.map Prod.snd).foldl Document.afterAnswer (held start)
  /-- So no edit that succeeded is lost: a slice is what the last edit of it that succeeded stored,
  and what it was at first if there is none. -/
  kept : ∀ held, store.Honest held → ∀ name, (held session.state.1).slice? name =
    ((session.editor.answers.map Prod.snd).filterMap (stored? name)).getLast?.or
      ((held start).slice? name)

lemma hasAsked_of_halfway {store : Store σ} {call : Call} {before now : σ × List Exchange}
    {document : Document} {reply : Reply}
    (halfway : Halfway store.recorded id call before now document reply) (ticket : Ticket) :
    ∃ underway, now.2 = before.2 ++ underway ∧
      HasAsked (some ⟨ticket, call, .replacing document reply⟩) underway ∧
      ∀ held, store.Honest held → held now.1 = held before.1 := by
  cases halfway with
  | @intro name change _ _ s t document value lull fetch edit pause =>
    cases lull
    cases pause
    simp only [Store.recorded, Prod.mk.injEq] at fetch
    obtain ⟨fetched, rfl⟩ := fetch
    refine ⟨[.fetched (.ok document)], by rw [fetched],
      .replacing ticket edit (Document.changedAt_put _ _ _), ?_⟩
    exact fun held honest => honest.held_fetch before.1

/-- Where the call with the lock stands, seen from a serial run of those before it. -/
lemma hasAsked_of_progress {store : Store σ} {start : σ × List Exchange}
    {session : Session (σ × List Exchange)} (progress : session.Progress store.recorded id start) :
    ∃ state told underway,
      store.recorded.serial (session.finished.map Finished.grant) start =
        (session.finished.map Finished.reply, (state, told)) ∧
      session.state.2 = told ++ underway ∧
      HasAsked session.editor.running underway ∧
      (session.editor.running = none → session.state.1 = state) ∧
      ∀ held, store.Honest held → held session.state.1 = held state := by
  unfold Progress at progress
  split at progress
  · rename_i running
    exact ⟨_, _, [], progress.serial_eq, by simp, running ▸ .idle, fun _ => rfl, fun _ _ => rfl⟩
  · rename_i ticket call running
    obtain ⟨history, same, -⟩ := progress
    have same : session.state = session.began := same
    exact ⟨_, _, [], history.serial_eq, by simp [same], running ▸ .fetching ticket call,
      fun _ => by rw [same], fun _ _ => by rw [same]⟩
  · rename_i ticket call document reply running
    obtain ⟨history, halfway, -⟩ := progress
    obtain ⟨underway, asked, hasAsked, held⟩ := hasAsked_of_halfway halfway ticket
    refine ⟨_, _, underway, history.serial_eq, asked, running ▸ hasAsked, ?_, held⟩
    intro free
    simp [running] at free

/-- However calls interleave and whatever fails, they go one after another in the order in which
they get the lock, as long as nobody else touches the store. Every call that is asked gets the lock
or still waits for it. -/
theorem serialized_run (store : Store σ) (start : σ) {actions : List (Action (σ × List Exchange))}
    (alone : ∀ action ∈ actions, action.Keeps id) :
    ∃ done told underway,
      ((fresh (start, [])).run store.recorded actions).Serialized store start done told underway ∧
      (((fresh (start, [])).run store.recorded actions).granted ++
        ((fresh (start, [])).run store.recorded actions).editor.waiting).Perm
          (Action.submitted 0 actions) := by
  have sound := sound_run store.recorded id (start, []) alone
  have perm := granted_append_waiting_perm store.recorded (fresh (start, [])) actions
  generalize (fresh (start, [])).run store.recorded actions = session at sound perm
  obtain ⟨state, told, underway, serial, asked, hasAsked, idle, held⟩ :=
    hasAsked_of_progress sound.progress
  obtain ⟨told', inTurn, recorded⟩ :=
    store.serial_recorded (session.finished.map Finished.grant) start []
  -- The run that keeps a list and the one that does not are the same run.
  rw [serial, List.nil_append] at recorded
  simp only [Prod.mk.injEq] at recorded
  obtain ⟨answers, rfl, rfl⟩ := recorded
  rw [← sound.answers] at answers
  rw [← answers] at inTurn
  have document : ∀ view, store.Honest view → view session.state.1 =
      (session.editor.answers.map Prod.snd).foldl Document.afterAnswer (view start) := by
    intro view honest
    rw [held view honest, honest.held_serial, answers]
  refine ⟨_, _, underway, ⟨sound.granted, answers, idle, asked, inTurn, hasAsked, document, ?_⟩,
    perm⟩
  intro view honest name
  rw [document view honest, Document.slice?_foldl_afterAnswer]

/-- Two edits and a look at a document in memory.  The edit that was asked for last gets the lock
first, the caller of the other one goes away, and the store fails at its third request. -/
theorem serialized_memory : ∃ done told underway,
    ((fresh ((Memory.ofDocument .empty, [none, none, some (.unavailable "gone")]), [])).run
      Memory.store.failing.recorded
      [.submit (.edit .general .settled), .submit (.edit .romajiTable fun _ => .settled []),
        .leave 0, .acquire 1, .advance, .submit .refresh, .advance, .acquire 0, .advance,
        .acquire 0, .advance]).Serialized
      Memory.store.failing (Memory.ofDocument .empty, [none, none, some (.unavailable "gone")])
      done told underway ∧ done.map Prod.fst = [1, 0, 2] := by
  obtain ⟨done, told, underway, serialized, -⟩ := serialized_run Memory.store.failing
    (Memory.ofDocument .empty, [none, none, some (.unavailable "gone")])
    (show ∀ action ∈ ([.submit (.edit .general .settled),
        .submit (.edit .romajiTable fun _ => .settled []), .leave 0, .acquire 1, .advance,
        .submit .refresh, .advance, .acquire 0, .advance, .acquire 0, .advance] :
        List (Action _)), action.Keeps id by simp [Action.Keeps])
  refine ⟨done, told, underway, serialized, ?_⟩
  have granted := congrArg (List.map Prod.fst) serialized.granted
  simp only [List.map_append] at granted
  exact (List.append_nil _).symm.trans granted.symm

end Session

end KanaSettings
