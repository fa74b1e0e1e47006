import KanaSettings.Proofs.Editor.Interleaving

/-!
# What can be told of a call

What a call asks of the store, the phases that it makes the editor show, its answer, and what the
editor remembers in the end fit together in six ways.  `told_run` says that the traces an editor leaves
in any session are those of its calls one after another.
-/

namespace KanaSettings

variable {σ : Type}

/-! ## One call -/

/-- The traces of a call that has answered. -/
structure Account where
  ticket : Ticket
  call : Call
  /-- What it asked of the store, with what came of it. -/
  asked : List Exchange
  events : List Event
  answer : Except EditError Reply
  snapshot : Option Document

namespace Account

/-- The call with its number. -/
def grant (account : Account) : Ticket × Call := (account.ticket, account.call)

/-- The answer with its number. -/
def reply (account : Account) : Ticket × Except EditError Reply := (account.ticket, account.answer)

/-- What happened, as the editor notes it. -/
def log (account : Account) : List (Ticket × Event) := account.events.map (account.ticket, ·)

/-- The traces of a call whose change, if there is one, does not crash. -/
inductive Regular : Account → Prop where
  | unread (ticket : Ticket) (call : Call) (error : StoreError) :
      Regular
        { ticket, call
          asked := [.fetched (.error error)]
          events := [.entered .fetching, .fetch, .entered .failed, .entered .idle]
          answer := .error (.transport error)
          snapshot := none }
  | looked (ticket : Ticket) (document : Document) :
      Regular
        { ticket
          call := .refresh
          asked := [.fetched (.ok document)]
          events := [.entered .fetching, .fetch, .entered .idle]
          answer := .ok (.document document)
          snapshot := some document }
  | refused (ticket : Ticket) {name : SliceName} {change : name.Value → Outcome name.Value}
      {document : Document} {objections : List Objection}
      (edit : document.edit name change = .refused objections) :
      Regular
        { ticket
          call := .edit name change
          asked := [.fetched (.ok document)]
          events := [.entered .fetching, .fetch, .entered .validating, .change, .entered .rejected,
            .entered .idle]
          answer := .error (.rejected objections)
          snapshot := none }
  | unwritten (ticket : Ticket) {name : SliceName} {change : name.Value → Outcome name.Value}
      {document : Document} {value : name.Value}
      (edit : document.edit name change = .settled value) (error : StoreError) :
      Regular
        { ticket
          call := .edit name change
          asked := [.fetched (.ok document), .replaced (document.write name value) (.error error)]
          events := [.entered .fetching, .fetch, .entered .validating, .change, .entered .persisting,
            .replace (document.write name value), .entered .failed, .entered .idle]
          answer := .error (.transport error)
          snapshot := none }
  | written (ticket : Ticket) {name : SliceName} {change : name.Value → Outcome name.Value}
      {document : Document} {value : name.Value}
      (edit : document.edit name change = .settled value) :
      Regular
        { ticket
          call := .edit name change
          asked := [.fetched (.ok document), .replaced (document.write name value) (.ok ())]
          events := [.entered .fetching, .fetch, .entered .validating, .change, .entered .persisting,
            .replace (document.write name value), .entered .idle]
          answer := .ok (.value name value)
          snapshot := some (document.write name value) }

/-- The traces of a call whose change crashes. -/
inductive Crashed : Account → Prop where
  | intro (ticket : Ticket) {name : SliceName} {change : name.Value → Outcome name.Value}
      {document : Document} {reason : String} (edit : document.edit name change = .crashed reason) :
      Crashed
        { ticket
          call := .edit name change
          asked := [.fetched (.ok document)]
          events := [.entered .fetching, .fetch, .entered .validating, .change]
          answer := .error (.ofCrash (.edit name change) reason)
          snapshot := none }

end Account

/-- The traces of the call with the lock as far as it has come: what it has asked of the store, and
what has happened to it. -/
inductive Underway : Option Running → List Exchange → List (Ticket × Event) → Prop where
  | idle : Underway none [] []
  | fetching (ticket : Ticket) (call : Call) :
      Underway (some ⟨ticket, call, .fetching⟩) [] [(ticket, .entered .fetching)]
  | replacing (ticket : Ticket) {name : SliceName} {change : name.Value → Outcome name.Value}
      {document : Document} {value : name.Value}
      (edit : document.edit name change = .settled value) :
      Underway
        (some ⟨ticket, .edit name change,
          .replacing (document.write name value) (.value name value)⟩)
        [.fetched (.ok document)]
        ([.entered .fetching, .fetch, .entered .validating, .change, .entered .persisting].map
          (ticket, ·))

/-! ## What is asked of a store that keeps a list -/

namespace Store

lemma asked_of_fetch {store : Store σ} {state next : σ × List Exchange}
    {result : Except StoreError Document} (h : store.recorded.fetch state = (result, next)) :
    next.2 = state.2 ++ [.fetched result] := by
  cases h
  rfl

lemma asked_of_replace {store : Store σ} {document : Document} {state next : σ × List Exchange}
    {result : Except StoreError Unit}
    (h : store.recorded.replace document state = (result, next)) :
    next.2 = state.2 ++ [.replaced document result] := by
  cases h
  rfl

lemma exists_asked_of_advances {store : Store σ} {editor editor' : Editor}
    {state state' : σ × List Exchange}
    (step : Editor.Advances store.recorded editor state editor' state') :
    ∃ more, state'.2 = state.2 ++ more := by
  cases step with
  | unread running fetch => exact ⟨_, asked_of_fetch fetch⟩
  | looked running fetch => exact ⟨_, asked_of_fetch fetch⟩
  | crashed running fetch edit => exact ⟨_, asked_of_fetch fetch⟩
  | refused running fetch edit => exact ⟨_, asked_of_fetch fetch⟩
  | settled running fetch edit => exact ⟨_, asked_of_fetch fetch⟩
  | unwritten running replace => exact ⟨_, asked_of_replace replace⟩
  | written running replace => exact ⟨_, asked_of_replace replace⟩

end Store

/-! ## Sessions -/

namespace Session

/-- What the last call left to be remembered. -/
def remembered (past : List Account) : Option Document := past.getLast?.bind Account.snapshot

/-- A session told by the traces of its calls. -/
structure Told (session : Session (σ × List Exchange)) (past : List Account)
    (asking : List Exchange) (noting : List (Ticket × Event)) : Prop where
  /-- Each call that has answered went one of the ways that there are. -/
  regular : ∀ account ∈ past, account.Regular ∨ account.Crashed
  granted : session.granted = past.map Account.grant ++ session.holder
  answers : session.editor.answers = past.map Account.reply
  asked : session.state.2 = past.flatMap Account.asked ++ asking
  log : session.editor.log = past.flatMap Account.log ++ noting
  underway : Underway session.editor.running asking noting
  /-- What is remembered is what the last call left, or what the call with the lock has made of
  it. -/
  snapshot : session.editor.snapshot = match session.editor.running with
    | none => remembered past
    | some running => running.call.remembers (remembered past)

variable {store : Store σ} {session : Session (σ × List Exchange)} {past : List Account}
  {asked : List Exchange} {log : List (Ticket × Event)}

lemma told_fresh (start : σ) : (fresh (start, ([] : List Exchange))).Told [] [] [] :=
  ⟨by simp, rfl, rfl, rfl, rfl, .idle, rfl⟩

/-- An action that neither gives the lock away nor takes it back leaves no traces. -/
lemma Told.of_quiet (told : session.Told past asked log) (editor : Editor)
    (state : σ × List Exchange) (running : editor.running = session.editor.running)
    (snapshot : editor.snapshot = session.editor.snapshot)
    (answers : editor.answers = session.editor.answers) (noted : editor.log = session.editor.log)
    (same : state.2 = session.state.2) :
    Told { session with editor := editor, state := state } past asked log := by
  refine ⟨told.regular, ?_, answers.trans told.answers, same.trans told.asked,
    noted.trans told.log, ?_, ?_⟩
  · simpa [holder, running] using told.granted
  · exact running ▸ told.underway
  · exact snapshot.trans (running ▸ told.snapshot)

lemma Told.acquire (told : session.Told past asked log) {position : Nat} {ticket : Ticket}
    {call : Call} (h : session.editor.grant? position = some (ticket, call)) :
    Told
      { session with
        editor := session.editor.acquire position
        granted := session.granted ++ [(ticket, call)]
        began := session.state } past [] [(ticket, .entered .fetching)] := by
  obtain ⟨hr, -⟩ := Editor.running_of_grant? h
  have underway := told.underway
  rw [hr] at underway
  cases underway
  have granted : session.granted = past.map Account.grant := by
    simpa [holder, hr] using told.granted
  have snapshot : session.editor.snapshot = remembered past := by
    have := told.snapshot
    rwa [hr] at this
  rw [Editor.acquire_of_grant? h]
  refine ⟨told.regular, ?_, told.answers, told.asked, ?_, .fetching ticket call, ?_⟩
  · simp [holder, granted]
  · simp [told.log]
  · exact congrArg call.remembers snapshot

/-- The call with the lock gives its answer, and its traces become an account. -/
lemma Told.finish (told : session.Told past asked log) {running : Running}
    (hr : session.editor.running = some running) (account : Account)
    (ticket : account.ticket = running.ticket) (call : account.call = running.call)
    (way : account.Regular ∨ account.Crashed) {editor : Editor} {state : σ × List Exchange}
    {more : List Exchange} {events : List (Ticket × Event)} (free : editor.running = none)
    (answers : editor.answers = session.editor.answers ++ [account.reply])
    (asks : state.2 = session.state.2 ++ more) (allAsked : account.asked = asked ++ more)
    (noted : editor.log = session.editor.log ++ events) (allNoted : account.log = log ++ events)
    (snapshot : editor.snapshot = account.snapshot) :
    Told
      { session with
        editor := editor
        state := state
        finished := session.finished ++ session.ended editor state }
      (past ++ [account]) [] [] := by
  refine ⟨?_, ?_, ?_, ?_, ?_, ?_, ?_⟩
  · intro other mem
    rcases List.mem_append.1 mem with mem | mem
    · exact told.regular other mem
    · exact List.mem_singleton.1 mem ▸ way
  · -- The call that has ended is the last one that got the lock.
    have granted := told.granted
    simp only [holder, hr] at granted
    simp [holder, free, granted, Account.grant, ticket, call]
  · simp [answers, told.answers]
  · simp [asks, told.asked, allAsked]
  · simp [noted, told.log, allNoted]
  · dsimp only
    rw [free]
    exact .idle
  · dsimp only
    rw [free, snapshot]
    simp [remembered]

lemma Told.advance (told : session.Told past asked log) {editor : Editor}
    {state : σ × List Exchange}
    (step : Editor.Advances store.recorded session.editor session.state editor state) :
    ∃ past asked log, Told
      { session with
        editor := editor
        state := state
        finished := session.finished ++ session.ended editor state } past asked log := by
  have underway := told.underway
  -- Every outcome but `settled` completes the traces of the call to an account.
  cases step with
  | @unread ticket call error next running fetch =>
    rw [running] at underway
    cases underway
    exact ⟨_, _, _, told.finish running _ rfl rfl (.inl (.unread ticket call error)) rfl rfl
      (Store.asked_of_fetch fetch) rfl rfl rfl rfl⟩
  | @looked ticket document next running fetch =>
    rw [running] at underway
    cases underway
    exact ⟨_, _, _, told.finish running _ rfl rfl (.inl (.looked ticket document)) rfl rfl
      (Store.asked_of_fetch fetch) rfl rfl rfl rfl⟩
  | @crashed ticket name change document next reason running fetch edit =>
    have snapshot := told.snapshot
    rw [running] at underway snapshot
    cases underway
    exact ⟨_, _, _, told.finish running _ rfl rfl (.inr (.intro ticket edit)) rfl rfl
      (Store.asked_of_fetch fetch) rfl rfl rfl snapshot⟩
  | @refused ticket name change document next objections running fetch edit =>
    have snapshot := told.snapshot
    rw [running] at underway snapshot
    cases underway
    exact ⟨_, _, _, told.finish running _ rfl rfl (.inl (.refused ticket edit)) rfl rfl
      (Store.asked_of_fetch fetch) rfl rfl rfl snapshot⟩
  | @settled ticket name change document next value running fetch edit =>
    have snapshot := told.snapshot
    rw [running] at underway snapshot
    cases underway
    refine ⟨past, _, _, told.regular, ?_, told.answers, ?_, ?_, .replacing ticket edit, snapshot⟩
    · simpa [holder, running] using told.granted
    · simpa [told.asked] using Store.asked_of_fetch fetch
    · simp [told.log]
  | @unwritten ticket call document reply error next running replace =>
    have snapshot := told.snapshot
    rw [running] at underway snapshot
    cases underway with
    | replacing _ edit =>
      exact ⟨_, _, _, told.finish running _ rfl rfl (.inl (.unwritten ticket edit error)) rfl rfl
        (Store.asked_of_replace replace) rfl rfl rfl snapshot⟩
  | @written ticket call document reply next running replace =>
    rw [running] at underway
    cases underway with
    | replacing _ edit =>
      exact ⟨_, _, _, told.finish running _ rfl rfl (.inl (.written ticket edit)) rfl rfl
        (Store.asked_of_replace replace) rfl rfl rfl rfl⟩

lemma told_act (told : session.Told past asked log) {action : Action (σ × List Exchange)}
    (keeps : action.Keeps Prod.snd) :
    ∃ past asked log, (session.act store.recorded action).Told past asked log := by
  have acts := session.acts store.recorded action
  generalize session.act store.recorded action = next at acts ⊢
  cases acts with
  | quiet running phase snapshot answers noted kept =>
    exact ⟨past, asked, log, told.of_quiet _ _ running snapshot answers noted (kept keeps)⟩
  | acquire grant => exact ⟨_, _, _, told.acquire grant⟩
  | advance step => exact told.advance step

/-- Whatever happens around an editor, also if others touch its store, the traces that it leaves are
those of its calls one after another. -/
theorem told_run (store : Store σ) (start : σ) {actions : List (Action (σ × List Exchange))}
    (keeps : ∀ action ∈ actions, action.Keeps Prod.snd) :
    ∃ past asked log, ((fresh (start, [])).run store.recorded actions).Told past asked log := by
  refine List.foldlRecOn (motive := fun session : Session (σ × List Exchange) =>
    ∃ past asked log, session.Told past asked log) actions _ ⟨_, _, _, told_fresh start⟩ ?_
  rintro session ⟨past, asked, log, told⟩ action mem
  exact told_act told (keeps action mem)

end Session

end KanaSettings
