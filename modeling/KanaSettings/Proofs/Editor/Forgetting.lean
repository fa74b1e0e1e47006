import KanaSettings.Proofs.Editor.Serial

/-!
# An editor has no memory

Two editors at rest, over stores that look the same, go through whatever happens from then on side by
side.  So no call that failed or crashed is felt by a later one, and the document that is remembered is
never what a call works on.
-/

namespace KanaSettings

variable {σ α : Type}

/-! ## Stores -/

namespace Store

/-- A store that heeds no more of its state than is seen of it: where two states look the same, it
gives the same answers, and they still look the same afterwards. -/
structure Heeds (store : Store σ) (view : σ → α) : Prop where
  fetch : ∀ {s t}, view s = view t → (store.fetch s).1 = (store.fetch t).1
  view_fetch : ∀ {s t}, view s = view t → view (store.fetch s).2 = view (store.fetch t).2
  replace : ∀ document {s t}, view s = view t →
    (store.replace document s).1 = (store.replace document t).1
  view_replace : ∀ document {s t}, view s = view t →
    view (store.replace document s).2 = view (store.replace document t).2

namespace Heeds

variable {store : Store σ} {view : σ → α} (h : store.Heeds view)
include h

lemma exists_fetch {s t s' : σ × List Exchange} {result : Except StoreError Document}
    (same : view s.1 = view t.1) (fetch : store.recorded.fetch s = (result, s')) :
    ∃ t', store.recorded.fetch t = (result, t') ∧ view s'.1 = view t'.1 ∧
      s'.2 = s.2 ++ [.fetched result] ∧ t'.2 = t.2 ++ [.fetched result] := by
  cases fetch
  refine ⟨_, Prod.ext (h.fetch same).symm rfl, h.view_fetch same, rfl, ?_⟩
  exact congrArg (fun result => t.2 ++ [.fetched result]) (h.fetch same).symm

lemma exists_replace {s t s' : σ × List Exchange} {document : Document}
    {result : Except StoreError Unit} (same : view s.1 = view t.1)
    (replace : store.recorded.replace document s = (result, s')) :
    ∃ t', store.recorded.replace document t = (result, t') ∧ view s'.1 = view t'.1 ∧
      s'.2 = s.2 ++ [.replaced document result] ∧ t'.2 = t.2 ++ [.replaced document result] := by
  cases replace
  refine ⟨_, Prod.ext (h.replace document same).symm rfl, h.view_replace document same, rfl, ?_⟩
  exact congrArg (fun result => t.2 ++ [.replaced document result]) (h.replace document same).symm

end Heeds

end Store

namespace Memory

/-- What decides the answers of a document in memory: not how often it was replaced. -/
def condition (memory : Memory) : Document × Bool × Bool :=
  (memory.document, memory.refusesReads, memory.refusesWrites)

lemma heeds : store.Heeds condition := by
  constructor
  · rintro ⟨d, r, w, n⟩ ⟨d', r', w', n'⟩ same
    cases same
    cases r <;> rfl
  · rintro ⟨d, r, w, n⟩ ⟨d', r', w', n'⟩ same
    cases same
    cases r <;> rfl
  · rintro document ⟨d, r, w, n⟩ ⟨d', r', w', n'⟩ same
    cases same
    cases w <;> rfl
  · rintro document ⟨d, r, w, n⟩ ⟨d', r', w', n'⟩ same
    cases same
    cases w <;> rfl

end Memory

/-- Whether an action does the same to stores that look the same, and nothing to the list of what
they were asked. -/
def Action.Heeds (view : σ → α) : Action (σ × List Exchange) → Prop
  | disturb change => (∀ state, (change state).2 = state.2) ∧
      ∀ s t, view s.1 = view t.1 → view (change s).1 = view (change t).1
  | _ => True

/-- All that happens when a call is asked and nothing else happens until it has been carried out. -/
def Action.alone (call : Call) : List (Action σ) :=
  [.submit call, .acquire 0, .advance, .advance]

lemma Action.heeds_alone (view : σ → α) (call : Call) :
    ∀ action ∈ Action.alone call, action.Heeds view := by
  simp [alone, Heeds]

/-- Once a call has been answered, the step that is left does nothing. -/
lemma Editor.exists_advance_of_answered {store : Store σ} {editor next : Editor} {ticket : Ticket}
    {call : Call} {answer : Except EditError Reply} {state between : σ}
    (attempt : store.attempt call state = (answer, between)) (free : next.running = none)
    (kept : next.waiting = editor.waiting)
    (given : next.answers = editor.answers ++ [(ticket, answer)]) :
    ∃ last, next.advance store between = (last, (store.attempt call state).2) ∧
      last.running = none ∧ last.waiting = editor.waiting ∧
      last.answers = editor.answers ++ [(ticket, (store.attempt call state).1)] := by
  rw [attempt]
  exact ⟨next, advance_of_running_none free _ _, free, kept, given⟩

/-- A call that has just got the lock is carried out in two steps. -/
lemma Editor.advance_advance (store : Store σ) {editor : Editor} {ticket : Ticket} {call : Call}
    (running : editor.running = some ⟨ticket, call, .fetching⟩) (state : σ) :
    ∃ last, (editor.advance store state).1.advance store (editor.advance store state).2 =
        (last, (store.attempt call state).2) ∧
      last.running = none ∧ last.waiting = editor.waiting ∧
      last.answers = editor.answers ++ [(ticket, (store.attempt call state).1)] := by
  have step := advances_of_fetching running store state
  generalize editor.advance store state = next at step ⊢
  obtain ⟨first, between⟩ := next
  cases step with
  | unread ran fetch =>
    cases running.symm.trans ran
    exact exists_advance_of_answered (by simp only [Store.attempt, fetch]) rfl rfl rfl
  | looked ran fetch =>
    cases running.symm.trans ran
    exact exists_advance_of_answered (by simp only [Store.attempt, fetch]) rfl rfl rfl
  | crashed ran fetch edit | refused ran fetch edit =>
    cases running.symm.trans ran
    exact exists_advance_of_answered (by simp only [Store.attempt, fetch, edit]) rfl rfl rfl
  | @settled _ name change document _ value ran fetch edit =>
    cases running.symm.trans ran
    -- Only here does the second step ask the store for something.
    rcases replace : store.replace (document.write name value) between with ⟨error | done, last⟩
    · have attempt : store.attempt (.edit name change) state = (.error (.transport error), last) := by
        simp only [Store.attempt, fetch, edit, replace]
      rw [attempt]
      exact ⟨_, (Advances.unwritten rfl replace).advance_eq, rfl, rfl, rfl⟩
    · have attempt : store.attempt (.edit name change) state = (.ok (.value name value), last) := by
        simp only [Store.attempt, fetch, edit, replace]
      rw [attempt]
      exact ⟨_, (Advances.written rfl replace).advance_eq, rfl, rfl, rfl⟩
  | unwritten ran replace => cases running.symm.trans ran
  | written ran replace => cases running.symm.trans ran

/-! ## Side by side -/

/-- What a call is and how far it has come, without its number. -/
def Running.work (running : Running) : Call × Stage := (running.call, running.stage)

namespace Session

/-- What has happened in a session since an earlier moment: the answers that were given, what was
asked of the store, and all that was noted. -/
structure Since (before after : Session (σ × List Exchange)) (given : List (Except EditError Reply))
    (asked : List Exchange) (events : List Event) : Prop where
  answers : after.editor.answers.map Prod.snd = before.editor.answers.map Prod.snd ++ given
  asked : after.state.2 = before.state.2 ++ asked
  log : after.editor.log.map Prod.snd = before.editor.log.map Prod.snd ++ events

/-- Two sessions that were once `one` and `other`, and of which nobody can tell since then which is
which. -/
structure Abreast (view : σ → α) (one other one' other' : Session (σ × List Exchange))
    (given : List (Except EditError Reply)) (asked : List Exchange) (events : List Event) :
    Prop where
  first : one.Since one' given asked events
  second : other.Since other' given asked events
  running : one'.editor.running.map Running.work = other'.editor.running.map Running.work
  waiting : one'.editor.waiting.map Prod.snd = other'.editor.waiting.map Prod.snd
  state : view one'.state.1 = view other'.state.1
  /-- The same phase is shown, unless nothing has happened. -/
  phase : (given = [] ∧ events = []) ∨ one'.editor.phase = other'.editor.phase
  /-- The same is remembered, unless no answer was given and no edit has begun. -/
  snapshot : (given = [] ∧ ∀ work ∈ one'.editor.running.map Running.work,
    work = (.refresh, .fetching)) ∨ one'.editor.snapshot = other'.editor.snapshot

/-- A session in which no call is in flight. -/
structure AtRest (session : Session σ) : Prop where
  running : session.editor.running = none
  waiting : session.editor.waiting = []

/-- What a call makes of a session when nothing else happens while it is carried out. -/
structure Served (store : Store σ) (call : Call) (before after : Session (σ × List Exchange)) :
    Prop where
  rest : after.AtRest
  /-- The answer is what comes of the call in the state in which the store is now. -/
  answers : after.editor.answers =
    before.editor.answers ++ [(before.editor.next, (store.attempt call before.state.1).1)]
  state : after.state.1 = (store.attempt call before.state.1).2
  /-- The store is asked for its document, and what it is to replace it by is made from this one. -/
  asked : ∃ asked, Asks call asked (store.attempt call before.state.1).1 ∧
    after.state.2 = before.state.2 ++ asked

variable {store : Store σ} {view : σ → α} {one other one' other' : Session (σ × List Exchange)}
  {given : List (Except EditError Reply)} {asked : List Exchange} {events : List Event}

lemma since_refl (session : Session (σ × List Exchange)) : session.Since session [] [] [] :=
  ⟨by simp, by simp, by simp⟩

/-- The call that the other session has the lock for, if the first one has it for a call. -/
lemma Abreast.exists_running
    (abreast : Abreast view one other one' other' given asked events) {ticket : Ticket} {call : Call}
    {stage : Stage} (running : one'.editor.running = some ⟨ticket, call, stage⟩) :
    ∃ ticket', other'.editor.running = some ⟨ticket', call, stage⟩ := by
  have same := abreast.running
  rw [running, Option.map_some] at same
  obtain ⟨⟨ticket', call', stage'⟩, held, work⟩ := Option.map_eq_some_iff.1 same.symm
  cases work
  exact ⟨ticket', held⟩

lemma Abreast.running_eq_none (abreast : Abreast view one other one' other' given asked events)
    (free : one'.editor.running = none) : other'.editor.running = none := by
  have same := abreast.running
  rw [free] at same
  exact Option.map_eq_none_iff.1 same.symm

lemma Abreast.grant? (abreast : Abreast view one other one' other' given asked events)
    (position : Nat) : (one'.editor.grant? position).map Prod.snd =
      (other'.editor.grant? position).map Prod.snd := by
  rcases running : one'.editor.running with _ | ⟨ticket, call, stage⟩
  · have waiting := congrArg (·[position]?) abreast.waiting
    simpa [Editor.grant?, running, abreast.running_eq_none running] using waiting
  · obtain ⟨ticket', running'⟩ := abreast.exists_running running
    simp [Editor.grant?, running, running']

lemma Since.trans {before after after' : Session (σ × List Exchange)}
    {given' : List (Except EditError Reply)} {asked' : List Exchange} {events' : List Event}
    (since : before.Since after given asked events)
    (further : after.Since after' given' asked' events') :
    before.Since after' (given ++ given') (asked ++ asked') (events ++ events') :=
  ⟨by rw [further.answers, since.answers, List.append_assoc],
    by rw [further.asked, since.asked, List.append_assoc],
    by rw [further.log, since.log, List.append_assoc]⟩

lemma Abreast.of_same (abreast : Abreast view one other one' other' given asked events)
    {one'' other'' : Session (σ × List Exchange)}
    (first : one''.editor = one'.editor ∧ one''.state = one'.state)
    (second : other''.editor = other'.editor ∧ other''.state = other'.state) :
    Abreast view one other one'' other'' given asked events := by
  obtain ⟨⟨answers, asked, log⟩, ⟨answers', asked', log'⟩, running, waiting, state, phase,
    snapshot⟩ := abreast
  rw [← first.1, ← first.2] at *
  rw [← second.1, ← second.2] at *
  exact ⟨⟨answers, asked, log⟩, ⟨answers', asked', log'⟩, running, waiting, state, phase, snapshot⟩

/-- Unless a call of the lock's holder is a look at the document that has not been fetched yet, the
same is remembered while it goes on. -/
lemma Abreast.snapshot_eq (abreast : Abreast view one other one' other' given asked events)
    {ticket : Ticket} {call : Call} {stage : Stage}
    (running : one'.editor.running = some ⟨ticket, call, stage⟩)
    (further : (call, stage) ≠ (.refresh, .fetching)) :
    one'.editor.snapshot = other'.editor.snapshot := by
  rcases abreast.snapshot with ⟨-, early⟩ | same
  · exact absurd (early (call, stage) (by simp [running, Running.work])) further
  · exact same

lemma Abreast.step (abreast : Abreast view one other one' other' given asked events)
    {one'' other'' : Session (σ × List Exchange)} (given' : List (Except EditError Reply))
    (asked' : List Exchange) (events' : List Event)
    (first : one'.Since one'' given' asked' events')
    (second : other'.Since other'' given' asked' events')
    (running : one''.editor.running.map Running.work = other''.editor.running.map Running.work)
    (waiting : one''.editor.waiting.map Prod.snd = other''.editor.waiting.map Prod.snd)
    (state : view one''.state.1 = view other''.state.1)
    (phase : one''.editor.phase = other''.editor.phase)
    (snapshot : (given ++ given' = [] ∧ ∀ work ∈ one''.editor.running.map Running.work,
      work = (.refresh, .fetching)) ∨ one''.editor.snapshot = other''.editor.snapshot) :
    ∃ given asked events, Abreast view one other one'' other'' given asked events :=
  ⟨_, _, _, abreast.first.trans first, abreast.second.trans second, running, waiting, state,
    .inr phase, snapshot⟩

lemma Abreast.acquire (abreast : Abreast view one other one' other' given asked events)
    (position : Nat) : ∃ given asked events, Abreast view one other
      (one'.act store.recorded (.acquire position)) (other'.act store.recorded (.acquire position))
      given asked events := by
  have grants := abreast.grant? position
  cases grant : one'.editor.grant? position with
  | none =>
    rw [grant] at grants
    have grant' := Option.map_eq_none_iff.1 grants.symm
    exact ⟨given, asked, events, abreast.of_same ⟨Editor.acquire_of_grant?_none grant, rfl⟩
      ⟨Editor.acquire_of_grant?_none grant', rfl⟩⟩
  | some held =>
    obtain ⟨ticket, call⟩ := held
    rw [grant, Option.map_some] at grants
    obtain ⟨⟨ticket', call'⟩, grant', work⟩ := Option.map_eq_some_iff.1 grants.symm
    cases work
    have first : (one'.act store.recorded (.acquire position)).editor = _ :=
      Editor.acquire_of_grant? grant
    have second : (other'.act store.recorded (.acquire position)).editor = _ :=
      Editor.acquire_of_grant? grant'
    -- Both calls do the same work, whatever their tickets are.
    refine abreast.step [] [] [.entered .fetching] ⟨?_, ?_, ?_⟩ ⟨?_, ?_, ?_⟩ ?_ ?_ ?_ ?_ ?_
    · simp [first]
    · simp [act, Action.perform]
    · simp [first]
    · simp [second]
    · simp [act, Action.perform]
    · simp [second]
    · simp [first, second, Running.work]
    · rw [first, second]
      simp only [← List.eraseIdx_map, abreast.waiting]
    · exact abreast.state
    · rw [first, second]
    · rw [first, second]
      cases call with
      -- An edit forgets what was remembered as soon as it has the lock; a look does not.
      | edit name change => exact .inr rfl
      | refresh =>
        rcases abreast.snapshot with ⟨early, -⟩ | same
        · exact .inl ⟨by simpa using early, by simp [Running.work]⟩
        · exact .inr same

lemma Abreast.proceed (abreast : Abreast view one other one' other' given asked events)
    {first second : Editor × (σ × List Exchange)}
    (step : one'.editor.advance store.recorded one'.state = first)
    (step' : other'.editor.advance store.recorded other'.state = second)
    (ticket ticket' : Ticket) (phase : Phase) (work : Option (Call × Stage))
    (given' : List (Except EditError Reply))
    (exchange : Exchange) (events' : List Event)
    (state : view first.2.1 = view second.2.1 ∧
      first.2.2 = one'.state.2 ++ [exchange] ∧ second.2.2 = other'.state.2 ++ [exchange])
    {snapshot snapshot' : Option Document} (same : snapshot = snapshot')
    (editor : first.1 = { one'.editor with
      phase := phase
      snapshot := snapshot
      running := work.map fun (call, stage) => ⟨ticket, call, stage⟩
      answers := one'.editor.answers ++ given'.map (ticket, ·)
      log := one'.editor.log ++ events'.map (ticket, ·) })
    (editor' : second.1 = { other'.editor with
      phase := phase
      snapshot := snapshot'
      running := work.map fun (call, stage) => ⟨ticket', call, stage⟩
      answers := other'.editor.answers ++ given'.map (ticket', ·)
      log := other'.editor.log ++ events'.map (ticket', ·) }) :
    ∃ given asked events, Abreast view one other
      (one'.act store.recorded .advance) (other'.act store.recorded .advance)
      given asked events := by
  have shown : (one'.act store.recorded .advance).editor = first.1 := congrArg Prod.fst step
  have shown' : (other'.act store.recorded .advance).editor = second.1 := congrArg Prod.fst step'
  have left : (one'.act store.recorded .advance).state = first.2 := congrArg Prod.snd step
  have left' : (other'.act store.recorded .advance).state = second.2 := congrArg Prod.snd step'
  obtain ⟨alike, asks, asks'⟩ := state
  refine abreast.step given' [exchange] events' ⟨?_, ?_, ?_⟩ ⟨?_, ?_, ?_⟩ ?_ ?_ ?_ ?_ (.inr ?_)
  · simp [shown, editor, Function.comp_def]
  · rw [left, asks]
  · simp [shown, editor, Function.comp_def]
  · simp [shown', editor', Function.comp_def]
  · rw [left', asks']
  · simp [shown', editor', Function.comp_def]
  · rw [shown, shown', editor, editor']
    simp [Function.comp_def, Running.work]
  · rw [shown, shown', editor, editor']
    exact abreast.waiting
  · rw [left, left']
    exact alike
  · rw [shown, shown', editor, editor']
  · rw [shown, shown', editor, editor']
    exact same

lemma Abreast.advance (heeds : store.Heeds view)
    (abreast : Abreast view one other one' other' given asked events) :
    ∃ given asked events, Abreast view one other
      (one'.act store.recorded .advance) (other'.act store.recorded .advance)
      given asked events := by
  cases running : one'.editor.running with
  | none =>
    have step := Editor.advance_of_running_none running store.recorded one'.state
    have step' := Editor.advance_of_running_none (abreast.running_eq_none running) store.recorded
      other'.state
    exact ⟨given, asked, events, abreast.of_same
      ⟨congrArg Prod.fst step, congrArg Prod.snd step⟩
      ⟨congrArg Prod.fst step', congrArg Prod.snd step'⟩⟩
  | some holder =>
    have step := Editor.advances running store.recorded one'.state
    -- Both stores are asked the same and answer the same, so both calls come equally far.
    generalize eq : one'.editor.advance store.recorded one'.state = next at step
    obtain ⟨editor, state⟩ := next
    cases step with
    | unread running fetch =>
      obtain ⟨ticket', running'⟩ := abreast.exists_running running
      obtain ⟨state', fetch', alike⟩ := heeds.exists_fetch abreast.state fetch
      exact abreast.proceed eq (Editor.Advances.unread running' fetch').advance_eq _ _ .idle none
        [_] _ [.fetch, .entered .failed, .entered .idle] alike rfl rfl rfl
    | looked running fetch =>
      obtain ⟨ticket', running'⟩ := abreast.exists_running running
      obtain ⟨state', fetch', alike⟩ := heeds.exists_fetch abreast.state fetch
      exact abreast.proceed eq (Editor.Advances.looked running' fetch').advance_eq _ _ .idle none
        [_] _ [.fetch, .entered .idle] alike rfl rfl rfl
    | crashed running fetch edit =>
      obtain ⟨ticket', running'⟩ := abreast.exists_running running
      obtain ⟨state', fetch', alike⟩ := heeds.exists_fetch abreast.state fetch
      exact abreast.proceed eq (Editor.Advances.crashed running' fetch' edit).advance_eq _ _
        .validating none [_] _ [.fetch, .entered .validating, .change] alike
        (abreast.snapshot_eq running nofun) rfl rfl
    | refused running fetch edit =>
      obtain ⟨ticket', running'⟩ := abreast.exists_running running
      obtain ⟨state', fetch', alike⟩ := heeds.exists_fetch abreast.state fetch
      exact abreast.proceed eq (Editor.Advances.refused running' fetch' edit).advance_eq _ _ .idle none
        [_] _ [.fetch, .entered .validating, .change, .entered .rejected, .entered .idle] alike
        (abreast.snapshot_eq running nofun) rfl rfl
    | @settled ticket name change document _ value running fetch edit =>
      obtain ⟨ticket', running'⟩ := abreast.exists_running running
      obtain ⟨state', fetch', alike⟩ := heeds.exists_fetch abreast.state fetch
      exact abreast.proceed eq (Editor.Advances.settled running' fetch' edit).advance_eq
        ticket ticket' .persisting
        (some (.edit name change, .replacing (document.write name value) (.value name value))) [] _
        [.fetch, .entered .validating, .change, .entered .persisting] alike
        (abreast.snapshot_eq running nofun) (by simp) (by simp)
    | unwritten running replace =>
      obtain ⟨ticket', running'⟩ := abreast.exists_running running
      obtain ⟨state', replace', alike⟩ := heeds.exists_replace abreast.state replace
      exact abreast.proceed eq (Editor.Advances.unwritten running' replace').advance_eq _ _ .idle none
        [_] _ [.replace _, .entered .failed, .entered .idle] alike
        (abreast.snapshot_eq running nofun) rfl rfl
    | written running replace =>
      obtain ⟨ticket', running'⟩ := abreast.exists_running running
      obtain ⟨state', replace', alike⟩ := heeds.exists_replace abreast.state replace
      exact abreast.proceed eq (Editor.Advances.written running' replace').advance_eq _ _ .idle none
        [_] _ [.replace _, .entered .idle] alike rfl rfl rfl

lemma Abreast.act (heeds : store.Heeds view)
    (abreast : Abreast view one other one' other' given asked events)
    {action : Action (σ × List Exchange)} (action_heeds : action.Heeds view) :
    ∃ given asked events, Abreast view one other
      (one'.act store.recorded action) (other'.act store.recorded action)
      given asked events := by
  obtain ⟨first, second, running, waiting, state, phase, snapshot⟩ := abreast
  cases action with
  | submit call =>
    refine ⟨given, asked, events, ⟨first.answers, first.asked, first.log⟩,
      ⟨second.answers, second.asked, second.log⟩, running, ?_, state, phase, snapshot⟩
    simp [Session.act, Action.perform, Editor.submit, waiting]
  | leave ticket =>
    exact ⟨given, asked, events, ⟨first.answers, first.asked, first.log⟩,
      ⟨second.answers, second.asked, second.log⟩, running, waiting, state, phase, snapshot⟩
  | disturb change =>
    obtain ⟨quiet, alike⟩ := action_heeds
    exact ⟨given, asked, events, ⟨first.answers, (quiet _).trans first.asked, first.log⟩,
      ⟨second.answers, (quiet _).trans second.asked, second.log⟩, running, waiting,
      alike _ _ state, phase, snapshot⟩
  | acquire position =>
    exact Abreast.acquire ⟨first, second, running, waiting, state, phase, snapshot⟩ position
  | advance =>
    exact Abreast.advance heeds ⟨first, second, running, waiting, state, phase, snapshot⟩

/-- Two sessions over stores that look the same, in which no call is in flight, are abreast. -/
lemma abreast_of_atRest (rest : one.AtRest) (rest' : other.AtRest)
    (same : view one.state.1 = view other.state.1) : Abreast view one other one other [] [] [] := by
  refine ⟨since_refl one, since_refl other, ?_, ?_, same, .inl ⟨rfl, rfl⟩, .inl ⟨rfl, ?_⟩⟩
  · rw [rest.running, rest'.running]
  · rw [rest.waiting, rest'.waiting]
  · simp [rest.running]

lemma Abreast.run (heeds : store.Heeds view)
    (abreast : Abreast view one other one' other' given asked events)
    {actions : List (Action (σ × List Exchange))}
    (actions_heed : ∀ action ∈ actions, action.Heeds view) :
    ∃ given asked events, Abreast view one other
      (one'.run store.recorded actions) (other'.run store.recorded actions)
      given asked events := by
  induction actions generalizing one' other' given asked events with
  | nil => exact ⟨given, asked, events, abreast⟩
  | cons action actions ih =>
    obtain ⟨given, asked, events, next⟩ := abreast.act heeds (actions_heed _ List.mem_cons_self)
    exact ih next fun action mem => actions_heed action (List.mem_cons_of_mem _ mem)

/-! ## The next call -/

/-- A call that is asked of a session at rest is carried out as if it were the first one ever. -/
lemma served (store : Store σ) {before : Session (σ × List Exchange)} (rest : before.AtRest)
    (call : Call) :
    Served store call before (before.run store.recorded (Action.alone call)) := by
  obtain ⟨asked, asks, attempt⟩ := store.attempt_recorded call before.state.1 before.state.2
  have grant : (before.editor.submit call).grant? 0 = some (before.editor.next, call) := by
    simp [Editor.grant?, Editor.submit, rest.running, rest.waiting]
  have locked := Editor.acquire_of_grant? grant
  have running : ((before.editor.submit call).acquire 0).running =
      some ⟨before.editor.next, call, .fetching⟩ := by rw [locked]
  have waiting : ((before.editor.submit call).acquire 0).waiting = [] := by
    rw [locked]
    simp [Editor.submit, rest.waiting]
  have answers : ((before.editor.submit call).acquire 0).answers = before.editor.answers := by
    rw [locked, Editor.submit]
  -- Nothing disturbs the call, so it comes to its end in two steps.
  obtain ⟨last, ends, free, kept, given⟩ :=
    Editor.advance_advance store.recorded running before.state
  rw [attempt] at ends given
  have editor : (before.run store.recorded (Action.alone call)).editor = last :=
    congrArg Prod.fst ends
  have state : (before.run store.recorded (Action.alone call)).state =
      ((store.attempt call before.state.1).2, before.state.2 ++ asked) :=
    congrArg Prod.snd ends
  refine ⟨⟨?_, ?_⟩, ?_, ?_, asked, asks, ?_⟩
  · rw [editor, free]
  · rw [editor, kept, waiting]
  · rw [editor, given, answers]
  · rw [state]
  · rw [state]

/-- Take two sessions with one kind of store, in neither of which a call is in flight, and whose
stores look the same now.  Their editors were asked whatever they were asked, and calls of theirs
succeeded, were refused, failed or crashed; and the documents that they remember may not be there any
more.  Nothing of this can be felt.  Whatever happens next, if it happens to both, both ask the same
of their stores, give the same answers and are left in states that look the same.  And a call that is
asked next is carried out on what the store holds now, after which both show the same phase and
remember the same document. -/
theorem forgets_run (heeds : store.Heeds view) (start start' : σ)
    (past past' : List (Action (σ × List Exchange)))
    (rest : ((fresh (start, [])).run store.recorded past).AtRest)
    (rest' : ((fresh (start', [])).run store.recorded past').AtRest)
    (same : view ((fresh (start, [])).run store.recorded past).state.1 =
      view ((fresh (start', [])).run store.recorded past').state.1) :
    let one := (fresh (start, [])).run store.recorded past
    let other := (fresh (start', [])).run store.recorded past'
    (∀ next, (∀ action ∈ next, action.Heeds view) → ∃ given asked events,
      Abreast view one other (one.run store.recorded next) (other.run store.recorded next)
        given asked events) ∧
    ∀ call,
      let one' := one.run store.recorded (Action.alone call)
      let other' := other.run store.recorded (Action.alone call)
      Served store call one one' ∧ Served store call other other' ∧
        (store.attempt call one.state.1).1 = (store.attempt call other.state.1).1 ∧
        (∃ asked, one'.state.2 = one.state.2 ++ asked ∧ other'.state.2 = other.state.2 ++ asked) ∧
        view one'.state.1 = view other'.state.1 ∧
        one'.editor.snapshot = other'.editor.snapshot ∧
        one'.editor.phase = other'.editor.phase := by
  intro one other
  have abreast : Abreast view one other one other [] [] [] := abreast_of_atRest rest rest' same
  refine ⟨fun next heed => abreast.run heeds heed, fun call => ?_⟩
  intro one' other'
  have served : Served store call one one' := served store rest call
  have served' : Served store call other other' := Session.served store rest' call
  obtain ⟨given, asked, events, next⟩ := abreast.run heeds (Action.heeds_alone view call)
  have answer : given = [(store.attempt call one.state.1).1] := by
    have first := next.first.answers
    rw [served.answers] at first
    simpa using first.symm
  have answer' : given = [(store.attempt call other.state.1).1] := by
    have second := next.second.answers
    rw [served'.answers] at second
    simpa using second.symm
  refine ⟨served, served', ?_, ⟨asked, next.first.asked, next.second.asked⟩, next.state, ?_, ?_⟩
  · simpa using answer.symm.trans answer'
  · -- What is shown may differ only until the first answer, and here is one.
    rcases next.snapshot with ⟨none, -⟩ | same
    · simp [answer] at none
    · exact same
  · rcases next.phase with ⟨none, -⟩ | same
    · simp [answer] at none
    · exact same

/-- One editor has lost an edit that crashed, and still shows its phase; the other could not look at
the document, which can be read again by now, and is idle.  After an edit without a change the two
are the same. -/
theorem forgets_run_crashed :
    let crashed := (fresh (Memory.ofDocument .empty, [])).run Memory.store.recorded
      [.submit (.edit .general fun _ => .crashed ""), .acquire 0, .advance]
    let failed := (fresh (⟨.empty, true, false, 7⟩, [])).run Memory.store.recorded
      [.submit .refresh, .acquire 0, .advance,
        .disturb fun (memory, asked) => ({ memory with refusesReads := false }, asked)]
    let crashed' := crashed.run Memory.store.recorded (Action.alone (.edit .general .settled))
    let failed' := failed.run Memory.store.recorded (Action.alone (.edit .general .settled))
    crashed.editor.phase = .validating ∧ failed.editor.phase = .idle ∧
      crashed'.editor.snapshot = failed'.editor.snapshot ∧
      crashed'.editor.phase = failed'.editor.phase := by
  have after := (forgets_run Memory.heeds (Memory.ofDocument .empty) ⟨.empty, true, false, 7⟩
    [.submit (.edit .general fun _ => .crashed ""), .acquire 0, .advance]
    [.submit .refresh, .acquire 0, .advance,
      .disturb fun (memory, asked) => ({ memory with refusesReads := false }, asked)]
    ⟨rfl, rfl⟩ ⟨rfl, rfl⟩ rfl).2 (.edit .general .settled)
  exact ⟨rfl, rfl, after.2.2.2.2.2.1, after.2.2.2.2.2.2⟩

end Session

end KanaSettings
