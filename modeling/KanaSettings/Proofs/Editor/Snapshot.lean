import KanaSettings.Proofs.Editor.Account
import KanaSettings.Proofs.Store.Laws

/-!
# What an editor remembers

An editor remembers the document that its last call fetched or stored, and nothing if that call did
not succeed or if an edit is on its way.  Nobody else may have touched the store for this document
to be the one that is there; then it is at any time, also while a call has the lock.
-/

namespace KanaSettings

variable {σ : Type}

/-! ## Calls -/

namespace Account

/-- The document that a call fetched or stored last, if the call succeeded. -/
def document? (account : Account) : Option Document :=
  match account.answer, account.asked.getLast? with
  | .ok _, some (.fetched (.ok document)) => some document
  | .ok _, some (.replaced document (.ok ())) => some document
  | _, _ => none

variable {account : Account}

lemma snapshot_eq_document? (way : account.Regular ∨ account.Crashed) :
    account.snapshot = account.document? := by
  rcases way with regular | crashed
  · cases regular <;> rfl
  · cases crashed
    rfl

/-- The calls that succeed are those that fetched or stored a document last. -/
lemma isSome_document? (way : account.Regular ∨ account.Crashed) :
    account.document?.isSome ↔ ∃ reply, account.answer = .ok reply := by
  rcases way with regular | crashed
  · cases regular <;> simp [document?]
  · cases crashed
    simp [document?]

lemma remembered_eq {past : List Account}
    (ways : ∀ account ∈ past, account.Regular ∨ account.Crashed) :
    Session.remembered past = past.getLast?.bind document? := by
  cases last : past.getLast? with
  | none => simp [Session.remembered, last]
  | some account =>
    simpa [Session.remembered, last] using
      snapshot_eq_document? (ways account (List.mem_of_getLast? last))

end Account

/-! ## Stores -/

lemma Store.Honest.recorded {store : Store σ} {held : σ → Document} (h : store.Honest held) :
    store.recorded.Honest fun state => held state.1 := by
  constructor
  · rintro ⟨state, asked⟩ document next e
    simp only [Store.recorded, Prod.mk.injEq] at e
    exact h.handsOut (Prod.ext e.1 rfl)
  · rintro ⟨state, asked⟩
    exact h.held_fetch state
  · rintro document ⟨state, asked⟩ next e
    simp only [Store.recorded, Prod.mk.injEq] at e
    obtain ⟨e, rfl⟩ := e
    exact h.held_replace (Prod.ext e rfl)
  · rintro document ⟨state, asked⟩ error next e
    simp only [Store.recorded, Prod.mk.injEq] at e
    obtain ⟨e, rfl⟩ := e
    exact h.held_refused (Prod.ext e rfl)

/-- What is remembered, if anything, is the document that is held. -/
def Editor.Current (held : σ → Document) (editor : Editor) (state : σ) : Prop :=
  ∀ document, editor.snapshot = some document → document = held state

lemma Editor.Current.advance {store : Store σ} {held : σ → Document} (honest : store.Honest held)
    {editor editor' : Editor} {state state' : σ} (current : editor.Current held state)
    (step : Editor.Advances store editor state editor' state') : editor'.Current held state' := by
  have same := honest.held_fetch state
  intro document remembered
  -- What is remembered after a fetch was held before it, and a fetch changes nothing.
  cases step with
  | unread running fetch => cases remembered
  | looked running fetch =>
    cases remembered
    rw [fetch] at same
    exact (honest.handsOut fetch).trans same.symm
  | crashed running fetch edit =>
    rw [fetch] at same
    exact (current document remembered).trans same.symm
  | refused running fetch edit =>
    rw [fetch] at same
    exact (current document remembered).trans same.symm
  | settled running fetch edit =>
    rw [fetch] at same
    exact (current document remembered).trans same.symm
  | unwritten running replace =>
    exact (current document remembered).trans (honest.held_refused replace).symm
  | written running replace =>
    cases remembered
    exact (honest.held_replace replace).symm

/-! ## Sessions -/

namespace Session

lemma current_act {store : Store σ} {held : σ → Document} (honest : store.Honest held)
    {session : Session σ} (current : session.editor.Current held session.state)
    {action : Action σ} (keeps : action.Keeps held) :
    (session.act store action).editor.Current held (session.act store action).state := by
  have acts := session.acts store action
  generalize session.act store action = next at acts ⊢
  cases acts with
  | quiet running phase snapshot answers log kept =>
    intro document h
    exact (current document (snapshot.symm.trans h)).trans (kept keeps).symm
  | @acquire position ticket call grant =>
    intro document h
    simp only [Editor.acquire_of_grant? grant] at h
    cases call with
    | refresh => exact current document h
    | edit name change => cases h
  | advance step => exact current.advance honest step

lemma current_run {store : Store σ} {held : σ → Document} (honest : store.Honest held) (start : σ)
    {actions : List (Action σ)} (keeps : ∀ action ∈ actions, action.Keeps held) :
    ((fresh start).run store actions).editor.Current held
      ((fresh start).run store actions).state :=
  List.foldlRecOn (motive := fun session : Session σ =>
    session.editor.Current held session.state) actions _ (by rintro document ⟨⟩)
    fun _ current action mem => current_act honest current (keeps action mem)

/-- What an editor remembers, told by the traces of its calls. -/
structure Remembers (session : Session (σ × List Exchange)) (past : List Account) : Prop where
  succeeded : ∀ account ∈ past, account.document?.isSome ↔ ∃ reply, account.answer = .ok reply
  /-- While no call has the lock, it is the document that the last call fetched or stored, and none
  if that call did not succeed. -/
  free : session.editor.running = none →
    session.editor.snapshot = past.getLast?.bind Account.document?
  /-- While an edit has the lock, it is none. -/
  edit : ∀ ticket name change stage,
    session.editor.running = some ⟨ticket, .edit name change, stage⟩ →
    session.editor.snapshot = none

lemma Told.remembers {session : Session (σ × List Exchange)} {past : List Account}
    {asked : List Exchange} {log : List (Ticket × Event)} (told : session.Told past asked log) :
    session.Remembers past := by
  have snapshot := told.snapshot
  refine ⟨fun account mem => Account.isSome_document? (told.regular account mem), ?_, ?_⟩
  · intro free
    rw [free] at snapshot
    exact snapshot.trans (Account.remembered_eq told.regular)
  · intro ticket name change stage running
    rwa [running] at snapshot

/-- Whatever happens around an editor, also if others touch its store, it remembers what its last
call left.  And if nobody else touches a store that is honest, then the document that is remembered
is the one that the store holds, at any time. -/
theorem remembers_run (store : Store σ) (start : σ) {actions : List (Action (σ × List Exchange))}
    (keeps : ∀ action ∈ actions, action.Keeps Prod.snd) :
    ∃ past asking noting,
      ((fresh (start, [])).run store.recorded actions).Told past asking noting ∧
      ((fresh (start, [])).run store.recorded actions).Remembers past ∧
      ∀ held, store.Honest held → (∀ action ∈ actions, action.Keeps fun state => held state.1) →
        ∀ document,
          ((fresh (start, [])).run store.recorded actions).editor.snapshot = some document →
          document = held ((fresh (start, [])).run store.recorded actions).state.1 := by
  obtain ⟨past, asking, noting, told⟩ := told_run store start keeps
  exact ⟨past, asking, noting, told, told.remembers,
    fun held honest alone => current_run honest.recorded (start, []) alone⟩

/-- An edit of a document in memory is stored; then something makes the store refuse to hand the
document out, which a look at the document that has the lock does not know yet. -/
theorem remembers_run_memory : ∃ past asking noting,
    ((fresh (Memory.ofDocument .empty, [])).run Memory.store.recorded
      [.submit (.edit .romajiTable fun _ => .settled []), .acquire 0, .advance, .advance,
        .disturb fun state => ({ state.1 with refusesReads := true }, state.2), .submit .refresh,
        .acquire 0]).Told past asking noting ∧
    Document.empty.write .romajiTable [] =
      ((fresh (Memory.ofDocument .empty, [])).run Memory.store.recorded
      [.submit (.edit .romajiTable fun _ => .settled []), .acquire 0, .advance, .advance,
        .disturb fun state => ({ state.1 with refusesReads := true }, state.2), .submit .refresh,
        .acquire 0]).state.1.document := by
  obtain ⟨past, asking, noting, told, -, current⟩ := remembers_run Memory.store
    (Memory.ofDocument .empty)
    (show ∀ action ∈ ([.submit (.edit .romajiTable fun _ => .settled []), .acquire 0, .advance,
        .advance, .disturb fun state => ({ state.1 with refusesReads := true }, state.2),
        .submit .refresh, .acquire 0] : List (Action (Memory × List Exchange))),
      action.Keeps Prod.snd by simp [Action.Keeps])
  exact ⟨past, asking, noting, told,
    current Memory.document Memory.honest (by simp [Action.Keeps]) _ rfl⟩

end Session

end KanaSettings
