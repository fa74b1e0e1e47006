import KanaSettings.Proofs.Editor.Phases
import KanaSettings.Store.Memory

/-!
# After a crash

While a call has the lock the editor shows what it does.  Every regular way of a call ends with the
editor at rest, and the lock comes free in the same step.  If a change crashes, the lock comes free
too, and nobody is left to show another phase: the editor goes on showing that the change is being
checked, until another call gets the lock.
-/

namespace KanaSettings

variable {σ : Type}

namespace Account

variable {account : Account}

lemma Crashed.phaseAfter_log (h : account.Crashed) (phase : Phase) :
    phaseAfter phase account.log = .validating := by
  cases h
  rfl

lemma Regular.not_crashed (regular : account.Regular) : ¬ account.Crashed := by
  intro crashed
  have idle := regular.phaseAfter_log .idle
  rw [crashed.phaseAfter_log] at idle
  cases idle

end Account

/-- The call with the lock shows that it fetches or that it stores, wherever its last step ended. -/
lemma Underway.phaseAfter {running : Running} {asked : List Exchange}
    {log : List (Ticket × Event)} (h : Underway (some running) asked log) (phase : Phase) :
    phaseAfter phase log = .fetching ∨ phaseAfter phase log = .persisting := by
  cases h with
  | fetching ticket call => exact .inl rfl
  | replacing ticket edit => exact .inr rfl

namespace Session

/-- What an editor shows between the steps of a session, by the calls that have answered. -/
structure Shows (session : Session σ) (past : List Account) : Prop where
  /-- It shows that it does nothing exactly if no call has the lock, and the last call that had it
  did not crash. -/
  idle : session.editor.phase = .idle ↔
    session.editor.running = none ∧ ∀ last ∈ past.getLast?, ¬ last.Crashed
  /-- It shows that a change is being checked exactly if no call has the lock, and the last call that
  had it crashed. -/
  validating : session.editor.phase = .validating ↔
    session.editor.running = none ∧ ∃ last ∈ past.getLast?, last.Crashed
  busy : session.editor.phase ≠ .idle → session.editor.phase ≠ .validating →
    session.editor.running ≠ none

lemma Told.shows_of_running {session : Session (σ × List Exchange)} {past : List Account}
    {asking : List Exchange} {noting : List (Ticket × Event)} (told : session.Told past asking noting)
    (phase : session.editor.phase = phaseAfter .idle session.editor.log) {running : Running}
    (held : session.editor.running = some running) : session.Shows past := by
  have underway := told.underway
  rw [held] at underway
  have shown : session.editor.phase = .fetching ∨ session.editor.phase = .persisting := by
    rw [phase, told.log, phaseAfter_append]
    exact underway.phaseAfter _
  constructor <;> rcases shown with shown | shown <;> simp [shown, held]

lemma Told.shows_of_free {session : Session (σ × List Exchange)} {past : List Account}
    {asking : List Exchange} {noting : List (Ticket × Event)} (told : session.Told past asking noting)
    (phase : session.editor.phase = phaseAfter .idle session.editor.log)
    (free : session.editor.running = none) : session.Shows past := by
  have underway := told.underway
  rw [free] at underway
  cases underway
  have shown : session.editor.phase = phaseAfter .idle (past.flatMap Account.log) := by
    rw [phase, told.log, List.append_nil]
  rcases past.eq_nil_or_concat with rfl | ⟨before, last, rfl⟩
  · constructor <;> simp [shown, free, phaseAfter]
  -- What earlier calls left does not matter: it is the last one that decides what is shown.
  rw [List.concat_eq_append, List.flatMap_append, List.flatMap_singleton, phaseAfter_append] at shown
  rcases told.regular last (by simp) with regular | crashed
  · rw [regular.phaseAfter_log] at shown
    constructor <;> simp [shown, free, regular.not_crashed]
  · rw [crashed.phaseAfter_log] at shown
    constructor <;> simp [shown, free, crashed]

/-- Whatever happens around an editor, also if others touch its store, it shows that it does nothing
exactly while no call has the lock, unless the last call that had it crashed. -/
theorem shows_run (store : Store σ) (start : σ) {actions : List (Action (σ × List Exchange))}
    (keeps : ∀ action ∈ actions, action.Keeps Prod.snd) :
    ∃ past asking noting,
      ((fresh (start, [])).run store.recorded actions).Told past asking noting ∧
      ((fresh (start, [])).run store.recorded actions).Shows past := by
  obtain ⟨past, asking, noting, told⟩ := told_run store start keeps
  refine ⟨past, asking, noting, told, ?_⟩
  have phase := phase_run store.recorded (start, []) actions
  cases lock : ((fresh (start, [])).run store.recorded actions).editor.running with
  | none => exact told.shows_of_free phase lock
  | some running => exact told.shows_of_running phase lock

/-- A change that crashes, and a look at the document that waits for it. -/
theorem shows_run_crashed : ∃ past asking noting,
    ((fresh (Memory.ofDocument .empty, [])).run Memory.store.recorded
      [.submit (.edit .general fun _ => .crashed ""), .submit .refresh, .acquire 0,
        .advance]).Told past asking noting ∧
    ((fresh (Memory.ofDocument .empty, [])).run Memory.store.recorded
      [.submit (.edit .general fun _ => .crashed ""), .submit .refresh, .acquire 0,
        .advance]).Shows past :=
  shows_run Memory.store (Memory.ofDocument .empty) (by simp [Action.Keeps])

/-- An editor that nobody asks anything any more can go on showing that it does something. -/
theorem exists_crash_that_shows :
    ¬ ∀ (store : Store Memory) (start : Memory) (actions : List (Action Memory)),
      ((fresh start).run store actions).editor.running = none →
        ((fresh start).run store actions).editor.waiting = [] →
          ((fresh start).run store actions).editor.phase = .idle := by
  intro h
  have shown := h Memory.store (Memory.ofDocument .empty)
    [.submit (.edit .general fun _ => .crashed ""), .acquire 0, .advance] rfl rfl
  cases shown

end Session

end KanaSettings
