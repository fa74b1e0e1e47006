import KanaSettings.Proofs.Editor.Session
import KanaSettings.Proofs.Store.File

/-!
# Calls that fail

A call can fail at five points: the document cannot be fetched, the change crashes or refuses, the
check refuses, or the document cannot be replaced.  Whichever it is, the document is what it was
and the editor remembers none.  In a file system that holds up to directories that were missing.
-/

namespace KanaSettings

/-! ## One call -/

section

variable {σ α : Type} {store : Store σ} {view : σ → α} {harmless : α → α → Prop}

lemma Halfway.view_eq (atomic : store.Atomic view harmless) {call : Call} {before now : σ}
    {document : Document} {reply : Reply} (h : Halfway store view call before now document reply) :
    view now = view before := by
  cases h with
  | intro lull fetch edit pause => exact (pause.trans (atomic.view_of_fetch fetch)).trans lull

namespace Carried

variable {call : Call} {before after : σ} {answer : Except EditError Reply}
  {snapshot : Option Document}

/-- What asking for the document and replacing it keep, a call keeps. -/
lemma invariant (atomic : store.Atomic view harmless) {good : α → Prop}
    (keeps : ∀ {document state result next}, store.replace document state = (result, next) →
      good (view state) → good (view next))
    (h : Carried store view call before after answer snapshot) (first : good (view before)) :
    good (view after) := by
  cases h with
  | unread lull fetch => rwa [(atomic.view_of_fetch fetch).trans lull]
  | looked lull fetch => rwa [(atomic.view_of_fetch fetch).trans lull]
  | crashed lull fetch edit => rwa [(atomic.view_of_fetch fetch).trans lull]
  | refused lull fetch edit => rwa [(atomic.view_of_fetch fetch).trans lull]
  | unwritten halfway replace => exact keeps replace (halfway.view_eq atomic ▸ first)
  | written halfway replace => exact keeps replace (halfway.view_eq atomic ▸ first)

end Carried

/-- The calls that have answered are a history, and while another one has the lock, the store is
what they left behind. -/
lemma Session.Sound.history (atomic : store.Atomic view harmless) {start : σ} {session : Session σ}
    (sound : session.Sound store view start) :
    ∃ now, History store view start session.finished now ∧ view session.state = view now := by
  have progress := sound.progress
  unfold Progress at progress
  split at progress
  · exact ⟨_, progress, rfl⟩
  · exact ⟨_, progress.1, progress.2.1⟩
  · exact ⟨_, progress.1, progress.2.1.view_eq atomic⟩

end

/-! ## A document in memory -/

namespace Memory

end Memory

/-! ## A document in a file -/

namespace SettingsFile

variable {file : SettingsFile}

end SettingsFile

/-! ## Every call -/

namespace Session

end Session

end KanaSettings
