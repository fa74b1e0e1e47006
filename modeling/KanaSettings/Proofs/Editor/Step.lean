import KanaSettings.Editor.Basic
import Mathlib.Tactic

/-!
# What a step of an editor does

A call that has got the lock makes its way in at most two steps, each of which ends with one call
of the store.  This file lists the seven outcomes of such a step, each with the whole editor that
it leaves behind, so that everything about runs is a case analysis over them and never opens the
functions of the editor again.
-/

namespace KanaSettings

/-- What an editor remembers when a call starts: an edit forgets everything. -/
def Call.remembers : Call → Option Document → Option Document
  | .refresh, snapshot => snapshot
  | .edit _ _, _ => none

/-- An edit that settles on a value has had a candidate for it that was accepted. -/
lemma Document.edit_eq_settled {document : Document} {name : SliceName}
    {change : name.Value → Outcome name.Value} {value : name.Value}
    (h : document.edit name change = .settled value) :
    ∃ candidate, change (document.read name) = .settled candidate ∧
      Slice.prepare name candidate = .ok value := by
  unfold Document.edit at h
  split at h
  · rename_i candidate hc
    refine ⟨candidate, hc, ?_⟩
    cases hp : Slice.prepare name candidate with
    | error objections => rw [hp] at h; cases h
    | ok v => rw [hp] at h; cases h; rfl
  · cases h
  · cases h

namespace Editor

variable {σ : Type}

/-! ## Getting the lock -/

/-- The call that gets the lock if a position among those that wait is chosen. -/
def grant? (editor : Editor) (position : Nat) : Option (Ticket × Call) :=
  match editor.running with
  | none => editor.waiting[position]?
  | some _ => none

lemma running_of_grant? {editor : Editor} {position : Nat} {grant : Ticket × Call}
    (h : editor.grant? position = some grant) :
    editor.running = none ∧ editor.waiting[position]? = some grant := by
  unfold grant? at h
  split at h
  · exact ⟨‹_›, h⟩
  · cases h

lemma acquire_of_grant?_none {editor : Editor} {position : Nat}
    (h : editor.grant? position = none) : editor.acquire position = editor := by
  unfold acquire
  split
  · rename_i hr hw
    simp [grant?, hr, hw] at h
  · rfl

lemma acquire_of_grant? {editor : Editor} {position : Nat} {ticket : Ticket} {call : Call}
    (h : editor.grant? position = some (ticket, call)) :
    editor.acquire position =
      { editor with
        phase := .fetching
        snapshot := call.remembers editor.snapshot
        running := some ⟨ticket, call, .fetching⟩
        waiting := editor.waiting.eraseIdx position
        log := editor.log ++ [(ticket, .entered .fetching)] } := by
  obtain ⟨hr, hw⟩ := running_of_grant? h
  unfold acquire
  rw [hr, hw]
  cases call <;> rfl

/-! ## Going on -/

/-- What a step of the call with the lock makes of an editor and of the store's state. -/
inductive Advances (store : Store σ) (editor : Editor) (state : σ) : Editor → σ → Prop where
  | unread {ticket call error next}
      (running : editor.running = some ⟨ticket, call, .fetching⟩)
      (fetch : store.fetch state = (.error error, next)) :
      Advances store editor state
        { editor with
          phase := .idle
          snapshot := none
          running := none
          answers := editor.answers ++ [(ticket, .error (.transport error))]
          log := editor.log ++
            [(ticket, .fetch), (ticket, .entered .failed), (ticket, .entered .idle)] } next
  | looked {ticket document next}
      (running : editor.running = some ⟨ticket, .refresh, .fetching⟩)
      (fetch : store.fetch state = (.ok document, next)) :
      Advances store editor state
        { editor with
          phase := .idle
          snapshot := some document
          running := none
          answers := editor.answers ++ [(ticket, .ok (.document document))]
          log := editor.log ++ [(ticket, .fetch), (ticket, .entered .idle)] } next
  /-- The change crashes.  Nobody is left to show another phase. -/
  | crashed {ticket name change document next reason}
      (running : editor.running = some ⟨ticket, .edit name change, .fetching⟩)
      (fetch : store.fetch state = (.ok document, next))
      (edit : document.edit name change = .crashed reason) :
      Advances store editor state
        { editor with
          phase := .validating
          running := none
          answers := editor.answers ++ [(ticket, .error (.ofCrash (.edit name change) reason))]
          log := editor.log ++
            [(ticket, .fetch), (ticket, .entered .validating), (ticket, .change)] } next
  | refused {ticket name change document next objections}
      (running : editor.running = some ⟨ticket, .edit name change, .fetching⟩)
      (fetch : store.fetch state = (.ok document, next))
      (edit : document.edit name change = .refused objections) :
      Advances store editor state
        { editor with
          phase := .idle
          running := none
          answers := editor.answers ++ [(ticket, .error (.rejected objections))]
          log := editor.log ++
            [(ticket, .fetch), (ticket, .entered .validating), (ticket, .change),
              (ticket, .entered .rejected), (ticket, .entered .idle)] } next
  | settled {ticket name change document next value}
      (running : editor.running = some ⟨ticket, .edit name change, .fetching⟩)
      (fetch : store.fetch state = (.ok document, next))
      (edit : document.edit name change = .settled value) :
      Advances store editor state
        { editor with
          phase := .persisting
          running := some ⟨ticket, .edit name change,
            .replacing (document.write name value) (.value name value)⟩
          log := editor.log ++
            [(ticket, .fetch), (ticket, .entered .validating), (ticket, .change),
              (ticket, .entered .persisting)] } next
  | unwritten {ticket call document reply error next}
      (running : editor.running = some ⟨ticket, call, .replacing document reply⟩)
      (replace : store.replace document state = (.error error, next)) :
      Advances store editor state
        { editor with
          phase := .idle
          running := none
          answers := editor.answers ++ [(ticket, .error (.transport error))]
          log := editor.log ++
            [(ticket, .replace document), (ticket, .entered .failed),
              (ticket, .entered .idle)] } next
  | written {ticket call document reply next}
      (running : editor.running = some ⟨ticket, call, .replacing document reply⟩)
      (replace : store.replace document state = (.ok (), next)) :
      Advances store editor state
        { editor with
          phase := .idle
          snapshot := some document
          running := none
          answers := editor.answers ++ [(ticket, .ok reply)]
          log := editor.log ++ [(ticket, .replace document), (ticket, .entered .idle)] } next

lemma advance_of_running_none {editor : Editor} (h : editor.running = none) (store : Store σ)
    (state : σ) : editor.advance store state = (editor, state) := by
  unfold advance
  rw [h]

lemma advance_of_fetching {editor : Editor} {ticket : Ticket} {call : Call}
    (h : editor.running = some ⟨ticket, call, .fetching⟩) (store : Store σ) (state : σ) :
    editor.advance store state =
      ((editor.note ticket .fetch).fetched ticket call (store.fetch state).1,
        (store.fetch state).2) := by
  unfold advance
  rw [h]

lemma advance_of_replacing {editor : Editor} {ticket : Ticket} {call : Call} {document : Document}
    {reply : Reply} (h : editor.running = some ⟨ticket, call, .replacing document reply⟩)
    (store : Store σ) (state : σ) :
    editor.advance store state =
      ((editor.note ticket (.replace document)).replaced ticket document reply
        (store.replace document state).1, (store.replace document state).2) := by
  unfold advance
  rw [h]

lemma advances_of_fetching {editor : Editor} {ticket : Ticket} {call : Call}
    (h : editor.running = some ⟨ticket, call, .fetching⟩) (store : Store σ) (state : σ) :
    Advances store editor state (editor.advance store state).1 (editor.advance store state).2 := by
  rw [advance_of_fetching h]
  rcases hf : store.fetch state with ⟨error | document, next⟩
  · convert Advances.unread h hf using 1
    simp [fetched, note, remember, finish, enter, answer]
  · cases call with
    | refresh =>
      convert Advances.looked h hf using 1
      simp [fetched, note, remember, enter, answer]
    | edit name change =>
      cases he : document.edit name change with
      | crashed reason =>
        convert Advances.crashed h hf he using 1
        simp [fetched, Editor.change, he, note, enter, answer]
      | refused objections =>
        convert Advances.refused h hf he using 1
        simp [fetched, Editor.change, he, note, finish, enter, answer]
      | settled value =>
        convert Advances.settled h hf he using 1
        simp [fetched, Editor.change, he, note, enter]

lemma advances_of_replacing {editor : Editor} {ticket : Ticket} {call : Call} {document : Document}
    {reply : Reply} (h : editor.running = some ⟨ticket, call, .replacing document reply⟩)
    (store : Store σ) (state : σ) :
    Advances store editor state (editor.advance store state).1 (editor.advance store state).2 := by
  rw [advance_of_replacing h]
  rcases hr : store.replace document state with ⟨error | done, next⟩
  · convert Advances.unwritten h hr using 1
    simp [replaced, note, finish, enter, answer]
  · convert Advances.written h hr using 1
    simp [replaced, note, remember, enter, answer]

/-- A step of the call with the lock has one of the seven outcomes. -/
theorem advances {editor : Editor} {running : Running} (h : editor.running = some running)
    (store : Store σ) (state : σ) :
    Advances store editor state (editor.advance store state).1 (editor.advance store state).2 := by
  obtain ⟨ticket, call, stage⟩ := running
  cases stage with
  | fetching => exact advances_of_fetching h store state
  | replacing document reply => exact advances_of_replacing h store state

/-- So each outcome, where it can come about, is what a step does. -/
lemma Advances.advance_eq {store : Store σ} {editor editor' : Editor} {state state' : σ}
    (step : Advances store editor state editor' state') :
    editor.advance store state = (editor', state') := by
  cases step with
  | unread running fetch =>
    rw [advance_of_fetching running, fetch]
    simp [fetched, note, remember, finish, enter, answer]
  | looked running fetch =>
    rw [advance_of_fetching running, fetch]
    simp [fetched, note, remember, enter, answer]
  | crashed running fetch edit =>
    rw [advance_of_fetching running, fetch]
    simp [fetched, change, edit, note, enter, answer]
  | refused running fetch edit =>
    rw [advance_of_fetching running, fetch]
    simp [fetched, change, edit, note, finish, enter, answer]
  | settled running fetch edit =>
    rw [advance_of_fetching running, fetch]
    simp [fetched, change, edit, note, enter]
  | unwritten running replace =>
    rw [advance_of_replacing running, replace]
    simp [replaced, note, finish, enter, answer]
  | written running replace =>
    rw [advance_of_replacing running, replace]
    simp [replaced, note, remember, enter, answer]

/-- An edit that was about to fetch the document has failed, or it is about to replace the document. -/
lemma Advances.of_fetching {store : Store σ} {editor editor' : Editor} {state state' : σ}
    (step : Advances store editor state editor' state') {ticket : Ticket} {name : SliceName}
    {change : name.Value → Outcome name.Value}
    (running : editor.running = some ⟨ticket, .edit name change, .fetching⟩) :
    (editor'.running = none ∧
        ∃ error, editor'.answers = editor.answers ++ [(ticket, .error error)]) ∨
      ∃ document value, store.fetch state = (.ok document, state') ∧
        editor'.running = some ⟨ticket, .edit name change,
          .replacing (document.write name value) (.value name value)⟩ ∧
        editor'.answers = editor.answers := by
  cases step with
  | unread ran fetch =>
    cases running.symm.trans ran
    exact .inl ⟨rfl, _, rfl⟩
  | looked ran fetch => cases running.symm.trans ran
  | crashed ran fetch edit =>
    cases running.symm.trans ran
    exact .inl ⟨rfl, _, rfl⟩
  | refused ran fetch edit =>
    cases running.symm.trans ran
    exact .inl ⟨rfl, _, rfl⟩
  | settled ran fetch edit =>
    cases running.symm.trans ran
    exact .inr ⟨_, _, fetch, rfl, rfl⟩
  | unwritten ran replace => cases running.symm.trans ran
  | written ran replace => cases running.symm.trans ran

/-- A call that was about to replace the document has ended. -/
lemma Advances.of_replacing {store : Store σ} {editor editor' : Editor} {state state' : σ}
    (step : Advances store editor state editor' state') {ticket : Ticket} {call : Call}
    {document : Document} {reply : Reply}
    (running : editor.running = some ⟨ticket, call, .replacing document reply⟩) :
    editor'.running = none ∧
      ((∃ error, editor'.answers = editor.answers ++ [(ticket, .error error)]) ∨
        store.replace document state = (.ok (), state') ∧
          editor'.answers = editor.answers ++ [(ticket, .ok reply)]) := by
  cases step with
  | unread ran fetch => cases running.symm.trans ran
  | looked ran fetch => cases running.symm.trans ran
  | crashed ran fetch edit => cases running.symm.trans ran
  | refused ran fetch edit => cases running.symm.trans ran
  | settled ran fetch edit => cases running.symm.trans ran
  | unwritten ran replace =>
    cases running.symm.trans ran
    exact ⟨rfl, .inl ⟨_, rfl⟩⟩
  | written ran replace =>
    cases running.symm.trans ran
    exact ⟨rfl, .inr ⟨replace, rfl⟩⟩

end Editor

end KanaSettings
