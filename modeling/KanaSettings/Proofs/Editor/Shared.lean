import KanaSettings.Proofs.Document.Edited
import KanaSettings.Proofs.Editor.Session
import KanaSettings.Proofs.Store.Keeping

/-!
# Editors that share a store

Editors in different processes know nothing of each other, and between the fetch and the replacement
of one any number of others can replace the document.  What is never lost is that the document is one
that was edited: every editor stores a document that it was handed out, with one accepted value in it.
-/

namespace KanaSettings

variable {ι σ : Type}

/-- Any number of editors, and the state that their stores share. -/
structure Editors (ι σ : Type) where
  editor : ι → Editor
  state : σ

namespace Action

/-- Whether nobody but editors brings a document in or a good state to an end. -/
def Spares (good : σ → Prop) (held : σ → Document → Prop) : Action σ → Prop
  | disturb change => ∀ state, good state →
    good (change state) ∧ ∀ document, held (change state) document → held state document
  | _ => True

end Action

namespace Editors

variable [DecidableEq ι]

/-- Editors that were not asked anything yet. -/
def fresh (state : σ) : Editors ι σ := ⟨fun _ => .fresh, state⟩

/-- The editors after something happened around one of them, which uses its own store. -/
def act (store : ι → Store σ) (editors : Editors ι σ) (action : ι × Action σ) : Editors ι σ :=
  let (editor, state) :=
    action.2.perform (store action.1) (editors.editor action.1) editors.state
  ⟨Function.update editors.editor action.1 editor, state⟩

/-- The editors after a list of things happened. -/
def run (store : ι → Store σ) (editors : Editors ι σ) (actions : List (ι × Action σ)) :
    Editors ι σ :=
  actions.foldl (act store) editors

end Editors

/-- The documents that were edited, each from one of those that were held at first, as it is by
now. -/
def Descends (wears : Prop) (held : σ → Document → Prop) (start : σ) (document : Document) : Prop :=
  ∃ initial first, held start initial ∧ Document.AgesTo wears initial first ∧
    Document.Edited first document

lemma Descends.ages {wears : Prop} {held : σ → Document → Prop} {start : σ}
    {document other : Document} (h : Descends wears held start document)
    (later : Document.AgesTo wears document other) : Descends wears held start other := by
  obtain ⟨initial, first, found, ages, edited⟩ := h
  obtain ⟨later, ages, edited⟩ := edited.ages ages later
  exact ⟨initial, later, found, ages, edited⟩

/-- What holds of an editor and of the state that it shares at any time: whatever is held and
whatever is about to be stored was edited. -/
structure Secure (wears : Prop) (good : σ → Prop) (documents : Document → Prop)
    (held : σ → Document → Prop) (start : σ) (editor : Editor) (state : σ) : Prop where
  good : good state
  stored : ∀ document, held state document → Descends wears held start document
  pending : ∀ ticket call document reply,
    editor.running = some ⟨ticket, call, .replacing document reply⟩ →
    documents document ∧ Descends wears held start document

namespace Secure

variable {store : Store σ} {wears : Prop} {good : σ → Prop} {documents : Document → Prop}
  {held : σ → Document → Prop} {start state : σ} {editor : Editor}

lemma advance (keeps : store.Keeps wears good documents held)
    (secure : Secure wears good documents held start editor state) {editor' : Editor} {state' : σ}
    (step : Editor.Advances store editor state editor' state') :
    Secure wears good documents held start editor' state' := by
  have fetched {result next} (fetch : store.fetch state = (result, next)) :
      good next ∧ ∀ document, held next document → Descends wears held start document :=
    ⟨keeps.good_fetch fetch secure.good,
      fun document h => secure.stored document (keeps.held_fetch fetch secure.good h)⟩
  have replaced {ticket call document reply result next}
      (running : editor.running = some ⟨ticket, call, .replacing document reply⟩)
      (replace : store.replace document state = (result, next)) :
      good next ∧ ∀ document, held next document → Descends wears held start document := by
    -- A document that is about to be stored is edited already, whatever the store holds by now.
    obtain ⟨keepable, descends⟩ := secure.pending ticket call document reply running
    refine ⟨keeps.good_replace replace secure.good keepable, fun other h => ?_⟩
    rcases keeps.held_replace replace secure.good keepable h with h | later
    · exact secure.stored other h
    · exact descends.ages later
  cases step with
  | unread running fetch => exact ⟨(fetched fetch).1, (fetched fetch).2, by simp⟩
  | looked running fetch => exact ⟨(fetched fetch).1, (fetched fetch).2, by simp⟩
  | crashed running fetch edit => exact ⟨(fetched fetch).1, (fetched fetch).2, by simp⟩
  | refused running fetch edit => exact ⟨(fetched fetch).1, (fetched fetch).2, by simp⟩
  | unwritten running replace =>
    exact ⟨(replaced running replace).1, (replaced running replace).2, by simp⟩
  | written running replace =>
    exact ⟨(replaced running replace).1, (replaced running replace).2, by simp⟩
  | settled running fetch edit =>
    refine ⟨(fetched fetch).1, (fetched fetch).2, ?_⟩
    rintro ticket call document reply ⟨⟩
    obtain ⟨keepable, kept, found, ages⟩ := keeps.handsOut fetch secure.good
    obtain ⟨initial, first, h, younger, edited⟩ := (secure.stored kept found).ages ages
    exact ⟨keeps.documents_write _ _ keepable, initial, first, h, younger, edited.edit edit⟩

lemma perform (keeps : store.Keeps wears good documents held)
    (secure : Secure wears good documents held start editor state) {action : Action σ}
    (spares : action.Spares good held) :
    Secure wears good documents held start (action.perform store editor state).1
      (action.perform store editor state).2 := by
  cases action with
  | submit call => exact ⟨secure.good, secure.stored, secure.pending⟩
  | leave ticket => exact secure
  | disturb change =>
    obtain ⟨good, held⟩ := spares state secure.good
    exact ⟨good, fun document h => secure.stored document (held document h), secure.pending⟩
  | acquire position =>
    simp only [Action.perform]
    cases hg : editor.grant? position with
    | none => rwa [Editor.acquire_of_grant?_none hg]
    | some grant =>
      rw [Editor.acquire_of_grant? hg]
      exact ⟨secure.good, secure.stored, by simp⟩
  | advance =>
    simp only [Action.perform]
    cases hr : editor.running with
    | none => rwa [Editor.advance_of_running_none hr]
    | some running => exact secure.advance keeps (Editor.advances hr store state)

end Secure

namespace Editors

variable [DecidableEq ι] {store : ι → Store σ} {wears : Prop} {good : σ → Prop}
  {documents : Document → Prop} {held : σ → Document → Prop} {start : σ}

lemma secure_act (keeps : ∀ i, (store i).Keeps wears good documents held)
    {editors : Editors ι σ} (secure : ∀ i, Secure wears good documents held start (editors.editor i) editors.state)
    {action : ι × Action σ} (spares : action.2.Spares good held) (i : ι) :
    Secure wears good documents held start ((editors.act store action).editor i)
      (editors.act store action).state := by
  obtain ⟨j, action⟩ := action
  have step := (secure j).perform (keeps j) spares
  by_cases same : i = j
  · subst same
    simpa [act] using step
  · -- Another editor is where it was, over a store that one has used.
    simp only [act, Function.update_of_ne same]
    exact ⟨step.good, step.stored, (secure i).pending⟩

lemma secure_run (keeps : ∀ i, (store i).Keeps wears good documents held)
    {editors : Editors ι σ} (secure : ∀ i, Secure wears good documents held start (editors.editor i) editors.state)
    {actions : List (ι × Action σ)} (spares : ∀ action ∈ actions, action.2.Spares good held)
    (i : ι) :
    Secure wears good documents held start ((editors.run store actions).editor i)
      (editors.run store actions).state := by
  induction actions generalizing editors with
  | nil => exact secure i
  | cons action actions ih =>
    refine ih (secure_act keeps secure (spares action List.mem_cons_self)) ?_
    exact fun a ha => spares a (List.mem_cons_of_mem _ ha)

omit [DecidableEq ι] in
lemma secure_fresh (first : good start) (i : ι) :
    Secure wears good documents held start ((fresh start : Editors ι σ).editor i) start :=
  ⟨first, fun document h => ⟨document, document, h, .refl document, .refl⟩,
    fun _ _ _ _ h => nomatch h⟩

/-- A document that the store holds, or that an editor is about to store. -/
def Present (held : σ → Document → Prop) (editors : Editors ι σ) (document : Document) : Prop :=
  held editors.state document ∨ ∃ i ticket call reply,
    (editors.editor i).running = some ⟨ticket, call, .replacing document reply⟩

/-- Whatever editors do that share a store, all documents that come up were edited. -/
lemma descends_run (keeps : ∀ i, (store i).Keeps wears good documents held) (first : good start)
    {actions : List (ι × Action σ)} (spares : ∀ action ∈ actions, action.2.Spares good held)
    {document : Document} (h : Present held ((fresh start).run store actions) document) :
    Descends wears held start document := by
  have secure (i : ι) := secure_run keeps (secure_fresh first) spares i
  rcases h with h | ⟨i, ticket, call, reply, running⟩
  · cases actions with
    | nil => exact ⟨document, document, h, .refl document, .refl⟩
    | cons action actions => exact (secure action.1).stored document h
  · exact ((secure i).pending ticket call document reply running).2

end Editors

end KanaSettings
