import KanaSettings.Proofs.Editor.Session
import KanaSettings.Proofs.Document.Place
import KanaSettings.Proofs.Store.Laws

/-!
# Calls one after another

`Store.serial` carries out calls one by one, with nothing between them.  This file says what such a
run does: what it asks of the store, call after call, and which document the store holds in the
end if it is honest about the one it holds.
-/

namespace KanaSettings

variable {σ : Type}

/-! ## Serial runs -/

namespace Store

/-- Carry out calls one after another. -/
def serial (store : Store σ) :
    List (Ticket × Call) → σ → List (Ticket × Except EditError Reply) × σ
  | [], state => ([], state)
  | (ticket, call) :: calls, state =>
    let (answer, state) := store.attempt call state
    let (answers, state) := store.serial calls state
    ((ticket, answer) :: answers, state)

lemma serial_append (store : Store σ) (first rest : List (Ticket × Call)) (state : σ) :
    store.serial (first ++ rest) state =
      ((store.serial first state).1 ++ (store.serial rest (store.serial first state).2).1,
        (store.serial rest (store.serial first state).2).2) := by
  induction first generalizing state with
  | nil => rfl
  | cons grant first ih => simp [serial, ih]

end Store

/-! ## What a store is asked -/

/-- A request to a store, with what came of it. -/
inductive Exchange where
  | fetched (result : Except StoreError Document)
  | replaced (document : Document) (result : Except StoreError Unit)

/-- A store that keeps a list of all that it is asked. -/
def Store.recorded (store : Store σ) : Store (σ × List Exchange) where
  fetch := fun (state, asked) =>
    let (result, state) := store.fetch state
    (result, (state, asked ++ [.fetched result]))
  replace := fun document (state, asked) =>
    let (result, state) := store.replace document state
    (result, (state, asked ++ [.replaced document result]))

/-- What a call asks of the store until it gives an answer: the document once, and then at most once
to replace it by what was fetched with the slice's new value in it and nothing else changed. -/
inductive Asks : Call → List Exchange → Except EditError Reply → Prop where
  | unread (call : Call) (error : StoreError) :
      Asks call [.fetched (.error error)] (.error (.transport error))
  | looked (document : Document) :
      Asks .refresh [.fetched (.ok document)] (.ok (.document document))
  | crashed {name : SliceName} {change : name.Value → Outcome name.Value} {document : Document}
      {reason : String} (edit : document.edit name change = .crashed reason) :
      Asks (.edit name change) [.fetched (.ok document)]
        (.error (.ofCrash (.edit name change) reason))
  | refused {name : SliceName} {change : name.Value → Outcome name.Value} {document : Document}
      {objections : List Objection} (edit : document.edit name change = .refused objections) :
      Asks (.edit name change) [.fetched (.ok document)] (.error (.rejected objections))
  | unwritten {name : SliceName} {change : name.Value → Outcome name.Value} {document : Document}
      {value : name.Value} (edit : document.edit name change = .settled value)
      (changed : document.ChangedAt name (document.write name value)) (error : StoreError) :
      Asks (.edit name change)
        [.fetched (.ok document), .replaced (document.write name value) (.error error)]
        (.error (.transport error))
  | written {name : SliceName} {change : name.Value → Outcome name.Value} {document : Document}
      {value : name.Value} (edit : document.edit name change = .settled value)
      (changed : document.ChangedAt name (document.write name value)) :
      Asks (.edit name change)
        [.fetched (.ok document), .replaced (document.write name value) (.ok ())]
        (.ok (.value name value))

/-- What calls that go one after another ask of the store: first all that the first one asks, then
all that the second one asks, and so on. -/
inductive AsksInTurn :
    List (Ticket × Call) → List (Ticket × Except EditError Reply) → List Exchange → Prop where
  | nil : AsksInTurn [] [] []
  | cons {ticket : Ticket} {call : Call} {answer : Except EditError Reply} {asked : List Exchange}
      {calls : List (Ticket × Call)} {answers : List (Ticket × Except EditError Reply)}
      {rest : List Exchange} (first : Asks call asked answer)
      (others : AsksInTurn calls answers rest) :
      AsksInTurn ((ticket, call) :: calls) ((ticket, answer) :: answers) (asked ++ rest)

namespace Store

/-- Keeping a list changes nothing about one call. -/
lemma attempt_recorded (store : Store σ) (call : Call) (state : σ) (past : List Exchange) :
    ∃ asked, Asks call asked (store.attempt call state).1 ∧
      store.recorded.attempt call (state, past) =
        ((store.attempt call state).1, (store.attempt call state).2, past ++ asked) := by
  rcases hf : store.fetch state with ⟨error | document, next⟩
  · exact ⟨_, by simpa [attempt, hf] using Asks.unread call error, by simp [attempt, recorded, hf]⟩
  · cases call with
    | refresh =>
      exact ⟨_, by simpa [attempt, hf] using Asks.looked document, by simp [attempt, recorded, hf]⟩
    | edit name change =>
      cases he : document.edit name change with
      | crashed reason =>
        exact ⟨_, by simpa [attempt, hf, he] using Asks.crashed he,
          by simp [attempt, recorded, hf, he]⟩
      | refused objections =>
        exact ⟨_, by simpa [attempt, hf, he] using Asks.refused he,
          by simp [attempt, recorded, hf, he]⟩
      | settled value =>
        rcases hr : store.replace (document.write name value) next with ⟨error | done, last⟩
        · have asked := Asks.unwritten he (Document.changedAt_put _ _ _) error
          exact ⟨_, by simpa [attempt, hf, he, hr] using asked,
            by simp [attempt, recorded, hf, he, hr]⟩
        · have asked := Asks.written he (Document.changedAt_put _ _ _)
          exact ⟨_, by simpa [attempt, hf, he, hr] using asked,
            by simp [attempt, recorded, hf, he, hr]⟩

lemma serial_recorded (store : Store σ) (calls : List (Ticket × Call)) (state : σ)
    (past : List Exchange) :
    ∃ asked, AsksInTurn calls (store.serial calls state).1 asked ∧
      store.recorded.serial calls (state, past) =
        ((store.serial calls state).1, (store.serial calls state).2, past ++ asked) := by
  induction calls generalizing state past with
  | nil => exact ⟨[], .nil, by simp [serial]⟩
  | cons grant calls ih =>
    obtain ⟨ticket, call⟩ := grant
    obtain ⟨asked, first, hfirst⟩ := store.attempt_recorded call state past
    obtain ⟨rest, others, hothers⟩ := ih (store.attempt call state).2 (past ++ asked)
    refine ⟨asked ++ rest, ?_, ?_⟩
    · simpa [serial] using AsksInTurn.cons first others
    · simp [serial, hfirst, hothers]

end Store

/-! ## What a store holds in the end -/

/-- A document after a call that gave an answer: a value that was stored is in it. -/
def Document.afterAnswer (document : Document) : Except EditError Reply → Document
  | .ok (.value name value) => document.write name value
  | .ok (.document _) => document
  | .error _ => document

/-- What an answer says is stored for a slice; nothing unless it is the answer to an edit of that
slice. -/
def stored? (name : SliceName) : Except EditError Reply → Option Json
  | .ok (.value other value) => if other = name then some (Slice.encode other value) else none
  | .ok (.document _) => none
  | .error _ => none

lemma Document.slice?_afterAnswer (document : Document) (name : SliceName)
    (answer : Except EditError Reply) :
    (document.afterAnswer answer).slice? name =
      (stored? name answer).or (document.slice? name) := by
  rcases answer with error | (found | ⟨other, value⟩)
  · rfl
  · rfl
  · by_cases h : other = name
    · subst h
      simp [afterAnswer, stored?]
    · simp [afterAnswer, stored?, h, slice?_write_of_ne (Ne.symm h)]

/-- Of each slice, a document holds what the last answer that is about it says. -/
lemma Document.slice?_foldl_afterAnswer (document : Document) (name : SliceName)
    (answers : List (Except EditError Reply)) :
    (answers.foldl afterAnswer document).slice? name =
      ((answers.filterMap (stored? name)).getLast?).or (document.slice? name) := by
  -- The last answer decides, so it is the one that is split off.
  induction answers using List.reverseRecOn with
  | nil => rfl
  | append_singleton answers answer ih =>
    rw [List.foldl_append, List.foldl_cons, List.foldl_nil, slice?_afterAnswer, ih,
      List.filterMap_append]
    cases h : stored? name answer with
    | none => simp [h]
    | some value => simp [h]

namespace Store.Honest

variable {store : Store σ} {held : σ → Document} (h : store.Honest held)
include h

lemma held_attempt (call : Call) (state : σ) :
    held (store.attempt call state).2 = (held state).afterAnswer (store.attempt call state).1 := by
  have kept := h.held_fetch state
  rcases hf : store.fetch state with ⟨error | document, next⟩
  · rw [hf] at kept
    simpa [attempt, hf, Document.afterAnswer] using kept
  · rw [hf] at kept
    cases call with
    | refresh => simpa [attempt, hf, Document.afterAnswer] using kept
    | edit name change =>
      cases he : document.edit name change with
      | crashed reason => simpa [attempt, hf, he, Document.afterAnswer] using kept
      | refused objections => simpa [attempt, hf, he, Document.afterAnswer] using kept
      | settled value =>
        rcases hr : store.replace (document.write name value) next with ⟨error | done, last⟩
        · have same := h.held_refused hr
          simpa [attempt, hf, he, hr, Document.afterAnswer] using same.trans kept
        · -- The document that was fetched is the one that was held.
          have same := h.held_replace hr
          rw [← h.handsOut hf]
          simpa [attempt, hf, he, hr, Document.afterAnswer] using same

/-- What is held after calls one after another is what was held at first, with every value in it
that an answer says is stored. -/
theorem held_serial (calls : List (Ticket × Call)) (state : σ) :
    held (store.serial calls state).2 =
      ((store.serial calls state).1.map Prod.snd).foldl Document.afterAnswer (held state) := by
  induction calls generalizing state with
  | nil => rfl
  | cons grant calls ih =>
    obtain ⟨ticket, call⟩ := grant
    simp [serial, ih, h.held_attempt call state]

end Store.Honest

end KanaSettings
