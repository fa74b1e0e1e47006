import KanaSettings.Proofs.Document.Aged
import KanaSettings.Proofs.Editor.Serial

/-!
# Stores that do not fail

Over a store that hands out the document it holds and takes every other one, a call is a matter of
documents alone: its answer is made from the document that is held, and the store is left with that
document as the answer says, or with what it has become with age.
-/

namespace KanaSettings

variable {σ : Type}

/-- What a call answers over a document, if only the call itself can fail. -/
def Document.answer (document : Document) : Call → Except EditError Reply
  | .refresh => .ok (.document document)
  | .edit name change =>
    match document.edit name change with
    | .crashed reason => .error (.ofCrash (.edit name change) reason)
    | .refused objections => .error (.rejected objections)
    | .settled value => .ok (.value name value)

namespace Document

/-- To a call it makes no difference how old the document is, unless it asks for the document. -/
lemma answer_aged (document : Document) (times : Nat) (name : SliceName)
    (change : name.Value → Outcome name.Value) :
    (document.aged times).answer (.edit name change) = document.answer (.edit name change) := by
  rw [answer, answer, edit_aged]

lemma afterAnswer_aged (document : Document) (times : Nat) (answer : Except EditError Reply) :
    (document.aged times).afterAnswer answer = (document.afterAnswer answer).aged times := by
  rcases answer with error | (found | ⟨name, value⟩)
  · rfl
  · rfl
  · exact (aged_write document name value times).symm

lemma AgesTo.afterAnswer {wears : Prop} {document other : Document} (h : AgesTo wears document other)
    (answer : Except EditError Reply) :
    AgesTo wears (document.afterAnswer answer) (other.afterAnswer answer) := by
  obtain ⟨times, worn, rfl⟩ := h
  exact ⟨times, worn, document.afterAnswer_aged times answer⟩

end Document

namespace Store

/-- A store that, in good states, out of which it does not lead, hands out the document it holds and
takes every other one. -/
structure Reliable (store : Store σ) (good : σ → Prop) (held : σ → Document) : Prop where
  fetch : ∀ {state}, good state →
    ∃ next, store.fetch state = (.ok (held state), next) ∧ good next ∧ held next = held state
  replace : ∀ document {state}, good state →
    ∃ next, store.replace document state = (.ok (), next) ∧ good next ∧ held next = document

/-- A store that, in good states, out of which it does not lead, hands out the document it holds and
takes every other one of a kind, which may age there. -/
structure Durable (store : Store σ) (wears : Prop) (documents : Document → Prop) (good : σ → Prop)
    (held : σ → Document) : Prop where
  fetch : ∀ {state}, good state →
    ∃ next, store.fetch state = (.ok (held state), next) ∧ good next ∧ held next = held state
  documents_held : ∀ {state}, good state → documents (held state)
  documents_write : ∀ {document} (name : SliceName) (value : name.Value), documents document →
    documents (document.write name value)
  replace : ∀ {document} {state}, good state → documents document →
    ∃ next, store.replace document state = (.ok (), next) ∧ good next ∧
      Document.AgesTo wears document (held next)

lemma Reliable.durable {store : Store σ} {good : σ → Prop} {held : σ → Document}
    (h : store.Reliable good held) : store.Durable False (fun _ => True) good held where
  fetch := h.fetch
  documents_held _ := trivial
  documents_write _ _ _ := trivial
  replace := by
    intro document state fine _
    obtain ⟨next, replace, fine', rfl⟩ := h.replace document fine
    exact ⟨next, replace, fine', .refl _⟩

namespace Durable

variable {store : Store σ} {wears : Prop} {documents : Document → Prop} {good : σ → Prop}
  {held : σ → Document} (h : store.Durable wears documents good held) {state : σ} (fine : good state)
include h fine

lemma of_fetch {result : Except StoreError Document} {next : σ}
    (fetch : store.fetch state = (result, next)) :
    result = .ok (held state) ∧ good next ∧ held next = held state := by
  obtain ⟨_, eq, good', same⟩ := h.fetch fine
  cases fetch.symm.trans eq
  exact ⟨rfl, good', same⟩

lemma of_replace {document : Document} {result : Except StoreError Unit} {next : σ}
    (keepable : documents document) (replace : store.replace document state = (result, next)) :
    result = .ok () ∧ good next ∧ Document.AgesTo wears document (held next) := by
  obtain ⟨_, eq, good', ages⟩ := h.replace fine keepable
  cases replace.symm.trans eq
  exact ⟨rfl, good', ages⟩

/-- One call gives the answer that the document gives, and leaves the document that the answer
tells. -/
lemma attempt (call : Call) :
    (store.attempt call state).1 = (held state).answer call ∧
      good (store.attempt call state).2 ∧
      Document.AgesTo wears ((held state).afterAnswer ((held state).answer call))
        (held (store.attempt call state).2) := by
  obtain ⟨between, fetch, good', same⟩ := h.fetch fine
  have left : Document.AgesTo wears (held state) (held between) := same ▸ .refl _
  cases call with
  | refresh => simpa [Store.attempt, fetch, Document.answer, Document.afterAnswer, good'] using left
  | edit name change =>
    cases edit : (held state).edit name change with
    | crashed reason =>
      simpa [Store.attempt, fetch, edit, Document.answer, Document.afterAnswer, good'] using left
    | refused objections =>
      simpa [Store.attempt, fetch, edit, Document.answer, Document.afterAnswer, good'] using left
    | settled value =>
      have keepable := h.documents_write name value (h.documents_held fine)
      obtain ⟨last, replace, good'', stored⟩ := h.replace good' keepable
      simpa [Store.attempt, fetch, edit, replace, Document.answer, Document.afterAnswer, good'']
        using stored

end Durable

/-- Over a store in which nothing ages, it is that very document. -/
lemma Reliable.attempt {store : Store σ} {good : σ → Prop} {held : σ → Document}
    (h : store.Reliable good held) {state : σ} (fine : good state) (call : Call) :
    (store.attempt call state).1 = (held state).answer call ∧
      good (store.attempt call state).2 ∧
      held (store.attempt call state).2 =
        (held state).afterAnswer ((held state).answer call) := by
  obtain ⟨answer, fine', ages⟩ := h.durable.attempt fine call
  exact ⟨answer, fine', ages.eq_self (.inl not_false)⟩

end Store

lemma Memory.reliable :
    store.Reliable (fun memory => memory.refusesReads = false ∧ memory.refusesWrites = false)
      Memory.document := by
  constructor
  · intro memory fine
    exact ⟨memory, by simp [store, Memory.fetch, fine.1], fine, rfl⟩
  · intro document memory fine
    exact ⟨{ memory with document := document, writes := memory.writes + 1 },
      by simp [store, Memory.replace, fine.2], fine, rfl⟩

end KanaSettings
