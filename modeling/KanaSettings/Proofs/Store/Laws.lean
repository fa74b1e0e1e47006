import KanaSettings.Store.Memory
import Mathlib.Tactic

/-!
# What can be relied on in a store

A store is any state with any behaviour, and most of what holds of an editor holds over every
store.  Where more is needed, it is a law.  `Atomic` says that no harm is done unless a replacement
succeeds, and `Honest` that the document which was stored last is the one that is handed out.
Neither says when a store fails; it may do so at any time.
-/

namespace KanaSettings

variable {σ α : Type}

namespace Store

/-- To ask for the document changes nothing that can be seen of a store's state, and a replacement
that fails does no harm. -/
structure Atomic (store : Store σ) (view : σ → α) (harmless : α → α → Prop) : Prop where
  harmless_refl : ∀ a, harmless a a
  view_fetch : ∀ state, view (store.fetch state).2 = view state
  view_replace : ∀ {document state error next},
    store.replace document state = (.error error, next) → harmless (view state) (view next)

/-- The document that a store holds is the one it hands out, and the one it took last. -/
structure Honest (store : Store σ) (held : σ → Document) : Prop where
  handsOut : ∀ {state document next}, store.fetch state = (.ok document, next) →
    document = held state
  held_fetch : ∀ state, held (store.fetch state).2 = held state
  held_replace : ∀ {document state next}, store.replace document state = (.ok (), next) →
    held next = document
  held_refused : ∀ {document state error next},
    store.replace document state = (.error error, next) → held next = held state

lemma Atomic.view_of_fetch {store : Store σ} {view : σ → α} {harmless : α → α → Prop}
    (h : store.Atomic view harmless) {state next : σ} {result : Except StoreError Document}
    (fetch : store.fetch state = (result, next)) : view next = view state := by
  have same := h.view_fetch state
  rwa [fetch] at same

/-- A store that fails by a list: each item is for one request, and an error there is given in the
place of an answer. -/
def failing (store : Store σ) : Store (σ × List (Option StoreError)) where
  fetch := fun (state, script) =>
    match script.head?.join with
    | some error => (.error error, (state, script.tail))
    | none =>
      let (result, state) := store.fetch state
      (result, (state, script.tail))
  replace := fun document (state, script) =>
    match script.head?.join with
    | some error => (.error error, (state, script.tail))
    | none =>
      let (result, state) := store.replace document state
      (result, (state, script.tail))

section

variable {store : Store σ} {state next : σ × List (Option StoreError)}

/-- A request to a store that fails by a list fails and leaves the store alone, or else the store is
asked. -/
lemma of_fetch_failing {result : Except StoreError Document}
    (e : store.failing.fetch state = (result, next)) :
    (next.1 = state.1 ∧ ∃ error, result = .error error) ∨
      store.fetch state.1 = (result, next.1) := by
  cases hs : state.2.head?.join with
  | some error =>
    simp only [failing, hs, Prod.mk.injEq] at e
    exact .inl ⟨e.2 ▸ rfl, error, e.1.symm⟩
  | none =>
    simp only [failing, hs, Prod.mk.injEq] at e
    exact .inr (Prod.ext e.1 (congrArg Prod.fst e.2))

lemma of_replace_failing {document : Document} {result : Except StoreError Unit}
    (e : store.failing.replace document state = (result, next)) :
    (next.1 = state.1 ∧ ∃ error, result = .error error) ∨
      store.replace document state.1 = (result, next.1) := by
  cases hs : state.2.head?.join with
  | some error =>
    simp only [failing, hs, Prod.mk.injEq] at e
    exact .inl ⟨e.2 ▸ rfl, error, e.1.symm⟩
  | none =>
    simp only [failing, hs, Prod.mk.injEq] at e
    exact .inr (Prod.ext e.1 (congrArg Prod.fst e.2))

end

/-- A store that fails by a list holds what it held without the list. -/
lemma Honest.failing {store : Store σ} {held : σ → Document} (h : store.Honest held) :
    store.failing.Honest fun state => held state.1 where
  handsOut := by
    intro state document next e
    rcases of_fetch_failing e with ⟨-, error, failed⟩ | e
    · cases failed
    · exact h.handsOut e
  held_fetch := by
    intro state
    rcases e : store.failing.fetch state with ⟨result, next⟩
    rcases of_fetch_failing e with ⟨same, -⟩ | e
    · exact congrArg held same
    · have kept := h.held_fetch state.1
      rwa [e] at kept
  held_replace := by
    intro document state next e
    rcases of_replace_failing e with ⟨-, error, failed⟩ | e
    · cases failed
    · exact h.held_replace e
  held_refused := by
    intro document state error next e
    rcases of_replace_failing e with ⟨same, -⟩ | e
    · exact congrArg held same
    · exact h.held_refused e

end Store

namespace Memory

lemma fetch_eq_ok {memory next : Memory} {document : Document}
    (h : store.fetch memory = (.ok document, next)) : document = memory.document := by
  simp only [store, fetch] at h
  split at h
  · cases h
  · cases h
    rfl

lemma fetch_state (memory : Memory) : (store.fetch memory).2 = memory := by
  simp only [store, fetch]
  split <;> rfl

lemma replace_eq_ok {memory next : Memory} {document : Document}
    (h : store.replace document memory = (.ok (), next)) :
    next = { memory with document := document, writes := memory.writes + 1 } := by
  simp only [store, replace] at h
  split at h
  · cases h
  · cases h
    rfl

lemma replace_eq_error {memory next : Memory} {document : Document} {error : StoreError}
    (h : store.replace document memory = (.error error, next)) : next = memory := by
  simp only [store, replace] at h
  split at h
  · cases h
    rfl
  · cases h

lemma honest : store.Honest Memory.document :=
  ⟨fetch_eq_ok, fun memory => by rw [fetch_state],
    fun h => by rw [replace_eq_ok h], fun h => by rw [replace_eq_error h]⟩

/-- What can be seen of a document in memory: the document, and how often it was replaced. -/
def view (memory : Memory) : Document × Nat := (memory.document, memory.writes)

lemma atomic : store.Atomic view Eq :=
  ⟨fun _ => rfl, fun memory => by rw [fetch_state], fun h => by rw [replace_eq_error h]⟩

end Memory

end KanaSettings
