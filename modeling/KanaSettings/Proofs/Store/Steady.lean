import KanaSettings.Proofs.Document.Readable
import KanaSettings.Proofs.Editor.Step
import KanaSettings.Proofs.FileTree.Again
import KanaSettings.Proofs.Slice.Stable
import KanaSettings.Proofs.Store.Keeping
import KanaSettings.Proofs.Store.Reliable

/-!
# Stores that keep what is stored in a slice

A file does not hand a document back as it was, for a number may come back with another value.  What
was stored for a slice does come back.  That is all that somebody needs to know who edits one slice
again and again, and a store need not be more reliable than that: it hands out a document, takes it
back with a value of a slice stored in it, and keeps that slice.
-/

namespace KanaSettings

variable {σ τ : Type}

namespace Store

/-- A store that, in good states, out of which it does not lead, hands out the document it holds, takes
this document with a value stored for a slice, and then holds a document with that slice. -/
structure Steady (store : Store σ) (good : σ → Prop) (held : σ → Document) : Prop where
  fetch : ∀ {state}, good state →
    ∃ next, store.fetch state = (.ok (held state), next) ∧ good next ∧ held next = held state
  /-- A value that is stored in what is held is taken and kept. -/
  replace : ∀ (name : SliceName) (value : name.Value) {state}, good state →
    ∃ next, store.replace ((held state).write name value) state = (.ok (), next) ∧ good next ∧
      (held next).slice? name = some (Slice.encode name value)

lemma Durable.steady {store : Store σ} {wears : Prop} {documents : Document → Prop} {good : σ → Prop}
    {held : σ → Document} (h : store.Durable wears documents good held) :
    store.Steady good held where
  fetch := h.fetch
  replace := by
    intro name value state fine
    have keepable := h.documents_write name value (h.documents_held fine)
    obtain ⟨next, replace, fine', times, -, same⟩ := h.replace fine keepable
    refine ⟨next, replace, fine', ?_⟩
    rw [same, Document.aged_write, Document.slice?_write_self]

namespace Steady

variable {store : Store σ} {good : σ → Prop} {held : σ → Document} (h : store.Steady good held)
include h

/-- A part of a larger state is as steady as it is alone. -/
lemma inside {part : τ → σ} {update : σ → τ → τ}
    (kept : ∀ state whole, part (update state whole) = state) :
    (store.inside part update).Steady (fun whole => good (part whole))
      fun whole => held (part whole) := by
  constructor
  · intro whole fine
    obtain ⟨next, fetch, fine', same⟩ := h.fetch fine
    exact ⟨update next whole, by simp [Store.inside, fetch], by rwa [kept], by rw [kept, same]⟩
  · intro name value whole fine
    obtain ⟨next, replace, fine', slice⟩ := h.replace name value fine
    exact ⟨update next whole, by simp [Store.inside, replace], by rwa [kept], by rwa [kept]⟩

variable {state : σ} (fine : good state) {name : SliceName} {change : name.Value → Outcome name.Value}
include fine

lemma of_fetch : store.fetch state = (.ok (held state), (store.fetch state).2) ∧
    good (store.fetch state).2 ∧ held (store.fetch state).2 = held state := by
  obtain ⟨next, fetch, fine', same⟩ := h.fetch fine
  rw [fetch]
  exact ⟨rfl, fine', same⟩

/-- To look at the document changes nothing that matters. -/
lemma attempt_refresh :
    store.attempt .refresh state = (.ok (.document (held state)), (store.fetch state).2) := by
  rw [Store.attempt, (h.of_fetch fine).1]

/-- An edit that settles on a value is carried out, and the value is there afterwards. -/
lemma attempt_settled {value : name.Value} (edit : (held state).edit name change = .settled value) :
    ∃ next, store.attempt (.edit name change) state = (.ok (.value name value), next) ∧
      store.replace ((held state).write name value) (store.fetch state).2 = (.ok (), next) ∧
      good next ∧ (held next).slice? name = some (Slice.encode name value) ∧
      (held next).read name = value := by
  obtain ⟨fetch, fine', same⟩ := h.of_fetch fine
  obtain ⟨next, replace, fine'', slice⟩ := h.replace name value fine'
  rw [same] at replace
  obtain ⟨candidate, -, accepted⟩ := Document.edit_eq_settled edit
  refine ⟨next, ?_, replace, fine'', slice, ?_⟩
  · rw [Store.attempt, fetch]
    simp only [edit, replace]
  · rw [Document.read, slice, Slice.normalize_encode_of_prepare accepted]

/-- An edit that is refused stores nothing. -/
lemma attempt_refused {objections : List Objection}
    (edit : (held state).edit name change = .refused objections) :
    store.attempt (.edit name change) state =
      (.error (.rejected objections), (store.fetch state).2) := by
  rw [Store.attempt, (h.of_fetch fine).1]
  simp only [edit]

end Steady

end Store

/-! ## Files -/

namespace SettingsFile

variable {file : SettingsFile}

/-- A tree in which the settings file can be loaded, and any document be saved in it. -/
structure Usable (file : SettingsFile) (tree : FileTree) : Prop where
  loads : ∃ document, file.load tree = .ok document
  saves : ∀ document, ∃ after, file.save none document tree = (.ok (), after)

/-- A file that is there and can be loaded can be saved. -/
lemma usable_of_load {tree : FileTree} {document : Document} (loads : file.load tree = .ok document)
    (there : tree.read file.path ≠ .error .notFound) : file.Usable tree := by
  refine ⟨⟨document, loads⟩, fun other => ?_⟩
  cases read : tree.read file.path with
  | ok contents =>
    have replaced := FileTree.replace_of_read read (encode other)
    exact ⟨_, by rw [save, replaced]⟩
  | error cause =>
    unfold load at loads
    rw [read] at loads
    cases cause with
    | notFound => exact absurd read there
    | _ => cases loads

/-- So can one in which a document was saved that can be loaded. -/
lemma usable_of_save {before after : FileTree} {fault : Option Fault} {document : Document}
    (loadable : document.Loadable) (saved : file.save fault document before = (.ok (), after)) :
    file.Usable after := by
  refine ⟨⟨_, load_of_save saved (decode_encode_of_loadable loadable)⟩, fun other => ?_⟩
  have replaced := FileTree.replace_of_replace (replace_of_save_eq_ok saved) (encode other)
  exact ⟨_, by rw [save, replaced]⟩

/-- The document in a file, or the empty one if none can be loaded. -/
def held (file : SettingsFile) (tree : FileTree) : Document := (file.load tree).toOption.getD .empty

lemma held_eq {tree : FileTree} {document : Document} (loads : file.load tree = .ok document) :
    file.held tree = document := by
  simp [held, loads, Except.toOption]

/-- A file that has been saved can be loaded and saved again, and holds the document that was saved,
read once. -/
lemma durable (file : SettingsFile) :
    file.store.Durable True Document.Loadable file.Usable file.held where
  fetch := by
    intro tree usable
    obtain ⟨document, loads⟩ := usable.loads
    exact ⟨tree, by rw [held_eq loads, ← loads, store], usable, rfl⟩
  documents_held := by
    intro tree usable
    obtain ⟨document, loads⟩ := usable.loads
    exact held_eq loads ▸ loadable_of_load loads
  documents_write name value loadable := loadable.write name value
  replace := by
    intro document tree usable loadable
    obtain ⟨after, saved⟩ := usable.saves document
    have loads := load_of_save saved (decode_encode_of_loadable loadable)
    refine ⟨after, by rw [← saved, store], usable_of_save loadable saved, ?_⟩
    rw [held_eq loads]
    exact .aged trivial document 1

lemma steady (file : SettingsFile) : file.store.Steady file.Usable file.held := file.durable.steady

/-- An edit of a file that can be loaded and saved, and what it leaves there. -/
lemma attempt_settled {tree : FileTree} (usable : file.Usable tree) {document : Document}
    (loads : file.load tree = .ok document) {name : SliceName}
    {change : name.Value → Outcome name.Value} {value : name.Value}
    (edit : document.edit name change = .settled value) : ∃ after,
      file.store.attempt (.edit name change) tree = (.ok (.value name value), after) ∧
      after.read file.path = .ok (encode (document.write name value)) ∧
      file.load after = .ok ((document.aged 1).write name value) ∧ file.Usable after := by
  obtain ⟨after, saved⟩ := usable.saves (document.write name value)
  refine ⟨after, ?_, FileTree.read_of_replace (replace_of_save_eq_ok saved),
    load_of_save saved (decode_encode_write loads name value),
    usable_of_save ((loadable_of_load loads).write name value) saved⟩
  simp only [Store.attempt, store, loads, edit, saved]

end SettingsFile

end KanaSettings
