import KanaSettings.Store.File
import KanaSettings.Proofs.FileTree.Replace
import KanaSettings.Proofs.Json.RoundTrip
import KanaSettings.Proofs.Store.Laws

/-!
# The laws of a settings file

A settings file is read without a trace.  When it cannot be saved, all that may be different is that
directories above it are there which were missing.  That is seen at the file itself only if its
path goes back after it has gone into one of those.
-/

namespace KanaSettings.SettingsFile

variable {file : SettingsFile} {document : Document} {tree tree' : FileTree} {fault : Option Fault}

lemma replace_of_save_eq_error {error : StoreError}
    (h : file.save fault document tree = (.error error, tree')) :
    ∃ cause, tree.replace file.path (encode document) fault = (tree', .error cause) := by
  unfold save at h
  split at h
  · cases h
  · rename_i cause hr
    cases h
    exact ⟨cause, hr⟩

lemma replace_of_save_eq_ok (h : file.save fault document tree = (.ok (), tree')) :
    tree.replace file.path (encode document) fault = (tree', .ok ()) := by
  unfold save at h
  split at h
  · rename_i hr
    cases h
    exact hr
  · cases h

lemma save_state (file : SettingsFile) (fault : Option Fault) (document : Document)
    (tree : FileTree) :
    (file.save fault document tree).2 = (tree.replace file.path (encode document) fault).1 := by
  unfold save
  split
  · rename_i h
    rw [h]
  · rename_i h
    rw [h]

/-- Contents hold the document that they were made for. -/
theorem decode_encode (file : SettingsFile) (distinct : document.toJson.Distinct)
    (back : ∀ n ∈ document.toJson.numbers, n.ReadsBack)
    (deep : document.toJson.nesting ≤ Json.maxDepth) :
    file.decode (encode document) = .ok document := by
  simp only [decode, encode, fromUTF8?_toUTF8, Json.parse?_pretty distinct back deep,
    Document.ofJson?_toJson]

lemma load_of_save (h : file.save fault document tree = (.ok (), tree')) {held : Document}
    (decodes : file.decode (encode document) = .ok held) : file.load tree' = .ok held := by
  rw [load, FileTree.read_of_replace (replace_of_save_eq_ok h)]
  exact decodes

/-- The store of a document in a file in a system that fails by a list: each item is for one
replacement, and a fault there makes a step of it fail. -/
def faulty (file : SettingsFile) : Store (FileTree × List (Option Fault)) where
  fetch := fun (tree, script) => (file.load tree, (tree, script))
  replace := fun document (tree, script) =>
    let (result, tree) := file.save script.head?.join document tree
    (result, (tree, script.tail))

/-- A replacement saves the document, with the fault that the list has for it. -/
lemma save_of_faulty {state next : FileTree × List (Option Fault)} {result : Except StoreError Unit}
    (h : file.faulty.replace document state = (result, next)) :
    file.save state.2.head?.join document state.1 = (result, next.1) := by
  obtain ⟨tree, script⟩ := state
  rcases hs : file.save script.head?.join document tree with ⟨saved, tree'⟩
  simp only [faulty, hs, Prod.mk.injEq] at h
  obtain ⟨rfl, rfl⟩ := h
  rfl

/-- Whatever fails and whenever, no harm is done but that directories are made. -/
lemma atomic_faulty (file : SettingsFile) :
    file.faulty.Atomic Prod.fst (FileTree.Outgrows file.path.directory.depth) := by
  refine ⟨.refl _, fun _ => rfl, ?_⟩
  intro document state error next h
  obtain ⟨cause, failed⟩ := replace_of_save_eq_error (save_of_faulty h)
  exact FileTree.outgrows_of_replace failed

end KanaSettings.SettingsFile
