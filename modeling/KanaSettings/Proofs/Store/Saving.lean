import KanaSettings.Proofs.Store.File

/-!
# Saving all or nothing

A document is saved or it is not, and there is nothing in between, whichever step fails.  What a
failure leaves behind are directories above the file that were missing.  Those are seen at the file
itself only if nothing was there and its path goes back: it may then lead somewhere.
-/

namespace KanaSettings.SettingsFile

open FileTree

/-- What a tree of files becomes when a document is saved in it. -/
structure AllOrNothing (file : SettingsFile) (document : Document) (before : FileTree)
    (result : Except StoreError Unit) (after : FileTree) : Prop where
  failed : ∀ error, result = .error error →
    Raised file.path.directory.ancestors before after
  named : ∀ error, result = .error error → ∀ node, before.find file.path = .ok node →
    after.find file.path = .ok node
  /-- A path that goes back nowhere names nothing that it did not name. -/
  straight : before.Rooted → .back ∉ file.path.moves → ∀ error, result = .error error →
    (after.find file.path).toOption = (before.find file.path).toOption
  /-- A success leaves the text of the document in the file, and nothing else. -/
  done : result = .ok () → after.read file.path = .ok (encode document)
  /-- All else is what it was, but for directories above the file. -/
  others : result = .ok () → ∃ made, Raised file.path.directory.ancestors before made ∧
    ∀ place, place ≠ file.path.location → after.node? place = made.node? place

section

variable {file : SettingsFile} {document : Document} {tree tree' : FileTree} {fault : Option Fault}

lemma raised_of_save_eq_error {error : StoreError}
    (h : file.save fault document tree = (.error error, tree')) :
    Raised file.path.directory.ancestors tree tree' := by
  obtain ⟨cause, failed⟩ := replace_of_save_eq_error h
  rw [eq_makeDirectory_of_replace failed]
  exact raised_makeDirectory _ _ _

lemma placed_of_save_eq_ok (h : file.save fault document tree = (.ok (), tree')) :
    ∃ made, Raised file.path.directory.ancestors tree made ∧
      Placed file.path (encode document) made tree' :=
  ⟨_, raised_makeDirectory _ _ _, placed_of_replace (replace_of_save_eq_ok h)⟩

end

/-- Whatever the tree, the document and the step that fails, a document is saved all or nothing. -/
lemma allOrNothing_save (file : SettingsFile) (fault : Option Fault) (document : Document)
    (tree : FileTree) :
    AllOrNothing file document tree (file.save fault document tree).1
      (file.save fault document tree).2 := by
  rcases h : file.save fault document tree with ⟨result, after⟩
  refine ⟨?_, ?_, ?_, ?_, ?_⟩
  · rintro error rfl
    exact raised_of_save_eq_error h
  · rintro error rfl node found
    exact (raised_of_save_eq_error h).find found
  · rintro rooted straight error rfl
    obtain ⟨cause, failed⟩ := replace_of_save_eq_error h
    exact (outgrows_of_replace failed).grown.toOption_find rooted straight
      (file.path.depth_directory.2 straight)
  · rintro rfl
    exact read_of_replace (replace_of_save_eq_ok h)
  · rintro rfl
    obtain ⟨made, raised, placed⟩ := placed_of_save_eq_ok h
    refine ⟨made, raised, fun place apart => ?_⟩
    rw [placed.eq_set.2, node?_set_of_ne apart]

/-- Whatever the tree, the document and the step that fails, a document is saved all or nothing; and
a step that fails when the directories are there is never passed over. -/
theorem save_allOrNothing (file : SettingsFile) (fault : Option Fault) (document : Document)
    (tree : FileTree) :
    AllOrNothing file document tree (file.save fault document tree).1
        (file.save fault document tree).2 ∧
      ∀ step ∈ fault, step.limit? = none → (file.save fault document tree).1 ≠ .ok () := by
  refine ⟨file.allOrNothing_save fault document tree, ?_⟩
  rcases h : file.save fault document tree with ⟨result, after⟩
  rintro step rfl late rfl
  obtain ⟨cause, failed⟩ := exists_error_of_fault tree file.path (encode document) late
  rw [replace_of_save_eq_ok h] at failed
  cases failed

/-- A path that goes back can name something after a failure though it named nothing before: the
directory that it goes back from was missing and is made, and then it leads to a file. -/
theorem exists_failure_that_uncovers_file :
    ¬ ∀ (file : SettingsFile) (fault : Option Fault) (document : Document) (tree : FileTree)
      (error : StoreError), tree.Rooted → (file.save fault document tree).1 = .error error →
      ((file.save fault document tree).2.find file.path).toOption =
        (tree.find file.path).toOption := by
  intro h
  have rooted : (FileTree.empty.set ([] ++ ["s"]) (.file .empty)).Rooted :=
    rooted_empty.set rfl (by rintro ⟨⟩) _
  have same := h ⟨⟨"a/../s"⟩⟩ (some ⟨.rename, .noSpace⟩) .empty _ _ rooted rfl
  exact Option.some_ne_none _ same

end KanaSettings.SettingsFile
