import KanaSettings.Proofs.Document.Legible
import KanaSettings.Proofs.Editor.Failure
import KanaSettings.Proofs.FileTree.Again
import KanaSettings.Proofs.Store.Saving

/-!
# Documents that are loaded again

What was saved in a file is loaded again as it was, and to save it once more changes nothing.  An
editor only ever saves a document that it has loaded, with a slice written into it, and that is as
legible as the document was.  So as long as the documents that the files hold are legible, no edit,
whatever it is and whatever fails around it, leaves something in the file that is not.
-/

namespace KanaSettings

open FileTree
open Json (Legible maxDepth)

namespace SettingsFile

variable {file : SettingsFile} {document : Document} {tree tree' : FileTree} {fault : Option Fault}

/-! ## Saving and loading -/

/-- A document was saved in a file and is there as it was. -/
structure Returns (file : SettingsFile) (document : Document) (after : FileTree) : Prop where
  contents : after.read file.path = .ok (encode document)
  loaded : file.load after = .ok document
  /-- To save it once more succeeds and changes nothing anywhere. -/
  again : ∃ next, file.save none document after = (.ok (), next) ∧
    ∀ place, next.node? place = after.node? place

lemma save_of_replace (h : tree.replace file.path (encode document) fault = (tree', .ok ())) :
    file.save fault document tree = (.ok (), tree') := by
  rw [save, h]

/-- A legible document that was saved is loaded again. -/
theorem returns_of_save (legible : Legible maxDepth document.toJson)
    (h : file.save fault document tree = (.ok (), tree')) : file.Returns document tree' := by
  have replaced := replace_of_save_eq_ok h
  have whole := file.decode_encode legible.distinct legible.numbers legible.nesting
  obtain ⟨made, raised, placed⟩ := placed_of_save_eq_ok h
  refine ⟨read_of_replace replaced, load_of_save h whole, ?_⟩
  refine ⟨_, save_of_replace (replace_of_replace replaced (encode document)), fun place => ?_⟩
  obtain ⟨directory, name, leads, found⟩ := placed.leads
  rw [leads.eq_location] at found
  by_cases same : place = file.path.location
  · rw [same, found, node?_set_self (leads.eq_location ▸ by simp)]
  · rw [node?_set_of_ne same]

/-! ## Files that hold legible documents -/

/-- Every document that a file in a tree holds is legible. -/
def Readable (file : SettingsFile) (tree : FileTree) : Prop :=
  ∀ place contents document, tree.node? place = some (.file contents) →
    file.decode contents = .ok document → Legible maxDepth document.toJson

lemma Readable.legible_of_load (readable : file.Readable tree) (h : file.load tree = .ok document) :
    Legible maxDepth document.toJson := by
  unfold load at h
  split at h
  · rename_i contents read
    obtain ⟨place, -, found⟩ := find_eq_ok.1 (read_eq_ok.1 read)
    exact readable place contents document found h
  · cases h
    exact Document.legible_empty
  · cases h

/-- New directories hold no document. -/
lemma Readable.raised {paths : List Path} (readable : file.Readable tree)
    (raised : Raised paths tree tree') : file.Readable tree' := by
  intro place contents document found
  cases before : tree.node? place with
  | none =>
    obtain ⟨directory, -⟩ := raised.made before found
    cases directory
  | some node =>
    rw [raised.kept before] at found
    cases found
    exact readable place contents document before

lemma Readable.save (readable : file.Readable tree) (legible : Legible maxDepth document.toJson)
    {result : Except StoreError Unit}
    (h : file.save fault document tree = (result, tree')) : file.Readable tree' := by
  cases result with
  | error error => exact readable.raised (raised_of_save_eq_error h)
  | ok done =>
    obtain ⟨made, raised, placed⟩ := placed_of_save_eq_ok h
    have whole := file.decode_encode legible.distinct legible.numbers legible.nesting
    rw [placed.eq_set.2]
    intro place contents other found decoded
    by_cases same : place = file.path.location
    · obtain ⟨directory, name, leads, -⟩ := placed.leads
      rw [same, node?_set_self (leads.eq_location ▸ by simp)] at found
      cases found
      rw [whole] at decoded
      cases decoded
      exact legible
    · rw [node?_set_of_ne same] at found
      exact readable.raised raised place contents other found decoded

/-! ## Calls -/

/-- An edit on its way is about to save a legible document, which it has loaded but for one slice. -/
lemma Readable.legible_of_halfway {call : Call} {before now : FileTree × List (Option Fault)}
    {reply : Reply} (readable : file.Readable before.1)
    (h : Halfway file.faulty Prod.fst call before now document reply) :
    now.1 = before.1 ∧ Legible maxDepth document.toJson ∧
      ∀ name value, reply = .value name value → ∃ loaded, file.load before.1 = .ok loaded ∧
        document = loaded.write name value := by
  refine ⟨h.view_eq file.atomic_faulty, ?_⟩
  cases h with
  | @intro name change _ _ s t loaded value lull fetch edit pause =>
    have load : file.load before.1 = .ok loaded := by
      rw [← lull]
      exact congrArg Prod.fst fetch
    refine ⟨Document.legible_write (readable.legible_of_load load) name value, ?_⟩
    rintro _ _ ⟨⟩
    exact ⟨loaded, load, rfl⟩

lemma Readable.carried {call : Call} {before after : FileTree × List (Option Fault)}
    {answer : Except EditError Reply} {snapshot : Option Document}
    (readable : file.Readable before.1)
    (h : Carried file.faulty Prod.fst call before after answer snapshot) :
    file.Readable after.1 := by
  have unchanged {s t : FileTree × List (Option Fault)} {result : Except StoreError Document}
      (lull : s.1 = before.1) (fetch : file.faulty.fetch s = (result, t)) :
      file.Readable t.1 := by
    rw [file.atomic_faulty.view_of_fetch fetch, lull]
    exact readable
  cases h with
  | unread lull fetch => exact unchanged lull fetch
  | looked lull fetch => exact unchanged lull fetch
  | crashed lull fetch edit => exact unchanged lull fetch
  | refused lull fetch edit => exact unchanged lull fetch
  | unwritten halfway replace =>
    obtain ⟨same, legible, -⟩ := readable.legible_of_halfway halfway
    exact (same ▸ readable).save legible (save_of_faulty replace)
  | written halfway replace =>
    obtain ⟨same, legible, -⟩ := readable.legible_of_halfway halfway
    exact (same ▸ readable).save legible (save_of_faulty replace)

/-- What an edit that succeeds has saved: the document that it has loaded, with a slice written. -/
structure Reloads (file : SettingsFile) (call : Finished (FileTree × List (Option Fault)))
    (name : SliceName) (value : name.Value) (loaded : Document) : Prop where
  source : file.load call.before.1 = .ok loaded
  saved : call.snapshot = some (loaded.write name value)
  returns : file.Returns (loaded.write name value) call.after.1

lemma Readable.exists_reloads {call : Finished (FileTree × List (Option Fault))}
    (readable : file.Readable call.before.1) (h : call.Carried file.faulty Prod.fst)
    {name : SliceName} {value : name.Value} (stored : call.answer = .ok (.value name value)) :
    ∃ loaded, file.Reloads call name value loaded := by
  obtain ⟨ticket, call, before, after, answer, snapshot⟩ := call
  cases stored
  cases h with
  | written halfway replace =>
    obtain ⟨-, legible, source⟩ := readable.legible_of_halfway halfway
    obtain ⟨loaded, load, rfl⟩ := source name value rfl
    exact ⟨loaded, load, rfl, returns_of_save legible (save_of_faulty replace)⟩

end SettingsFile

/-! ## Sessions -/

namespace Session

open SettingsFile (Returns Reloads Readable)

/-- A legible document that is saved is loaded as it was, and saved again it changes nothing.  In every
session with a file, whatever fails in it, every edit that succeeds leaves a document in the file that
is loaded as it was saved, as long as the numbers read back in the documents that files held in the
beginning. -/
theorem reloads_run (file : SettingsFile) (disk : FileTree × List (Option Fault))
    {actions : List (Action (FileTree × List (Option Fault)))}
    (back : ∀ place contents document, disk.1.node? place = some (.file contents) →
      file.decode contents = .ok document → ∀ n ∈ document.toJson.numbers, n.ReadsBack)
    (alone : ∀ action ∈ actions, action.Keeps Prod.fst) :
    (∀ document fault tree tree', Legible maxDepth document.toJson →
      file.save fault document tree = (.ok (), tree') → file.Returns document tree') ∧
    ∀ call ∈ ((fresh disk).run file.faulty actions).finished, ∀ name value,
      call.answer = .ok (.value name value) → ∃ loaded, file.Reloads call name value loaded := by
  refine ⟨fun _ _ _ _ => SettingsFile.returns_of_save, ?_⟩
  have readable : file.Readable disk.1 := fun place contents document found decoded =>
    SettingsFile.legible_of_decode decoded (back place contents document found decoded)
  have sound := sound_run file.faulty Prod.fst disk alone
  obtain ⟨now, history, -⟩ := sound.history file.atomic_faulty
  have each := (history.invariant readable fun call carried good => good.carried carried).2
  intro call mem name value stored
  exact (each call mem).exists_reloads (sound.carried call mem) stored

/-- An edit of a document with a number in it. -/
theorem reloads_run_number :
    ∃ call ∈ ((fresh (FileTree.empty.set ["s"] (.file (SettingsFile.encode ⟨[("n", .ofNat 7)]⟩)),
        [])).run (SettingsFile.faulty ⟨⟨"s"⟩⟩)
        [.submit (.edit .general .settled), .acquire 0, .advance, .advance]).finished,
      ∃ loaded, SettingsFile.Reloads ⟨⟨"s"⟩⟩ call .general .standard loaded := by
  have legible : Legible maxDepth (Document.mk [("n", .ofNat 7)]).toJson := by
    refine Json.legible_object.2 ⟨126, rfl, by simp, ?_⟩
    simp only [List.forall_mem_cons, List.not_mem_nil, false_implies, implies_true, and_true]
    refine ⟨by simp [Json.ofNat, Json.Distinct], ?_, by simp [Json.ofNat, Json.nesting]⟩
    simp only [Json.ofNat, Json.numbers, List.mem_singleton, forall_eq]
    unfold Number.ReadsBack
    rfl
  have decoded : SettingsFile.decode ⟨⟨"s"⟩⟩ (SettingsFile.encode ⟨[("n", .ofNat 7)]⟩) =
      .ok ⟨[("n", .ofNat 7)]⟩ :=
    SettingsFile.decode_encode _ legible.distinct legible.numbers legible.nesting
  have back : ∀ place contents document,
      (FileTree.empty.set ["s"] (.file (SettingsFile.encode ⟨[("n", .ofNat 7)]⟩))).node? place =
        some (.file contents) →
      SettingsFile.decode ⟨⟨"s"⟩⟩ contents = .ok document →
        ∀ n ∈ document.toJson.numbers, n.ReadsBack := by
    intro place contents document found holds
    by_cases same : place = ["s"]
    · rw [same, node?_set_self (by simp)] at found
      cases found
      rw [decoded] at holds
      cases holds
      exact legible.numbers
    · rw [node?_set_of_ne same] at found
      cases place <;> cases found
  have fetch : (SettingsFile.faulty ⟨⟨"s"⟩⟩).fetch
      (FileTree.empty.set ["s"] (.file (SettingsFile.encode ⟨[("n", .ofNat 7)]⟩)), []) =
        (.ok ⟨[("n", .ofNat 7)]⟩, _) := congrArg (fun result => (result, _)) decoded
  obtain ⟨call, ran, answer⟩ : ∃ call, ((fresh (FileTree.empty.set ["s"]
        (.file (SettingsFile.encode ⟨[("n", .ofNat 7)]⟩)), [])).run (SettingsFile.faulty ⟨⟨"s"⟩⟩)
        [.submit (.edit .general .settled), .acquire 0, .advance, .advance]).finished = [call] ∧
      call.answer = .ok (.value .general .standard) := by
    simp only [Session.run, List.foldl_cons, List.foldl_nil, act, fresh, ended, Action.perform,
      Action.grant?, Editor.fresh, Editor.submit, Editor.acquire, Editor.start, Editor.grant?,
      Editor.remember, Editor.enter, Editor.note, Editor.advance, fetch, Editor.fetched]
    exact ⟨_, rfl, rfl⟩
  have alone : ∀ action ∈ ([.submit (.edit .general .settled), .acquire 0, .advance, .advance] :
      List (Action (FileTree × List (Option Fault)))), action.Keeps Prod.fst := by
    simp [Action.Keeps]
  have all := (reloads_run ⟨⟨"s"⟩⟩
    (FileTree.empty.set ["s"] (.file (SettingsFile.encode ⟨[("n", .ofNat 7)]⟩)), []) back alone).2
  have mem := ran ▸ List.mem_singleton_self call
  exact ⟨call, mem, all call mem .general .standard answer⟩

end Session

end KanaSettings
