import KanaSettings.Proofs.Document.Aged
import KanaSettings.Proofs.Store.Relay
import KanaSettings.Proofs.Store.Saving

/-!
# Stores that keep documents whole

Several editors can have different ways to one document.  What they can rely on is little: that
the document is never torn or mixed with another one, whatever fails and whenever.
-/

namespace KanaSettings

variable {σ : Type}

namespace Store

/-- A store that keeps documents whole: it hands out what it holds, and when it is asked to take
another of the documents that it can keep, it holds that one or what it held, whatever it answers.
On the way in and out a document may age.  This is asked only in good states, out of which the store
does not lead. -/
structure Keeps (store : Store σ) (wears : Prop) (good : σ → Prop) (documents : Document → Prop)
    (held : σ → Document → Prop) : Prop where
  good_fetch : ∀ {state result next}, store.fetch state = (result, next) → good state → good next
  good_replace : ∀ {document state result next}, store.replace document state = (result, next) →
    good state → documents document → good next
  handsOut : ∀ {state document next}, store.fetch state = (.ok document, next) → good state →
    documents document ∧ ∃ kept, held state kept ∧ Document.AgesTo wears kept document
  documents_write : ∀ {document} (name : SliceName) (value : name.Value), documents document →
    documents (document.write name value)
  held_fetch : ∀ {state result next}, store.fetch state = (result, next) → good state →
    ∀ {document}, held next document → held state document
  /-- To replace the document brings no third one in. -/
  held_replace : ∀ {document state result next}, store.replace document state = (result, next) →
    good state → documents document →
    ∀ {other}, held next other → held state other ∨ Document.AgesTo wears document other

/-- A store that is honest about its document keeps all documents whole, and they do not age. -/
lemma Honest.keeps {store : Store σ} {held : σ → Document} (h : store.Honest held) :
    store.Keeps False (fun _ => True) (fun _ => True)
      fun state document => held state = document where
  good_fetch _ _ := trivial
  good_replace _ _ _ := trivial
  handsOut e _ := ⟨trivial, _, rfl, h.handsOut e ▸ .refl _⟩
  documents_write _ _ _ := trivial
  held_fetch := by
    intro state result next e _ document same
    have kept := h.held_fetch state
    rw [e] at kept
    exact kept.symm.trans same
  held_replace := by
    rintro document state (error | done) next e _ _ other rfl
    · exact .inl (h.held_refused e).symm
    · exact .inr (h.held_replace e ▸ .refl _)

/-- So does one that fails by a list, if it does without the list. -/
lemma Keeps.failing {store : Store σ} {wears : Prop} {good : σ → Prop} {documents : Document → Prop}
    {held : σ → Document → Prop} (h : store.Keeps wears good documents held) :
    store.failing.Keeps wears (fun state => good state.1) documents
      fun state document => held state.1 document where
  good_fetch := by
    intro state result next e fine
    rcases of_fetch_failing e with ⟨same, -⟩ | e
    · rwa [same]
    · exact h.good_fetch e fine
  good_replace := by
    intro document state result next e fine whole
    rcases of_replace_failing e with ⟨same, -⟩ | e
    · rwa [same]
    · exact h.good_replace e fine whole
  handsOut := by
    intro state document next e fine
    rcases of_fetch_failing e with ⟨-, error, failed⟩ | e
    · cases failed
    · exact h.handsOut e fine
  documents_write := h.documents_write
  held_fetch := by
    intro state result next e fine document found
    rcases of_fetch_failing e with ⟨same, -⟩ | e
    · rwa [same] at found
    · exact h.held_fetch e fine found
  held_replace := by
    intro document state result next e fine whole other found
    rcases of_replace_failing e with ⟨same, -⟩ | e
    · exact .inl (same ▸ found)
    · exact h.held_replace e fine whole found

/-- A store that gives back what it takes: it hands out the document that it took last, which may
have aged, and hands it out again.  It may refuse any request, but what it hands out is a document of
the kind that it takes. -/
structure GivesBack (store : Store σ) (wears : Prop) (documents : Document → Prop) : Prop where
  handsOut : ∀ {state document next}, store.fetch state = (.ok document, next) → documents document
  again : ∀ {state document next}, store.fetch state = (.ok document, next) →
    ∀ {other last}, store.fetch next = (.ok other, last) → other = document
  documents_write : ∀ {document} (name : SliceName) (value : name.Value), documents document →
    documents (document.write name value)
  givesBack : ∀ {document state next}, store.replace document state = (.ok (), next) →
    documents document → ∀ {other last}, store.fetch next = (.ok other, last) →
    Document.AgesTo wears document other

lemma Honest.givesBack {store : Store σ} {held : σ → Document} (h : store.Honest held) :
    store.GivesBack False fun _ => True where
  handsOut _ := trivial
  again := by
    intro state document next fetch other last fetch'
    have same := h.held_fetch state
    rw [fetch] at same
    rw [h.handsOut fetch, h.handsOut fetch', same]
  documents_write _ _ _ := trivial
  givesBack := by
    intro document state next replace _ other last fetch
    rw [h.handsOut fetch, h.held_replace replace]
    exact .refl document

/-- A store that keeps documents whole still does as a part of a larger one, of which it leaves the
rest alone. -/
lemma Keeps.inside {τ : Type} {store : Store σ} {wears : Prop} {good : σ → Prop}
    {documents : Document → Prop} {held : σ → Document → Prop}
    (h : store.Keeps wears good documents held) (part : τ → σ) (update : σ → τ → τ) (rest : τ → Prop)
    (kept : ∀ state whole, part (update state whole) = state)
    (left : ∀ state whole, rest whole → rest (update state whole)) :
    (store.inside part update).Keeps wears (fun whole => good (part whole) ∧ rest whole) documents
      fun whole => held (part whole) where
  good_fetch := by
    rintro whole result next ⟨⟩ ⟨fine, others⟩
    exact ⟨by rw [kept]; exact h.good_fetch rfl fine, left _ _ others⟩
  good_replace := by
    rintro document whole result next ⟨⟩ ⟨fine, others⟩ keepable
    exact ⟨by rw [kept]; exact h.good_replace rfl fine keepable, left _ _ others⟩
  handsOut e fine := h.handsOut (Prod.ext (Prod.mk.inj e).1 rfl) fine.1
  documents_write := h.documents_write
  held_fetch := by
    rintro whole result next ⟨⟩ fine document found
    rw [kept] at found
    exact h.held_fetch rfl fine.1 found
  held_replace := by
    rintro document whole result next ⟨⟩ fine keepable other found
    rw [kept] at found
    exact h.held_replace rfl fine.1 keepable found

end Store

/-! ## Files -/

namespace SettingsFile

variable {file : SettingsFile} {document : Document} {tree tree' : FileTree} {fault : Option Fault}

/-- A tree in which no failure can bring another file to the path: there is something at it, or it
goes back nowhere. -/
inductive Anchored (file : SettingsFile) (tree : FileTree) : Prop where
  | found {node : Node} (found : tree.find file.path = .ok node)
  | straight (rooted : tree.Rooted) (straight : .back ∉ file.path.moves)

/-- What is loaded after a document was saved is this document, read once. -/
lemma eq_aged_of_save (saved : file.save fault document tree = (.ok (), tree'))
    (distinct : document.Distinct) {other : Document} (h : file.load tree' = .ok other) :
    other = document.aged 1 := by
  rw [load, FileTree.read_of_replace (replace_of_save_eq_ok saved)] at h
  exact eq_aged_of_decode_encode distinct h

lemma givesBack_faulty (file : SettingsFile) : file.faulty.GivesBack True Document.Distinct where
  handsOut := by
    intro state document next fetch
    have loads : file.load state.1 = .ok document := (Prod.mk.inj fetch).1
    exact distinct_of_load loads
  again := by
    intro state document next fetch other last fetch'
    obtain ⟨loads, rfl⟩ := Prod.mk.inj fetch
    obtain ⟨loads', -⟩ := Prod.mk.inj fetch'
    exact Except.ok.inj (loads'.symm.trans loads)
  documents_write name value distinct := distinct.write name value
  givesBack := by
    intro document state next replace distinct other last fetch
    have loads : file.load next.1 = .ok other := (Prod.mk.inj fetch).1
    rw [eq_aged_of_save (save_of_faulty replace) distinct loads]
    exact .aged trivial document 1

namespace Anchored

/-- Whatever comes of a save, the file stays anchored. -/
lemma save (anchored : file.Anchored tree) (fault : Option Fault) (document : Document) :
    file.Anchored (file.save fault document tree).2 := by
  cases anchored with
  | straight rooted straight =>
    rw [save_state]
    exact .straight (rooted.replace _ _ _) straight
  | found found =>
    rcases saved : file.save fault document tree with ⟨error | done, after⟩
    · exact .found ((raised_of_save_eq_error saved).find found)
    · exact .found (FileTree.read_eq_ok.1 (FileTree.read_of_replace (replace_of_save_eq_ok saved)))

/-- A save that fails brings no other document in. -/
lemma load_of_save_eq_error (anchored : file.Anchored tree) {error : StoreError}
    (failed : file.save fault document tree = (.error error, tree')) {other : Document}
    (h : file.load tree' = .ok other) : file.load tree = .ok other := by
  have raised := raised_of_save_eq_error failed
  cases anchored with
  | found found =>
    have reads : tree'.read file.path = tree.read file.path := by
      rw [FileTree.read, raised.find found, FileTree.read, found]
    rwa [load, reads, ← load] at h
  | straight rooted straight =>
    obtain ⟨cause, failed⟩ := replace_of_save_eq_error failed
    have grown := (FileTree.outgrows_of_replace failed).grown
    unfold load at h ⊢
    split at h
    · rename_i contents hr
      have found := (grown.find_eq_ok_iff rooted straight (file.path.depth_directory.2 straight)).1
        (FileTree.read_eq_ok.1 hr)
      rw [FileTree.read_eq_ok.2 found]
      exact h
    · -- A missing file is an empty document, so it must have been missing before.
      rename_i hr
      have missing := FileTree.find_eq_notFound (FileTree.read_eq_notFound.1 hr) raised.kept
      rw [FileTree.read_eq_notFound.2 missing]
      exact h
    · cases h

/-- Whatever comes of a save, what is loaded afterwards is what was loaded before, or the document
that was saved, read once. -/
lemma load_of_save (anchored : file.Anchored tree) (distinct : document.Distinct) {other : Document}
    (h : file.load (file.save fault document tree).2 = .ok other) :
    file.load tree = .ok other ∨ other = document.aged 1 := by
  rcases saved : file.save fault document tree with ⟨error | done, after⟩
  · rw [saved] at h
    exact .inl (anchored.load_of_save_eq_error saved h)
  · rw [saved] at h
    exact .inr (eq_aged_of_save saved distinct h)

end Anchored

end SettingsFile

/-- Whoever opens a file keeps documents whole, whatever fails and whenever. -/
lemma SettingsFile.keeps_faulty (file : SettingsFile) :
    file.faulty.Keeps True (fun state => file.Anchored state.1) Document.Distinct
      fun state document => file.load state.1 = .ok document where
  good_fetch := by
    intro state result next e anchored
    obtain ⟨-, rfl⟩ := Prod.mk.inj e
    exact anchored
  good_replace := by
    intro document state result next e anchored _
    have after : (file.save state.2.head?.join document state.1).2 = next.1 :=
      congrArg Prod.snd (save_of_faulty e)
    rw [← after]
    exact anchored.save _ document
  handsOut := by
    intro state document next e anchored
    have loads : file.load state.1 = .ok document := (Prod.mk.inj e).1
    exact ⟨distinct_of_load loads, document, loads, .refl document⟩
  documents_write name value distinct := distinct.write name value
  held_fetch := by
    intro state result next e anchored document held
    obtain ⟨-, rfl⟩ := Prod.mk.inj e
    exact held
  held_replace := by
    intro document state result next e anchored distinct other held
    have after : (file.save state.2.head?.join document state.1).2 = next.1 :=
      congrArg Prod.snd (save_of_faulty e)
    rw [← after] at held
    rcases anchored.load_of_save distinct held with before | rfl
    · exact .inl before
    · exact .inr (.aged trivial document 1)

/-! ## Worlds -/

/-- If a host listens in a world, it owns the file. -/
def World.Owns (world : World) (file : SettingsFile) : Prop :=
  ∀ place host, world.listener = some (place, host) → host.file = file

/-- Whoever asks a host that owns a file keeps documents whole. -/
lemma Remote.keeps [Wording] (remote : Remote) (file : SettingsFile) :
    remote.store.Keeps True (fun world => file.Anchored world.tree ∧ world.Owns file)
      Document.Distinct fun world document => file.load world.tree = .ok document where
  good_fetch := by
    rintro world result next e ⟨anchored, owns⟩
    rw [eq_of_fetch e]
    exact ⟨anchored, owns⟩
  good_replace := by
    rintro document world result next e ⟨anchored, owns⟩ distinct
    rcases eq_or_saved_of_replace distinct e with rfl | ⟨place, host, listener, rfl⟩
    · exact ⟨anchored, owns⟩
    · rw [owns place host listener]
      dsimp only
      exact ⟨anchored.save none _, fun place host listens => owns place host listens⟩
  handsOut := by
    rintro world document next e ⟨-, owns⟩
    -- The host has loaded the document, which ages once on its way.
    obtain ⟨place, host, loaded, listener, loads, rfl, -⟩ := exists_of_fetch_eq_ok e
    rw [owns place host listener] at loads
    refine ⟨(SettingsFile.distinct_of_load loads).aged 1, loaded, loads, ?_⟩
    exact .aged trivial loaded 1
  documents_write name value distinct := distinct.write name value
  held_fetch := by
    rintro world result next e - document held
    rwa [eq_of_fetch e] at held
  held_replace := by
    rintro document world result next e ⟨anchored, owns⟩ distinct other held
    rcases eq_or_saved_of_replace distinct e with rfl | ⟨place, host, listener, rfl⟩
    · exact .inl held
    · rw [owns place host listener] at held
      dsimp only at held
      -- A document that was saved has aged twice: on its way to the host, and in the file.
      rcases anchored.load_of_save (distinct.aged 1) held with before | rfl
      · exact .inl before
      · rw [Document.aged_aged]
        exact .inr (.aged trivial document 2)

lemma Remote.givesBack [Wording] (remote : Remote) :
    remote.store.GivesBack True Document.Distinct where
  handsOut := by
    intro world document next fetch
    obtain ⟨place, host, loaded, -, loads, rfl, -⟩ := exists_of_fetch_eq_ok fetch
    exact (SettingsFile.distinct_of_load loads).aged 1
  again := by
    intro world document next fetch other last fetch'
    rw [eq_of_fetch fetch, fetch] at fetch'
    cases fetch'
    rfl
  documents_write name value distinct := distinct.write name value
  givesBack := by
    intro document world next replace distinct other last fetch
    obtain ⟨place, host, listener, saved, same⟩ := exists_of_replace_eq_ok distinct replace
    obtain ⟨place', host', loaded, listener', loads, rfl, -⟩ := exists_of_fetch_eq_ok fetch
    obtain ⟨-, rfl⟩ : place = place' ∧ host = host' := by
      simpa [same, listener] using listener'
    rw [SettingsFile.eq_aged_of_save saved (distinct.aged 1) loads, Document.aged_aged,
      Document.aged_aged]
    exact .aged trivial document _

/-- A way to a document that is shared: to open its file, or to ask the host that owns it. -/
inductive Way where
  | file
  | host (remote : Remote)

namespace Way

/-- The store of somebody who goes a way, in a world in which files that are opened fail by a list. -/
def store [Wording] (file : SettingsFile) : Way → Store (World × List (Option Fault))
  | .file => file.faulty.inside (fun whole => (whole.1.tree, whole.2))
      fun state whole => ({ whole.1 with tree := state.1 }, state.2)
  | .host remote => remote.store.inside Prod.fst fun world whole => (world, whole.2)

/-- Whichever way somebody goes, documents are kept whole. -/
lemma keeps [Wording] (way : Way) (file : SettingsFile) :
    (way.store file).Keeps True (fun whole => file.Anchored whole.1.tree ∧ whole.1.Owns file)
      Document.Distinct fun whole document => file.load whole.1.tree = .ok document := by
  cases way with
  | file =>
    rw [store]
    exact file.keeps_faulty.inside (fun whole : World × List (Option Fault) => (whole.1.tree, whole.2))
      (fun state whole => ({ whole.1 with tree := state.1 }, state.2)) (fun whole => whole.1.Owns file)
      (fun _ _ => rfl) fun _ _ owns place host listens => owns place host listens
  | host remote =>
    have keeps := (remote.keeps file).inside Prod.fst
      (fun world (whole : World × List (Option Fault)) => (world, whole.2)) (fun _ => True)
      (fun _ _ => rfl) fun _ _ _ => trivial
    rw [store]
    simpa only [and_true] using keeps

end Way

end KanaSettings
