import KanaSettings.Proofs.Document.Lens
import KanaSettings.Proofs.Editor.Session
import KanaSettings.Proofs.Store.Shelf
import KanaSettings.Proofs.Store.Steady

/-!
# What an edit returns is what is stored

Whoever edits a slice gets a value back and goes on with it, without looking at the document again.
That is safe because the document that was stored holds exactly what the value is written as, reads
as the value, and does not change any more when the slice is edited without a change, but for
numbers that the store hands back as others.
-/

namespace KanaSettings

/-! ## Documents -/

namespace Document

/-- A document in which a value of a slice has settled. -/
structure Settled (document : Document) (name : SliceName) (value : name.Value) : Prop where
  slice? : document.slice? name = some (Slice.encode name value)
  read : document.read name = value
  canonical : document.canonical name = Slice.encode name value
  edit : document.edit name .settled = .settled value
  write : document.write name value = document

/-- A value that was accepted has settled in a document as soon as it is stored. -/
theorem settled_write (document : Document) {name : SliceName} {candidate value : name.Value}
    (accepted : Slice.prepare name candidate = .ok value) :
    (document.write name value).Settled name value := by
  have stored := slice?_write_self document name value
  have read : (document.write name value).read name = value := by
    rw [Document.read, stored]
    exact Slice.normalize_encode_of_prepare accepted
  refine ⟨stored, read, ?_, ?_, put_of_slice?_eq_some stored⟩
  · exact congrArg (Slice.encode name) read
  · simp [edit, read, Slice.prepare_of_prepare accepted, Outcome.ofExcept]

lemma Settled.ages {wears : Prop} {document other : Document} {name : SliceName} {value : name.Value}
    (settled : document.Settled name value) (h : AgesTo wears document other) :
    other.Settled name value := by
  obtain ⟨times, -, rfl⟩ := h
  have read := (read_aged document times name).trans settled.read
  refine ⟨?_, read, congrArg (Slice.encode name) read, ?_, ?_⟩
  · rw [aged, slice?_mapNumbers, settled.slice?, Option.map_some, Slice.mapNumbers_encode]
  · rw [edit_aged, settled.edit]
  · rw [← aged_write, settled.write]

end Document

/-! ## Calls -/

/-- An edit without a change of a document in which a value has settled: it succeeds unless the store
fails, returns the value, and stores the document that is there. -/
lemma Document.Settled.attempt {σ : Type} {store : Store σ} {document : Document}
    {name : SliceName} {value : name.Value} (settled : document.Settled name value)
    {state between next : σ} (fetch : store.fetch state = (.ok document, between))
    (replace : store.replace document between = (.ok (), next)) :
    store.attempt (.edit name .settled) state = (.ok (.value name value), next) := by
  simp [Store.attempt, fetch, settled.edit, settled.write, replace]

namespace Session

variable {σ α : Type}

/-- An edit that returns a value has stored a document in which that value has settled. -/
lemma exists_settled_of_carried {store : Store σ} {view : σ → α} {call : Finished σ}
    (carried : call.Carried store view) {name : SliceName} {value : name.Value}
    (answer : call.answer = .ok (.value name value)) :
    ∃ fetched before between now, store.fetch before = (.ok fetched, between) ∧
      store.replace (fetched.write name value) now = (.ok (), call.after) ∧
      call.snapshot = some (fetched.write name value) ∧
      (fetched.write name value).Settled name value := by
  obtain ⟨ticket, call, before, after, given, snapshot⟩ := call
  cases answer
  cases carried with
  | written halfway replace =>
    cases halfway with
    | intro lull fetch edit pause =>
      obtain ⟨candidate, -, accepted⟩ := Document.edit_eq_settled edit
      exact ⟨_, _, _, _, fetch, replace, rfl, Document.settled_write _ accepted⟩

/-- Whatever happens around an editor, an edit that returns a value has stored a document in which
that value has settled, and the editor remembers this document.  The store has taken it, so it holds
it if it is honest.  If the store gives it back, it may have aged, but the value has still settled in
it, and a further edit without a change returns the value again and stores the document that was
given back.  Memory is honest, also if it fails by a list, and gives the document back as it is; a
file and a host age it.  And a file can be loaded and saved after the edit. -/
theorem settled_run [Wording] :
    (∀ (σ : Type) (store : Store σ) (start : σ) (actions : List (Action σ)),
      ∀ call ∈ ((fresh start).run store actions).finished, ∀ name value,
        call.answer = .ok (.value name value) →
        ∃ document now, store.replace document now = (.ok (), call.after) ∧
          call.snapshot = some document ∧ document.Settled name value ∧
          (∀ held, store.Honest held → held call.after = document) ∧
          ∀ wears documents, store.GivesBack wears documents →
            ∀ got between, store.fetch call.after = (.ok got, between) →
              Document.AgesTo wears document got ∧ got.Settled name value ∧
              ((¬ wears ∨ ∀ n ∈ document.toJson.numbers, n.ReadsBack) → got = document) ∧
              ∀ next, store.replace got between = (.ok (), next) →
                store.attempt (.edit name .settled) call.after = (.ok (.value name value), next)) ∧
    (Memory.store.failing.Honest fun state => state.1.document) ∧
    (Memory.store.GivesBack False fun _ => True) ∧
    (∀ file : SettingsFile, file.faulty.GivesBack True Document.Distinct) ∧
    (∀ remote : Remote, remote.store.GivesBack True Document.Distinct) ∧
    ∀ (file : SettingsFile) (disk : FileTree × List (Option Fault))
        (actions : List (Action (FileTree × List (Option Fault)))),
      ∀ call ∈ ((fresh disk).run file.faulty actions).finished, ∀ name value,
        call.answer = .ok (.value name value) → file.Usable call.after.1 := by
  refine ⟨?_, Memory.honest.failing, Memory.honest.givesBack, SettingsFile.givesBack_faulty, Remote.givesBack, ?_⟩
  · intro σ store start actions call mem name value answer
    have carried := (sound_run store _ start (Action.keeps_unit actions)).carried call mem
    obtain ⟨fetched, before, between, now, fetch, replace, snapshot, settled⟩ :=
      exists_settled_of_carried carried answer
    refine ⟨_, _, replace, snapshot, settled, fun held honest => honest.held_replace replace, ?_⟩
    intro wears documents back got between' fetch'
    have keepable := back.documents_write name value (back.handsOut fetch)
    have ages := back.givesBack replace keepable fetch'
    have settled' := settled.ages ages
    exact ⟨ages, settled', ages.eq_self, fun next replace' => settled'.attempt fetch' replace'⟩
  · intro file disk actions call mem name value answer
    have carried := (sound_run file.faulty _ disk (Action.keeps_unit actions)).carried call mem
    obtain ⟨fetched, before, between, now, fetch, replace, -⟩ :=
      exists_settled_of_carried carried answer
    have loads : file.load before.1 = .ok fetched := (Prod.mk.inj fetch).1
    have loadable := (SettingsFile.loadable_of_load loads).write name value
    exact SettingsFile.usable_of_save loadable (SettingsFile.save_of_faulty replace)

/-- A dictionary with blanks around its words is stored over a legacy one with a member too many, and
then edited without a change. -/
theorem settled_run_trimmed :
    ∃ document : Document, document.Settled .userDictionary [⟨"a", "b"⟩] ∧
      Memory.store.attempt (.edit .userDictionary .settled) ⟨document, false, false, 1⟩ =
        (.ok (.value .userDictionary [⟨"a", "b"⟩]), ⟨document, false, false, 2⟩) := by
  obtain ⟨document, now, replace, snapshot, settled, held, again⟩ := settled_run.1 Memory Memory.store
    (Memory.ofDocument ⟨[("user_dictionary", .object [("entries", .array [.null]), ("x", .null)])]⟩)
    [.submit (.edit .userDictionary fun _ => .settled [⟨" a", "b\u3000"⟩]), .acquire 0, .advance,
      .advance]
    _ List.mem_cons_self .userDictionary [⟨"a", "b"⟩] rfl
  obtain ⟨-, -, same, further⟩ := again _ _ settled_run.2.2.1 _ _ rfl
  obtain rfl := same (.inl not_false)
  exact ⟨_, settled, further _ rfl⟩

end Session

/-- A further edit without a change can leave other contents in the file: a number that is read from
what the first edit has written may be written as another token. -/
theorem SettingsFile.exists_edit_that_changes_contents :
    ¬ ∀ (file : SettingsFile) (tree after : FileTree) (name : SliceName)
        (change : name.Value → Outcome name.Value) (value : name.Value),
      file.store.attempt (.edit name change) tree = (.ok (.value name value), after) →
      (file.store.attempt (.edit name .settled) after).2.read file.path = after.read file.path := by
  intro h
  have loads := load_shelf (.single .thirty) (Number.stands_thirty.lone "x") (by decide)
  have usable := usable_of_load loads (read_shelf_ne _)
  have standard : Slice.prepare .general .standard = .ok .standard := rfl
  obtain ⟨once, first, contents, loads', usable'⟩ := attempt_settled usable loads
    (show Document.edit _ .general .settled = .settled .standard from rfl)
  have settled := (Document.single .thirty).aged 1 |>.settled_write standard
  obtain ⟨twice, second, contents', -⟩ := attempt_settled usable' loads' settled.edit
  have same := h _ _ _ _ _ _ first
  rw [second, contents, contents', settled.write, Document.aged_single] at same
  exact encode_single_ne Number.token_reread_thirty_ne _ (Except.ok.inj same)

end KanaSettings
