import KanaSettings.Proofs.Editor.Shared
import KanaSettings.Proofs.Store.Shelf
import KanaSettings.Proofs.Store.Steady

/-!
# What lasts in a shared document

Editors that share a document can undo each other's edits, but whatever comes of it, each slice is
what it was at first or what a check has accepted, and all that belongs to no slice is what and
where it was.  Only numbers may come back as others, from a store that writes and reads them.
-/

namespace KanaSettings

variable {ι σ : Type}

/-! ## One edit -/

/-- Whatever else touches the store, an edit that succeeds replaces the document that it has fetched
by one that differs from it in its own slice only. -/
lemma Session.changedAt_of_stored (store : Store σ) (start : σ) (actions : List (Action σ)) :
    ∀ call ∈ ((Session.fresh start).run store actions).finished, ∀ name value,
      call.answer = .ok (.value name value) →
      ∃ change fetched before between now, call.call = .edit name change ∧
        store.fetch before = (.ok fetched, between) ∧ fetched.edit name change = .settled value ∧
        store.replace (fetched.write name value) now = (.ok (), call.after) ∧
        fetched.ChangedAt name (fetched.write name value) := by
  intro call mem name value answer
  have carried := (Session.sound_run store _ start (Action.keeps_unit actions)).carried call mem
  obtain ⟨ticket, call, before, after, given, snapshot⟩ := call
  cases answer
  cases carried with
  | written halfway replace =>
    cases halfway with
    | intro lull fetch edit pause =>
      exact ⟨_, _, _, _, _, rfl, fetch, edit, replace, Document.changedAt_put _ _ _⟩

/-! ## Files that have something to keep -/

/-- A file from which more than an empty document was loaded is there. -/
lemma SettingsFile.anchored_of_load {file : SettingsFile} {tree : FileTree} {document : Document}
    (loads : file.load tree = .ok document) (more : document ≠ .empty) : file.Anchored tree := by
  unfold load at loads
  split at loads
  · rename_i contents read
    exact .found (FileTree.read_eq_ok.1 read)
  · cases loads
    exact absurd rfl more
  · cases loads

/-! ## Any number of editors -/

namespace Editors

/-- In every document that editors ever share or are about to store, each slice is what it was at
first, missing or not, or a value that was accepted; so a slice that keeps its rules at first keeps
them ever after.  This holds of all stores that keep documents whole, whether or not they fail on the
way: of a document in memory, and of a file, which each of the editors opens or asks a host for. -/
theorem slices_run [Wording] :
    (∀ (ι σ : Type) [DecidableEq ι] (store : ι → Store σ) (wears : Prop) (good : σ → Prop)
        (documents : Document → Prop) (held : σ → Document → Prop) (start : σ)
        (actions : List (ι × Action σ)),
      (∀ i, (store i).Keeps wears good documents held) → good start →
      (∀ action ∈ actions, action.2.Spares good held) →
      ∀ document, Present held ((fresh start).run store actions) document →
        ∃ initial, held start initial ∧ Document.KeepsSlices wears initial document) ∧
    (∀ (σ : Type) (store : Store σ) (wears : Prop) (good : σ → Prop) (documents : Document → Prop)
        (held : σ → Document → Prop), store.Keeps wears good documents held →
      store.failing.Keeps wears (fun state => good state.1) documents fun state => held state.1) ∧
    Memory.store.Keeps False (fun _ => True) (fun _ => True)
      (fun memory document => memory.document = document) ∧
    ∀ (way : Way) (file : SettingsFile), (way.store file).Keeps True
      (fun whole => file.Anchored whole.1.tree ∧ whole.1.Owns file) Document.Distinct
      fun whole document => file.load whole.1.tree = .ok document := by
  refine ⟨?_, fun σ store wears good documents held => .failing, Memory.honest.keeps,
    fun way file => way.keeps file⟩
  intro ι σ _ store wears good documents held start actions keeps first spares document present
  obtain ⟨initial, older, found, ages, edited⟩ := descends_run keeps first spares present
  exact ⟨initial, found, edited.keepsSlices ages⟩

/-- Two editors over a document in memory both fetch it before either stores it, so the edit that is
stored first is lost, and the dictionary that is stored last keeps its rules. -/
theorem slices_run_memory :
    ∃ raw, ((fresh (Memory.ofDocument .empty)).run (fun _ => Memory.store)
      [(false, .submit (.edit .romajiTable fun _ => .settled [])), (false, .acquire 0),
        (true, .submit (.edit .userDictionary fun _ => .settled [⟨" a", "b"⟩])), (true, .acquire 0),
        (false, .advance), (true, .advance), (false, .advance),
        (true, .advance)]).state.document.slice? .userDictionary = some raw ∧
      Slice.Valid .userDictionary raw := by
  obtain ⟨initial, first, keeps⟩ := slices_run.1 Bool Memory _ _ _ _ _ _ _
    (fun _ => slices_run.2.2.1) trivial (by simp [Action.Spares]) _
    (.inl (rfl : ((fresh (Memory.ofDocument .empty)).run (fun _ => Memory.store)
      [(false, .submit (.edit .romajiTable fun _ => .settled [])), (false, .acquire 0),
        (true, .submit (.edit .userDictionary fun _ => .settled [⟨" a", "b"⟩])), (true, .acquire 0),
        (false, .advance), (true, .advance), (false, .advance),
        (true, .advance)]).state.document = _))
  refine ⟨_, rfl, keeps.valid .userDictionary ?_ _ rfl⟩
  rintro raw found
  rw [← first] at found
  cases found

/-- In every document that editors ever share or are about to store, all that belongs to no slice is
what and where it was at first.  And whatever else touches the store of one of them, an edit that
succeeds replaces the document that it has fetched by one that differs from it in its own slice only.
The first holds of all stores that keep documents whole, whether or not they fail on the way: of a
document in memory, and of a file, which each of the editors opens or asks a host for.  A file that
is missing may hold no more than the empty document, of which there is nothing to keep. -/
theorem preserves_run [Wording] :
    (∀ (ι σ : Type) [DecidableEq ι] (store : ι → Store σ) (wears : Prop) (good : σ → Prop)
        (documents : Document → Prop) (held : σ → Document → Prop) (start : σ)
        (actions : List (ι × Action σ)),
      (∀ i, (store i).Keeps wears good documents held) → good start →
      (∀ action ∈ actions, action.2.Spares good held) →
      ∀ document, Present held ((fresh start).run store actions) document →
        ∃ initial, held start initial ∧ Document.KeepsRest wears initial document) ∧
    (∀ (σ : Type) (store : Store σ) (start : σ) (actions : List (Action σ)),
      ∀ call ∈ ((Session.fresh start).run store actions).finished, ∀ name value,
        call.answer = .ok (.value name value) →
        ∃ change fetched before between now, call.call = .edit name change ∧
          store.fetch before = (.ok fetched, between) ∧ fetched.edit name change = .settled value ∧
          store.replace (fetched.write name value) now = (.ok (), call.after) ∧
          fetched.ChangedAt name (fetched.write name value)) ∧
    (∀ (σ : Type) (store : Store σ) (wears : Prop) (good : σ → Prop) (documents : Document → Prop)
        (held : σ → Document → Prop), store.Keeps wears good documents held →
      store.failing.Keeps wears (fun state => good state.1) documents fun state => held state.1) ∧
    Memory.store.Keeps False (fun _ => True) (fun _ => True)
      (fun memory document => memory.document = document) ∧
    (∀ (way : Way) (file : SettingsFile), (way.store file).Keeps True
      (fun whole => file.Anchored whole.1.tree ∧ whole.1.Owns file) Document.Distinct
      fun whole document => file.load whole.1.tree = .ok document) ∧
    ∀ (file : SettingsFile) (tree : FileTree) (document : Document),
      file.load tree = .ok document → document ≠ .empty → file.Anchored tree := by
  refine ⟨?_, fun σ => Session.changedAt_of_stored, fun σ store wears good documents held => .failing,
    Memory.honest.keeps, fun way file => way.keeps file,
    fun file tree document => SettingsFile.anchored_of_load⟩
  intro ι σ _ store wears good documents held start actions keeps first spares document present
  obtain ⟨initial, older, found, ages, edited⟩ := descends_run keeps first spares present
  exact ⟨initial, found, edited.keepsRest ages⟩

/-- Two editors over a document with members that belong to no slice, one of them in the container
that the slice of the other is in. -/
theorem preserves_run_memory :
    Document.Preserves ⟨[("x", .null), ("character_width", .object [("y", .bool true)])]⟩
      ((fresh (Memory.ofDocument
        ⟨[("x", .null), ("character_width", .object [("y", .bool true)])]⟩)).run
          (fun _ => Memory.store)
          [(false, .submit (.edit .widthGroups .settled)), (false, .acquire 0),
            (true, .submit (.edit .general .settled)), (true, .acquire 0), (true, .advance),
            (false, .advance), (true, .advance), (false, .advance)]).state.document := by
  obtain ⟨initial, rfl, keeps⟩ := preserves_run.1 Bool Memory _ _ _ _ _ _ _
    (fun _ => Memory.honest.keeps) trivial (by simp [Action.Spares]) _
    (.inl (rfl : ((fresh (Memory.ofDocument
      ⟨[("x", .null), ("character_width", .object [("y", .bool true)])]⟩)).run
        (fun _ => Memory.store)
        [(false, .submit (.edit .widthGroups .settled)), (false, .acquire 0),
          (true, .submit (.edit .general .settled)), (true, .acquire 0), (true, .advance),
          (false, .advance), (true, .advance), (false, .advance)]).state.document = _))
  exact keeps.same (.inl not_false)

/-! ## What does not last -/

section

variable {file : SettingsFile} {disk : FileTree × List (Option Fault)} {document : Document}
  {name : SliceName} {value : name.Value}

/-- An edit without a change from its beginning to its end. -/
def untouched (name : SliceName) : List (Unit × Action (FileTree × List (Option Fault))) :=
  [((), .submit (.edit name .settled)), ((), .acquire 0), ((), .advance), ((), .advance)]

lemma spares_untouched (good : FileTree × List (Option Fault) → Prop)
    (held : FileTree × List (Option Fault) → Document → Prop) :
    ∀ action ∈ untouched name, action.2.Spares good held := by
  simp [untouched, Action.Spares]

/-- It saves the document that it has loaded with the value in it. -/
lemma state_run_untouched (loads : file.load disk.1 = .ok document)
    (edit : document.edit name .settled = .settled value) :
    ((fresh disk).run (fun _ => file.faulty) (untouched name)).state.1 =
      (file.save disk.2.head?.join (document.write name value) disk.1).2 := by
  have fetch : file.faulty.fetch disk = (.ok document, disk) :=
    congrArg (fun result => (result, disk)) loads
  let editor := (Editor.fresh.submit (.edit name .settled)).acquire 0
  have running : editor.running = some ⟨0, .edit name .settled, .fetching⟩ := rfl
  have first := (Editor.Advances.settled running fetch edit).advance_eq
  rcases replaced : file.faulty.replace (document.write name value) disk with ⟨result, next⟩
  have last : ((editor.advance file.faulty disk).1.advance file.faulty
      (editor.advance file.faulty disk).2).2 = next := by
    rw [first, Editor.advance_of_replacing (show _ = some (Running.mk 0 _ _) from rfl), replaced]
  rw [SettingsFile.save_of_faulty replaced, ← last, untouched, run]
  simp only [List.foldl_cons, List.foldl_nil, act, Function.update_self, Action.perform, fresh]
  rfl

/-- If nothing fails, the document is then what it was, with its age and the value. -/
lemma load_run_untouched (loads : file.load disk.1 = .ok document)
    (there : disk.1.read file.path ≠ .error .notFound) (saves : disk.2.head?.join = none)
    (edit : document.edit name .settled = .settled value) :
    file.load ((fresh disk).run (fun _ => file.faulty) (untouched name)).state.1 =
      .ok ((document.aged 1).write name value) := by
  obtain ⟨after, saved⟩ := (SettingsFile.usable_of_load loads there).saves (document.write name value)
  rw [state_run_untouched loads edit, saves, saved]
  exact SettingsFile.load_of_save saved (SettingsFile.decode_encode_write loads name value)

end

/-- A document with a number in a slice. -/
def numbered (n : Number) : Document := ⟨[("general", .object [("x", .number n)])]⟩

lemma aged_numbered (n : Number) : (numbered n).aged 1 = numbered n.reread := by
  simp [numbered, Document.aged, Document.mapNumbers, Json.mapNumbers]

/-- A slice with a number that has become another one is not what it was, and nothing that was
accepted. -/
lemma not_holds_of_slice?_eq {n m : Number} (other : m ≠ n)
    (slice : document.slice? .general = (numbered m).slice? .general) :
    ¬ Document.Holds .general (numbered n) document := by
  change _ = some (Json.object [("x", .number m)]) at slice
  rintro (same | ⟨-, value, -, stored⟩)
  · cases slice.symm.trans same
    exact other rfl
  · have bare := Slice.numbers_encode .general value
    rw [← Option.some.inj (slice.symm.trans stored)] at bare
    simp [Json.numbers] at bare

/-- A path that goes back leads to a file after a replacement has failed. -/
lemma load_uncovered {text : List Char} {value : Json} {levels : Nat}
    (stands : Json.Stands text value levels) (few : levels + 1 ≤ Json.maxDepth)
    (document : Document) :
    SettingsFile.load ⟨⟨"a/../s"⟩⟩ (SettingsFile.save ⟨⟨"a/../s"⟩⟩ (some ⟨.rename, .noSpace⟩) document
      (SettingsFile.shelf (Json.lone "general" text))).2 = .ok ⟨[("general", value)]⟩ := by
  have found : ((SettingsFile.shelf (Json.lone "general" text)).replace ⟨"a/../s"⟩
      (SettingsFile.encode document) (some ⟨.rename, .noSpace⟩)).1.read ⟨"a/../s"⟩ =
        .ok (String.ofList (Json.lone "general" text)).toUTF8 := rfl
  rw [SettingsFile.load, SettingsFile.save_state, found]
  exact SettingsFile.decode_eq_ok.2 ⟨_, fromUTF8?_toUTF8 _, (stands.lone "general").parse? few⟩

/-- A slice can become another one though nobody has edited it: a number in it comes back as another
one.  And one that was missing can turn up: a replacement that fails makes the path lead to a file. -/
theorem exists_slice_that_changes :
    (¬ ∀ (file : SettingsFile) (disk : FileTree × List (Option Fault))
        (actions : List (Unit × Action (FileTree × List (Option Fault)))) (document : Document),
      file.Anchored disk.1 →
      (∀ action ∈ actions, action.2.Spares (fun state => file.Anchored state.1)
        fun state document => file.load state.1 = .ok document) →
      Present (fun state document => file.load state.1 = .ok document)
        ((fresh disk).run (fun _ => file.faulty) actions) document →
      ∃ initial, file.load disk.1 = .ok initial ∧ ∀ name, Document.Holds name initial document) ∧
    ¬ ∀ (file : SettingsFile) (disk : FileTree × List (Option Fault))
        (actions : List (Unit × Action (FileTree × List (Option Fault)))) (document : Document),
      (∀ n ∈ document.toJson.numbers, n.ReadsBack) →
      (∀ action ∈ actions, action.2.Spares (fun _ => True)
        fun state document => file.load state.1 = .ok document) →
      Present (fun state document => file.load state.1 = .ok document)
        ((fresh disk).run (fun _ => file.faulty) actions) document →
      ∃ initial, file.load disk.1 = .ok initial ∧ ∀ name, Document.Holds name initial document := by
  constructor
  · intro h
    have loads : SettingsFile.load ⟨⟨"s"⟩⟩ (SettingsFile.shelf
        (Json.lone "general" (Json.lone "x" "30e29".toList))) = .ok (numbered .thirty) :=
      SettingsFile.load_shelf _ ((Number.stands_thirty.lone "x").lone "general") (by decide)
    have anchored := SettingsFile.anchored_of_load loads (by simp [numbered, Document.empty])
    obtain ⟨initial, found, holds⟩ := h ⟨⟨"s"⟩⟩ (_, []) (untouched .shortcuts) _ anchored
      (spares_untouched _ _) (.inl (load_run_untouched loads (SettingsFile.read_shelf_ne _) rfl rfl))
    obtain rfl := Except.ok.inj (loads.symm.trans found)
    refine not_holds_of_slice?_eq Number.reread_thirty_ne ?_ (holds .general)
    rw [Document.slice?_write_of_ne (by decide), aged_numbered]
  · intro h
    -- The directory that is gone back from is missing, and is there after the first edit has failed.
    have stands : Json.Stands ['7'] (.number (.int 7)) 0 := .number (.inr rfl) rfl
    have turned : SettingsFile.load ⟨⟨"a/../s"⟩⟩ ((fresh (SettingsFile.shelf (Json.lone "general" ['7']),
        [some ⟨.rename, .noSpace⟩])).run (fun _ => SettingsFile.faulty ⟨⟨"a/../s"⟩⟩)
          (untouched .shortcuts)).state.1 = .ok ⟨[("general", .number (.int 7))]⟩ :=
      (congrArg _ (state_run_untouched rfl rfl)).trans (load_uncovered stands (by decide) _)
    have back : (Number.int 7).ReadsBack := by
      unfold Number.ReadsBack
      rfl
    obtain ⟨initial, found, holds⟩ := h _ _ (untouched .shortcuts) _
      (by simpa [Document.toJson, Json.numbers] using back) (spares_untouched _ _) (.inl turned)
    cases found
    rcases holds .general with same | ⟨-, value, -, stored⟩
    · cases same
    · have bare := Slice.numbers_encode .general value
      rw [← Option.some.inj stored] at bare
      simp [Json.numbers] at bare

lemma not_preserves_of_ne {n m : Number} (other : m ≠ n) (value : SliceName.Value .general) :
    ¬ Document.Preserves (.single n) ((Document.single m).write .general value) := by
  intro preserves
  have members : [("x", Json.number m)] = [("x", Json.number n)] := preserves.members
  cases members
  exact other rfl

/-- What belongs to no slice can become another value: a number in it comes back as another one. -/
theorem exists_member_that_changes :
    ¬ ∀ (file : SettingsFile) (disk : FileTree × List (Option Fault))
        (actions : List (Unit × Action (FileTree × List (Option Fault)))) (document : Document),
      file.Anchored disk.1 →
      (∀ action ∈ actions, action.2.Spares (fun state => file.Anchored state.1)
        fun state document => file.load state.1 = .ok document) →
      Present (fun state document => file.load state.1 = .ok document)
        ((fresh disk).run (fun _ => file.faulty) actions) document →
      ∃ initial, file.load disk.1 = .ok initial ∧ Document.Preserves initial document := by
  intro h
  have loads : SettingsFile.load ⟨⟨"s"⟩⟩ (SettingsFile.shelf (Json.lone "x" "30e29".toList)) =
      .ok (.single .thirty) := SettingsFile.load_shelf _ (Number.stands_thirty.lone "x") (by decide)
  have anchored := SettingsFile.anchored_of_load loads (by simp [Document.single, Document.empty])
  obtain ⟨initial, found, preserves⟩ := h ⟨⟨"s"⟩⟩ (_, []) (untouched .general) _ anchored
    (spares_untouched _ _) (.inl (load_run_untouched loads (SettingsFile.read_shelf_ne _) rfl rfl))
  obtain rfl := Except.ok.inj (loads.symm.trans found)
  rw [Document.aged_single] at preserves
  exact not_preserves_of_ne Number.reread_thirty_ne _ preserves

end Editors

end KanaSettings
