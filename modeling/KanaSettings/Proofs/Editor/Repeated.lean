import KanaSettings.Proofs.Editor.Refusal
import KanaSettings.Proofs.Editor.Settled

/-!
# To ask for the same again

A patch that was refused is refused again for the same reasons, and one that was accepted settles on
the same value.  So what is stored the second time is the document that is there, and only numbers that
the store hands back as others can be different afterwards.
-/

namespace KanaSettings

namespace Slice

variable {name : SliceName}

/-- A patch that is made again, of the value that was kept the first time, leads to that value. -/
lemma patch_bind_prepare_again {base kept : name.Value} {raw : Json} (closed : Closed name base)
    (accepted : (patch name base raw).bind (prepare name) = .ok kept) :
    (patch name kept raw).bind (prepare name) = .ok kept := by
  cases record : name.isSequence with
  | true =>
    -- A sequence is handed in as a whole, whatever it was.
    cases name with
    | romajiTable | userDictionary => exact accepted
    | shortcuts | general | zenzai | symbolWidth | widthGroups => cases record
  | false =>
    cases raw with
    | object members =>
      rw [patch_object record, Except.bind, prepare_of_closed record (closed_overlay closed _)]
        at accepted
      obtain rfl := Except.ok.inj accepted
      rw [patch_object record, overlay_again record closed]
      exact prepare_of_closed record (closed_overlay closed _)
    | _ =>
      cases name with
      | romajiTable | userDictionary => cases record
      | shortcuts | general | zenzai | symbolWidth | widthGroups => cases accepted

end Slice

/-! ## Calls -/

namespace Store

variable {σ : Type} {store : Store σ} {state : σ} {name : SliceName}
  {change : name.Value → Outcome name.Value}

/-- What an edit comes to if the store does not fail. -/
inductive Attempts (store : Store σ) (name : SliceName) (change : name.Value → Outcome name.Value)
    (state : σ) : Except EditError Reply × σ → Prop where
  | refused {document next objections} (fetch : store.fetch state = (.ok document, next))
      (edit : document.edit name change = .refused objections) :
      Attempts store name change state (.error (.rejected objections), next)
  | settled {document between value next} (fetch : store.fetch state = (.ok document, between))
      (edit : document.edit name change = .settled value)
      (replace : store.replace (document.write name value) between = (.ok (), next)) :
      Attempts store name change state (.ok (.value name value), next)

lemma attempts (unfailed : ∀ error, (store.attempt (.edit name change) state).1 ≠
    .error (.transport error)) :
    Attempts store name change state (store.attempt (.edit name change) state) := by
  rw [Store.attempt] at unfailed ⊢
  rcases fetch : store.fetch state with ⟨error | document, between⟩
  · simp [fetch] at unfailed
  · simp only [fetch] at unfailed ⊢
    cases edit : document.edit name change with
    | crashed reason => simp [edit, EditError.ofCrash] at unfailed
    | refused objections => exact .refused fetch edit
    | settled value =>
      simp only [edit] at unfailed ⊢
      rcases replace : store.replace (document.write name value) between with ⟨error | done, next⟩
      · simp [replace] at unfailed
      · exact .settled fetch edit replace

/-- The second of two calls gives the answer of the first one; and it stores nothing, or the very
document that the store has just handed out.  So this is what the store hands out again, with its
age. -/
structure Echoes (store : Store σ) (wears : Prop) (first second : Except EditError Reply × σ) :
    Prop where
  answer : second.1 = first.1
  back : ∃ document between, store.fetch first.2 = (.ok document, between) ∧
    (second.2 = between ∨ store.replace document between = (.ok (), second.2)) ∧
    ∀ other last, store.fetch second.2 = (.ok other, last) →
      Document.AgesTo wears document other ∧
        ((¬ wears ∨ ∀ n ∈ document.toJson.numbers, n.ReadsBack) → other = document)

namespace Attempts

variable {first second : Except EditError Reply × σ} {wears : Prop} {documents : Document → Prop}

/-- An edit that is made again echoes, if it settles again on a value that has settled. -/
lemma echoes (h : Attempts store name change state first)
    (h' : Attempts store name change first.2 second) (back : store.GivesBack wears documents)
    (again : ∀ {document other : Document} {value : name.Value},
      document.edit name change = .settled value → other.read name = value →
      other.edit name change = .settled value) :
    store.Echoes wears first second := by
  cases h with
  | refused fetch edit =>
    -- Nothing was stored, so it is the same document that refuses.
    cases h' with
    | refused fetch' edit' =>
      obtain rfl := back.again fetch fetch'
      rw [edit] at edit'
      cases edit'
      refine ⟨rfl, _, _, fetch', .inl rfl, fun other last fetch'' => ?_⟩
      obtain rfl := back.again fetch' fetch''
      exact ⟨.refl _, fun _ => rfl⟩
    | settled fetch' edit' =>
      obtain rfl := back.again fetch fetch'
      rw [edit] at edit'
      cases edit'
  | @settled document _ value next fetch edit replace =>
    obtain ⟨candidate, -, accepted⟩ := Document.edit_eq_settled edit
    have keepable := back.documents_write name value (back.handsOut fetch)
    have settled {other last} (fetch' : store.fetch next = (.ok other, last)) :
        other.Settled name value :=
      (document.settled_write accepted).ages (back.givesBack replace keepable fetch')
    cases h' with
    | refused fetch' edit' =>
      rw [again edit (settled fetch').read] at edit'
      cases edit'
    | settled fetch' edit' replace' =>
      rw [again edit (settled fetch').read] at edit'
      cases edit'
      -- To store again what the slice holds changes nothing.
      rw [(settled fetch').write] at replace'
      refine ⟨rfl, _, _, fetch', .inr replace', fun other last fetch'' => ?_⟩
      have ages := back.givesBack replace' (back.handsOut fetch') fetch''
      exact ⟨ages, ages.eq_self⟩

end Attempts

/-- What a check has accepted it accepts again as it is.  A patch that is handed in twice, with nothing
in between and no failure of the store, gives the same answer twice, whether it is accepted or not; and
if anything is stored the second time, it is the very document that the store has just handed out.  So a
store that gives back what it takes hands out the same document after both, with all members in their
order, unless numbers in it have aged.  A document in memory does not age, whereas one does that is in a
file or comes from a host. -/
theorem patch_repeated [Wording] :
    (∀ (name : SliceName) (candidate value : name.Value), Slice.prepare name candidate = .ok value →
      Slice.prepare name value = .ok value) ∧
    (∀ (σ : Type) (store : Store σ) (wears : Prop) (documents : Document → Prop),
      store.GivesBack wears documents → ∀ (name : SliceName) (raw : Json) (state : σ),
      let first := store.attempt (.patch name raw) state
      let second := store.attempt (.patch name raw) first.2
      (∀ error, first.1 ≠ .error (.transport error)) →
      (∀ error, second.1 ≠ .error (.transport error)) → store.Echoes wears first second) ∧
    (Memory.store.GivesBack False fun _ => True) ∧
    (∀ file : SettingsFile, file.faulty.GivesBack True Document.Distinct) ∧
    ∀ remote : Remote, remote.store.GivesBack True Document.Distinct := by
  refine ⟨fun name candidate value => Slice.prepare_of_prepare, ?_, Memory.honest.givesBack,
    SettingsFile.givesBack_faulty, Remote.givesBack⟩
  intro σ store wears documents back name raw state first second unfailed unfailed'
  refine (attempts unfailed).echoes (attempts unfailed') back ?_
  intro document other value edit read
  rw [Document.edit_ofExcept] at edit ⊢
  -- The second time the patch meets the value that came of the first, and makes nothing new of it.
  have accepted : (Slice.patch name (document.read name) raw).bind (Slice.prepare name) = .ok value := by
    cases made : (Slice.patch name (document.read name) raw).bind (Slice.prepare name) with
    | error objections => simp [made, Outcome.ofExcept] at edit
    | ok kept => simpa [made, Outcome.ofExcept] using edit
  have closed := Slice.closed_normalize name (document.slice? name)
  rw [read, Slice.patch_bind_prepare_again closed accepted]
  rfl

/-- An array for a dictionary, with an entry that is trimmed, and after it one that is no row. -/
theorem patch_repeated_rows :
    let memory := Memory.ofDocument ⟨[("user_dictionary", .null), ("x", .null)]⟩
    let row : Json := .object [("reading", .string " a"), ("word", .string "b"), ("n", .null)]
    let taken := Call.patch .userDictionary (.array [row])
    let refused := Call.patch .userDictionary (.array [row, .null])
    let once := Memory.store.attempt taken memory
    once.1 = .ok (.value .userDictionary [⟨"a", "b"⟩]) ∧
      (Memory.store.attempt taken once.2).1 = once.1 ∧
      (Memory.store.attempt taken once.2).2.document = once.2.document ∧
      (Memory.store.attempt refused (Memory.store.attempt refused once.2).2).1 =
        (Memory.store.attempt refused once.2).1 := by
  intro memory row taken refused once
  have again := patch_repeated.2.1 Memory _ _ _ patch_repeated.2.2.1 .userDictionary
  have taken' := again (.array [row]) memory nofun nofun
  have refused' := again (.array [row, .null]) once.2 nofun nofun
  obtain ⟨document, between, fetch, ends, same⟩ := taken'.back
  refine ⟨rfl, taken'.answer, ?_, refused'.answer⟩
  cases fetch
  exact (same _ _ rfl).2 (.inl not_false)

end Store

/-- A patch that is handed in twice can leave other contents in the file the second time: a number
that is read from what was written the first time may be written as another token. -/
theorem SettingsFile.exists_patch_that_changes_contents :
    ¬ ∀ (file : SettingsFile) (tree : FileTree) (name : SliceName) (raw : Json), file.Usable tree →
      let first := file.store.attempt (.patch name raw) tree
      let second := file.store.attempt (.patch name raw) first.2
      second.2.read file.path = first.2.read file.path := by
  intro h
  have loads := load_shelf (.single .thirty) (Number.stands_thirty.lone "x") (by decide)
  have usable := usable_of_load loads (read_shelf_ne _)
  have edit (document : Document) (read : document.read .general = .standard) :
      document.edit .general (fun current => .ofExcept (Slice.patch .general current (.object []))) =
        .settled .standard := by
    rw [Document.edit_ofExcept, read]
    rfl
  obtain ⟨once, first, contents, loads', usable'⟩ := attempt_settled usable loads (edit _ rfl)
  have settled : (((Document.single .thirty).aged 1).write .general .standard).Settled .general _ :=
    Document.settled_write _ rfl
  obtain ⟨twice, second, contents', -⟩ := attempt_settled usable' loads' (edit _ settled.read)
  have same := h ⟨⟨"s"⟩⟩ _ .general (.object []) usable
  simp only [Call.patch, first, second] at same
  rw [contents, contents', settled.write, Document.aged_single] at same
  exact encode_single_ne Number.token_reread_thirty_ne _ (Except.ok.inj same)

end KanaSettings
