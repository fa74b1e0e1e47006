import KanaSettings.Editor.Call
import KanaSettings.Proofs.Slice.Reading

/-!
# Patches that are refused

Whoever patches a slice is refused for what is handed in, and for nothing else: what the document
holds has no say in it.  A record takes every object.  A sequence takes an array if all of its items
are rows and the check of the slice has nothing against the rows.
-/

namespace KanaSettings

/-! ## Reasons to refuse -/

/-- What may be said against a table that is handed in. -/
inductive Rows.Form.Refuses {α : Type} (form : Rows.Form α)
    (check : List α → Except (List Objection) (List α)) (raw : Json) : List Objection → Prop
  | notArray (other : ∀ items, raw ≠ .array items) :
      Refuses form check raw [.malformed none ("expected an array of " ++ form.what)]
  /-- Some items are no rows, and nothing else is spoken of then. -/
  | malformed {items : List Json} {positions : List Nat} {objections : List Objection}
      (array : raw = .array items) (some : objections ≠ [])
      (report : Rows.Report (form.Malformed items) positions objections) :
      Refuses form check raw objections
  | objected {items : List Json} {rows : List α} {objections : List Objection}
      (array : raw = .array items) (each : List.Forall₂ form.Stands items rows)
      (refused : check rows = .error objections) : Refuses form check raw objections

/-- What may be said against a patch of a slice. -/
def Slice.Refuses : SliceName → Json → List Objection → Prop
  | .romajiTable, raw, objections => RomajiTable.form.Refuses RomajiTable.check raw objections
  | .userDictionary, raw, objections =>
    UserDictionary.form.Refuses UserDictionary.check raw objections
  | .shortcuts, raw, objections | .general, raw, objections | .zenzai, raw, objections
  | .symbolWidth, raw, objections | .widthGroups, raw, objections =>
    (∀ members, raw ≠ .object members) ∧
      objections = [.malformed none "expected a JSON object"]

/-! ## Reading and checking -/

namespace Rows.Form

variable {α : Type} {form : Form α} {check : List α → Except (List Objection) (List α)}
  {raw : Json} {objections : List Objection}

lemma ofInput_of_not_array (other : ∀ items, raw ≠ .array items) :
    ofInput form.what form.row? raw =
      .error [.malformed none ("expected an array of " ++ form.what)] := by
  cases raw with
  | array items => exact absurd rfl (other items)
  | _ => rfl

/-- A table is refused when it is read, or when it has been read and is checked. -/
lemma ofInput_bind_eq_error_iff :
    (ofInput form.what form.row? raw).bind check = .error objections ↔
      form.Refuses check raw objections := by
  constructor
  · intro refused
    -- Refused for what it is, for the rows in it, or by the check of the rows.
    by_cases array : ∃ items, raw = .array items
    · obtain ⟨items, rfl⟩ := array
      cases read : ofInput form.what form.row? (.array items) with
      | error objections' =>
        obtain ⟨some, positions, report⟩ := (form.agrees.refuses items objections').1 read
        rw [read] at refused
        cases refused
        exact .malformed rfl some report
      | ok rows =>
        rw [read] at refused
        exact .objected rfl (forall₂_iff.2 ((form.agrees.accepts items rows).1 read)) refused
    · rw [ofInput_of_not_array (not_exists.1 array)] at refused
      cases refused
      exact .notArray (not_exists.1 array)
  · intro refuses
    cases refuses with
    | notArray other =>
      rw [ofInput_of_not_array other]
      rfl
    | malformed array some report =>
      subst array
      rw [(form.agrees.refuses _ _).2 ⟨some, _, report⟩]
      rfl
    | objected array each refused =>
      subst array
      rw [(form.agrees.accepts _ _).2 (forall₂_iff.1 each)]
      exact refused

end Rows.Form

/-- A record takes every object, and takes nothing else. -/
lemma Patch.ofJson_map_bind_eq_error_iff {α : Type} {raw : Json} {objections : List Objection}
    {overlay : Members Json → α} {keep : α → Except (List Objection) α}
    (takes : ∀ value, ∃ kept, keep value = .ok kept) :
    ((ofJson raw).map overlay).bind keep = .error objections ↔
      (∀ members, raw ≠ .object members) ∧
        objections = [.malformed none "expected a JSON object"] := by
  cases raw with
  | object members =>
    obtain ⟨kept, taken⟩ := takes (overlay members)
    simp [ofJson, Except.map, Except.bind, taken]
  | _ => simp [ofJson, notAnObject, Except.map, Except.bind, eq_comm]

/-- A patch is refused for what is handed in, whatever the value is that it is to change. -/
lemma Slice.patch_bind_prepare_eq_error_iff {name : SliceName} {current : name.Value} {raw : Json}
    {objections : List Objection} :
    (patch name current raw).bind (prepare name) = .error objections ↔
      Refuses name raw objections := by
  cases name with
  | romajiTable => exact RomajiTable.form.ofInput_bind_eq_error_iff
  | userDictionary => exact UserDictionary.form.ofInput_bind_eq_error_iff
  | shortcuts => exact Patch.ofJson_map_bind_eq_error_iff fun value => ⟨value, rfl⟩
  | general => exact Patch.ofJson_map_bind_eq_error_iff fun value => ⟨value, rfl⟩
  | zenzai => exact Patch.ofJson_map_bind_eq_error_iff fun value => ⟨value, rfl⟩
  | symbolWidth => exact Patch.ofJson_map_bind_eq_error_iff fun value => ⟨value.canonical, rfl⟩
  | widthGroups => exact Patch.ofJson_map_bind_eq_error_iff fun value => ⟨value, rfl⟩

/-! ## Calls -/

/-- A change that does not crash is made and then checked. -/
lemma Document.edit_ofExcept (document : Document) (name : SliceName)
    (change : name.Value → Except (List Objection) name.Value) :
    document.edit name (fun current => .ofExcept (change current)) =
      .ofExcept ((change (document.read name)).bind (Slice.prepare name)) := by
  unfold edit
  cases changed : change (document.read name) <;> simp [changed, Outcome.ofExcept, Except.bind]

/-- A call is rejected if the document can be fetched and the change, or the check of what it settles
on, refuses. -/
lemma Store.attempt_edit_eq_rejected_iff {σ : Type} {store : Store σ} {state : σ} {name : SliceName}
    {change : name.Value → Outcome name.Value} {objections : List Objection} :
    (store.attempt (.edit name change) state).1 = .error (.rejected objections) ↔
      ∃ document next, store.fetch state = (.ok document, next) ∧
        document.edit name change = .refused objections := by
  unfold attempt
  split
  · rename_i fetch
    simp [fetch]
  · rename_i document next fetch
    cases edit : document.edit name change with
    | settled value =>
      cases replace : store.replace (document.write name value) next with
      | mk result last => cases result <;> simp [fetch, edit, replace]
    | refused objections' => simp [fetch, edit]
    | crashed reason => simp [fetch, edit, EditError.ofCrash]

/-- The lenient and the strict reading of romaji rules agree, and so do those of dictionary entries.
A patch of a slice is therefore rejected, whatever the document holds, exactly if it is refused for
what was handed in: for a sequence if that is no array, or else for the items that are no rows, or
else by the check of the rows; for a record if it is no object. -/
theorem Slice.readings_agree :
    RomajiTable.form.Agrees (fun items => RomajiTable.normalize (some (.array items)))
      (fun items => RomajiTable.ofInput (.array items)) ∧
    UserDictionary.form.Agrees (fun items => UserDictionary.normalize (some (.array items)))
      (fun items => UserDictionary.ofInput (.array items)) ∧
    ∀ {σ : Type} (store : Store σ) (state : σ) (name : SliceName) (raw : Json)
      (objections : List Objection),
      (store.attempt (.patch name raw) state).1 = .error (.rejected objections) ↔
        (∃ document next, store.fetch state = (.ok document, next)) ∧
          Refuses name raw objections := by
  refine ⟨RomajiTable.form.agrees, UserDictionary.form.agrees, ?_⟩
  intro σ store state name raw objections
  -- Whether a patch is refused does not depend on the document.
  have refused : ∀ document : Document,
      document.edit name (fun current => .ofExcept (Slice.patch name current raw)) =
        .refused objections ↔ Refuses name raw objections := by
    intro document
    rw [document.edit_ofExcept, ← patch_bind_prepare_eq_error_iff]
    cases (Slice.patch name (document.read name) raw).bind (prepare name) <;>
      simp [Outcome.ofExcept]
  rw [Call.patch, Store.attempt_edit_eq_rejected_iff]
  constructor
  · rintro ⟨document, next, fetch, edit⟩
    exact ⟨⟨document, next, fetch⟩, (refused document).1 edit⟩
  · rintro ⟨⟨document, next, fetch⟩, refuses⟩
    exact ⟨document, next, fetch, (refused document).2 refuses⟩

end KanaSettings
